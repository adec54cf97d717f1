import ArioProof.Evidence.ExportRun
import ArioProof.Python.AttestationRun
import ArioProof.Python.Jcs

/-! What the runs of the shared algorithm say about this kernel. -/
namespace ArioProof.Python

open Foundation

variable {R : Runtime}

/-- `verify_evidence_bundle` as the source writes it, calling itself. -/
theorem verifyEvidenceBundle_eq (b : Json) (options : Options) :
    verifyEvidenceBundle R b options =
      verifyBundle (kernel R) options (fun inline => verifyEvidenceBundle R inline options) b :=
  ArioProof.verifyEvidenceBundle_eq (kernel R) b options

@[simp] theorem kernel_canonical_eq_ok {v : Json} {bytes : Bytes} :
    (kernel R).canonical v = .ok bytes ↔ canonicalJson R v = .ok bytes := by
  change (canonicalJson R v).mapError Exc.text = .ok bytes ↔ _
  cases canonicalJson R v <;> simp [Except.mapError]

variable {b : Json} {options : Options} {result : EvidenceBundleResult}
  {checkpoints events : List Json}

theorem envelopeOk_of_rowOf {cp : Json} {row : CheckpointResult} (h : RowOf (kernel R) cp row) :
    row.envelopeOk = ((checkpointEnvelope R cp).ok &&
      (checkpointEnvelope R cp).payloadHashOk = some true) := h.envelopeOk

theorem merkleRootOk_of_rowOf {cp : Json} {row : CheckpointResult} (h : RowOf (kernel R) cp row) :
    row.merkleRootOk = (checkMerkleRoot R cp (decodeRecord R "checkpoint" cp).1).1 :=
  h.merkleRootOk

/-- The body under a wrapper that holds has canonical bytes. -/
theorem canonicalizes_body (hb : Wrapped (kernel R) b) : Canonicalizes R (b.get "body") := by
  obtain ⟨canonical, hCanonical⟩ := hb.canonicalizes_body
  exact ⟨canonical, kernel_canonical_eq_ok.mp hCanonical⟩

section Offline

variable {C : Crypto} {committed : List Str} {inBody : Option Bytes}

/-- Content without a side input fails only where hashes are committed to and
its own is not among them. -/
theorem bindContent_ne_false_iff : (bindContent C committed inBody none).1 ≠ some false ↔
    ∀ content, inBody = some content → committed = [] ∨ C.sha256Hex content ∈ committed := by
  cases inBody with
  | none => simp [bindContent]
  | some content =>
      by_cases hEmpty : committed = []
      · simp [bindContent, hEmpty]
      · have hSome : committed.isEmpty = false := by simpa using hEmpty
        have hMem : committed.contains (C.sha256Hex content) = true ↔
            C.sha256Hex content ∈ committed := List.contains_iff_mem
        simp only [bindContent, Option.or_none, hSome, Option.some.injEq, forall_eq', hEmpty,
          false_or, ← hMem]
        cases committed.contains (C.sha256Hex content) <;> simp

/-- The content of an event is bound by the hashes its record and envelope
commit to. -/
def ContentBinds (R : Runtime) (ev : Json) (recordBytes : Option Bytes) : Prop :=
  ∀ content, (inBodyContent R ev).1 = some content →
    committedHashes R ev recordBytes = [] ∨ sha256Hex R content ∈ committedHashes R ev recordBytes

/-- What makes the row of an event hold in a run without side inputs. -/
theorem eventRow_ok_iff {byTxId : List (Str × Json)} {ev : Json} :
    (eventRow (kernel R) byTxId (fun _ => none) ev).ok = true ↔ (eventEnvelope R ev).ok = true ∧
      (∃ cp, resolveCheckpoint byTxId (ev.get "inclusion") = some cp ∧
        (checkInclusion R ev (ev.get "inclusion") cp).1 = true) ∧
      ContentBinds R ev (decodeRecord R "event" ev).1 := by
  have hContent : ContentBinds R ev (decodeRecord R "event" ev).1 ↔
      (bindContent R.crypto (committedHashes R ev (decodeRecord R "event" ev).1)
        (inBodyContent R ev).1 none).1 ≠ some false := bindContent_ne_false_iff.symm
  rw [hContent]
  change ((eventEnvelope R ev).ok && _ && _ && _) = true ↔ _
  cases hResolved : resolveCheckpoint byTxId (ev.get "inclusion") with
  | none => simp
  | some cp =>
      simp only [Bool.and_eq_true, bne_iff_ne, Option.isSome_some, and_true, Option.some.injEq,
        exists_eq_left']
      rw [and_assoc]
      rfl

end Offline

end ArioProof.Python
