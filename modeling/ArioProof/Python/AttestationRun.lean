import ArioProof.Data.Verdict
import ArioProof.Python.Attestation
import ArioProof.Reference.Bundle

/-! What an accepted attestation record establishes. The transaction id next to
a record is no part of what the operator signed; the signed commitment to the
content of a checkpoint is what ties the record to it. -/
namespace ArioProof.Python

open Foundation

variable (R : Runtime)

/-- A record that was read, check by check. -/
structure AttestationRun (rec : Json) (checkpoints : List (Str × Json)) (a : AttestationResult) :
    Prop where
  complaint : attestationComplaint (quote R) rec = none
  checkpointTxId : a.checkpointTxId = (rec.get "checkpoint_tx_id").str?.getD []
  operator : a.operator = ((rec.get "payload").get "operator").str?.getD []
  signature : ∃ message, canonicalJson R (rec.get "payload") = .ok message ∧
    verifyRsaPssSha256 R message (rec.get "signature") (rec.get "public_key") = .ok a.signatureOk
  operatorAddressBound : ∃ derived,
    deriveOperatorAddress R ((rec.get "public_key").get "n") = .ok derived ∧
      a.operatorAddressBound = (!a.operator.isEmpty && derived = a.operator)
  dataHashBound : a.dataHashBound = (bindDataHash R (rec.get "payload") a.checkpointTxId
    (checkpoints.lookup a.checkpointTxId)).1
  checkpointResolved : a.checkpointResolved = (checkpoints.lookup a.checkpointTxId).isSome
  ok : a.ok = (a.signatureOk && a.operatorAddressBound && a.dataHashBound && a.checkpointResolved)

/-- The envelope of an entry has the content hash that the operator signed. -/
def SignedFor (rec cp : Json) : Prop :=
  ∃ canonical, canonicalJson R (cp.get "envelope") = .ok canonical ∧
    payloadDataHash R (rec.get "payload") = sha256Hex R canonical

/-- The record under another transaction id, which is a label outside the signed
payload. -/
def relabel (rec : Json) (txId : Str) : Json := rec.set "checkpoint_tx_id" (.str txId)

variable {R}

/-- A record whose payload, signature and key can be read gets a result. -/
theorem verifyAttestation_of_read {rec : Json} {message : Bytes} {signatureOk : Bool}
    {derived : Str} (hComplaint : attestationComplaint (quote R) rec = none)
    (hPayload : canonicalJson R (rec.get "payload") = .ok message)
    (hSignature : verifyRsaPssSha256 R message (rec.get "signature") (rec.get "public_key") =
      .ok signatureOk)
    (hDerived : deriveOperatorAddress R ((rec.get "public_key").get "n") = .ok derived)
    (checkpoints : List (Str × Json)) :
    ∃ a, verifyAttestation R rec checkpoints = .ok (a, none) ∧
      AttestationRun R rec checkpoints a ∧ a.signatureOk = signatureOk := by
  unfold verifyAttestation
  simp only [hComplaint, hPayload, hSignature, hDerived]
  exact ⟨_, rfl, ⟨hComplaint, rfl, rfl, ⟨message, hPayload, hSignature⟩, ⟨derived, hDerived, rfl⟩,
    rfl, rfl, rfl⟩, rfl⟩

/-- A result without a complaint comes from a record that could be read. -/
theorem verifyAttestation_eq_ok {rec : Json} {checkpoints : List (Str × Json)}
    {a : AttestationResult} (h : verifyAttestation R rec checkpoints = .ok (a, none)) :
    AttestationRun R rec checkpoints a := by
  have hRead : ∃ message signatureOk derived, attestationComplaint (quote R) rec = none ∧
      canonicalJson R (rec.get "payload") = .ok message ∧
      verifyRsaPssSha256 R message (rec.get "signature") (rec.get "public_key") =
        .ok signatureOk ∧
      deriveOperatorAddress R ((rec.get "public_key").get "n") = .ok derived := by
    unfold verifyAttestation at h
    cases hComplaint : attestationComplaint (quote R) rec with
    | some complaint => simp [hComplaint] at h
    | none =>
        cases hPayload : canonicalJson R (rec.get "payload") with
        | error exc => simp [hComplaint, hPayload] at h
        | ok message =>
            cases hSignature : verifyRsaPssSha256 R message (rec.get "signature")
                (rec.get "public_key") with
            | error exc =>
                simp only [hComplaint, hPayload, hSignature] at h
                cases exc <;> cases h
            | ok signatureOk =>
                cases hDerived : deriveOperatorAddress R ((rec.get "public_key").get "n") with
                | error exc =>
                    simp only [hComplaint, hPayload, hSignature, hDerived] at h
                    cases exc <;> cases h
                | ok derived => exact ⟨message, signatureOk, derived, rfl, rfl, hSignature, rfl⟩
  obtain ⟨message, signatureOk, derived, hComplaint, hPayload, hSignature, hDerived⟩ := hRead
  obtain ⟨other, hOther, run, -⟩ :=
    verifyAttestation_of_read hComplaint hPayload hSignature hDerived checkpoints
  rw [h] at hOther
  cases hOther
  exact run

/-- A record with a complaint is not ok. -/
theorem complaint_eq_none_of_ok {rec : Json} {checkpoints : List (Str × Json)}
    {a : AttestationResult} {complaint : Option Str}
    (h : verifyAttestation R rec checkpoints = .ok (a, complaint)) (hOk : a.ok = true) :
    complaint = none := by
  cases complaint with
  | none => rfl
  | some text =>
      exfalso
      unfold verifyAttestation at h
      split at h
      · cases h
        simp [emptyAttestation] at hOk
      · simp only at h
        split at h
        · cases h
          simp [labelled, emptyAttestation] at hOk
        · split at h
          · cases h
            simp [labelled, emptyAttestation] at hOk
          · cases h
          · split at h
            · cases h
              simp [labelled, emptyAttestation] at hOk
            · cases h
            · cases h

theorem sha256Hex_ne_nil (bytes : Bytes) : sha256Hex R bytes ≠ [] := by
  intro h
  have hLen : (sha256 R bytes).length = 32 := R.crypto.sha256.length_digest bytes
  cases hDigest : sha256 R bytes with
  | nil => simp [hDigest] at hLen
  | cons byte rest =>
      change Hex.encode (sha256 R bytes) = [] at h
      rw [hDigest, Hex.encode_cons] at h
      simp at h

/-- Step (c) succeeds on the entries whose content the operator signed. -/
theorem bindDataHash_iff (rec : Json) (txId : Str) (found : Option Json) :
    (bindDataHash R (rec.get "payload") txId found).1 = true ↔
      ∃ cp, found = some cp ∧ SignedFor R rec cp := by
  cases found with
  | none => simp [bindDataHash]
  | some cp =>
      unfold bindDataHash SignedFor
      cases hCanonical : canonicalJson R (cp.get "envelope") with
      | error exc => simp [hCanonical]
      | ok canonical =>
          have hNe := sha256Hex_ne_nil (R := R) canonical
          simp only [hCanonical, Bool.and_eq_true, Bool.not_eq_true', List.isEmpty_eq_false_iff,
            decide_eq_true_eq, Option.some.injEq, exists_eq_left', Except.ok.injEq]
          exact ⟨fun h => h.2, fun h => ⟨h ▸ hNe, h⟩⟩

/-- What makes a record that was read ok. -/
theorem AttestationRun.ok_iff {rec : Json} {checkpoints : List (Str × Json)}
    {a : AttestationResult} (run : AttestationRun R rec checkpoints a) :
    a.ok = true ↔ a.signatureOk = true ∧ a.operatorAddressBound = true ∧
      ∃ cp, checkpoints.lookup a.checkpointTxId = some cp ∧ SignedFor R rec cp := by
  rw [run.ok, run.dataHashBound, run.checkpointResolved]
  simp only [Bool.and_eq_true, bindDataHash_iff, Option.isSome_iff_exists]
  constructor
  · rintro ⟨⟨⟨hSignature, hAddress⟩, hBound⟩, -⟩
    exact ⟨hSignature, hAddress, hBound⟩
  · rintro ⟨hSignature, hAddress, cp, hFound, hSigned⟩
    exact ⟨⟨⟨hSignature, hAddress⟩, cp, hFound, hSigned⟩, cp, hFound⟩

section Relabel

theorem isObj_of_complaint {rec : Json} (h : attestationComplaint (quote R) rec = none) :
    rec.isObj = true := by
  cases hObj : rec.isObj with
  | true => rfl
  | false => simp [attestationComplaint, hObj] at h

theorem get?_relabel_of_ne {key : String} (h : key ≠ "checkpoint_tx_id") (rec : Json) (txId : Str) :
    (relabel rec txId).get? key = rec.get? key := Json.get?_set_of_ne h rec (.str txId)

theorem get_relabel_of_ne {key : String} (h : key ≠ "checkpoint_tx_id") (rec : Json) (txId : Str) :
    (relabel rec txId).get key = rec.get key := by
  unfold Json.get
  rw [get?_relabel_of_ne h]

theorem attestationComplaint_relabel {rec : Json} (h : rec.isObj = true) (txId : Str) :
    attestationComplaint (quote R) (relabel rec txId) = attestationComplaint (quote R) rec := by
  have hObj : (relabel rec txId).isObj = rec.isObj := by
    cases rec with
    | obj members => rfl
    | _ => simp [Json.isObj] at h
  unfold attestationComplaint
  simp only [hObj, get?_relabel_of_ne (show "signature_alg" ≠ "checkpoint_tx_id" by decide),
    get_relabel_of_ne (show "payload" ≠ "checkpoint_tx_id" by decide),
    get_relabel_of_ne (show "public_key" ≠ "checkpoint_tx_id" by decide),
    get_relabel_of_ne (show "signature_alg" ≠ "checkpoint_tx_id" by decide),
    get_relabel_of_ne (show "signature" ≠ "checkpoint_tx_id" by decide)]

/-- A record is signed for the same entries under every label. -/
theorem signedFor_relabel (rec cp : Json) (txId : Str) :
    SignedFor R (relabel rec txId) cp ↔ SignedFor R rec cp := by
  unfold SignedFor
  rw [get_relabel_of_ne (by decide)]

end Relabel

/-- An ok attestation vouches for the content its operator signed: the entry it
names has that content hash, and under another label it is ok exactly when that
label names an entry with the same content hash. -/
theorem attestation_vouches_for_content (rec : Json) (checkpoints : List (Str × Json))
    (a : AttestationResult) (complaint : Option Str)
    (h : verifyAttestation R rec checkpoints = .ok (a, complaint)) (hOk : a.ok = true) :
    (∃ cp, checkpoints.lookup a.checkpointTxId = some cp ∧ SignedFor R rec cp) ∧
    (∀ txId, ∃ other, verifyAttestation R (relabel rec txId) checkpoints = .ok (other, none) ∧
      other.checkpointTxId = txId ∧
      (other.ok = true ↔ ∃ cp, checkpoints.lookup txId = some cp ∧ SignedFor R rec cp)) ∧
    ∀ cp cp' canonical canonical', SignedFor R rec cp → SignedFor R rec cp' →
      canonicalJson R (cp.get "envelope") = .ok canonical →
      canonicalJson R (cp'.get "envelope") = .ok canonical' →
        canonical = canonical' ∨ R.crypto.sha256.CollisionIn [canonical, canonical'] := by
  obtain rfl := complaint_eq_none_of_ok h hOk
  have run := verifyAttestation_eq_ok h
  obtain ⟨hSignature, hAddress, hBound⟩ := run.ok_iff.mp hOk
  refine ⟨hBound, fun txId => ?_, ?_⟩
  · obtain ⟨message, hPayload, hVerified⟩ := run.signature
    obtain ⟨derived, hDerived, hAddressBound⟩ := run.operatorAddressBound
    have hObj := isObj_of_complaint run.complaint
    have hComplaint := (attestationComplaint_relabel hObj txId).trans run.complaint
    have hPayload' : canonicalJson R ((relabel rec txId).get "payload") = .ok message := by
      rw [get_relabel_of_ne (by decide)]
      exact hPayload
    have hVerified' : verifyRsaPssSha256 R message ((relabel rec txId).get "signature")
        ((relabel rec txId).get "public_key") = .ok a.signatureOk := by
      rw [get_relabel_of_ne (by decide), get_relabel_of_ne (by decide)]
      exact hVerified
    have hDerived' : deriveOperatorAddress R (((relabel rec txId).get "public_key").get "n") =
        .ok derived := by
      rw [get_relabel_of_ne (by decide)]
      exact hDerived
    obtain ⟨other, hOther, otherRun, hOtherSignature⟩ :=
      verifyAttestation_of_read hComplaint hPayload' hVerified' hDerived' checkpoints
    have hTxId : other.checkpointTxId = txId := by
      have hLabel : (relabel rec txId).get "checkpoint_tx_id" = .str txId :=
        Json.get_of_get? (Json.get?_set hObj _ _)
      rw [otherRun.checkpointTxId, hLabel]
      rfl
    have hOperator : other.operator = a.operator := by
      rw [otherRun.operator, run.operator, get_relabel_of_ne (by decide)]
    have hOtherAddress : other.operatorAddressBound = true := by
      obtain ⟨again, hAgain, hEq⟩ := otherRun.operatorAddressBound
      rw [get_relabel_of_ne (by decide), hDerived] at hAgain
      cases hAgain
      rw [hEq, hOperator, ← hAddressBound]
      exact hAddress
    refine ⟨other, hOther, hTxId, ?_⟩
    rw [otherRun.ok_iff, hOtherSignature, hTxId]
    simp only [hSignature, hOtherAddress, true_and, signedFor_relabel]
  · rintro cp cp' canonical canonical' ⟨first, hFirst, hFirstHash⟩ ⟨second, hSecond, hSecondHash⟩ hc hc'
    rw [hFirst] at hc
    rw [hSecond] at hc'
    cases hc
    cases hc'
    exact HashFunction.eq_or_collisionIn [canonical, canonical'] (by simp) (by simp)
      (Hex.encode_inj (hFirstHash.symm.trans hSecondHash))

section Sample

open Reference

def sampleModulus : Nat :=
  0xbea083febb79ce79bc0439dda435fd5665a78e226a1e869da11c95b0a43944dc7720d7bdbd86cce1231653058200ffe475fa439dbe0e087f435dbf52b2ff319310b73531f0b3c3a7b4f221ae278edc4e9f5ea2f48ac4e35850f677f05e40789aaef41d86abacb3539051b055186db96b9ff6bfd28cee33d13930659e567990e7

def sampleRsaSignature : Nat :=
  0x610a4fa71e12db16e9078de72e571e5de99fa223defc7122b31a535dadf1272e594120dff65bab357c1a947df1b3b11a05e67da7333406349a74580d78acb62614503e6984d4936add6b8dc4635efd377365b14d882a630666f14782f4028098a851133b59687d44c82c8ad7ab698a3d6292c959eccdf8e6205ad45c0695f0fa

/-- A record signed for "tx1" and filed under an id. -/
def sampleAttestation (checkpointTxId : String) : Json :=
  attestation checkpointTxId "tx1"
    0x6a335e8e7a30a3d256042753ad34ec7a3aef76974c3d25175c1f9b173b6d0c40
    0xf764a64762c3c3a3155da11966ed8d9567899414041d4c1c10e4255325042f7d
    sampleModulus sampleRsaSignature

abbrev attestationRuntime : Runtime :=
  python { signedWith [] with rsa := [⟨sampleModulus,
    0xcda7a1e36f56274876c27ffa4b0f67baeee09d1bc9ed010bc762eafb0e6eca2a, sampleRsaSignature⟩] }

/-- One envelope that was anchored twice. -/
def sampleSources : List (Str × Json) :=
  ["tx1", "tx2"].map fun txId => (utf16 txId, .object [("tx_id", .str txId),
    ("envelope", envelope "tx1" 0x92114adaa40eb01fde5a73003fc0cf38bda5b6d5019b575800cfea1f224df033
      (0, 0x84890a22dee03936745239d9c4525b6bc40ffc1333dd27b6a9c7712648852e3e82d4bd571ee6b15175da5d31a21e42f3934697b3c6298a8932ad8fecd2952908))])

theorem sampleAttestation_run : ∃ a,
    verifyAttestation attestationRuntime (sampleAttestation "tx1") sampleSources = .ok (a, none) ∧
      a.ok = true := by
  obtain ⟨⟨a, complaint⟩, hRun, h⟩ := exists_of_returns (show returns
    (verifyAttestation attestationRuntime (sampleAttestation "tx1") sampleSources) (fun entry =>
      entry.1.ok = true ∧ entry.2 = none) = true by decide +kernel)
  obtain ⟨hOk, rfl⟩ := of_decide_eq_true h
  exact ⟨a, hRun, hOk⟩

theorem attestation_vouches_sample : ∃ other,
    verifyAttestation attestationRuntime (relabel (sampleAttestation "tx1") "tx3") sampleSources =
      .ok (other, none) ∧ other.ok = false := by
  obtain ⟨a, hRun, hOk⟩ := sampleAttestation_run
  obtain ⟨-, hRelabel, -⟩ := attestation_vouches_for_content _ _ a none hRun hOk
  obtain ⟨other, hOther, -, hIff⟩ := hRelabel "tx3"
  refine ⟨other, hOther, Bool.eq_false_iff.mpr fun hOk => ?_⟩
  obtain ⟨cp, hFound, -⟩ := hIff.mp hOk
  have hNone : sampleSources.lookup (utf16 "tx3") = none :=
    List.lookup_eq_none_iff.mpr (by simp [sampleSources])
  rw [hNone] at hFound
  cases hFound

/-- A record signed for one transaction is ok under the id of another one with
the same envelope, and so is counted for both. -/
theorem sampleAttestation_relabelled : ∃ a other,
    verifyAttestation attestationRuntime (sampleAttestation "tx1") sampleSources = .ok (a, none) ∧
    verifyAttestation attestationRuntime (relabel (sampleAttestation "tx1") "tx2") sampleSources =
      .ok (other, none) ∧
    a.ok = true ∧ other.ok = true ∧ other.checkpointTxId = utf16 "tx2" ∧
    ((relabel (sampleAttestation "tx1") "tx2").get "payload").get "tx_id" = .str (utf16 "tx1") := by
  obtain ⟨a, hRun, hOk⟩ := sampleAttestation_run
  obtain ⟨⟨other, complaint⟩, hOther, h⟩ := exists_of_returns (show returns
    (verifyAttestation attestationRuntime (relabel (sampleAttestation "tx1") "tx2") sampleSources)
    (fun entry => entry.1.ok = true ∧ entry.2 = none ∧ entry.1.checkpointTxId = utf16 "tx2") = true
    by decide +kernel)
  obtain ⟨hOtherOk, rfl, hTxId⟩ := of_decide_eq_true h
  refine ⟨a, other, hRun, hOther, hOk, hOtherOk, hTxId, ?_⟩
  rw [get_relabel_of_ne (by decide)]
  simp [sampleAttestation, attestation, Json.get, List.lookup_cons]

end Sample
end ArioProof.Python
