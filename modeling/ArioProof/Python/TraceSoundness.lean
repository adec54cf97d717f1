import ArioProof.Foundation.Outcome
import ArioProof.Python.EvidenceRun
import ArioProof.Reference.Bundle

/-! What a verified anchor trace establishes about each of its events: the
signed envelope, the committed payload, the checkpoint it binds to, and its
membership among the leaves of that checkpoint. -/
namespace ArioProof.Python

open Foundation MerkleTree

variable (R : Runtime)

/-- The Ed25519 signature of an envelope over its signed scope. -/
def SignatureHolds (envelope : Json) : Prop :=
  ∃ message, canonicalJson R (envelopeForSignature envelope) = .ok message ∧
    verifySignature R message ((envelope.get? "signature").getD (.str []))
      ((envelope.get? "public_key").getD (.str [])) = true

/-- A checkpoint whose envelope commits to a record that commits to the root. -/
structure CheckpointSound (cp : Json) (root : Str) : Prop where
  signature : SignatureHolds R (cp.get "envelope")
  record : ∃ bytes, (decodeRecord R "checkpoint" cp).1 = some bytes ∧
    (cp.get "envelope").get "payload_hash" = .str (sha256Hex R bytes) ∧
    committedField R "merkle_root" bytes = .ok (.str root)
  claimed : cp.get "merkle_root" = .str root

/-- The sides and siblings an inclusion proof spells. A proof whose counters
are not integers is accepted only without siblings. -/
def proofSteps (incl : Json) : List (Side × Bytes) :=
  match integer? (incl.get "leaf_index"), integer? (incl.get "leaf_count"), inclusionPath R incl with
  | some index, some count, .ok path =>
      (Rfc9162.counterSides index.toNat (count - 1).toNat).zip path
  | _, _, _ => []

variable {R}

section Walk

theorem number?_of_integer? {v : Json} {n : Int} (h : integer? v = some n) :
    number? v = some (.finite n) := by
  cases v with
  | bool b =>
      obtain rfl := Option.some.inj h
      rfl
  | int m =>
      obtain rfl := Option.some.inj h
      rfl
  | _ => cases h

/-- On integers the walk does not depend on how it was called. -/
theorem verifyInclusionRaw_of_integer? {leafIndex totalLeaves : Json} {i n : Int}
    (hi : integer? leafIndex = some i) (hn : integer? totalLeaves = some n) (leaf : Bytes)
    (path : List Bytes) (root : Bytes) :
    verifyInclusionRaw R leaf leafIndex totalLeaves path root =
      .ok (verifyInclusion R leaf i n path root) := by
  unfold verifyInclusionRaw verifyInclusion
  simp only [number?_of_integer? hi, number?_of_integer? hn, hi, hn, Double.lt, Double.le, Double.eq,
    decide_eq_true_eq, Bool.or_eq_true, Double.finite.injEq, ← le_iff_lt_or_eq, Int.cast_lt_zero,
    Int.cast_eq_zero, Int.cast_le]
  split_ifs with hNegative hEmpty hAny hAny hAny hOne <;> first | rfl | omega

/-- Counters that are not both integers and yet pass for the position of the only
leaf of a tree: all that is made with them is comparisons. -/
structure OnlyLeaf (leafIndex totalLeaves : Json) : Prop where
  foreign : integer? leafIndex = none ∨ integer? totalLeaves = none
  index : ∃ index, number? leafIndex = some index ∧ index.lt (.finite 0) = false ∧
    (Double.finite 1).le index = false
  total : number? totalLeaves = some (.finite 1)

theorem verifyInclusionRaw_foreign {leaf expectedRoot : Bytes} {leafIndex totalLeaves : Json}
    {path : List Bytes} (h : integer? leafIndex = none ∨ integer? totalLeaves = none) :
    verifyInclusionRaw R leaf leafIndex totalLeaves path expectedRoot = .ok true ↔
      OnlyLeaf leafIndex totalLeaves ∧ path = [] ∧ leaf = expectedRoot := by
  unfold verifyInclusionRaw
  cases hIndex : number? leafIndex with
  | none =>
      refine iff_of_false (by simp) ?_
      rintro ⟨⟨-, ⟨index, hSome, -⟩, -⟩, -⟩
      rw [hIndex] at hSome
      cases hSome
  | some index =>
      cases hTotal : number? totalLeaves with
      | none =>
          refine iff_of_false (by simp only; split_ifs <;> simp) ?_
          rintro ⟨⟨-, -, hSome⟩, -⟩
          rw [hTotal] at hSome
          cases hSome
      | some total =>
          simp only
          have hOnly : OnlyLeaf leafIndex totalLeaves ↔
              index.lt (.finite 0) = false ∧ total.le index = false ∧ total = .finite 1 := by
            constructor
            · rintro ⟨-, ⟨own, hOwn, hFrom, hTo⟩, hOne⟩
              rw [hIndex, Option.some.injEq] at hOwn
              rw [hTotal, Option.some.injEq] at hOne
              subst hOwn hOne
              exact ⟨hFrom, hTo, rfl⟩
            · rintro ⟨hFrom, hTo, rfl⟩
              exact ⟨h, ⟨index, hIndex, hFrom, hTo⟩, hTotal⟩
          have hOne : total.eq (.finite 1) = true ↔ total = .finite 1 := by
            cases total <;> simp [Double.eq]
          rw [hOnly]
          have onlyLeaf {outcome : Except Exc Bool} (hOutcome : outcome ≠ .ok true) :
              (if total.eq (.finite 1) = true then .ok (path.isEmpty && leaf = expectedRoot)
                else outcome) = Except.ok true ↔
                total = .finite 1 ∧ path = [] ∧ leaf = expectedRoot := by
            split_ifs with hTrue
            · simp [hOne.mp hTrue]
            · exact iff_of_false hOutcome fun hAll => hTrue (hOne.mpr hAll.1)
          by_cases hNegative : index.lt (.finite 0) = true
          · simp [hNegative]
          by_cases hRange : (total.le index || total.eq (.finite 0)) = true
          · rw [if_neg hNegative, if_pos hRange]
            refine iff_of_false (by simp) ?_
            rintro ⟨⟨-, hTo, rfl⟩, -⟩
            simp [hTo, Double.eq] at hRange
          rw [if_neg hNegative, if_neg hRange]
          rw [Bool.or_eq_true, not_or] at hRange
          cases hi : integer? leafIndex with
          | none =>
              refine (onlyLeaf ?_).trans (by simp [hNegative, hRange.1])
              split_ifs <;> simp
          | some i =>
              rw [h.resolve_left (by simp [hi])]
              refine (onlyLeaf ?_).trans (by simp [hNegative, hRange.1])
              split_ifs <;> simp

/-- The two ways through `verify_inclusion`: integers walk, and anything else
passes for the only leaf of its tree. -/
theorem verifyInclusionRaw_iff {leaf expectedRoot : Bytes} {leafIndex totalLeaves : Json}
    {path : List Bytes} :
    verifyInclusionRaw R leaf leafIndex totalLeaves path expectedRoot = .ok true ↔
      (∃ index total, integer? leafIndex = some index ∧ integer? totalLeaves = some total ∧
        verifyInclusion R leaf index total path expectedRoot = true) ∨
      (OnlyLeaf leafIndex totalLeaves ∧ path = [] ∧ leaf = expectedRoot) := by
  cases hi : integer? leafIndex with
  | none =>
      rw [verifyInclusionRaw_foreign (Or.inl hi)]
      simp
  | some i =>
      cases hn : integer? totalLeaves with
      | none =>
          rw [verifyInclusionRaw_foreign (Or.inr hn)]
          simp
      | some n =>
          have hNoLeaf : ¬OnlyLeaf leafIndex totalLeaves := fun hLeaf => by
            simpa [hi, hn] using hLeaf.foreign
          simp [verifyInclusionRaw_of_integer? hi hn, hNoLeaf]

/-- What an accepted walk has decoded and checked. -/
theorem walkInclusion_iff {incl cp : Json} : walkInclusion R incl cp = .ok true ↔
    ∃ leaf path root, hexToBytes R (incl.get "leaf_hash") = .ok leaf ∧
      inclusionPath R incl = .ok path ∧ hexToBytes R (cp.get "merkle_root") = .ok root ∧
      verifyInclusionRaw R leaf (incl.get "leaf_index") (incl.get "leaf_count") path root =
        .ok true := by
  simp only [walkInclusion, bind_eq_ok, exists_and_left]

/-- An accepted walk is a climb from the claimed leaf to the claimed root. -/
theorem climb_of_verifyInclusionRaw {incl : Json} {leaf root : Bytes} {path : List Bytes}
    (hPath : inclusionPath R incl = .ok path)
    (h : verifyInclusionRaw R leaf (incl.get "leaf_index") (incl.get "leaf_count") path root =
      .ok true) : climb R.crypto.sha256 leaf (proofSteps R incl) = root := by
  unfold proofSteps
  rw [hPath]
  rcases verifyInclusionRaw_iff.mp h with ⟨index, total, hIndex, hTotal, hInt⟩ | ⟨hOnly, rfl, rfl⟩
  · rw [hIndex, hTotal]
    exact ((verifyInclusion_iff R _ _ _ _ _).mp hInt).2.2.2
  · rcases hOnly.foreign with hNone | hNone
    · rw [hNone]
      rfl
    · rw [hNone]
      cases integer? (incl.get "leaf_index") <;> rfl

/-- Encoded bytes decode. -/
theorem hexToBytes_encode (bytes : Bytes) : hexToBytes R (.str (Hex.encode bytes)) = .ok bytes := by
  have hLen : len (Hex.encode bytes) = 2 * bytes.length := by
    rw [length_eq_len fun c hc => isHighSurrogate_of_lt ?_, Hex.length_encode]
    have hAscii := Hex.isAscii_encode bytes
    simp only [isAscii, List.all_eq_true, decide_eq_true_eq] at hAscii
    have hBelow := hAscii c hc
    omega
  simp [hexToBytes, hLen, Hex.fromhex_encode]

/-- A hash whose lowercase text is a hex encoding decodes to those bytes. -/
theorem hexToBytes_of_lower {s : Str} {bytes decoded : Bytes} (hLower : lower R s = Hex.encode bytes)
    (h : hexToBytes R (.str s) = .ok decoded) : decoded = bytes := by
  have hDigits : lower R s = s.map Hex.asciiLower := by
    apply R.folding.lower_of_isDigit
    intro u hu
    rw [show R.folding.lower s = lower R s from rfl, hLower] at hu
    exact Hex.isDigit_of_mem_encode hu
  have hDecoded : Hex.fromhex s = some bytes := by
    rw [← Hex.fromhex_map_asciiLower, ← hDigits, hLower, Hex.fromhex_encode]
  simp only [hexToBytes, hDecoded] at h
  split_ifs at h
  simpa using h.symm

/-- An accepted inclusion of an envelope with canonical bytes is an accepted
walk from the hash of those bytes. -/
theorem walk_of_checkInclusion {ev incl cp : Json} {canonical : Bytes}
    (hCanonical : canonicalJson R (ev.get "envelope") = .ok canonical)
    (h : (checkInclusion R ev incl cp).1 = true) :
    ∃ path root, inclusionPath R incl = .ok path ∧
      hexToBytes R (cp.get "merkle_root") = .ok root ∧
      verifyInclusionRaw R (leafHash R canonical) (incl.get "leaf_index") (incl.get "leaf_count")
        path root = .ok true := by
  unfold checkInclusion at h
  cases hWalk : walkInclusion R incl cp with
  | error exc => simp [hWalk] at h
  | ok inclusionOk =>
      simp only [hWalk, hCanonical] at h
      by_cases hLeafHex : Hex.encode (leafHash R canonical) ≠
          lower R ((incl.get "leaf_hash").str?.getD [])
      · rw [if_pos hLeafHex] at h
        cases h
      rw [if_neg hLeafHex] at h
      obtain rfl : inclusionOk = true := h
      obtain ⟨leaf, path, root, hLeaf, hPath, hRoot, hRaw⟩ := walkInclusion_iff.mp hWalk
      refine ⟨path, root, hPath, hRoot, ?_⟩
      simp only [ne_eq, not_not] at hLeafHex
      cases hText : incl.get "leaf_hash" with
      | str s =>
          rw [hText] at hLeaf hLeafHex
          rw [← hexToBytes_of_lower hLeafHex.symm hLeaf]
          exact hRaw
      | _ => rw [hText] at hLeaf; cases hLeaf

end Walk

section Rows

theorem str?_eq_str?_of_isStr {v w : Json} (hStr : v.isStr = true) (h : v.str? = w.str?) :
    ∃ s, v = .str s ∧ w = .str s := by
  cases v with
  | str s => exact ⟨s, rfl, Json.str?_eq_some.mp h.symm⟩
  | _ => simp [Json.isStr] at hStr

/-- A checkpoint row that is ok describes a sound checkpoint. -/
theorem checkpointSound_of_row {cp : Json} {row : CheckpointResult} (hRow : RowOf (kernel R) cp row)
    (h : row.ok = true) : ∃ root, CheckpointSound R cp root := by
  obtain ⟨hEnvelope, hRoot⟩ := hRow.ok h
  rw [envelopeOk_of_rowOf hRow, Bool.and_eq_true, decide_eq_true_eq] at hEnvelope
  rw [merkleRootOk_of_rowOf hRow] at hRoot
  have hSignature := checkSignature_iff.mp
    (verifyEnvelope_signatureOk (verifyEnvelope_ok hEnvelope.1).2)
  have hPayload := verifyEnvelope_payloadHashOk hEnvelope.2
  unfold checkMerkleRoot at hRoot
  cases hRecord : (decodeRecord R "checkpoint" cp).1 with
  | none => simp [hRecord] at hRoot
  | some bytes =>
      cases hField : committedField R "merkle_root" bytes with
      | error text => simp [hRecord, hField] at hRoot
      | ok committedRoot =>
          simp only [hRecord, hField, Bool.and_eq_true, decide_eq_true_eq] at hRoot
          obtain ⟨root, rfl, hClaimed⟩ := str?_eq_str?_of_isStr hRoot.1 hRoot.2
          obtain ⟨storedHash, hStored, -, hBytes⟩ := hPayload.stored
          refine ⟨root, hSignature, ⟨bytes, hRecord, ?_, hField⟩, hClaimed⟩
          rw [hStored, hBytes bytes hRecord]

/-- What an event row that is ok has checked, apart from the membership. -/
structure EventChecks (byTxId : List (Str × Json)) (ev : Json) (row : EventResult) : Prop where
  isObj : (ev.get "envelope").isObj = true
  signature : SignatureHolds R (ev.get "envelope")
  payload : row.payloadBindingOk = some true →
    PayloadBinds R (ev.get "envelope") (decodeRecord R "event" ev).1
  notFalse : row.payloadBindingOk ≠ some false
  bound : ∃ cp, resolveCheckpoint byTxId (ev.get "inclusion") = some cp ∧
    (checkInclusion R ev (ev.get "inclusion") cp).1 = true

theorem verifyEnvelope_ok_payload {envelope : Json} {payloadBytes : Option Bytes}
    {expected : Option Str} {allowLegacy : Bool}
    (h : (verifyEnvelope R envelope payloadBytes expected allowLegacy).ok = true) :
    (verifyEnvelope R envelope payloadBytes expected allowLegacy).payloadHashOk ≠ some false := by
  unfold verifyEnvelope at h ⊢
  split at h
  · simp at h
  · rename_i hObj
    rw [if_neg hObj]
    simp only [Bool.and_eq_true, bne_iff_ne, ne_eq] at h
    exact h.2

theorem eventChecks_of_ok {byTxId : List (Str × Json)} {content : Str → Option SideContent}
    {ev : Json} (h : (eventRow (kernel R) byTxId content ev).ok = true) :
    EventChecks (R := R) byTxId ev (eventRow (kernel R) byTxId content ev) := by
  have hOk : ((eventEnvelope R ev).ok && (eventRow (kernel R) byTxId content ev).inclusionOk &&
      (resolveCheckpoint byTxId (ev.get "inclusion")).isSome &&
      (eventRow (kernel R) byTxId content ev).contentOk != some false) = true := h
  simp only [Bool.and_eq_true] at hOk
  obtain ⟨⟨⟨hEnvelope, hInclusion⟩, hBound⟩, -⟩ := hOk
  have hVerified := verifyEnvelope_ok (R := R) hEnvelope
  refine ⟨hVerified.1, checkSignature_iff.mp (verifyEnvelope_signatureOk hVerified.2),
    verifyEnvelope_payloadHashOk, verifyEnvelope_ok_payload hEnvelope, ?_⟩
  obtain ⟨cp, hCp⟩ := Option.isSome_iff_exists.mp hBound
  refine ⟨cp, hCp, ?_⟩
  simp only [eventRow, hCp] at hInclusion
  exact hInclusion

end Rows

/-- What holds of an event of a verified trace. The root of its checkpoint may
stand for any list of data whatsoever. -/
structure EventSound (R : Runtime) (checkpoints : List Json) (ev : Json) : Prop where
  signature : SignatureHolds R (ev.get "envelope")
  payload : PayloadBinds R (ev.get "envelope") (decodeRecord R "event" ev).1
  checkpoint : ∃ cp ∈ checkpoints, ∃ txId root rootBytes canonical,
    (ev.get "inclusion").get "checkpoint_tx_id" = .str txId ∧ cp.get "tx_id" = .str txId ∧
    CheckpointSound R cp root ∧ hexToBytes R (.str root) = .ok rootBytes ∧
    canonicalJson R (ev.get "envelope") = .ok canonical ∧
    ∀ data : List Bytes, merkleRoot R (data.map (leafHash R)) = rootBytes →
      canonical ∈ data ∨ R.crypto.sha256.CollisionIn
        (rootMessages R data canonical (proofSteps R (ev.get "inclusion")))

/-- The checkpoint an event binds to is an entry of the list under that id. -/
theorem mem_of_resolveCheckpoint {checkpoints : List Json} {incl cp : Json}
    (h : resolveCheckpoint (firstEntries checkpoints) incl = some cp) :
    cp ∈ checkpoints ∧ ∃ txId, incl.get "checkpoint_tx_id" = .str txId ∧
      cp.get "tx_id" = .str txId := by
  unfold resolveCheckpoint at h
  split at h
  · rename_i txId hTx
    rw [lookup_firstEntries] at h
    have hFound := List.find?_some h
    exact ⟨List.mem_of_find?_eq_some h, txId, hTx, by simpa [hasTxId] using hFound⟩
  · simp at h

/-- End-to-end soundness of a verified anchor trace, for every bundle and all
options. Each event is an entry of the list that the root of its checkpoint
commits to, under signatures that hold, unless a collision is among the messages
named. -/
theorem verified_trace_sound (hJcs : R.JcsCompositional) (b : Json) (options : Options)
    (result : EvidenceBundleResult) (h : verifyEvidenceBundle R b options = .ok result)
    (hStatus : result.status = .verified)
    (hType : result.bodyType = some (utf16 anchorTraceBodyType)) :
    ∃ checkpoints events, (b.get "body").get "checkpoints" = .arr checkpoints ∧
      (b.get "body").get "events" = .arr events ∧
      ∀ ev ∈ events, EventSound R checkpoints ev := by
  obtain ⟨hb, checkpoints, events, run⟩ := traceRun_of_verified h hStatus hType
  refine ⟨checkpoints, events, run.checkpoints_eq, run.events_eq, fun ev hEv => ?_⟩
  have hRollup := (rollupStatus_verified_iff _ _ _).mp (run.status.symm.trans hStatus)
  obtain ⟨-, hRows, hEvents, -, hBindings⟩ := hRollup
  have hMem := run.eventRow_mem hEv
  have hChecks := eventChecks_of_ok (hEvents _ hMem)
  have hBinding : (eventRow (kernel R) (firstEntries checkpoints) options.content ev).payloadBindingOk =
      some true := by
    have hNotFalse := hChecks.notFalse
    have hNotNone := hBindings _ hMem
    revert hNotFalse hNotNone
    generalize (eventRow (kernel R) (firstEntries checkpoints) options.content ev).payloadBindingOk = binding
    rcases binding with _ | _ | _ <;> simp
  obtain ⟨cp, hResolved, hInclusion⟩ := hChecks.bound
  obtain ⟨hCp, txId, hTx, hCpTx⟩ := mem_of_resolveCheckpoint hResolved
  obtain ⟨row, hRowMem, hRow⟩ := exists_of_mem_left run.rowsOf hCp
  obtain ⟨root, hSound⟩ := checkpointSound_of_row hRow (hRows row hRowMem)
  obtain ⟨canonical, hCanonical⟩ : Canonicalizes R (ev.get "envelope") := by
    have hEvents' := (canonicalizes_body hb).get hJcs run.events_eq (by simp)
    exact (hEvents'.mem hJcs hEv).get hJcs rfl (Json.ne_null_of_isObj hChecks.isObj)
  obtain ⟨path, rootBytes, hPath, hRoot, hWalk⟩ := walk_of_checkInclusion hCanonical hInclusion
  have hClimb := climb_of_verifyInclusionRaw hPath hWalk
  refine ⟨hChecks.signature, hChecks.payload hBinding, cp, hCp, txId, root, rootBytes, canonical,
    hTx, hCpTx, hSound, ?_, hCanonical, fun data hData => ?_⟩
  · rw [← hSound.claimed]
    exact hRoot
  · exact mem_of_climb_eq_merkleRoot R data canonical _ (hClimb.trans hData.symm)

section Sample

open Reference

def sampleEventSigned : Nat × Nat :=
  (0x7a3ac472b6f666cc17acdd3433d462a6eaea536de7bf657e4846ecc3e6f299b8,
    0x95762fae79adcc88180f1522b56a704075d48d03c04d90d6c04459c104ffec418701d8d1906c69d64023fa95aaa544742e7d9e7b26b1fcf94096f786e9005806)

def sampleCheckpointSigned : Nat × Nat :=
  (0x1ed0bc74846f3f17dceb438aefd49fefe68dd50bd74fa496da1a2c37d14b490f,
    0x84890a22dee03936745239d9c4525b6bc40ffc1333dd27b6a9c7712648852e3e82d4bd571ee6b15175da5d31a21e42f3934697b3c6298a8932ad8fecd2952908)

def sampleTraceSigned : Nat × Nat :=
  (0x2f12ad35837e5f33667ff34c2c7a32bfeb1f6883b4f5fdb91ad676d8079788dd,
    0x17e126132af7687ea78d8149c55990fb668329d589f8660a6d2d477170b4bfb4edaad38bc60fe12fb48f0dc5d16c5f6db7fe79503190e5c93a394ac85b71c60c)

def sampleEnvelope : Json :=
  envelope "e1" 0x7582631562ce63a18c8caf131bfda78b3d19d914b006dea230d989beeb7de32c sampleEventSigned

def sampleRecord : Json :=
  contentRecord 0x55b432a473f25b77044d3149f0dcbf4c003369b3878edd8c066779d974226899

def sampleCheckpoint : Json :=
  checkpoint "tx1" 0xe1d9115ad517e2e984145c7b071022614b784d02174a23b4fb826eaeb323dda6 2
    0x92114adaa40eb01fde5a73003fc0cf38bda5b6d5019b575800cfea1f224df033 sampleCheckpointSigned

/-- The second of two leaves, presented at a position under a tree size. -/
def sampleEvent (index count : Nat) : Json :=
  event sampleEnvelope sampleRecord (inclusion "tx1" index count
    0xc8a3098d9666c62fab49e90eccc43437444e48451734b1d713356118db231b54
    [0x28a3a18f6cd6406b086e9ffda1f9b8a13dbcf44b0f3f32cb9031a11fd053acf9])

def sampleTrace : Json :=
  trace [sampleCheckpoint] [sampleEvent 1 2]
    0x906d724ec328bef613cbacab38d397a22a58745332fdd74cf76c2da81cdfab9a sampleTraceSigned

abbrev sampleRuntime : Runtime :=
  python (signedWith [sampleEventSigned, sampleCheckpointSigned, sampleTraceSigned])

theorem sampleTrace_run : ∃ result,
    verifyEvidenceBundle sampleRuntime sampleTrace .offline = .ok result ∧
      result.status = .verified ∧ result.bodyType = some (utf16 anchorTraceBodyType) ∧
      result.checkpoints.map (·.ok) = [true] ∧ result.events.map (·.inclusionOk) = [true] := by
  obtain ⟨result, hRun, h⟩ := exists_of_returns (show returns
    (verifyEvidenceBundle sampleRuntime sampleTrace .offline) (fun result =>
      result.status = .verified ∧ result.bodyType = some (utf16 anchorTraceBodyType) ∧
        result.checkpoints.map (·.ok) = [true] ∧ result.events.map (·.inclusionOk) = [true]) = true
    by decide +kernel)
  exact ⟨result, hRun, of_decide_eq_true h⟩

theorem verified_trace_sound_sample : ∃ checkpoints events,
    (sampleTrace.get "body").get "checkpoints" = .arr checkpoints ∧
      (sampleTrace.get "body").get "events" = .arr events ∧
      ∀ ev ∈ events, EventSound sampleRuntime checkpoints ev := by
  obtain ⟨result, hRun, hStatus, hType, -⟩ := sampleTrace_run
  exact verified_trace_sound jcsCompositional sampleTrace .offline result hRun hStatus hType

end Sample
end ArioProof.Python
