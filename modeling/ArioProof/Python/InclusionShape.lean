import ArioProof.Python.TraceSoundness

/-! The shape of an inclusion proof that an event gets through with. The walk
is handed the members of the proof as they are, and Python's arithmetic and
iteration accept more than the specified shape. -/
namespace ArioProof.Python

open Foundation MerkleTree

variable (R : Runtime)

/-- Hex text of 32 bytes, as the decoder of the kernel reads it. -/
def IsDigest (v : Json) : Prop := ∃ s bytes, v = .str s ∧ hexToBytes R v = .ok bytes ∧ bytes.length = 32

/-- The shape in which an inclusion proof is specified, for an event of a body. -/
structure InclusionShape (b ev : Json) : Prop where
  leafIndex : ∃ index, (ev.get "inclusion").get "leaf_index" = .int index
  leafCount : ∃ count, (ev.get "inclusion").get "leaf_count" = .int count
  auditPath : ∃ siblings, (ev.get "inclusion").get "audit_path" = .arr siblings ∧
    ∀ sibling ∈ siblings, IsDigest R sibling
  merkleRoot : ∃ txId cp, (ev.get "inclusion").get "checkpoint_tx_id" = .str txId ∧
    ((b.get "body").listAt "checkpoints").find? (hasTxId txId) = some cp ∧
    IsDigest R (cp.get "merkle_root")
  leafHash : ∃ s canonical, (ev.get "inclusion").get "leaf_hash" = .str s ∧
    canonicalJson R (ev.get "envelope") = .ok canonical ∧
    lower R s = Hex.encode (Python.leafHash R canonical)

/-- A number of Python that is no integer of JSON. -/
def isForeignNumber : Json → Bool
  | .bool _ | .float _ => true
  | _ => false

/-- The inputs that Python's arithmetic and iteration let through by chance: a
boolean or a float for a counter, an empty or missing value or an object for
the path, and siblings of another length. -/
structure ForeignFree (incl : Json) : Prop where
  leafIndex : isForeignNumber (incl.get "leaf_index") = false
  leafCount : isForeignNumber (incl.get "leaf_count") = false
  falsyPath : truthy (incl.get "audit_path") = false → incl.get "audit_path" = .arr []
  objectPath : (incl.get "audit_path").isObj = false
  siblings : ∀ siblings, incl.get "audit_path" = .arr siblings → ∀ sibling ∈ siblings,
    ∀ bytes, hexToBytes R sibling = .ok bytes → bytes.length = 32

variable {R}

section Operands

/-- Only hex text decodes; a value of another type is refused before it is looked
into. -/
theorem isStr_of_hexToBytes {v : Json} {bytes : Bytes} (h : hexToBytes R v = .ok bytes) :
    ∃ s, v = .str s := by
  cases v with
  | str s => exact ⟨s, rfl⟩
  | _ => cases h

/-- A walk that accepts has compared both counters. -/
theorem number?_of_verifyInclusionRaw {leaf expectedRoot : Bytes} {leafIndex totalLeaves : Json}
    {path : List Bytes}
    (h : verifyInclusionRaw R leaf leafIndex totalLeaves path expectedRoot = .ok true) :
    (number? leafIndex).isSome ∧ (number? totalLeaves).isSome := by
  unfold verifyInclusionRaw at h
  cases hIndex : number? leafIndex with
  | none => simp [hIndex] at h
  | some index =>
      refine ⟨rfl, ?_⟩
      cases hTotal : number? totalLeaves with
      | none =>
          simp only [hIndex, hTotal] at h
          split_ifs at h
          cases h
      | some total => rfl

theorem exists_int_of_number? {v : Json} (h : (number? v).isSome)
    (hForeign : isForeignNumber v = false) : ∃ n, v = .int n := by
  cases v with
  | int n => exact ⟨n, rfl⟩
  | bool value => cases hForeign
  | float d => cases hForeign
  | _ => simp [number?, integer?] at h

/-- The root of an accepted walk is as wide as its leaf. -/
theorem length_of_verifyInclusionRaw {leaf expectedRoot : Bytes} {leafIndex totalLeaves : Json}
    {path : List Bytes} (hLeaf : leaf.length = 32)
    (h : verifyInclusionRaw R leaf leafIndex totalLeaves path expectedRoot = .ok true) :
    expectedRoot.length = 32 := by
  rcases verifyInclusionRaw_iff.mp h with ⟨index, total, -, -, hInt⟩ | ⟨-, -, rfl⟩
  · obtain ⟨-, -, -, rfl⟩ := (verifyInclusion_iff R _ _ _ _ _).mp hInt
    exact length_climb R.crypto.sha256 hLeaf _
  · exact hLeaf

/-- A character on its own is never hex text of whole bytes. -/
theorem hexToBytes_char {s : Str} (hs : s ≠ []) {path : List Bytes} :
    ((chars s).map Json.str).mapM (hexToBytes R) ≠ .ok path := by
  obtain ⟨c, hMem, hOne⟩ : ∃ c ∈ chars s, len c = 1 := by
    match s with
    | [] => exact (hs rfl).elim
    | [c] => exact ⟨[c], List.mem_singleton_self _, rfl⟩
    | c :: d :: rest =>
        rw [chars]
        split_ifs with hPair
        · refine ⟨[c, d], List.mem_cons_self, ?_⟩
          rw [len, chars, if_pos hPair]
          rfl
        · exact ⟨[c], List.mem_cons_self, rfl⟩
  intro h
  obtain ⟨bytes, -, hBytes⟩ := exists_of_mapM_eq_ok h (List.mem_map_of_mem hMem)
  rw [hexToBytes, hOne, if_pos (by decide)] at hBytes
  cases hBytes

/-- A path that was read is a list, as soon as it is no object and no empty
value but a list. -/
theorem exists_arr_of_inclusionPath {incl : Json} {path : List Bytes}
    (h : inclusionPath R incl = .ok path)
    (hFalsy : truthy (incl.get "audit_path") = false → incl.get "audit_path" = .arr [])
    (hObject : (incl.get "audit_path").isObj = false) : ∃ siblings,
      incl.get "audit_path" = .arr siblings ∧ siblings.mapM (hexToBytes R) = .ok path := by
  unfold inclusionPath at h
  cases hTruthy : truthy (incl.get "audit_path") with
  | false =>
      rw [hTruthy, if_neg Bool.false_ne_true] at h
      exact ⟨[], hFalsy hTruthy, h⟩
  | true =>
      rw [hTruthy, if_pos rfl] at h
      cases hPath : incl.get "audit_path" with
      | arr siblings =>
          rw [hPath] at h
          exact ⟨siblings, rfl, h⟩
      | obj members => rw [hPath] at hObject; cases hObject
      | str s =>
          rw [hPath] at h hTruthy
          refine (hexToBytes_char (s := s) ?_ h).elim
          rintro rfl
          cases hTruthy
      | _ => rw [hPath] at h; cases h

/-- An accepted inclusion names the hash of its envelope. -/
theorem leafText_of_checkInclusion {ev incl cp : Json} {canonical : Bytes}
    (hCanonical : canonicalJson R (ev.get "envelope") = .ok canonical)
    (h : (checkInclusion R ev incl cp).1 = true) : ∃ s, incl.get "leaf_hash" = .str s ∧
      lower R s = Hex.encode (leafHash R canonical) := by
  unfold checkInclusion at h
  cases hWalk : walkInclusion R incl cp with
  | error exc => simp [hWalk] at h
  | ok inclusionOk =>
      simp only [hWalk, hCanonical] at h
      by_cases hDiffers : Hex.encode (leafHash R canonical) ≠
          lower R ((incl.get "leaf_hash").str?.getD [])
      · rw [if_pos hDiffers] at h
        cases h
      rw [if_neg hDiffers] at h
      obtain rfl : inclusionOk = true := h
      obtain ⟨leaf, -, -, hLeaf, -⟩ := walkInclusion_iff.mp hWalk
      obtain ⟨s, hText⟩ := isStr_of_hexToBytes hLeaf
      rw [hText] at hDiffers
      exact ⟨s, hText, (not_not.mp hDiffers).symm⟩

end Operands

/-- An event that is included has a proof of the specified shape exactly when
nothing foreign got through. Its leaf hash and the root it reaches always have
their shape. -/
theorem inclusionShape_iff (hJcs : R.JcsCompositional) (b : Json) (options : Options)
    (result : EvidenceBundleResult) (h : verifyEvidenceBundle R b options = .ok result)
    (hType : result.bodyType = some (utf16 anchorTraceBodyType)) (i : Nat) (ev : Json)
    (row : EventResult) (hEv : ((b.get "body").listAt "events")[i]? = some ev)
    (hRow : result.events[i]? = some row) (hInclusion : row.inclusionOk = true) :
    InclusionShape R b ev ↔ ForeignFree R (ev.get "inclusion") := by
  have hRows : result.events ≠ [] := by
    rintro hNil
    simp [hNil] at hRow
  obtain ⟨hb, checkpoints, events, run⟩ := traceRun_of_row h hType hRows
  have hEvents : (b.get "body").listAt "events" = events := by
    simp [Json.listAt, run.events_eq, Json.arr?]
  have hCheckpoints : (b.get "body").listAt "checkpoints" = checkpoints := by
    simp [Json.listAt, run.checkpoints_eq, Json.arr?]
  rw [hEvents] at hEv
  rw [run.eventRows, List.getElem?_map, hEv, Option.map_some, Option.some.injEq] at hRow
  subst hRow
  obtain ⟨canonical, hCanonical⟩ : Canonicalizes R (ev.get "envelope") := by
    have hList := (canonicalizes_body hb).get hJcs run.events_eq (by simp)
    exact (hList.mem hJcs (List.mem_of_getElem? hEv)).getD hJcs "envelope"
  obtain ⟨cp, hResolved, hChecked⟩ : ∃ cp,
      resolveCheckpoint (firstEntries checkpoints) (ev.get "inclusion") = some cp ∧
        (checkInclusion R ev (ev.get "inclusion") cp).1 = true := by
    cases hResolved : resolveCheckpoint (firstEntries checkpoints) (ev.get "inclusion") with
    | none => simp [eventRow, hResolved] at hInclusion
    | some cp =>
        simp only [eventRow, hResolved] at hInclusion
        exact ⟨cp, rfl, hInclusion⟩
  obtain ⟨path, root, hPath, hRoot, hWalk⟩ := walk_of_checkInclusion hCanonical hChecked
  obtain ⟨s, hText, hLower⟩ := leafText_of_checkInclusion hCanonical hChecked
  obtain ⟨hIndex, hCount⟩ := number?_of_verifyInclusionRaw hWalk
  have hWidth := length_of_verifyInclusionRaw (by simp [leafHash]) hWalk
  constructor
  · intro hShape
    obtain ⟨index, hIntIndex⟩ := hShape.leafIndex
    obtain ⟨count, hIntCount⟩ := hShape.leafCount
    obtain ⟨siblings, hArr, hDigests⟩ := hShape.auditPath
    refine ⟨by rw [hIntIndex]; rfl, by rw [hIntCount]; rfl, ?_, by rw [hArr]; rfl, ?_⟩
    · intro hFalsy
      rw [hArr] at hFalsy ⊢
      cases siblings with
      | nil => rfl
      | cons first rest => cases hFalsy
    · intro other hOther sibling hMem bytes hBytes
      rw [hArr] at hOther
      cases hOther
      obtain ⟨-, decoded, -, hDecoded, hLength⟩ := hDigests sibling hMem
      rw [hBytes] at hDecoded
      cases hDecoded
      exact hLength
  · intro hFree
    obtain ⟨siblings, hArr, hMap⟩ :=
      exists_arr_of_inclusionPath hPath hFree.falsyPath hFree.objectPath
    refine ⟨exists_int_of_number? hIndex hFree.leafIndex,
      exists_int_of_number? hCount hFree.leafCount, ⟨siblings, hArr, fun sibling hMem => ?_⟩, ?_,
      s, canonical, hText, hCanonical, hLower⟩
    · obtain ⟨bytes, -, hBytes⟩ := exists_of_mapM_eq_ok hMap hMem
      obtain ⟨text, rfl⟩ := isStr_of_hexToBytes hBytes
      exact ⟨text, bytes, rfl, hBytes, hFree.siblings siblings hArr _ hMem bytes hBytes⟩
    · unfold resolveCheckpoint at hResolved
      split at hResolved
      · rename_i txId hTxId
        rw [lookup_firstEntries] at hResolved
        obtain ⟨text, hRootText⟩ := isStr_of_hexToBytes hRoot
        exact ⟨txId, cp, hTxId, by rw [hCheckpoints, hResolved], text, root, hRootText, hRoot, hWidth⟩
      · cases hResolved

section Sample

open Reference

theorem inclusionShape_sample : InclusionShape sampleRuntime sampleTrace (sampleEvent 1 2) ↔
    ForeignFree sampleRuntime ((sampleEvent 1 2).get "inclusion") := by
  obtain ⟨result, hRun, -, hType, -, hIncluded⟩ := sampleTrace_run
  obtain ⟨row, hEvents, hIncluded⟩ := List.map_eq_singleton_iff.mp hIncluded
  exact inclusionShape_iff jcsCompositional sampleTrace .offline result hRun hType 0
    (sampleEvent 1 2) row rfl (by rw [hEvents]; rfl) hIncluded

def loneCheckpointSigned : Nat × Nat :=
  (0x4e5006e91834bc377eb2e9ff2a43337b186d02034f3fd2c800556cc72e71bf06,
    0x7a064d7ddcd23994dffadcc1187f3ab1227028918ef86c0c903f6d886af50d493d0b85b0b80fddbb1230b95a89f3a909ef515de6c3854ec75c79e9e30a54de01)

def booleanTraceSigned : Nat × Nat :=
  (0x7b9c04665e3cb0a8ee28201418eb3d011fdc190411a98eadfab7de38575640f0,
    0xa06fdc94b40afbee0253b2e68d39a49db983f98720dc1990c1011391baec9c4994b527879cdb480c911eda8c2b19d99944ca9c8e4c1d51798257080a6571a405)

/-- The only leaf of a tree, with booleans for counters and no path. -/
def booleanEvent : Json :=
  event sampleEnvelope sampleRecord (.object [("checkpoint_tx_id", .str "tx1"),
    ("leaf_index", .bool false), ("leaf_count", .bool true),
    ("leaf_hash", hexText 32 0xc8a3098d9666c62fab49e90eccc43437444e48451734b1d713356118db231b54)])

def booleanTrace : Json :=
  trace [checkpoint "tx1" 0xc8a3098d9666c62fab49e90eccc43437444e48451734b1d713356118db231b54 1
      0x8e8f87567bc5e20f08f6c527b147659865ebf917285fef805fd84bf9e8834848 loneCheckpointSigned]
    [booleanEvent] 0x11a7eff0f26f03c7b883893723e1f0fe304959926a8049ffe3f0df3a6a08e095
    booleanTraceSigned

abbrev booleanRuntime : Runtime :=
  python (signedWith [sampleEventSigned, loneCheckpointSigned, booleanTraceSigned])

theorem booleanTrace_included : ∃ result row,
    verifyEvidenceBundle booleanRuntime booleanTrace .offline = .ok result ∧
      result.bodyType = some (utf16 anchorTraceBodyType) ∧
      ((booleanTrace.get "body").listAt "events")[0]? = some booleanEvent ∧
      result.events[0]? = some row ∧ row.inclusionOk = true ∧
      ¬InclusionShape booleanRuntime booleanTrace booleanEvent := by
  obtain ⟨result, hRun, h⟩ := exists_of_returns (show returns
    (verifyEvidenceBundle booleanRuntime booleanTrace .offline) (fun result =>
      result.bodyType = some (utf16 anchorTraceBodyType) ∧
        result.events.map (·.inclusionOk) = [true]) = true by decide +kernel)
  obtain ⟨hType, hIncluded⟩ := of_decide_eq_true h
  obtain ⟨row, hEvents, hIncluded⟩ := List.map_eq_singleton_iff.mp hIncluded
  refine ⟨result, row, hRun, hType, rfl, by rw [hEvents]; rfl, hIncluded, fun hShape => ?_⟩
  obtain ⟨index, hIndex⟩ := hShape.leafIndex
  have hBool : (booleanEvent.get "inclusion").get "leaf_index" = .bool false := by
    simp [booleanEvent, event, Json.get, List.lookup_cons]
  rw [hBool] at hIndex
  cases hIndex

end Sample
end ArioProof.Python
