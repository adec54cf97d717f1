import ArioProof.Python.TracePosition

/-! One place in a checkpoint has room for one event. Whoever presents two
events there, in one bundle or in two, has found a collision, and no tree needs
to be known for that. -/
namespace ArioProof.Python

open Foundation MerkleTree

variable (R : Runtime)

/-- What is hashed for the place of an event: its envelope, and the digests on
the way to the root. -/
def placeMessages (ev : Json) : List Bytes :=
  match canonicalJson R (ev.get "envelope") with
  | .ok canonical =>
      leafMessage canonical ::
        climbMessages R.crypto.sha256 (leafHash R canonical) (proofSteps R (ev.get "inclusion"))
  | .error _ => []

/-- The committed record of a checkpoint, which is hashed for the `payload_hash`
of its envelope. -/
def recordMessages (cp : Json) : List Bytes := (decodeRecord R "checkpoint" cp).1.toList

/-- Two inclusions claim one place: as integers, their indices are the same, and
so are their tree sizes. -/
structure SamePlace (incl incl' : Json) : Prop where
  index : ∃ index, integer? (incl.get "leaf_index") = some index ∧
    integer? (incl'.get "leaf_index") = some index
  count : ∃ count, integer? (incl.get "leaf_count") = some count ∧
    integer? (incl'.get "leaf_count") = some count

/-- An event whose place is a climb from its envelope to the committed root. -/
structure Placed (ev cp : Json) (canonical : Bytes) (path : List Bytes) (root : Str)
    (rootBytes : Bytes) : Prop where
  canonical_eq : canonicalJson R (ev.get "envelope") = .ok canonical
  path_eq : inclusionPath R (ev.get "inclusion") = .ok path
  sound : CheckpointSound R cp root
  root_eq : hexToBytes R (.str root) = .ok rootBytes
  walk : verifyInclusionRaw R (leafHash R canonical) ((ev.get "inclusion").get "leaf_index")
    ((ev.get "inclusion").get "leaf_count") path rootBytes = .ok true

variable {R}

/-- An included event under an ok checkpoint row is placed. -/
theorem placed_of_eventAt (hJcs : R.JcsCompositional) {b : Json} {options : Options}
    {result : EvidenceBundleResult} (h : verifyEvidenceBundle R b options = .ok result)
    (hType : result.bodyType = some (utf16 anchorTraceBodyType)) {ev cp : Json}
    {row : EventResult} {cpRow : CheckpointResult} (hAt : EventAt b result ev row cp cpRow)
    (hInclusion : row.inclusionOk = true) (hOk : cpRow.ok = true) :
    ∃ canonical path root rootBytes, Placed R ev cp canonical path root rootBytes := by
  have hRows : result.events ≠ [] := by
    obtain ⟨i, -, hRow⟩ := hAt.event
    rintro hNil
    simp [hNil] at hRow
  obtain ⟨hb, checkpoints, events, run⟩ := traceRun_of_row h hType hRows
  obtain ⟨hEv, rfl, hResolved, hRowOf⟩ := hAt.spec run
  obtain ⟨root, hSound⟩ := checkpointSound_of_row hRowOf hOk
  obtain ⟨canonical, hCanonical⟩ : Canonicalizes R (ev.get "envelope") := by
    have hEvents := (canonicalizes_body hb).get hJcs run.events_eq (by simp)
    exact (hEvents.mem hJcs hEv).getD hJcs "envelope"
  have hChecked : (checkInclusion R ev (ev.get "inclusion") cp).1 = true := by
    simp only [eventRow, hResolved] at hInclusion
    exact hInclusion
  obtain ⟨path, rootBytes, hPath, hRoot, hWalk⟩ := walk_of_checkInclusion hCanonical hChecked
  exact ⟨canonical, path, root, rootBytes, hCanonical, hPath, hSound,
    by rw [← hSound.claimed]; exact hRoot, hWalk⟩

/-- Records under one hash are one record, which commits to one root. -/
theorem root_eq_of_payloadHash {cp cp' : Json} {root root' : Str} (h : CheckpointSound R cp root)
    (h' : CheckpointSound R cp' root')
    (hSame : (cp.get "envelope").get "payload_hash" = (cp'.get "envelope").get "payload_hash") :
    root = root' ∨ R.crypto.sha256.CollisionIn (recordMessages R cp ++ recordMessages R cp') := by
  obtain ⟨bytes, hBytes, hHash, hRoot⟩ := h.record
  obtain ⟨bytes', hBytes', hHash', hRoot'⟩ := h'.record
  have hDigest : R.crypto.sha256.digest bytes = R.crypto.sha256.digest bytes' := by
    rw [hHash, hHash', Json.str.injEq] at hSame
    exact Hex.encode_inj hSame
  have hMem : bytes ∈ recordMessages R cp := by simp [recordMessages, hBytes]
  have hMem' : bytes' ∈ recordMessages R cp' := by simp [recordMessages, hBytes']
  rcases HashFunction.eq_or_collisionIn (recordMessages R cp ++ recordMessages R cp')
      (List.mem_append_left _ hMem) (List.mem_append_right _ hMem') hDigest with rfl | hc
  · rw [hRoot, Except.ok.injEq, Json.str.injEq] at hRoot'
    exact Or.inl hRoot'
  · exact Or.inr hc

/-- A climb of a placed event goes along the sides that its integers ask for. -/
theorem Placed.climb {ev cp : Json} {canonical : Bytes} {path : List Bytes} {root : Str}
    {rootBytes : Bytes} (h : Placed R ev cp canonical path root rootBytes) {index count : Int}
    (hIndex : integer? ((ev.get "inclusion").get "leaf_index") = some index)
    (hCount : integer? ((ev.get "inclusion").get "leaf_count") = some count) :
    path.length = (Rfc9162.counterSides index.toNat (count - 1).toNat).length ∧
      climb R.crypto.sha256 (leafHash R canonical)
        ((Rfc9162.counterSides index.toNat (count - 1).toNat).zip path) = rootBytes ∧
      placeMessages R ev = leafMessage canonical :: climbMessages R.crypto.sha256
        (leafHash R canonical) ((Rfc9162.counterSides index.toNat (count - 1).toNat).zip path) := by
  have hInt : verifyInclusion R (leafHash R canonical) index count path rootBytes = true := by
    rcases verifyInclusionRaw_iff.mp h.walk with ⟨i, n, hi, hn, hOk⟩ | ⟨hOnly, -⟩
    · rw [hIndex, Option.some.injEq] at hi
      rw [hCount, Option.some.injEq] at hn
      subst hi hn
      exact hOk
    · simpa [hIndex, hCount] using hOnly.foreign
  obtain ⟨-, -, hLength, hClimb⟩ := (verifyInclusion_iff R _ _ _ _ _).mp hInt
  refine ⟨hLength, hClimb, ?_⟩
  unfold placeMessages proofSteps
  rw [h.canonical_eq, hIndex, hCount, h.path_eq]

/-- Two events of verified places that coincide, under checkpoints that commit
to one record, have one envelope and one audit path, or a collision is at hand.
The bundles may differ in all else, and so may the options. -/
theorem one_event_per_place (hJcs : R.JcsCompositional) (hInj : R.JcsInjective) (b b' : Json)
    (options options' : Options) (result result' : EvidenceBundleResult)
    (h : verifyEvidenceBundle R b options = .ok result)
    (h' : verifyEvidenceBundle R b' options' = .ok result')
    (hType : result.bodyType = some (utf16 anchorTraceBodyType))
    (hType' : result'.bodyType = some (utf16 anchorTraceBodyType)) (ev ev' cp cp' : Json)
    (row row' : EventResult) (cpRow cpRow' : CheckpointResult)
    (hAt : EventAt b result ev row cp cpRow) (hAt' : EventAt b' result' ev' row' cp' cpRow')
    (hInclusion : row.inclusionOk = true) (hInclusion' : row'.inclusionOk = true)
    (hOk : cpRow.ok = true) (hOk' : cpRow'.ok = true)
    (hSame : (cp.get "envelope").get "payload_hash" = (cp'.get "envelope").get "payload_hash")
    (hPlace : SamePlace (ev.get "inclusion") (ev'.get "inclusion")) :
    ((ev.get "envelope").norm = (ev'.get "envelope").norm ∧
      inclusionPath R (ev.get "inclusion") = inclusionPath R (ev'.get "inclusion")) ∨
    R.crypto.sha256.CollisionIn (recordMessages R cp ++ recordMessages R cp' ++
      (placeMessages R ev ++ placeMessages R ev')) := by
  obtain ⟨canonical, path, root, rootBytes, hPlaced⟩ := placed_of_eventAt hJcs h hType hAt hInclusion hOk
  obtain ⟨canonical', path', root', rootBytes', hPlaced'⟩ :=
    placed_of_eventAt hJcs h' hType' hAt' hInclusion' hOk'
  obtain ⟨index, hIndex, hIndex'⟩ := hPlace.index
  obtain ⟨count, hCount, hCount'⟩ := hPlace.count
  obtain ⟨hLength, hClimb, hMessages⟩ := hPlaced.climb hIndex hCount
  obtain ⟨hLength', hClimb', hMessages'⟩ := hPlaced'.climb hIndex' hCount'
  rcases root_eq_of_payloadHash hPlaced.sound hPlaced'.sound hSame with rfl | hc
  · have hRoot := hPlaced.root_eq
    rw [hPlaced'.root_eq, Except.ok.injEq] at hRoot
    rw [hRoot, ← hClimb] at hClimb'
    rw [hMessages, hMessages']
    rcases eq_of_climb_eq_climb R.crypto.sha256 (length_leafHash _ _) (length_leafHash _ _) hLength hLength'
        hClimb'.symm with ⟨hLeaf, rfl⟩ | hc
    · rcases HashFunction.eq_or_collisionIn
          ([leafMessage canonical, leafMessage canonical']) (by simp) (by simp) hLeaf with hMessage | hc
      · rw [leafMessage_inj] at hMessage
        subst hMessage
        exact Or.inl ⟨norm_eq_of_canonicalJson hInj hPlaced.canonical_eq hPlaced'.canonical_eq,
          hPlaced.path_eq.trans hPlaced'.path_eq.symm⟩
      · refine Or.inr (hc.mono ?_)
        intro m hm
        simp only [List.mem_cons, List.not_mem_nil, or_false] at hm
        rcases hm with rfl | rfl <;> simp
    · refine Or.inr (hc.mono ?_)
      intro m hm
      simp only [List.mem_append, List.mem_cons] at hm ⊢
      tauto
  · exact Or.inr (hc.mono (List.subset_append_left _ _))

section Sample

open Reference

/-- The event of the sample with its record withheld, in a bundle of its own. -/
def withheldEvent : Json := (sampleEvent 1 2).restrict fun key => key ≠ utf16 "record_bytes"

def withheldSigned : Nat × Nat :=
  (0x31a35d5faf6d74fa719ee851a266f9af4e9e05d4acddc5529b3acda74abf330a,
    0xf5c8e8173c2fab69ca0095602cfed882206d8581a4363e1e872869fb36b8dcba8ea2a7ea9639b9b3b69940eff55b1bb92082ec109b38cab1fcdd5a055133db08)

def withheldTrace : Json :=
  trace [sampleCheckpoint] [withheldEvent]
    0x7347db468915a368549ca438896353743b9aeb8a47fcadad98518bf7ca97c1b7 withheldSigned

abbrev withheldRuntime : Runtime := python (signedWith [sampleEventSigned, sampleCheckpointSigned,
  sampleTraceSigned, withheldSigned])

/-- Both events are included under a checkpoint that holds. -/
theorem includes_run {b : Json} (h : returns (verifyEvidenceBundle withheldRuntime b .offline)
    (fun result => result.bodyType = some (utf16 anchorTraceBodyType) ∧
      result.checkpoints.map (·.ok) = [true] ∧ result.events.map (·.inclusionOk) = [true]) = true) :
    ∃ result row cpRow, verifyEvidenceBundle withheldRuntime b .offline = .ok result ∧
      result.bodyType = some (utf16 anchorTraceBodyType) ∧ result.checkpoints = [cpRow] ∧
      result.events = [row] ∧ cpRow.ok = true ∧ row.inclusionOk = true := by
  obtain ⟨result, hRun, h⟩ := exists_of_returns h
  obtain ⟨hType, hOk, hIncluded⟩ := of_decide_eq_true h
  obtain ⟨cpRow, hCheckpoints, hOk⟩ := List.map_eq_singleton_iff.mp hOk
  obtain ⟨row, hEvents, hIncluded⟩ := List.map_eq_singleton_iff.mp hIncluded
  exact ⟨result, row, cpRow, hRun, hType, hCheckpoints, hEvents, hOk, hIncluded⟩

theorem one_event_per_place_sample :
    ((sampleEvent 1 2).get "envelope").norm = (withheldEvent.get "envelope").norm ∧
      inclusionPath withheldRuntime ((sampleEvent 1 2).get "inclusion") =
        inclusionPath withheldRuntime (withheldEvent.get "inclusion") ∨
    withheldRuntime.crypto.sha256.CollisionIn
      (recordMessages withheldRuntime sampleCheckpoint ++ recordMessages withheldRuntime sampleCheckpoint ++
        (placeMessages withheldRuntime (sampleEvent 1 2) ++
          placeMessages withheldRuntime withheldEvent)) := by
  obtain ⟨result, row, cpRow, hRun, hType, hCheckpoints, hEvents, hOk, hIncluded⟩ :=
    includes_run (b := sampleTrace) (by decide +kernel)
  obtain ⟨result', row', cpRow', hRun', hType', hCheckpoints', hEvents', hOk', hIncluded'⟩ :=
    includes_run (b := withheldTrace) (by decide +kernel)
  exact one_event_per_place jcsCompositional jcsInjective sampleTrace withheldTrace .offline .offline
    result result' hRun hRun' hType hType' _ _ _ _ row row' cpRow cpRow'
    (eventAt_trace (checkpoint_tx_id_sampleEvent 1 2) hEvents hCheckpoints)
    (eventAt_trace (checkpoint_tx_id_sampleEvent 1 2) hEvents' hCheckpoints') hIncluded hIncluded'
    hOk hOk' rfl ⟨⟨1, rfl, rfl⟩, 2, rfl, rfl⟩

end Sample
end ArioProof.Python
