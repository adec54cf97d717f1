import ArioProof.Python.TraceSoundness

/-! The position an event claims in its checkpoint. The walk is told a tree
size by the event itself; the size in the committed record is not consulted,
and positions are pinned exactly where the two agree. -/
namespace ArioProof.Python

open Foundation MerkleTree

variable (R : Runtime)

/-- An event of a body with its row, and the entry and row of the checkpoint
its inclusion proof names. -/
structure EventAt (b : Json) (result : EvidenceBundleResult) (ev : Json) (row : EventResult)
    (cp : Json) (cpRow : CheckpointResult) : Prop where
  event : ∃ i : Nat, ((b.get "body").listAt "events")[i]? = some ev ∧ result.events[i]? = some row
  checkpoint : ∃ (j : Nat) (txId : Str), (ev.get "inclusion").get "checkpoint_tx_id" = .str txId ∧
    ((b.get "body").listAt "checkpoints").findIdx? (hasTxId txId) = some j ∧
    ((b.get "body").listAt "checkpoints")[j]? = some cp ∧ result.checkpoints[j]? = some cpRow

/-- The committed record of a checkpoint carries an integer leaf count. -/
def CommitsTo (cp : Json) (count : Int) : Prop :=
  ∃ bytes, (decodeRecord R "checkpoint" cp).1 = some bytes ∧
    committedField R "leaf_count" bytes = .ok (.int count)

/-- The event claims the committed tree size and an index at which every list
of that many leaves under the committed root has the envelope. -/
structure PositionCommitted (ev cp : Json) (count : Int) : Prop where
  count_eq : (ev.get "inclusion").get "leaf_count" = .int count
  index : ∃ index : Nat, (ev.get "inclusion").get "leaf_index" = .int index ∧
    ∃ canonical root rootBytes, canonicalJson R (ev.get "envelope") = .ok canonical ∧
      CheckpointSound R cp root ∧ hexToBytes R (.str root) = .ok rootBytes ∧
      ∀ data : List Bytes, (data.length : Int) = count →
        merkleRoot R (data.map (leafHash R)) = rootBytes → data[index]? = some canonical ∨
          R.crypto.sha256.CollisionIn
            (rootMessages R data canonical (proofSteps R (ev.get "inclusion")))

variable {R}

/-- The row of an event in a run, and the checkpoint it was checked against. -/
theorem EventAt.spec {b : Json} {options : Options} {result : EvidenceBundleResult}
    {checkpoints events : List Json} (run : TraceRun (kernel R) b options result checkpoints events)
    {ev cp : Json} {row : EventResult} {cpRow : CheckpointResult}
    (h : EventAt b result ev row cp cpRow) :
    ev ∈ events ∧ row = eventRow (kernel R) (firstEntries checkpoints) options.content ev ∧
      resolveCheckpoint (firstEntries checkpoints) (ev.get "inclusion") = some cp ∧
      RowOf (kernel R) cp cpRow := by
  have hEvents : (b.get "body").listAt "events" = events := by
    simp [Json.listAt, run.events_eq, Json.arr?]
  have hCheckpoints : (b.get "body").listAt "checkpoints" = checkpoints := by
    simp [Json.listAt, run.checkpoints_eq, Json.arr?]
  obtain ⟨i, hEv, hRow⟩ := h.event
  obtain ⟨j, txId, hTx, hFind, hCp, hCpRow⟩ := h.checkpoint
  rw [hEvents] at hEv
  rw [hCheckpoints] at hFind hCp
  rw [run.eventRows, List.getElem?_map, hEv, Option.map_some, Option.some.injEq] at hRow
  refine ⟨List.mem_of_getElem? hEv, hRow.symm, ?_, ?_⟩
  · unfold resolveCheckpoint
    rw [hTx]
    simp only
    rw [lookup_firstEntries, List.find?_eq_bind_findIdx?_getElem?, hFind]
    exact hCp
  · obtain ⟨hLen, hGet⟩ := List.forall₂_iff_get.mp run.rowsOf
    obtain ⟨hj, rfl⟩ := List.getElem?_eq_some_iff.mp hCp
    obtain ⟨hj', rfl⟩ := List.getElem?_eq_some_iff.mp hCpRow
    exact hGet j hj hj'

/-- An included event under an ok checkpoint row that commits to a leaf count
has its position committed exactly when it repeats that count, next to an
integer index. -/
theorem positionCommitted_iff (hJcs : R.JcsCompositional) (b : Json) (options : Options)
    (result : EvidenceBundleResult) (h : verifyEvidenceBundle R b options = .ok result)
    (hType : result.bodyType = some (utf16 anchorTraceBodyType)) (ev cp : Json)
    (row : EventResult) (cpRow : CheckpointResult) (hAt : EventAt b result ev row cp cpRow)
    (hInclusion : row.inclusionOk = true) (hOk : cpRow.ok = true) (count : Int)
    (hCount : CommitsTo R cp count) :
    PositionCommitted R ev cp count ↔ (ev.get "inclusion").get "leaf_count" = .int count ∧
      ∃ index, (ev.get "inclusion").get "leaf_index" = .int index := by
  constructor
  · intro hPosition
    obtain ⟨index, hIndex, -⟩ := hPosition.index
    exact ⟨hPosition.count_eq, index, hIndex⟩
  · rintro ⟨hClaimed, index, hIndex⟩
    have hRows : result.events ≠ [] := by
      obtain ⟨i, -, hRow⟩ := hAt.event
      rintro hNil
      simp [hNil] at hRow
    obtain ⟨hb, checkpoints, events, run⟩ := traceRun_of_row h hType hRows
    obtain ⟨hEv, rfl, hResolved, hRowOf⟩ := hAt.spec run
    obtain ⟨root, hSound⟩ := checkpointSound_of_row hRowOf hOk
    obtain ⟨canonical, hCanonical⟩ : Canonicalizes R (ev.get "envelope") := by
      have hEvents := (canonicalizes_body hb).get hJcs run.events_eq (by simp)
      exact (hEvents.mem hJcs hEv).getD hJcs "envelope"
    have hChecked : (checkInclusion R ev (ev.get "inclusion") cp).1 = true := by
      simp only [eventRow, hResolved] at hInclusion
      exact hInclusion
    obtain ⟨path, rootBytes, hPath, hRoot, hWalk⟩ := walk_of_checkInclusion hCanonical hChecked
    rw [hClaimed, hIndex] at hWalk
    have hInt : verifyInclusion R (leafHash R canonical) index count path rootBytes = true := by
      rcases verifyInclusionRaw_iff.mp hWalk with ⟨i, n, hi, hn, hOk⟩ | ⟨hOnly, -⟩
      · cases hi
        cases hn
        exact hOk
      · simpa [integer?] using hOnly.foreign
    have hRange := (verifyInclusion_iff R _ _ _ _ _).mp hInt
    refine ⟨hClaimed, index.toNat, by rw [hIndex, Int.toNat_of_nonneg hRange.1], canonical, root,
      rootBytes, hCanonical, hSound, by rw [← hSound.claimed]; exact hRoot, ?_⟩
    rintro data rfl hData
    have hSteps : proofSteps R (ev.get "inclusion") =
        (Rfc9162.counterSides index.toNat ((data.length : Int) - 1).toNat).zip path := by
      unfold proofSteps
      rw [hClaimed, hIndex, hPath]
      rfl
    rw [hSteps]
    exact getElem?_of_verifyInclusion hInt hData

section Sample

open Reference

instance (cp : Json) (count : Int) : Decidable (CommitsTo R cp count) :=
  decidable_of_iff (((decodeRecord R "checkpoint" cp).1.any fun bytes =>
      match committedField R "leaf_count" bytes with
      | .ok (.int n) => n = count
      | _ => false) = true) (by
    unfold CommitsTo
    cases (decodeRecord R "checkpoint" cp).1 with
    | none => simp
    | some bytes =>
        simp only [Option.any_some, Option.some.injEq, exists_eq_left']
        split <;> simp_all)

/-- The one event and the one checkpoint of a trace. -/
theorem eventAt_trace {ev : Json} {bodyHash : Nat} {signed : Nat × Nat}
    {result : EvidenceBundleResult} {row : EventResult} {cpRow : CheckpointResult}
    (hTxId : (ev.get "inclusion").get "checkpoint_tx_id" = .str (utf16 "tx1"))
    (hEvents : result.events = [row]) (hCheckpoints : result.checkpoints = [cpRow]) :
    EventAt (trace [sampleCheckpoint] [ev] bodyHash signed) result ev row sampleCheckpoint cpRow := by
  have hOwn : hasTxId "tx1" sampleCheckpoint = true := by
    simp [sampleCheckpoint, checkpoint, hasTxId, Json.get, Json.str?]
  obtain ⟨hCps, hEvs⟩ := listAt_trace [sampleCheckpoint] [ev] bodyHash signed
  refine ⟨⟨0, by rw [hEvs]; rfl, by rw [hEvents]; rfl⟩, 0, utf16 "tx1", hTxId, ?_⟩
  rw [hCps, hCheckpoints]
  exact ⟨by simp [hOwn], rfl, rfl⟩

theorem checkpoint_tx_id_sampleEvent (index count : Nat) :
    ((sampleEvent index count).get "inclusion").get "checkpoint_tx_id" = .str (utf16 "tx1") := by
  simp [sampleEvent, event, inclusion, Json.get, List.lookup_cons]

theorem positionCommitted_sample :
    PositionCommitted sampleRuntime (sampleEvent 1 2) sampleCheckpoint 2 ↔
      ((sampleEvent 1 2).get "inclusion").get "leaf_count" = .int 2 ∧
        ∃ index, ((sampleEvent 1 2).get "inclusion").get "leaf_index" = .int index := by
  obtain ⟨result, hRun, -, hType, hOk, hIncluded⟩ := sampleTrace_run
  obtain ⟨cpRow, hCheckpoints, hOk⟩ := List.map_eq_singleton_iff.mp hOk
  obtain ⟨row, hEvents, hIncluded⟩ := List.map_eq_singleton_iff.mp hIncluded
  exact positionCommitted_iff jcsCompositional sampleTrace .offline result hRun hType _ _ row cpRow
    (eventAt_trace (checkpoint_tx_id_sampleEvent 1 2) hEvents hCheckpoints) hIncluded hOk 2
    (by decide +kernel)

def movedTraceSigned : Nat × Nat :=
  (0xbca7babfbe6d23c68ffe51c97006678793061e00dbd103c586d719dcdd21d2f6,
    0x58963978305a58097805934fce1cd33c780d2021d35edc57943e83776c7b4fddc755a910f53f9091d504108ff64e984febfe327cffee235aa150e360691def0b)

/-- The same leaf, presented as the third of three with the same audit path. -/
def movedTrace : Json :=
  trace [sampleCheckpoint] [sampleEvent 2 3]
    0xcfb7ed3607230fd1cd5964d060da39b1776fb26ebc788bcc3daba6905ee7e9f8 movedTraceSigned

abbrev movedRuntime : Runtime :=
  python (signedWith [sampleEventSigned, sampleCheckpointSigned, movedTraceSigned])

/-- The walk accepts a position that the checkpoint has not committed to. -/
theorem movedTrace_position : ∃ result row cpRow,
    verifyEvidenceBundle movedRuntime movedTrace .offline = .ok result ∧
      result.status = .verified ∧ result.bodyType = some (utf16 anchorTraceBodyType) ∧
      EventAt movedTrace result (sampleEvent 2 3) row sampleCheckpoint cpRow ∧
      row.inclusionOk = true ∧ cpRow.ok = true ∧ CommitsTo movedRuntime sampleCheckpoint 2 ∧
      ¬PositionCommitted movedRuntime (sampleEvent 2 3) sampleCheckpoint 2 := by
  obtain ⟨result, hRun, h⟩ := exists_of_returns (show returns
    (verifyEvidenceBundle movedRuntime movedTrace .offline) (fun result =>
      result.status = .verified ∧ result.bodyType = some (utf16 anchorTraceBodyType) ∧
        result.checkpoints.map (·.ok) = [true] ∧ result.events.map (·.inclusionOk) = [true]) = true
    by decide +kernel)
  obtain ⟨hStatus, hType, hOk, hIncluded⟩ := of_decide_eq_true h
  obtain ⟨cpRow, hCheckpoints, hOk⟩ := List.map_eq_singleton_iff.mp hOk
  obtain ⟨row, hEvents, hIncluded⟩ := List.map_eq_singleton_iff.mp hIncluded
  refine ⟨result, row, cpRow, hRun, hStatus, hType,
    eventAt_trace (checkpoint_tx_id_sampleEvent 2 3) hEvents hCheckpoints, hIncluded, hOk,
    by decide +kernel, fun hPosition => ?_⟩
  have hClaimed : ((sampleEvent 2 3).get "inclusion").get "leaf_count" = .int 3 := by
    simp [sampleEvent, event, inclusion, Json.get, List.lookup_cons]
  have hCommitted := hPosition.count_eq
  rw [hClaimed] at hCommitted
  cases hCommitted

end Sample
end ArioProof.Python
