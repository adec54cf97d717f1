import ArioProof.Evidence.Scrutiny

/-! Traces by their parts. Where no transaction id is used twice, a row depends
on its own checkpoint and an event on the one checkpoint it names. So entries
may change places, and traces that do not refer to each other may be joined. -/
namespace ArioProof

open Foundation

variable {ε : Type} {K : Kernel ε}

section Entries

variable {checkpoints checkpoints' : List Json} {cp : Json} {txId : Str}

theorem eq_of_hasTxId (hDistinct : (checkpoints.map rowTxId).Nodup) {other : Json}
    (hMem : cp ∈ checkpoints) (hOther : other ∈ checkpoints) (h : rowTxId cp = txId)
    (hSame : hasTxId txId other = true) : other = cp :=
  List.inj_on_of_nodup_map hDistinct hOther hMem ((rowTxId_of_hasTxId hSame).trans h.symm)

/-- An entry whose id is its own is the one found under it. -/
theorem find?_of_distinct (hDistinct : (checkpoints.map rowTxId).Nodup) (hMem : cp ∈ checkpoints)
    (h : hasTxId txId cp = true) : checkpoints.find? (hasTxId txId) = some cp := by
  cases hFound : checkpoints.find? (hasTxId txId) with
  | none =>
      have hNone := List.find?_eq_none.mp hFound cp hMem
      exact (hNone h).elim
  | some other =>
      rw [eq_of_hasTxId hDistinct hMem (List.mem_of_find?_eq_some hFound) (rowTxId_of_hasTxId h)
        (List.find?_some hFound)]

/-- The order of the entries does not show in the map then. -/
theorem find?_perm (hDistinct : (checkpoints.map rowTxId).Nodup)
    (hPerm : checkpoints.Perm checkpoints') (txId : Str) :
    checkpoints'.find? (hasTxId txId) = checkpoints.find? (hasTxId txId) := by
  have hDistinct' : (checkpoints'.map rowTxId).Nodup := (hPerm.map rowTxId).nodup_iff.mp hDistinct
  cases hFound : checkpoints.find? (hasTxId txId) with
  | none =>
      rw [List.find?_eq_none] at hFound ⊢
      exact fun cp hcp => hFound cp (hPerm.mem_iff.mpr hcp)
  | some cp =>
      exact find?_of_distinct hDistinct' (hPerm.mem_iff.mp (List.mem_of_find?_eq_some hFound))
        (List.find?_some hFound)

/-- What an entry finds under the id it shows. -/
theorem lookup_own (hDistinct : (checkpoints.map rowTxId).Nodup) (hMem : cp ∈ checkpoints) :
    (firstEntries checkpoints).lookup (rowTxId cp) = (firstEntries [cp]).lookup (rowTxId cp) := by
  rw [lookup_firstEntries, lookup_firstEntries]
  by_cases hOwn : hasTxId (rowTxId cp) cp = true
  · rw [find?_of_distinct hDistinct hMem hOwn, List.find?_cons_of_pos hOwn]
  · rw [List.find?_cons_of_neg hOwn, List.find?_nil, List.find?_eq_none]
    intro other hOther hSame
    rw [eq_of_hasTxId hDistinct hMem hOther rfl hSame] at hSame
    exact hOwn hSame

theorem txIdErrors_of_free {byTxId : List (Str × Json)}
    (h : ∀ txId, hasTxId txId cp = true → byTxId.lookup txId = none) :
    txIdErrors byTxId cp = txIdErrors [] cp := by
  unfold txIdErrors
  cases hTxId : cp.get "tx_id" with
  | str txId =>
      have hFree := h txId (by simp [hasTxId, hTxId, Json.str?])
      simp [hFree]
  | _ => rfl

/-- The checkpoint loop takes each entry for itself. -/
theorem checkpointRows_of_distinct (byTxId : List (Str × Json))
    (hFree : ∀ cp ∈ checkpoints, ∀ txId, hasTxId txId cp = true → byTxId.lookup txId = none)
    (hDistinct : (checkpoints.map rowTxId).Nodup) :
    checkpointRows K byTxId checkpoints = checkpoints.map (checkpointRow K []) := by
  induction checkpoints generalizing byTxId with
  | nil => rfl
  | cons cp rest ih =>
      rw [List.map_cons, List.nodup_cons] at hDistinct
      rw [checkpointRows, List.map_cons, ih _ ?_ hDistinct.2]
      · rw [checkpointRow, checkpointRow, txIdErrors_of_free (hFree cp List.mem_cons_self)]
      · intro other hOther txId hTxId
        rw [lookup_registerTxId, hFree other (List.mem_cons_of_mem cp hOther) txId hTxId]
        have hApart : ¬hasTxId txId cp = true := by
          intro hSame
          apply hDistinct.1
          rw [rowTxId_of_hasTxId hSame, ← rowTxId_of_hasTxId hTxId]
          exact List.mem_map_of_mem hOther
        simp [hApart]

end Entries

section Rows

variable (K) (gateways : List Str) (fetch : Str → Option Bytes) (content : Str → Option SideContent)

/-- The row of a checkpoint by itself, as it is when no other entry came before
it. -/
def ownRow (cp : Json) : CheckpointResult :=
  if gateways.isEmpty then checkpointRow K [] cp
  else refetched K (firstEntries [cp]) fetch gateways (checkpointRow K [] cp)

variable {K gateways fetch content} {b : Json} {result : EvidenceBundleResult}
  {checkpoints checkpoints' events : List Json}

theorem refetched_congr {byTxId other : List (Str × Json)} {row : CheckpointResult}
    (h : byTxId.lookup row.txId = other.lookup row.txId) :
    refetched K byTxId fetch gateways row = refetched K other fetch gateways row := by
  unfold refetched refetchRow
  rw [h]

theorem TraceRun.rows_own
    (run : TraceRun K b (.online gateways fetch content) result checkpoints events)
    (hDistinct : (checkpoints.map rowTxId).Nodup) :
    result.checkpoints = checkpoints.map (ownRow K gateways fetch) := by
  have hRows := checkpointRows_of_distinct (K := K) [] (by simp) hDistinct
  by_cases hGateways : gateways = []
  · rw [run.rows_offline hGateways, hRows]
    exact List.map_congr_left fun cp _ => by simp [ownRow, hGateways]
  · rw [run.rows_online hGateways, hRows, List.map_map]
    apply List.map_congr_left
    intro cp hcp
    rw [Function.comp_apply, ownRow, if_neg (by simpa using hGateways)]
    exact refetched_congr (lookup_own hDistinct hcp)

/-- What the gateways left open is seen in the rows, also when there are none. -/
theorem TraceRun.status_online
    (run : TraceRun K b (.online gateways fetch content) result checkpoints events) :
    result.status = rollupStatus result.checkpoints result.events
      (result.checkpoints.any isUnavailable) := by
  by_cases hGateways : gateways = []
  · have hRows := run.rows_offline hGateways
    have hNone : result.checkpoints.any isUnavailable = false := by
      rw [List.any_eq_false]
      intro row hRow
      rw [hRows] at hRow
      simp [isUnavailable, (fresh_of_mem_checkpointRows hRow).2]
    rw [run.status, hNone]
    subst hGateways
    rfl
  · exact run.unavailable_online hGateways

theorem eventRow_congr {byTxId other : List (Str × Json)} {ev : Json}
    (h : resolveCheckpoint byTxId (ev.get "inclusion") = resolveCheckpoint other (ev.get "inclusion")) :
    eventRow K byTxId content ev = eventRow K other content ev := by
  simp only [eventRow, h]

/-- An event that names no entry of the rest is bound within its own part. -/
theorem resolveCheckpoint_part (others : List Json) (hDistinct : (checkpoints.map rowTxId).Nodup)
    (hPerm : checkpoints.Perm (checkpoints' ++ others)) {incl : Json}
    (hApart : resolveCheckpoint (firstEntries others) incl = none) :
    resolveCheckpoint (firstEntries checkpoints) incl =
      resolveCheckpoint (firstEntries checkpoints') incl := by
  unfold resolveCheckpoint at hApart ⊢
  cases hTxId : incl.get "checkpoint_tx_id" with
  | str txId =>
      rw [hTxId] at hApart
      simp only [lookup_firstEntries] at hApart ⊢
      rw [← find?_perm hDistinct hPerm, List.find?_append, hApart, Option.or_none]
  | _ => rfl

end Rows

section Rollup

variable {rows rows' others : List CheckpointResult} {eventRows eventRows' otherEvents : List EventResult}

theorem anyHardFailure_iff : anyHardFailure rows eventRows = true ↔
    (∃ row ∈ rows, row.ok = false) ∨ ∃ e ∈ eventRows, e.ok = false := by
  simp [anyHardFailure]

theorem status_eq_of_iff {s t : Status} (hs : s ≠ .malformed) (ht : t ≠ .malformed)
    (hFailed : s = .failed ↔ t = .failed) (hVerified : s = .verified ↔ t = .verified) : s = t := by
  cases s <;> cases t <;> simp_all

/-- The order of rows and events does not show in the rollup. -/
theorem rollupStatus_perm (hRows : rows.Perm rows') (hEvents : eventRows.Perm eventRows') :
    rollupStatus rows eventRows (rows.any isUnavailable) =
      rollupStatus rows' eventRows' (rows'.any isUnavailable) := by
  have hAny : rows.any isUnavailable = rows'.any isUnavailable := hRows.any_eq
  apply status_eq_of_iff (rollupStatus_ne_malformed _ _ _) (rollupStatus_ne_malformed _ _ _)
  · simp only [rollupStatus_failed_iff, anyHardFailure_iff, hRows.mem_iff, hEvents.mem_iff]
  · have hEmpty : rows ≠ [] ↔ rows' ≠ [] := by
      rw [← List.length_pos_iff, ← List.length_pos_iff, hRows.length_eq]
    simp only [rollupStatus_verified_iff, hRows.mem_iff, hEvents.mem_iff, hAny, hEmpty]

/-- The worst finding of either part is that of the whole. -/
theorem rollupStatus_append (hRows : rows ≠ []) (hOthers : others ≠ []) :
    (rollupStatus (rows ++ others) (eventRows ++ otherEvents) ((rows ++ others).any isUnavailable) =
        .failed ↔
      rollupStatus rows eventRows (rows.any isUnavailable) = .failed ∨
        rollupStatus others otherEvents (others.any isUnavailable) = .failed) ∧
    (rollupStatus (rows ++ others) (eventRows ++ otherEvents) ((rows ++ others).any isUnavailable) =
        .verified ↔
      rollupStatus rows eventRows (rows.any isUnavailable) = .verified ∧
        rollupStatus others otherEvents (others.any isUnavailable) = .verified) := by
  constructor
  · simp only [rollupStatus_failed_iff, anyHardFailure, List.any_append, Bool.or_eq_true]
    tauto
  · simp only [rollupStatus_verified_iff, List.any_append, Bool.or_eq_false_iff,
      List.forall_mem_append]
    have hBoth : rows ++ others ≠ [] := by simp [hRows]
    tauto

end Rollup

section Traces

/-- A trace whose wrapper holds, by the lists of its body. -/
structure TraceOf (K : Kernel ε) (b : Json) (checkpoints events : List Json) : Prop where
  wrapped : Wrapped K b
  isTrace : isTrace b = true
  checkpoints_eq : (b.get "body").get "checkpoints" = .arr checkpoints
  events_eq : (b.get "body").get "events" = .arr events

variable {b b' : Json} {options : Options} {result : EvidenceBundleResult}
  {checkpoints events checkpoints' events' : List Json}

theorem TraceOf.run (hb : TraceOf K b checkpoints events)
    (h : verifyEvidenceBundle K b options = .ok result) :
    TraceRun K b options result checkpoints events := by
  rw [verifyEvidenceBundle_eq, verifyBundle_of_wrapped hb.wrapped, verifyBody_of_isTrace hb.isTrace] at h
  rcases verifyAnchorTrace_eq_ok h with ⟨cps, evs, run, -⟩ | rfl
  · have hCps := run.checkpoints_eq.symm.trans hb.checkpoints_eq
    have hEvs := run.events_eq.symm.trans hb.events_eq
    cases hCps
    cases hEvs
    exact run
  · unfold verifyAnchorTrace at h
    obtain ⟨_, -, h⟩ := bind_eq_ok.mp h
    simp only [hb.checkpoints_eq, hb.events_eq] at h
    obtain ⟨⟨byTxId, rows⟩, _, h⟩ := bind_eq_ok.mp h
    obtain ⟨eventRows, _, h⟩ := bind_eq_ok.mp h
    have hHash := congrArg (Except.map (·.bodyHashOk)) h
    simp [pure, Except.pure, Except.map, malformed] at hHash

end Traces
end ArioProof
