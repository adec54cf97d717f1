import ArioProof.Foundation.Outcome
import ArioProof.Evidence.AnchorTrace

/-! What a run over an anchor trace has done. The loops are described by maps
over the entries, the transaction ids by a search, and the re-fetch by what it
may change in a row. -/
namespace ArioProof

open Foundation

variable {ε : Type} (K : Kernel ε)

/-- The entry under each transaction id that events bind to. Where two entries
share an id the first one is kept. -/
def firstEntries (checkpoints : List Json) : List (Str × Json) := checkpoints.foldl registerTxId []

/-- Whether an entry has the transaction id, as text. An entry whose id is missing
or no string is bound by no event. -/
def hasTxId (txId : Str) (cp : Json) : Bool := (cp.get "tx_id").str? = some txId

/-- The row of an entry that has the id shows it. -/
theorem rowTxId_of_hasTxId {txId : Str} {cp : Json} (h : hasTxId txId cp = true) :
    rowTxId cp = txId := by
  simp only [hasTxId, decide_eq_true_eq] at h
  rw [rowTxId, Json.str?_eq_some.mp h]

/-- An id that was seen before keeps its entry; a new one finds the entry that
brought it. -/
theorem lookup_registerTxId (byTxId : List (Str × Json)) (cp : Json) (txId : Str) :
    (registerTxId byTxId cp).lookup txId =
      (byTxId.lookup txId).or (if hasTxId txId cp then some cp else none) := by
  unfold registerTxId hasTxId
  cases cp.get "tx_id" with
  | str own =>
      by_cases hSame : own = txId
      · subst hSame
        cases hFound : byTxId.lookup own with
        | none => simp [hFound, Json.str?, List.lookup_append]
        | some entry => simp [hFound, Json.str?]
      · have hOther : (txId == own) = false := by simpa using fun h : txId = own => hSame h.symm
        simp only [Json.str?, Option.some.injEq, hSame, decide_false, Bool.false_eq_true, if_false,
          Option.or_none]
        split
        · rfl
        · rw [List.lookup_append, List.lookup_cons, hOther]
          simp
  | _ => simp [Json.str?]

/-- The map built by the checkpoint loop finds the first entry with the id. -/
theorem lookup_firstEntries (checkpoints : List Json) (txId : Str) :
    (firstEntries checkpoints).lookup txId = checkpoints.find? (hasTxId txId) := by
  have run (byTxId : List (Str × Json)) : (checkpoints.foldl registerTxId byTxId).lookup txId =
      (byTxId.lookup txId).or (checkpoints.find? (hasTxId txId)) := by
    induction checkpoints generalizing byTxId with
    | nil => simp
    | cons cp rest ih =>
        rw [List.foldl_cons, ih, lookup_registerTxId, List.find?_cons]
        cases byTxId.lookup txId <;> cases hasTxId txId cp <;> simp
  rw [firstEntries, run]
  rfl

/-- The rows before the re-fetch, each made with the ids of the entries in front
of it. -/
def checkpointRows : List (Str × Json) → List Json → List CheckpointResult
  | _, [] => []
  | byTxId, cp :: rest => checkpointRow K byTxId cp :: checkpointRows (registerTxId byTxId cp) rest

/-- The loop completes exactly when every entry can be read. -/
theorem verifyCheckpoints_eq_ok {byTxId final : List (Str × Json)} {checkpoints : List Json}
    {rows : List CheckpointResult}
    (h : verifyCheckpoints K byTxId checkpoints = .ok (final, rows)) :
    (∀ cp ∈ checkpoints, K.checkEntry "tx_id" cp = .ok ()) ∧
      final = checkpoints.foldl registerTxId byTxId ∧
      rows = checkpointRows K byTxId checkpoints := by
  induction checkpoints generalizing byTxId rows with
  | nil => cases h; simp [checkpointRows]
  | cons cp rest ih =>
      unfold verifyCheckpoints at h
      cases hEntry : K.checkEntry "tx_id" cp with
      | error exc => rw [hEntry] at h; cases h
      | ok _ =>
          cases hRest : verifyCheckpoints K (registerTxId byTxId cp) rest with
          | error exc => rw [hEntry, hRest] at h; cases h
          | ok entry =>
              rw [hEntry, hRest] at h
              cases h
              obtain ⟨hAll, hFinal, hRows⟩ := ih hRest
              exact ⟨by simpa using ⟨hEntry, hAll⟩, hFinal, by rw [checkpointRows, hRows]⟩

/-- Entries that can all be read are run through, each with the ids that were seen
before it. -/
theorem verifyCheckpoints_of_readable {byTxId : List (Str × Json)} {checkpoints : List Json}
    (h : ∀ cp ∈ checkpoints, K.checkEntry "tx_id" cp = .ok ()) : verifyCheckpoints K byTxId checkpoints =
      .ok (checkpoints.foldl registerTxId byTxId, checkpointRows K byTxId checkpoints) := by
  induction checkpoints generalizing byTxId with
  | nil => rfl
  | cons cp rest ih =>
      unfold verifyCheckpoints
      rw [h cp List.mem_cons_self, ih fun x hx => h x (List.mem_cons_of_mem cp hx)]
      rfl

/-- The loop completes exactly when every entry can be read, and maps each to its
row. -/
theorem verifyEvents_eq_ok {byTxId : List (Str × Json)} {content : Str → Option SideContent}
    {events : List Json} {rows : List EventResult}
    (h : verifyEvents K byTxId content events = .ok rows) :
    (∀ ev ∈ events, K.checkEntry "envelope" ev = .ok ()) ∧ rows = events.map (eventRow K byTxId content) := by
  induction events generalizing rows with
  | nil => cases h; simp
  | cons ev rest ih =>
      unfold verifyEvents at h
      cases hEntry : K.checkEntry "envelope" ev with
      | error exc => rw [hEntry] at h; cases h
      | ok _ =>
          cases hRest : verifyEvents K byTxId content rest with
          | error exc => rw [hEntry, hRest] at h; cases h
          | ok tail =>
              rw [hEntry, hRest] at h
              cases h
              obtain ⟨hAll, hRows⟩ := ih hRest
              exact ⟨by simpa using ⟨hEntry, hAll⟩, by rw [List.map_cons, hRows]⟩

/-- Entries that can all be read are run through. -/
theorem verifyEvents_of_readable {byTxId : List (Str × Json)} {content : Str → Option SideContent}
    {events : List Json} (h : ∀ ev ∈ events, K.checkEntry "envelope" ev = .ok ()) :
    verifyEvents K byTxId content events = .ok (events.map (eventRow K byTxId content)) := by
  induction events with
  | nil => rfl
  | cons ev rest ih =>
      unfold verifyEvents
      rw [h ev List.mem_cons_self, ih fun x hx => h x (List.mem_cons_of_mem ev hx)]
      rfl

section Rows

/-- What a row says about its entry, whichever ids were seen before it and
whatever the gateways answered. -/
structure RowOf (cp : Json) (row : CheckpointResult) : Prop where
  txId : row.txId = rowTxId cp
  envelopeOk : row.envelopeOk = (K.checkCheckpoint cp).1
  merkleRootOk : row.merkleRootOk = (K.checkCheckpoint cp).2.1
  ok : row.ok = true → row.envelopeOk = true ∧ row.merkleRootOk = true

variable {K}

/-- A row says of its entry what the checks of the entry found. -/
theorem rowOf_checkpointRow (byTxId : List (Str × Json)) (cp : Json) :
    RowOf K cp (checkpointRow K byTxId cp) where
  txId := rfl
  envelopeOk := rfl
  merkleRootOk := rfl
  ok h := by simpa [checkpointRow] using h

/-- A re-fetch adds to a row and keeps what it says of its entry. -/
theorem rowOf_refetchRow {byTxId : List (Str × Json)} {gateways : List Str} {fetch : Fetch}
    {requests : List Str} {cp : Json} {row : CheckpointResult} (h : RowOf K cp row) :
    RowOf K cp (refetchRow K byTxId gateways fetch requests row).1 := by
  unfold refetchRow
  cases byTxId.lookup row.txId with
  | none => exact h
  | some entry =>
      refine ⟨h.txId, h.envelopeOk, h.merkleRootOk, fun hOk => ?_⟩
      simp only [Bool.and_eq_true] at hOk
      exact hOk.1

/-- Rows come in the order of their entries, one for each. -/
theorem rowsOf_checkpointRows (byTxId : List (Str × Json)) (checkpoints : List Json) :
    List.Forall₂ (RowOf K) checkpoints (checkpointRows K byTxId checkpoints) := by
  induction checkpoints generalizing byTxId with
  | nil => exact .nil
  | cons cp rest ih => exact .cons (rowOf_checkpointRow byTxId cp) (ih _)

theorem rowsOf_refetchRows {byTxId : List (Str × Json)} {gateways : List Str} {fetch : Fetch}
    {requests : List Str} {checkpoints : List Json} {rows : List CheckpointResult}
    (h : List.Forall₂ (RowOf K) checkpoints rows) :
    List.Forall₂ (RowOf K) checkpoints (refetchRows K byTxId gateways fetch requests rows) := by
  induction h generalizing requests with
  | nil => exact .nil
  | cons hRow hRest ih => exact .cons (rowOf_refetchRow hRow) ih

/-- A re-fetch keeps the order of the rows, one for each entry. -/
theorem rowsOf_refetch {byTxId : List (Str × Json)} {options : Options} {checkpoints : List Json}
    {rows : List CheckpointResult} (h : List.Forall₂ (RowOf K) checkpoints rows) :
    List.Forall₂ (RowOf K) checkpoints (refetch K byTxId options rows).1 := by
  unfold refetch
  split_ifs
  · exact h
  · cases options.fetchImpl with
    | none => exact h
    | some fetch => exact rowsOf_refetchRows h

end Rows

/-- A completed run over the checkpoints and events of a trace body. -/
structure TraceRun (b : Json) (options : Options) (result : EvidenceBundleResult)
    (checkpoints events : List Json) : Prop where
  checkpoints_eq : (b.get "body").get "checkpoints" = .arr checkpoints
  events_eq : (b.get "body").get "events" = .arr events
  body_read : K.checkBody (b.get "body") = .ok ()
  checkpoint_read : ∀ cp ∈ checkpoints, K.checkEntry "tx_id" cp = .ok ()
  event_read : ∀ ev ∈ events, K.checkEntry "envelope" ev = .ok ()
  rows : result.checkpoints =
    (refetch K (firstEntries checkpoints) options (checkpointRows K [] checkpoints)).1
  eventRows : result.events =
    events.map (eventRow K (firstEntries checkpoints) options.content)
  status : result.status = rollupStatus result.checkpoints result.events
    (refetch K (firstEntries checkpoints) options (checkpointRows K [] checkpoints)).2.1
  onChainChecked : result.onChainChecked = !options.gateways.isEmpty
  exported : result.exported = none

section Inversion

variable {K} {b : Json} {options : Options} {result : EvidenceBundleResult} {bodyType : Str}
  {specVersionOk : Bool} {asserted : Option Str} {errors : List Str}

/-- A trace either ran to its rollup or was turned away as malformed. -/
theorem verifyAnchorTrace_eq_ok
    (h : verifyAnchorTrace K b bodyType specVersionOk asserted errors options = .ok result) :
    (∃ checkpoints events, TraceRun K b options result checkpoints events ∧
      result.bodyType = some bodyType) ∨
    result = malformed "ario.anchor.trace/v1 body must have checkpoints[] and events[]" true := by
  unfold verifyAnchorTrace at h
  cases hBody : K.checkBody (b.get "body") with
  | error exc => simp only [hBody, bind, Except.bind, reduceCtorEq] at h
  | ok _ =>
      simp only [hBody, bind, Except.bind] at h
      split at h
      · rename_i checkpoints events hCheckpoints hEvents
        left
        cases hRows : verifyCheckpoints K [] checkpoints with
        | error exc => rw [hRows] at h; cases h
        | ok entry =>
            obtain ⟨byTxId, rows⟩ := entry
            obtain ⟨hCps, rfl, rfl⟩ := verifyCheckpoints_eq_ok K hRows
            rw [hRows] at h
            cases hEvs : verifyEvents K (checkpoints.foldl registerTxId []) options.content
                events with
            | error exc => simp only [hEvs, reduceCtorEq] at h
            | ok eventRows =>
                obtain ⟨hObjs, rfl⟩ := verifyEvents_eq_ok K hEvs
                simp only [hEvs] at h
                cases h
                exact ⟨checkpoints, events, ⟨hCheckpoints, hEvents, hBody, hCps, hObjs, rfl, rfl,
                  rfl, rfl, rfl⟩, rfl⟩
      · cases h
        exact Or.inr rfl

variable {checkpoints events : List Json}

/-- A body that is turned away lacks one of the lists. -/
theorem bodyType_of_lists
    (h : verifyAnchorTrace K b bodyType specVersionOk asserted errors options = .ok result)
    (hCheckpoints : (b.get "body").get "checkpoints" = .arr checkpoints)
    (hEvents : (b.get "body").get "events" = .arr events) : result.bodyType = some bodyType := by
  unfold verifyAnchorTrace at h
  simp only [hCheckpoints, hEvents] at h
  obtain ⟨-, -, h⟩ := bind_eq_ok.mp h
  obtain ⟨entry, -, h⟩ := bind_eq_ok.mp h
  obtain ⟨eventRows, -, h⟩ := bind_eq_ok.mp h
  cases h
  rfl

/-- A body whose entries can be read is run through. -/
theorem verifyAnchorTrace_of_readable
    (hCheckpoints : (b.get "body").get "checkpoints" = .arr checkpoints)
    (hEvents : (b.get "body").get "events" = .arr events)
    (hBody : K.checkBody (b.get "body") = .ok ())
    (hRead : ∀ cp ∈ checkpoints, K.checkEntry "tx_id" cp = .ok ())
    (hRead' : ∀ ev ∈ events, K.checkEntry "envelope" ev = .ok ()) (bodyType : Str) (specVersionOk : Bool)
    (asserted : Option Str) (errors : List Str) (options : Options) :
    ∃ result, verifyAnchorTrace K b bodyType specVersionOk asserted errors options = .ok result ∧
      TraceRun K b options result checkpoints events := by
  unfold verifyAnchorTrace
  simp only [hBody, hCheckpoints, hEvents, verifyCheckpoints_of_readable K hRead,
    verifyEvents_of_readable K hRead', bind, Except.bind, pure, Except.pure]
  exact ⟨_, rfl, ⟨hCheckpoints, hEvents, hBody, hRead, hRead', rfl, rfl, rfl, rfl, rfl⟩⟩

/-- The rows of a run are those of its entries, in their order. -/
theorem TraceRun.rowsOf (run : TraceRun K b options result checkpoints events) :
    List.Forall₂ (RowOf K) checkpoints result.checkpoints := by
  rw [run.rows]
  exact rowsOf_refetch (rowsOf_checkpointRows [] checkpoints)

/-- The entry under an id has a row of its own. -/
theorem TraceRun.row_of_mem (run : TraceRun K b options result checkpoints events) {cp : Json} {txId : Str}
    (hMem : cp ∈ checkpoints) (hTxId : hasTxId txId cp = true) :
    ∃ (i : Nat) (row : CheckpointResult), checkpoints[i]? = some cp ∧
      result.checkpoints[i]? = some row ∧ row.txId = txId := by
  obtain ⟨i, hi, rfl⟩ := List.mem_iff_getElem.mp hMem
  obtain ⟨hLen, hRows⟩ := List.forall₂_iff_get.mp run.rowsOf
  have hi' : i < result.checkpoints.length := hLen ▸ hi
  refine ⟨i, result.checkpoints[i], List.getElem?_eq_getElem hi, List.getElem?_eq_getElem hi', ?_⟩
  have hRow := (hRows i hi hi').txId
  simp only [List.get_eq_getElem] at hRow
  rw [hRow]
  simp only [hasTxId, decide_eq_true_eq, Json.str?_eq_some] at hTxId
  simp [rowTxId, hTxId]

/-- A verified trace has at least one checkpoint, no failed row, and no event
whose record is withheld. -/
theorem rollupStatus_verified_iff (rows : List CheckpointResult) (eventRows : List EventResult)
    (gatewayUnavailable : Bool) :
    rollupStatus rows eventRows gatewayUnavailable = .verified ↔
      rows ≠ [] ∧ (∀ row ∈ rows, row.ok = true) ∧ (∀ e ∈ eventRows, e.ok = true) ∧
        gatewayUnavailable = false ∧ ∀ e ∈ eventRows, e.payloadBindingOk ≠ none := by
  unfold rollupStatus anyHardFailure
  constructor
  · intro h
    simp only at h
    split_ifs at h with hHard hGateway hWithheld hAll
    simp only [Bool.and_eq_true, Bool.not_eq_true', List.isEmpty_eq_false_iff,
      List.all_eq_true] at hAll
    refine ⟨hAll.1.1, hAll.1.2, hAll.2, by simpa using hGateway, fun e he hNone => hWithheld ?_⟩
    exact List.any_eq_true.mpr ⟨e, he, by simpa using hNone⟩
  · rintro ⟨hNe, hRows, hEvents, hGateway, hBound⟩
    have hHard : (rows.any (!·.ok) || eventRows.any (!·.ok)) = false := by
      simp only [Bool.or_eq_false_iff, List.any_eq_false]
      exact ⟨fun row hm => by simp [hRows row hm], fun e hm => by simp [hEvents e hm]⟩
    have hWithheld : (eventRows.any fun e => decide (e.payloadBindingOk = none)) = false := by
      simp only [List.any_eq_false, decide_eq_true_eq]
      exact hBound
    have hAll : (!rows.isEmpty && rows.all (·.ok) && eventRows.all (·.ok)) = true := by
      simp only [Bool.and_eq_true, Bool.not_eq_true', List.isEmpty_eq_false_iff, List.all_eq_true]
      exact ⟨⟨hNe, hRows⟩, hEvents⟩
    simp [hHard, hGateway, hWithheld, hAll]

/-- A trace fails exactly when a row does. -/
theorem rollupStatus_failed_iff (rows : List CheckpointResult) (eventRows : List EventResult)
    (gatewayUnavailable : Bool) : rollupStatus rows eventRows gatewayUnavailable = .failed ↔
      anyHardFailure rows eventRows = true := by
  unfold rollupStatus
  simp only
  split_ifs with hHard <;> simp [hHard]

/-- A trace that was run through is never malformed. -/
theorem rollupStatus_ne_malformed (rows : List CheckpointResult) (eventRows : List EventResult)
    (gatewayUnavailable : Bool) : rollupStatus rows eventRows gatewayUnavailable ≠ .malformed := by
  unfold rollupStatus
  simp only
  split_ifs <;> simp

/-- Over rows that hold the events decide: none may fail, and a withheld record
keeps the trace from being verified. -/
theorem rollupStatus_of_rows {rows : List CheckpointResult} (hRows : ∀ row ∈ rows, row.ok = true)
    (eventRows : List EventResult) :
    ((rollupStatus rows eventRows false = .verified ∨
        rollupStatus rows eventRows false = .partly) ↔ ∀ e ∈ eventRows, e.ok = true) ∧
      ((∀ e ∈ eventRows, e.ok = true) → (∃ e ∈ eventRows, e.payloadBindingOk = none) →
        rollupStatus rows eventRows false = .partly) := by
  have hFailed : rollupStatus rows eventRows false = .failed ↔ ¬∀ e ∈ eventRows, e.ok = true := by
    rw [rollupStatus_failed_iff, anyHardFailure, Bool.or_eq_true, List.any_eq_true,
      List.any_eq_true]
    constructor
    · rintro (⟨row, hRow, hBad⟩ | ⟨e, he, hBad⟩) hAll
      · simp [hRows row hRow] at hBad
      · simp [hAll e he] at hBad
    · intro hBad
      push Not at hBad
      obtain ⟨e, he, hNot⟩ := hBad
      exact Or.inr ⟨e, he, by simpa using hNot⟩
  have hMalformed := rollupStatus_ne_malformed rows eventRows false
  have hVerified := rollupStatus_verified_iff rows eventRows false
  refine ⟨?_, fun hAll hWithheld => ?_⟩
  · rw [← not_iff_not, ← hFailed]
    cases hStatus : rollupStatus rows eventRows false <;> simp_all
  · obtain ⟨e, he, hNone⟩ := hWithheld
    cases hStatus : rollupStatus rows eventRows false with
    | verified => exact ((hVerified.mp hStatus).2.2.2.2 e he hNone).elim
    | partly => rfl
    | failed => exact (hFailed.mp hStatus hAll).elim
    | malformed => exact (hMalformed hStatus).elim

theorem TraceRun.eventRow_mem (run : TraceRun K b options result checkpoints events) {ev : Json}
    (h : ev ∈ events) : eventRow K (firstEntries checkpoints) options.content ev ∈ result.events := by
  rw [run.eventRows]
  exact List.mem_map_of_mem h

end Inversion
end ArioProof
