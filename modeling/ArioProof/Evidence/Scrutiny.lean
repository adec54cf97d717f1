import ArioProof.Evidence.ExportRun
import ArioProof.Foundation.Outcome

/-! Runs over one trace with different options. What is supplied next to a
bundle can only turn it down, and of the gateways only the set matters. -/
namespace ArioProof

open Foundation

/-- A run with gateways, a pure fetch and disclosed content. -/
def Options.online (gateways : List Str) (fetch : Str → Option Bytes)
    (content : Str → Option SideContent) : Options where
  gateways := gateways
  content := content
  fetchImpl := some fun _ url => fetch url

/-- What a rollup reads of a row, which leaves out its notes and the gateways
behind its outcome. -/
def rowView (row : CheckpointResult) : Bool × Option Outcome × Option Bool :=
  (row.ok, row.onChain.map (·.rollup), row.onChainOk)

/-- One gateway has contradicted the row, by an answer with other bytes than those
of the envelope. -/
def Contradicted (row : CheckpointResult) : Prop :=
  ∃ onChain, row.onChain = some onChain ∧ ∃ answer ∈ onChain.perGateway, answer.outcome = .mismatch

variable {ε : Type} (K : Kernel ε)

/-- In-body content that fails to bind is not saved by a side input. -/
def ContentSticky : Prop :=
  ∀ ev eventId content, (K.evaluateContent ev eventId Options.offline.content).1 = some false →
    (K.evaluateContent ev eventId content).1 = some false

section Gateways

variable (byTxId : List (Str × Json)) (fetch : Str → Option Bytes)

/-- Pure answers make the probes independent of each other. -/
theorem probeGateways_pure (cp : Json) (expected : Option Bytes) (requests gateways : List Str) :
    (probeGateways K cp expected (fun _ url => fetch url) requests gateways).1 =
      gateways.map fun gateway =>
        ⟨gateway, classifyAnswer K expected (fetch (gatewayUrl cp gateway))⟩ := by
  induction gateways generalizing requests with
  | nil => rfl
  | cons gateway rest ih =>
      rw [probeGateways, List.map_cons, ← ih (requests ++ [gatewayUrl cp gateway])]

/-- A row after its re-fetch with pure answers. -/
def refetched (gateways : List Str) (row : CheckpointResult) : CheckpointResult :=
  (refetchRow K byTxId gateways (fun _ url => fetch url) [] row).1

theorem refetchRow_pure (gateways requests : List Str) (row : CheckpointResult) :
    (refetchRow K byTxId gateways (fun _ url => fetch url) requests row).1 =
      refetched K byTxId fetch gateways row := by
  unfold refetched refetchRow
  cases byTxId.lookup row.txId with
  | none => rfl
  | some cp => simp only [probeGateways_pure]

theorem refetchRows_pure (gateways requests : List Str) (rows : List CheckpointResult) :
    refetchRows K byTxId gateways (fun _ url => fetch url) requests rows =
      rows.map (refetched K byTxId fetch gateways) := by
  induction rows generalizing requests with
  | nil => rfl
  | cons row rest ih =>
      rw [List.map_cons, ← refetchRow_pure K byTxId fetch gateways requests row,
        ← ih (refetchRow K byTxId gateways (fun _ url => fetch url) requests row).2]
      rfl

variable {K}

/-- The rollup of the answers depends on which outcomes occur. -/
theorem rollupOnChain_congr {first second : List PerGatewayOutcome}
    (h : ∀ outcome, outcome ∈ first.map (·.outcome) ↔ outcome ∈ second.map (·.outcome)) :
    (rollupOnChain first).rollup = (rollupOnChain second).rollup ∧
      (rollupOnChain first).onChainOk = (rollupOnChain second).onChainOk := by
  have hAny (outcome : Outcome) :
      first.any (·.outcome = outcome) = second.any (·.outcome = outcome) := by
    have hOutcome := h outcome
    simp only [List.mem_map] at hOutcome
    rw [Bool.eq_iff_iff, List.any_eq_true, List.any_eq_true]
    simpa using hOutcome
  unfold rollupOnChain
  simp only [hAny, and_self]

theorem rollup_of_mismatch {perGateway : List PerGatewayOutcome} {answer : PerGatewayOutcome}
    (hAnswer : answer ∈ perGateway) (h : answer.outcome = .mismatch) :
    (rollupOnChain perGateway).onChainOk = some false := by
  have hAny : perGateway.any (·.outcome = .mismatch) = true :=
    List.any_eq_true.mpr ⟨answer, hAnswer, by simpa using h⟩
  unfold rollupOnChain
  rw [if_pos hAny]

/-- Gateways with the same members give a row the same view. -/
theorem rowView_refetched {gateways others : List Str} (h : ∀ g, g ∈ gateways ↔ g ∈ others)
    (row : CheckpointResult) : rowView (refetched K byTxId fetch gateways row) =
      rowView (refetched K byTxId fetch others row) := by
  unfold refetched refetchRow
  cases byTxId.lookup row.txId with
  | none => rfl
  | some cp =>
      simp only [probeGateways_pure]
      obtain ⟨hRollup, hOk⟩ := @rollupOnChain_congr
        (gateways.map fun gateway => ⟨gateway, classifyAnswer K (K.expectedBytes cp)
          (fetch (gatewayUrl cp gateway))⟩)
        (others.map fun gateway => ⟨gateway, classifyAnswer K (K.expectedBytes cp)
          (fetch (gatewayUrl cp gateway))⟩) (by simp [h])
      simp only [rowView, Option.map_some, hRollup, hOk]

/-- A contradiction is kept when gateways are added. -/
theorem ok_refetched_of_contradicted {gateways more : List Str} (h : ∀ g ∈ gateways, g ∈ more)
    {row : CheckpointResult} (hNone : row.onChain = none)
    (hContradicted : Contradicted (refetched K byTxId fetch gateways row)) :
    (refetched K byTxId fetch more row).ok = false := by
  obtain ⟨onChain, hOnChain, answer, hAnswer, hMismatch⟩ := hContradicted
  unfold refetched refetchRow at hOnChain ⊢
  cases hEntry : byTxId.lookup row.txId with
  | none =>
      rw [hEntry, hNone] at hOnChain
      cases hOnChain
  | some cp =>
      simp only [hEntry, Option.some.injEq, probeGateways_pure] at hOnChain ⊢
      rw [← hOnChain] at hAnswer
      obtain ⟨gateway, hGateway, rfl⟩ := List.mem_map.mp hAnswer
      have hMore : (⟨gateway, classifyAnswer K (K.expectedBytes cp) (fetch (gatewayUrl cp gateway))⟩ :
          PerGatewayOutcome) ∈ more.map fun gateway =>
            ⟨gateway, classifyAnswer K (K.expectedBytes cp) (fetch (gatewayUrl cp gateway))⟩ :=
        List.mem_map_of_mem (h gateway hGateway)
      rw [rollup_of_mismatch hMore hMismatch]
      simp

end Gateways

section Reruns

variable {K} {b : Json} {options : Options} {result : EvidenceBundleResult}
  {checkpoints events : List Json}

/-- A body that is turned down lacks the arrays, whatever the options. -/
theorem verifyAnchorTrace_of_malformed {bodyType : Str} {specVersionOk : Bool}
    {asserted : Option Str} {errors : List Str} {error : Str}
    (h : verifyAnchorTrace K b bodyType specVersionOk asserted errors options =
      .ok (malformed error true)) (other : Options) :
    verifyAnchorTrace K b bodyType specVersionOk asserted errors other =
      .ok (malformed error true) := by
  unfold verifyAnchorTrace at h ⊢
  obtain ⟨_, hBody, h⟩ := bind_eq_ok.mp h
  simp only [hBody, bind, Except.bind]
  split at h
  · obtain ⟨⟨byTxId, rows⟩, _, h⟩ := bind_eq_ok.mp h
    obtain ⟨eventRows, _, h⟩ := bind_eq_ok.mp h
    have hHash := congrArg (Except.map (·.bodyHashOk)) h
    simp [pure, Except.pure, Except.map, malformed] at hHash
  · exact h

/-- A trace is run through under all options, on the same entries, or turned
down by all in the same way. -/
theorem trace_outcomes (hTrace : isTrace b = true)
    (h : verifyEvidenceBundle K b options = .ok result) :
    (∃ checkpoints events, ∀ other, ∃ rerun, verifyEvidenceBundle K b other = .ok rerun ∧
      TraceRun K b other rerun checkpoints events) ∨
    (result.checkpoints = [] ∧ (result.status = .failed ∨ result.status = .malformed) ∧
      ∀ other, verifyEvidenceBundle K b other = .ok result) := by
  by_cases hb : Wrapped K b
  · have hBody (other : Options) : verifyEvidenceBundle K b other =
        verifyAnchorTrace K b anchorTraceBodyType true (assertedStatus b) [] other := by
      rw [verifyEvidenceBundle_eq, verifyBundle_of_wrapped hb, verifyBody_of_isTrace hTrace]
    rw [hBody] at h
    rcases verifyAnchorTrace_eq_ok h with ⟨checkpoints, events, run, -⟩ | rfl
    · refine Or.inl ⟨checkpoints, events, fun other => ?_⟩
      obtain ⟨rerun, hRerun, run'⟩ := verifyAnchorTrace_of_readable run.checkpoints_eq
        run.events_eq run.body_read run.checkpoint_read run.event_read anchorTraceBodyType true
        (assertedStatus b) [] other
      exact ⟨rerun, (hBody other).trans hRerun, run'⟩
    · refine Or.inr ⟨rfl, Or.inr rfl, fun other => ?_⟩
      rw [hBody]
      exact verifyAnchorTrace_of_malformed h other
  · refine Or.inr ?_
    obtain ⟨other, hOther, hBad, hNone, -⟩ := verifyBundle_of_not_wrapped hb
      (fun inline => verifyEvidenceBundle K inline options) options
    rw [verifyEvidenceBundle_eq, hOther] at h
    cases h
    refine ⟨hNone, hBad, fun again => ?_⟩
    rw [verifyEvidenceBundle_eq, ← hOther]
    exact verifyBundle_eq_of_not_wrapped hb _ _ _ _

/-- The rows of a run with a pure fetch, before and after the re-fetch. -/
theorem TraceRun.rows_online {gateways : List Str} {fetch : Str → Option Bytes}
    {content : Str → Option SideContent}
    (run : TraceRun K b (.online gateways fetch content) result checkpoints events)
    (hGateways : gateways ≠ []) : result.checkpoints = (checkpointRows K [] checkpoints).map
      (refetched K (firstEntries checkpoints) fetch gateways) := by
  have hEmpty : ¬(Options.online gateways fetch content).gateways.isEmpty = true := by
    simpa [Options.online] using hGateways
  have hRun := run.rows
  unfold refetch at hRun
  rw [if_neg hEmpty] at hRun
  rw [hRun, ← refetchRows_pure]
  rfl

theorem TraceRun.rows_offline {gateways : List Str} {fetch : Option Fetch}
    {content : Str → Option SideContent}
    (run : TraceRun K b ⟨gateways, content, fetch⟩ result checkpoints events)
    (hGateways : gateways = []) : result.checkpoints = checkpointRows K [] checkpoints := by
  subst hGateways
  rw [run.rows]
  rfl

/-- The status of a run is read off its rows, its events and what the gateways
left open, which the rows show as well. -/
theorem TraceRun.unavailable_online {gateways : List Str} {fetch : Str → Option Bytes}
    {content : Str → Option SideContent}
    (run : TraceRun K b (.online gateways fetch content) result checkpoints events)
    (hGateways : gateways ≠ []) :
    result.status = rollupStatus result.checkpoints result.events
      (result.checkpoints.any isUnavailable) := by
  have hEmpty : ¬(Options.online gateways fetch content).gateways.isEmpty = true := by
    simpa [Options.online] using hGateways
  have hRows := run.rows
  rw [run.status]
  unfold refetch at hRows ⊢
  rw [if_neg hEmpty] at hRows ⊢
  congr 1
  rw [hRows]
  rfl

/-- The rollup sees of the rows what their views show. -/
theorem rollupStatus_congr {rows rows' : List CheckpointResult} (eventRows : List EventResult)
    (h : rows.map rowView = rows'.map rowView) :
    rollupStatus rows eventRows (rows.any isUnavailable) =
      rollupStatus rows' eventRows (rows'.any isUnavailable) := by
  have hOk : rows.map (·.ok) = rows'.map (·.ok) :=
    map_eq_map_of_map_eq h fun row _ row' _ hView => congrArg Prod.fst hView
  have hUnavailable : rows.map isUnavailable = rows'.map isUnavailable := by
    refine map_eq_map_of_map_eq h fun row _ row' _ hView => ?_
    have hRollup : row.onChain.map (·.rollup) = row'.onChain.map (·.rollup) :=
      congrArg (·.2.1) hView
    unfold isUnavailable
    cases hFirst : row.onChain <;> cases hSecond : row'.onChain <;>
      simp only [hFirst, hSecond, Option.map_none, Option.map_some, reduceCtorEq,
        Option.some.injEq] at hRollup ⊢
    rw [hRollup]
  have hAny (p : Bool → Bool) : rows.any (fun row => p row.ok) = rows'.any fun row => p row.ok := by
    have := congrArg (fun oks => oks.any p) hOk
    simpa [List.any_map, Function.comp_def] using this
  have hAll : rows.all (·.ok) = rows'.all (·.ok) := by
    have := congrArg (fun oks => oks.all id) hOk
    simpa [List.all_map, Function.comp_def] using this
  have hAnyUnavailable : rows.any isUnavailable = rows'.any isUnavailable := by
    have := congrArg (fun flags => flags.any id) hUnavailable
    simpa [List.any_map, Function.comp_def] using this
  have hEmpty : rows.isEmpty = rows'.isEmpty := by
    have := congrArg List.isEmpty h
    simpa using this
  unfold rollupStatus anyHardFailure
  rw [hAny (!·), hAll, hAnyUnavailable, hEmpty]

/-- A row before the re-fetch bears no outcome of a gateway. -/
theorem fresh_of_mem_checkpointRows {byTxId : List (Str × Json)} {row : CheckpointResult}
    (h : row ∈ checkpointRows K byTxId checkpoints) :
    row.ok = (row.envelopeOk && row.merkleRootOk) ∧ row.onChain = none := by
  induction checkpoints generalizing byTxId with
  | nil => cases h
  | cons cp rest ih =>
      rcases List.mem_cons.mp h with rfl | h
      · exact ⟨rfl, rfl⟩
      · exact ih h

variable {base rerun : EvidenceBundleResult} {content : Str → Option SideContent}

/-- Content that does not fail next to a side input does not fail without. -/
theorem ok_offline (hContent : ContentSticky K) (byTxId : List (Str × Json))
    (content : Str → Option SideContent) (ev : Json)
    (h : (eventRow K byTxId content ev).ok = true) :
    (eventRow K byTxId Options.offline.content ev).ok = true := by
  have hSticky := hContent ev (getEventId (ev.get "envelope")) content
  simp only [eventRow, Bool.and_eq_true, bne_iff_ne, ne_eq] at h ⊢
  exact ⟨h.1, fun hOff => h.2 (hSticky hOff)⟩

/-- Whatever fails a row or an event offline fails it under all options. -/
theorem TraceRun.hardFailure_rerun (hContent : ContentSticky K)
    (run : TraceRun K b .offline base checkpoints events)
    (again : TraceRun K b options rerun checkpoints events)
    (h : anyHardFailure base.checkpoints base.events = true) :
    anyHardFailure rerun.checkpoints rerun.events = true := by
  unfold anyHardFailure at h ⊢
  rw [Bool.or_eq_true, List.any_eq_true, List.any_eq_true] at h ⊢
  rcases h with ⟨row, hRow, hBad⟩ | ⟨e, he, hBad⟩
  · refine Or.inl ?_
    obtain ⟨cp, hCp, hRowOf⟩ := exists_of_mem_right run.rowsOf hRow
    obtain ⟨row', hRow', hRowOf'⟩ := exists_of_mem_left again.rowsOf hCp
    refine ⟨row', hRow', ?_⟩
    rw [run.rows_offline rfl] at hRow
    rw [(fresh_of_mem_checkpointRows hRow).1, hRowOf.envelopeOk, hRowOf.merkleRootOk] at hBad
    rw [Bool.not_eq_true', ← Bool.not_eq_true]
    intro hOk
    obtain ⟨hEnvelope, hRoot⟩ := hRowOf'.ok hOk
    rw [hRowOf'.envelopeOk] at hEnvelope
    rw [hRowOf'.merkleRootOk] at hRoot
    simp [hEnvelope, hRoot] at hBad
  · refine Or.inr ?_
    rw [run.eventRows] at he
    obtain ⟨ev, hEv, rfl⟩ := List.mem_map.mp he
    refine ⟨_, again.eventRow_mem hEv, ?_⟩
    rw [Bool.not_eq_true', ← Bool.not_eq_true] at hBad ⊢
    exact fun hOk => hBad (ok_offline hContent _ _ _ hOk)

/-- A trace that is verified with side inputs is verified without. -/
theorem TraceRun.verified_offline (hContent : ContentSticky K)
    (run : TraceRun K b .offline base checkpoints events)
    (again : TraceRun K b options rerun checkpoints events) (h : rerun.status = .verified) :
    base.status = .verified := by
  obtain ⟨hRows, hOk, hEvents, -, hBound⟩ :=
    (rollupStatus_verified_iff _ _ _).mp (again.status.symm.trans h)
  have hHard : anyHardFailure base.checkpoints base.events = false := by
    rw [← Bool.not_eq_true]
    intro hHard
    have hFailed : rerun.status = .failed := by
      rw [again.status, rollupStatus_failed_iff]
      exact run.hardFailure_rerun hContent again hHard
    rw [h] at hFailed
    cases hFailed
  simp only [anyHardFailure, Bool.or_eq_false_iff, List.any_eq_false, Bool.not_eq_true',
    Bool.not_eq_false] at hHard
  rw [run.status, rollupStatus_verified_iff]
  refine ⟨?_, hHard.1, hHard.2, rfl, ?_⟩
  · intro hNil
    apply hRows
    have hLength := run.rowsOf.length_eq.symm.trans again.rowsOf.length_eq
    rw [hNil] at hLength
    exact List.length_eq_zero_iff.mp hLength.symm
  · intro e he
    rw [run.eventRows] at he
    obtain ⟨ev, hEv, rfl⟩ := List.mem_map.mp he
    exact hBound (eventRow K (firstEntries checkpoints) options.content ev) (again.eventRow_mem hEv)

/-- A trace that fails without side inputs fails with them. -/
theorem TraceRun.failed_online (hContent : ContentSticky K)
    (run : TraceRun K b .offline base checkpoints events)
    (again : TraceRun K b options rerun checkpoints events) (h : base.status = .failed) :
    rerun.status = .failed := by
  rw [run.status, rollupStatus_failed_iff] at h
  rw [again.status, rollupStatus_failed_iff]
  exact run.hardFailure_rerun hContent again h

variable {gateways others : List Str} {fetch : Str → Option Bytes}

/-- Of the gateways only the set matters: asking them in another order, or one of
them twice, changes neither a row's outcome nor the status. -/
theorem TraceRun.gateways_congr
    (run : TraceRun K b (.online gateways fetch content) result checkpoints events)
    (again : TraceRun K b (.online others fetch content) rerun checkpoints events)
    (h : ∀ g, g ∈ gateways ↔ g ∈ others) :
    rerun.status = result.status ∧
      rerun.checkpoints.map rowView = result.checkpoints.map rowView := by
  have hEvents : rerun.events = result.events := by
    rw [run.eventRows, again.eventRows]
    rfl
  by_cases hNil : gateways = []
  · obtain rfl : others = [] := by
      rw [List.eq_nil_iff_forall_not_mem]
      intro g hg
      rw [← h, hNil] at hg
      cases hg
    subst hNil
    have hRows : rerun.checkpoints = result.checkpoints := by
      rw [run.rows, again.rows]
    refine ⟨?_, by rw [hRows]⟩
    rw [run.status, again.status, hRows, hEvents]
  · have hOthers : others ≠ [] := by
      rintro rfl
      apply hNil
      rw [List.eq_nil_iff_forall_not_mem]
      intro g hg
      rw [h] at hg
      cases hg
    have hViews : rerun.checkpoints.map rowView = result.checkpoints.map rowView := by
      rw [run.rows_online hNil, again.rows_online hOthers, List.map_map, List.map_map]
      apply List.map_congr_left
      intro row _
      exact (rowView_refetched _ fetch h row).symm
    refine ⟨?_, hViews⟩
    rw [run.unavailable_online hNil, again.unavailable_online hOthers, hEvents]
    exact rollupStatus_congr _ hViews

/-- A contradiction fails the run, however many gateways are added. -/
theorem TraceRun.failed_of_contradicted
    (run : TraceRun K b (.online gateways fetch content) result checkpoints events)
    (again : TraceRun K b (.online others fetch content) rerun checkpoints events)
    (h : ∀ g ∈ gateways, g ∈ others) {row : CheckpointResult} (hRow : row ∈ result.checkpoints)
    (hContradicted : Contradicted row) : rerun.status = .failed := by
  have hNil : gateways ≠ [] := by
    rintro rfl
    obtain ⟨onChain, hOnChain, -⟩ := hContradicted
    rw [run.rows_offline rfl] at hRow
    rw [(fresh_of_mem_checkpointRows hRow).2] at hOnChain
    cases hOnChain
  have hOthers : others ≠ [] := by
    obtain ⟨g, hg⟩ := List.exists_mem_of_ne_nil _ hNil
    exact List.ne_nil_of_mem (h g hg)
  rw [run.rows_online hNil] at hRow
  obtain ⟨before, hBefore, rfl⟩ := List.mem_map.mp hRow
  have hBad := ok_refetched_of_contradicted _ fetch h (fresh_of_mem_checkpointRows hBefore).2
    hContradicted
  rw [again.status, rollupStatus_failed_iff, anyHardFailure, Bool.or_eq_true, List.any_eq_true]
  refine Or.inl ⟨_, ?_, by rw [hBad]; rfl⟩
  rw [again.rows_online hOthers]
  exact List.mem_map_of_mem hBefore

end Reruns
end ArioProof
