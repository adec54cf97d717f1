import ArioProof.Python.Noninterference

/-! Side content and the cached verdict. A side input that binds where nothing
was disclosed turns an undetermined dimension into a determined one, and this
dimension is one of those a cached verdict is compared on. -/
namespace ArioProof.Python

open Foundation

variable (R : Runtime)

/-- A run whose only side input is disclosed content. -/
def Options.withContent (content : Str → Option SideContent) : Options :=
  { Options.offline with content := content }

/-- The event entries behind the rows of a result. -/
def tracedEvents (b : Json) : List Json :=
  if isTrace (traced b) then ((traced b).get "body").listAt "events" else []

/-- The hashes that bind the content of an event. -/
def eventCommitted (ev : Json) : List Str := committedHashes R ev (decodeRecord R "event" ev).1

/-- The side input for an event is its committed content, where it commits to
any, and repeats its in-body content, where there is any. -/
structure GenuineFor (content : Str → Option SideContent) (ev : Json) : Prop where
  bytes : (content (getEventId (ev.get "envelope"))).isSome → ∃ bytes,
    (sideContent R content (getEventId (ev.get "envelope"))).1 = some bytes ∧
    (eventCommitted R ev ≠ [] → sha256Hex R bytes ∈ eventCommitted R ev) ∧
    ∀ inBody, (inBodyContent R ev).1 = some inBody → inBody = bytes

/-- The event discloses its content already, or commits to none. -/
def Disclosed (ev : Json) : Prop := (inBodyContent R ev).1.isSome ∨ eventCommitted R ev = []

variable {R} {b : Json} {content : Str → Option SideContent}

section Event

theorem contentOk_eventRow (byTxId : List (Str × Json)) (content : Str → Option SideContent)
    (ev : Json) : (eventRow (kernel R) byTxId content ev).contentOk =
      (bindContent R.crypto (eventCommitted R ev) (inBodyContent R ev).1
        (sideContent R content (getEventId (ev.get "envelope"))).1).1 := rfl

/-- Genuine content changes what is known of an event exactly when nothing
known before could be compared with its commitment. -/
theorem contentOk_iff {ev : Json} (hGenuine : GenuineFor R content ev)
    (byTxId : List (Str × Json)) :
    (eventRow (kernel R) byTxId content ev).contentOk =
        (eventRow (kernel R) byTxId Options.offline.content ev).contentOk ↔
      ((content (getEventId (ev.get "envelope"))).isSome → Disclosed R ev) := by
  have hOffline : (sideContent R Options.offline.content (getEventId (ev.get "envelope"))).1 =
      none := rfl
  rw [contentOk_eventRow, contentOk_eventRow, hOffline]
  unfold Disclosed
  cases hSide : content (getEventId (ev.get "envelope")) with
  | none => simp [sideContent, hSide]
  | some side =>
      obtain ⟨bytes, hBytes, hCommitted, hAgrees⟩ := hGenuine.bytes (by simp [hSide])
      rw [hBytes]
      cases hInBody : (inBodyContent R ev).1 with
      | some inBody =>
          obtain rfl := hAgrees inBody hInBody
          simp [bindContent]
      | none =>
          cases hHashes : eventCommitted R ev with
          | nil => simp [bindContent]
          | cons hash rest =>
              have hMem := hCommitted (by simp [hHashes])
              rw [hHashes] at hMem
              simp [bindContent, hMem]

end Event

section Rerun

/-- Two results that differ in their notes only. -/
structure SameUpToNotes (first second : EvidenceBundleResult) : Prop where
  status : second.status = first.status
  onChainChecked : second.onChainChecked = first.onChainChecked
  checkpoints : second.checkpoints = first.checkpoints
  events : second.events.map (fun e => { e with errors := [] }) =
    first.events.map fun e => { e with errors := [] }
  exported : second.exported = first.exported

theorem SameUpToNotes.map_events {first second : EvidenceBundleResult}
    (h : SameUpToNotes first second) {α : Type} {f : EventResult → α}
    (hf : ∀ e, f { e with errors := [] } = f e) : second.events.map f = first.events.map f := by
  have hMap := congrArg (List.map f) h.events
  simpa only [List.map_map, Function.comp_def, hf] using hMap

theorem buildVerdictObject_congr {first second : EvidenceBundleResult}
    (h : SameUpToNotes first second) (attestations : List AttestationResult) :
    buildVerdictObject second attestations = buildVerdictObject first attestations := by
  have hStatuses : second.events.map eventVerdictStatus = first.events.map eventVerdictStatus :=
    h.map_events fun e => rfl
  have hEntries : second.events.map eventEntry = first.events.map eventEntry :=
    h.map_events fun e => rfl
  unfold buildVerdictObject verdictCounts
  rw [h.status, h.checkpoints, hEntries, hStatuses]

/-- The rollup of an export does not read notes. -/
theorem sameUpToNotes_finishExport {first second : EvidenceBundleResult}
    (h : SameUpToNotes first second) (b : Json) (specVersionOk : Bool) (asserted : Option Str)
    (errors : List Str) (sourceLinkageOk : Bool) (attestations : List AttestationResult) :
    SameUpToNotes
      (finishExport (kernel R) b specVersionOk asserted errors sourceLinkageOk first attestations)
      (finishExport (kernel R) b specVersionOk asserted errors sourceLinkageOk second attestations) := by
  have hFresh : freshVerdict b second attestations = freshVerdict b first attestations := by
    unfold freshVerdict
    rw [buildVerdictObject_congr h]
  have hLength : second.events.length = first.events.length := by
    simpa using congrArg List.length h.events
  have hSummary (status : Status) : summarizeExport status second attestations =
      summarizeExport status first attestations := by
    unfold summarizeExport
    rw [h.status, h.checkpoints, hLength]
  exact {
    status := by simp only [finishExport, hFresh, h.status]
    onChainChecked := h.onChainChecked
    checkpoints := h.checkpoints
    events := h.events
    exported := by simp only [finishExport, displayVerdict, hFresh, h.status, hSummary] }

/-- Side content that leaves the events of a trace as they were leaves its run
as it was. -/
theorem sameUpToNotes_traceRun {result rerun : EvidenceBundleResult} {checkpoints events : List Json}
    (run : TraceRun (kernel R) b Options.offline result checkpoints events)
    (otherRun : TraceRun (kernel R) b (Options.withContent content) rerun checkpoints events)
    (hContent : ∀ ev ∈ events, (eventRow (kernel R) (firstEntries checkpoints) content ev).contentOk =
      (eventRow (kernel R) (firstEntries checkpoints) Options.offline.content ev).contentOk) :
    SameUpToNotes result rerun := by
  have hCheckpoints : rerun.checkpoints = result.checkpoints := by
    rw [otherRun.rows, run.rows]
    rfl
  have hEvents : rerun.events.map (fun e => { e with errors := [] }) =
      result.events.map fun e => { e with errors := [] } := by
    rw [otherRun.eventRows, run.eventRows, List.map_map, List.map_map]
    refine List.map_congr_left fun ev hEv => ?_
    have hSame := hContent ev hEv
    simp only [eventRow] at hSame
    simp only [Function.comp_apply, eventRow, Options.withContent, hSame]
  have hRollup (rows : List CheckpointResult) (eventRows : List EventResult) (unavailable : Bool) :
      rollupStatus rows eventRows unavailable =
        rollupStatus rows (eventRows.map fun e => { e with errors := [] }) unavailable := by
    simp only [rollupStatus, anyHardFailure, List.any_map, List.all_map, Function.comp_def]
    rfl
  exact {
    status := by
      rw [otherRun.status, run.status, hRollup, hEvents, ← hRollup, hCheckpoints]
      rfl
    onChainChecked := by rw [otherRun.onChainChecked, run.onChainChecked]; rfl
    checkpoints := hCheckpoints
    events := hEvents
    exported := by rw [otherRun.exported, run.exported] }

/-- A run with side content that leaves every event as it was leaves the whole
result as it was, up to notes. -/
theorem sameUpToNotes_rerun {result : EvidenceBundleResult}
    (h : verifyEvidenceBundle R b Options.offline = .ok result) (hStatus : result.status = .verified)
    (hContent : ∀ ev ∈ tracedEvents b, ∀ byTxId, (eventRow (kernel R) byTxId content ev).contentOk =
      (eventRow (kernel R) byTxId Options.offline.content ev).contentOk) :
    ∃ rerun, verifyEvidenceBundle R b (Options.withContent content) = .ok rerun ∧
      SameUpToNotes result rerun := by
  induction b using traced.induct generalizing result with
  | case1 b hExport ih =>
      obtain ⟨hb, -⟩ := wrapped_of_status h (by simp [hStatus])
      cases bodyRun_of_status h (by simp [hStatus]) with
      | trace checkpoints events hType run =>
          rw [isExport_eq_false_of_isTrace hType] at hExport
          cases hExport
      | finished source attestations hType run status attested =>
          obtain ⟨other, hOther, hSame⟩ := ih run.source_eq (status.symm.trans hStatus) (by
            intro ev hEv
            refine hContent ev ?_
            rwa [tracedEvents, traced_of_isExport hExport])
          rw [verifyEvidenceBundle_eq, verifyBundle_of_wrapped hb, verifyBody_of_isExport hExport]
          obtain ⟨rerun, hRerun, otherRun⟩ := verifyExportBody_of_read
            (fun inline => verifyEvidenceBundle R inline (Options.withContent content))
            run.complaint run.inline hOther run.attestations_eq true (assertedStatus b) []
          refine ⟨rerun, hRerun, ?_⟩
          rw [otherRun.result_eq, run.result_eq]
          exact sameUpToNotes_finishExport hSame ..
      | withoutSource hType inline status => rw [hStatus] at status; cases status
      | unknown hNot => rw [hNot] at hExport; cases hExport
  | case2 b hExport =>
      obtain ⟨hb, -⟩ := wrapped_of_status h (by simp [hStatus])
      cases bodyRun_of_status h (by simp [hStatus]) with
      | trace checkpoints events hType run =>
          rw [verifyEvidenceBundle_eq, verifyBundle_of_wrapped hb, verifyBody_of_isTrace hType]
          obtain ⟨rerun, hRerun, otherRun⟩ := verifyAnchorTrace_of_readable run.checkpoints_eq
            run.events_eq run.body_read run.checkpoint_read run.event_read anchorTraceBodyType true
            (assertedStatus b) [] (Options.withContent content)
          refine ⟨rerun, hRerun, sameUpToNotes_traceRun run otherRun fun ev hEv => hContent ev ?_ _⟩
          rw [tracedEvents, traced_of_not_isExport (by simpa using hExport), if_pos hType]
          simpa [Json.listAt, run.events_eq, Json.arr?] using hEv
      | finished source attestations hType => exact (hExport hType).elim
      | withoutSource hType => exact (hExport hType).elim
      | unknown hNot hTrace status => rw [hStatus] at status; cases status

end Rerun

/-- The verdict an export displays lists the events of its rows, and a verified
export agrees with it. -/
theorem exported_spec {result : EvidenceBundleResult} {exported : ExportResult}
    (h : verifyEvidenceBundle R b options = .ok result) (hExported : result.exported = some exported) :
    exported.verdict.listAt "events" = result.events.map eventEntry ∧
      (result.status = .verified → exported.verdictAgreementOk = true) := by
  obtain ⟨-, -, source, attestations, run⟩ := exportRun_of_exported h hExported
  rw [run.result_eq] at hExported ⊢
  cases hExported
  refine ⟨?_, fun hStatus => ((exportStatus_verified_iff _ _ _ _).mp hStatus).2.1⟩
  simp only [finishExport, displayVerdict]
  rw [← events_freshVerdict source attestations b, Json.listAt, Json.listAt, Json.get, Json.get,
    Json.get?_set_of_ne (by decide), Json.get?_set_of_ne (by decide)]
  rfl

/-- Verdicts that agree with one cached verdict know the same of every event. -/
theorem contentOk_of_agree {cached : Json} {first second : List EventResult} {fresh fresh' : Json}
    (hFirst : VerdictsAgree cached fresh) (hSecond : VerdictsAgree cached fresh')
    (hEvents : fresh.listAt "events" = first.map eventEntry)
    (hEvents' : fresh'.listAt "events" = second.map eventEntry) :
    second.map (·.contentOk) = first.map (·.contentOk) := by
  have hDims := hSecond.events.symm.trans hFirst.events
  rw [hEvents, hEvents', List.map_map, List.map_map] at hDims
  refine map_eq_map_of_map_eq hDims fun e _ e' _ hEntry => ?_
  simp only [Function.comp_apply, eventDimensions_eventEntry, List.cons.injEq] at hEntry
  have hContent := hEntry.2.2.2.2.1
  revert hContent
  cases e.contentOk <;> cases e'.contentOk <;> simp [Json.ofOption]

/-- Genuine disclosure leaves a verified export verified exactly when each
event it is about was disclosed already or commits to no content. -/
theorem disclosure_keeps_verified_iff (hJcs : R.JcsCompositional) (hInj : R.JcsInjective) (b : Json)
    (content : Str → Option SideContent) (result : EvidenceBundleResult) (exported : ExportResult)
    (h : verifyEvidenceBundle R b Options.offline = .ok result)
    (hExported : result.exported = some exported) (hStatus : result.status = .verified)
    (hGenuine : ∀ ev ∈ tracedEvents b, GenuineFor R content ev) :
    (∃ rerun again, verifyEvidenceBundle R b (Options.withContent content) = .ok rerun ∧
      rerun.exported = some again ∧ again.verdictAgreementOk = true ∧ rerun.status = .verified) ↔
    ∀ ev ∈ tracedEvents b, (content (getEventId (ev.get "envelope"))).isSome →
      Disclosed R ev := by
  constructor
  · rintro ⟨rerun, again, hRerun, hAgain, hAgreement, hVerified⟩ ev hEv
    have hFirst := (verdictAgreementOk_iff hJcs hInj h hExported).mp
      ((exported_spec h hExported).2 hStatus)
    have hSecond := (verdictAgreementOk_iff hJcs hInj hRerun hAgain).mp hAgreement
    have hSame := contentOk_of_agree hFirst hSecond (exported_spec h hExported).1
      (exported_spec hRerun hAgain).1
    rcases rows_of_traced h with ⟨-, -, hNot, -⟩ |
      ⟨inner, checkpoints, events, run, hTrace, -, -, hRows, -⟩
    · exact (hNot hStatus).elim
    rcases rows_of_traced hRerun with ⟨-, -, hNot, -⟩ |
      ⟨inner', checkpoints', events', run', -, -, -, hRows', -⟩
    · exact (hNot hVerified).elim
    obtain rfl : checkpoints = checkpoints' := by
      simpa using run.checkpoints_eq.symm.trans run'.checkpoints_eq
    obtain rfl : events = events' := by simpa using run.events_eq.symm.trans run'.events_eq
    have hEvents : tracedEvents b = events := by
      rw [tracedEvents, if_pos hTrace]
      simp [Json.listAt, run.events_eq, Json.arr?]
    rw [hRows, hRows', run.eventRows, run'.eventRows, List.map_map, List.map_map,
      List.map_inj_left] at hSame
    exact (contentOk_iff (hGenuine ev hEv) _).mp (hSame ev (hEvents ▸ hEv))
  · intro hDisclosed
    obtain ⟨rerun, hRerun, hSame⟩ := sameUpToNotes_rerun h hStatus fun ev hEv byTxId =>
      (contentOk_iff (hGenuine ev hEv) byTxId).mpr (hDisclosed ev hEv)
    have hVerified := hSame.status.trans hStatus
    have hAgain := hSame.exported.trans hExported
    exact ⟨rerun, exported, hRerun, hAgain, (exported_spec hRerun hAgain).2 hVerified, hVerified⟩

section Sample

open Reference

/-- The content behind the hash in the record of the event, as a side input. -/
def sampleContent (eventId : Str) : Option SideContent :=
  if eventId = utf16 "e1" then some (.raw ((utf16 "disclosed").map UInt16.toUInt8)) else none

theorem tracedEvents_sampleExport : tracedEvents sampleExport = [sampleEvent 1 2] := by
  have hSource : sourceOf sampleExport = sampleTrace := by
    simp [sourceOf, sampleExport, exporting, wrapper, Json.get, List.lookup_cons]
  have hExport : isExport sampleExport = true := by
    simp [isExport, sampleExport, exporting, wrapper, Json.get, List.lookup_cons, Json.str?]
  have hTrace : isTrace sampleTrace = true := by
    simp [isTrace, sampleTrace, trace, wrapper, Json.get, List.lookup_cons, Json.str?]
  rw [tracedEvents, traced_of_isExport hExport, hSource,
    traced_of_not_isExport (isExport_eq_false_of_isTrace hTrace), if_pos hTrace]
  exact (listAt_trace _ _ _ _).2

theorem genuineFor_sampleContent :
    ∀ ev ∈ tracedEvents sampleExport, GenuineFor sampleExportRuntime sampleContent ev := by
  rw [tracedEvents_sampleExport]
  simp only [List.mem_singleton, forall_eq]
  have hEventId : getEventId ((sampleEvent 1 2).get "envelope") = utf16 "e1" := by
    simp [sampleEvent, event, sampleEnvelope, envelope, getEventId, Json.get, List.lookup_cons]
  have hInBody : (inBodyContent sampleExportRuntime (sampleEvent 1 2)).1 = none := by
    simp [inBodyContent, sampleEvent, event, Json.get, List.lookup_cons]
  refine ⟨fun _ => ⟨(utf16 "disclosed").map UInt16.toUInt8, ?_, fun _ => ?_, ?_⟩⟩
  · simp [sideContent, hEventId, sampleContent]
  · decide +kernel
  · simp [hInBody]

theorem disclosure_keeps_verified_sample :
    (∃ rerun again, verifyEvidenceBundle sampleExportRuntime sampleExport
        (Options.withContent sampleContent) = .ok rerun ∧ rerun.exported = some again ∧
      again.verdictAgreementOk = true ∧ rerun.status = .verified) ↔
    ∀ ev ∈ tracedEvents sampleExport, (sampleContent (getEventId (ev.get "envelope"))).isSome →
      Disclosed sampleExportRuntime ev := by
  obtain ⟨result, exported, hRun, hStatus, hExported, -⟩ := sampleExport_run
  exact disclosure_keeps_verified_iff jcsCompositional jcsInjective sampleExport sampleContent
    result exported hRun hExported hStatus genuineFor_sampleContent

/-- The committed content of an event, supplied on the side, makes a verified
export a failed one. -/
theorem sampleContent_fails_sampleExport : ∃ result rerun,
    verifyEvidenceBundle sampleExportRuntime sampleExport .offline = .ok result ∧
      result.status = .verified ∧
      (∀ ev ∈ tracedEvents sampleExport, GenuineFor sampleExportRuntime sampleContent ev) ∧
      verifyEvidenceBundle sampleExportRuntime sampleExport (Options.withContent sampleContent) =
        .ok rerun ∧
      rerun.exported.map (·.verdictAgreementOk) = some false ∧ rerun.status = .failed := by
  obtain ⟨result, -, hRun, hStatus, -⟩ := sampleExport_run
  obtain ⟨rerun, hRerun, h⟩ := exists_of_returns (show returns
    (verifyEvidenceBundle sampleExportRuntime sampleExport (Options.withContent sampleContent))
    (fun rerun => rerun.exported.map (·.verdictAgreementOk) = some false ∧
      rerun.status = .failed) = true
    by decide +kernel)
  obtain ⟨hAgreement, hFailed⟩ := of_decide_eq_true h
  exact ⟨result, rerun, hRun, hStatus, genuineFor_sampleContent, hRerun, hAgreement, hFailed⟩

end Sample
end ArioProof.Python
