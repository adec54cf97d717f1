import ArioProof.Evidence.BundleRun

/-! What a run over an export has done. The rows of an export are those of the
bundle at the end of its chain of inline sources, while its attestations are
compared with the entries of its own source. -/
namespace ArioProof

open Foundation

/-- A bundle whose `body_type` is that of an attested export. -/
def isExport (b : Json) : Bool := (b.get "body_type").str? = some (utf16 exportBodyType)

/-- A bundle whose `body_type` is that of an anchor trace. -/
def isTrace (b : Json) : Bool := (b.get "body_type").str? = some (utf16 anchorTraceBodyType)

theorem isExport_eq_false_of_isTrace {b : Json} (h : isTrace b = true) : isExport b = false := by
  simp only [isTrace, decide_eq_true_eq] at h
  simp [isExport, h, exportBodyType, anchorTraceBodyType]

/-- The source of an export is nested less deeply, which is why a chain of sources
ends. -/
theorem depth_sourceOf_lt_of_isExport {b : Json} (h : isExport b = true) :
    (sourceOf b).depth < b.depth := by
  by_cases hNull : sourceOf b = .null
  · rw [hNull]
    cases b with
    | obj members => simp [Json.depth]
    | _ => simp [isExport, Json.get, Json.get?, Json.str?] at h
  · exact depth_sourceOf_lt hNull

/-- The bundle at the end of the chain of inline sources. -/
def traced (b : Json) : Json :=
  if _h : isExport b then traced (sourceOf b) else b
termination_by b.depth
decreasing_by exact depth_sourceOf_lt_of_isExport _h

theorem traced_of_isExport {b : Json} (h : isExport b = true) : traced b = traced (sourceOf b) := by
  rw [traced, dif_pos h]

theorem traced_of_not_isExport {b : Json} (h : isExport b = false) : traced b = b := by
  rw [traced, dif_neg (by simp [h])]

/-- The checkpoint entries behind the rows of a result. -/
def tracedCheckpoints (b : Json) : List Json :=
  if isTrace (traced b) then ((traced b).get "body").listAt "checkpoints" else []

/-- The map of an export finds the last entry with the id. -/
theorem lookup_sourceCheckpoints (inline : Json) (txId : Str) :
    (sourceCheckpoints inline).lookup txId =
      ((inline.get "body").listAt "checkpoints").reverse.find? (hasTxId txId) := by
  have run (step : List (Str × Json) → Json → List (Str × Json))
      (hStep : ∀ acc cp, (step acc cp).lookup txId =
        (if hasTxId txId cp then some cp else none).or (acc.lookup txId))
      (checkpoints : List Json) (acc : List (Str × Json)) :
      (checkpoints.foldl step acc).lookup txId =
        (checkpoints.reverse.find? (hasTxId txId)).or (acc.lookup txId) := by
    induction checkpoints generalizing acc with
    | nil => simp
    | cons cp rest ih =>
        rw [List.foldl_cons, ih, List.reverse_cons, List.find?_append, List.find?_singleton, hStep,
          Option.or_assoc]
  unfold sourceCheckpoints
  rw [run]
  · rw [List.lookup_nil, Option.or_none]
  · intro acc cp
    unfold hasTxId
    cases cp.get "tx_id" with
    | str own =>
        by_cases hSame : own = txId
        · subst hSame
          simp [Json.str?]
        · have hOther : (txId == own) = false := by simpa using fun h => hSame h.symm
          simp [Json.str?, hSame, List.lookup_cons, hOther]
    | _ => simp [Json.str?]

variable {ε : Type} {K : Kernel ε} {b : Json} {options : Options} {result : EvidenceBundleResult}

/-- The rollup of an export that did not fail passes on the status of its
source. -/
theorem exportStatus_cases {sourceLinkageOk verdictAgreementOk : Bool} {source : Status}
    {attestations : List AttestationResult}
    (h : exportStatus sourceLinkageOk verdictAgreementOk source attestations ≠ .failed) :
    sourceLinkageOk = true ∧ verdictAgreementOk = true ∧
      (source = .verified ∨ source = .partly) ∧ (∀ a ∈ attestations, a.ok = true) ∧
      exportStatus sourceLinkageOk verdictAgreementOk source attestations = source := by
  have hAny : attestations.any (!·.ok) = false ↔ ∀ a ∈ attestations, a.ok = true := by
    simp [List.any_eq_false]
  rw [← hAny]
  unfold exportStatus at h ⊢
  revert h
  generalize attestations.any (!·.ok) = anyFailed
  cases sourceLinkageOk <;> cases verdictAgreementOk <;> cases source <;> cases anyFailed <;> decide

section Body

variable {verifySource : Json → Except ε EvidenceBundleResult}

theorem verifyBody_of_isExport (h : isExport b = true) :
    verifyBody K verifySource options b =
      verifyExportBody K verifySource b true (assertedStatus b) [] := by
  unfold verifyBody
  rw [if_pos (by simpa [isExport] using h)]

theorem verifyBody_of_isTrace (h : isTrace b = true) :
    verifyBody K verifySource options b =
      verifyAnchorTrace K b anchorTraceBodyType true (assertedStatus b) [] options := by
  have hNot := isExport_eq_false_of_isTrace h
  unfold verifyBody
  rw [if_neg (by simpa [isExport] using hNot), if_pos (by simpa [isTrace] using h)]

/-- A body of any other type is not looked into, and says so in its note. -/
theorem verifyBody_of_unknown (hExport : isExport b = false) (hTrace : isTrace b = false) :
    verifyBody K verifySource options b = .ok (wrapperResult b .partly true true
      [fstring ["body_type ", K.quote (some (((b.get "body_type").str?.map .str).getD .null)),
        " is not verifiable by this kernel (only ", anchorTraceBodyType,
        "); wrapper verified, body undetermined"]]) := by
  unfold verifyBody
  rw [if_neg (by simpa [isExport] using hExport), if_neg (by simpa [isTrace] using hTrace)]

end Body

/-- How a bundle under a wrapper that holds was read. -/
inductive BodyRun {ε : Type} (K : Kernel ε) (b : Json) (options : Options) (result : EvidenceBundleResult) :
    Prop where
  | trace (checkpoints events : List Json) (hType : isTrace b = true)
      (run : TraceRun K b options result checkpoints events)
  | finished (source : EvidenceBundleResult) (attestations : List AttestationResult)
      (hType : isExport b = true)
      (run : ExportRun K (fun inline => verifyEvidenceBundle K inline options) b true
        (assertedStatus b) [] result source attestations)
      (status : result.status = source.status) (attested : ∀ a ∈ attestations, a.ok = true)
  | withoutSource (hType : isExport b = true) (inline : sourceOf b = .null)
      (status : result.status = .partly) (checkpoints : result.checkpoints = [])
      (events : result.events = []) (exported : result.exported = none)
  | unknown (hExport : isExport b = false) (hTrace : isTrace b = false)
      (status : result.status = .partly) (checkpoints : result.checkpoints = [])
      (events : result.events = []) (exported : result.exported = none)

/-- Every result that is neither failed nor malformed was read in one of these
ways. -/
theorem bodyRun_of_status (h : verifyEvidenceBundle K b options = .ok result)
    (hStatus : result.status ≠ .failed ∧ result.status ≠ .malformed) :
    BodyRun K b options result := by
  obtain ⟨-, hBody⟩ := wrapped_of_status h hStatus
  unfold verifyBody at hBody
  simp only at hBody
  split_ifs at hBody with hExport hTrace
  · have hType : isExport b = true := by simpa [isExport] using hExport
    rcases verifyExportBody_eq_ok hBody with ⟨source, attestations, run⟩ |
      ⟨hEarly, hExported, hCheckpoints, hEvents, -⟩
    · have hRollup := run.result_eq
      have hNotFailed := hStatus.1
      rw [hRollup] at hNotFailed
      obtain ⟨-, -, -, hAttested, hSame⟩ := exportStatus_cases hNotFailed
      exact .finished source attestations hType run (by rw [hRollup]; exact hSame) hAttested
    · rcases hEarly with hBad | ⟨hPartly, hNull⟩
      · exact (hStatus.2 hBad).elim
      · exact .withoutSource hType hNull hPartly hCheckpoints hEvents hExported
  · have hType : isTrace b = true := by simpa [isTrace] using hTrace
    rcases verifyAnchorTrace_eq_ok hBody with ⟨checkpoints, events, run, -⟩ | hMalformed
    · exact .trace checkpoints events hType run
    · rw [hMalformed] at hStatus
      simp [malformed] at hStatus
  · cases hBody
    exact .unknown (by simpa [isExport] using hExport) (by simpa [isTrace] using hTrace) rfl rfl
      rfl rfl

/-- A result with an export part is that of an export run to its rollup. -/
theorem exportRun_of_exported {exported : ExportResult}
    (h : verifyEvidenceBundle K b options = .ok result) (hExported : result.exported = some exported) :
    Wrapped K b ∧ isExport b = true ∧ ∃ source attestations,
      ExportRun K (fun inline => verifyEvidenceBundle K inline options) b true (assertedStatus b) []
        result source attestations := by
  rw [verifyEvidenceBundle_eq] at h
  by_cases hb : Wrapped K b
  · rw [verifyBundle_of_wrapped hb] at h
    by_cases hExport : isExport b = true
    · rw [verifyBody_of_isExport hExport] at h
      rcases verifyExportBody_eq_ok h with hRun | ⟨-, hNone, -⟩
      · exact ⟨hb, hExport, hRun⟩
      · rw [hNone] at hExported
        cases hExported
    · by_cases hTrace : isTrace b = true
      · rw [verifyBody_of_isTrace hTrace] at h
        rcases verifyAnchorTrace_eq_ok h with ⟨_, _, hRun, -⟩ | rfl
        · rw [hRun.exported] at hExported
          cases hExported
        · cases hExported
      · rw [verifyBody_of_unknown (by simpa using hExport) (by simpa using hTrace)] at h
        cases h
        cases hExported
  · obtain ⟨other, hOther, -, -, -, hNone⟩ := verifyBundle_of_not_wrapped hb
      (fun inline => verifyEvidenceBundle K inline options) options
    rw [h] at hOther
    cases hOther
    rw [hNone] at hExported
    cases hExported

/-- A result that did not fail names the body type of its bundle. -/
theorem bodyType_of_status (h : verifyEvidenceBundle K b options = .ok result)
    (hStatus : result.status ≠ .failed ∧ result.status ≠ .malformed) :
    result.bodyType = (b.get "body_type").str? := by
  obtain ⟨-, hBody⟩ := wrapped_of_status h hStatus
  unfold verifyBody at hBody
  simp only at hBody
  split_ifs at hBody with hExport hTrace
  · rw [hExport]
    rcases verifyExportBody_eq_ok hBody with ⟨source, attestations, run⟩ | ⟨-, -, -, -, hType, -⟩
    · rw [run.result_eq]
      rfl
    · exact hType
  · rw [hTrace]
    rcases verifyAnchorTrace_eq_ok hBody with ⟨checkpoints, events, -, hType⟩ | hMalformed
    · exact hType
    · rw [hMalformed] at hStatus
      simp [malformed] at hStatus
  · cases hBody
    rfl

/-- The events of a bundle are read when each export of its chain holds and can
be read, down to a trace that holds and has both lists. -/
inductive EventsRead {ε : Type} (K : Kernel ε) : Json → Prop where
  | trace {b : Json} {checkpoints events : List Json} (hb : Wrapped K b)
      (hType : isTrace b = true)
      (hCheckpoints : (b.get "body").get "checkpoints" = .arr checkpoints)
      (hEvents : (b.get "body").get "events" = .arr events) : EventsRead K b
  | source {b : Json} (hb : Wrapped K b) (hType : isExport b = true) (hBody : BodyRead K b)
      (hSource : EventsRead K (sourceOf b)) : EventsRead K b

/-- Events are only read under a wrapper that holds. -/
theorem EventsRead.wrapped (h : EventsRead K b) : Wrapped K b := by
  cases h with
  | trace hb => exact hb
  | source hb => exact hb

/-- Behind an export, events are read by way of its body and its source. -/
theorem EventsRead.of_isExport (h : EventsRead K b) (hExport : isExport b = true) :
    BodyRead K b ∧ EventsRead K (sourceOf b) := by
  cases h with
  | trace _ hType => simp [isExport_eq_false_of_isTrace hType] at hExport
  | source _ _ hBody hSource => exact ⟨hBody, hSource⟩

/-- Elsewhere they are read from the lists of a trace. -/
theorem EventsRead.of_not_isExport (h : EventsRead K b) (hExport : isExport b = false) :
    isTrace b = true ∧ ∃ checkpoints events,
      (b.get "body").get "checkpoints" = .arr checkpoints ∧
        (b.get "body").get "events" = .arr events := by
  cases h with
  | trace _ hType hCheckpoints hEvents => exact ⟨hType, _, _, hCheckpoints, hEvents⟩
  | source _ hType => simp [hType] at hExport

/-- A run that was turned away before it came to any row. Unless it failed there
were no entries to come to either. -/
structure TurnedAway (K : Kernel ε) (b : Json) (result : EvidenceBundleResult) : Prop where
  checkpoints : result.checkpoints = []
  events : result.events = []
  status : result.status ≠ .verified
  entries : result.status ≠ .failed ∧ result.status ≠ .malformed → tracedCheckpoints b = []
  unread : ¬EventsRead K b

/-- A run that shows the rows of the trace at the end of the chain. A result that
did not fail has the status of that trace. -/
structure RowsTraced (K : Kernel ε) (options : Options) (b : Json)
    (result inner : EvidenceBundleResult) (checkpoints events : List Json) : Prop where
  run : TraceRun K (traced b) options inner checkpoints events
  isTrace : isTrace (traced b) = true
  entries : tracedCheckpoints b = checkpoints
  checkpoints : result.checkpoints = inner.checkpoints
  events : result.events = inner.events
  status : result.status ≠ .failed ∧ result.status ≠ .malformed → result.status = inner.status
  read : EventsRead K b

theorem turnedAway_of_not_wrapped (hb : ¬Wrapped K b)
    (h : verifyEvidenceBundle K b options = .ok result) : TurnedAway K b result := by
  obtain ⟨other, hOther, hBad, hCheckpoints, hEvents, -⟩ := verifyBundle_of_not_wrapped hb
    (fun inline => verifyEvidenceBundle K inline options) options
  rw [verifyEvidenceBundle_eq, hOther] at h
  cases h
  refine ⟨hCheckpoints, hEvents, ?_, fun hGood => ?_, fun hRead => hb hRead.wrapped⟩
  · rcases hBad with hFailed | hMalformed
    · simp [hFailed]
    · simp [hMalformed]
  · rcases hBad with hFailed | hMalformed
    · exact (hGood.1 hFailed).elim
    · exact (hGood.2 hMalformed).elim

/-- The end of the chain: a trace has the rows of its own run, and a body of any
other type has none. -/
theorem rows_of_not_isExport (hExport : isExport b = false) (hb : Wrapped K b)
    (h : verifyEvidenceBundle K b options = .ok result) : TurnedAway K b result ∨
      ∃ inner checkpoints events, RowsTraced K options b result inner checkpoints events := by
  have hTraced : traced b = b := traced_of_not_isExport hExport
  rw [verifyEvidenceBundle_eq, verifyBundle_of_wrapped hb] at h
  by_cases hTrace : isTrace b = true
  · rw [verifyBody_of_isTrace hTrace] at h
    rcases verifyAnchorTrace_eq_ok h with ⟨checkpoints, events, run, -⟩ | rfl
    · refine Or.inr ⟨result, checkpoints, events, hTraced.symm ▸ run, hTraced.symm ▸ hTrace, ?_, rfl,
        rfl, fun _ => rfl, .trace hb hTrace run.checkpoints_eq run.events_eq⟩
      rw [tracedCheckpoints, hTraced, if_pos hTrace]
      simp [Json.listAt, run.checkpoints_eq, Json.arr?]
    · refine Or.inl ⟨rfl, rfl, by simp [malformed], fun hGood => (hGood.2 rfl).elim,
        fun hRead => ?_⟩
      obtain ⟨-, _, _, hCheckpoints, hEvents⟩ := hRead.of_not_isExport hExport
      cases bodyType_of_lists h hCheckpoints hEvents
  · rw [verifyBody_of_unknown hExport (by simpa using hTrace)] at h
    cases h
    refine Or.inl ⟨rfl, rfl, by simp [wrapperResult], fun _ => ?_,
      fun hRead => hTrace (hRead.of_not_isExport hExport).1⟩
    rw [tracedCheckpoints, hTraced, if_neg hTrace]

/-- Above the end of the chain: an export that gets to its rollup shows the rows
of its source, and otherwise none. -/
theorem rows_of_isExport (hExport : isExport b = true) (hb : Wrapped K b)
    (h : verifyEvidenceBundle K b options = .ok result)
    (hSource : ∀ source, verifyEvidenceBundle K (sourceOf b) options = .ok source →
      TurnedAway K (sourceOf b) source ∨ ∃ inner checkpoints events,
        RowsTraced K options (sourceOf b) source inner checkpoints events) :
    TurnedAway K b result ∨
      ∃ inner checkpoints events, RowsTraced K options b result inner checkpoints events := by
  have hTraced := traced_of_isExport hExport
  have hEntries : tracedCheckpoints b = tracedCheckpoints (sourceOf b) := by
    rw [tracedCheckpoints, tracedCheckpoints, hTraced]
  rw [verifyEvidenceBundle_eq, verifyBundle_of_wrapped hb, verifyBody_of_isExport hExport] at h
  rcases verifyExportBody_eq_ok h with ⟨source, attestations, run⟩ |
    ⟨hEarly, -, hCheckpoints, hEvents, -, hUnread⟩
  · have hCheckpoints : result.checkpoints = source.checkpoints := by rw [run.result_eq]; rfl
    have hEvents : result.events = source.events := by rw [run.result_eq]; rfl
    -- Unless an export fails it has the status of its source.
    have hSame : result.status ≠ .failed → result.status = source.status ∧
        source.status ≠ .failed ∧ source.status ≠ .malformed := by
      rw [run.result_eq]
      intro hNot
      obtain ⟨-, -, hGood, -, hSame⟩ := exportStatus_cases hNot
      exact ⟨hSame, by rcases hGood with h | h <;> simp [h]⟩
    have hBody : BodyRead K b := ⟨run.complaint, run.inline, fun message hMalformed => by
      rw [run.attestations_eq] at hMalformed
      cases hMalformed⟩
    rcases hSource source run.source_eq with hAway | ⟨inner, checkpoints, events, hRows⟩
    · refine Or.inl ⟨hCheckpoints.trans hAway.checkpoints, hEvents.trans hAway.events,
        fun hVerified => ?_, fun hGood => ?_,
        fun hRead => hAway.unread (hRead.of_isExport hExport).2⟩
      · exact hAway.status ((hSame (by simp [hVerified])).1.symm.trans hVerified)
      · exact hEntries.trans (hAway.entries (hSame hGood.1).2)
    · refine Or.inr ⟨inner, checkpoints, events, hTraced ▸ hRows.run, hTraced ▸ hRows.isTrace,
        hEntries.trans hRows.entries, hCheckpoints.trans hRows.checkpoints,
        hEvents.trans hRows.events, fun hGood => ?_, .source hb hExport hBody hRows.read⟩
      obtain ⟨hEq, hGoodSource⟩ := hSame hGood.1
      exact hEq.trans (hRows.status hGoodSource)
  · refine Or.inl ⟨hCheckpoints, hEvents, ?_, fun hGood => ?_,
      fun hRead => hUnread (hRead.of_isExport hExport).1⟩
    · rcases hEarly with hBad | ⟨hPartly, -⟩ <;> simp [*]
    · rcases hEarly with hBad | ⟨-, hNull⟩
      · exact (hGood.2 hBad).elim
      · rw [hEntries, hNull, tracedCheckpoints, traced_of_not_isExport (by rfl)]
        rfl

/-- The rows of a result are those of the trace at the end of the chain, or
there are none, because the run was turned away before it came to them. -/
theorem rows_of_traced (h : verifyEvidenceBundle K b options = .ok result) :
    TurnedAway K b result ∨
      ∃ inner checkpoints events, RowsTraced K options b result inner checkpoints events := by
  induction b using traced.induct generalizing result with
  | case1 b hExport ih =>
      by_cases hb : Wrapped K b
      · exact rows_of_isExport hExport hb h fun _ hSource => ih hSource
      · exact Or.inl (turnedAway_of_not_wrapped hb h)
  | case2 b hExport =>
      by_cases hb : Wrapped K b
      · exact rows_of_not_isExport (Bool.eq_false_iff.mpr hExport) hb h
      · exact Or.inl (turnedAway_of_not_wrapped hb h)

/-- The rows of a result that did not fail are those of a run over the traced
entries, or there are neither rows nor entries. -/
theorem traceRun_of_traced (h : verifyEvidenceBundle K b options = .ok result)
    (hStatus : result.status ≠ .failed ∧ result.status ≠ .malformed) :
    (tracedCheckpoints b = [] ∧ result.checkpoints = [] ∧ result.events = []) ∨
    ∃ inner checkpoints events, TraceRun K (traced b) options inner checkpoints events ∧
      tracedCheckpoints b = checkpoints ∧ result.checkpoints = inner.checkpoints ∧
      result.events = inner.events ∧ result.status = inner.status := by
  rcases rows_of_traced h with ⟨hCheckpoints, hEvents, -, hTraced, -⟩ |
    ⟨inner, checkpoints, events, run, -, hTraced, hRows, hEventRows, hSame, -⟩
  · exact Or.inl ⟨hTraced hStatus, hCheckpoints, hEvents⟩
  · exact Or.inr ⟨inner, checkpoints, events, run, hTraced, hRows, hEventRows, hSame hStatus⟩

end ArioProof
