import ArioProof.Evidence.Simulation
import Mathlib.Data.List.Infix

/-! The exit code of a run. Code 3 is read off the texts of the notes, and one
of them quotes the bundle. -/
namespace ArioProof

open Foundation

section Exit

/-- What a note says of a check that wanted the network. -/
def undeterminedMarkers : List String :=
  ["unreachable", "could not be re-fetched", "unavailable offline"]

def isUndetermined (e : Str) : Bool := undeterminedMarkers.any fun marker => utf16 marker <:+: e

/-- The exit code of a status with its notes. A partial result is told from an
undetermined one by the words in its notes, as the source does. -/
def exitOf (status : Status) (errors : List Str) : Nat :=
  match status with
  | .failed => 1
  | .malformed => 2
  | .partly => if errors.any isUndetermined then 3 else 0
  | .verified => 0

theorem exitOf_eq_three {status : Status} {errors : List Str} :
    exitOf status errors = 3 ↔ status = .partly ∧ errors.any isUndetermined = true := by
  cases status <;> simp [exitOf]

/-- A note of the source keeps its markers and gets no others: none begins
within the text in front of it. -/
theorem isUndetermined_source (e : Str) : isUndetermined (fstring ["source: ", e]) = isUndetermined e := by
  have hText : fstring ["source: ", e] =
      0x73 :: 0x6F :: 0x75 :: 0x72 :: 0x63 :: 0x65 :: 0x3A :: 0x20 :: e := by
    rw [fstring, List.flatten_cons, List.flatten_cons, List.flatten_nil, List.append_nil]
    rfl
  have hBegins : ∀ marker ∈ undeterminedMarkers, ∃ first second rest,
      utf16 marker = first :: second :: rest ∧
        (first = 0x75 ∧ second = 0x6E ∨ first = 0x63 ∧ second = 0x6F) := by
    simp only [undeterminedMarkers, List.forall_mem_cons]
    exact ⟨⟨_, _, _, rfl, by decide⟩, ⟨_, _, _, rfl, by decide⟩, ⟨_, _, _, rfl, by decide⟩,
      by simp⟩
  have hInfix : ∀ marker ∈ undeterminedMarkers,
      (utf16 marker <:+: fstring ["source: ", e]) = (utf16 marker <:+: e) := by
    intro marker hMarker
    obtain ⟨first, second, rest, hMarker, ⟨rfl, rfl⟩ | ⟨rfl, rfl⟩⟩ := hBegins marker hMarker
    · rw [hMarker, hText]
      simp [List.infix_cons_iff, List.cons_prefix_cons]
    · rw [hMarker, hText]
      simp [List.infix_cons_iff, List.cons_prefix_cons]
  unfold isUndetermined
  rw [Bool.eq_iff_iff, List.any_eq_true, List.any_eq_true]
  refine exists_congr fun marker => and_congr_right fun hMarker => ?_
  rw [decide_eq_true_eq, decide_eq_true_eq, hInfix marker hMarker]

end Exit
variable {ε : Type} {K : Kernel ε} {b inner : Json} {options : Options}
  {result : EvidenceBundleResult}

section Notes

/-- The one note of a wrapper that holds over a body type the kernels do not
know. It quotes the body type. -/
def unknownNote (K : Kernel ε) (b : Json) : Str :=
  fstring ["body_type ", K.quote (some (((b.get "body_type").str?.map .str).getD .null)),
    " is not verifiable by this kernel (only ", anchorTraceBodyType,
    "); wrapper verified, body undetermined"]

/-- The notes of a trace: those of the re-fetch, and one that it is incomplete. -/
def refetchNotes (K : Kernel ε) (options : Options) (checkpoints : List Json)
    (result : EvidenceBundleResult) : List Str :=
  let (_, gatewayUnavailable, notes) :=
    refetch K (firstEntries checkpoints) options (checkpointRows K [] checkpoints)
  notes ++ (if !anyHardFailure result.checkpoints result.events && gatewayUnavailable then
    [utf16 "one or more checkpoints could not be re-fetched from the supplied gateways"] else [])

theorem TraceRun.errors_eq {checkpoints events : List Json} {bodyType : Str} {specVersionOk : Bool}
    {asserted : Option Str} {errors : List Str}
    (run : TraceRun K b options result checkpoints events)
    (h : verifyAnchorTrace K b bodyType specVersionOk asserted errors options = .ok result) :
    result.errors = errors ++ refetchNotes K options checkpoints result := by
  unfold verifyAnchorTrace at h
  simp only [run.body_read, run.checkpoints_eq, run.events_eq,
    verifyCheckpoints_of_readable K run.checkpoint_read,
    verifyEvents_of_readable K run.event_read, bind, Except.bind] at h
  cases h
  rw [refetchNotes, ← List.append_assoc]
  rfl

/-- An export whose checks over its source all hold. The status of the source
itself is not among them; the rollup reads it apart. -/
structure Accepts (K : Kernel ε) (options : Options) (b : Json)
    (source : EvidenceBundleResult) (attestations : List AttestationResult) : Prop where
  complaint : exportComplaint (b.get "body") = none
  inline : sourceOf b ≠ .null
  source_eq : verifyEvidenceBundle K (sourceOf b) options = .ok source
  attestations_eq : verifyAttestations K (sourceCheckpoints (sourceOf b))
    ((b.get "body").listAt "attestations") = .ok (.ok attestations)
  linkage : (checkHash K (sourceOf b) ((b.get "body").get "source_bundle_hash")
    "source_bundle_hash mismatch: " "body=" "source_bundle canonicalization failed: ").1 = true
  agreement : (verdictAgreement K ((b.get "body").get "kernel_verdict")
    (freshVerdict b source attestations)).1 = true
  attested : ∀ a ∈ attestations, a.ok = true

/-- How a result that is verified or partial came about, with its notes. -/
inductive Noted (K : Kernel ε) (options : Options) (b : Json) (result : EvidenceBundleResult) :
    Prop where
  | trace (checkpoints events : List Json) (hType : isTrace b = true)
      (run : TraceRun K b options result checkpoints events)
      (errors : result.errors = refetchNotes K options checkpoints result)
  | finished (source : EvidenceBundleResult) (attestations : List AttestationResult)
      (hType : isExport b = true) (accepts : Accepts K options b source attestations)
      (status : result.status = source.status) (checkpoints : result.checkpoints = source.checkpoints)
      (onChainChecked : result.onChainChecked = source.onChainChecked)
      (errors : result.errors = source.errors.map fun e => fstring ["source: ", e])
  | withoutSource (hType : isExport b = true) (inline : sourceOf b = .null)
      (status : result.status = .partly) (checkpoints : result.checkpoints = [])
      (onChainChecked : result.onChainChecked = false)
  | unknown (hExport : isExport b = false) (hTrace : isTrace b = false)
      (status : result.status = .partly) (checkpoints : result.checkpoints = [])
      (onChainChecked : result.onChainChecked = false) (errors : result.errors = [unknownNote K b])

theorem verdictAgreement_eq_true {cached fresh : Json} (h : (verdictAgreement K cached fresh).1 = true) :
    (verdictAgreement K cached fresh).2 = [] := by
  obtain ⟨bytes, hCached, hFresh⟩ := verdictAgreement_iff_canonical.mp h
  simp [verdictAgreement, hCached, hFresh, bind, Except.bind, pure, Except.pure]

/-- The result of an accepted export is its source's, under the same status. -/
theorem finished_of_accepts {source : EvidenceBundleResult} {attestations : List AttestationResult}
    (h : Accepts K options b source attestations)
    (hSource : source.status = .verified ∨ source.status = .partly)
    (run : ExportRun K (fun inline => verifyEvidenceBundle K inline options) b true
      (assertedStatus b) [] result source attestations) : result.status = source.status ∧
      result.checkpoints = source.checkpoints ∧ result.onChainChecked = source.onChainChecked ∧
      result.errors = source.errors.map fun e => fstring ["source: ", e] := by
  obtain ⟨canonical, -, -, hNoNote⟩ := checkHash_eq_true h.linkage
  have hAgree := verdictAgreement_eq_true h.agreement
  have hAny : attestations.any (!·.ok) = false := by
    simpa [List.any_eq_false] using h.attested
  rw [run.result_eq]
  refine ⟨?_, rfl, rfl, ?_⟩
  · simp only [finishExport, h.linkage, h.agreement, exportStatus, hAny]
    rcases hSource with hStatus | hStatus <;> rw [hStatus] <;> rfl
  · simp only [finishExport, hNoNote, hAgree, List.append_nil, List.nil_append]

theorem noted_of_status (h : verifyEvidenceBundle K b options = .ok result)
    (hStatus : result.status ≠ .failed ∧ result.status ≠ .malformed) :
    Wrapped K b ∧ Noted K options b result := by
  obtain ⟨hb, hBody⟩ := wrapped_of_status h hStatus
  refine ⟨hb, ?_⟩
  by_cases hExport : isExport b = true
  · rw [verifyBody_of_isExport hExport] at hBody
    rcases verifyExportBody_eq_ok hBody with ⟨source, attestations, run⟩ |
      ⟨hEarly, -, hCheckpoints, -, -⟩
    · have hNotFailed := hStatus.1
      rw [run.result_eq] at hNotFailed
      obtain ⟨hLinkage, hAgreement, hGood, hAttested, -⟩ := exportStatus_cases hNotFailed
      have accepts : Accepts K options b source attestations := ⟨run.complaint, run.inline,
        run.source_eq, run.attestations_eq, hLinkage, hAgreement, hAttested⟩
      obtain ⟨hSame, hRows, hChecked, hErrors⟩ := finished_of_accepts accepts hGood run
      exact .finished source attestations hExport accepts hSame hRows hChecked hErrors
    · rcases hEarly with hBad | ⟨hPartly, hNull⟩
      · exact (hStatus.2 hBad).elim
      · refine .withoutSource hExport hNull hPartly hCheckpoints ?_
        unfold verifyExportBody at hBody
        rw [sourceOf] at hNull
        simp only [hNull] at hBody
        split at hBody <;> cases hBody <;> rfl
  · by_cases hTrace : isTrace b = true
    · rw [verifyBody_of_isTrace hTrace] at hBody
      rcases verifyAnchorTrace_eq_ok hBody with ⟨checkpoints, events, run, -⟩ | rfl
      · exact .trace checkpoints events hTrace run (by simpa using run.errors_eq hBody)
      · exact (hStatus.2 rfl).elim
    · rw [verifyBody_of_unknown (by simpa using hExport) (by simpa using hTrace)] at hBody
      cases hBody
      exact .unknown (by simpa using hExport) (by simpa using hTrace) rfl rfl rfl rfl

end Notes

section Offline

/-- The chain of accepted exports below which the verifier meets a body type it
does not know. -/
inductive Undecided (K : Kernel ε) (options : Options) : Json → Json → Prop where
  | unknown {b : Json} (wrapped : Wrapped K b) (hExport : isExport b = false)
      (hTrace : isTrace b = false) : Undecided K options b b
  | source {b inner : Json} {source : EvidenceBundleResult}
      {attestations : List AttestationResult} (wrapped : Wrapped K b) (hType : isExport b = true)
      (accepts : Accepts K options b source attestations)
      (h : Undecided K options (sourceOf b) inner) : Undecided K options b inner

/-- Every export in a bundle carries its source inline. -/
def SourcesInline (b : Json) : Prop :=
  ∀ inner, Level b inner → isExport inner = true → sourceOf inner ≠ .null

/-- An undecided bundle is partial, and shows the note of the unknown body. -/
theorem result_of_undecided (h : Undecided K options b inner) :
    ∃ result, verifyEvidenceBundle K b options = .ok result ∧ result.status = .partly ∧
      (isUndetermined (unknownNote K inner) = true → result.errors.any isUndetermined = true) := by
  induction h with
  | @unknown b wrapped hExport hTrace =>
      rw [verifyEvidenceBundle_eq, verifyBundle_of_wrapped wrapped,
        verifyBody_of_unknown hExport hTrace]
      refine ⟨_, rfl, rfl, fun hNote => ?_⟩
      rw [wrapperResult, List.any_cons, ← unknownNote, hNote, Bool.true_or]
  | @source b inner source attestations wrapped hType accepts h ih =>
      obtain ⟨own, hOwn, hStatus, hNote⟩ := ih
      rw [accepts.source_eq] at hOwn
      cases hOwn
      obtain ⟨result, hResult, run⟩ := verifyExportBody_of_read
        (fun inline => verifyEvidenceBundle K inline options) accepts.complaint accepts.inline
        accepts.source_eq accepts.attestations_eq true (assertedStatus b) []
      obtain ⟨hSame, -, -, hErrors⟩ := finished_of_accepts accepts (Or.inr hStatus) run
      refine ⟨result, ?_, hSame.trans hStatus, fun hMarked => ?_⟩
      · rw [verifyEvidenceBundle_eq, verifyBundle_of_wrapped wrapped, verifyBody_of_isExport hType,
          hResult]
      · rw [hErrors, List.any_map]
        simpa [Function.comp_def, isUndetermined_source] using hNote hMarked

theorem sourcesInline_source (hExport : isExport b = true) (h : SourcesInline b) :
    SourcesInline (sourceOf b) := fun inner hInner => h inner (.source hExport hInner)

/-- Without gateways a verified bundle has no notes, and a marker in those of a
partial one is in the note of an unknown body. -/
theorem undecided_of_marked (hGateways : options.gateways = [])
    (h : verifyEvidenceBundle K b options = .ok result) (hInline : SourcesInline b)
    (hStatus : result.status ≠ .failed ∧ result.status ≠ .malformed) :
    (result.status = .verified → result.errors = []) ∧
      (result.errors.any isUndetermined = true →
        ∃ inner, Undecided K options b inner ∧ isUndetermined (unknownNote K inner) = true) := by
  have quiet (checkpoints : List Json) (result : EvidenceBundleResult) :
      refetchNotes K options checkpoints result = [] := by
    simp [refetchNotes, refetch, hGateways]
  induction hDepth : b.depth using Nat.strongRecOn generalizing b result with
  | ind depth ih =>
      obtain ⟨wrapped, noted⟩ := noted_of_status h hStatus
      cases noted with
      | trace checkpoints events hType run errors =>
          rw [errors, quiet]
          refine ⟨fun _ => rfl, fun hMarked => ?_⟩
          cases hMarked
      | finished source attestations hType accepts status checkpoints onChainChecked errors =>
          rw [status] at hStatus
          obtain ⟨hVerified, hMarks⟩ := ih _ (hDepth ▸ depth_sourceOf_lt accepts.inline)
            accepts.source_eq (sourcesInline_source hType hInline) hStatus rfl
          rw [status, errors]
          constructor
          · intro hSame
            rw [hVerified hSame]
            rfl
          · intro hMarked
            rw [List.any_map] at hMarked
            obtain ⟨inner, hUndecided, hNote⟩ :=
              hMarks (by simpa [Function.comp_def, isUndetermined_source] using hMarked)
            exact ⟨inner, .source wrapped hType accepts hUndecided, hNote⟩
      | withoutSource hType inline => exact (hInline b (.here b) hType inline).elim
      | unknown hNot hTrace status checkpoints onChainChecked errors =>
          rw [status, errors]
          constructor
          · intro hVerified
            cases hVerified
          · intro hMarked
            exact ⟨b, .unknown wrapped hNot hTrace, by simpa using hMarked⟩

end Offline

section Online

/-- A re-fetch that was asked for and not completed: no gateway answered for some
checkpoint, or there was nothing to fetch with. -/
def Incomplete (options : Options) (result : EvidenceBundleResult) : Prop :=
  (∃ row ∈ result.checkpoints, isUnavailable row = true) ∨
    options.fetchImpl = none ∧ result.onChainChecked = true

theorem gatewayUnavailable_of_incomplete {checkpoints events : List Json}
    (run : TraceRun K b options result checkpoints events) (hGateways : options.gateways ≠ [])
    (h : Incomplete options result) :
    (refetch K (firstEntries checkpoints) options (checkpointRows K [] checkpoints)).2.1 = true := by
  have hRows := run.rows
  unfold refetch at hRows ⊢
  rw [if_neg (by simpa using hGateways)] at hRows ⊢
  cases hFetch : options.fetchImpl with
  | none => rfl
  | some fetch =>
      rcases h with ⟨row, hRow, hUnavailable⟩ | ⟨hNone, -⟩
      · simp only [hFetch] at hRows
        rw [hRows] at hRow
        exact List.any_eq_true.mpr ⟨row, hRow, hUnavailable⟩
      · rw [hFetch] at hNone
        cases hNone

/-- An incomplete re-fetch is never verified, and where it leaves the bundle
partial its note is there. -/
theorem marked_of_incomplete (hGateways : options.gateways ≠ [])
    (h : verifyEvidenceBundle K b options = .ok result) (hIncomplete : Incomplete options result)
    (hStatus : result.status ≠ .failed ∧ result.status ≠ .malformed) :
    result.status = .partly ∧ result.errors.any isUndetermined = true := by
  induction hDepth : b.depth using Nat.strongRecOn generalizing b result with
  | ind depth ih =>
      obtain ⟨-, noted⟩ := noted_of_status h hStatus
      cases noted with
      | trace checkpoints events hType run errors =>
          have hUnavailable := gatewayUnavailable_of_incomplete run hGateways hIncomplete
          have hSound : anyHardFailure result.checkpoints result.events = false := by
            rw [← Bool.not_eq_true]
            intro hHard
            exact hStatus.1 (by rw [run.status, (rollupStatus_failed_iff ..).mpr hHard])
          have hNote : isUndetermined
              "one or more checkpoints could not be re-fetched from the supplied gateways" = true := by
            decide +kernel
          constructor
          · rw [run.status, hUnavailable]
            simp [rollupStatus, hSound]
          · rw [errors, refetchNotes]
            simp [hUnavailable, hSound, hNote]
      | finished source attestations hType accepts status checkpoints onChainChecked errors =>
          rw [status] at hStatus
          have hSource : Incomplete options source := by
            rw [Incomplete, ← checkpoints, ← onChainChecked]
            exact hIncomplete
          obtain ⟨hPartly, hMarked⟩ := ih _ (hDepth ▸ depth_sourceOf_lt accepts.inline)
            accepts.source_eq hSource hStatus rfl
          rw [status, errors, List.any_map]
          exact ⟨hPartly, by simpa [Function.comp_def, isUndetermined_source] using hMarked⟩
      | withoutSource hType inline status checkpoints onChainChecked =>
          rw [Incomplete, checkpoints, onChainChecked] at hIncomplete
          simp at hIncomplete
      | unknown hNot hTrace status checkpoints onChainChecked =>
          rw [Incomplete, checkpoints, onChainChecked] at hIncomplete
          simp at hIncomplete

end Online

section Promise

/-- What is promised of code 3 in a run: never without gateways over inline
sources, and always where an incomplete re-fetch leaves the bundle partial. -/
structure NetworkGapOnly (K : Kernel ε) (exitCode : EvidenceBundleResult → Nat) (b : Json)
    (options : Options) : Prop where
  offline : options.gateways = [] → SourcesInline b → ∀ result,
    verifyEvidenceBundle K b options = .ok result → exitCode result ≠ 3
  online : options.gateways ≠ [] → ∀ result, verifyEvidenceBundle K b options = .ok result →
    result.status = .partly → Incomplete options result → exitCode result = 3

/-- No accepted chain of a run without gateways ends in a body type whose note
has a marker. -/
def QuotesNoMarker (K : Kernel ε) (b : Json) (options : Options) : Prop :=
  options.gateways = [] → SourcesInline b → ∀ inner, Undecided K options b inner →
    isUndetermined (unknownNote K inner) = false

theorem networkGapOnly_iff {exitCode : EvidenceBundleResult → Nat}
    (hExit : ∀ result, exitCode result = exitOf result.status result.errors) :
    NetworkGapOnly K exitCode b options ↔ QuotesNoMarker K b options := by
  constructor
  · intro h hGateways hInline inner hUndecided
    obtain ⟨result, hResult, hPartly, hMarked⟩ := result_of_undecided hUndecided
    have hNot := h.offline hGateways hInline result hResult
    rw [hExit, Ne, exitOf_eq_three] at hNot
    rw [← Bool.not_eq_true]
    intro hNote
    exact hNot ⟨hPartly, hMarked hNote⟩
  · intro h
    constructor
    · intro hGateways hInline result hResult hThree
      rw [hExit, exitOf_eq_three] at hThree
      obtain ⟨hPartly, hMarked⟩ := hThree
      obtain ⟨inner, hUndecided, hNote⟩ :=
        (undecided_of_marked hGateways hResult hInline (by simp [hPartly])).2 hMarked
      rw [h hGateways hInline inner hUndecided] at hNote
      cases hNote
    · intro hGateways result hResult hPartly hIncomplete
      rw [hExit, exitOf_eq_three]
      exact marked_of_incomplete hGateways hResult hIncomplete (by simp [hPartly])

end Promise
end ArioProof
