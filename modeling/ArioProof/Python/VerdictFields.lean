import ArioProof.Evidence.VerdictFields
import ArioProof.Python.Disclosure

/-! The verdict object that `_verify_export_body` displays. -/
namespace ArioProof.Python

open Foundation

variable {R : Runtime} {b : Json} {options : Options} {result : EvidenceBundleResult}
  {exported : ExportResult}

/-- The derived fields of a displayed verdict are functions of its entries. It has
an entry for each event of the source, and none when the source was turned away
before its events were read. -/
structure VerdictDerived (R : Runtime) (b : Json) (result : EvidenceBundleResult)
    (exported : ExportResult) : Prop where
  events : ∀ v ∈ exported.verdict.listAt "events", StatusDerived v
  passes : ∀ a ∈ exported.attestations, a.ok = passes a
  attestations : ∀ c ∈ exported.verdict.listAt "checkpoints", ∀ v ∈ c.listAt "attestations",
    ∃ a ∈ exported.attestations, v = attestationEntry a
  counts : CountsDerived exported.verdict exported.attestations
  total : ∃ verified failed undetermined : Nat,
    (exported.verdict.get "counts").get "verified" = .int verified ∧
    (exported.verdict.get "counts").get "failed" = .int failed ∧
    (exported.verdict.get "counts").get "undetermined" = .int undetermined ∧
    verified + failed + undetermined =
      result.events.length + ((b.get "body").listAt "attestations").length
  listed : (exported.verdict.listAt "events").length = result.events.length
  source : (EventsRead (kernel R) b → result.events.length = (tracedEvents b).length) ∧
    (¬EventsRead (kernel R) b → result.events = [])
  verified : result.status = .verified →
    (exported.verdict.get "counts").get "failed" = .int 0 ∧
    (exported.verdict.get "counts").get "undetermined" = .int 0 ∧
    ∀ c ∈ exported.verdict.listAt "checkpoints", c.get "merkle_root_ok" = .bool true

/-- A data hash that binds was compared with an entry that was found. -/
theorem passes_of_run {rec : Json} {checkpoints : List (Str × Json)} {a : AttestationResult}
    (run : AttestationRun R rec checkpoints a) : a.ok = passes a := by
  have hResolved : a.dataHashBound = true → a.checkpointResolved = true := by
    rw [run.dataHashBound, run.checkpointResolved, bindDataHash_iff]
    rintro ⟨cp, hFound, -⟩
    rw [hFound]
    rfl
  rw [run.ok, passes]
  cases hBound : a.dataHashBound with
  | false => simp
  | true => simp [hResolved hBound]

theorem length_events_of_run (h : verifyEvidenceBundle R b options = .ok result) :
    (EventsRead (kernel R) b → result.events.length = (tracedEvents b).length) ∧
      (¬EventsRead (kernel R) b → result.events = []) := by
  rcases rows_of_traced h with ⟨-, hNone, -, -, hUnread⟩ |
    ⟨inner, checkpoints, events, run, hTrace, -, -, hRows, -, hRead⟩
  · exact ⟨fun hRead => (hUnread hRead).elim, fun _ => hNone⟩
  · refine ⟨fun _ => ?_, fun hUnread => (hUnread hRead).elim⟩
    rw [hRows, run.eventRows, List.length_map, tracedEvents, if_pos hTrace]
    simp [Json.listAt, run.events_eq, Json.arr?]

/-- Every displayed verdict is derived from what it displays: the statuses, the
counts and the rollup follow from the dimensions of its entries, and there is an
entry for each event of a source that was read. -/
theorem verdict_derived (b : Json) (options : Options) (result : EvidenceBundleResult)
    (exported : ExportResult) (h : verifyEvidenceBundle R b options = .ok result)
    (hExported : result.exported = some exported) : VerdictDerived R b result exported := by
  obtain ⟨-, -, source, attestations, run⟩ := exportRun_of_exported h hExported
  have hEvents : result.events = source.events := by rw [run.result_eq]; rfl
  have hCheckpoints : result.checkpoints = source.checkpoints := by rw [run.result_eq]; rfl
  have hRuns := verifyAttestations_eq_ok run.attestations_eq
  have hPasses : ∀ a ∈ attestations, a.ok = passes a := by
    intro a ha
    obtain ⟨rec, -, hRec⟩ := exists_of_mem_right hRuns ha
    exact passes_of_run (verifyAttestation_eq_ok hRec)
  have hStatus : result.status = .verified → ∀ a ∈ attestations, passes a = true := by
    rw [run.result_eq]
    intro hVerified a ha
    rw [← hPasses a ha]
    exact ((exportStatus_verified_iff _ _ _ _).mp hVerified).2.2.2 a ha
  obtain ⟨hCounts, hEntries, hRows⟩ := @get_buildVerdictObject source attestations
  have hShown : exported.attestations = attestations ∧
      exported.verdict.get "counts" = verdictCounts source.events attestations ∧
      exported.verdict.listAt "events" = source.events.map eventEntry ∧
      exported.verdict.listAt "checkpoints" =
        source.checkpoints.map (checkpointEntry attestations) := by
    rw [run.result_eq] at hExported
    cases hExported
    refine ⟨rfl, ?_, ?_, ?_⟩
    · exact (get_displayVerdict (by decide) (by decide) (by decide) _).trans hCounts
    · rw [Json.listAt, get_displayVerdict (by decide) (by decide) (by decide), hEntries]
      rfl
    · rw [Json.listAt, get_displayVerdict (by decide) (by decide) (by decide), hRows]
      rfl
  obtain ⟨hAttestations, hCounts, hEntries, hRows⟩ := hShown
  obtain ⟨hVerified, hFailed, hUndetermined⟩ := @get_verdictCounts source.events _ hPasses
  have hGated := eventGated_of_run h
  rw [hEvents] at hGated
  have hLength := hRuns.length_eq
  constructor
  case events =>
    rw [hEntries]
    intro v hv
    obtain ⟨e, he, rfl⟩ := List.mem_map.mp hv
    exact statusDerived_eventEntry (hGated e he)
  case passes =>
    rw [hAttestations]
    exact hPasses
  case attestations =>
    rw [hRows, hAttestations]
    intro c hc v hv
    obtain ⟨row, -, rfl⟩ := List.mem_map.mp hc
    rw [(get_checkpointEntry row).2] at hv
    obtain ⟨a, ha, rfl⟩ := List.mem_map.mp hv
    exact ⟨a, List.mem_of_mem_filter ha, rfl⟩
  case counts =>
    rw [hAttestations]
    constructor
    all_goals rw [hCounts, hEntries]
    · exact hVerified
    · exact hFailed
    · exact hUndetermined
  case total =>
    refine ⟨_, _, _, hCounts ▸ hVerified, hCounts ▸ hFailed, hCounts ▸ hUndetermined, ?_⟩
    have hEventCounts := length_eq_counts source.events
    have hPassCounts := List.length_eq_countP_add_countP passes (l := attestations)
    simp only [decide_not, Bool.decide_eq_true] at hPassCounts
    rw [hEvents, hLength]
    omega
  case listed => rw [hEntries, List.length_map, hEvents]
  case source => exact length_events_of_run h
  case verified =>
    intro hRun
    obtain ⟨hRoots, hStatuses⟩ := rows_of_verified h hRun
    rw [hCheckpoints] at hRoots
    rw [hEvents] at hStatuses
    obtain ⟨hNoneFailed, hNonePartly⟩ := countP_of_verified hStatuses
    have hAllPass : attestations.countP (!passes ·) = 0 := by
      rw [List.countP_eq_zero]
      intro a ha
      simp [hStatus hRun a ha]
    rw [hCounts, hFailed, hUndetermined, hRows, hNoneFailed, hNonePartly, hAllPass]
    refine ⟨rfl, rfl, fun c hc => ?_⟩
    obtain ⟨row, hRow, rfl⟩ := List.mem_map.mp hc
    rw [(get_checkpointEntry row).1, hRoots row hRow]

theorem verdict_derived_sample : ∃ result exported,
    verifyEvidenceBundle sampleExportRuntime sampleExport .offline = .ok result ∧
      result.exported = some exported ∧
        VerdictDerived sampleExportRuntime sampleExport result exported := by
  obtain ⟨result, exported, hRun, -, hExported, -⟩ := sampleExport_run
  exact ⟨result, exported, hRun, hExported,
    verdict_derived sampleExport .offline result exported hRun hExported⟩

end ArioProof.Python
