import ArioProof.Evidence.ExitCode
import ArioProof.Python.Attestation
import ArioProof.TypeScript.AgentOnChain

/-! Exit codes of the two kernels: of a run over an evidence bundle, and of a run
over an agent's proof. -/
namespace ArioProof

open Foundation

/-- `EvidenceBundleResult.exit_code`. -/
def Python.exitCode (result : EvidenceBundleResult) : Nat := exitOf result.status result.errors

def TypeScript.mapStatusToExit (status : Status) (errors : List Str) : Nat := exitOf status errors

namespace CrossKernel

open TypeScript

variable {T : TypeScript.Runtime} {proof : Json} {options : VerifyAgentProofOptions}

section AgentProof

/-- What an agent's proof is checked for without a gateway. -/
structure ChecksHold (T : TypeScript.Runtime) (proof : Json) : Prop where
  complaint : agentProofComplaint T proof = none
  checkpoint : (checkCheckpointEnvelope T proof).1 = true
  leaf : (checkLeaf T proof).1 = true

theorem checkLeaf_eq_true (h : (checkLeaf T proof).1 = true) : (checkLeaf T proof).2 = [] := by
  unfold checkLeaf at h ⊢
  split at h
  · split at h
    · cases h
    · rfl
    · cases h
  · cases h

/-- The notes about a checkpoint envelope are texts without markers. -/
theorem unmarked_checkpointErrors :
    (checkCheckpointEnvelope T proof).2.any isUndetermined = false := by
  have quiet {holds : Prop} [Decidable holds] {text : Str} (hText : isUndetermined text = false) :
      (if holds then [] else [text]).any isUndetermined = false := by
    split_ifs <;> simp [hText]
  simp only [checkCheckpointEnvelope, List.any_append, Bool.or_eq_false_iff]
  exact ⟨⟨⟨quiet (by decide +kernel), quiet (by decide +kernel)⟩, quiet (by decide +kernel)⟩,
    quiet (by decide +kernel)⟩

/-- A partial result is that of a proof whose checks hold and whose re-fetch was
not completed; the notes of the re-fetch are all it has to tell. -/
theorem checksHold_of_partly {result : AgentProofResult}
    (h : verifyAgentProofBundle T proof options = .ok result) (hStatus : result.status = .partly) :
    ChecksHold T proof ∧ ∃ outcome, checkOnChain T proof options = .ok outcome ∧
      outcome.unavailable = true ∧
      result.errors.any isUndetermined = outcome.error.toList.any isUndetermined := by
  unfold verifyAgentProofBundle at h
  cases hComplaint : agentProofComplaint T proof with
  | some complaint =>
      simp only [hComplaint] at h
      cases h
      cases hStatus
  | none =>
      simp only [hComplaint] at h
      obtain ⟨outcome, hOutcome, h⟩ := bind_eq_ok.mp h
      cases h
      simp only [agentProofStatus] at hStatus
      split_ifs at hStatus with hFailed hUnavailable
      simp only [Bool.or_eq_true, Bool.not_eq_true', decide_eq_true_eq, not_or,
        Bool.not_eq_false] at hFailed
      obtain ⟨⟨hCheckpoint, hLeaf⟩, -⟩ := hFailed
      refine ⟨⟨hComplaint, hCheckpoint, hLeaf⟩, outcome, hOutcome, hUnavailable, ?_⟩
      simp only [List.any_append, unmarked_checkpointErrors, checkLeaf_eq_true hLeaf, List.any_nil,
        Bool.false_or]

/-- The loop says that no gateway answered, with the marker that the exit code is
found by. -/
theorem marked_of_refetchLoop {expected : Bytes} {txId : Option Json} {fetch : FetchImpl}
    {anyReachable : Bool} {requests gateways : List Str} {outcome : RefetchResult}
    (h : refetchLoop T expected txId fetch anyReachable requests gateways = .ok outcome)
    (hUnavailable : outcome.unavailable = true) :
    outcome.error.toList.any isUndetermined = true := by
  induction gateways generalizing anyReachable requests with
  | nil =>
      unfold refetchLoop at h
      obtain ⟨shown, -, h⟩ := bind_eq_ok.mp h
      split_ifs at h
      · cases h
        cases hUnavailable
      · cases h
        have hMarker : utf16 "unreachable" <:+:
            fstring ["checkpoint ", shown, " unreachable on all gateways"] :=
          ⟨utf16 "checkpoint " ++ shown ++ utf16 " ", utf16 " on all gateways", by
            simp only [fstring, List.flatten_cons, List.flatten_nil, List.append_nil,
              List.append_assoc]
            rfl⟩
        simp [isUndetermined, undeterminedMarkers, hMarker]
  | cons gateway rest ih =>
      unfold refetchLoop at h
      obtain ⟨shown, -, h⟩ := bind_eq_ok.mp h
      simp only at h
      split at h
      · exact ih h
      · exact ih h
      · exact ih h
      · split_ifs at h <;> cases h <;> cases hUnavailable

/-- What is promised of code 3 in a run over an agent's proof with gateways. -/
def AgentGapOnly (T : TypeScript.Runtime) (proof : Json) (options : VerifyAgentProofOptions) :
    Prop :=
  options.gateways ≠ [] → ∀ result, verifyAgentProofBundle T proof options = .ok result →
    result.status = .partly → mapStatusToExit result.status result.errors = 3

theorem agentGapOnly_iff : AgentGapOnly T proof options ↔
    (options.gateways ≠ [] → options.fetchImpl = none → ¬ChecksHold T proof) := by
  constructor
  · intro h hGateways hFetch hChecks
    have hOnChain : checkOnChain T proof options = .ok ⟨none, true,
        some "on-chain re-fetch requested but no fetch implementation is available"⟩ := by
      unfold checkOnChain
      rw [if_neg (by simpa using hGateways), hFetch]
    obtain ⟨result, hResult, hPartly⟩ : ∃ result,
        verifyAgentProofBundle T proof options = .ok result ∧ result.status = .partly := by
      unfold verifyAgentProofBundle
      simp only [hChecks.complaint, hOnChain, bind, Except.bind, pure, Except.pure]
      refine ⟨_, rfl, ?_⟩
      simp [agentProofStatus, hChecks.checkpoint, hChecks.leaf]
    obtain ⟨-, outcome, hOutcome, -, hErrors⟩ := checksHold_of_partly hResult hPartly
    rw [hOnChain] at hOutcome
    cases hOutcome
    have hThree := h hGateways result hResult hPartly
    rw [mapStatusToExit, exitOf_eq_three, hErrors] at hThree
    exact absurd hThree.2 (by decide +kernel)
  · intro h hGateways result hResult hPartly
    obtain ⟨hChecks, outcome, hOutcome, hUnavailable, hErrors⟩ :=
      checksHold_of_partly hResult hPartly
    rw [mapStatusToExit, exitOf_eq_three, hErrors]
    refine ⟨hPartly, ?_⟩
    unfold checkOnChain at hOutcome
    rw [if_neg (by simpa using hGateways)] at hOutcome
    cases hFetch : options.fetchImpl with
    | none => exact (h hGateways hFetch hChecks).elim
    | some fetch =>
        simp only [hFetch] at hOutcome
        unfold TypeScript.refetch at hOutcome
        split at hOutcome
        · cases hOutcome
          cases hUnavailable
        · exact marked_of_refetchLoop hOutcome hUnavailable

end AgentProof

/-- What is promised of code 3, in a run of either kernel over an evidence bundle
and in a run over an agent's proof. -/
structure ExitCodesRight (P : Python.Runtime) (T : TypeScript.Runtime) (b : Json)
    (options : Options) (proof : Json) (agentOptions : VerifyAgentProofOptions) : Prop where
  python : NetworkGapOnly (Python.kernel P) Python.exitCode b options
  typeScript : NetworkGapOnly (TypeScript.kernel T)
    (fun result => mapStatusToExit result.status result.errors) b options
  agentProof : AgentGapOnly T proof agentOptions

/-- Code 3 means a network gap just where no note quotes a marker from the
bundle, and a sound agent's proof is not asked to be fetched with nothing. -/
theorem exitCodesRight_iff (P : Python.Runtime) (T : TypeScript.Runtime) (b : Json)
    (options : Options) (proof : Json) (agentOptions : VerifyAgentProofOptions) :
    ExitCodesRight P T b options proof agentOptions ↔
      QuotesNoMarker (Python.kernel P) b options ∧ QuotesNoMarker (TypeScript.kernel T) b options ∧
        (agentOptions.gateways ≠ [] → agentOptions.fetchImpl = none → ¬ChecksHold T proof) := by
  rw [← networkGapOnly_iff (K := Python.kernel P) fun _ => rfl,
    ← networkGapOnly_iff (K := TypeScript.kernel T) fun _ => rfl, ← agentGapOnly_iff]
  constructor
  · intro h
    exact ⟨h.python, h.typeScript, h.agentProof⟩
  · rintro ⟨hPython, hTypeScript, hAgent⟩
    exact ⟨hPython, hTypeScript, hAgent⟩

section Sample

open Reference

def unreachableSigned : Nat × Nat :=
  (0x0e14753a842eeb67d1daff988c9f7a02ce151c8386c17530530077974621e3ca,
    0x169c1112743120943a5c925b882f33dd34424df0ad3edb4b0e385807d4086978a246d76588ab9ac56b40fe93dfd3f427940c055b0737b338de6c0cc92ed8660f)

/-- A signed wrapper over an empty body of a type of the signer's choice. -/
def unreachableBundle : Json :=
  wrapper "unreachable" (.object [])
    0x44136fa355b3678a1146ad16f7e8649e94fb4fc21fe77e8310c060f61caaff8a unreachableSigned

theorem sourcesInline_unreachableBundle : SourcesInline unreachableBundle := by
  intro inner hInner hExport
  rw [eq_of_level (by rfl) hInner] at hExport
  cases hExport

/-- Offline both kernels exit with 3 on that wrapper, and a sound proof that
cannot be fetched exits with 0. -/
theorem chosen_exit_codes :
    ¬NetworkGapOnly (Python.kernel (python (signedWith [unreachableSigned]))) Python.exitCode
        unreachableBundle .offline ∧
      ¬NetworkGapOnly (TypeScript.kernel (typeScript (signedWith [unreachableSigned])))
        (fun result => mapStatusToExit result.status result.errors) unreachableBundle .offline ∧
      ¬AgentGapOnly agentRuntime agentSample ⟨["https://a"], none⟩ := by
  refine ⟨fun h => ?_, fun h => ?_, fun h => ?_⟩
  · obtain ⟨result, hRun, hThree⟩ := exists_of_returns (show returns
      (verifyEvidenceBundle (Python.kernel (python (signedWith [unreachableSigned])))
        unreachableBundle .offline) (fun result => Python.exitCode result = 3) = true
      by decide +kernel)
    exact h.offline rfl sourcesInline_unreachableBundle result hRun (of_decide_eq_true hThree)
  · obtain ⟨result, hRun, hThree⟩ := exists_of_returns (show returns
      (verifyEvidenceBundle (TypeScript.kernel (typeScript (signedWith [unreachableSigned])))
        unreachableBundle .offline)
      (fun result => mapStatusToExit result.status result.errors = 3) = true by decide +kernel)
    exact h.offline rfl sourcesInline_unreachableBundle result hRun (of_decide_eq_true hThree)
  · obtain ⟨result, hRun, hZero⟩ := exists_of_returns (show returns
      (verifyAgentProofBundle agentRuntime agentSample ⟨["https://a"], none⟩)
      (fun result => result.status = .partly ∧ mapStatusToExit result.status result.errors = 0) = true
      by decide +kernel)
    obtain ⟨hPartly, hZero⟩ := of_decide_eq_true hZero
    rw [h (by simp) result hRun hPartly] at hZero
    cases hZero

end Sample
end CrossKernel
end ArioProof
