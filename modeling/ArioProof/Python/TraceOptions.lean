import ArioProof.Evidence.Scrutiny
import ArioProof.Python.TraceOnChain

/-! Side inputs of `verify_evidence_bundle` next to a trace: the gateways, what
they answer, and disclosed content. -/
namespace ArioProof.Python

open Foundation

variable {R : Runtime}

/-- Content that is compared and does not match fails next to any side input:
one that repeats it matches no better, and one that differs disagrees. -/
theorem bindContent_sticky (C : Crypto) {committed : List Str} {inBody side : Option Bytes}
    (h : (bindContent C committed inBody none).1 = some false) :
    (bindContent C committed inBody side).1 = some false := by
  cases inBody with
  | none => simp [bindContent] at h
  | some disclosed =>
      cases side with
      | none => exact h
      | some supplied =>
          by_cases hSame : some disclosed = some supplied
          · simp only [bindContent, hSame] at h ⊢
            simpa using h
          · simp [bindContent, hSame]

theorem contentSticky : ContentSticky (kernel R) := by
  intro ev eventId content h
  exact bindContent_sticky R.crypto h

/-- Optional inputs only add scrutiny. A trace that is read under some options is
read under all; side inputs verify and save nothing; of the gateways only the
set matters; and a contradiction by one of them stays. -/
theorem options_only_scrutinize (b : Json) (hTrace : isTrace b = true) (options : Options)
    (first : EvidenceBundleResult) (h : verifyEvidenceBundle R b options = .ok first) :
    ∃ base, verifyEvidenceBundle R b .offline = .ok base ∧
      ∀ (gateways : List Str) (fetch : Str → Option Bytes) (content : Str → Option SideContent),
        ∃ result, verifyEvidenceBundle R b (.online gateways fetch content) = .ok result ∧
          (result.status = .verified → base.status = .verified) ∧
          (base.status = .failed ∨ base.status = .malformed → result.status = base.status) ∧
          (∀ others, (∀ g, g ∈ gateways ↔ g ∈ others) → ∃ rerun,
            verifyEvidenceBundle R b (.online others fetch content) = .ok rerun ∧
              rerun.status = result.status ∧
              rerun.checkpoints.map rowView = result.checkpoints.map rowView) ∧
          ∀ others, (∀ g ∈ gateways, g ∈ others) →
            (∃ row ∈ result.checkpoints, Contradicted row) → ∃ rerun,
              verifyEvidenceBundle R b (.online others fetch content) = .ok rerun ∧
                rerun.status = .failed := by
  rcases trace_outcomes hTrace h with ⟨checkpoints, events, hRuns⟩ | ⟨hNone, hBad, hSame⟩
  · obtain ⟨base, hBase, run⟩ := hRuns .offline
    refine ⟨base, hBase, fun gateways fetch content => ?_⟩
    obtain ⟨result, hResult, online⟩ := hRuns (.online gateways fetch content)
    refine ⟨result, hResult, run.verified_offline contentSticky online, ?_, ?_, ?_⟩
    · intro hStatus
      rcases hStatus with hFailed | hMalformed
      · rw [hFailed]
        exact run.failed_online contentSticky online hFailed
      · rw [run.status] at hMalformed
        exact (rollupStatus_ne_malformed _ _ _ hMalformed).elim
    · intro others hMembers
      obtain ⟨rerun, hRerun, again⟩ := hRuns (.online others fetch content)
      exact ⟨rerun, hRerun, online.gateways_congr again hMembers⟩
    · rintro others hMembers ⟨row, hRow, hContradicted⟩
      obtain ⟨rerun, hRerun, again⟩ := hRuns (.online others fetch content)
      exact ⟨rerun, hRerun, online.failed_of_contradicted again hMembers hRow hContradicted⟩
  · refine ⟨first, hSame _, fun gateways fetch content => ⟨first, hSame _, id, fun _ => rfl, ?_, ?_⟩⟩
    · intro others _
      exact ⟨first, hSame _, rfl, rfl⟩
    · rintro others - ⟨row, hRow, -⟩
      rw [hNone] at hRow
      cases hRow

section Sample

open Reference

/-- Two gateways, of which the first has other bytes than the envelope. -/
def twoAnswers (url : Str) : Option Bytes :=
  if url = utf16 "https://a/tx1" then some []
  else if url = utf16 "https://b/tx1" then some singleEnvelopeBytes
  else none

/-- A checkpoint that one gateway confirms and another one contradicts: verified
by itself and before the first gateway, failed before both, in whatever order they
are asked, and failed before any more of them. -/
theorem options_only_scrutinize_sample : ∃ base confirmed result turned more,
    verifyEvidenceBundle singleRuntime singleTrace .offline = .ok base ∧ base.status = .verified ∧
    verifyEvidenceBundle singleRuntime singleTrace
      (.online [utf16 "https://b"] twoAnswers fun _ => none) = .ok confirmed ∧
    confirmed.status = .verified ∧
    verifyEvidenceBundle singleRuntime singleTrace
      (.online [utf16 "https://a", utf16 "https://b"] twoAnswers fun _ => none) = .ok result ∧
    verifyEvidenceBundle singleRuntime singleTrace
      (.online [utf16 "https://b", utf16 "https://a"] twoAnswers fun _ => none) = .ok turned ∧
    turned.status = result.status ∧
    turned.checkpoints.map rowView = result.checkpoints.map rowView ∧
    verifyEvidenceBundle singleRuntime singleTrace
      (.online [utf16 "https://c", utf16 "https://b", utf16 "https://a"] twoAnswers fun _ => none) =
        .ok more ∧ more.status = .failed := by
  have hTrace : isTrace singleTrace = true := by
    simp [isTrace, singleTrace, trace, wrapper, Json.get, List.lookup_cons, Json.str?]
  obtain ⟨confirmed, hConfirmed, hStatus⟩ := exists_of_returns (show returns
    (verifyEvidenceBundle singleRuntime singleTrace
      (.online [utf16 "https://b"] twoAnswers fun _ => none))
        (fun result => result.status = .verified) = true by decide +kernel)
  have hStatus := of_decide_eq_true hStatus
  obtain ⟨base, hBase, hOnline⟩ := options_only_scrutinize singleTrace hTrace _ confirmed hConfirmed
  obtain ⟨again, hAgain, hVerified, -⟩ := hOnline [utf16 "https://b"] twoAnswers fun _ => none
  obtain rfl := Except.ok.inj (hConfirmed.symm.trans hAgain)
  obtain ⟨result, hResult, -, -, hSet, hMore⟩ :=
    hOnline [utf16 "https://a", utf16 "https://b"] twoAnswers fun _ => none
  have hAnswer : returns (verifyEvidenceBundle singleRuntime singleTrace
      (.online [utf16 "https://a", utf16 "https://b"] twoAnswers fun _ => none)) (fun result =>
        result.checkpoints.any fun row => row.onChain.any fun onChain =>
          onChain.perGateway.any fun answer => answer.outcome = .mismatch) = true := by
    decide +kernel
  rw [hResult] at hAnswer
  have hContradicted : ∃ row ∈ result.checkpoints, Contradicted row := by
    obtain ⟨row, hRow, hAny⟩ := List.any_eq_true.mp hAnswer
    obtain ⟨onChain, hSome, hAny⟩ := (Option.any_eq_true _ _).mp hAny
    obtain ⟨answer, hMem, hOutcome⟩ := List.any_eq_true.mp hAny
    exact ⟨row, hRow, onChain, hSome, answer, hMem, of_decide_eq_true hOutcome⟩
  obtain ⟨turned, hTurned, hSame, hRows⟩ := hSet [utf16 "https://b", utf16 "https://a"] (by
    intro g
    simp [or_comm])
  obtain ⟨more, hMore, hFailed⟩ := hMore [utf16 "https://c", utf16 "https://b", utf16 "https://a"]
    (by simp) hContradicted
  exact ⟨base, confirmed, result, turned, more, hBase, hVerified hStatus, hConfirmed, hStatus, hResult,
    hTurned, hSame, hRows, hMore, hFailed⟩

end Sample
end ArioProof.Python
