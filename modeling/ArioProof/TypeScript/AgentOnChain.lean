import ArioProof.Evidence.OnChain
import ArioProof.Foundation.Opinion
import ArioProof.Foundation.Outcome
import ArioProof.Python.ProofBundle
import ArioProof.TypeScript.AgentProof

/-! The on-chain verdict of an agent's proof. The loop takes the first body it
reads, where the evidence path weighs all answers, and a body that cannot be
read counts as a contradiction once no other gateway answers. -/
namespace ArioProof.TypeScript

open Foundation

/-- The bytes a response delivers, where it has a body that can be read. -/
def Response.answer : Response → Option Bytes
  | .body bytes => some bytes
  | _ => none

variable (R : Runtime)

section Answers

variable (fetch : Str → Response) (b : Json) (expected : Bytes)

/-- The response to the one request of a gateway; none is made where the
transaction id has no text. -/
def gatewayResponse (gateway : Str) : Response :=
  match display R (b.get? "checkpoint_tx_id") with
  | .ok shown => fetch (fstring [rstripSlash gateway, "/", shown])
  | .error _ => .rejected

/-- It answers with the expected bytes, or with others of the same canonical
form. -/
def ConfirmingGateway (gateway : Str) : Prop :=
  ∃ bytes, gatewayResponse R fetch b gateway = .body bytes ∧ Confirms (kernel R) expected bytes

def MismatchingGateway (gateway : Str) : Prop :=
  ∃ bytes, gatewayResponse R fetch b gateway = .body bytes ∧ ¬Confirms (kernel R) expected bytes

/-- The outcome the evidence path records for the same answer. -/
def gatewayOutcome (gateway : Str) : PerGatewayOutcome :=
  ⟨gateway, classifyAnswer (kernel R) (some expected) (gatewayResponse R fetch b gateway).answer⟩

/-- What a gateway says about the checkpoint, if it says anything. -/
def gatewayOpinion (gateway : Str) : Option Bool :=
  (gatewayResponse R fetch b gateway).answer.map (matchesEnvelope R expected)

end Answers

/-- The verdict on a bundle's checkpoint, for gateways whose answer depends only
on the URL. -/
structure WorstFindingWins (b : Json) (expected : Bytes) (fetch : Str → Response)
    (gateways : List Str) (result : AgentProofResult) : Prop where
  mismatch : result.onChainOk = some false ↔
    ∃ gateway ∈ gateways, MismatchingGateway R fetch b expected gateway
  confirm : result.onChainOk = some true ↔
    (∃ gateway ∈ gateways, ConfirmingGateway R fetch b expected gateway) ∧
      ¬∃ gateway ∈ gateways, MismatchingGateway R fetch b expected gateway
  /-- The evidence path comes to the same verdict. -/
  rollup : result.onChainOk =
    (rollupOnChain (gateways.map (gatewayOutcome R fetch b expected))).onChainOk
  /-- The order and the number of times a gateway is asked do not matter. -/
  reordered : ∀ others : List Str, (∀ gateway, gateway ∈ others ↔ gateway ∈ gateways) →
    ∃ again, verifyAgentProofBundle R b ⟨others, some fun _ => fetch⟩ = .ok again ∧
      again.onChainOk = result.onChainOk
  /-- What is sound offline and answered by no gateway stays undetermined. -/
  unreachable : ∀ sound, verifyAgentProofBundle R b .offline = .ok sound →
    sound.status = .verified → gateways ≠ [] →
    (∀ gateway ∈ gateways, ¬ConfirmingGateway R fetch b expected gateway ∧
      ¬MismatchingGateway R fetch b expected gateway) → result.status = .partly

variable {R}

section Loop

theorem matchesEnvelope_iff {expected onChain : Bytes} :
    matchesEnvelope R expected onChain = true ↔ Confirms (kernel R) expected onChain := by
  unfold matchesEnvelope Confirms
  simp only [Bool.or_eq_true, decide_eq_true_eq]
  refine or_congr_right ?_
  change _ ↔ ∃ parsed, R.jsonParse onChain = .ok parsed ∧
    (jcs R (some parsed)).map utf8 = .ok expected
  cases R.jsonParse onChain with
  | error text => simp [bind, Except.bind]
  | ok parsed =>
      cases hCanonical : jcs R (some parsed) with
      | error text => simp [bind, Except.bind, hCanonical, Except.map]
      | ok canonical => simp [bind, Except.bind, hCanonical, Except.map, pure, Except.pure]

variable {fetch : Str → Response} {b : Json} {expected : Bytes} {gateway : Str}

theorem gatewayOpinion_true_iff : gatewayOpinion R fetch b expected gateway = some true ↔
    ConfirmingGateway R fetch b expected gateway := by
  unfold gatewayOpinion ConfirmingGateway
  cases gatewayResponse R fetch b gateway <;> simp [Response.answer, matchesEnvelope_iff]

theorem gatewayOpinion_false_iff : gatewayOpinion R fetch b expected gateway = some false ↔
    MismatchingGateway R fetch b expected gateway := by
  unfold gatewayOpinion MismatchingGateway
  cases gatewayResponse R fetch b gateway <;>
    simp [Response.answer, ← matchesEnvelope_iff]

theorem gatewayOpinion_none_iff : gatewayOpinion R fetch b expected gateway = none ↔
    ¬ConfirmingGateway R fetch b expected gateway ∧
      ¬MismatchingGateway R fetch b expected gateway := by
  rw [← gatewayOpinion_true_iff, ← gatewayOpinion_false_iff]
  cases gatewayOpinion R fetch b expected gateway with
  | none => simp
  | some opinion => cases opinion <;> simp

/-- The evidence path weighs the same opinions. -/
theorem onChainOk_rollup (gateways : List Str) :
    (rollupOnChain (gateways.map (gatewayOutcome R fetch b expected))).onChainOk =
      worstOpinion (gatewayOpinion R fetch b expected) gateways := by
  have hMismatch : ∀ gateway, (gatewayOutcome R fetch b expected gateway).outcome = .mismatch ↔
      gatewayOpinion R fetch b expected gateway = some false := fun gateway => by
    rw [gatewayOpinion_false_iff]
    unfold MismatchingGateway
    simp only [gatewayOutcome, classifyAnswer_eq_mismatch, Option.some.injEq, forall_eq']
    cases gatewayResponse R fetch b gateway <;> simp [Response.answer]
  have hConfirm : ∀ gateway, (gatewayOutcome R fetch b expected gateway).outcome = .confirm ↔
      gatewayOpinion R fetch b expected gateway = some true := fun gateway => by
    rw [gatewayOpinion_true_iff]
    unfold ConfirmingGateway
    simp only [gatewayOutcome, classifyAnswer_eq_confirm]
    cases gatewayResponse R fetch b gateway <;> simp [Response.answer]
  simp only [rollupOnChain, worstOpinion, List.any_map, Function.comp_def, hMismatch, hConfirm]
  split_ifs <;> rfl

/-- The verdict of the loop: the first opinion, or else whether a body was
promised. -/
theorem ok_refetchLoop {shown : Str} (hShown : display R (b.get? "checkpoint_tx_id") = .ok shown)
    (anyReachable : Bool) (requests gateways : List Str) :
    ∃ outcome, refetchLoop R expected (b.get? "checkpoint_tx_id") (fun _ => fetch) anyReachable
        requests gateways = .ok outcome ∧
      outcome.ok = (gateways.findSome? (gatewayOpinion R fetch b expected)).or
        (if anyReachable ∨ ∃ gateway ∈ gateways, gatewayResponse R fetch b gateway = .unreadable
          then some false else none) ∧
      outcome.unavailable = (outcome.ok = none) := by
  induction gateways generalizing anyReachable requests with
  | nil => cases anyReachable <;> simp [refetchLoop, hShown, bind, Except.bind, pure, Except.pure]
  | cons gateway rest ih =>
      have hResponse : gatewayResponse R fetch b gateway =
          fetch (fstring [rstripSlash gateway, "/", shown]) := by
        simp only [gatewayResponse, hShown]
      simp only [refetchLoop, hShown, bind, Except.bind, ← hResponse, List.findSome?_cons,
        List.exists_mem_cons_iff]
      cases hCase : gatewayResponse R fetch b gateway with
      | rejected =>
          simpa [gatewayOpinion, hCase, Response.answer] using ih anyReachable _
      | notOk => simpa [gatewayOpinion, hCase, Response.answer] using ih anyReachable _
      | unreadable => simpa [gatewayOpinion, hCase, Response.answer] using ih true _
      | body bytes =>
          cases hMatch : matchesEnvelope R expected bytes <;>
            simp [gatewayOpinion, hCase, Response.answer, hMatch, pure, Except.pure]

end Loop

section Run

variable {fetch : Str → Response} {b : Json} {canonical : Str}

/-- The two checks that need no gateway. -/
theorem verified_offline_iff (hAccepted : agentProofComplaint R b = none)
    {sound : AgentProofResult} (hSound : verifyAgentProofBundle R b .offline = .ok sound) :
    sound.status = .verified ↔
      (checkCheckpointEnvelope R b).1 = true ∧ (checkLeaf R b).1 = true := by
  unfold verifyAgentProofBundle at hSound
  rw [hAccepted] at hSound
  simp only [VerifyAgentProofOptions.offline, checkOnChain, List.isEmpty_nil, if_true, bind,
    Except.bind, pure, Except.pure, Except.ok.injEq] at hSound
  rw [← hSound]
  cases (checkCheckpointEnvelope R b).1 <;> cases (checkLeaf R b).1 <;> simp [agentProofStatus]

/-- A run that reaches its gateways, because its bundle is accepted and its
checkpoint canonicalizes. -/
theorem exists_onChain (hAccepted : agentProofComplaint R b = none)
    (hCanonical : jcs R (b.get? "checkpoint_envelope") = .ok canonical) {gateways : List Str}
    (hShown : gateways = [] ∨ ∃ shown, display R (b.get? "checkpoint_tx_id") = .ok shown) :
    ∃ result, verifyAgentProofBundle R b ⟨gateways, some fun _ => fetch⟩ = .ok result ∧
      result.onChainOk =
        (gateways.findSome? (gatewayOpinion R fetch b (utf8 canonical))).or
          (if ∃ gateway ∈ gateways, gatewayResponse R fetch b gateway = .unreadable
            then some false else none) ∧
      ((checkCheckpointEnvelope R b).1 = true ∧ (checkLeaf R b).1 = true → gateways ≠ [] →
        result.onChainOk = none → result.status = .partly) := by
  unfold verifyAgentProofBundle
  rw [hAccepted]
  simp only
  by_cases hEmpty : gateways = []
  · subst hEmpty
    exact ⟨_, rfl, rfl, fun _ hNe => (hNe rfl).elim⟩
  obtain ⟨shown, hShown⟩ := hShown.resolve_left hEmpty
  obtain ⟨outcome, hOutcome, hOk, hUnavailable⟩ := @ok_refetchLoop R fetch b
    (utf8 canonical) _ hShown false [] gateways
  have hStep : checkOnChain R b ⟨gateways, some fun _ => fetch⟩ = .ok outcome := by
    rw [checkOnChain, if_neg (by simpa using hEmpty)]
    simp only [refetch, hCanonical, hOutcome]
  rw [hStep]
  refine ⟨_, rfl, by simpa using hOk, ?_⟩
  rintro ⟨hCheckpoint, hLeaf⟩ - hNone
  simp only at hNone
  simp [agentProofStatus, hCheckpoint, hLeaf, hNone, hUnavailable]

/-- A run that returns has a text for the transaction id it asks about. -/
theorem shown_of_returns (hAccepted : agentProofComplaint R b = none)
    (hCanonical : jcs R (b.get? "checkpoint_envelope") = .ok canonical) {gateways : List Str}
    {result : AgentProofResult}
    (hRun : verifyAgentProofBundle R b ⟨gateways, some fun _ => fetch⟩ = .ok result) :
    gateways = [] ∨ ∃ shown, display R (b.get? "checkpoint_tx_id") = .ok shown := by
  cases gateways with
  | nil => exact Or.inl rfl
  | cons gateway rest =>
      right
      unfold verifyAgentProofBundle at hRun
      rw [hAccepted] at hRun
      obtain ⟨outcome, hOutcome, -⟩ := bind_eq_ok.mp hRun
      simp only [checkOnChain, List.isEmpty_cons, Bool.false_eq_true, if_false, refetch,
        hCanonical, refetchLoop] at hOutcome
      obtain ⟨shown, hShown, -⟩ := bind_eq_ok.mp hOutcome
      exact ⟨shown, hShown⟩

/-- The gateways that are read agree, and where a body could not be read some
other one was. -/
def ReadGatewaysAgree (R : Runtime) (fetch : Str → Response) (b : Json) (expected : Bytes)
    (gateways : List Str) : Prop :=
  ¬((∃ gateway ∈ gateways, ConfirmingGateway R fetch b expected gateway) ∧
      ∃ gateway ∈ gateways, MismatchingGateway R fetch b expected gateway) ∧
    ((∃ gateway ∈ gateways, gatewayResponse R fetch b gateway = .unreadable) →
      ∃ gateway ∈ gateways, ∃ bytes, gatewayResponse R fetch b gateway = .body bytes)

theorem opinion_ne_none_iff {expected : Bytes} {gateway : Str} :
    gatewayOpinion R fetch b expected gateway ≠ none ↔
      ∃ bytes, gatewayResponse R fetch b gateway = .body bytes := by
  unfold gatewayOpinion
  cases gatewayResponse R fetch b gateway <;> simp [Response.answer]

/-- Under agreement the run comes to the worst opinion. -/
theorem ReadGatewaysAgree.onChainOk_eq {expected : Bytes} {gateways : List Str}
    (h : ReadGatewaysAgree R fetch b expected gateways) :
    (gateways.findSome? (gatewayOpinion R fetch b expected)).or
        (if ∃ gateway ∈ gateways, gatewayResponse R fetch b gateway = .unreadable
          then some false else none) =
      worstOpinion (gatewayOpinion R fetch b expected) gateways := by
  have hAgree : Agree (gatewayOpinion R fetch b expected) gateways := by
    unfold Agree
    simp only [gatewayOpinion_true_iff, gatewayOpinion_false_iff]
    exact h.1
  rw [hAgree.findSome?_eq]
  cases hWorst : worstOpinion (gatewayOpinion R fetch b expected) gateways with
  | some verdict => rfl
  | none =>
      have hSilent := worstOpinion_eq_none_iff.mp hWorst
      rw [if_neg]
      · rfl
      · intro hUnreadable
        obtain ⟨gateway, hGateway, hBody⟩ := h.2 hUnreadable
        exact opinion_ne_none_iff.mpr hBody (hSilent gateway hGateway)

theorem ReadGatewaysAgree.congr {expected : Bytes} {gateways others : List Str}
    (h : ReadGatewaysAgree R fetch b expected gateways)
    (hSame : ∀ gateway, gateway ∈ others ↔ gateway ∈ gateways) :
    ReadGatewaysAgree R fetch b expected others := by
  unfold ReadGatewaysAgree
  simp only [hSame]
  exact h

end Run

/-- For a bundle that is read and a checkpoint that canonicalizes, the worst
finding wins in every order exactly when the gateways that are read agree and
hide no unreadable body. -/
theorem worstFindingWins_iff (fetch : Str → Response) (b : Json) (gateways : List Str)
    {canonical : Str} (hAccepted : agentProofComplaint R b = none)
    (hCanonical : jcs R (b.get? "checkpoint_envelope") = .ok canonical) :
    (∃ result, verifyAgentProofBundle R b ⟨gateways, some fun _ => fetch⟩ = .ok result ∧
        WorstFindingWins R b (utf8 canonical) fetch gateways result) ↔
      (gateways = [] ∨ ∃ shown, display R (b.get? "checkpoint_tx_id") = .ok shown) ∧
        ReadGatewaysAgree R fetch b (utf8 canonical) gateways := by
  constructor
  · rintro ⟨result, hRun, hWins⟩
    have hShown := shown_of_returns hAccepted hCanonical hRun
    have hWorst := hWins.rollup.trans (onChainOk_rollup gateways)
    -- Asked in any order, the loop comes to the worst opinion of these gateways.
    have hFirst : ∀ others : List Str, (∀ gateway, gateway ∈ others ↔ gateway ∈ gateways) →
        (others.findSome? (gatewayOpinion R fetch b (utf8 canonical))).or
          (if ∃ gateway ∈ others, gatewayResponse R fetch b gateway = .unreadable
            then some false else none) =
        worstOpinion (gatewayOpinion R fetch b (utf8 canonical)) gateways := by
      intro others hSame
      obtain ⟨again, hAgain, hEqual⟩ := hWins.reordered others hSame
      obtain ⟨other, hOther, hOk, -⟩ :=
        @exists_onChain R fetch b _ hAccepted hCanonical _ (shown_of_returns hAccepted hCanonical hAgain)
      rw [hAgain, Except.ok.injEq] at hOther
      rw [← hOk, ← hOther, hEqual, hWorst]
    refine ⟨hShown, ?_, ?_⟩
    · have hAgree := agree_of_first fun others hSame verdict hVerdict => by
        have hWorst := hFirst others hSame
        rw [hVerdict, Option.some_or] at hWorst
        exact hWorst.symm
      simpa only [Agree, gatewayOpinion_true_iff, gatewayOpinion_false_iff] using hAgree
    · intro hUnreadable
      by_contra hUnread
      have hSilent : ∀ gateway ∈ gateways,
          gatewayOpinion R fetch b (utf8 canonical) gateway = none := by
        intro gateway hGateway
        by_contra hNe
        exact hUnread ⟨gateway, hGateway, opinion_ne_none_iff.mp hNe⟩
      have hHidden := hFirst gateways fun _ => Iff.rfl
      rw [List.findSome?_eq_none_iff.mpr hSilent, if_pos hUnreadable,
        worstOpinion_eq_none_iff.mpr hSilent] at hHidden
      cases hHidden
  · rintro ⟨hShown, hAgree⟩
    obtain ⟨result, hRun, hOk, hPartly⟩ :=
      @exists_onChain R fetch b _ hAccepted hCanonical _ hShown
    have hWorst := hOk.trans hAgree.onChainOk_eq
    refine ⟨result, hRun, ?_, ?_, ?_, ?_, ?_⟩
    · rw [hWorst, worstOpinion_eq_false_iff]
      simp only [gatewayOpinion_false_iff]
    · rw [hWorst, worstOpinion_eq_true_iff]
      simp only [gatewayOpinion_true_iff, gatewayOpinion_false_iff]
    · rw [hWorst, onChainOk_rollup]
    · intro others hSame
      have hShownToo : others = [] ∨
          ∃ shown, display R (b.get? "checkpoint_tx_id") = .ok shown := by
        refine hShown.imp_left fun hEmpty => ?_
        rw [List.eq_nil_iff_forall_not_mem]
        intro gateway hGateway
        have hMem := (hSame gateway).mp hGateway
        rw [hEmpty] at hMem
        cases hMem
      obtain ⟨again, hAgain, hAgainOk, -⟩ :=
        @exists_onChain R fetch b _ hAccepted hCanonical _ hShownToo
      refine ⟨again, hAgain, ?_⟩
      rw [hAgainOk, (hAgree.congr hSame).onChainOk_eq, worstOpinion_congr hSame, hWorst]
    · intro sound hSound hVerified hGateways hSilent
      refine hPartly ((verified_offline_iff hAccepted hSound).mp hVerified) hGateways ?_
      rw [hWorst, worstOpinion_eq_none_iff]
      exact fun gateway hGateway => gatewayOpinion_none_iff.mpr (hSilent gateway hGateway)

section Sample

open Reference

abbrev agentRuntime : Runtime := typeScript (signedWith [Python.sampleProofSigned])

def agentSample : Json := Python.sampleProof agentProofSpecPrefix Python.sampleAuditPath

def agentCheckpoint : Str := (canonicalText Python.sampleProofEnvelope).getD []

/-- One gateway serves the checkpoint, every other one an empty body. -/
def agentFetch (url : Str) : Response :=
  if url = utf16 "https://a/tx1" then .body (utf8 agentCheckpoint) else .body []

theorem agentSample_accepted : agentProofComplaint agentRuntime agentSample = none := by
  decide +kernel

theorem agentSample_canonical :
    jcs agentRuntime (agentSample.get? "checkpoint_envelope") = .ok agentCheckpoint := by
  decide +kernel

theorem worstFindingWins_sample :
    ∃ result, verifyAgentProofBundle agentRuntime agentSample
        ⟨["https://a/"], some fun _ => agentFetch⟩ = .ok result ∧
      WorstFindingWins agentRuntime agentSample (utf8 agentCheckpoint) agentFetch ["https://a/"]
        result := by
  have hBody : gatewayResponse agentRuntime agentFetch agentSample "https://a/" =
      .body (utf8 agentCheckpoint) := by decide +kernel
  refine (worstFindingWins_iff agentFetch agentSample ["https://a/"] agentSample_accepted
    agentSample_canonical).mpr ⟨Or.inr ⟨"tx1", by decide +kernel⟩, ?_, ?_⟩
  · rintro ⟨-, gateway, hGateway, bytes, hBytes, hNot⟩
    rw [List.mem_singleton.mp hGateway, hBody, Response.body.injEq] at hBytes
    exact hNot (hBytes ▸ Or.inl rfl)
  · rintro ⟨gateway, hGateway, hUnreadable⟩
    rw [List.mem_singleton.mp hGateway, hBody] at hUnreadable
    cases hUnreadable

/-- The second gateway contradicts the checkpoint, and the proof is verified. -/
theorem contradicted_verified : ¬∃ result, verifyAgentProofBundle agentRuntime agentSample
      ⟨["https://a", "https://b"], some fun _ => agentFetch⟩ = .ok result ∧
    WorstFindingWins agentRuntime agentSample (utf8 agentCheckpoint) agentFetch
      ["https://a", "https://b"] result := by
  rintro ⟨result, hRun, hWins⟩
  obtain ⟨verified, hVerified, hOk⟩ := exists_of_returns
    (p := fun result => result.status = .verified && result.onChainOk = some true)
    (by decide +kernel : returns (verifyAgentProofBundle agentRuntime agentSample
      ⟨["https://a", "https://b"], some fun _ => agentFetch⟩) _ = true)
  rw [hRun, Except.ok.injEq] at hVerified
  subst hVerified
  simp only [Bool.and_eq_true, decide_eq_true_eq] at hOk
  refine (hWins.confirm.mp hOk.2).2 ⟨"https://b", by decide, [], by decide +kernel, ?_⟩
  rw [← matchesEnvelope_iff]
  decide +kernel

end Sample
end ArioProof.TypeScript
