import ArioProof.Evidence.TraceRun

/-! The on-chain re-fetch. A row is re-fetched through the map of transaction
ids, so that it is compared with the entry the map finds and not necessarily
with its own. -/
namespace ArioProof

open Foundation

variable {ε : Type} (K : Kernel ε)

/-- The bytes are the expected ones, or denote the same canonical ones. -/
def Confirms (expected bytes : Bytes) : Prop :=
  bytes = expected ∨ ∃ parsed, K.jsonParse bytes = .ok parsed ∧ K.canonical parsed = .ok expected

section Probe

/-- The answers behind `probeGateways`, in the order in which the gateways are
asked. -/
def probeAnswers (cp : Json) (fetch : Fetch) : List Str → List Str → List (Option Bytes)
  | _, [] => []
  | requests, gateway :: rest =>
      let url := gatewayUrl cp gateway
      fetch requests url :: probeAnswers cp fetch (requests ++ [url]) rest

theorem outcomes_probeGateways (cp : Json) (expected : Option Bytes) (fetch : Fetch)
    (requests gateways : List Str) :
    (probeGateways K cp expected fetch requests gateways).1.map (·.outcome) =
      (probeAnswers cp fetch requests gateways).map (classifyAnswer K expected) := by
  induction gateways generalizing requests with
  | nil => rfl
  | cons gateway rest ih => simp [probeGateways, probeAnswers, ih]

variable {K}

/-- Bytes that were answered are confirmed or contradicted. -/
theorem classifyAnswer_some (own bytes : Bytes) :
    (Confirms K own bytes ∧ classifyAnswer K (some own) (some bytes) = .confirm) ∨
      (¬Confirms K own bytes ∧ classifyAnswer K (some own) (some bytes) = .mismatch) := by
  unfold Confirms
  simp only [classifyAnswer]
  by_cases hSame : bytes = own
  · exact Or.inl ⟨Or.inl hSame, if_pos hSame⟩
  · rw [if_neg hSame]
    cases hParsed : K.jsonParse bytes with
    | error text => exact Or.inr ⟨by simp [hSame], rfl⟩
    | ok parsed =>
        cases hCanonical : K.canonical parsed with
        | error exc => exact Or.inr ⟨by simp [hSame, hCanonical], by simp [hCanonical]⟩
        | ok canonical =>
            simp only [hCanonical]
            by_cases hc : canonical = own
            · exact Or.inl ⟨Or.inr ⟨parsed, rfl, by rw [hCanonical, hc]⟩, if_pos hc⟩
            · exact Or.inr ⟨by simp [hSame, hCanonical, hc], if_neg hc⟩

theorem classifyAnswer_eq_confirm {expected : Option Bytes} {answer : Option Bytes} :
    classifyAnswer K expected answer = .confirm ↔
      ∃ own bytes, expected = some own ∧ answer = some bytes ∧ Confirms K own bytes := by
  cases answer with
  | none => simp [classifyAnswer]
  | some bytes =>
      cases expected with
      | none => simp [classifyAnswer]
      | some own =>
          rcases classifyAnswer_some  own bytes with ⟨hYes, h⟩ | ⟨hNo, h⟩
          · exact iff_of_true h ⟨own, bytes, rfl, rfl, hYes⟩
          · rw [h]
            refine iff_of_false (by simp) ?_
            rintro ⟨_, _, hOwn, hBytes, hConfirms⟩
            cases hOwn
            cases hBytes
            exact hNo hConfirms

theorem classifyAnswer_eq_mismatch {expected : Option Bytes} {answer : Option Bytes} :
    classifyAnswer K expected answer = .mismatch ↔
      ∃ bytes, answer = some bytes ∧ ∀ own, expected = some own → ¬Confirms K own bytes := by
  cases answer with
  | none => simp [classifyAnswer]
  | some bytes =>
      cases expected with
      | none => simp [classifyAnswer]
      | some own =>
          rcases classifyAnswer_some  own bytes with ⟨hYes, h⟩ | ⟨hNo, h⟩
          · rw [h]
            refine iff_of_false (by simp) ?_
            rintro ⟨_, hBytes, hNone⟩
            cases hBytes
            exact hNone own rfl hYes
          · exact iff_of_true h ⟨bytes, rfl, fun _ hOwn => by cases hOwn; exact hNo⟩

theorem rollupOnChain_confirm_iff (perGateway : List PerGatewayOutcome) :
    (rollupOnChain perGateway).rollup = .confirm ↔
      Outcome.confirm ∈ perGateway.map (·.outcome) ∧
        Outcome.mismatch ∉ perGateway.map (·.outcome) := by
  unfold rollupOnChain
  simp only [List.mem_map]
  by_cases hMismatch : perGateway.any (·.outcome = .mismatch) = true
  · rw [if_pos hMismatch]
    simp only [List.any_eq_true, decide_eq_true_eq] at hMismatch
    simp only [reduceCtorEq, false_iff, not_and, not_not]
    exact fun _ => hMismatch
  · rw [if_neg hMismatch]
    simp only [List.any_eq_true, decide_eq_true_eq] at hMismatch
    by_cases hConfirm : perGateway.any (·.outcome = .confirm) = true
    · rw [if_pos hConfirm]
      simp only [List.any_eq_true, decide_eq_true_eq] at hConfirm
      exact iff_of_true rfl ⟨hConfirm, hMismatch⟩
    · rw [if_neg hConfirm]
      simp only [List.any_eq_true, decide_eq_true_eq] at hConfirm
      exact iff_of_false (by simp) fun h => hConfirm h.1

theorem rollupOnChain_onChainOk (perGateway : List PerGatewayOutcome) :
    (rollupOnChain perGateway).onChainOk =
      match (rollupOnChain perGateway).rollup with
      | .mismatch => some false
      | .confirm => some true
      | .unreachable => none := rfl

/-- A confirmed rollup in terms of the answers. -/
theorem rollup_confirm_iff_answers {cp : Json} {expected : Option Bytes} {fetch : Fetch}
    {requests gateways : List Str} :
    (rollupOnChain (probeGateways K cp expected fetch requests gateways).1).rollup = .confirm ↔
      ∃ own, expected = some own ∧
        (∃ bytes, some bytes ∈ probeAnswers cp fetch requests gateways ∧ Confirms K own bytes) ∧
        ∀ bytes, some bytes ∈ probeAnswers cp fetch requests gateways → Confirms K own bytes := by
  rw [rollupOnChain_confirm_iff, outcomes_probeGateways]
  simp only [List.mem_map, classifyAnswer_eq_confirm, classifyAnswer_eq_mismatch]
  constructor
  · rintro ⟨⟨answer, hAnswer, own, bytes, rfl, rfl, hBytes⟩, hNone⟩
    refine ⟨own, rfl, ⟨bytes, hAnswer, hBytes⟩, fun other hOther => ?_⟩
    by_contra hNot
    exact hNone ⟨some other, hOther, other, rfl, by simpa using hNot⟩
  · rintro ⟨own, rfl, ⟨bytes, hAnswer, hBytes⟩, hAll⟩
    refine ⟨⟨some bytes, hAnswer, own, bytes, rfl, rfl, hBytes⟩, ?_⟩
    rintro ⟨answer, hMem, other, rfl, hNot⟩
    exact hNot own rfl (hAll other hMem)

end Probe

section Rows

variable (byTxId : List (Str × Json)) (gateways : List Str) (fetch : Fetch)

/-- The requests made up to and including some rows. A fetch may answer by what
was asked for before, so that the order of the rows counts. -/
def requestsAfter (requests : List Str) (rows : List CheckpointResult) : List Str :=
  rows.foldl (fun sofar row => (refetchRow K byTxId gateways fetch sofar row).2) requests

theorem getElem?_refetchRows (requests : List Str) (rows : List CheckpointResult) (i : Nat) :
    (refetchRows K byTxId gateways fetch requests rows)[i]? = rows[i]?.map fun row =>
      (refetchRow K byTxId gateways fetch
        (requestsAfter K byTxId gateways fetch requests (rows.take i)) row).1 := by
  induction rows generalizing requests i with
  | nil => simp [refetchRows]
  | cons row rest ih =>
      cases i with
      | zero => simp [refetchRows, requestsAfter]
      | succ i => simpa [refetchRows, requestsAfter] using ih _ i

end Rows

/-- The answers a run obtained for the row at a position; none if it was
skipped. -/
def answersForRow (checkpoints : List Json) (options : Options) (i : Nat) : List (Option Bytes) :=
  match options.fetchImpl, (checkpointRows K [] checkpoints)[i]? with
  | some fetch, some row =>
      match (firstEntries checkpoints).lookup row.txId with
      | some cp => probeAnswers cp fetch (requestsAfter K (firstEntries checkpoints)
          options.gateways fetch [] ((checkpointRows K [] checkpoints).take i)) options.gateways
      | none => []
  | _, _ => []

/-- A row whose own envelope was confirmed by some gateway and contradicted by
none. -/
structure RowConfirmed (checkpoints : List Json) (options : Options) (i : Nat) (cp : Json)
    (row : CheckpointResult) : Prop where
  rollup : ∃ onChain, row.onChain = some onChain ∧ onChain.rollup = .confirm
  onChainOk : row.onChainOk = some true
  answers : ∃ expected, K.expectedBytes cp = some expected ∧
    (∃ bytes, some bytes ∈ answersForRow K checkpoints options i ∧ Confirms K expected bytes) ∧
    ∀ bytes, some bytes ∈ answersForRow K checkpoints options i → Confirms K expected bytes

/-- The entry a row is re-fetched through has the canonical envelope of the
row's own entry. -/
def ResolvesToOwn (checkpoints : List Json) (cp : Json) : Prop :=
  ∃ entry, checkpoints.find? (hasTxId (rowTxId cp)) = some entry ∧
    K.expectedBytes entry = K.expectedBytes cp

/-- One answer confirms at most one envelope: bytes that pass for two entries show
that both have the same canonical form. -/
def ConfirmsOnce : Prop :=
  ∀ ⦃cp cp' first second bytes⦄, K.expectedBytes cp = some first → K.expectedBytes cp' = some second →
    Confirms K first bytes → Confirms K second bytes → first = second

variable {K}

theorem getElem?_checkpointRows (byTxId : List (Str × Json)) (checkpoints : List Json) (i : Nat) :
    (checkpointRows K byTxId checkpoints)[i]? =
      checkpoints[i]?.map (checkpointRow K ((checkpoints.take i).foldl registerTxId byTxId)) := by
  induction checkpoints generalizing byTxId i with
  | nil => simp [checkpointRows]
  | cons cp rest ih =>
      cases i with
      | zero => simp [checkpointRows]
      | succ i => simpa [checkpointRows] using ih (registerTxId byTxId cp) i

variable {b : Json} {options : Options} {result : EvidenceBundleResult}
  {checkpoints events : List Json}

/-- With gateways and a fetch, the row at a position is what the re-fetch made
of the row of its entry, and the answers are those about the entry it found. -/
theorem TraceRun.row_eq (run : TraceRun K b options result checkpoints events) {fetch : Fetch}
    (hGateways : options.gateways ≠ []) (hFetch : options.fetchImpl = some fetch) {i : Nat}
    {cp : Json} {row : CheckpointResult} (hCp : checkpoints[i]? = some cp)
    (hRow : result.checkpoints[i]? = some row) :
    ∃ before requests, before.txId = rowTxId cp ∧ before.onChain = none ∧
      row = (refetchRow K (firstEntries checkpoints) options.gateways fetch requests before).1 ∧
      ∀ entry, checkpoints.find? (hasTxId (rowTxId cp)) = some entry →
        answersForRow K checkpoints options i =
          probeAnswers entry fetch requests options.gateways := by
  have hEmpty : ¬options.gateways.isEmpty = true := by simpa using hGateways
  have hRun := run.rows
  unfold refetch at hRun
  rw [if_neg hEmpty, hFetch] at hRun
  have hBefore := getElem?_checkpointRows (K := K) [] checkpoints i
  rw [hCp, Option.map_some] at hBefore
  rw [hRun, getElem?_refetchRows, hBefore, Option.map_some, Option.some.injEq] at hRow
  refine ⟨_, _, rfl, rfl, hRow.symm, fun entry hEntry => ?_⟩
  unfold answersForRow
  rw [hFetch, hBefore]
  simp only [checkpointRow, lookup_firstEntries, hEntry]

/-- The rollup of a row that was re-fetched is about the entry its id finds. -/
theorem TraceRun.onChain_of_row (run : TraceRun K b options result checkpoints events) {i : Nat}
    {cp : Json} {row : CheckpointResult} {onChain : OnChainResult}
    (hCp : checkpoints[i]? = some cp) (hRow : result.checkpoints[i]? = some row)
    (hOnChain : row.onChain = some onChain) (hConfirm : onChain.rollup = .confirm) :
    ∃ entry expected, checkpoints.find? (hasTxId (rowTxId cp)) = some entry ∧
      K.expectedBytes entry = some expected ∧
      (∃ bytes, some bytes ∈ answersForRow K checkpoints options i ∧ Confirms K expected bytes) ∧
      ∀ bytes, some bytes ∈ answersForRow K checkpoints options i → Confirms K expected bytes := by
  by_cases hFetched : options.gateways ≠ [] ∧ ∃ fetch, options.fetchImpl = some fetch
  · obtain ⟨hGateways, fetch, hFetch⟩ := hFetched
    obtain ⟨before, requests, hTxId, hNone, rfl, hAnswers⟩ :=
      run.row_eq hGateways hFetch hCp hRow
    unfold refetchRow at hOnChain
    rw [hTxId, lookup_firstEntries] at hOnChain
    cases hEntry : checkpoints.find? (hasTxId (rowTxId cp)) with
    | none =>
        rw [hEntry, hNone] at hOnChain
        cases hOnChain
    | some entry =>
        rw [hEntry] at hOnChain
        cases hOnChain
        obtain ⟨expected, hExpected, hSome, hAll⟩ := rollup_confirm_iff_answers.mp hConfirm
        rw [hAnswers entry hEntry]
        exact ⟨entry, expected, rfl, hExpected, hSome, hAll⟩
  · -- Without gateways or without a fetch, no row is re-fetched.
    exfalso
    have hRun : result.checkpoints = checkpointRows K [] checkpoints := by
      rw [run.rows]
      unfold refetch
      split_ifs with hEmpty
      · rfl
      · cases hFetch : options.fetchImpl with
        | none => rfl
        | some fetch => exact (hFetched ⟨by simpa using hEmpty, fetch, hFetch⟩).elim
    rw [hRun, getElem?_checkpointRows, hCp, Option.map_some, Option.some.injEq] at hRow
    rw [← hRow] at hOnChain
    cases hOnChain

/-- In a verified run with gateways, a row is confirmed for its own envelope
exactly when it is re-fetched through an entry with the same envelope. -/
theorem TraceRun.rowConfirmed_iff (hUnique : ConfirmsOnce K)
    (run : TraceRun K b options result checkpoints events) (hStatus : result.status = .verified)
    (hGateways : options.gateways ≠ []) {i : Nat} {cp : Json} {row : CheckpointResult}
    (hCp : checkpoints[i]? = some cp) (hRow : result.checkpoints[i]? = some row) :
    RowConfirmed K checkpoints options i cp row ↔ ResolvesToOwn K checkpoints cp := by
  have hRollup := (rollupStatus_verified_iff _ _ _).mp (run.status.symm.trans hStatus)
  obtain ⟨-, hRows, -, hAvailable, -⟩ := hRollup
  have hMem : row ∈ result.checkpoints := List.mem_of_getElem? hRow
  have hRowOk := hRows row hMem
  have hEmpty : ¬options.gateways.isEmpty = true := by simpa using hGateways
  constructor
  · intro h
    obtain ⟨onChain, hOnChain, hConfirm⟩ := h.rollup
    obtain ⟨entry, expected, hEntry, hExpected, ⟨bytes, hBytes, hConfirms⟩, -⟩ :=
      run.onChain_of_row hCp hRow hOnChain hConfirm
    obtain ⟨own, hOwn, -, hOwnAll⟩ := h.answers
    refine ⟨entry, hEntry, ?_⟩
    have hSame : expected = own := hUnique hExpected hOwn hConfirms
      (hOwnAll bytes hBytes)
    rw [hExpected, hSame]
    exact hOwn.symm
  · rintro ⟨entry, hEntry, hSame⟩
    obtain ⟨fetch, hFetch, hReachable⟩ : ∃ fetch, options.fetchImpl = some fetch ∧
        isUnavailable row = false := by
      unfold refetch at hAvailable
      rw [if_neg hEmpty] at hAvailable
      cases hFetch : options.fetchImpl with
      | none => simp [hFetch] at hAvailable
      | some fetch =>
          have hRun := run.rows
          unfold refetch at hRun
          rw [if_neg hEmpty, hFetch] at hRun
          simp only [hFetch] at hAvailable hRun
          rw [← hRun] at hAvailable
          exact ⟨fetch, rfl, by simpa using List.any_eq_false.mp hAvailable row hMem⟩
    obtain ⟨before, requests, hTxId, -, hOwn, hAnswers⟩ := run.row_eq hGateways hFetch hCp hRow
    unfold refetchRow at hOwn
    rw [hTxId, lookup_firstEntries, hEntry] at hOwn
    simp only at hOwn
    -- A verified run leaves only `confirm` for a row that was fetched.
    have hConfirm : (rollupOnChain (probeGateways K entry (K.expectedBytes entry) fetch requests
        options.gateways).1).rollup = .confirm := by
      rw [hOwn] at hRowOk hReachable
      simp only [isUnavailable, rollupOnChain_onChainOk, decide_eq_false_iff_not,
        Bool.and_eq_true] at hRowOk hReachable
      revert hRowOk hReachable
      generalize (rollupOnChain (probeGateways K entry (K.expectedBytes entry) fetch requests
        options.gateways).1).rollup = rollup
      cases rollup <;> simp
    obtain ⟨expected, hExpected, hSome, hAll⟩ := rollup_confirm_iff_answers.mp hConfirm
    rw [← hAnswers entry hEntry] at hSome hAll
    refine ⟨⟨_, by rw [hOwn], hConfirm⟩, ?_, expected, hSame ▸ hExpected,
      hSome, hAll⟩
    rw [hOwn]
    simp only [rollupOnChain_onChainOk, hConfirm]

end ArioProof
