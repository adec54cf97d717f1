import ArioProof.Evidence.ExportRun

/-! The derived fields of a verdict object as functions of the dimensions that
it shows. What the code derives them from is wider; the difference is closed by
what holds of every row. -/
namespace ArioProof

open Foundation

/-- The status of an event entry is a function of the dimensions next to it. -/
structure StatusDerived (v : Json) : Prop where
  failed : v.get "status" = .str "failed" ↔ v.get "signature_ok" = .bool false ∨
    v.get "inclusion_ok" = .bool false ∨ v.get "content_ok" = .bool false
  partly : v.get "status" = .str "partial" ↔
    v.get "status" ≠ .str "failed" ∧ v.get "payload_bound" = .null
  verified : v.get "status" = .str "verified" ↔
    v.get "status" ≠ .str "failed" ∧ v.get "payload_bound" ≠ .null

def hasStatus (status : String) (v : Json) : Bool := (v.get "status").str? = some (utf16 status)

/-- The three dimensions that an attestation entry shows all hold. -/
def passes (a : AttestationResult) : Bool :=
  a.signatureOk && a.operatorAddressBound && a.dataHashBound

/-- The counts of a verdict, from its event entries and the attestations. -/
structure CountsDerived (verdict : Json) (attestations : List AttestationResult) : Prop where
  verified : (verdict.get "counts").get "verified" =
    .int ((verdict.listAt "events").countP (hasStatus "verified") + attestations.countP passes : Nat)
  failed : (verdict.get "counts").get "failed" =
    .int ((verdict.listAt "events").countP (hasStatus "failed") +
      attestations.countP (!passes ·) : Nat)
  undetermined : (verdict.get "counts").get "undetermined" =
    .int ((verdict.listAt "events").countP (hasStatus "partial") : Nat)

/-- A row whose outcome shows in the dimensions of its entry. -/
def EventGated (e : EventResult) : Prop :=
  e.ok = (e.envelopeOk && e.inclusionOk && e.contentOk != some false)

section Events

variable {ε : Type} {K : Kernel ε}

/-- An inclusion that holds was checked against a checkpoint, so that nothing
hidden decides. -/
theorem eventGated_eventRow (byTxId : List (Str × Json)) (content : Str → Option SideContent)
    (ev : Json) : EventGated (eventRow K byTxId content ev) := by
  unfold EventGated eventRow
  cases hCp : resolveCheckpoint byTxId (ev.get "inclusion") <;> simp [hCp]

theorem eventGated_of_run {b : Json} {options : Options} {result : EvidenceBundleResult}
    (h : verifyEvidenceBundle K b options = .ok result) : ∀ e ∈ result.events, EventGated e := by
  intro e he
  rcases rows_of_traced h with ⟨-, hNone, -⟩ | ⟨inner, checkpoints, events, run, -, -, -, hRows, -⟩
  · rw [hNone] at he
    cases he
  · rw [hRows, run.eventRows] at he
    obtain ⟨ev, -, rfl⟩ := List.mem_map.mp he
    exact eventGated_eventRow _ _ ev

theorem get_eventEntry (e : EventResult) :
    (eventEntry e).get "status" = .str (eventVerdictStatus e).wire ∧
      (eventEntry e).get "signature_ok" = .bool e.envelopeOk ∧
      (eventEntry e).get "payload_bound" = .ofOption e.payloadBindingOk ∧
      (eventEntry e).get "inclusion_ok" = .bool e.inclusionOk ∧
      (eventEntry e).get "content_ok" = .ofOption e.contentOk := by
  simp [eventEntry, Json.get, List.lookup_cons]

/-- A row fails exactly when one of the shown dimensions does. -/
theorem EventGated.ok_eq_false {e : EventResult} (h : EventGated e) : e.ok = false ↔
    e.envelopeOk = false ∨ e.inclusionOk = false ∨ e.contentOk = some false := by
  rw [h]
  cases e.envelopeOk <;> cases e.inclusionOk <;> simp

theorem ofOption_eq_false {value : Option Bool} :
    Json.ofOption value = .bool false ↔ value = some false := by
  rcases value with _ | _ | _ <;> simp [Json.ofOption]

theorem ofOption_eq_null {value : Option Bool} : Json.ofOption value = .null ↔ value = none := by
  cases value <;> simp [Json.ofOption]

theorem statusDerived_eventEntry {e : EventResult} (h : EventGated e) :
    StatusDerived (eventEntry e) := by
  obtain ⟨hStatus, hSignature, hPayload, hInclusion, hContent⟩ := get_eventEntry e
  constructor
  case failed =>
    rw [hStatus, hSignature, hInclusion, hContent, ofOption_eq_false, Json.bool.injEq,
      Json.bool.injEq, ← h.ok_eq_false]
    unfold eventVerdictStatus
    cases e.ok <;> cases e.payloadBindingOk <;> simp [Status.wire]
  case partly =>
    rw [hStatus, hPayload, ofOption_eq_null]
    unfold eventVerdictStatus
    cases e.ok <;> cases e.payloadBindingOk <;> simp [Status.wire]
  case verified =>
    rw [hStatus, hPayload, Ne, Ne, ofOption_eq_null]
    unfold eventVerdictStatus
    cases e.ok <;> cases e.payloadBindingOk <;> simp [Status.wire]

end Events

section Counts

theorem hasStatus_eventEntry (e : EventResult) :
    hasStatus "verified" (eventEntry e) = decide (eventVerdictStatus e = .verified) ∧
      hasStatus "failed" (eventEntry e) = decide (eventVerdictStatus e = .failed) ∧
      hasStatus "partial" (eventEntry e) =
        decide (eventVerdictStatus e ≠ .failed ∧ eventVerdictStatus e ≠ .verified) := by
  unfold hasStatus
  rw [(get_eventEntry e).1]
  unfold eventVerdictStatus
  cases e.ok <;> cases e.payloadBindingOk <;> simp [Status.wire, Json.str?]

/-- The three statuses are all there are, so the counts of a verdict add up to its
events. -/
theorem length_eq_counts (events : List EventResult) :
    (events.map eventEntry).countP (hasStatus "verified") +
      (events.map eventEntry).countP (hasStatus "failed") +
      (events.map eventEntry).countP (hasStatus "partial") = events.length := by
  induction events with
  | nil => rfl
  | cons e rest ih =>
      obtain ⟨hVerified, hFailed, hPartly⟩ := hasStatus_eventEntry e
      simp only [List.map_cons, List.countP_cons, hVerified, hFailed, hPartly, List.length_cons]
      cases eventVerdictStatus e <;> simp [-List.countP_map] <;> omega

variable {events : List EventResult} {attestations : List AttestationResult}

theorem countP_of_verified (h : ∀ e ∈ events, eventVerdictStatus e = .verified) :
    (events.map eventEntry).countP (hasStatus "failed") = 0 ∧
      (events.map eventEntry).countP (hasStatus "partial") = 0 := by
  constructor
  all_goals
    rw [List.countP_eq_zero]
    intro v hv
    obtain ⟨e, he, rfl⟩ := List.mem_map.mp hv
    obtain ⟨-, hFailed, hPartly⟩ := hasStatus_eventEntry e
    simp [hFailed, hPartly, h e he]

/-- The tallies of the source, read off the entries. -/
theorem get_verdictCounts (hPasses : ∀ a ∈ attestations, a.ok = passes a) :
    (verdictCounts events attestations).get "verified" =
        .int ((events.map eventEntry).countP (hasStatus "verified") +
          attestations.countP passes : Nat) ∧
      (verdictCounts events attestations).get "failed" =
        .int ((events.map eventEntry).countP (hasStatus "failed") +
          attestations.countP (!passes ·) : Nat) ∧
      (verdictCounts events attestations).get "undetermined" =
        .int ((events.map eventEntry).countP (hasStatus "partial") : Nat) := by
  have hOk : attestations.countP (·.ok) = attestations.countP passes :=
    List.countP_congr fun a ha => by rw [hPasses a ha]
  have hNotOk : attestations.countP (!·.ok) = attestations.countP (!passes ·) :=
    List.countP_congr fun a ha => by rw [hPasses a ha]
  have hStatuses (status : String) (p : Status → Bool)
      (h : ∀ e : EventResult, hasStatus status (eventEntry e) = p (eventVerdictStatus e)) :
      (events.map eventEntry).countP (hasStatus status) = (events.map eventVerdictStatus).countP p := by
    rw [List.countP_map, List.countP_map]
    exact List.countP_congr fun e _ => by simp [h]
  rw [hStatuses "verified" (· == .verified) fun e => (hasStatus_eventEntry e).1,
    hStatuses "failed" (· == .failed) fun e => (hasStatus_eventEntry e).2.1,
    hStatuses "partial" (fun s => decide (s ≠ .failed ∧ s ≠ .verified))
      fun e => (hasStatus_eventEntry e).2.2, ← hOk, ← hNotOk]
  simp [verdictCounts, Json.get, List.lookup_cons, List.count_eq_countP]

end Counts

section Display

variable {b : Json} {source : EvidenceBundleResult} {attestations : List AttestationResult}

/-- Completing a verdict leaves the members that are derived here alone. -/
theorem get_displayVerdict {key : String} (hKey : key ≠ "status") (hKey' : key ≠ "summary")
    (hKey'' : key ≠ "as_of") (status : Status) :
    (displayVerdict (freshVerdict b source attestations) status source attestations).get key =
      (buildVerdictObject source attestations).get key := by
  unfold displayVerdict freshVerdict
  rw [Json.get, Json.get, Json.get?_set_of_ne hKey', Json.get?_set_of_ne hKey]
  split
  · rw [Json.get?_set_of_ne hKey'']
    rfl
  · rfl

theorem get_buildVerdictObject : (buildVerdictObject source attestations).get "counts" =
      verdictCounts source.events attestations ∧
    (buildVerdictObject source attestations).get "events" =
      .arr (source.events.map eventEntry) ∧
    (buildVerdictObject source attestations).get "checkpoints" =
      .arr (source.checkpoints.map (checkpointEntry attestations)) := by
  simp [buildVerdictObject, Json.get, List.lookup_cons]

theorem get_checkpointEntry (c : CheckpointResult) :
    (checkpointEntry attestations c).get "merkle_root_ok" = .bool c.merkleRootOk ∧
      (checkpointEntry attestations c).listAt "attestations" =
        (attestations.filter (·.checkpointTxId = c.txId)).map attestationEntry := by
  simp [checkpointEntry, Json.listAt, Json.get, List.lookup_cons, Json.arr?]

end Display

section Verified

variable {ε : Type} {K : Kernel ε} {b : Json} {options : Options} {result : EvidenceBundleResult}

/-- What a verified result says of its rows, whichever chain of sources it came
through. -/
theorem rows_of_verified (h : verifyEvidenceBundle K b options = .ok result)
    (hStatus : result.status = .verified) :
    (∀ row ∈ result.checkpoints, row.merkleRootOk = true) ∧
      ∀ e ∈ result.events, eventVerdictStatus e = .verified := by
  rcases rows_of_traced h with ⟨-, -, hNot, -⟩ |
    ⟨inner, checkpoints, events, run, -, -, hRows, hEventRows, hSame, -⟩
  · exact (hNot hStatus).elim
  · have hInner := (hSame (by simp [hStatus])).symm.trans hStatus
    obtain ⟨-, hCheckpoints, hEvents, -, hBound⟩ :=
      (rollupStatus_verified_iff _ _ _).mp (run.status.symm.trans hInner)
    rw [hRows, hEventRows]
    constructor
    · intro row hRow
      obtain ⟨cp, -, hRowOf⟩ := exists_of_mem_right run.rowsOf hRow
      exact (hRowOf.ok (hCheckpoints row hRow)).2
    · intro e he
      simp [eventVerdictStatus, hEvents e he, hBound e he]

end Verified
end ArioProof
