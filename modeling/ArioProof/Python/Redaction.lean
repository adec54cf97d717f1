import ArioProof.Python.Wrapper

/-! Redaction of a verified trace: records and disclosed content are taken out
of events, and the wrapper is signed again around what is left. -/
namespace ArioProof.Python

open Foundation

variable (R : Runtime)

/-- What is taken out of one event: its record, its content, or both. -/
structure Removal where
  record : Bool
  content : Bool

/-- The members of an event that a removal leaves. -/
def Removal.keeps (removal : Removal) (key : Str) : Bool :=
  !(removal.record && key = utf16 "record_bytes") && !(removal.content && key = utf16 "content")

/-- An event without its record, without its content, or without either. -/
def redactEvent (removal : Removal) (ev : Json) : Json := ev.restrict removal.keeps

/-- Each event by the removal for its place. -/
def redactEvents (removal : Nat → Removal) (events : List Json) : List Json :=
  events.mapIdx fun i ev => redactEvent (removal i) ev

/-- A body with its events redacted. Checkpoints and every other member stay. -/
def redactBody (removal : Nat → Removal) (body : Json) : Json :=
  body.set "events" (.arr (redactEvents removal (body.listAt "events")))

/-- The wrapper around another body, before it is signed. -/
def rewrap (b body : Json) (bodyHash publicKey : Str) : Json :=
  ((b.set "body" body).set "body_hash" (.str bodyHash)).set "public_key" (.str publicKey)

/-- The wrapper around another body, with its hash computed and signed again. -/
def resign (b body : Json) (key : SigningKey) : Except Exc Json := do
  let canonical ← canonicalJson R body
  let pre := rewrap b body (sha256Hex R canonical) (publicKeyHex R key)
  let message ← canonicalJson R (bundleForSig pre)
  return pre.set "signature" (.str (Hex.encode (sign R message key)))

section Resign

variable {R} {b body signed : Json} {key : SigningKey}

/-- The members that are assigned when a wrapper is signed again. -/
def resignedFields : List String := ["body", "body_hash", "public_key", "signature"]

/-- The members that a wrapper is signed around are those that it was given. -/
theorem get?_rewrap (hObj : b.isObj = true) (body : Json) (bodyHash publicKey : Str) :
    (rewrap b body bodyHash publicKey).get? "body" = some body ∧
      (rewrap b body bodyHash publicKey).get? "body_hash" = some (.str bodyHash) ∧
      (rewrap b body bodyHash publicKey).get? "public_key" = some (.str publicKey) ∧
      ∀ name, name ∉ resignedFields →
        (rewrap b body bodyHash publicKey).get? name = b.get? name := by
  unfold rewrap
  refine ⟨?_, ?_, ?_, fun name hName => ?_⟩
  · rw [Json.get?_set_of_ne (by decide), Json.get?_set_of_ne (by decide), Json.get?_set hObj]
  · rw [Json.get?_set_of_ne (by decide), Json.get?_set (by rw [Json.isObj_set, hObj])]
  · rw [Json.get?_set (by rw [Json.isObj_set, Json.isObj_set, hObj])]
  · simp only [resignedFields, List.mem_cons, not_or] at hName
    rw [Json.get?_set_of_ne hName.2.2.1, Json.get?_set_of_ne hName.2.1,
      Json.get?_set_of_ne hName.1]

/-- A text that is set in a shallow object leaves it shallow. -/
theorem depth_set_str_le {v : Json} {key : String} {s : Str} (h : v.depth ≤ maxCanonicalDepth) :
    (v.set key (.str s)).depth ≤ maxCanonicalDepth :=
  Json.depth_set_le h (Nat.zero_lt_succ _)

/-- What is signed again is a signed wrapper around the new body, and otherwise
the wrapper it was. -/
theorem resign_eq_ok (hObj : b.isObj = true) (h : resign R b body key = .ok signed) :
    WrapperSigned R signed key ∧ signed.isObj = true ∧ signed.get "body" = body ∧
      (∀ name, name ∉ resignedFields → signed.get name = b.get name) ∧
      (b.depth ≤ maxCanonicalDepth → body.depth < maxCanonicalDepth →
        signed.depth ≤ maxCanonicalDepth) := by
  unfold resign at h
  obtain ⟨canonical, hCanonical, h⟩ := bind_eq_ok.mp h
  obtain ⟨message, hMessage, h⟩ := bind_eq_ok.mp h
  cases h
  obtain ⟨hBody, hHash, hKey, hOther⟩ :=
    get?_rewrap hObj body (sha256Hex R canonical) (publicKeyHex R key)
  have hPre : (rewrap b body (sha256Hex R canonical) (publicKeyHex R key)).isObj = true := by
    rw [rewrap, Json.isObj_set, Json.isObj_set, Json.isObj_set, hObj]
  have hGet {name : String} (hName : name ≠ "signature") (value : Json) :
      ((rewrap b body (sha256Hex R canonical) (publicKeyHex R key)).set "signature" value).get
        name = (rewrap b body (sha256Hex R canonical) (publicKeyHex R key)).get name := by
    rw [Json.get, Json.get, Json.get?_set_of_ne hName]
  refine ⟨⟨⟨canonical, ?_, ?_⟩, ?_, ⟨message, ?_, ?_⟩⟩, ?_, ?_, fun name hName => ?_,
    fun hShallow hInner => ?_⟩
  · rw [hGet (by decide), Json.get_of_get? hBody]
    exact hCanonical
  · rw [hGet (by decide), Json.get_of_get? hHash]
  · rw [hGet (by decide), Json.get_of_get? hKey]
  · rw [bundleForSig_set_signature]
    exact hMessage
  · exact Json.get_of_get? (Json.get?_set hPre "signature" _)
  · rw [Json.isObj_set, hPre]
  · rw [hGet (by decide), Json.get_of_get? hBody]
  · have hSignature : name ≠ "signature" := by
      rintro rfl
      exact hName (by decide)
    rw [hGet hSignature, Json.get, hOther name hName, Json.get]
  · exact depth_set_str_le (depth_set_str_le (depth_set_str_le (Json.depth_set_le hShallow hInner)))

end Resign

section Event

variable {R} {ev : Json} {removal : Removal}

/-- A redacted event has the members that are kept, and lacks the others. -/
theorem get?_redactEvent (removal : Removal) (ev : Json) (name : String) :
    (redactEvent removal ev).get? name =
      if removal.keeps (utf16 name) then ev.get? name else none := by
  rw [Json.get?_eq_member?, Json.get?_eq_member?, redactEvent, Json.member?_restrict]

/-- Every other member of an event is kept. -/
theorem get_redactEvent {name : String} (hRecord : name ≠ "record_bytes")
    (hContent : name ≠ "content") : (redactEvent removal ev).get name = ev.get name := by
  have hKeeps : removal.keeps (utf16 name) = true := by
    simp [Removal.keeps, hRecord, hContent]
  rw [Json.get, get?_redactEvent, if_pos hKeeps, Json.get]

/-- The record reads as missing once it is taken out. -/
theorem get_redactEvent_record : (redactEvent removal ev).get "record_bytes" =
    if removal.record then .null else ev.get "record_bytes" := by
  rw [Json.get, get?_redactEvent, Json.get]
  cases hRecord : removal.record <;> simp [Removal.keeps, hRecord]

/-- The content reads as missing once it is taken out. -/
theorem get_redactEvent_content : (redactEvent removal ev).get "content" =
    if removal.content then .null else ev.get "content" := by
  rw [Json.get, get?_redactEvent, Json.get]
  cases hContent : removal.content <;> simp [Removal.keeps, hContent]

/-- Taking out members leaves an object an object. -/
theorem isObj_redactEvent : (redactEvent removal ev).isObj = ev.isObj := by
  cases ev <;> rfl

/-- An event nothing is taken out of is the event it was. -/
theorem redactEvent_of_kept (hRecord : removal.record = false) (hContent : removal.content = false) :
    redactEvent removal ev = ev := by
  have hKeeps : removal.keeps = fun _ => true := by
    funext key
    simp [Removal.keeps, hRecord, hContent]
  cases ev with
  | obj members => simp [redactEvent, Json.restrict, hKeeps]
  | _ => rfl

/-- No comparison of a binding failed: neither the inline payload nor the bytes
supplied have another hash. -/
theorem checkPayload_ne_false_iff {envelope : Json} {payloadBytes : Option Bytes} :
    (checkPayload R envelope payloadBytes).1 ≠ some false ↔
      ∃ storedHash, (envelope.get "payload_hash").str? = some storedHash ∧
        ∀ check ∈ (payloadChecks R envelope payloadBytes storedHash).1, check = true := by
  unfold checkPayload
  cases (envelope.get "payload_hash").str? with
  | none => simp
  | some storedHash =>
      simp only [Option.some.injEq, exists_eq_left']
      cases (payloadChecks R envelope payloadBytes storedHash).1 with
      | nil => simp
      | cons check checks => cases check <;> simp

/-- An envelope that holds next to its record holds without it. -/
theorem verifyEnvelope_withheld {envelope : Json} {payloadBytes : Option Bytes} {allowLegacy : Bool}
    (h : (verifyEnvelope R envelope payloadBytes none allowLegacy).ok = true) :
    (verifyEnvelope R envelope none none allowLegacy).ok = true := by
  have hFewer (storedHash : Str) : ∀ check ∈ (payloadChecks R envelope none storedHash).1,
      check ∈ (payloadChecks R envelope payloadBytes storedHash).1 := by
    intro check hCheck
    unfold payloadChecks at hCheck ⊢
    simp only [List.append_nil] at hCheck
    exact List.mem_append_left _ hCheck
  unfold verifyEnvelope at h ⊢
  split at h
  · cases h
  · rename_i hObj
    rw [if_neg hObj]
    simp only [Bool.and_eq_true, bne_iff_ne, checkPayload_ne_false_iff] at h ⊢
    obtain ⟨hSigned, storedHash, hStored, hAll⟩ := h
    exact ⟨hSigned, storedHash, hStored, fun check hCheck => hAll check (hFewer storedHash check hCheck)⟩

variable {byTxId : List (Str × Json)}

/-- A record that was taken out counts as withheld, without a note. -/
theorem decodeRecord_redactEvent : decodeRecord R "event" (redactEvent removal ev) =
    if removal.record then (none, []) else decodeRecord R "event" ev := by
  unfold decodeRecord
  rw [get_redactEvent_record]
  cases removal.record <;> rfl

/-- Content that was taken out counts as undisclosed, without a note. -/
theorem inBodyContent_redactEvent : inBodyContent R (redactEvent removal ev) =
    if removal.content then (none, []) else inBodyContent R ev := by
  unfold inBodyContent
  rw [get_redactEvent_content]
  cases removal.content <;> rfl

/-- The hashes that content is held against do not depend on what was taken out,
save through the record itself. -/
theorem committedHashes_redactEvent (recordBytes : Option Bytes) :
    committedHashes R (redactEvent removal ev) recordBytes = committedHashes R ev recordBytes := by
  unfold committedHashes
  rw [get_redactEvent (by decide) (by decide)]

/-- What can turn an event down after a redaction is content that has lost the
record that bound it. -/
theorem eventRow_redactEvent_ok_iff
    (h : (eventRow (kernel R) byTxId (fun _ => none) ev).ok = true) :
    (eventRow (kernel R) byTxId (fun _ => none) (redactEvent removal ev)).ok = true ↔
      (removal.record = true → removal.content = false → ContentBinds R ev none) := by
  rw [eventRow_ok_iff] at h ⊢
  obtain ⟨hEnvelope, ⟨cp, hResolved, hInclusion⟩, hContent⟩ := h
  have hEnvelope' : (eventEnvelope R (redactEvent removal ev)).ok = true := by
    unfold eventEnvelope at hEnvelope ⊢
    rw [get_redactEvent (by decide) (by decide), decodeRecord_redactEvent]
    cases removal.record with
    | true => exact verifyEnvelope_withheld hEnvelope
    | false => exact hEnvelope
  have hInclusion' : ∃ cp, resolveCheckpoint byTxId ((redactEvent removal ev).get "inclusion") =
      some cp ∧ (checkInclusion R (redactEvent removal ev)
        ((redactEvent removal ev).get "inclusion") cp).1 = true := by
    refine ⟨cp, ?_, ?_⟩
    · rw [get_redactEvent (by decide) (by decide)]
      exact hResolved
    · unfold checkInclusion at hInclusion ⊢
      rw [get_redactEvent (by decide) (by decide), get_redactEvent (by decide) (by decide)]
      exact hInclusion
  simp only [hEnvelope', hInclusion', true_and]
  unfold ContentBinds at hContent ⊢
  simp only [inBodyContent_redactEvent, committedHashes_redactEvent, decodeRecord_redactEvent]
  cases removal.content with
  | true => simp
  | false =>
      cases removal.record with
      | true => simp
      | false => simpa using hContent

end Event

section Run

variable {R} {b redacted : Json} {result : EvidenceBundleResult} {removal : Nat → Removal}
  {key : SigningKey} {checkpoints events : List Json}

/-- Redacted events are nested no more deeply. -/
theorem depth_redactEvents_le (removal : Nat → Removal) (events : List Json) :
    (Json.arr (redactEvents removal events)).depth ≤ (Json.arr events).depth := by
  apply depth_arr_le_iff.mpr
  intro redacted hMem
  obtain ⟨i, hi, rfl⟩ := List.mem_mapIdx.mp hMem
  exact (Json.depth_restrict_le _ _).trans
    (depth_arr_le_iff.mp (le_refl (Json.arr events).depth) _ (List.getElem_mem hi))

/-- Redaction does not nest a body any deeper. -/
theorem depth_redactBody_le {body : Json} {events : List Json}
    (h : body.get "events" = .arr events) : (redactBody removal body).depth ≤ body.depth := by
  have hEvents : (Json.arr events).depth < body.depth :=
    Json.depth_lt_of_get? (Json.get?_of_get h (by simp))
  have hList : body.listAt "events" = events := by
    rw [Json.listAt, h]
    rfl
  rw [redactBody, hList]
  exact Json.depth_set_le le_rfl ((depth_redactEvents_le removal events).trans_lt hEvents)

/-- A trace that holds can be signed again around what is left of it. -/
theorem resign_returns (hJcs : R.JcsCompositional) (hb : Wrapped (kernel R) b)
    (run : TraceRun (kernel R) b .offline result checkpoints events) (removal : Nat → Removal)
    (key : SigningKey) :
    ∃ redacted, resign R b (redactBody removal (b.get "body")) key = .ok redacted := by
  obtain ⟨-, hDepth, -, -, -, -, -, hBody⟩ := wrapperComplaint_eq_none_iff.mp hb.complaint
  have hInner : (b.get "body").depth < maxCanonicalDepth :=
    (Json.depth_lt_of_get? (Json.get?_of_get rfl hBody)).trans_le hDepth
  have hEvents := Json.get?_of_get run.events_eq (by simp)
  have hDeeper := (Json.depth_lt_of_get? hEvents).trans hInner
  have hCanonical := canonicalizes_body hb
  have hList : Renders R (Json.arr events).depth (.arr (redactEvents removal events)) := by
    have hLe := depth_redactEvents_le removal events
    refine ⟨hLe, (hJcs.arr _ (hLe.trans hDeeper.le)).mpr fun v hv => ?_⟩
    obtain ⟨i, hi, rfl⟩ := List.mem_mapIdx.mp hv
    exact (canonicalizes_iff.mp (((hCanonical.get? hJcs hEvents).mem hJcs
      (List.getElem_mem hi)).restrict hJcs _)).2
  have hBody' : Canonicalizes R (redactBody removal (b.get "body")) := by
    rw [redactBody, Json.listAt, run.events_eq]
    exact hCanonical.set hJcs (by decide) hList hDeeper
  obtain ⟨canonical, hBytes⟩ := hBody'
  have hRest : Renders R (b.get "body").depth (redactBody removal (b.get "body")) :=
    ⟨depth_redactBody_le run.events_eq, (canonicalizes_iff.mp ⟨canonical, hBytes⟩).2⟩
  have hText (bytes : Bytes) : Renders R 0 (.str (Hex.encode bytes)) :=
    renders_ascii hJcs (Hex.isAscii_encode bytes) 0
  have hScope : Canonicalizes R (bundleForSig b) := by
    have hSigned := hb.signature
    unfold checkWrapperSignature at hSigned
    cases hMessage : (kernel R).canonical (bundleForSig b) with
    | error exc => simp [hMessage] at hSigned
    | ok message => exact ⟨message, kernel_canonical_eq_ok.mp hMessage⟩
  obtain ⟨message, hMessage⟩ : Canonicalizes R (bundleForSig (rewrap b
      (redactBody removal (b.get "body")) (sha256Hex R canonical) (publicKeyHex R key))) := by
    rw [bundleForSig_eq_restrict] at hScope ⊢
    rw [rewrap, Json.restrict_set_of_keep (by decide), Json.restrict_set_of_keep (by decide),
      Json.restrict_set_of_keep (by decide)]
    exact ((hScope.set hJcs (by decide) hRest hInner).set hJcs (by decide) (hText _)
      (by decide)).set hJcs (by decide) (hText _) (by decide)
  exact ⟨_, bind_eq_ok.mpr ⟨canonical, hBytes, bind_eq_ok.mpr ⟨message, hMessage, rfl⟩⟩⟩

/-- A redacted trace is run through, over the same entries of checkpoints. -/
theorem traceRun_redacted (hSign : R.crypto.Ed25519Correct) (hb : Wrapped (kernel R) b)
    (run : TraceRun (kernel R) b .offline result checkpoints events)
    (hType : b.get "body_type" = .str anchorTraceBodyType)
    (hRedacted : resign R b (redactBody removal (b.get "body")) key = .ok redacted) :
    ∃ after, verifyEvidenceBundle R redacted .offline = .ok after ∧
      TraceRun (kernel R) redacted .offline after checkpoints (redactEvents removal events) := by
  obtain ⟨hObj, hDepth, hSpec, hAlg, -, -, -, hBody⟩ := wrapperComplaint_eq_none_iff.mp hb.complaint
  obtain ⟨hSigned, hObj', hBody', hGet, hDepth'⟩ := resign_eq_ok hObj hRedacted
  have hBodyObj : (b.get "body").isObj = true := by
    by_contra hNot
    have hRead := run.body_read
    simp only [kernel, hNot, if_false, reduceCtorEq] at hRead
  have hInner : (b.get "body").depth < maxCanonicalDepth :=
    (Json.depth_lt_of_get? (Json.get?_of_get rfl hBody)).trans_le hDepth
  have hList : (b.get "body").listAt "events" = events := by
    rw [Json.listAt, run.events_eq]
    rfl
  have hNewObj : (redactBody removal (b.get "body")).isObj = true := by
    rw [redactBody, Json.isObj_set, hBodyObj]
  have hWrapped : Wrapped (kernel R) redacted := by
    refine wrapped_of_signed hSign hSigned hObj' ?_ ?_ ?_ ?_
    · exact hDepth' hDepth ((depth_redactBody_le run.events_eq).trans_lt hInner)
    · rw [hGet "spec_version" (by decide)]
      exact hSpec
    · rw [hGet "signature_alg" (by decide)]
      exact hAlg
    · rw [hBody']
      intro hNull
      rw [hNull] at hNewObj
      cases hNewObj
  have hCheckpoints : (redacted.get "body").get "checkpoints" = .arr checkpoints := by
    rw [hBody', redactBody, Json.get, Json.get?_set_of_ne (by decide)]
    exact run.checkpoints_eq
  have hEvents : (redacted.get "body").get "events" = .arr (redactEvents removal events) := by
    rw [hBody', redactBody, hList]
    exact Json.get_of_get? (Json.get?_set hBodyObj "events" _)
  have hRead (ev : Json) (hMem : ev ∈ redactEvents removal events) :
      (kernel R).checkEntry "envelope" ev = .ok () := by
    obtain ⟨i, hi, rfl⟩ := List.mem_mapIdx.mp hMem
    have hOriginal := run.event_read _ (List.getElem_mem hi)
    simp only [kernel] at hOriginal ⊢
    rw [isObj_redactEvent]
    split_ifs at hOriginal ⊢ with hIs
    rfl
  rw [show verifyEvidenceBundle R redacted .offline = _ from
    verifyEvidenceBundle_of_trace hWrapped (by rw [hGet "body_type" (by decide), hType])]
  apply verifyAnchorTrace_of_readable hCheckpoints hEvents _ run.checkpoint_read hRead
  rw [hBody']
  simp only [kernel, hNewObj, if_true]

/-- When redaction reads as redaction. Where content is left without its record
and the envelope commits to other content, the event fails; otherwise what is
left is verified as far as it goes. -/
theorem redaction_iff (hSign : R.crypto.Ed25519Correct) (b : Json) (result : EvidenceBundleResult)
    (removal : Nat → Removal) (key : SigningKey) (redacted : Json)
    (h : verifyEvidenceBundle R b .offline = .ok result) (hVerified : result.status = .verified)
    (hType : b.get "body_type" = .str anchorTraceBodyType)
    (hRedacted : resign R b (redactBody removal (b.get "body")) key = .ok redacted) :
    (∃ after, verifyEvidenceBundle R redacted .offline = .ok after ∧
      (after.status = .verified ∨ after.status = .partly) ∧
      (∀ i, (removal i).record = false → (removal i).content = false →
        after.events[i]? = result.events[i]?) ∧
      ((∃ e ∈ after.events, e.payloadBindingOk = none) → after.status = .partly)) ↔
    ∀ (i : Nat) (ev : Json), ((b.get "body").listAt "events")[i]? = some ev →
      (removal i).record = true → (removal i).content = false → ContentBinds R ev none := by
  obtain ⟨hb, hBody⟩ := wrapped_of_status h (by simp [hVerified])
  rw [verifyBody_of_trace hType] at hBody
  obtain ⟨checkpoints, events, run, -⟩ := (verifyAnchorTrace_eq_ok hBody).resolve_right
    (by rintro rfl; cases hVerified)
  have hList : (b.get "body").listAt "events" = events := by
    rw [Json.listAt, run.events_eq]
    rfl
  obtain ⟨after, hAfter, again⟩ := traceRun_redacted hSign hb run hType hRedacted
  have hStatus := run.status
  rw [hVerified, eq_comm, rollupStatus_verified_iff] at hStatus
  obtain ⟨-, hRows, hOk, -, -⟩ := hStatus
  have hSettled : (∀ e ∈ after.events, e.ok = true) ↔ ∀ (i : Nat) (ev : Json),
      events[i]? = some ev → (removal i).record = true → (removal i).content = false →
        ContentBinds R ev none := by
    rw [again.eventRows]
    constructor
    · intro hAll i ev hEv
      have hRedacted : redactEvent (removal i) ev ∈ redactEvents removal events := by
        obtain ⟨hi, rfl⟩ := List.getElem?_eq_some_iff.mp hEv
        exact List.mem_mapIdx.mpr ⟨i, hi, rfl⟩
      have hBefore := hOk _ (run.eventRow_mem (List.mem_of_getElem? hEv))
      exact (eventRow_redactEvent_ok_iff hBefore).mp (hAll _ (List.mem_map_of_mem hRedacted))
    · intro hBound e he
      obtain ⟨ev, hEv, rfl⟩ := List.mem_map.mp he
      obtain ⟨i, hi, rfl⟩ := List.mem_mapIdx.mp hEv
      have hBefore := hOk _ (run.eventRow_mem (List.getElem_mem hi))
      exact (eventRow_redactEvent_ok_iff hBefore).mpr (hBound i _ (List.getElem?_eq_getElem hi))
  have hRows' : ∀ row ∈ after.checkpoints, row.ok = true := by
    rw [again.rows, ← run.rows]
    exact hRows
  obtain ⟨hIff, hPartly⟩ := rollupStatus_of_rows hRows' after.events
  have hAfterStatus : after.status = rollupStatus after.checkpoints after.events false :=
    again.status
  rw [hList, ← hSettled]
  constructor
  · rintro ⟨other, hOther, hGood, -, -⟩
    rw [hAfter] at hOther
    cases hOther
    exact hIff.mp (hAfterStatus ▸ hGood)
  · intro hAll
    refine ⟨after, hAfter, hAfterStatus ▸ hIff.mpr hAll, fun i hRecord hContent => ?_,
      fun hWithheld => hAfterStatus ▸ hPartly hAll hWithheld⟩
    rw [again.eventRows, run.eventRows, List.getElem?_map, List.getElem?_map, redactEvents,
      List.getElem?_mapIdx]
    cases events[i]? with
    | none => rfl
    | some ev => rw [Option.map_some, redactEvent_of_kept hRecord hContent]

end Run

section Sample

open Reference

def registeredSigned : Nat × Nat :=
  (0xd31877236d3eb6997c4b40055eee8fe54c05c2192e4a55d85a28eae9254ea3e0,
    0x965c9f313fee93be00f786f1b7515f6b05f100fb5e7f7f09c89411c8b140e8c8a13a4bb8cbd2f80da998da803041b6fac914276ea0cdfa65cc32c7ca015e7b02)

def registeredCheckpointSigned : Nat × Nat :=
  (0xd441dd45da559e46b40c8894a243434694baefc91fcdc82dd23b8126cbfe0d8f,
    0xee1869860402ce55dfad9999975b0af4be263d3bb14544a854f2c7b33b45ccc28df572bf46012d636515156d7e68d81eb4c478cf81edf134f1e6ce829f48910b)

/-- The wrapper before a redaction, without the record, and also without the
content. -/
def registeredTraceSigned : List (Nat × Nat) :=
  [(0x80bf8b4efc042489268df5d22e2e8fe40956fd398eac5b3eaea8d9bad255eb4b,
    0x90ae45690e4289d80ada1a8da233c5d50de4d4dc18f3ef6ae18e83a8d7bbe7c253e29fdb2bdf088d88759f12de3178ece0180aca72e6f6c3fd5c87e941c96b08),
   (0xfba1db10d8355bd66235fe0f3a7869a2cdb4fee5d2681ec823f75ec591565afb,
    0x0db4f54898d1d87f4fb25239705f0e34c449739bce7f6246b211435fb1cbaadb4d578d98c4e0abe5c7574e87ae35cdb04d6ffa47da007ec2b5bb4fe5cad11107),
   (0xb6d082be87e488bd5ee6b5c03e95739196cd995b402a1aa17726d1013d2e3671,
    0x5f824d2d7aa223595eff7efc16b5edfd75f379ee03aed501dcb2925e62a246a58f7387363651adf87b15b9084ad06cbb37f95e7c351c7d3e3cebc5a50ede1d00)]

/-- An inline payload that names the hash of its content twice, as the record
of an event and as a registered asset, and not as the same hash. -/
def registeredPayload : Json :=
  .object [("event", .object [("content_hash",
      hexText 32 0x6e340b9cffb37a989ca544e6bb780a2c78901d3fb33738768511a30617afa01d)]),
    ("hash", hexText 32 0xe3b0c44298fc1c149afbf4c8996fb92427ae41e4649b934ca495991b7852b855)]

def registeredEvent : Json :=
  .object [("envelope", .object [("spec_version", .str "ario.events/v1"), ("event_id", .str "e1"),
      ("event_type", .str "asset_registered"), ("payload", registeredPayload),
      ("payload_hash",
        hexText 32 0x9b5f7dc3530dec3e926eca40288e66c1c0fb44e241df685e8b7f83bba0cd284a),
      ("public_key", hexText 32 publicKey), ("signature", hexText 64 registeredSigned.2)]),
    ("record_bytes", recordHex registeredPayload), ("content", .str "00"),
    ("inclusion", inclusion "tx1" 0 1
      0xa7277ae660be86296ff59854fe82e8c7b27d806399dd1cd85f363ff25f0233c4 [])]

def registeredTrace : Json :=
  trace [checkpoint "tx1" 0xa7277ae660be86296ff59854fe82e8c7b27d806399dd1cd85f363ff25f0233c4 1
      0x38d1ecef9d4407f3d015548617d1fa0734c6ffa4b3cd73a1405a517bc7036ed9
      registeredCheckpointSigned] [registeredEvent]
    0x6b3d7819e4a7c44fccbcbdd653f674faa83ed9bed7e13b2532d137a93d2407e4
    (registeredTraceSigned.headD (0, 0))

abbrev registeredRuntime : Runtime :=
  python (signedWith ([registeredSigned, registeredCheckpointSigned] ++ registeredTraceSigned))

/-- The sample is a verified trace as it stands. -/
theorem registeredTrace_run : ∃ result,
    verifyEvidenceBundle registeredRuntime registeredTrace .offline = .ok result ∧
      result.status = .verified ∧ result.bodyType = some (utf16 anchorTraceBodyType) := by
  obtain ⟨result, hRun, h⟩ := exists_of_returns (show returns
    (verifyEvidenceBundle registeredRuntime registeredTrace .offline)
      (fun result => result.status = .verified ∧
        result.bodyType = some (utf16 anchorTraceBodyType)) = true by decide +kernel)
  exact ⟨result, hRun, of_decide_eq_true h⟩

/-- Taking out the record alone reads as tampering here: the content is then
held against the hash of the asset. -/
theorem redaction_fails : ∃ result redacted after,
    verifyEvidenceBundle registeredRuntime registeredTrace .offline = .ok result ∧
      result.status = .verified ∧
      resign registeredRuntime registeredTrace
        (redactBody (fun _ => ⟨true, false⟩) (registeredTrace.get "body")) sampleKey = .ok redacted ∧
      verifyEvidenceBundle registeredRuntime redacted .offline = .ok after ∧
      after.status = .failed := by
  obtain ⟨result, hRun, hVerified, -⟩ := registeredTrace_run
  obtain ⟨after, hAfter, hFailed⟩ := exists_of_returns (show returns
    (resign registeredRuntime registeredTrace
      (redactBody (fun _ => ⟨true, false⟩) (registeredTrace.get "body")) sampleKey >>=
        fun redacted => verifyEvidenceBundle registeredRuntime redacted .offline)
      (fun after => after.status = .failed) = true by decide +kernel)
  obtain ⟨redacted, hRedacted, hAfter⟩ := bind_eq_ok.mp hAfter
  exact ⟨result, redacted, after, hRun, hVerified, hRedacted, hAfter, of_decide_eq_true hFailed⟩

theorem redaction_iff_sample : ∃ redacted,
    resign registeredRuntime registeredTrace
      (redactBody (fun _ => ⟨true, true⟩) (registeredTrace.get "body")) sampleKey = .ok redacted ∧
    ∃ after, verifyEvidenceBundle registeredRuntime redacted .offline = .ok after ∧
      (after.status = .verified ∨ after.status = .partly) := by
  obtain ⟨result, hRun, hVerified, hType⟩ := registeredTrace_run
  obtain ⟨hb, checkpoints, events, run⟩ := traceRun_of_verified hRun hVerified hType
  obtain ⟨redacted, hRedacted⟩ := resign_returns jcsCompositional hb run (fun _ => ⟨true, true⟩)
    sampleKey
  obtain ⟨after, hAfter, hStatus, -⟩ := (redaction_iff (ed25519Correct _) registeredTrace result
    (fun _ => ⟨true, true⟩) sampleKey redacted hRun hVerified rfl hRedacted).mpr
    (fun _ _ _ _ hContent => by cases hContent)
  exact ⟨redacted, hRedacted, after, hAfter, hStatus⟩

end Sample
end ArioProof.Python
