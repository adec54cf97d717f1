import ArioProof.Evidence.Scrutiny
import ArioProof.Python.TraceSoundness
import ArioProof.Python.Wrapper

/-! A trace as its producer makes it, window by window, and what the verifier
makes of it. -/
namespace ArioProof.Python

open Foundation

variable (R : Runtime)

section Producer

/-- An unsigned envelope that commits to bytes it does not carry. -/
structure ExternalCommitment (unsigned : Json) (hash : Str) : Prop where
  isObj : unsigned.isObj = true
  specVersion : unsigned.get? "spec_version" = some (.str "ario.events/v1")
  payloadHash : unsigned.get? "payload_hash" = some (.str hash)
  external : unsigned.get? "payload" = none

/-- The canonical bytes of a record, with an envelope that some key signed over
their hash. -/
structure Committed (record : Json) (recordBytes : Bytes) (envelope : Json) : Prop where
  canonical : canonicalJson R record = .ok recordBytes
  signed : ∃ unsigned key, ExternalCommitment unsigned (sha256Hex R recordBytes) ∧
    signEnvelope R unsigned key = .ok envelope

/-- The proof of a leaf, as it is written into an event. -/
structure WrittenProof (incl : Json) (txId : Str) (index count : Nat) (leaf : Bytes)
    (path : List Bytes) : Prop where
  checkpointTxId : incl.get "checkpoint_tx_id" = .str txId
  leafIndex : incl.get "leaf_index" = .int index
  leafCount : incl.get "leaf_count" = .int count
  leafHash : incl.get "leaf_hash" = .str (Hex.encode leaf)
  auditPath : incl.get "audit_path" = .arr (path.map fun sibling => .str (Hex.encode sibling))

/-- An event discloses no content, or the content that its record commits to. -/
def HonestContent (record ev : Json) : Prop :=
  ev.get "content" = .null ∨ ∃ content, ev.get "content" = .str (Hex.encode content) ∧
    (record.get "event").get "content_hash" = .str (sha256Hex R content)

/-- An event with its record, at its index among the leaves of a window. -/
structure HonestEvent (txId : Str) (leaves : List Bytes) (index : Nat) (ev : Json) : Prop where
  isObj : ev.isObj = true
  record : ∃ record recordBytes, Committed R record recordBytes (ev.get "envelope") ∧
    ev.get "record_bytes" = .str (Hex.encode recordBytes) ∧ HonestContent R record ev
  inclusion : ∃ canonical path, canonicalJson R (ev.get "envelope") = .ok canonical ∧
    leaves[index]? = some (leafHash R canonical) ∧ auditPath R index leaves = some path ∧
    WrittenProof (ev.get "inclusion") txId index leaves.length (leafHash R canonical) path

/-- A checkpoint with a record of the root over the leaves of a window. -/
structure HonestCheckpoint (txId : Str) (leaves : List Bytes) (cp : Json) : Prop where
  isObj : cp.isObj = true
  txId : cp.get "tx_id" = .str txId
  merkleRoot : cp.get "merkle_root" = .str (Hex.encode (merkleRoot R leaves))
  record : ∃ record recordBytes, Committed R record recordBytes (cp.get "envelope") ∧
    (record.get "event").get "merkle_root" = .str (Hex.encode (Python.merkleRoot R leaves)) ∧
    cp.get "record_bytes" = .str (Hex.encode recordBytes)

/-- The entries of a bundle that belong to one checkpoint transaction. -/
structure Window where
  txId : Str
  checkpoint : Json
  events : List Json

/-- A window with a leaf for each of its events. -/
structure HonestWindow (w : Window) : Prop where
  leaves : ∃ leaves : List Bytes, leaves.length = w.events.length ∧
    HonestCheckpoint R w.txId leaves w.checkpoint ∧
    ∀ (index : Nat) ev, w.events[index]? = some ev → HonestEvent R w.txId leaves index ev

/-- A signed bundle over windows. The events may be listed in any order. -/
structure HonestTrace (windows : List Window) (b : Json) : Prop where
  nonempty : windows ≠ []
  distinct : (windows.map (·.txId)).Nodup
  honest : ∀ w ∈ windows, HonestWindow R w
  isObj : b.isObj = true
  depth : b.depth ≤ maxCanonicalDepth
  specVersion : matchesEvidenceMajor (b.get "spec_version") = true
  bodyType : b.get "body_type" = .str anchorTraceBodyType
  signatureAlg : (b.get "signature_alg").isStr = true →
    (b.get "signature_alg").str? = some (utf16 "ed25519")
  body : (b.get "body").isObj = true
  checkpoints : (b.get "body").get "checkpoints" = .arr (windows.map (·.checkpoint))
  events : ∃ events, events.Perm (windows.flatMap (·.events)) ∧
    (b.get "body").get "events" = .arr events
  signed : ∃ key, WrapperSigned R b key

end Producer

variable {R}

section Envelope

variable {unsigned env : Json} {key : SigningKey} {recordBytes : Bytes}

/-- Signing leaves the other members as they were. -/
theorem signEnvelope_get? (hObj : unsigned.isObj = true)
    (h : signEnvelope R unsigned key = .ok env) {name : String} (hHash : name ≠ "payload_hash")
    (hKey : name ≠ "public_key") (hSignature : name ≠ "signature") :
    env.get? name = unsigned.get? name := by
  unfold signEnvelope at h
  split_ifs at h with hSigned
  obtain ⟨hashed, hPayload, h⟩ := bind_eq_ok.mp h
  obtain ⟨keyed, hPublicKey, h⟩ := bind_eq_ok.mp h
  obtain ⟨message, hMessage, h⟩ := bind_eq_ok.mp h
  cases h
  obtain ⟨hExtends, -, hOthers⟩ := completePayloadHash_eq_ok hObj hPayload
  obtain ⟨-, -, hKept⟩ := completePublicKey_eq_ok (hExtends.isObj hObj) hPublicKey
  rw [Json.get?_set_of_ne hSignature, hKept name hKey, hOthers name hHash]

/-- A signed envelope over the hash of bytes binds them. -/
theorem verifyEnvelope_of_committed (hSign : R.crypto.Ed25519Correct) {record : Json}
    (h : Committed R record recordBytes env) :
    (verifyEnvelope R env (some recordBytes) none false).ok = true ∧
      (verifyEnvelope R env (some recordBytes) none false).payloadHashOk = some true := by
  obtain ⟨unsigned, key, hExternal, hSigned⟩ := h.signed
  obtain ⟨completed, message, hCompleted, hMessage, hEnv⟩ :=
    signEnvelope_eq_ok hExternal.isObj hSigned
  have hObj : completed.isObj = true := hCompleted.extension.isObj hExternal.isObj
  have hSpec : env.get? "spec_version" = some (.str "ario.events/v1") := by
    rw [signEnvelope_get? hExternal.isObj hSigned (by decide) (by decide) (by decide),
      hExternal.specVersion]
  have hPayload : env.get? "payload" = none := by
    rw [signEnvelope_get? hExternal.isObj hSigned (by decide) (by decide) (by decide),
      hExternal.external]
  have hHash : env.get? "payload_hash" = some (.str (sha256Hex R recordBytes)) := by
    rw [hEnv, Json.get?_set_of_ne (by decide)]
    exact hCompleted.extension.get? hExternal.payloadHash
  have hSignature : checkSignature R env = true := by
    rw [hEnv]
    exact checkSignature_set hSign hObj hCompleted.publicKey hMessage
  have hEnvObj : env.isObj = true := by rw [hEnv, Json.isObj_set, hObj]
  have hSupported : specVersionSupported (.str "ario.events/v1") = true := by decide
  have hSpecOk : checkSpecVersion R env false = (true, false, []) := by
    simp [checkSpecVersion, Json.get, hSpec, hSupported]
  have hPayloadOk : checkPayload R env (some recordBytes) = (some true, []) := by
    simp [checkPayload, payloadChecks, Json.get, hHash, hPayload, Json.str?]
  simp [verifyEnvelope, hEnvObj, hSpecOk, hPayloadOk, hSignature]

end Envelope

section Records

variable {txId : Str} {leaves : List Bytes} {cp : Json}

/-- Record bytes that were written as hex are decoded to themselves, without a
note. -/
theorem decodeRecord_of_written {holder : Json} {bytes : Bytes} (what : Str)
    (h : holder.get "record_bytes" = .str (Hex.encode bytes)) :
    decodeRecord R what holder = (some bytes, []) := by
  rw [decodeRecord, h]
  dsimp only
  rw [hexToBytes_encode]

/-- Whoever parses the bytes of a record reads its fields. -/
theorem committedField_of_canonical (hParse : R.JcsRoundTrip) {record : Json} {recordBytes : Bytes}
    (hCanonical : canonicalJson R record = .ok recordBytes) {key : String} {s : Str}
    (hField : (record.get "event").get key = .str s) :
    committedField R key recordBytes = .ok (.str s) := by
  obtain ⟨parsed, hLoads, hNorm⟩ := hParse record recordBytes (canonicalJson_eq_ok_iff.mp hCanonical).2
  have hSame : ((parsed.get "event").get key).norm = .str s := by
    rw [← Json.get_norm, ← Json.get_norm, hNorm, Json.get_norm, Json.get_norm, hField, Json.norm_str]
  rw [committedField, hLoads]
  exact congrArg Except.ok (Json.norm_eq_str.mp hSame)

/-- An honest checkpoint passes its envelope and its root, because its record is
read back as it was hashed. -/
theorem checkCheckpoint_of_honest (hSign : R.crypto.Ed25519Correct) (hParse : R.JcsRoundTrip)
    (h : HonestCheckpoint R txId leaves cp) :
    (checkCheckpoint R cp).1 = true ∧ (checkCheckpoint R cp).2.1 = true := by
  obtain ⟨record, recordBytes, hCommitted, hRoot, hWritten⟩ := h.record
  obtain ⟨hOk, hBound⟩ := verifyEnvelope_of_committed hSign hCommitted
  have hDecoded := decodeRecord_of_written (R := R) "checkpoint" hWritten
  have hField := committedField_of_canonical hParse hCommitted.canonical hRoot
  constructor
  · simp [checkCheckpoint, checkpointEnvelope, hDecoded, hOk, hBound]
  · simp [checkCheckpoint, checkMerkleRoot, hDecoded, hField, h.merkleRoot, Json.isStr, Json.str?]

/-- The row of an honest checkpoint is ok, whatever ids were seen before. -/
theorem checkpointRow_of_honest (hSign : R.crypto.Ed25519Correct) (hParse : R.JcsRoundTrip)
    (h : HonestCheckpoint R txId leaves cp) {row : CheckpointResult}
    (hRow : RowOf (kernel R) cp row) (hFresh : row.ok = (row.envelopeOk && row.merkleRootOk)) :
    row.ok = true := by
  obtain ⟨hEnvelope, hRoot⟩ := checkCheckpoint_of_honest hSign hParse h
  rw [hFresh, hRow.envelopeOk, hRow.merkleRootOk, Bool.and_eq_true]
  exact ⟨hEnvelope, hRoot⟩

end Records

section Events

variable {txId : Str} {leaves : List Bytes} {index count : Nat} {ev incl cp : Json}

/-- A path that was written as hex is decoded to itself. -/
theorem mapM_hexToBytes_encode (path : List Bytes) :
    (path.map fun sibling => Json.str (Hex.encode sibling)).mapM (hexToBytes R) = .ok path := by
  induction path with
  | nil => rfl
  | cons sibling rest ih =>
      rw [List.map_cons, List.mapM_cons, hexToBytes_encode, ih]
      rfl

/-- The empty path is falsy, and stands for itself. -/
theorem inclusionPath_of_written {leaf : Bytes} {path : List Bytes}
    (h : WrittenProof incl txId index count leaf path) : inclusionPath R incl = .ok path := by
  rw [inclusionPath, h.auditPath]
  cases path with
  | nil => rfl
  | cons sibling rest => exact mapM_hexToBytes_encode (sibling :: rest)

/-- Hex is written in lower case, so lowering it changes nothing. -/
theorem lower_encode (bytes : Bytes) : lower R (Hex.encode bytes) = Hex.encode bytes :=
  R.folding.lower_eq_encode_iff.mpr (Hex.map_asciiLower_encode bytes)

/-- The proof of an honest event leads to the root of its checkpoint, from the
leaf of its own envelope. -/
theorem checkInclusion_of_honest (hEvent : HonestEvent R txId leaves index ev)
    (hCheckpoint : HonestCheckpoint R txId leaves cp) :
    checkInclusion R ev (ev.get "inclusion") cp = (true, []) := by
  obtain ⟨canonical, path, hCanonical, hLeaf, hPath, hWritten⟩ := hEvent.inclusion
  have hWalk : walkInclusion R (ev.get "inclusion") cp = .ok true := by
    rw [walkInclusion, hWritten.leafHash, hexToBytes_encode, inclusionPath_of_written hWritten,
      hCheckpoint.merkleRoot, hexToBytes_encode, hWritten.leafIndex, hWritten.leafCount]
    have hInt := verifyInclusionRaw_of_integer? (R := R)
      (rfl : integer? (.int index) = some index)
      (rfl : integer? (.int leaves.length) = some (leaves.length : Int)) (leafHash R canonical) path
      (merkleRoot R leaves)
    rw [verifyInclusion_auditPath hPath hLeaf] at hInt
    exact hInt
  simp [checkInclusion, hWalk, hCanonical, hWritten.leafHash, Json.str?, lower_encode]

/-- Disclosed content is bound to the record, and without any nothing is. -/
theorem evaluateContent_of_honest (hParse : R.JcsRoundTrip) {record : Json} {recordBytes : Bytes}
    (hCanonical : canonicalJson R record = .ok recordBytes) (h : HonestContent R record ev)
    (eventId : Str) :
    (evaluateContent R ev (some recordBytes) eventId Options.offline.content).1 ≠ some false := by
  rcases h with hNone | ⟨content, hContent, hCommitted⟩
  · simp [evaluateContent, inBodyContent, hNone, sideContent, Options.offline, bindContent]
  · have hHashes : committedHashes R ev (some recordBytes) = [sha256Hex R content] := by
      have hField := committedField_of_canonical hParse hCanonical hCommitted
      have hLower : lower R (sha256Hex R content) = sha256Hex R content := lower_encode _
      simp [committedHashes, hField, sha256Hex_ne_nil, hLower]
    have hSame : R.crypto.sha256Hex content = sha256Hex R content := rfl
    simp [evaluateContent, inBodyContent, hContent, hexToBytes_encode, sideContent,
      Options.offline, bindContent, hHashes, hSame]

/-- An honest event passes every check when the map of ids finds the checkpoint of
its window. -/
theorem eventRow_of_honest (hSign : R.crypto.Ed25519Correct) (hParse : R.JcsRoundTrip)
    {byTxId : List (Str × Json)} (hEvent : HonestEvent R txId leaves index ev) (hCheckpoint : HonestCheckpoint R txId leaves cp)
    (hBound : byTxId.lookup txId = some cp) :
    (eventRow (kernel R) byTxId Options.offline.content ev).ok = true ∧
      (eventRow (kernel R) byTxId Options.offline.content ev).payloadBindingOk = some true := by
  obtain ⟨record, recordBytes, hCommitted, hWritten, hDisclosed⟩ := hEvent.record
  obtain ⟨hOk, hPayload⟩ := verifyEnvelope_of_committed hSign hCommitted
  have hEnvelope : eventEnvelope R ev =
      verifyEnvelope R (ev.get "envelope") (some recordBytes) none false := by
    rw [eventEnvelope, decodeRecord_of_written "event" hWritten]
  have hResolved : resolveCheckpoint byTxId (ev.get "inclusion") = some cp := by
    obtain ⟨canonical, path, -, -, -, hProof⟩ := hEvent.inclusion
    rw [resolveCheckpoint, hProof.checkpointTxId]
    exact hBound
  have hChecks : ((kernel R).checkEvent ev).1 = true ∧
      ((kernel R).checkEvent ev).2.1 = some true := by
    change (eventEnvelope R ev).ok = true ∧ (eventEnvelope R ev).payloadHashOk = some true
    rw [hEnvelope]
    exact ⟨hOk, hPayload⟩
  have hInclusion : (kernel R).checkInclusion ev (ev.get "inclusion") cp = (true, []) :=
    checkInclusion_of_honest hEvent hCheckpoint
  have hContent (eventId : Str) :
      ((kernel R).evaluateContent ev eventId Options.offline.content).1 ≠ some false := by
    change (evaluateContent R ev (decodeRecord R "event" ev).1 eventId Options.offline.content).1 ≠ _
    rw [decodeRecord_of_written "event" hWritten]
    exact evaluateContent_of_honest hParse hCommitted.canonical hDisclosed eventId
  constructor
  · simp [eventRow, hChecks.1, hResolved, hInclusion, hContent]
  · exact hChecks.2

end Events

section Trace

variable {windows : List Window} {b : Json}

/-- Distinct ids lead every event to the checkpoint of its own window. -/
theorem find?_checkpoint {w : Window}
    (hTxIds : ∀ w ∈ windows, w.checkpoint.get "tx_id" = .str w.txId)
    (hDistinct : (windows.map (·.txId)).Nodup) (hw : w ∈ windows) :
    (windows.map (·.checkpoint)).find? (hasTxId w.txId) = some w.checkpoint := by
  induction windows with
  | nil => cases hw
  | cons first rest ih =>
      have hFirst : hasTxId w.txId first.checkpoint = decide (first.txId = w.txId) := by
        simp [hasTxId, hTxIds first List.mem_cons_self, Json.str?]
      rw [List.map_cons, List.find?_cons, hFirst]
      rw [List.map_cons, List.nodup_cons] at hDistinct
      rcases List.mem_cons.mp hw with rfl | hRest
      · simp
      · have hOther : first.txId ≠ w.txId := by
          intro hSame
          rw [hSame] at hDistinct
          exact hDistinct.1 (List.mem_map_of_mem hRest)
        rw [decide_eq_false hOther]
        exact ih (fun w hw => hTxIds w (List.mem_cons_of_mem first hw)) hDistinct.2 hRest

/-- The wrapper of an honest trace holds: its body has the hash it names, and its
signature is that of the producer. -/
theorem HonestTrace.wrapped (hSign : R.crypto.Ed25519Correct) (h : HonestTrace R windows b) :
    Wrapped (kernel R) b := by
  obtain ⟨key, hSigned⟩ := h.signed
  exact wrapped_of_signed hSign hSigned h.isObj h.depth h.specVersion h.signatureAlg
    (Json.ne_null_of_isObj h.body)

/-- Every event has its window, under whose checkpoint it is included. -/
theorem HonestTrace.window_of_mem (h : HonestTrace R windows b) {events : List Json}
    (hEvents : events.Perm (windows.flatMap (·.events))) {ev : Json} (hev : ev ∈ events) :
    ∃ w ∈ windows, ∃ leaves index, HonestCheckpoint R w.txId leaves w.checkpoint ∧
      HonestEvent R w.txId leaves index ev := by
  obtain ⟨w, hw, hMem⟩ := List.mem_flatMap.mp (hEvents.mem_iff.mp hev)
  obtain ⟨leaves, -, hCheckpoint, hAll⟩ := (h.honest w hw).leaves
  obtain ⟨index, hIndex⟩ := List.mem_iff_getElem?.mp hMem
  exact ⟨w, hw, leaves, index, hCheckpoint, hAll index ev hIndex⟩

/-- The checkpoint of a window is honest, over the leaves of that window. -/
theorem HonestTrace.checkpoint_of_mem (h : HonestTrace R windows b) {w : Window}
    (hw : w ∈ windows) : ∃ leaves, HonestCheckpoint R w.txId leaves w.checkpoint := by
  obtain ⟨leaves, -, hCheckpoint, -⟩ := (h.honest w hw).leaves
  exact ⟨leaves, hCheckpoint⟩

/-- What the verifier makes of a bundle that its producer made as it should. -/
structure VerifiedWhole (result : EvidenceBundleResult) (checkpoints events : Nat) : Prop where
  status : result.status = .verified
  checkpointRows : result.checkpoints.length = checkpoints
  checkpointsOk : ∀ row ∈ result.checkpoints, row.ok = true
  eventRows : result.events.length = events
  eventsOk : ∀ e ∈ result.events, e.ok = true ∧ e.payloadBindingOk = some true

/-- Honest traces verify, of any number of windows and events: checkpoints that
commit to the root of their leaves, events that carry the proof of their own leaf,
and a wrapper signed around them. The events may stand in any order. -/
theorem honest_trace_verified (hSign : R.crypto.Ed25519Correct) (hParse : R.JcsRoundTrip)
    (windows : List Window) (b : Json) (h : HonestTrace R windows b) :
    ∃ result, verifyEvidenceBundle R b .offline = .ok result ∧
      VerifiedWhole result windows.length (windows.flatMap (·.events)).length := by
  obtain ⟨events, hPerm, hEvents⟩ := h.events
  have hReadCheckpoints : ∀ cp ∈ windows.map (·.checkpoint),
      (kernel R).checkEntry "tx_id" cp = .ok () := by
    intro cp hcp
    obtain ⟨w, hw, rfl⟩ := List.mem_map.mp hcp
    obtain ⟨leaves, hCheckpoint⟩ := h.checkpoint_of_mem hw
    exact if_pos hCheckpoint.isObj
  have hReadEvents : ∀ ev ∈ events, (kernel R).checkEntry "envelope" ev = .ok () := by
    intro ev hev
    obtain ⟨w, -, leaves, index, -, hEvent⟩ := h.window_of_mem hPerm hev
    exact if_pos hEvent.isObj
  obtain ⟨result, hRun, run⟩ := verifyAnchorTrace_of_readable h.checkpoints hEvents
    (if_pos h.body) hReadCheckpoints hReadEvents anchorTraceBodyType true (assertedStatus b) []
    .offline
  have hRows : ∀ row ∈ result.checkpoints, row.ok = true := by
    intro row hRow
    obtain ⟨cp, hcp, hRowOf⟩ := exists_of_mem_right run.rowsOf hRow
    obtain ⟨w, hw, rfl⟩ := List.mem_map.mp hcp
    obtain ⟨leaves, hCheckpoint⟩ := h.checkpoint_of_mem hw
    rw [run.rows_offline rfl] at hRow
    exact checkpointRow_of_honest hSign hParse hCheckpoint hRowOf
      (fresh_of_mem_checkpointRows hRow).1
  have hBound : ∀ e ∈ result.events, e.ok = true ∧ e.payloadBindingOk = some true := by
    intro e he
    rw [run.eventRows] at he
    obtain ⟨ev, hev, rfl⟩ := List.mem_map.mp he
    obtain ⟨w, hw, leaves, index, hCheckpoint, hEvent⟩ := h.window_of_mem hPerm hev
    apply eventRow_of_honest hSign hParse hEvent hCheckpoint
    rw [lookup_firstEntries]
    apply find?_checkpoint _ h.distinct hw
    intro w hw
    obtain ⟨leaves, hCheckpoint⟩ := h.checkpoint_of_mem hw
    exact hCheckpoint.txId
  have hCount : result.checkpoints.length = windows.length := by
    rw [← run.rowsOf.length_eq, List.length_map]
  refine ⟨result, (verifyEvidenceBundle_of_trace (h.wrapped hSign) h.bodyType).trans hRun, ?_, hCount,
    hRows, ?_, hBound⟩
  · rw [run.status, rollupStatus_verified_iff]
    refine ⟨?_, hRows, fun e he => (hBound e he).1, rfl, ?_⟩
    · intro hNil
      rw [hNil, List.length_nil] at hCount
      exact h.nonempty (List.length_eq_zero_iff.mp hCount.symm)
    · intro e he
      rw [(hBound e he).2]
      exact Option.some_ne_none true
  · rw [run.eventRows, List.length_map, hPerm.length_eq]

end Trace

section Sample

open Reference

/-- An entry of a table: the digest of a message, and its Ed25519 signature under
the key of the samples. -/
def firstSigned : Nat × Nat :=
  (0x9c934b58d0eae8f40f5a5bd3fd5cf7fdd3eb7f792160c5c3c95a4f7724ff7fd0,
    0x685b02d8df9defd7ff7cb525b26b44ad2bc807e7fde5acf78a982cf374c5053baac3c2212f799af38ce5739e9cc101c95e6672452b8bc6718390eb9f89664707)

def secondSigned : Nat × Nat :=
  (0x0d027fed64829d756b8a1ec7cb1a2ddc1d0d2cdbd8c5536efeb2701d85e3a549,
    0x05a1fc21b445a89d333bda4360ab3c2fd2214639f3b9418e0d0944f17cd8b311172fbd30c39804279a3c2cef9bc7eb5a98cc04dd51e39d7c4fe6597608658405)

def thirdSigned : Nat × Nat :=
  (0xaac1a7898c89a07c3960ff65981a551c24c22d3a5ecb4387d4abbd8acd01d92a,
    0xcf9bd589eaac260fc9fee2550dded77cd28077f9869f1bc15f2870e8e44b3e20ddd93c95141dd3d8f8adc053aca3331c05a47b316d11c16d508232a25b57b607)

def pairSigned : Nat × Nat :=
  (0xb92b616a2cfcf72f674b57b2de823467bf7d28ab877865457e0c18aa7866947d,
    0x3865a2aeb139f14d6a399eab22b20c4cadbd4dd0afc54ea5d19620dcba77d2c71e9d266e3a2a2d4a8ede847e237a0cb03097403363f72c8e8feb0673035d700c)

def loneSigned : Nat × Nat :=
  (0xd76a23896eec03ecf8c9dd44d33c8dc89a2e34dc21047c432c1d0c9979759545,
    0x11bb41f1b237c4115b9ed9fdda6ae5b23868bd2b49fef475c2239b4ba96b2939610815b15150db850fc48eb70052026dc8dedbeb4f9624e6e65867a1924b5d0b)

def honestSigned : Nat × Nat :=
  (0xba7f96fd9bf01669792d9bb6203854f923b5d23684e720e112638defdc3301c4,
    0xe27a7901ce15b5e9823dab697d82a6db859fcf1c74bca0ccde2b9f8d468ef4717815a65274f354e5f63c287ae689023053dd828d52351189dd2d146619349e06)

/-- Three events in two windows, as their producer signed them. -/
abbrev honestRuntime : Runtime := python (signedWith [firstSigned, secondSigned, thirdSigned,
  pairSigned, loneSigned, honestSigned])

/-- An envelope of the sample before it is signed, without the key. -/
def unsignedEnvelope (eventId : String) (payloadHash : Nat) : List (String × Json) :=
  [("spec_version", .str "ario.events/v1"), ("event_id", .str eventId),
    ("payload_hash", hexText 32 payloadHash)]

/-- The signed scope of an envelope of the sample, which has the key but no
signature. -/
def keyedEnvelope (eventId : String) (payloadHash : Nat) : List (String × Json) :=
  unsignedEnvelope eventId payloadHash ++ [("public_key", hexText 32 publicKey)]

/-- What a record and the signature over its hash have to be. -/
def signsAs (record : Json) (eventId : String) (payloadHash : Nat) (signed : Nat × Nat) : Bool :=
  returns (canonicalJson honestRuntime record) (fun bytes =>
    sha256 honestRuntime bytes = octets 32 payloadHash) &&
  returns (canonicalJson honestRuntime
    (envelopeForSignature (.object (keyedEnvelope eventId payloadHash)))) fun message =>
      sign honestRuntime message sampleKey = octets 64 signed.2

/-- Signing an envelope of the sample gives the one that its table entry is
for. -/
theorem signEnvelope_unsigned {eventId : String} {payloadHash : Nat} {signed : Nat × Nat}
    {message : Bytes} (hMessage : canonicalJson honestRuntime
      (envelopeForSignature (.object (keyedEnvelope eventId payloadHash))) = .ok message)
    (hSignature : sign honestRuntime message sampleKey = octets 64 signed.2) :
    signEnvelope honestRuntime (.object (unsignedEnvelope eventId payloadHash)) sampleKey =
      .ok (envelope eventId payloadHash signed) := by
  have hKey : publicKeyHex honestRuntime sampleKey = Hex.encode (octets 32 publicKey) := by
    decide +kernel
  have hHashed : completePayloadHash honestRuntime
      (.object (unsignedEnvelope eventId payloadHash)) =
        .ok (.object (unsignedEnvelope eventId payloadHash)) := rfl
  have hKeyed : completePublicKey honestRuntime (.object (unsignedEnvelope eventId payloadHash))
      sampleKey = .ok (.object (keyedEnvelope eventId payloadHash)) := by
    have hFree : (Json.object (unsignedEnvelope eventId payloadHash)).get? "public_key" = none := rfl
    rw [completePublicKey, setdefault, hFree, hKey]
    rfl
  have hFree : (Json.object (unsignedEnvelope eventId payloadHash)).get? "signature" = none := rfl
  rw [signEnvelope, hFree, hHashed]
  simp only [Option.isSome_none, Bool.false_eq_true, if_false, bind, Except.bind, hKeyed, hMessage,
    hSignature]
  rfl

/-- A record and its envelope are as they were hashed and signed, when the entry
of the table is for them. -/
theorem committed_of_signsAs {record : Json} {eventId : String} {payloadHash : Nat}
    {signed : Nat × Nat} (h : signsAs record eventId payloadHash signed = true) :
    ∃ bytes, Committed honestRuntime record bytes (envelope eventId payloadHash signed) ∧
      recordHex record = .str (Hex.encode bytes) := by
  rw [signsAs, Bool.and_eq_true] at h
  obtain ⟨bytes, hBytes, hHash⟩ := exists_of_returns h.1
  obtain ⟨message, hMessage, hSignature⟩ := exists_of_returns h.2
  rw [decide_eq_true_eq] at hHash hSignature
  obtain ⟨text, hText, rfl⟩ := jcs_eq_ok.mp (canonicalJson_eq_ok_iff.mp hBytes).2
  refine ⟨_, ⟨hBytes, .object (unsignedEnvelope eventId payloadHash), sampleKey, ⟨rfl, rfl, ?_, rfl⟩,
    signEnvelope_unsigned hMessage hSignature⟩, ?_⟩
  · change _ = some (Json.str (Hex.encode (sha256 honestRuntime (text.map UInt16.toUInt8))))
    rw [hHash]
    rfl
  · rw [recordHex, hText, Option.getD_some]

/-- An event of a sample, from what can be computed of it. -/
theorem honestEvent_of_signsAs (txId : String) {eventId : String} {leaves path : List Nat} {index leaf : Nat}
    {payloadHash contentHash : Nat} {signed : Nat × Nat}
    (hSigned : signsAs (contentRecord contentHash) eventId payloadHash signed = true)
    (hGet : leaves[index]? = some leaf)
    (hLeaf : returns (canonicalJson honestRuntime (envelope eventId payloadHash signed))
      (fun canonical => leafHash honestRuntime canonical = octets 32 leaf) = true)
    (hPath : auditPath honestRuntime index (leaves.map (octets 32)) = some (path.map (octets 32))) :
    HonestEvent honestRuntime (utf16 txId) (leaves.map (octets 32)) index
      (event (envelope eventId payloadHash signed) (contentRecord contentHash)
        (inclusion txId index leaves.length leaf path)) := by
  obtain ⟨bytes, hCommitted, hWritten⟩ := committed_of_signsAs hSigned
  obtain ⟨canonical, hCanonical, hHash⟩ := exists_of_returns hLeaf
  rw [decide_eq_true_eq] at hHash
  refine ⟨rfl, ⟨_, bytes, hCommitted, hWritten, Or.inl rfl⟩, canonical, path.map (octets 32),
    hCanonical, ?_, hPath, ?_⟩
  · rw [List.getElem?_map, hGet, hHash]
    rfl
  · rw [hHash, List.length_map]
    refine ⟨rfl, rfl, rfl, rfl, ?_⟩
    rw [List.map_map]
    rfl

/-- A checkpoint of the sample is honest when the table has its signature and the
leaves have the root of its record. -/
theorem honestCheckpoint_of_signsAs (txId : String) {leaves : List Nat} {root count : Nat}
    {payloadHash : Nat} {signed : Nat × Nat}
    (hSigned : signsAs (rootRecord root count) txId payloadHash signed = true)
    (hRoot : merkleRoot honestRuntime (leaves.map (octets 32)) = octets 32 root) :
    HonestCheckpoint honestRuntime (utf16 txId) (leaves.map (octets 32))
      (checkpoint txId root count payloadHash signed) := by
  obtain ⟨bytes, hCommitted, hWritten⟩ := committed_of_signsAs hSigned
  refine ⟨rfl, rfl, ?_, rootRecord root count, bytes, hCommitted, ?_, hWritten⟩
  · rw [hRoot]
    rfl
  · rw [hRoot]
    rfl

def pairLeaves : List Nat :=
  [0xd910a698e6945d84b581fcb57252a0144307245d0d5595bea29298d0ac5c2598,
    0xdeab4192116b465eff79584507a26bfcf522ffe826a1336f92e267039fbdfd30]

def loneLeaves : List Nat := [0x7aaac6237119865b3bd2b0413dfdfb39ae48439fa6b63f1fec5d2bd0417b78c4]

def firstEvent : Json :=
  event (envelope "e1" 0x438c6776ab3014781e8a9b957aade4d2e91ff80ec947713d3c088dacf37b6f9a
    firstSigned) (contentRecord 0x7692c3ad3540bb803c020b3aee66cd8887123234ea0c6e7143c0add73ff431ed)
    (inclusion "tx1" 0 2 0xd910a698e6945d84b581fcb57252a0144307245d0d5595bea29298d0ac5c2598
      [0xdeab4192116b465eff79584507a26bfcf522ffe826a1336f92e267039fbdfd30])

def secondEvent : Json :=
  event (envelope "e2" 0xa94c840116375331050327252b5ce9da90a209c5a68f01699134401a4edf6081
    secondSigned) (contentRecord 0x3fc4ccfe745870e2c0d99f71f30ff0656c8dedd41cc1d7d3d376b0dbe685e2f3)
    (inclusion "tx1" 1 2 0xdeab4192116b465eff79584507a26bfcf522ffe826a1336f92e267039fbdfd30
      [0xd910a698e6945d84b581fcb57252a0144307245d0d5595bea29298d0ac5c2598])

def thirdEvent : Json :=
  event (envelope "e3" 0x5fc5786e8b92baefd42bdb06192d45cc8ccdf8a7445fcabd1e55552949848b9a
    thirdSigned) (contentRecord 0x8b5b9db0c13db24256c829aa364aa90c6d2eba318b9232a4ab9313b954d3555f)
    (inclusion "tx2" 0 1 0x7aaac6237119865b3bd2b0413dfdfb39ae48439fa6b63f1fec5d2bd0417b78c4 [])

def pairWindow : Window where
  txId := "tx1"
  checkpoint := checkpoint "tx1" 0x794070557b6999add779c52dd1c04ed91dc5a6a083ce483a378dc771fea56211 2
    0x466d914e2a58940307d290c2e6983f839591a7064c7fca9f3bc119af34399815 pairSigned
  events := [firstEvent, secondEvent]

def loneWindow : Window where
  txId := "tx2"
  checkpoint := checkpoint "tx2" 0x7aaac6237119865b3bd2b0413dfdfb39ae48439fa6b63f1fec5d2bd0417b78c4 1
    0x1f3fcb0d5a9167ffc21629713147dca3c13aaca93dbd362f6aef7a570db980cf loneSigned
  events := [thirdEvent]

/-- The event of the second window is listed first. -/
def honestBundle : Json :=
  trace [pairWindow.checkpoint, loneWindow.checkpoint] [thirdEvent, firstEvent, secondEvent]
    0xad1169f820ac3c22d8606a3e90a4eb6c836d67f954f99d6022d4fa998bf4a760 honestSigned

/-- The window of two events is honest. -/
theorem honest_pairWindow : HonestWindow honestRuntime pairWindow where
  leaves := by
    refine ⟨pairLeaves.map (octets 32), rfl, honestCheckpoint_of_signsAs "tx1" (by decide +kernel)
      (by decide +kernel), ?_⟩
    intro index ev hEvent
    rcases index with _ | _ | index
    · cases hEvent
      exact honestEvent_of_signsAs "tx1" (by decide +kernel) rfl (by decide +kernel)
        (by decide +kernel)
    · cases hEvent
      exact honestEvent_of_signsAs "tx1" (by decide +kernel) rfl (by decide +kernel)
        (by decide +kernel)
    · cases hEvent

/-- The window of one event is honest, which is the tree without siblings. -/
theorem honest_loneWindow : HonestWindow honestRuntime loneWindow where
  leaves := by
    refine ⟨loneLeaves.map (octets 32), rfl, honestCheckpoint_of_signsAs "tx2" (by decide +kernel)
      (by decide +kernel), ?_⟩
    intro index ev hEvent
    rcases index with _ | index
    · cases hEvent
      exact honestEvent_of_signsAs "tx2" (by decide +kernel) rfl (by decide +kernel)
        (by decide +kernel)
    · cases hEvent

theorem honestBundle_signed : WrapperSigned honestRuntime honestBundle sampleKey := by
  obtain ⟨canonical, hCanonical, hHash⟩ := exists_of_returns (show returns
    (canonicalJson honestRuntime (honestBundle.get "body")) (fun canonical =>
      sha256 honestRuntime canonical = octets 32
        0xad1169f820ac3c22d8606a3e90a4eb6c836d67f954f99d6022d4fa998bf4a760) = true
    by decide +kernel)
  obtain ⟨message, hMessage, hSignature⟩ := exists_of_returns (show returns
    (canonicalJson honestRuntime (bundleForSig honestBundle)) (fun message =>
      sign honestRuntime message sampleKey = octets 64 honestSigned.2) = true by decide +kernel)
  rw [decide_eq_true_eq] at hHash hSignature
  refine ⟨⟨canonical, hCanonical, ?_⟩, ?_, message, hMessage, ?_⟩
  · change _ = Json.str (Hex.encode (sha256 honestRuntime canonical))
    rw [hHash]
    rfl
  · have hKey : publicKeyHex honestRuntime sampleKey = Hex.encode (octets 32 publicKey) := by
      decide +kernel
    rw [hKey]
    rfl
  · rw [hSignature]
    rfl

/-- The sample is an honest trace over its two windows. -/
theorem honest_honestBundle : HonestTrace honestRuntime [pairWindow, loneWindow] honestBundle where
  nonempty := by decide
  distinct := by decide
  honest := by
    intro w hw
    simp only [List.mem_cons, List.not_mem_nil, or_false] at hw
    rcases hw with rfl | rfl
    · exact honest_pairWindow
    · exact honest_loneWindow
  isObj := rfl
  depth := by decide +kernel
  specVersion := by decide
  bodyType := rfl
  signatureAlg h := by cases h
  body := rfl
  checkpoints := rfl
  events := ⟨[thirdEvent, firstEvent, secondEvent],
    @List.perm_append_comm Json [thirdEvent] [firstEvent, secondEvent], rfl⟩
  signed := ⟨sampleKey, honestBundle_signed⟩

theorem honest_trace_verified_sample : ∃ result,
    verifyEvidenceBundle honestRuntime honestBundle .offline = .ok result ∧
      VerifiedWhole result 2 3 :=
  honest_trace_verified (ed25519Correct _) jcsRoundTrip _ _ honest_honestBundle

end Sample
end ArioProof.Python
