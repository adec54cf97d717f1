import ArioProof.Evidence.ExportRun
import ArioProof.Foundation.Outcome
import ArioProof.Python.VerdictAgreement

/-! What a run asks of its kernel is about parts of the bundle, or about values
rebuilt from such parts without nesting them any deeper. Two kernels that answer
alike up to a depth therefore run alike on every bundle of that depth. -/
namespace ArioProof.CrossKernel

open Foundation

section Parts

/-- What is read from a value is nested less deeply, unless there is nothing to
read. -/
theorem depth_get_lt {v : Json} {key : String} (h : v.get key ≠ .null) :
    (v.get key).depth < v.depth :=
  Json.depth_lt_of_get? (Json.get?_of_get rfl h)

/-- An entry of a list lies two levels below the holder of the list. -/
theorem depth_listAt {v item : Json} {key : String} (h : item ∈ v.listAt key) :
    item.depth + 2 ≤ v.depth := by
  rw [Json.listAt] at h
  cases hList : (v.get key).arr? with
  | none => simp [hList] at h
  | some items =>
      rw [hList, Option.getD_some] at h
      have hArr : v.get key = .arr items := Json.arr?_eq_some.mp hList
      have hHolder : (v.get key).depth < v.depth := by
        apply depth_get_lt
        simp [hArr]
      rw [hArr] at hHolder
      have hItem := Json.depth_lt_arr h
      omega

/-- A dimension is null or lies below the entry it is read from. -/
theorem depth_get_le_pred (v : Json) (key : String) : (v.get key).depth ≤ v.depth - 1 := by
  by_cases hNull : v.get key = .null
  · rw [hNull]
    exact Nat.zero_le _
  · have := depth_get_lt hNull
    omega

end Parts

section Projection

/-- An object is one level deeper than its values at most. -/
theorem depth_object_le {members : List (String × Json)} {bound : Nat}
    (h : ∀ entry ∈ members, entry.2.depth ≤ bound) : (Json.object members).depth ≤ bound + 1 := by
  apply depth_obj_le_iff.mpr
  intro entry hEntry
  obtain ⟨own, hOwn, rfl⟩ := List.mem_map.mp hEntry
  exact h own hOwn

/-- Picked members are as deep as the members they are picked from. -/
theorem depth_pick {keys : List String} {v : Json} {bound : Nat}
    (h : ∀ d ∈ keys.map v.get, d.depth ≤ bound) :
    ∀ entry ∈ pick keys v, entry.2.depth ≤ bound := by
  intro entry hEntry
  obtain ⟨key, hKey, rfl⟩ := List.mem_map.mp hEntry
  exact h _ (List.mem_map_of_mem hKey)

/-- How deep the compared dimensions of a verdict may be for its projection to
stay below a bound. -/
structure DimensionsBelow (bound : Nat) (v : Json) : Prop where
  events : ∀ e ∈ v.listAt "events", ∀ d ∈ Python.eventDimensions e, d.depth ≤ bound + 2
  checkpoints : ∀ c ∈ v.listAt "checkpoints",
    ∀ d ∈ (Python.checkpointDimensions c).1, d.depth ≤ bound + 2
  attestations : ∀ c ∈ v.listAt "checkpoints", ∀ a ∈ c.listAt "attestations",
    ∀ d ∈ Python.attestationDimensions a, d.depth ≤ bound

/-- A projected checkpoint is three levels above what it shows of its
attestations, and one above what it shows of itself. -/
theorem depth_projectCheckpoint {c : Json} {bound : Nat}
    (hOwn : ∀ d ∈ (Python.checkpointDimensions c).1, d.depth ≤ bound + 2)
    (hAttestations : ∀ a ∈ c.listAt "attestations", ∀ d ∈ Python.attestationDimensions a,
      d.depth ≤ bound) : (projectCheckpoint c).depth ≤ bound + 3 := by
  apply depth_object_le
  intro entry hEntry
  rcases List.mem_append.mp hEntry with hEntry | hEntry
  · exact depth_pick hOwn entry hEntry
  · rw [List.mem_singleton.mp hEntry]
    apply depth_arr_le_iff.mpr
    intro projected hProjected
    obtain ⟨a, ha, rfl⟩ := List.mem_map.mp hProjected
    exact depth_object_le (depth_pick (hAttestations a ha))

/-- A projected verdict is five levels above the deepest dimension it shows. -/
theorem DimensionsBelow.depth_projection {bound : Nat} {v : Json} (h : DimensionsBelow bound v) :
    (projectVerdictForAgreement v).depth ≤ bound + 5 := by
  apply depth_object_le
  intro entry hEntry
  simp only [List.mem_cons, List.not_mem_nil, or_false] at hEntry
  rcases hEntry with rfl | rfl | rfl
  · dsimp only
    split
    · rename_i hStr
      obtain ⟨s, hs⟩ : ∃ s, v.get "schema_version" = .str s := by
        cases hGet : v.get "schema_version" <;> simp [hGet, Json.isStr] at hStr ⊢
      rw [hs]
      exact Nat.zero_le _
    · exact Nat.zero_le _
  · apply depth_arr_le_iff.mpr
    intro projected hProjected
    obtain ⟨e, he, rfl⟩ := List.mem_map.mp hProjected
    exact depth_object_le (depth_pick (h.events e he))
  · apply depth_arr_le_iff.mpr
    intro projected hProjected
    obtain ⟨c, hc, rfl⟩ := List.mem_map.mp hProjected
    exact depth_projectCheckpoint (h.checkpoints c hc) (h.attestations c hc)

/-- A projection is nested as deeply as its verdict, where the verdict has
objects for entries; five levels are enough for entries that it makes up. -/
theorem depth_projectVerdict_le (v : Json) :
    (projectVerdictForAgreement v).depth ≤ max 5 v.depth := by
  have hBelow : DimensionsBelow (v.depth - 5) v := by
    have below {holder item : Json} {key : String} (h : item ∈ holder.listAt key)
        {keys : List String} : ∀ d ∈ keys.map item.get, d.depth ≤ holder.depth - 3 := by
      intro d hd
      obtain ⟨name, -, rfl⟩ := List.mem_map.mp hd
      have hItem := depth_listAt h
      have hDimension := depth_get_le_pred item name
      omega
    constructor
    · intro e he d hd
      have := below he d hd
      omega
    · intro c hc d hd
      have := below hc d hd
      omega
    · intro c hc a ha d hd
      have hDimension := below ha d hd
      have hCheckpoint := depth_listAt hc
      omega
  have := hBelow.depth_projection
  omega

/-- Every dimension of a recomputed verdict is a scalar. -/
theorem depth_projectFresh_le (b : Json) (source : EvidenceBundleResult)
    (attestations : List AttestationResult) :
    (projectVerdictForAgreement (freshVerdict b source attestations)).depth ≤ 5 := by
  have depth_ofOption (value : Option Bool) : (Json.ofOption value).depth = 0 := by
    cases value <;> rfl
  apply DimensionsBelow.depth_projection
  constructor
  · intro e he d hd
    rw [Python.events_freshVerdict] at he
    obtain ⟨row, -, rfl⟩ := List.mem_map.mp he
    rw [Python.eventDimensions_eventEntry] at hd
    simp only [List.mem_cons, List.not_mem_nil, or_false] at hd
    rcases hd with rfl | rfl | rfl | rfl | rfl <;> simp [Json.depth, depth_ofOption]
  · intro c hc d hd
    rw [Python.checkpoints_freshVerdict] at hc
    obtain ⟨row, -, rfl⟩ := List.mem_map.mp hc
    rw [Python.checkpointDimensions_checkpointEntry] at hd
    simp only [List.mem_cons, List.not_mem_nil, or_false] at hd
    rcases hd with rfl | rfl <;> simp [Json.depth]
  · intro c hc a ha d hd
    rw [Python.checkpoints_freshVerdict] at hc
    obtain ⟨row, -, rfl⟩ := List.mem_map.mp hc
    have hEntries : (checkpointEntry attestations row).listAt "attestations" =
        (attestations.filter (·.checkpointTxId = row.txId)).map attestationEntry := by
      simp [checkpointEntry, Json.listAt, Json.get, List.lookup_cons, Json.arr?]
    rw [hEntries] at ha
    obtain ⟨own, -, rfl⟩ := List.mem_map.mp ha
    rw [Python.attestationDimensions_attestationEntry] at hd
    simp only [List.mem_cons, List.not_mem_nil, or_false] at hd
    rcases hd with rfl | rfl | rfl | rfl | rfl <;> simp [Json.depth, depth_ofOption]

end Projection

/-- The signed scope of a wrapper leaves members out and adds no nesting. -/
theorem depth_bundleForSig_le (b : Json) : (bundleForSig b).depth ≤ b.depth := by
  rw [bundleForSig_eq_restrict]
  exact Json.depth_restrict_le b _

section Run

variable {ε : Type} {K L : Kernel ε} {bound : Nat}

/-- Two kernels that answer alike on everything nested up to a bound. -/
structure SameWithin (bound : Nat) (K L : Kernel ε) : Prop where
  crypto : K.crypto = L.crypto
  jsonParse : K.jsonParse = L.jsonParse
  verifySignature : K.verifySignature = L.verifySignature
  quote : K.quote = L.quote
  checkBody : K.checkBody = L.checkBody
  checkEntry : K.checkEntry = L.checkEntry
  holdsInclusion : K.holdsInclusion = L.holdsInclusion
  evaluateContent : K.evaluateContent = L.evaluateContent
  canonical : ∀ v, v.depth ≤ bound → K.canonical v = L.canonical v
  checkCheckpoint : ∀ cp, cp.depth ≤ bound → K.checkCheckpoint cp = L.checkCheckpoint cp
  checkEvent : ∀ ev, ev.depth ≤ bound → K.checkEvent ev = L.checkEvent ev
  checkInclusion : ∀ ev incl cp, ev.depth ≤ bound → K.checkInclusion ev incl cp =
    L.checkInclusion ev incl cp
  expectedBytes : ∀ cp, cp.depth ≤ bound → K.expectedBytes cp = L.expectedBytes cp
  verifyAttestation : ∀ rec checkpoints, rec.depth ≤ bound →
    (∀ txId cp, checkpoints.lookup txId = some cp → cp.depth ≤ bound) →
    K.verifyAttestation rec checkpoints = L.verifyAttestation rec checkpoints

/-- Whatever the gateways answer parses to nothing deeper than the bound. -/
def AnswersWithin (bound : Nat) (K : Kernel ε) (options : Options) : Prop :=
  ∀ fetch, options.fetchImpl = some fetch → ∀ requests url data v,
    fetch requests url = some data → K.jsonParse data = .ok v → v.depth ≤ bound

variable (hSame : SameWithin bound K L)
include hSame

/-- A recomputed hash canonicalizes the value that it is the hash of. -/
theorem checkHash_within {value : Json} (h : value.depth ≤ bound) (committed : Json)
    (mismatch shown failed : String) :
    checkHash K value committed mismatch shown failed =
      checkHash L value committed mismatch shown failed := by
  unfold checkHash
  rw [hSame.canonical value h, hSame.crypto]

/-- An agreement canonicalizes the two projections, and nothing else of the
verdicts. -/
theorem verdictAgreement_within {cached fresh : Json}
    (hCached : (projectVerdictForAgreement cached).depth ≤ bound)
    (hFresh : (projectVerdictForAgreement fresh).depth ≤ bound) :
    verdictAgreement K cached fresh = verdictAgreement L cached fresh := by
  unfold verdictAgreement
  rw [hSame.canonical _ hCached, hSame.canonical _ hFresh]

section Trace

/-- A loop over shallow checkpoints does not tell the kernels apart. -/
theorem verifyCheckpoints_within {checkpoints : List Json} (h : ∀ cp ∈ checkpoints, cp.depth ≤ bound)
    (byTxId : List (Str × Json)) :
    verifyCheckpoints K byTxId checkpoints = verifyCheckpoints L byTxId checkpoints := by
  induction checkpoints generalizing byTxId with
  | nil => rfl
  | cons cp rest ih =>
      have hRow : checkpointRow K byTxId cp = checkpointRow L byTxId cp := by
        unfold checkpointRow
        rw [hSame.checkCheckpoint cp (h cp List.mem_cons_self)]
      unfold verifyCheckpoints
      rw [hSame.checkEntry, hRow, ih fun other hOther => h other (List.mem_cons_of_mem cp hOther)]

/-- A loop over shallow events does not tell the kernels apart. -/
theorem verifyEvents_within {events : List Json} (h : ∀ ev ∈ events, ev.depth ≤ bound)
    (byTxId : List (Str × Json)) (content : Str → Option SideContent) :
    verifyEvents K byTxId content events = verifyEvents L byTxId content events := by
  induction events with
  | nil => rfl
  | cons ev rest ih =>
      have hEv := h ev List.mem_cons_self
      have hRow : eventRow K byTxId content ev = eventRow L byTxId content ev := by
        have hInclusion : K.checkInclusion ev = L.checkInclusion ev :=
          funext fun incl => funext fun cp => hSame.checkInclusion ev incl cp hEv
        unfold eventRow
        rw [hSame.checkEvent ev hEv, hInclusion, hSame.evaluateContent, hSame.holdsInclusion,
          hSame.quote]
      unfold verifyEvents
      rw [hSame.checkEntry, hRow, ih fun other hOther => h other (List.mem_cons_of_mem ev hOther)]

/-- An answer is canonicalized once it is parsed, and is no part of the bundle;
hence the hypothesis about it. -/
theorem classifyAnswer_within {answer : Option Bytes}
    (h : ∀ data v, answer = some data → K.jsonParse data = .ok v → v.depth ≤ bound)
    (expected : Option Bytes) :
    classifyAnswer K expected answer = classifyAnswer L expected answer := by
  cases answer with
  | none => rfl
  | some data =>
      cases expected with
      | none => rfl
      | some expected =>
          unfold classifyAnswer
          rw [← hSame.jsonParse]
          cases hParse : K.jsonParse data with
          | error text => simp only [hParse]
          | ok v => simp only [hParse, hSame.canonical v (h data v rfl hParse)]

variable {fetch : Fetch} (hAnswers : ∀ requests url data v, fetch requests url = some data →
  K.jsonParse data = .ok v → v.depth ≤ bound)
include hAnswers

/-- Every gateway is asked for the same entry, so one answer after the other is
classified alike. -/
theorem probeGateways_within (cp : Json) (expected : Option Bytes) (requests gateways : List Str) :
    probeGateways K cp expected fetch requests gateways =
      probeGateways L cp expected fetch requests gateways := by
  induction gateways generalizing requests with
  | nil => rfl
  | cons gateway rest ih =>
      unfold probeGateways
      simp only [classifyAnswer_within hSame (hAnswers requests (gatewayUrl cp gateway)), ih]

/-- A re-fetch reads the entries that rows were made from, and those are
shallow. -/
theorem refetchRows_within {byTxId : List (Str × Json)}
    (h : ∀ txId cp, byTxId.lookup txId = some cp → cp.depth ≤ bound) (gateways requests : List Str)
    (rows : List CheckpointResult) :
    refetchRows K byTxId gateways fetch requests rows =
      refetchRows L byTxId gateways fetch requests rows := by
  induction rows generalizing requests with
  | nil => rfl
  | cons row rest ih =>
      have hRow : refetchRow K byTxId gateways fetch requests row =
          refetchRow L byTxId gateways fetch requests row := by
        unfold refetchRow
        cases hCp : byTxId.lookup row.txId with
        | none => rfl
        | some cp =>
            simp only [hSame.expectedBytes cp (h row.txId cp hCp),
              probeGateways_within hSame hAnswers]
      unfold refetchRows
      rw [hRow]
      simp only [ih]

omit hAnswers

/-- A re-fetch of shallow entries does not tell the kernels apart when no answer
is too deep. -/
theorem refetch_within {options : Options} (hAnswers : AnswersWithin bound K options)
    {byTxId : List (Str × Json)} (h : ∀ txId cp, byTxId.lookup txId = some cp → cp.depth ≤ bound)
    (rows : List CheckpointResult) : refetch K byTxId options rows = refetch L byTxId options rows := by
  unfold refetch
  cases hFetch : options.fetchImpl with
  | none => rfl
  | some fetch => simp only [refetchRows_within hSame (hAnswers fetch hFetch) h]

/-- Over a shallow trace the two kernels make the same calls and get the same
results. -/
theorem verifyAnchorTrace_within {b : Json} (h : b.depth ≤ bound) {options : Options}
    (hAnswers : AnswersWithin bound K options) (bodyType : Str) (specVersionOk : Bool)
    (asserted : Option Str) (errors : List Str) :
    verifyAnchorTrace K b bodyType specVersionOk asserted errors options =
      verifyAnchorTrace L b bodyType specVersionOk asserted errors options := by
  have hBody := depth_get_le b "body"
  unfold verifyAnchorTrace
  simp only [hSame.checkBody]
  cases L.checkBody (b.get "body") with
  | error exc => simp only [error_bind]
  | ok _ =>
      cases hCheckpoints : (b.get "body").get "checkpoints" with
      | arr checkpoints =>
          cases hEvents : (b.get "body").get "events" with
          | arr events =>
              have entry {key : String} {items : List Json} {item : Json}
                  (hItems : (b.get "body").get key = .arr items) (hItem : item ∈ items) :
                  item.depth ≤ bound := by
                have hList : item ∈ (b.get "body").listAt key := by
                  rw [Json.listAt, hItems]
                  exact hItem
                have hEntry := depth_listAt hList
                omega
              have hFirst (txId : Str) (cp : Json)
                  (hCp : (checkpoints.foldl registerTxId []).lookup txId = some cp) :
                  cp.depth ≤ bound := by
                rw [← firstEntries, lookup_firstEntries] at hCp
                exact entry hCheckpoints (List.mem_of_find?_eq_some hCp)
              simp only [verifyCheckpoints_within hSame fun cp hCp => entry hCheckpoints hCp]
              cases hRows : verifyCheckpoints L [] checkpoints with
              | error exc => simp only [error_bind]
              | ok outcome =>
                  obtain ⟨byTxId, rows⟩ := outcome
                  obtain ⟨-, rfl, -⟩ := verifyCheckpoints_eq_ok L hRows
                  simp only [ok_bind, verifyEvents_within hSame fun ev hEv => entry hEvents hEv,
                    refetch_within hSame hAnswers hFirst]
          | _ => simp only
      | _ => simp only

end Trace

section Export

/-- A loop over shallow records does not tell the kernels apart. -/
theorem verifyAttestations_within {records : List Json} (h : ∀ rec ∈ records, rec.depth ≤ bound)
    {checkpoints : List (Str × Json)}
    (hCheckpoints : ∀ txId cp, checkpoints.lookup txId = some cp → cp.depth ≤ bound) :
    verifyAttestations K checkpoints records = verifyAttestations L checkpoints records := by
  induction records with
  | nil => rfl
  | cons rec rest ih =>
      unfold verifyAttestations
      rw [hSame.verifyAttestation rec checkpoints (h rec List.mem_cons_self) hCheckpoints,
        ih fun other hOther => h other (List.mem_cons_of_mem rec hOther)]

/-- A rollup canonicalizes two projections, which are at most five levels deep or
no deeper than the bundle. -/
theorem finishExport_within (hFive : 5 ≤ bound) {b : Json} (h : b.depth ≤ bound)
    (specVersionOk : Bool) (asserted : Option Str) (errors : List Str) (linkage : Bool)
    (source : EvidenceBundleResult) (attestations : List AttestationResult) :
    finishExport K b specVersionOk asserted errors linkage source attestations =
      finishExport L b specVersionOk asserted errors linkage source attestations := by
  have hBody := depth_get_le b "body"
  have hVerdict := depth_get_le (b.get "body") "kernel_verdict"
  have hCached := depth_projectVerdict_le ((b.get "body").get "kernel_verdict")
  unfold finishExport
  simp only [verdictAgreement_within hSame
    (show (projectVerdictForAgreement ((b.get "body").get "kernel_verdict")).depth ≤ bound by omega)
    ((depth_projectFresh_le b source attestations).trans hFive)]

/-- Over a shallow export the two kernels agree as soon as they agree about its
source. -/
theorem verifyExportBody_within (hFive : 5 ≤ bound) {b : Json} (h : b.depth ≤ bound)
    {first second : Json → Except ε EvidenceBundleResult}
    (hSource : sourceOf b ≠ .null → first (sourceOf b) = second (sourceOf b)) (specVersionOk : Bool)
    (asserted : Option Str) (errors : List Str) :
    verifyExportBody K first b specVersionOk asserted errors =
      verifyExportBody L second b specVersionOk asserted errors := by
  have hBody := depth_get_le b "body"
  have hInline := depth_get_le (b.get "body") "source_bundle"
  rw [verifyExportBody_congr K hSource]
  have hRecords : ∀ rec ∈ (b.get "body").listAt "attestations", rec.depth ≤ bound := by
    intro rec hRec
    have hEntry := depth_listAt hRec
    omega
  have hCheckpoints (txId : Str) (cp : Json) (hCp : (sourceCheckpoints
      ((b.get "body").get "source_bundle")).lookup txId = some cp) : cp.depth ≤ bound := by
    rw [lookup_sourceCheckpoints] at hCp
    have hEntry := depth_listAt (List.mem_reverse.mp (List.mem_of_find?_eq_some hCp))
    have hInner := depth_get_le ((b.get "body").get "source_bundle") "body"
    omega
  unfold verifyExportBody
  simp only
  split
  · rfl
  · split
    · rfl
    · simp only [checkHash_within hSame (hInline.trans (hBody.trans h)),
        verifyAttestations_within hSame hRecords hCheckpoints, finishExport_within hSame hFive h]

end Export

/-- One level: over a shallow bundle the two kernels agree as soon as they agree
about its source. -/
theorem verifyBundle_within (hFive : 5 ≤ bound) {b : Json} (h : b.depth ≤ bound) {options : Options}
    (hAnswers : AnswersWithin bound K options) {first second : Json → Except ε EvidenceBundleResult}
    (hSource : sourceOf b ≠ .null → first (sourceOf b) = second (sourceOf b)) :
    verifyBundle K options first b = verifyBundle L options second b := by
  have hBody := depth_get_le b "body"
  have hComplaint : wrapperComplaint K b = wrapperComplaint L b := by
    unfold wrapperComplaint
    rw [hSame.quote]
  have hSigned : checkWrapperSignature K b = checkWrapperSignature L b := by
    unfold checkWrapperSignature
    rw [hSame.canonical (bundleForSig b) ((depth_bundleForSig_le b).trans h), hSame.verifySignature]
  unfold verifyBundle
  rw [hComplaint, hSigned, hSame.quote]
  simp only [checkHash_within hSame (hBody.trans h), verifyExportBody_within hSame hFive h hSource,
    verifyAnchorTrace_within hSame h hAnswers]

/-- Kernels that answer alike up to a depth run alike on the bundles of that
depth, exports included. -/
theorem verifyEvidenceBundle_within (hFive : 5 ≤ bound) {b : Json} (h : b.depth ≤ bound)
    {options : Options} (hAnswers : AnswersWithin bound K options) :
    verifyEvidenceBundle K b options = verifyEvidenceBundle L b options := by
  generalize hDepth : b.depth = depth at h
  induction depth using Nat.strong_induction_on generalizing b with
  | _ depth ih =>
      subst hDepth
      rw [verifyEvidenceBundle_eq, verifyEvidenceBundle_eq]
      refine verifyBundle_within hSame hFive h hAnswers fun hNull => ?_
      have hSource := depth_sourceOf_lt hNull
      exact ih _ hSource rfl (hSource.le.trans h)

end Run
end ArioProof.CrossKernel
