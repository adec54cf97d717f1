import ArioProof.Python.TraceSoundness
import ArioProof.Python.VerdictAgreement

/-! What asserted verdicts cannot influence. A run is observed through a map
that forgets where assertions may show; two bundles that differ in assertions
only are observed alike. -/
namespace ArioProof.Python

open Foundation

/-- `v` without a member, the others in their order. -/
def eraseKey (v : Json) (key : String) : Json :=
  match v with
  | .obj members => .obj (members.filter fun entry => entry.1 ≠ utf16 key)
  | v => v

/-- A result up to what the wrapper and the exporter assert about it. -/
def forgetAsserted (result : EvidenceBundleResult) : EvidenceBundleResult :=
  { result with
    assertedStatus := none
    exported := result.exported.map fun exported =>
      { exported with verdict := eraseKey exported.verdict "as_of" } }

/-- What a run has recomputed, whatever verdict was cached. -/
structure Recomputed where
  checkpoints : List CheckpointResult
  events : List EventResult
  exported : Option (Bool × Status × List AttestationResult × Json × Json × Json)

/-- What of a result was recomputed: the rows, and of an export everything but its
rollup and the agreement with the cached verdict. -/
def recomputed (result : EvidenceBundleResult) : Recomputed where
  checkpoints := result.checkpoints
  events := result.events
  exported := result.exported.map fun exported =>
    (exported.sourceLinkageOk, exported.sourceStatus, exported.attestations,
      exported.verdict.get "events", exported.verdict.get "checkpoints",
      exported.verdict.get "counts")

section Erase

/-- Setting a member makes no difference once the member is erased. -/
theorem eraseKey_set_self (v : Json) (key : String) (value : Json) :
    eraseKey (v.set key value) key = eraseKey v key := by
  cases v with
  | obj members =>
      simp only [Json.set, eraseKey, Json.obj.injEq]
      split_ifs with hPresent
      · clear hPresent
        induction members with
        | nil => rfl
        | cons entry rest ih =>
            rw [List.map_cons, List.filter_cons, List.filter_cons, ih]
            by_cases hKey : entry.1 = utf16 key <;> simp [hKey]
      · simp
  | _ => rfl

theorem lookup_filter_ne {key other : Str} (h : key ≠ other) (members : List (Str × Json)) :
    (members.filter fun entry => entry.1 ≠ other).lookup key = members.lookup key := by
  induction members with
  | nil => rfl
  | cons entry rest ih =>
      rw [List.filter_cons, List.lookup_cons]
      by_cases hOther : entry.1 = other
      · have hNe : (key == entry.1) = false := by simpa [hOther] using h
        rw [if_neg (by simp [hOther]), hNe, ih]
      · rw [if_pos (by simp [hOther]), List.lookup_cons, ih]

/-- Erasing one member and setting another do not interfere. -/
theorem eraseKey_set_of_ne {key other : String} (h : key ≠ other) (v value : Json) :
    eraseKey (v.set key value) other = (eraseKey v other).set key value := by
  have hKeys : utf16 key ≠ utf16 other := by simpa using h
  cases v with
  | obj members =>
      simp only [Json.set, eraseKey, Json.obj.injEq, lookup_filter_ne hKeys]
      split_ifs with hPresent
      · clear hPresent
        induction members with
        | nil => rfl
        | cons entry rest ih =>
            rw [List.map_cons, List.filter_cons, List.filter_cons, ih]
            by_cases hKey : entry.1 = utf16 key
            · simp [hKey, h]
            · rw [if_neg hKey]
              by_cases hOther : entry.1 = utf16 other
              · simp [hOther]
              · simp [hKey, hOther]
      · simp [h]
  | _ => rfl

end Erase

variable {R : Runtime} {options : Options}

section Fresh

variable (b : Json) (source : EvidenceBundleResult) (attestations : List AttestationResult)

/-- The time of a verdict is not projected. -/
theorem projection_freshVerdict :
    projectVerdictForAgreement (freshVerdict b source attestations) =
      projectVerdictForAgreement (buildVerdictObject source attestations) := by
  unfold projectVerdictForAgreement Json.listAt Json.get
  simp only [get?_freshVerdict _ _ b (show "schema_version" ≠ "as_of" by decide),
    get?_freshVerdict _ _ b (show "events" ≠ "as_of" by decide),
    get?_freshVerdict _ _ b (show "checkpoints" ≠ "as_of" by decide)]

/-- Up to its time, the recomputed verdict depends on the rows and the
attestations only. -/
theorem eraseKey_freshVerdict : eraseKey (freshVerdict b source attestations) "as_of" =
    eraseKey (buildVerdictObject source attestations) "as_of" := by
  unfold freshVerdict
  split
  · exact eraseKey_set_self _ _ _
  · rfl

end Fresh

section Asserted

variable {b b' : Json}

/-- The rollup of an export reads the wrapper for `as_of` alone. -/
theorem forgetAsserted_finishExport (hBody : b.get "body" = b'.get "body") (specVersionOk : Bool)
    (asserted asserted' : Option Str) (errors : List Str) (sourceLinkageOk : Bool)
    (source : EvidenceBundleResult) (attestations : List AttestationResult) :
    forgetAsserted (finishExport (kernel R) b specVersionOk asserted errors sourceLinkageOk source
      attestations) = forgetAsserted (finishExport (kernel R) b' specVersionOk asserted' errors
        sourceLinkageOk source attestations) := by
  have hAgreement : verdictAgreement (kernel R) ((b.get "body").get "kernel_verdict")
      (freshVerdict b source attestations) = verdictAgreement (kernel R)
        ((b'.get "body").get "kernel_verdict") (freshVerdict b' source attestations) := by
    unfold verdictAgreement
    rw [hBody, projection_freshVerdict, projection_freshVerdict]
  have hErase : ∀ status summary,
      eraseKey (((freshVerdict b source attestations).set "status" status).set "summary" summary)
        "as_of" = eraseKey (((freshVerdict b' source attestations).set "status" status).set
          "summary" summary) "as_of" := by
    intro status summary
    rw [eraseKey_set_of_ne (by decide), eraseKey_set_of_ne (by decide), eraseKey_freshVerdict,
      eraseKey_set_of_ne (by decide), eraseKey_set_of_ne (by decide), eraseKey_freshVerdict]
  simp only [finishExport, forgetAsserted, displayVerdict, hAgreement, Option.map_some, hErase]

/-- The asserted status passes through an export body without being looked at. -/
theorem forgetAsserted_verifyExportBody
    (verifySource : Json → Except Exc EvidenceBundleResult) (hBody : b.get "body" = b'.get "body")
    (specVersionOk : Bool) (asserted asserted' : Option Str) (errors : List Str) :
    (verifyExportBody (kernel R) verifySource b specVersionOk asserted errors).map forgetAsserted =
      (verifyExportBody (kernel R) verifySource b' specVersionOk asserted' errors).map forgetAsserted := by
  unfold verifyExportBody
  simp only [hBody]
  cases exportComplaint (b'.get "body") with
  | some complaint => rfl
  | none =>
      simp only
      split
      · rfl
      · cases verifySource ((b'.get "body").get "source_bundle") with
        | error exc => rfl
        | ok source =>
            cases hAtts : verifyAttestations (kernel R)
                (sourceCheckpoints ((b'.get "body").get "source_bundle"))
                ((b'.get "body").listAt "attestations") with
            | error exc => rfl
            | ok outcome =>
                cases outcome with
                | error message => rfl
                | ok attestations =>
                    simp only [bind, Except.bind, pure, Except.pure, Except.map,
                      Except.ok.injEq]
                    exact forgetAsserted_finishExport hBody ..

/-- The asserted status passes through a trace without being looked at. -/
theorem forgetAsserted_verifyAnchorTrace (hBody : b.get "body" = b'.get "body") (bodyType : Str)
    (specVersionOk : Bool) (asserted asserted' : Option Str) (errors : List Str)
    (options : Options) :
    (verifyAnchorTrace (kernel R) b bodyType specVersionOk asserted errors options).map forgetAsserted =
      (verifyAnchorTrace (kernel R) b' bodyType specVersionOk asserted' errors options).map
        forgetAsserted := by
  unfold verifyAnchorTrace
  simp only [hBody, bind, Except.bind]
  cases (kernel R).checkBody (b'.get "body") with
  | error exc => rfl
  | ok _ =>
      simp only
      split
      · rename_i checkpoints events hCheckpoints hEvents
        cases verifyCheckpoints (kernel R) [] checkpoints with
        | error exc => rfl
        | ok entry =>
            obtain ⟨byTxId, rows⟩ := entry
            simp only
            cases verifyEvents (kernel R) byTxId options.content events with
            | error exc => rfl
            | ok eventRows => rfl
      · rfl

/-- Two bundles with one body under wrappers that hold are observed alike. -/
theorem forgetAsserted_verifyEvidenceBundle (hb : Wrapped (kernel R) b) (hb' : Wrapped (kernel R) b')
    (hType : b.get "body_type" = b'.get "body_type") (hBody : b.get "body" = b'.get "body")
    (options : Options) : (verifyEvidenceBundle R b options).map forgetAsserted =
      (verifyEvidenceBundle R b' options).map forgetAsserted := by
  rw [verifyEvidenceBundle_eq, verifyEvidenceBundle_eq, verifyBundle_of_wrapped hb,
    verifyBundle_of_wrapped hb']
  unfold verifyBody
  simp only [hType]
  split_ifs
  · exact forgetAsserted_verifyExportBody _ hBody ..
  · exact forgetAsserted_verifyAnchorTrace hBody ..
  · simp [wrapperResult, forgetAsserted, Except.map, hType]

end Asserted

section Strings

variable {b : Json} {source : EvidenceBundleResult}

/-- Canonical bytes of a body reach down to the traced one. -/
theorem canonicalizes_traced (hJcs : R.JcsCompositional) (b : Json)
    (h : Canonicalizes R (b.get "body")) : Canonicalizes R ((traced b).get "body") := by
  induction b using traced.induct with
  | case1 b hExport ih =>
      rw [traced_of_isExport hExport]
      exact ih ((h.getD hJcs "source_bundle").getD hJcs "body")
  | case2 b hExport =>
      rw [traced_of_not_isExport (by simpa using hExport)]
      exact h

theorem canonicalizes_ascii (hJcs : R.JcsCompositional) {s : Str} (h : isAscii s = true) :
    Canonicalizes R (.str s) :=
  canonicalizes_iff.mpr ⟨Nat.zero_le _, hJcs.ascii s (isAscii_iff.mp h)⟩

/-- A string member of a canonicalizable value, or a fixed text in its place. -/
theorem canonicalizes_strMember (hJcs : R.JcsCompositional) {v : Json} {key : String}
    {otherwise : Str} (hv : Canonicalizes R v) (hOther : isAscii otherwise = true) :
    Canonicalizes R (.str ((v.get key).str?.getD otherwise)) := by
  cases hMember : v.get key with
  | str s => exact hv.get hJcs hMember (by simp)
  | _ => exact canonicalizes_ascii hJcs hOther

/-- The strings in the rows of a source and in the records of an export come
out of its body. -/
theorem stringsRender_of_run (hJcs : R.JcsCompositional) {attestations : List AttestationResult}
    (hBody : Canonicalizes R (b.get "body"))
    (hSource : verifyEvidenceBundle R (sourceOf b) options = .ok source)
    (hAttestations : verifyAttestations (kernel R) (sourceCheckpoints (sourceOf b))
      ((b.get "body").listAt "attestations") = .ok (.ok attestations)) :
    StringsRender R source attestations := by
  have hTraced := canonicalizes_traced hJcs (sourceOf b)
    ((hBody.getD hJcs "source_bundle").getD hJcs "body")
  have hOperators : ∀ a ∈ attestations, Canonicalizes R (.str a.operator) := by
    intro a ha
    obtain ⟨rec, hRec, hRun⟩ := exists_of_mem_right (verifyAttestations_eq_ok hAttestations) ha
    rw [(verifyAttestation_eq_ok hRun).operator]
    have hRecord : Canonicalizes R rec := by
      unfold Json.listAt at hRec
      cases hList : (b.get "body").get "attestations" with
      | arr items =>
          rw [hList] at hRec
          exact (hBody.get hJcs hList (by simp)).mem hJcs hRec
      | _ => simp [hList, Json.arr?] at hRec
    exact canonicalizes_strMember hJcs (hRecord.getD hJcs "payload") rfl
  rcases rows_of_traced hSource with ⟨hRows, hEvents, -, -⟩ |
    ⟨inner, checkpoints, events, run, -, -, hRows, hEvents, -⟩
  · exact ⟨by simp [hEvents], by simp [hRows], hOperators⟩
  · refine ⟨fun e he => ?_, fun c hc => ?_, hOperators⟩
    · rw [hEvents, run.eventRows] at he
      obtain ⟨ev, hEv, rfl⟩ := List.mem_map.mp he
      have hEnvelope := ((hTraced.get hJcs run.events_eq (by simp)).mem hJcs hEv).getD hJcs
        "envelope"
      have hId : getEventId (ev.get "envelope") =
          ((ev.get "envelope").get "event_id").str?.getD (utf16 "<unknown>") := by
        unfold getEventId
        cases (ev.get "envelope").get "event_id" <;> rfl
      change Canonicalizes R (.str (getEventId (ev.get "envelope")))
      rw [hId]
      exact canonicalizes_strMember hJcs hEnvelope (by decide +kernel)
    · rw [hRows] at hc
      obtain ⟨cp, hCp, hRow⟩ := exists_of_mem_right run.rowsOf hc
      have hEntry := (hTraced.get hJcs run.checkpoints_eq (by simp)).mem hJcs hCp
      have hId : rowTxId cp = (cp.get "tx_id").str?.getD [] := by
        unfold rowTxId
        cases cp.get "tx_id" <;> rfl
      rw [hRow.txId, hId]
      exact canonicalizes_strMember hJcs hEntry rfl

end Strings

section Cached

variable {b b' : Json}

/-- The complaint about an export body asks of the cached verdict only that it is
an object. -/
theorem exportComplaint_congr (hKernel : ((b.get "body").get "kernel_verdict").isObj = true)
    (hKernel' : ((b'.get "body").get "kernel_verdict").isObj = true)
    (hSame : ∀ key, key ≠ "kernel_verdict" → (b.get "body").get key = (b'.get "body").get key) :
    exportComplaint (b.get "body") = exportComplaint (b'.get "body") := by
  have isObj_body {body : Json} (h : (body.get "kernel_verdict").isObj = true) :
      body.isObj = true := Json.isObj_of_get rfl (Json.ne_null_of_isObj h)
  unfold exportComplaint
  simp only [isObj_body hKernel, isObj_body hKernel', hKernel, hKernel',
    hSame "source_bundle_hash" (by decide), hSame "attestations" (by decide)]

/-- What is recomputed does not depend on the cached verdict. -/
theorem recomputed_finishExport (b b' : Json) (specVersionOk : Bool) (asserted asserted' : Option Str)
    (errors : List Str) (sourceLinkageOk : Bool) (source : EvidenceBundleResult)
    (attestations : List AttestationResult) :
    recomputed (finishExport (kernel R) b specVersionOk asserted errors sourceLinkageOk source
      attestations) = recomputed (finishExport (kernel R) b' specVersionOk asserted' errors sourceLinkageOk
        source attestations) := by
  have read {key : String} (status status' summary summary' : Json) (hAsOf : key ≠ "as_of")
      (hStatus : key ≠ "status") (hSummary : key ≠ "summary") :
      (((freshVerdict b source attestations).set "status" status).set "summary" summary).get key =
        (((freshVerdict b' source attestations).set "status" status').set "summary"
          summary').get key := by
    unfold Json.get
    rw [Json.get?_set_of_ne hSummary, Json.get?_set_of_ne hStatus, get?_freshVerdict _ _ _ hAsOf,
      Json.get?_set_of_ne hSummary, Json.get?_set_of_ne hStatus, get?_freshVerdict _ _ _ hAsOf]
  simp only [finishExport, recomputed, displayVerdict, Option.map_some, Recomputed.mk.injEq, Option.some.injEq,
    Prod.mk.injEq, true_and]
  exact ⟨read _ _ _ _ (by decide) (by decide) (by decide),
    read _ _ _ _ (by decide) (by decide) (by decide),
    read _ _ _ _ (by decide) (by decide) (by decide)⟩

/-- What is recomputed over an export body does not depend on the cached verdict,
save for the agreement with it. -/
theorem recomputed_verifyExportBody (verifySource : Json → Except Exc EvidenceBundleResult)
    (hKernel : ((b.get "body").get "kernel_verdict").isObj = true)
    (hKernel' : ((b'.get "body").get "kernel_verdict").isObj = true)
    (hSame : ∀ key, key ≠ "kernel_verdict" → (b.get "body").get key = (b'.get "body").get key)
    (specVersionOk : Bool) (asserted asserted' : Option Str) (errors : List Str) :
    (verifyExportBody (kernel R) verifySource b specVersionOk asserted errors).map recomputed =
      (verifyExportBody (kernel R) verifySource b' specVersionOk asserted' errors).map recomputed := by
  have hList : (b.get "body").listAt "attestations" = (b'.get "body").listAt "attestations" := by
    rw [Json.listAt, Json.listAt, hSame "attestations" (by decide)]
  unfold verifyExportBody
  simp only [exportComplaint_congr hKernel hKernel' hSame, hSame "source_bundle" (by decide),
    hSame "source_bundle_hash" (by decide), hList]
  cases exportComplaint (b'.get "body") with
  | some complaint => rfl
  | none =>
      simp only
      split
      · rfl
      · cases verifySource ((b'.get "body").get "source_bundle") with
        | error exc => rfl
        | ok source =>
            cases hAtts : verifyAttestations (kernel R)
                (sourceCheckpoints ((b'.get "body").get "source_bundle"))
                ((b'.get "body").listAt "attestations") with
            | error exc => rfl
            | ok outcome =>
                cases outcome with
                | error message => rfl
                | ok attestations =>
                    simp only [bind, Except.bind, pure, Except.pure, Except.map,
                      Except.ok.injEq]
                    exact recomputed_finishExport ..

/-- A finished export reports agreement exactly when the cached verdict agrees
with the one it displays. -/
theorem verdictAgreementOk_iff (hJcs : R.JcsCompositional) (hInj : R.JcsInjective)
    {result : EvidenceBundleResult} {exported : ExportResult}
    (h : verifyEvidenceBundle R b options = .ok result) (hExported : result.exported = some exported) :
    exported.verdictAgreementOk = true ↔
      VerdictsAgree ((b.get "body").get "kernel_verdict") exported.verdict := by
  obtain ⟨hb, -, source, attestations, run⟩ := exportRun_of_exported h hExported
  have hStrings := stringsRender_of_run hJcs (canonicalizes_body hb) run.source_eq run.attestations_eq
  rw [run.result_eq] at hExported
  cases hExported
  refine (verdictAgreement_iff hJcs hInj hStrings).trans ?_
  simp only [displayVerdict]
  rw [verdictsAgree_set _ (by decide), verdictsAgree_set _ (by decide)]

/-- Recompute, don't trust. What a wrapper asserts next to its body shows in
`asserted_status` and `as_of` alone, and a cached verdict shows in the outcome
of its comparison alone, which is that of the compared dimensions. -/
theorem recompute_does_not_trust (hJcs : R.JcsCompositional) (hInj : R.JcsInjective)
    (options : Options) :
    (∀ b b', Wrapped (kernel R) b → Wrapped (kernel R) b' → b.get "spec_version" = b'.get "spec_version" →
      b.get "body_type" = b'.get "body_type" → b.get "body" = b'.get "body" →
        (verifyEvidenceBundle R b options).map forgetAsserted =
          (verifyEvidenceBundle R b' options).map forgetAsserted) ∧
    (∀ b b', Wrapped (kernel R) b → Wrapped (kernel R) b' → isExport b = true → isExport b' = true →
      ((b.get "body").get "kernel_verdict").isObj = true →
      ((b'.get "body").get "kernel_verdict").isObj = true →
      (∀ key, key ≠ "kernel_verdict" → (b.get "body").get key = (b'.get "body").get key) →
        (verifyEvidenceBundle R b options).map recomputed =
          (verifyEvidenceBundle R b' options).map recomputed) ∧
    ∀ b result exported, verifyEvidenceBundle R b options = .ok result →
      result.exported = some exported → (exported.verdictAgreementOk = true ↔
        VerdictsAgree ((b.get "body").get "kernel_verdict") exported.verdict) := by
  refine ⟨fun b b' hb hb' _ hType hBody =>
    forgetAsserted_verifyEvidenceBundle hb hb' hType hBody options, ?_,
    fun b result exported h hExported => verdictAgreementOk_iff hJcs hInj h hExported⟩
  intro b b' hb hb' hExport hExport' hKernel hKernel' hSame
  rw [verifyEvidenceBundle_eq, verifyEvidenceBundle_eq, verifyBundle_of_wrapped hb,
    verifyBundle_of_wrapped hb', verifyBody_of_isExport hExport, verifyBody_of_isExport hExport']
  exact recomputed_verifyExportBody _ hKernel hKernel' hSame ..

end Cached
section Sample

open Reference

def sampleExportSigned : Nat × Nat :=
  (0xd2cf6d2f01a7128ea3f30a07e83a8130fde828aadc15251d19b22664d027a5f9,
    0xc40cf1f288f5b57e4536b888e5ae34c11afe53a8e8a44d7c4cdc5535afbfe990101ef28c385424b5b15f9ebdd6cdec6b4f2fd55b02f47bf9f82ea969553ef408)

def sampleExport : Json :=
  exporting sampleTrace 0xb478aa70f5f0ed3bbd627eb55d436dcd86d4843082110d97076f820f636bd7b2 []
    [.object [("event_id", .str "e1"), ("signature_ok", .bool true), ("payload_bound", .bool true),
      ("inclusion_ok", .bool true), ("content_ok", .null)]]
    [.object [("checkpoint_tx_id", .str "tx1"), ("merkle_root_ok", .bool true),
      ("attestations", .arr [])]]
    0xf78d5129c6c06aaa20a0379f1c4f3d00940a42d583b2b1a301985bce7ff321ff sampleExportSigned

def doubtingExportSigned : Nat × Nat :=
  (0xf683b7cd3fd7bcd794df88401d0ccde872abcc7b0dcce6376ae3bb38a5ae247a,
    0x4528aa0fc9ce468991579a396f7636d9f7035f477fb9d20aa192732ec93daaf9743ca080d3fcc138444aa5f190404c9c12a2e7b14f2a63fc149b81ac8434d402)

/-- The same export with a cached verdict that has no event included. -/
def doubtingExport : Json :=
  exporting sampleTrace 0xb478aa70f5f0ed3bbd627eb55d436dcd86d4843082110d97076f820f636bd7b2 []
    [.object [("event_id", .str "e1"), ("signature_ok", .bool true), ("payload_bound", .bool true),
      ("inclusion_ok", .bool false), ("content_ok", .null)]]
    [.object [("checkpoint_tx_id", .str "tx1"), ("merkle_root_ok", .bool true),
      ("attestations", .arr [])]]
    0x155a928d657abc55e16cdb803f99c0be79e05fff21457924894ef532726f6750 doubtingExportSigned

abbrev sampleExportRuntime : Runtime :=
  python (signedWith [sampleEventSigned, sampleCheckpointSigned, sampleTraceSigned,
    sampleExportSigned, doubtingExportSigned])

/-- The sample is a verified export whose cached verdict agrees. -/
theorem sampleExport_run : ∃ result exported,
    verifyEvidenceBundle sampleExportRuntime sampleExport .offline = .ok result ∧
      result.status = .verified ∧ result.exported = some exported ∧
      exported.verdictAgreementOk = true := by
  obtain ⟨result, hRun, h⟩ := exists_of_returns (show returns
    (verifyEvidenceBundle sampleExportRuntime sampleExport .offline) (fun result =>
      result.status = .verified ∧ result.exported.map (·.verdictAgreementOk) = some true) = true
    by decide +kernel)
  obtain ⟨hStatus, hExported⟩ := of_decide_eq_true h
  obtain ⟨exported, hExported, hAgreement⟩ := Option.map_eq_some_iff.mp hExported
  exact ⟨result, exported, hRun, hStatus, hExported, hAgreement⟩

/-- The doubting export caches other outcomes for its event than the sample does,
so no one verdict agrees with both. -/
theorem events_differ {verdict verdict' : Json} (hSame : verdict.get "events" = verdict'.get "events")
    (h : VerdictsAgree ((sampleExport.get "body").get "kernel_verdict") verdict) :
    ¬VerdictsAgree ((doubtingExport.get "body").get "kernel_verdict") verdict' := by
  intro h'
  have hEvents := h.events
  rw [Json.listAt, Json.listAt, hSame] at hEvents
  have hDimensions := hEvents.trans h'.events.symm
  simp [sampleExport, doubtingExport, exporting, wrapper, Json.listAt, Json.get, Json.arr?,
    List.lookup_cons, eventDimensions] at hDimensions

/-- Two exports that differ in the cached verdict are recomputed alike, and only
one of the verdicts agrees with what was recomputed. -/
theorem recompute_does_not_trust_sample : ∃ result result' exported exported',
    verifyEvidenceBundle sampleExportRuntime sampleExport .offline = .ok result ∧
    verifyEvidenceBundle sampleExportRuntime doubtingExport .offline = .ok result' ∧
    recomputed result = recomputed result' ∧
    result.exported = some exported ∧ result'.exported = some exported' ∧
    exported.verdictAgreementOk = true ∧ exported'.verdictAgreementOk = false := by
  obtain ⟨result, exported, hRun, hStatus, hExported, hAgrees⟩ := sampleExport_run
  obtain ⟨-, hCached, hAgreement⟩ := recompute_does_not_trust (R := sampleExportRuntime)
    jcsCompositional jcsInjective .offline
  have hBody : ∀ key, key ≠ "kernel_verdict" →
      (sampleExport.get "body").get key = (doubtingExport.get "body").get key := by
    intro key hKey
    have hOther : (key == "kernel_verdict") = false := by simpa using hKey
    simp [sampleExport, doubtingExport, exporting, wrapper, Json.get, List.lookup_cons, hOther]
  have hSame := hCached sampleExport doubtingExport (wrapped_of_status hRun (by simp [hStatus])).1
    (by decide +kernel) (by decide +kernel) (by decide +kernel) rfl rfl hBody
  rw [hRun] at hSame
  obtain ⟨result', hRun', hSame⟩ := map_eq_ok.mp hSame.symm
  have hParts := congrArg Recomputed.exported hSame
  simp only [recomputed, hExported, Option.map_some] at hParts
  obtain ⟨exported', hExported', hParts⟩ := Option.map_eq_some_iff.mp hParts
  simp only [Prod.mk.injEq] at hParts
  refine ⟨result, result', exported, exported', hRun, hRun', hSame.symm, hExported, hExported', hAgrees,
    ?_⟩
  rw [← Bool.not_eq_true, hAgreement doubtingExport result' exported' hRun' hExported']
  exact events_differ hParts.2.2.2.1.symm
    ((hAgreement sampleExport result exported hRun hExported).mp hAgrees)

end Sample
end ArioProof.Python
