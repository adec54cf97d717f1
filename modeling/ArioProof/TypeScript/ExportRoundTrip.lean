import ArioProof.Python.AttestationRun
import ArioProof.Python.TraceSoundness
import ArioProof.Reference.Environment

/-! A composed export under the verifier of the same kernel. Two code paths
recompute the verdict, one to embed it and one to compare it, and what the first
embeds the second has to find again. -/
namespace ArioProof.TypeScript

open Foundation

variable {R : Runtime}

section Recompute

/-- The loop of the composer and that of the verifier end with the same list. -/
theorem verifyAttestations_of_recompute {checkpoints : List (Str × Json)} {records : List Json}
    {attestations : List AttestationResult}
    (h : recomputeAttestations R checkpoints records = .ok attestations) :
    verifyAttestations (kernel R) checkpoints records = .ok (.ok attestations) := by
  induction records generalizing attestations with
  | nil =>
      cases h
      rfl
  | cons rec rest ih =>
      have hKernel : (kernel R).verifyAttestation rec checkpoints =
          .ok (verifyAttestation R rec checkpoints) := rfl
      rw [verifyAttestations, hKernel]
      rw [recomputeAttestations] at h
      cases hRec : verifyAttestation R rec checkpoints with
      | mk result message =>
          rw [hRec] at h
          cases message with
          | some message => cases h
          | none =>
              obtain ⟨results, hRest, hResults⟩ := bind_eq_ok.mp h
              cases hResults
              rw [ih hRest]
              rfl

/-- The verdict of an export at a time, before the rollup. -/
def verdictAt (generatedAt : Str) (source : EvidenceBundleResult)
    (attestations : List AttestationResult) : Json :=
  (buildVerdictObject source attestations).set "as_of" (.str generatedAt)

/-- A recomputation that returned: its rollup is that of an export whose linkage
and agreement hold. -/
structure Recomputed (R : Runtime) (sourceBundle : Json) (records : List Json) (generatedAt : Str)
    (recomputed : ComposeVerdictResult) (source : EvidenceBundleResult)
    (attestations : List AttestationResult) : Prop where
  source_eq : verifyEvidenceBundle R sourceBundle .offline = .ok source
  attestations_eq : verifyAttestations (kernel R) (sourceCheckpoints sourceBundle) records =
    .ok (.ok attestations)
  status : recomputed.status = exportStatus true true source.status attestations
  results : recomputed.attestations = attestations
  verdict : recomputed.verdict = displayVerdict (verdictAt generatedAt source attestations)
    (exportStatus true true source.status attestations) source attestations

/-- A recomputation that returns has verified the source and every record, and
shows what they gave. -/
theorem recomputeExportVerdict_eq_ok {sourceBundle : Json} {records : List Json} {generatedAt : Str}
    {recomputed : ComposeVerdictResult}
    (h : recomputeExportVerdict R sourceBundle records generatedAt .offline = .ok recomputed) :
    ∃ source attestations,
      Recomputed R sourceBundle records generatedAt recomputed source attestations := by
  rw [recomputeExportVerdict] at h
  obtain ⟨source, hSource, h⟩ := bind_eq_ok.mp h
  obtain ⟨attestations, hAttestations, h⟩ := bind_eq_ok.mp h
  cases h
  exact ⟨source, attestations, hSource, verifyAttestations_of_recompute hAttestations, rfl, rfl, rfl⟩

end Recompute

section Wrapper

variable {sourceBundle : Json} {items records : List Json} {exporterKey : ExporterKey}
  {options : ComposeExportOptions} {now : Str} {composed : ComposeExportResult}
  {recomputed : ComposeVerdictResult} {source publicKey body pre signature : Str}

/-- The bytes that a composer hashes are those that the verifier hashes. -/
theorem canonical_of_jcs {v : Json} {canonical : Str} (h : jcs R (some v) = .ok canonical) :
    (kernel R).canonical v = .ok (utf8 canonical) := by
  change (jcs R (some v)).map utf8 = _
  rw [h]
  rfl

/-- A key that is derived from the seed belongs to the signature. -/
theorem seed_of_derived (hDerived : exporterKey.publicKey = none) {message : Bytes}
    (hPublicKey : exporterPublicKey R exporterKey = .ok publicKey)
    (hSignature : ed25519Sign R message exporterKey.privateKey = .ok signature) :
    ∃ seed : Bytes, seed.length = 32 ∧ publicKey = Hex.encode (R.crypto.ed25519PublicKey seed) ∧
      signature = Hex.encode (R.crypto.ed25519Sign seed message) := by
  rw [exporterPublicKey, hDerived] at hPublicKey
  obtain ⟨seed, hSeed, hPublicKey⟩ := bind_eq_ok.mp hPublicKey
  obtain ⟨again, hAgain, hSignature⟩ := bind_eq_ok.mp hSignature
  rw [hSeed] at hAgain
  cases hAgain
  cases hPublicKey
  cases hSignature
  refine ⟨seed, ?_, rfl, rfl⟩
  obtain ⟨bytes, -, hLength⟩ := bind_eq_ok.mp hSeed
  split_ifs at hLength with h
  cases hLength
  exact h

/-- What was signed verifies in hex, since hex that was written is read back. -/
theorem ed25519Verify_sign (hSign : R.crypto.Ed25519Correct) {seed : Bytes} (h : seed.length = 32)
    (message : Bytes) : ed25519Verify R
      (some (.str (Hex.encode (R.crypto.ed25519Sign seed message)))) message
      (some (.str (Hex.encode (R.crypto.ed25519PublicKey seed)))) = true := by
  rw [ed25519Verify, hexToBytes_eq_ok.mpr (Hex.strictHex_encode _),
    hexToBytes_eq_ok.mpr (Hex.strictHex_encode _)]
  simp [hSign.length_sign seed message h, hSign.length_publicKey seed h, hSign.verify_sign seed message h]

/-- A finished export is its wrapper with the signature set. -/
theorem bundle_eq (run : ComposeRun R sourceBundle items exporterKey options now composed records
    recomputed source publicKey body pre signature) : composed.bundle =
      (wrapperPre options (options.generatedAt.getD now) publicKey recomputed.verdict
        (exportBody recomputed.verdict sourceBundle (sha256Hex R (utf8 source)) records)
        (sha256Hex R (utf8 body))).set "signature" (.str signature) := by
  rw [run.composed_eq]

/-- Outside its signature a finished export is its wrapper. -/
theorem get_composed (run : ComposeRun R sourceBundle items exporterKey options now composed
    records recomputed source publicKey body pre signature) {key : String} (h : key ≠ "signature") :
    composed.bundle.get key = (wrapperPre options (options.generatedAt.getD now) publicKey
      recomputed.verdict (exportBody recomputed.verdict sourceBundle (sha256Hex R (utf8 source))
        records) (sha256Hex R (utf8 body))).get key := by
  rw [bundle_eq run, Json.get, Json.get, Json.get?_set_of_ne h]

theorem get_signature_composed (run : ComposeRun R sourceBundle items exporterKey options now
    composed records recomputed source publicKey body pre signature) :
    composed.bundle.get "signature" = .str signature := by
  rw [bundle_eq run]
  exact Json.get_of_get? (Json.get?_set rfl "signature" _)

/-- A wrapper that was composed under its own key holds. -/
theorem wrapped_composed (hSign : R.crypto.Ed25519Correct) (hDerived : exporterKey.publicKey = none)
    (run : ComposeRun R sourceBundle items exporterKey options now composed records recomputed source
      publicKey body pre signature) : Wrapped (kernel R) composed.bundle := by
  obtain ⟨seed, hSeed, hPublicKey, hSignature⟩ :=
    seed_of_derived hDerived run.publicKey_eq run.signature_eq
  have hKey : composed.bundle.get "public_key" = .str publicKey := get_composed run (by decide)
  have hHash : composed.bundle.get "body_hash" = .str (sha256Hex R (utf8 body)) :=
    get_composed run (by decide)
  have hScope : bundleForSig composed.bundle = wrapperPre options (options.generatedAt.getD now)
      publicKey recomputed.verdict (exportBody recomputed.verdict sourceBundle
        (sha256Hex R (utf8 source)) records) (sha256Hex R (utf8 body)) := by
    rw [bundle_eq run, bundleForSig_set_signature]
    rfl
  have hSpec : composed.bundle.get "spec_version" = .str "ario.evidence/v1" :=
    get_composed run (by decide)
  have hAlg : composed.bundle.get "signature_alg" = .str "ed25519" := get_composed run (by decide)
  constructor
  · apply wrapperComplaint_eq_none_iff.mpr
    rw [hKey, get_signature_composed run, hHash, run.get_body, hSpec, hAlg, bundle_eq run]
    refine ⟨rfl, ?_, by decide, fun _ => rfl, rfl, rfl, rfl, Json.noConfusion⟩
    have hShallow := ((jcs_eq_ok_iff _ _ _).mp run.pre_eq).1
    exact Json.depth_set_le hShallow (Nat.zero_lt_succ _)
  · apply checkHash_of_committed _ hHash
    rw [run.get_body]
    exact canonical_of_jcs run.body_eq
  · rw [checkWrapperSignature, hScope, canonical_of_jcs run.pre_eq]
    change ed25519Verify R (some (composed.bundle.get "signature")) (utf8 pre)
      (some (composed.bundle.get "public_key")) = true
    rw [hKey, get_signature_composed run, hPublicKey, hSignature]
    exact ed25519Verify_sign hSign hSeed _

end Wrapper

section Agreement

/-- What is compared of a verdict does not show when it was made and how it
ended. -/
theorem projection_set {key : String} (value v : Json)
    (h : key ≠ "schema_version" ∧ key ≠ "events" ∧ key ≠ "checkpoints") :
    projectVerdictForAgreement (v.set key value) = projectVerdictForAgreement v := by
  have hGet {other : String} (hOther : key ≠ other) : (v.set key value).get other = v.get other := by
    rw [Json.get, Json.get, Json.get?_set_of_ne hOther.symm]
  have hList {other : String} (hOther : key ≠ other) :
      (v.set key value).listAt other = v.listAt other := by
    rw [Json.listAt, Json.listAt, hGet hOther]
  rw [projectVerdictForAgreement, projectVerdictForAgreement, hGet h.1, hList h.2.1, hList h.2.2]

/-- The agreement does not look at the status nor at the summary, so the displayed
verdict projects as the one before its rollup. -/
theorem projection_displayVerdict (v : Json) (status : Status) (source : EvidenceBundleResult)
    (attestations : List AttestationResult) :
    projectVerdictForAgreement (displayVerdict v status source attestations) =
      projectVerdictForAgreement v := by
  rw [displayVerdict, projection_set _ _ (by decide), projection_set _ _ (by decide)]

/-- A displayed verdict that renders agrees with the one it displays. -/
theorem agreement_displayVerdict (hParts : R.CanonicalizeCompositional) {v : Json} {status : Status}
    {source : EvidenceBundleResult} {attestations : List AttestationResult}
    (h : Renders R (displayVerdict v status source attestations)) :
    (verdictAgreement (kernel R) (displayVerdict v status source attestations) v).1 = true := by
  obtain ⟨canonical, hCanonical⟩ := renders_iff.mp (renders_projection hParts h)
  apply verdictAgreement_iff_canonical.mpr
  exists utf8 canonical
  constructor
  · exact canonical_of_jcs hCanonical
  · rw [← projection_displayVerdict v status source attestations]
    exact canonical_of_jcs hCanonical

/-- A rollup is never malformed: a body that cannot be read has no rollup. -/
theorem exportStatus_ne_malformed (sourceLinkageOk verdictAgreementOk : Bool) (source : Status)
    (attestations : List AttestationResult) :
    exportStatus sourceLinkageOk verdictAgreementOk source attestations ≠ .malformed := by
  unfold exportStatus
  split_ifs <;> exact Status.noConfusion

end Agreement

section RoundTrip

variable {sourceBundle : Json} {items records : List Json} {exporterKey : ExporterKey}
  {options : ComposeExportOptions} {now : Str} {composed : ComposeExportResult}
  {recomputed : ComposeVerdictResult} {source publicKey body pre signature : Str}

/-- What a verification without options reports about a composed bundle. -/
structure RoundTrips (R : Runtime) (composed : ComposeExportResult) (bundle : Json)
    (result : EvidenceBundleResult) (exported : ExportResult) : Prop where
  result_eq : verifyEvidenceBundle R bundle .offline = .ok result
  exported_eq : result.exported = some exported
  signatureOk : result.signatureOk = true
  bodyHashOk : result.bodyHashOk = true
  sourceLinkageOk : exported.sourceLinkageOk = true
  verdictAgreementOk : exported.verdictAgreementOk = true
  status : result.status = composed.status
  rolledUp : composed.status ∈ [.verified, .partly, .failed]
  verdict : exported.verdict = (bundle.get "body").get "kernel_verdict"
  bound : exported.attestations.countP (·.ok) = composed.boundAttestations

variable {sourceResult : EvidenceBundleResult} {attestations : List AttestationResult}

/-- The source is embedded as it was given. -/
theorem sourceOf_composed (run : ComposeRun R sourceBundle items exporterKey options now composed
    records recomputed source publicKey body pre signature) :
    sourceOf composed.bundle = sourceBundle := by
  rw [sourceOf, run.get_body]
  rfl

/-- The verdict in the body is the recomputed one. -/
theorem kernelVerdict_composed (run : ComposeRun R sourceBundle items exporterKey options now composed
    records recomputed source publicKey body pre signature) :
    (composed.bundle.get "body").get "kernel_verdict" = recomputed.verdict := by
  rw [run.get_body]
  rfl

/-- The hash of the source in the body is that of the source in the body. -/
theorem linked_composed (run : ComposeRun R sourceBundle items exporterKey options now composed
    records recomputed source publicKey body pre signature) :
    (checkHash (kernel R) (sourceOf composed.bundle)
      ((composed.bundle.get "body").get "source_bundle_hash") "source_bundle_hash mismatch: "
      "body=" "source_bundle canonicalization failed: ").1 = true := by
  rw [sourceOf_composed run, run.get_body]
  exact checkHash_of_committed (canonical_of_jcs run.source_eq) rfl

/-- The verifier takes the time of its verdict from the wrapper, where the
composer put the time of its own. -/
theorem freshVerdict_composed (run : ComposeRun R sourceBundle items exporterKey options now composed
    records recomputed source publicKey body pre signature) :
    freshVerdict composed.bundle sourceResult attestations =
      verdictAt (options.generatedAt.getD now) sourceResult attestations := by
  have hTime : composed.bundle.get "generated_at" = .str (options.generatedAt.getD now) :=
    get_composed run (by decide)
  rw [freshVerdict, hTime]
  rfl

/-- The cached verdict agrees with the recomputed one, because they are the same
but for the rollup. -/
theorem agreed_composed (hParts : R.CanonicalizeCompositional) (run : ComposeRun R sourceBundle items
      exporterKey options now composed records recomputed source publicKey body pre signature)
    (recompute : Recomputed R sourceBundle records (options.generatedAt.getD now) recomputed
      sourceResult attestations) :
    (verdictAgreement (kernel R) ((composed.bundle.get "body").get "kernel_verdict")
      (freshVerdict composed.bundle sourceResult attestations)).1 = true := by
  rw [freshVerdict_composed run, kernelVerdict_composed run, recompute.verdict]
  apply agreement_displayVerdict hParts
  rw [← recompute.verdict, ← kernelVerdict_composed run, run.get_body]
  exact Renders.get hParts (renders_iff.mpr ⟨body, run.body_eq⟩) _

/-- The verifier gets to the end of a composed body, by way of the same source
and the same records as the composer. -/
theorem exportRun_composed (run : ComposeRun R sourceBundle items exporterKey options now composed
      records recomputed source publicKey body pre signature)
    (recompute : Recomputed R sourceBundle records (options.generatedAt.getD now) recomputed
      sourceResult attestations) :
    ∃ result, verifyExportBody (kernel R) (fun inline => verifyEvidenceBundle R inline .offline)
        composed.bundle true (assertedStatus composed.bundle) [] = .ok result ∧
      ExportRun (kernel R) (fun inline => verifyEvidenceBundle R inline .offline) composed.bundle true
        (assertedStatus composed.bundle) [] result sourceResult attestations := by
  apply verifyExportBody_of_read
  · have hVerdict : recomputed.verdict.isObj = true := by
      rw [recompute.verdict]
      rfl
    have hHash : (composed.bundle.get "body").get "source_bundle_hash" =
        .str (sha256Hex R (utf8 source)) := by
      rw [run.get_body]
      rfl
    have hRecords : (composed.bundle.get "body").get "attestations" = .arr records := by
      rw [run.get_body]
      rfl
    rw [exportComplaint, hHash, hRecords, kernelVerdict_composed run, hVerdict, run.get_body]
    rfl
  · rw [sourceOf_composed run]
    exact Json.ne_null_of_isObj run.isObj
  · rw [sourceOf_composed run]
    exact recompute.source_eq
  · rw [sourceOf_composed run, run.embedded]
    exact recompute.attestations_eq

/-- Every composed export verifies with the status that the composer gave it,
before it is written anywhere. -/
theorem roundTrips_composed (hSign : R.crypto.Ed25519Correct) (hParts : R.CanonicalizeCompositional)
    (hDerived : exporterKey.publicKey = none) (run : ComposeRun R sourceBundle items exporterKey
      options now composed records recomputed source publicKey body pre signature) :
    ∃ result exported, RoundTrips R composed composed.bundle result exported := by
  obtain ⟨sourceResult, attestations, recompute⟩ := recomputeExportVerdict_eq_ok run.recomputed_eq
  obtain ⟨result, hResult, exportRun⟩ := exportRun_composed run recompute
  have hType : isExport composed.bundle = true := by
    have hOwn : composed.bundle.get "body_type" = .str exportBodyType := get_composed run (by decide)
    rw [isExport, hOwn]
    decide
  have hFinished := exportRun.result_eq
  rw [linked_composed run] at hFinished
  dsimp only [finishExport] at hFinished
  rw [agreed_composed hParts run recompute, freshVerdict_composed run] at hFinished
  have hStatus : composed.status = exportStatus true true sourceResult.status attestations := by
    rw [run.composed_eq]
    exact recompute.status
  refine ⟨result, _, ?_, by rw [hFinished], ?_, ?_, ?_, ?_, ?_, ?_, ?_, ?_⟩
  · rw [verifyEvidenceBundle, verifyEvidenceBundle_eq,
      verifyBundle_of_wrapped (wrapped_composed hSign hDerived run), verifyBody_of_isExport hType]
    exact hResult
  · rw [hFinished]
  · rw [hFinished]
  · rfl
  · rfl
  · rw [hFinished, hStatus]
  · have hNot := exportStatus_ne_malformed true true sourceResult.status attestations
    rw [← hStatus] at hNot
    cases hOwn : composed.status with
    | malformed => exact (hNot hOwn).elim
    | _ => decide
  · rw [kernelVerdict_composed run, recompute.verdict]
  · rw [run.composed_eq]
    exact congrArg _ recompute.results.symm

end RoundTrip

section Parsed

theorem clone_attestationEntry {a : AttestationResult}
    (hLevel : ∀ level, a.level = some level → clone level = level) :
    clone (attestationEntry a) = attestationEntry a := by
  apply clone_object_eq_self
  intro entry hEntry
  simp only [List.mem_append] at hEntry
  rcases hEntry with (((hEntry | hEntry) | hEntry) | hEntry) | hEntry
  · rw [List.mem_singleton.mp hEntry]
    rfl
  · cases hGateway : a.gateway with
    | none =>
        rw [hGateway] at hEntry
        cases hEntry
    | some gateway =>
        rw [hGateway] at hEntry
        dsimp only at hEntry
        split_ifs at hEntry
        · cases hEntry
        · rw [List.mem_singleton.mp hEntry]
          rfl
  · simp only [List.mem_cons, List.not_mem_nil, or_false] at hEntry
    rcases hEntry with rfl | rfl | rfl <;> rfl
  · cases hOwn : a.level with
    | none =>
        rw [hOwn] at hEntry
        cases hEntry
    | some level =>
        rw [hOwn] at hEntry
        rw [List.mem_singleton.mp hEntry]
        exact hLevel level hOwn
  · rw [List.mem_singleton.mp hEntry]
    exact clone_ofOption_eq_self _

/-- A displayed event is texts and truth values, which a clone keeps. -/
theorem clone_eventEntry (e : EventResult) : clone (eventEntry e) = eventEntry e := by
  apply clone_object_eq_self
  simp only [List.forall_mem_cons, List.not_mem_nil, false_implies, implies_true, and_true,
    clone_ofOption_eq_self]
  exact ⟨rfl, rfl, trivial, rfl, trivial, rfl⟩

/-- A displayed checkpoint is kept by a clone when the levels of its attestations
are, the one place where a number can stand. -/
theorem clone_checkpointEntry {attestations : List AttestationResult}
    (hLevels : ∀ a ∈ attestations, ∀ level, a.level = some level → clone level = level)
    (c : CheckpointResult) :
    clone (checkpointEntry attestations c) = checkpointEntry attestations c := by
  have hOnChain (o : OnChainResult) : clone (toVerdictOnChain o) = toVerdictOnChain o := by
    have hGateways : clone (.arr (o.perGateway.map fun g => .object [("gateway", .str g.gateway),
        ("outcome", .str g.outcome.wire)])) = .arr (o.perGateway.map fun g => .object
        [("gateway", .str g.gateway), ("outcome", .str g.outcome.wire)]) := by
      apply clone_arr_eq_self
      intro v hv
      obtain ⟨g, -, rfl⟩ := List.mem_map.mp hv
      rfl
    apply clone_object_eq_self
    simp only [List.forall_mem_cons, List.not_mem_nil, false_implies, implies_true, and_true]
    exact ⟨rfl, clone_ofOption_eq_self _, hGateways⟩
  apply clone_object_eq_self
  simp only [List.forall_mem_cons, List.not_mem_nil, false_implies, implies_true, and_true]
  refine ⟨rfl, rfl, ?_, ?_⟩
  · cases c.onChain with
    | none => rfl
    | some o => exact hOnChain o
  · apply clone_arr_eq_self
    intro v hv
    obtain ⟨a, ha, rfl⟩ := List.mem_map.mp hv
    exact clone_attestationEntry (hLevels a (List.mem_of_mem_filter ha))

/-- The counts of a verdict are bounded by the number of its entries. -/
theorem clone_verdictCounts {events : List EventResult} {attestations : List AttestationResult}
    (h : events.length + attestations.length < 2 ^ 53) :
    clone (verdictCounts events attestations) = verdictCounts events attestations := by
  have hStatuses : (events.map eventVerdictStatus).length = events.length := List.length_map _
  have hBelow {n m : Nat} (hn : n ≤ events.length) (hm : m ≤ attestations.length) :
      n + m < 2 ^ 53 := by
    omega
  have hCount (status : Status) : (events.map eventVerdictStatus).count status ≤ events.length :=
    List.count_le_length.trans_eq hStatuses
  apply clone_object_eq_self
  simp only [List.forall_mem_cons, List.not_mem_nil, false_implies, implies_true, and_true]
  refine ⟨clone_natCast_eq_self ?_, clone_natCast_eq_self ?_, clone_natCast_eq_self ?_⟩
  · exact hBelow (hCount _) List.countP_le_length
  · exact hBelow (hCount _) List.countP_le_length
  · exact hBelow (m := 0) (List.countP_le_length.trans_eq hStatuses) (Nat.zero_le _)

/-- A displayed verdict is kept by a clone as long as its counts are exact
doubles. -/
theorem clone_displayVerdict {source : EvidenceBundleResult} {attestations : List AttestationResult}
    (hCounts : source.events.length + attestations.length < 2 ^ 53)
    (hLevels : ∀ a ∈ attestations, ∀ level, a.level = some level → clone level = level)
    (generatedAt : Str) (status : Status) :
    clone (displayVerdict (verdictAt generatedAt source attestations) status source attestations) =
      displayVerdict (verdictAt generatedAt source attestations) status source attestations := by
  have hBuilt : clone (buildVerdictObject source attestations) =
      buildVerdictObject source attestations := by
    apply clone_object_eq_self
    simp only [List.forall_mem_cons, List.not_mem_nil, false_implies, implies_true, and_true]
    refine ⟨rfl, rfl, clone_verdictCounts hCounts, ?_, ?_, rfl⟩
    · apply clone_arr_eq_self
      intro v hv
      obtain ⟨e, -, rfl⟩ := List.mem_map.mp hv
      exact clone_eventEntry e
    · apply clone_arr_eq_self
      intro v hv
      obtain ⟨c, -, rfl⟩ := List.mem_map.mp hv
      exact clone_checkpointEntry hLevels c
  exact clone_set_eq_self _ (clone_set_eq_self _ (clone_set_eq_self _ hBuilt rfl) rfl) rfl

/-- The level of a record is a member of it. -/
theorem level_verifyAttestation {rec level : Json} {checkpoints : List (Str × Json)}
    (hRec : clone rec = rec) (h : (verifyAttestation R rec checkpoints).1.level = some level) :
    clone level = level := by
  have hMember : clone ((rec.get "payload").get "level") = (rec.get "payload").get "level" := by
    rw [← get_clone, ← get_clone, hRec]
  have hLabelled (hOwn : (labelled (rec.get "payload") (emptyAttestation rec)).level = some level) :
      clone level = level := by
    rw [labelled] at hOwn
    dsimp only at hOwn
    revert hOwn hMember
    cases (rec.get "payload").get "level" with
    | int n =>
        rintro hMember ⟨⟩
        exact hMember
    | float d =>
        rintro hMember ⟨⟩
        exact hMember
    | _ =>
        intro _ hNone
        cases hNone
  rw [verifyAttestation] at h
  split at h
  · cases h
  · dsimp only at h
    split at h
    · exact hLabelled h
    · split at h
      · exact hLabelled h
      · split at h <;> exact hLabelled h

/-- A normalized record is a clone but for its signature, which is text. -/
theorem clone_of_normalized {rec embedded : Json} (h : normalizeAttestation R rec = .ok embedded) :
    clone embedded = embedded := by
  rw [normalizeAttestation] at h
  split at h
  · cases h
  · split at h
    · obtain ⟨hex, -, hEmbedded⟩ := bind_eq_ok.mp h
      cases hEmbedded
      exact clone_set_eq_self _ (clone_clone rec) rfl
    · cases h

/-- A verified bundle has no more event rows than its trace has entries. -/
theorem length_events_lt {b : Json} (hHeld : Held b) {options : Options}
    {result : EvidenceBundleResult} (h : verifyEvidenceBundle R b options = .ok result) :
    result.events.length < 2 ^ 32 := by
  rcases rows_of_traced h with ⟨-, hNone, -⟩ | ⟨inner, checkpoints, events, run, -, -, -, hEvents, -⟩
  · rw [hNone]
    exact Nat.two_pow_pos 32
  · have hList := (hHeld.traced.get "body").get "events"
    rw [run.events_eq] at hList
    rw [hEvents, run.eventRows, List.length_map]
    exact hList.1

variable {sourceBundle : Json} {items records : List Json} {exporterKey : ExporterKey}
  {options : ComposeExportOptions} {now : Str} {composed : ComposeExportResult}
  {recomputed : ComposeVerdictResult} {source publicKey body pre signature : Str}

/-- The verdict of a composition counts what fits into arrays. -/
theorem clone_recomputed (hSource : Held sourceBundle) (hItems : Held (.arr items))
    (run : ComposeRun R sourceBundle items exporterKey options now composed records recomputed source
      publicKey body pre signature) : clone recomputed.verdict = recomputed.verdict := by
  obtain ⟨sourceResult, attestations, recompute⟩ := recomputeExportVerdict_eq_ok run.recomputed_eq
  have hNormalized := forall₂_of_mapM_eq_ok run.records_eq
  have hVerified := verifyAttestations_eq_ok recompute.attestations_eq
  have hEvents := length_events_lt hSource recompute.source_eq
  have hLength : attestations.length < 2 ^ 32 := by
    rw [← hVerified.length_eq, ← hNormalized.length_eq]
    exact hItems.1
  rw [recompute.verdict]
  apply clone_displayVerdict
  · calc sourceResult.events.length + attestations.length
        < 2 ^ 32 + 2 ^ 32 := Nat.add_lt_add hEvents hLength
      _ ≤ 2 ^ 53 := by norm_num
  · intro a ha level hLevel
    obtain ⟨rec, hRec, hOwn⟩ := exists_of_mem_right hVerified ha
    obtain ⟨item, -, hItem⟩ := exists_of_mem_right hNormalized hRec
    have hResult : verifyAttestation R rec (sourceCheckpoints sourceBundle) = (a, none) :=
      Except.ok.inj hOwn
    apply level_verifyAttestation (clone_of_normalized hItem)
    rw [hResult]
    exact hLevel

/-- The body of an export is kept by a clone when its source and its records are,
which were read from JSON. -/
theorem clone_exportBody (hParts : R.CanonicalizeCompositional) (hSource : Held sourceBundle)
    (hItems : Held (.arr items)) (run : ComposeRun R sourceBundle items exporterKey options now composed
      records recomputed source publicKey body pre signature) :
    clone (exportBody recomputed.verdict sourceBundle (sha256Hex R (utf8 source)) records) =
      exportBody recomputed.verdict sourceBundle (sha256Hex R (utf8 source)) records := by
  apply clone_object_eq_self
  simp only [List.forall_mem_cons, List.not_mem_nil, false_implies, implies_true, and_true]
  refine ⟨clone_recomputed hSource hItems run, ?_, rfl, ?_, rfl⟩
  · exact clone_of_renders hParts sourceBundle hSource (renders_iff.mpr ⟨source, run.source_eq⟩)
  · apply clone_arr_eq_self
    intro rec hRec
    obtain ⟨item, -, hItem⟩ := exists_of_mem_right (forall₂_of_mapM_eq_ok run.records_eq) hRec
    exact clone_of_normalized hItem

/-- Members that a wrapper takes over from its verdict. -/
theorem clone_spread {key : String} {v : Json} (h : clone v = v) :
    ∀ entry ∈ spread key v, clone entry.2 = entry.2 := by
  intro entry hEntry
  rw [spread, Option.mem_toList, Option.map_eq_some_iff] at hEntry
  obtain ⟨value, hValue, rfl⟩ := hEntry
  have hCloned := get?_clone v key
  rw [h, hValue] at hCloned
  exact (Option.some.inj hCloned).symm

/-- A composed bundle is read back from its JSON text as it was written. -/
theorem clone_composed (hParts : R.CanonicalizeCompositional) (hSource : Held sourceBundle)
    (hItems : Held (.arr items)) (run : ComposeRun R sourceBundle items exporterKey options now composed
      records recomputed source publicKey body pre signature) :
    clone composed.bundle = composed.bundle := by
  have hVerdict := clone_recomputed hSource hItems run
  rw [bundle_eq run]
  apply clone_set_eq_self _ _ rfl
  apply clone_object_eq_self
  simp only [List.forall_mem_cons, List.not_mem_nil, false_implies, implies_true, and_true]
  refine ⟨rfl, rfl, rfl, rfl, ?_, ?_, clone_exportBody hParts hSource hItems run, rfl, rfl, rfl, rfl⟩
  · cases options.gateway <;> rfl
  · apply clone_object_eq_self
    intro entry hEntry
    simp only [List.mem_append] at hEntry
    rcases hEntry with ((hEntry | hEntry) | hEntry) | hEntry
    · rw [List.mem_singleton.mp hEntry]
      exact (get_clone _ _).symm.trans (congrArg (fun v => v.get "status") hVerdict)
    · exact clone_spread hVerdict entry hEntry
    · exact clone_spread hVerdict entry hEntry
    · rw [List.mem_singleton.mp hEntry]
      rfl

end Parsed

section Composed

/-- A bundle that was composed with the key of its seed verifies without options
as its composition said, and so does the one that is read from its JSON text. -/
theorem composed_export_verifies (hSign : R.crypto.Ed25519Correct)
    (hParts : R.CanonicalizeCompositional) (sourceBundle : Json) (hSource : Held sourceBundle)
    (items : List Json) (hItems : Held (.arr items)) (privateKey : Str)
    (options : ComposeExportOptions) (now : Str) (composed : ComposeExportResult)
    (hComposed : composeExport R sourceBundle (.arr items) ⟨privateKey, none⟩ options now =
      .ok composed) :
    (∃ result exported, RoundTrips R composed composed.bundle result exported) ∧
      ∃ result exported, RoundTrips R composed (clone composed.bundle) result exported := by
  obtain ⟨records, recomputed, source, publicKey, body, pre, signature, run⟩ :=
    composeExport_eq_ok hComposed
  constructor
  · exact roundTrips_composed hSign hParts rfl run
  · rw [clone_composed hParts hSource hItems run]
    exact roundTrips_composed hSign hParts rfl run

end Composed

section Sample

open Reference

theorem isOk_canonicalize (S : Signatures) (v : Json) :
    ((typeScript S).canonicalize v).isOk = (canonicalText v).isSome := by
  dsimp only [typeScript]
  cases canonicalText v <;> rfl

theorem canonicalizeCompositional (S : Signatures) :
    (typeScript S).CanonicalizeCompositional where
  null := rfl
  finite d h := by
    rw [isOk_canonicalize] at h
    cases d with
    | finite q => rfl
    | _ => cases h
  ascii s h := by rw [isOk_canonicalize, isSome_canonicalText_str, h]
  arr items _ := by
    simp only [isOk_canonicalize]
    exact isSome_canonicalText_arr items
  obj members _ := by
    simp only [isOk_canonicalize, isSome_canonicalText_str]
    exact isSome_canonicalText_obj members

def sampleComposedSigned : Nat × Nat :=
  (0x4bb5c09588a1eceef3ab13cd473d6719f1460b9ea21a2e32f9a868a6fe00818a,
    0x6b122d3757bcfba1a0e926edad339d4505814ea9cae4963a6360443b294e41cb81ddfaddb8b05ecb23d964135b9f412013679e97d9c2d82037d1a2109dd3cb01)

abbrev composeRuntime : Runtime :=
  typeScript { signedWith [Python.sampleEventSigned, Python.sampleCheckpointSigned,
    Python.sampleTraceSigned, sampleComposedSigned] with rsa := [⟨Python.sampleModulus,
      0xcda7a1e36f56274876c27ffa4b0f67baeee09d1bc9ed010bc762eafb0e6eca2a,
      Python.sampleRsaSignature⟩] }

def sampleKey : ExporterKey := ⟨Hex.encode (octets 32 seed), none⟩

def sampleOptions : ComposeExportOptions := ⟨none, none, none, some "2026-01-01T00:00:00Z"⟩

/-- The sample is a value that JavaScript can hold. -/
theorem held_sampleTrace : Held Python.sampleTrace := by
  have hCount (n : Nat) (h : n < 2 ^ 53) : Held (.int n) := Double.ofRat_intCast (by simpa using h)
  have hIndex : Held (.int (1 : Nat)) := hCount 1 (by norm_num)
  have hSize : Held (.int (2 : Nat)) := hCount 2 (by norm_num)
  simp only [Python.sampleTrace, Python.sampleCheckpoint, Python.sampleEvent, Python.sampleEnvelope,
    trace, wrapper, checkpoint, event, envelope, inclusion, recordHex, hexText, Json.object,
    List.map_cons, List.map_nil, List.length_cons, List.length_nil, Held, HeldItems, HeldMembers,
    and_true, true_and] at hIndex hSize ⊢
  exact ⟨by norm_num, by norm_num, hIndex, hSize, by norm_num⟩

/-- The sample has no number that a double does not have exactly. -/
theorem clone_sampleTrace : clone Python.sampleTrace = Python.sampleTrace := by
  have hIndex := clone_natCast_eq_self (show 1 < 2 ^ 53 by norm_num)
  have hSize := clone_natCast_eq_self (show 2 < 2 ^ 53 by norm_num)
  rw [clone] at hIndex hSize
  simp only [Python.sampleTrace, Python.sampleCheckpoint, Python.sampleEvent, Python.sampleEnvelope,
    trace, wrapper, checkpoint, event, envelope, inclusion, recordHex, hexText, Json.object,
    List.map_cons, List.map_nil, clone, cloneItems, cloneMembers, hIndex, hSize]

theorem held_sampleAttestation : Held (.arr [Python.sampleAttestation "tx1"]) := by
  simp only [Python.sampleAttestation, attestation, hexText, Json.object, List.map_cons,
    List.map_nil, List.length_cons, List.length_nil, Held, HeldItems, HeldMembers, and_true]
  norm_num

/-- A trace that verifies is exported with a record that binds, and the export has
a text. -/
theorem sampleTrace_composed : ∃ composed,
    composeExport composeRuntime Python.sampleTrace (.arr [Python.sampleAttestation "tx1"])
      sampleKey sampleOptions [] = .ok composed ∧
    composed.status = .verified ∧ composed.boundAttestations = 1 ∧
    fits composed.bundle = true ∧ (emit composed.bundle []).isSome = true := by
  obtain ⟨composed, hComposed, hEnd⟩ := exists_of_returns (show returns
    (composeExport composeRuntime Python.sampleTrace (.arr [Python.sampleAttestation "tx1"])
      sampleKey sampleOptions []) (fun composed =>
        composed.status = .verified ∧ composed.boundAttestations = 1 ∧
          fits composed.bundle = true ∧ (emit composed.bundle []).isSome = true) = true
    by decide +kernel)
  exact ⟨composed, hComposed, of_decide_eq_true hEnd⟩

theorem composed_export_verifies_sample : ∃ composed,
    composeExport composeRuntime Python.sampleTrace (.arr [Python.sampleAttestation "tx1"])
      sampleKey sampleOptions [] = .ok composed ∧
    composed.status = .verified ∧ composed.boundAttestations = 1 ∧
    (∃ result exported, RoundTrips composeRuntime composed composed.bundle result exported) ∧
    ∃ result exported, RoundTrips composeRuntime composed (clone composed.bundle) result exported := by
  obtain ⟨composed, hComposed, hStatus, hBound, -⟩ := sampleTrace_composed
  exact ⟨composed, hComposed, hStatus, hBound, composed_export_verifies (ed25519Correct _)
    (canonicalizeCompositional _) _ held_sampleTrace _ held_sampleAttestation _ _ _ _ hComposed⟩

end Sample
end ArioProof.TypeScript
