import ArioProof.Evidence.Bundle
import ArioProof.Evidence.TraceRun

/-! What a run over a bundle has done: the recursion through inline sources is
closed here, and each level is described by its wrapper and its body. -/
namespace ArioProof

open Foundation

variable {ε : Type} (K : Kernel ε)

/-- The inline source of an export body, or `null` where the body only refers to
one. -/
def sourceOf (b : Json) : Json := (b.get "body").get "source_bundle"

theorem depth_get_le (v : Json) (key : String) : (v.get key).depth ≤ v.depth := by
  unfold Json.get
  cases h : v.get? key with
  | none => exact Nat.zero_le _
  | some w => exact (Json.depth_lt_of_get? h).le

theorem depth_sourceOf_lt {b : Json} (h : sourceOf b ≠ .null) : (sourceOf b).depth < b.depth :=
  (Json.depth_lt_of_get? (Json.get?_of_get rfl h)).trans_le (depth_get_le b "body")

section Nesting

/-- The verifier of the source is only asked about the inline source. -/
theorem verifyExportBody_congr {verify other : Json → Except ε EvidenceBundleResult} {b : Json}
    (h : sourceOf b ≠ .null → verify (sourceOf b) = other (sourceOf b)) (specVersionOk : Bool)
    (asserted : Option Str) (errors : List Str) :
    verifyExportBody K verify b specVersionOk asserted errors =
      verifyExportBody K other b specVersionOk asserted errors := by
  unfold verifyExportBody
  simp only
  split
  · rfl
  · split
    · rfl
    · rename_i hNull
      rw [show (b.get "body").get "source_bundle" = sourceOf b from rfl, h hNull]

theorem verifyBundle_congr {verify other : Json → Except ε EvidenceBundleResult} {b : Json}
    (h : sourceOf b ≠ .null → verify (sourceOf b) = other (sourceOf b)) (options : Options) :
    verifyBundle K options verify b = verifyBundle K options other b := by
  unfold verifyBundle
  simp only [verifyExportBody_congr K h]

/-- The entry point as the source writes it, calling itself. -/
theorem verifyEvidenceBundle_eq (b : Json) (options : Options) :
    verifyEvidenceBundle K b options =
      verifyBundle K options (fun inline => verifyEvidenceBundle K inline options) b :=
  Nesting.close_eq (fun _ _ _ h => verifyBundle_congr K (fun hNull => h _ (depth_sourceOf_lt hNull))
    options) b

end Nesting

section Wrapper

/-- A wrapper that can be read and whose body hash and signature hold. -/
structure Wrapped (b : Json) : Prop where
  complaint : wrapperComplaint K b = none
  bodyHash : (checkHash K (b.get "body") (b.get "body_hash")
    "body_hash mismatch: " "bundle=" "body canonicalization failed: ").1 = true
  signature : (checkWrapperSignature K b).1 = true

instance (b : Json) : Decidable (Wrapped K b) :=
  decidable_of_iff ((wrapperComplaint K b).isNone = true ∧ (checkHash K (b.get "body")
      (b.get "body_hash") "body_hash mismatch: " "bundle=" "body canonicalization failed: ").1 = true ∧
      (checkWrapperSignature K b).1 = true)
    ⟨fun h => ⟨Option.isNone_iff_eq_none.mp h.1, h.2.1, h.2.2⟩,
      fun h => ⟨Option.isNone_iff_eq_none.mpr h.complaint, h.bodyHash, h.signature⟩⟩

variable {K}

theorem checkHash_eq_true {value committed : Json} {mismatch shown failed : String}
    (h : (checkHash K value committed mismatch shown failed).1 = true) :
    ∃ canonical, K.canonical value = .ok canonical ∧
      committed = .str (K.crypto.sha256Hex canonical) ∧
      (checkHash K value committed mismatch shown failed).2 = [] := by
  unfold checkHash at h ⊢
  cases hCanonical : K.canonical value with
  | error exc => simp [hCanonical] at h
  | ok canonical =>
      simp only [hCanonical, decide_eq_true_eq] at h
      exact ⟨canonical, rfl, Json.str?_eq_some.mp h, by simp [h]⟩

theorem checkWrapperSignature_eq_true {b : Json} (h : (checkWrapperSignature K b).1 = true) :
    (checkWrapperSignature K b).2 = [] := by
  unfold checkWrapperSignature at h ⊢
  cases hMessage : K.canonical (bundleForSig b) with
  | error exc => simp [hMessage] at h
  | ok message =>
      simp only [hMessage] at h
      simp [h]

theorem checkHash_of_committed {value committed : Json} {canonical : Bytes}
    {mismatch shown failed : String} (hCanonical : K.canonical value = .ok canonical)
    (hCommitted : committed = .str (K.crypto.sha256Hex canonical)) :
    (checkHash K value committed mismatch shown failed).1 = true := by
  simp [checkHash, hCanonical, hCommitted, Json.str?]

/-- What a wrapper has to be for its hash and signature to be looked at. -/
theorem wrapperComplaint_eq_none_iff {b : Json} : wrapperComplaint K b = none ↔
    b.isObj = true ∧ b.depth ≤ maxCanonicalDepth ∧
      matchesEvidenceMajor (b.get "spec_version") = true ∧
      ((b.get "signature_alg").isStr = true →
        (b.get "signature_alg").str? = some (utf16 "ed25519")) ∧
      (b.get "public_key").isStr = true ∧ (b.get "signature").isStr = true ∧
      (b.get "body_hash").isStr = true ∧ b.get "body" ≠ .null := by
  have hDeep : exceedsDepth b maxCanonicalDepth = true ↔ ¬b.depth ≤ maxCanonicalDepth := by
    rw [exceedsDepth_iff, Nat.not_le]
  unfold wrapperComplaint
  constructor
  · intro h
    split_ifs at h with hObj hOver hSpec hAlg hKeys hHash
    have hBody : b.get "body" ≠ .null := fun hNull => by simp [hNull] at h
    simp only [Bool.or_eq_true, Bool.not_eq_true', not_or, Bool.not_eq_false] at hKeys
    simp only [Bool.and_eq_true, decide_eq_true_eq, ne_eq, not_and, not_not] at hAlg
    exact ⟨by simpa using hObj, by simpa [hDeep] using hOver, by simpa using hSpec, hAlg,
      hKeys.1, hKeys.2, by simpa using hHash, hBody⟩
  · rintro ⟨hObj, hDepth, hSpec, hAlg, hKey, hSignature, hHash, hBody⟩
    have hShallow : exceedsDepth b maxCanonicalDepth = false := by
      rw [← Bool.not_eq_true, hDeep, not_not]
      exact hDepth
    have hEd : ((b.get "signature_alg").isStr &&
        decide ((b.get "signature_alg").str? ≠ some (utf16 "ed25519"))) = false := by
      rw [Bool.and_eq_false_imp]
      intro hStr
      simp [hAlg hStr]
    simp only [hObj, hShallow, hSpec, hEd, hKey, hSignature, hHash, Bool.not_true, Bool.or_self,
      Bool.false_eq_true, if_false]

theorem bundleForSig_eq_restrict (b : Json) :
    bundleForSig b = b.restrict fun key => !(unsignedFields.map utf16).contains key := by
  cases b <;> rfl

/-- A signature is outside its own scope, so that setting it leaves the signed
bytes alone. -/
theorem bundleForSig_set_signature (b value : Json) :
    bundleForSig (b.set "signature" value) = bundleForSig b := by
  rw [bundleForSig_eq_restrict, bundleForSig_eq_restrict, Json.restrict_set (by decide)]

/-- What becomes of a body under a wrapper that holds: an export, a trace, or a
type that this kernel does not verify, which leaves the body undetermined. -/
def verifyBody {ε : Type} (K : Kernel ε) (verifySource : Json → Except ε EvidenceBundleResult)
    (options : Options) (b : Json) : Except ε EvidenceBundleResult :=
  let bodyType := (b.get "body_type").str?
  if bodyType = some (utf16 exportBodyType) then
    verifyExportBody K verifySource b true (assertedStatus b) []
  else if bodyType = some (utf16 anchorTraceBodyType) then
    verifyAnchorTrace K b anchorTraceBodyType true (assertedStatus b) [] options
  else
    .ok (wrapperResult b .partly true true [fstring ["body_type ",
      K.quote (some ((bodyType.map .str).getD .null)), " is not verifiable by this kernel (only ",
      anchorTraceBodyType, "); wrapper verified, body undetermined"]])

theorem verifyBundle_of_wrapped {b : Json} (hb : Wrapped K b)
    (verifySource : Json → Except ε EvidenceBundleResult) (options : Options) :
    verifyBundle K options verifySource b = verifyBody K verifySource options b := by
  obtain ⟨canonical, -, -, hNoNote⟩ := checkHash_eq_true hb.bodyHash
  have hNoError := checkWrapperSignature_eq_true hb.signature
  unfold verifyBundle verifyBody
  simp only [hb.complaint, hb.bodyHash, hb.signature, hNoNote, hNoError, Bool.not_true,
    Bool.or_self, Bool.false_eq_true, if_false, List.append_nil, List.nil_append, ne_eq]
  split_ifs <;> rfl

/-- Where the wrapper can be read but does not hold, one of its checks failed. -/
theorem broken_of_not_wrapped {b : Json} (hb : ¬Wrapped K b)
    (hComplaint : wrapperComplaint K b = none) :
    (!(checkWrapperSignature K b).1 || !(checkHash K (b.get "body") (b.get "body_hash")
      "body_hash mismatch: " "bundle=" "body canonicalization failed: ").1) = true := by
  have hBroken : ¬((checkWrapperSignature K b).1 = true ∧ (checkHash K (b.get "body")
      (b.get "body_hash") "body_hash mismatch: " "bundle="
      "body canonicalization failed: ").1 = true) :=
    fun h => hb ⟨hComplaint, h.2, h.1⟩
  rw [Bool.or_eq_true, Bool.not_eq_true', Bool.not_eq_true', ← Bool.not_eq_true,
    ← Bool.not_eq_true]
  tauto

/-- A wrapper that does not hold ends the run without looking at the body. -/
theorem verifyBundle_of_not_wrapped {b : Json} (hb : ¬Wrapped K b)
    (verifySource : Json → Except ε EvidenceBundleResult) (options : Options) :
    ∃ result, verifyBundle K options verifySource b = .ok result ∧
      (result.status = .failed ∨ result.status = .malformed) ∧ result.checkpoints = [] ∧
      result.events = [] ∧ result.exported = none := by
  unfold verifyBundle
  cases hComplaint : wrapperComplaint K b with
  | some result =>
      refine ⟨result, rfl, ?_⟩
      unfold wrapperComplaint at hComplaint
      split_ifs at hComplaint <;> first
        | (cases hComplaint; exact ⟨Or.inr rfl, rfl, rfl, rfl⟩)
        | skip
      split at hComplaint <;> cases hComplaint
      exact ⟨Or.inr rfl, rfl, rfl, rfl⟩
  | none =>
      simp only
      rw [if_pos (broken_of_not_wrapped hb hComplaint)]
      exact ⟨_, rfl, Or.inl rfl, rfl, rfl, rfl⟩

/-- Neither the options nor the source are looked at then. -/
theorem verifyBundle_eq_of_not_wrapped {b : Json} (hb : ¬Wrapped K b)
    (verifySource other : Json → Except ε EvidenceBundleResult) (options options' : Options) :
    verifyBundle K options verifySource b = verifyBundle K options' other b := by
  unfold verifyBundle
  cases hComplaint : wrapperComplaint K b with
  | some result => rfl
  | none =>
      simp only
      rw [if_pos (broken_of_not_wrapped hb hComplaint),
        if_pos (broken_of_not_wrapped hb hComplaint)]

/-- The bundle of a wrapper that holds is a shallow object with a body. -/
theorem Wrapped.shape {b : Json} (hb : Wrapped K b) :
    b.isObj = true ∧ b.depth ≤ maxCanonicalDepth ∧ b.get "body" ≠ .null ∧
      matchesEvidenceMajor (b.get "spec_version") = true := by
  have h := hb.complaint
  unfold wrapperComplaint at h
  split_ifs at h with hObj hDeep hSpec hAlg hKeys hHash
  rw [exceedsDepth_iff, Nat.not_lt] at hDeep
  refine ⟨by simpa using hObj, hDeep, ?_, by simpa using hSpec⟩
  intro hNull
  simp [hNull] at h

/-- The body under a wrapper that holds has canonical bytes. -/
theorem Wrapped.canonicalizes_body {b : Json} (hb : Wrapped K b) :
    ∃ canonical, K.canonical (b.get "body") = .ok canonical := by
  obtain ⟨canonical, hCanonical, -⟩ := checkHash_eq_true hb.bodyHash
  exact ⟨canonical, hCanonical⟩

end Wrapper

section Export

/-- A run over an export body that got as far as its rollup. -/
structure ExportRun (verifySource : Json → Except ε EvidenceBundleResult) (b : Json)
    (specVersionOk : Bool) (asserted : Option Str) (errors : List Str)
    (result source : EvidenceBundleResult) (attestations : List AttestationResult) : Prop where
  complaint : exportComplaint (b.get "body") = none
  inline : sourceOf b ≠ .null
  source_eq : verifySource (sourceOf b) = .ok source
  attestations_eq : verifyAttestations K (sourceCheckpoints (sourceOf b))
    ((b.get "body").listAt "attestations") = .ok (.ok attestations)
  result_eq : result = finishExport K b specVersionOk asserted
    (errors ++ (checkHash K (sourceOf b) ((b.get "body").get "source_bundle_hash")
      "source_bundle_hash mismatch: " "body=" "source_bundle canonicalization failed: ").2)
    (checkHash K (sourceOf b) ((b.get "body").get "source_bundle_hash")
      "source_bundle_hash mismatch: " "body=" "source_bundle canonicalization failed: ").1
    source attestations

/-- An export body with all its fields, an inline source and no malformed
record. -/
structure BodyRead (b : Json) : Prop where
  complaint : exportComplaint (b.get "body") = none
  inline : sourceOf b ≠ .null
  records : ∀ message, verifyAttestations K (sourceCheckpoints (sourceOf b))
    ((b.get "body").listAt "attestations") ≠ .ok (.error message)

variable {K} {verifySource : Json → Except ε EvidenceBundleResult} {b : Json}
  {specVersionOk : Bool} {asserted : Option Str} {errors : List Str}
  {result : EvidenceBundleResult}

/-- An export either ran to its rollup or ended early without a verdict, for a
malformed body or for want of an inline source. -/
theorem verifyExportBody_eq_ok
    (h : verifyExportBody K verifySource b specVersionOk asserted errors = .ok result) :
    (∃ source attestations,
      ExportRun K verifySource b specVersionOk asserted errors result source attestations) ∨
    ((result.status = .malformed ∨ result.status = .partly ∧ sourceOf b = .null) ∧
      result.exported = none ∧ result.checkpoints = [] ∧ result.events = [] ∧
      result.bodyType = some (utf16 exportBodyType) ∧ ¬BodyRead K b) := by
  unfold verifyExportBody at h
  simp only at h
  split at h
  · rename_i hComplaint
    cases h
    refine Or.inr ⟨Or.inl rfl, rfl, rfl, rfl, rfl, fun hRead => ?_⟩
    rw [hRead.complaint] at hComplaint
    cases hComplaint
  · rename_i hComplaint
    split at h
    · rename_i hNull
      cases h
      exact Or.inr ⟨Or.inr ⟨rfl, hNull⟩, rfl, rfl, rfl, rfl, fun hRead => hRead.inline hNull⟩
    · rename_i hNull
      cases hSource : verifySource (sourceOf b) with
      | error exc => rw [sourceOf] at hSource; simp only [hSource, bind, Except.bind] at h; cases h
      | ok source =>
          cases hAtts : verifyAttestations K (sourceCheckpoints (sourceOf b))
              ((b.get "body").listAt "attestations") with
          | error exc =>
              rw [sourceOf] at hSource hAtts
              simp only [hSource, hAtts, bind, Except.bind] at h
              cases h
          | ok outcome =>
              cases outcome with
              | error message =>
                  have hUnread : ¬BodyRead K b := fun hRead => hRead.records message hAtts
                  rw [sourceOf] at hSource hAtts
                  simp only [hSource, hAtts, bind, Except.bind] at h
                  cases h
                  exact Or.inr ⟨Or.inl rfl, rfl, rfl, rfl, rfl, hUnread⟩
              | ok attestations =>
                  refine Or.inl ⟨source, attestations, hComplaint, hNull, hSource, hAtts, ?_⟩
                  rw [sourceOf] at hSource hAtts
                  simp only [hSource, hAtts, bind, Except.bind] at h
                  cases h
                  rfl

/-- An export whose parts can be read runs to its rollup. -/
theorem verifyExportBody_of_read (verifySource : Json → Except ε EvidenceBundleResult)
    {source : EvidenceBundleResult} {attestations : List AttestationResult}
    (hComplaint : exportComplaint (b.get "body") = none) (hInline : sourceOf b ≠ .null)
    (hSource : verifySource (sourceOf b) = .ok source)
    (hAttestations : verifyAttestations K (sourceCheckpoints (sourceOf b))
      ((b.get "body").listAt "attestations") = .ok (.ok attestations))
    (specVersionOk : Bool) (asserted : Option Str) (errors : List Str) :
    ∃ result, verifyExportBody K verifySource b specVersionOk asserted errors = .ok result ∧
      ExportRun K verifySource b specVersionOk asserted errors result source attestations := by
  refine ⟨_, ?_, ⟨hComplaint, hInline, hSource, hAttestations, rfl⟩⟩
  unfold verifyExportBody
  simp only [hComplaint]
  split
  · rename_i hNull
    exact (hInline hNull).elim
  · rw [sourceOf] at hSource hAttestations
    simp only [hSource, hAttestations, bind, Except.bind, pure, Except.pure]
    rfl

theorem exportStatus_verified_iff (sourceLinkageOk verdictAgreementOk : Bool) (source : Status)
    (attestations : List AttestationResult) :
    exportStatus sourceLinkageOk verdictAgreementOk source attestations = .verified ↔
      sourceLinkageOk = true ∧ verdictAgreementOk = true ∧ source = .verified ∧
        ∀ a ∈ attestations, a.ok = true := by
  unfold exportStatus
  have hAny : attestations.any (!·.ok) = false ↔ ∀ a ∈ attestations, a.ok = true := by
    simp [List.any_eq_false]
  rw [← hAny]
  generalize attestations.any (!·.ok) = anyFailed
  cases sourceLinkageOk <;> cases verdictAgreementOk <;> cases source <;> cases anyFailed <;> decide

/-- Two verdicts agree when their projections have the same canonical bytes. -/
theorem verdictAgreement_iff_canonical {cached fresh : Json} :
    (verdictAgreement K cached fresh).1 = true ↔
      ∃ bytes, K.canonical (projectVerdictForAgreement cached) = .ok bytes ∧
        K.canonical (projectVerdictForAgreement fresh) = .ok bytes := by
  unfold verdictAgreement
  cases hCached : K.canonical (projectVerdictForAgreement cached) with
  | error text => simp [bind, Except.bind]
  | ok cachedBytes =>
      cases hFresh : K.canonical (projectVerdictForAgreement fresh) with
      | error text => simp [bind, Except.bind]
      | ok freshBytes =>
          simp only [bind, Except.bind, pure, Except.pure, Except.ok.injEq]
          by_cases hSame : cachedBytes = freshBytes <;> simp [hSame, eq_comm]

/-- Every record was verified against the source checkpoints, in order. -/
theorem verifyAttestations_eq_ok {checkpoints : List (Str × Json)} {records : List Json}
    {attestations : List AttestationResult}
    (h : verifyAttestations K checkpoints records = .ok (.ok attestations)) :
    List.Forall₂ (fun rec a => K.verifyAttestation rec checkpoints = .ok (a, none))
      records attestations := by
  induction records generalizing attestations with
  | nil => cases h; exact .nil
  | cons rec rest ih =>
      unfold verifyAttestations at h
      cases hRec : K.verifyAttestation rec checkpoints with
      | error exc => simp only [hRec, bind, Except.bind] at h; cases h
      | ok entry =>
          obtain ⟨a, message⟩ := entry
          cases message with
          | some message => simp only [hRec, bind, Except.bind] at h; cases h
          | none =>
              cases hRest : verifyAttestations K checkpoints rest with
              | error exc => simp only [hRec, hRest, bind, Except.bind] at h; cases h
              | ok outcome =>
                  cases outcome with
                  | error message => simp only [hRec, hRest, bind, Except.bind] at h; cases h
                  | ok results =>
                      simp only [hRec, hRest, bind, Except.bind] at h
                      cases h
                      exact .cons hRec (ih hRest)

end Export

section Verified

variable {K} {b : Json} {options : Options} {result : EvidenceBundleResult}

/-- A verified result comes from a wrapper that holds. -/
theorem wrapped_of_status (h : verifyEvidenceBundle K b options = .ok result)
    (hStatus : result.status ≠ .failed ∧ result.status ≠ .malformed) :
    Wrapped K b ∧ verifyBody K (fun inline => verifyEvidenceBundle K inline options) options b =
      .ok result := by
  rw [verifyEvidenceBundle_eq] at h
  by_cases hb : Wrapped K b
  · rw [verifyBundle_of_wrapped hb] at h
    exact ⟨hb, h⟩
  · obtain ⟨other, hOther, hBad, -⟩ := verifyBundle_of_not_wrapped hb
      (fun inline => verifyEvidenceBundle K inline options) options
    rw [h] at hOther
    cases hOther
    rcases hBad with hBad | hBad
    · exact (hStatus.1 hBad).elim
    · exact (hStatus.2 hBad).elim

/-- A verified bundle of the trace type is a completed run. -/
theorem traceRun_of_verified (h : verifyEvidenceBundle K b options = .ok result) (hStatus : result.status = .verified)
    (hType : result.bodyType = some (utf16 anchorTraceBodyType)) :
    Wrapped K b ∧ ∃ checkpoints events, TraceRun K b options result checkpoints events := by
  obtain ⟨hb, hBody⟩ := wrapped_of_status h (by simp [hStatus])
  refine ⟨hb, ?_⟩
  unfold verifyBody at hBody
  simp only at hBody
  split_ifs at hBody with hExport hTrace
  · rcases verifyExportBody_eq_ok hBody with ⟨source, attestations, run⟩ | ⟨hBad, -⟩
    · rw [run.result_eq] at hType
      exact absurd hType (by simp [finishExport, exportBodyType, anchorTraceBodyType])
    · rw [hStatus] at hBad
      simp at hBad
  · rcases verifyAnchorTrace_eq_ok hBody with ⟨checkpoints, events, run, -⟩ | hMalformed
    · exact ⟨checkpoints, events, run⟩
    · rw [hMalformed] at hStatus
      simp [malformed] at hStatus
  · cases hBody
    simp [wrapperResult] at hStatus

/-- A body of the trace type is verified as such. -/
theorem verifyBody_of_trace (hType : b.get "body_type" = .str anchorTraceBodyType)
    (verifySource : Json → Except ε EvidenceBundleResult) : verifyBody K verifySource options b =
      verifyAnchorTrace K b anchorTraceBodyType true (assertedStatus b) [] options := by
  rw [verifyBody]
  simp only [hType, Json.str?]
  rw [if_neg (by decide), if_pos trivial]

theorem verifyEvidenceBundle_of_trace (hb : Wrapped K b)
    (hType : b.get "body_type" = .str anchorTraceBodyType) :
    verifyEvidenceBundle K b options =
      verifyAnchorTrace K b anchorTraceBodyType true (assertedStatus b) [] options := by
  rw [verifyEvidenceBundle_eq, verifyBundle_of_wrapped hb, verifyBody_of_trace hType]

/-- A result with rows of the trace type is that of a completed run. -/
theorem traceRun_of_row (h : verifyEvidenceBundle K b options = .ok result)
    (hType : result.bodyType = some (utf16 anchorTraceBodyType)) (hRows : result.events ≠ []) :
    Wrapped K b ∧ ∃ checkpoints events, TraceRun K b options result checkpoints events := by
  rw [verifyEvidenceBundle_eq] at h
  by_cases hb : Wrapped K b
  · refine ⟨hb, ?_⟩
    rw [verifyBundle_of_wrapped hb] at h
    unfold verifyBody at h
    simp only at h
    split_ifs at h with hExport hTrace
    · rcases verifyExportBody_eq_ok h with ⟨source, attestations, run⟩ | ⟨-, -, -, hNone, -⟩
      · rw [run.result_eq] at hType
        exact absurd hType (by simp [finishExport, exportBodyType, anchorTraceBodyType])
      · exact (hRows hNone).elim
    · rcases verifyAnchorTrace_eq_ok h with ⟨checkpoints, events, run, -⟩ | hMalformed
      · exact ⟨checkpoints, events, run⟩
      · rw [hMalformed] at hRows
        exact (hRows rfl).elim
    · cases h
      exact (hRows rfl).elim
  · obtain ⟨other, hOther, -, -, hNone, -⟩ := verifyBundle_of_not_wrapped hb
      (fun inline => verifyEvidenceBundle K inline options) options
    rw [h] at hOther
    cases hOther
    exact (hRows hNone).elim

end Verified
end ArioProof
