import ArioProof.Evidence.AnchorTrace
import ArioProof.Foundation.Nesting

/-! The wrapper of a bundle, its export body and the entry point. An export
verifies its inline source with the whole verifier, so the definitions take the
verifier of the source as an argument and the knot is tied at the end. -/
namespace ArioProof

open Foundation

variable {ε : Type} (K : Kernel ε)

def matchesEvidenceMajor (specVersion : Json) : Bool :=
  match specVersion with
  | .str s => !s.isEmpty && evidenceMajors.any fun major => matchesMajor s major
  | _ => false

/-- A recomputed hash against the committed one, with the note of a mismatch. -/
def checkHash (value committed : Json) (mismatch shown failed : String) : Bool × List Str :=
  match K.canonical value with
  | .error text => (false, [fstring [failed, text]])
  | .ok canonical =>
      let recomputed := K.crypto.sha256Hex canonical
      let ok := committed.str? = some recomputed
      (ok, if ok then [] else
        [fstring [mismatch, shown, committed.str?.getD [], " recomputed=", recomputed]])

section Export

/-- The later entry under a transaction id replaces the earlier one. -/
def sourceCheckpoints (inline : Json) : List (Str × Json) :=
  ((inline.get "body").listAt "checkpoints").foldl (fun acc cp =>
    match cp.get "tx_id" with
    | .str txId => (txId, cp) :: acc
    | _ => acc) []

/-- The loop over the records, which stops at the first malformed one. -/
def verifyAttestations (sourceCheckpoints : List (Str × Json)) :
    List Json → Except ε (Except Str (List AttestationResult))
  | [] => .ok (.ok [])
  | rec :: rest => do
      match ← K.verifyAttestation rec sourceCheckpoints with
      | (_, some message) => return .error message
      | (result, none) =>
          match ← verifyAttestations sourceCheckpoints rest with
          | .error message => return .error message
          | .ok results => return .ok (result :: results)

def verdictAgreement (cached fresh : Json) : Bool × List Str :=
  let projections : Except Str (Bytes × Bytes) := do
    let cachedProjection ← K.canonical (projectVerdictForAgreement cached)
    let freshProjection ← K.canonical (projectVerdictForAgreement fresh)
    return (cachedProjection, freshProjection)
  match projections with
  | .error text => (false, [fstring ["verdict agreement comparison failed: ", text]])
  | .ok (cachedProjection, freshProjection) =>
      if cachedProjection = freshProjection then (true, [])
      else (false, ["recomputed verdict disagrees with the cached kernel_verdict (deterministic dimensions) — recompute-don't-trust"])

/-- What every result of an export body has in common. The wrapper holds by then,
and the rows and the details of the export are filled in by the caller. -/
def exportResult (status : Status) (specVersionOk : Bool) (assertedStatus : Option Str)
    (errors : List Str) : EvidenceBundleResult where
  status := status
  specVersionOk := specVersionOk
  bodyHashOk := true
  signatureOk := true
  bodyType := some exportBodyType
  onChainChecked := false
  checkpoints := []
  events := []
  assertedStatus := assertedStatus
  exported := none
  errors := errors

/-- The fields an export body cannot do without, in the order in which the source
asks for them. Their contents are checked later. -/
def exportComplaint (body : Json) : Option Str :=
  if !body.isObj then some "export body is not a JSON object"
  else if !(body.get "source_bundle_hash").isStr then
    some "export body missing source_bundle_hash"
  else if !(body.get "attestations").isArr then some "export body missing attestations[]"
  else if !(body.get "kernel_verdict").isObj then some "export body missing kernel_verdict"
  else none

/-- The recomputed verdict before its rollup is known. Its time is that of the
wrapper, where the wrapper states one as text. -/
def freshVerdict (b : Json) (source : EvidenceBundleResult)
    (attestations : List AttestationResult) : Json :=
  let verdict := buildVerdictObject source attestations
  match b.get "generated_at" with
  | .str generatedAt => verdict.set "as_of" (.str generatedAt)
  | _ => verdict

/-- The displayed verdict, once the rollup is known. Only the status and the
summary are replaced; the entries are those that were compared. -/
def displayVerdict (verdict : Json) (status : Status) (source : EvidenceBundleResult)
    (attestations : List AttestationResult) : Json :=
  (verdict.set "status" (.str status.wire)).set "summary"
    (.str (summarizeExport status source attestations))

/-- Steps 5 to 9 of an export, when every record could be read. -/
def finishExport (b : Json) (specVersionOk : Bool) (assertedStatus : Option Str)
    (errors : List Str) (sourceLinkageOk : Bool) (source : EvidenceBundleResult)
    (attestations : List AttestationResult) : EvidenceBundleResult :=
  let verdict := freshVerdict b source attestations
  let (verdictAgreementOk, agreementErrors) :=
    verdictAgreement K ((b.get "body").get "kernel_verdict") verdict
  let status := exportStatus sourceLinkageOk verdictAgreementOk source.status attestations
  { status := status
    specVersionOk := specVersionOk
    bodyHashOk := true
    signatureOk := true
    bodyType := some exportBodyType
    onChainChecked := source.onChainChecked
    checkpoints := source.checkpoints
    events := source.events
    assertedStatus := assertedStatus
    exported := some {
      sourceLinkageOk := sourceLinkageOk
      sourceStatus := source.status
      verdictAgreementOk := verdictAgreementOk
      attestations := attestations
      verdict := displayVerdict verdict status source attestations
      status := status }
    errors := errors ++ agreementErrors ++ source.errors.map fun e => fstring ["source: ", e] }

def verifyExportBody (verifySource : Json → Except ε EvidenceBundleResult) (b : Json)
    (specVersionOk : Bool) (assertedStatus : Option Str) (errors : List Str) :
    Except ε EvidenceBundleResult :=
  let body := b.get "body"
  match exportComplaint body with
  | some complaint =>
      .ok (exportResult .malformed specVersionOk assertedStatus (errors ++ [complaint]))
  | none =>
      match body.get "source_bundle" with
      | .null => .ok (exportResult .partly specVersionOk assertedStatus (errors ++
          [utf16 "source_bundle is not inline (source_bundle_ref) — bytes unavailable offline; source-dependent checks undetermined"]))
      | inline => do
          let (sourceLinkageOk, linkageErrors) := checkHash K inline (body.get "source_bundle_hash")
            "source_bundle_hash mismatch: " "body=" "source_bundle canonicalization failed: "
          let errors := errors ++ linkageErrors
          let source ← verifySource inline
          match ← verifyAttestations K (sourceCheckpoints inline) (body.listAt "attestations") with
          | .error message =>
              return exportResult .malformed specVersionOk assertedStatus (errors ++ [message])
          | .ok attestations =>
              return finishExport K b specVersionOk assertedStatus errors sourceLinkageOk source
                attestations

end Export

section Wrapper

/-- Step 1 of a verification: whether the wrapper can be read. -/
def wrapperComplaint (bundle : Json) : Option EvidenceBundleResult :=
  if !bundle.isObj then some (malformed "evidence bundle is not a JSON object" false)
  else if exceedsDepth bundle maxCanonicalDepth then
    some (malformed
      "evidence bundle nesting exceeds the 128-level canonicalization depth bound" false)
  else if !matchesEvidenceMajor (bundle.get "spec_version") then
    some (malformed (fstring
      ["unsupported evidence spec_version: ", K.quote (bundle.get? "spec_version")]) false)
  else if (bundle.get "signature_alg").isStr &&
      (bundle.get "signature_alg").str? ≠ some (utf16 "ed25519") then
    some (malformed (fstring
      ["unsupported signature_alg: ", K.quote (bundle.get? "signature_alg")]) true)
  else if !(bundle.get "public_key").isStr || !(bundle.get "signature").isStr then
    some (malformed "evidence bundle is missing public_key/signature" true)
  else if !(bundle.get "body_hash").isStr then
    some (malformed "evidence bundle is missing body_hash" true)
  else
    match bundle.get "body" with
    | .null => some (malformed
        "evidence bundle has no inline body (body_ref unsupported here)" true)
    | _ => none

/-- The signed scope of a wrapper: its members without the signature and the
co-signatures. -/
def bundleForSig (b : Json) : Json :=
  match b with
  | .obj members => .obj (members.filter fun (key, _) => !(unsignedFields.map utf16).contains key)
  | v => v

def checkWrapperSignature (b : Json) : Bool × List Str :=
  match K.canonical (bundleForSig b) with
  | .error text => (false, [fstring ["wrapper signature verification error: ", text]])
  | .ok message =>
      let signatureOk := K.verifySignature message (b.get "signature") (b.get "public_key")
      (signatureOk, if signatureOk then [] else ["wrapper Ed25519 signature verification failed"])

def assertedStatus (b : Json) : Option Str := ((b.get "verdict").get "status").str?

/-- The result of a wrapper whose body is not looked into. -/
def wrapperResult (b : Json) (status : Status) (bodyHashOk signatureOk : Bool)
    (errors : List Str) : EvidenceBundleResult where
  status := status
  specVersionOk := true
  bodyHashOk := bodyHashOk
  signatureOk := signatureOk
  bodyType := (b.get "body_type").str?
  onChainChecked := false
  checkpoints := []
  events := []
  assertedStatus := assertedStatus b
  exported := none
  errors := errors

/-- One level of the verifier: the wrapper, then the body by its type. The
verifier of an inline source is an argument. -/
def verifyBundle (options : Options) (verifySource : Json → Except ε EvidenceBundleResult)
    (bundle : Json) : Except ε EvidenceBundleResult :=
  match wrapperComplaint K bundle with
  | some result => .ok result
  | none =>
      let (bodyHashOk, hashErrors) := checkHash K (bundle.get "body") (bundle.get "body_hash")
        "body_hash mismatch: " "bundle=" "body canonicalization failed: "
      let (signatureOk, signatureErrors) := checkWrapperSignature K bundle
      let errors := hashErrors ++ signatureErrors
      let bodyType := (bundle.get "body_type").str?
      if !signatureOk || !bodyHashOk then
        .ok (wrapperResult bundle .failed bodyHashOk signatureOk errors)
      else if bodyType = some (utf16 exportBodyType) then
        verifyExportBody K verifySource bundle true (assertedStatus bundle) errors
      else if bodyType ≠ some (utf16 anchorTraceBodyType) then
        .ok (wrapperResult bundle .partly true true (errors ++ [fstring ["body_type ",
          K.quote (some ((bodyType.map .str).getD .null)),
          " is not verifiable by this kernel (only ", anchorTraceBodyType,
          "); wrapper verified, body undetermined"]]))
      else
        verifyAnchorTrace K bundle anchorTraceBodyType true (assertedStatus bundle) errors options

/-- The entry point. An inline source is nested less deeply than its export, so
the depth of the bundle bounds the nesting of exports. -/
def verifyEvidenceBundle (bundle : Json) (options : Options) : Except ε EvidenceBundleResult :=
  Nesting.close Json.depth (verifyBundle K options)
    (fun _ => .ok (malformed "evidence bundle is not a JSON object" false)) bundle

end Wrapper
end ArioProof
