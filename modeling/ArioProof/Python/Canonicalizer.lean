import ArioProof.Evidence.BundleRun
import ArioProof.Python.Attestation
import ArioProof.Python.ProofBundle

/-! The verifiers over any canonicalizer in the place of `canonical_json`. Each is
the verifier itself with the call exchanged, so that a run can be compared with
the run that has no nesting guard: on an argument of bounded depth a verifier
canonicalizes nothing beyond the bound. -/
namespace ArioProof.Python

open Foundation

variable (R : Runtime)

/-- `canonical_json` without its guard: the package itself, with its exceptions
passed on. -/
def unguardedJson (v : Json) : Except Exc Bytes := (R.jcs v).mapError .library

/-- Within the depth bound the guarded canonicalizer is the one without a
guard. -/
theorem canonicalJson_of_depth {v : Json} (h : v.depth ≤ maxCanonicalDepth) :
    canonicalJson R v = unguardedJson R v := by
  rw [canonicalJson, (exceedsDepth_eq_false_iff v maxCanonicalDepth).mpr h]
  rfl

/-- The signed scope of an envelope leaves members out and adds no nesting. -/
theorem depth_envelopeForSignature_le (v : Json) : (envelopeForSignature v).depth ≤ v.depth := by
  have hSame : envelopeForSignature v = v.restrict fun key =>
      !(unsignedFields.map utf16).contains key &&
        !(stripsAnnotations v && (utf16 "_").isPrefixOf key) := by
    cases v <;> rfl
  rw [hSame]
  exact Json.depth_restrict_le v _

namespace Over

variable (canonicalize : Json → Except Exc Bytes)

section Definitions

/-- The checks of the `payload_hash`: against the inline payload, where there is
one, and against the supplied bytes. -/
def payloadChecks (envelope : Json) (payloadBytes : Option Bytes) (storedHash : Str) :
    List Bool × List Str :=
  let inline : List Bool × List Str :=
    match envelope.get? "payload" with
    | none => ([], [])
    | some payload =>
        match canonicalize payload with
        | .ok canonical => ([sha256Hex R canonical = storedHash], [])
        | .error _ => ([false], ["payload is not JCS-canonicalizable"])
  let supplied : List Bool :=
    match payloadBytes with
    | none => []
    | some bytes => [sha256Hex R bytes = storedHash]
  (inline.1 ++ supplied, inline.2)

/-- The `payload_hash` of an envelope, which every profile has to carry. Nothing
is checked where there is neither a payload nor bytes. -/
def checkPayload (envelope : Json) (payloadBytes : Option Bytes) : Option Bool × List Str :=
  match (envelope.get "payload_hash").str? with
  | none =>
      (some false, ["missing payload_hash (envelope-spec §2: required in every profile)"])
  | some storedHash =>
      let (checks, errors) := payloadChecks R canonicalize envelope payloadBytes storedHash
      let payloadHashOk := if checks.isEmpty then none else some (checks.all id)
      (payloadHashOk,
        if payloadHashOk = some false ∧ errors.isEmpty then
          ["payload_hash does not match the committed bytes"]
        else errors)

/-- The Ed25519 signature over the canonical bytes of the signed scope, which is
where the canonicalizer enters. -/
def checkSignature (envelope : Json) : Bool :=
  match canonicalize (envelopeForSignature envelope) with
  | .ok message =>
      verifySignature R message ((envelope.get? "signature").getD (.str []))
        ((envelope.get? "public_key").getD (.str []))
  | .error _ => false

/-- An envelope run over a canonicalizer: the version, the payload, the signature
and the content hash, each with its notes. -/
def verifyEnvelope (envelope : Json) (payloadBytes : Option Bytes)
    (expectedContentHash : Option Str) (allowLegacy : Bool) : VerificationResult :=
  if !envelope.isObj then
    { ok := false
      specVersionOk := false
      payloadHashOk := none
      signatureOk := false
      contentHashOk := if expectedContentHash = none then none else some false
      contentRole := none
      legacyEnvelope := false
      errors := ["envelope is not a JSON object"] }
  else
    let (specVersionOk, legacy, specErrors) := checkSpecVersion R envelope allowLegacy
    let (payloadHashOk, payloadErrors) := checkPayload R canonicalize envelope payloadBytes
    let signatureOk := checkSignature R canonicalize envelope
    let (contentHashOk, contentRole, contentErrors) := checkContent R envelope expectedContentHash
    { ok := specVersionOk && signatureOk && payloadHashOk != some false
      specVersionOk := specVersionOk
      payloadHashOk := payloadHashOk
      signatureOk := signatureOk
      contentHashOk := contentHashOk
      contentRole := contentRole
      legacyEnvelope := legacy
      errors := specErrors ++ payloadErrors ++
        (if signatureOk then [] else [utf16 "Ed25519 signature verification failed"]) ++
        contentErrors }

/-- The envelope of a checkpoint entry, verified with the record bytes that the
entry carries. -/
def checkpointEnvelope (cp : Json) : VerificationResult :=
  verifyEnvelope R canonicalize (cp.get "envelope") (decodeRecord R "checkpoint" cp).1 none false

/-- The checks of a checkpoint entry: its envelope, which its record has to bind
to, and the committed root against the entry's own. -/
def checkCheckpoint (cp : Json) : Bool × Bool × List Str :=
  let (recordBytes, recordErrors) := decodeRecord R "checkpoint" cp
  let res := checkpointEnvelope R canonicalize cp
  let (merkleRootOk, rootErrors) := checkMerkleRoot R cp recordBytes
  (res.ok && res.payloadHashOk = some true, merkleRootOk,
    recordErrors ++
      (if res.signatureOk then [] else [utf16 "checkpoint envelope signature failed"]) ++
      (if res.payloadHashOk = some false then
        [utf16 "checkpoint record does not bind to payload_hash"] else []) ++
      (if res.payloadHashOk = none then
        [utf16 "checkpoint record_bytes missing — root untrusted"] else []) ++ rootErrors)

/-- The inclusion proof of an event against the root of the checkpoint it names,
and its leaf hash against the envelope of the event. -/
def checkInclusion (ev incl cp : Json) : Bool × List Str :=
  match walkInclusion R incl cp with
  | .error exc => (false, [fstring ["inclusion verify error: ", exc.text]])
  | .ok inclusionOk =>
      let walkErrors : List Str :=
        if inclusionOk then []
        else ["RFC 9162 inclusion proof did not reconstruct the checkpoint root"]
      match canonicalize (ev.get "envelope") with
      | .error exc => (inclusionOk, walkErrors ++ [fstring ["inclusion verify error: ", exc.text]])
      | .ok canonical =>
          let expectedLeafHex := Hex.encode (leafHash R canonical)
          if expectedLeafHex ≠ lower R ((incl.get "leaf_hash").str?.getD []) then
            (false, walkErrors ++
              [utf16 "inclusion leaf_hash does not match SHA-256(0x00 || JCS(event envelope))"])
          else (inclusionOk, walkErrors)

/-- The envelope of an event entry, verified with the record bytes that the entry
carries, if they are not withheld. -/
def eventEnvelope (ev : Json) : VerificationResult :=
  verifyEnvelope R canonicalize (ev.get "envelope") (decodeRecord R "event" ev).1 none false

/-- The checks of an event entry: its envelope, and its record bytes against the
`payload_hash`, where they are not withheld. -/
def checkEvent (ev : Json) : Bool × Option Bool × List Str :=
  let res := eventEnvelope R canonicalize ev
  (res.ok, res.payloadHashOk,
    (decodeRecord R "event" ev).2 ++
      (if res.signatureOk then [] else [utf16 "event envelope signature failed"]) ++
      (if res.payloadHashOk = some false then
        [utf16 "event record does not bind to payload_hash"] else []))

/-- The bytes that a gateway has to answer with: the canonical form of the
envelope, where there is one. -/
def expectedBytes (cp : Json) : Option Bytes :=
  match canonicalize (cp.get "envelope") with
  | .ok bytes => some bytes
  | .error _ => none

/-- The data hash of a record against the content hash of the checkpoint that it
names, which is recomputed from the envelope. -/
def bindDataHash (payload : Json) (txId : Str) (cp : Option Json) : Bool × List Str :=
  match cp with
  | none => (false, [fstring ["attestation checkpoint_tx_id ", R.repr (.str txId),
      " resolves to no source checkpoint"]])
  | some cp =>
      match canonicalize (cp.get "envelope") with
      | .error exc => (false, [fstring ["cannot recompute checkpoint content hash: ", exc.text]])
      | .ok canonical =>
          let committed := sha256Hex R canonical
          let dataHash := payloadDataHash R payload
          let bound := !dataHash.isEmpty && dataHash = committed
          (bound, if bound then [] else
            [fstring ["data_hash does not bind to the checkpoint's committed content hash: data_hash=",
              dataHash, " committed=", committed]])

/-- A record of an export: its shape, its signature, the operator it names and the
checkpoint it binds to. -/
def verifyAttestation (rec : Json) (sourceCheckpoints : List (Str × Json)) :
    Except Exc (AttestationResult × Option Str) :=
  match attestationComplaint (quote R) rec with
  | some complaint => .ok (emptyAttestation rec, some complaint)
  | none =>
      let payload := rec.get "payload"
      let pub := rec.get "public_key"
      let result := labelled payload (emptyAttestation rec)
      match canonicalize payload with
      | .error exc =>
          .ok (result, some (fstring ["attestation payload canonicalization failed: ", exc.text]))
      | .ok payloadBytes =>
          match verifyRsaPssSha256 R payloadBytes (rec.get "signature") pub with
          | .error (.malformedRsaError text) => .ok (result, some (fstring ["attestation ", text]))
          | .error exc => .error exc
          | .ok signatureOk =>
              let result := { result with
                signatureOk := signatureOk
                errors := if signatureOk then [] else
                  [utf16 "attestation RSA-PSS signature verification failed"] }
              match deriveOperatorAddress R (pub.get "n") with
              | .error (.malformedRsaError text) =>
                  .ok (result, some (fstring ["attestation operator key: ", text]))
              | .error exc => .error exc
              | .ok derived =>
                  let operatorAddressBound := !result.operator.isEmpty && derived = result.operator
                  let cp := sourceCheckpoints.lookup result.checkpointTxId
                  let (dataHashBound, dataErrors) :=
                    bindDataHash R canonicalize payload result.checkpointTxId cp
                  let (subjectRefOk, subjectErrors) :=
                    evaluateSubjectRef isSha256Hex (payload.get "subject_ref")
                  .ok ({ result with
                    operatorAddressBound := operatorAddressBound
                    dataHashBound := dataHashBound
                    checkpointResolved := cp.isSome
                    subjectRefOk := subjectRefOk
                    ok := signatureOk && operatorAddressBound && dataHashBound && cp.isSome
                    errors := result.errors ++
                      (if operatorAddressBound then [] else
                        [fstring ["operator-address binding failed: derived=", derived,
                          " payload.operator=", result.operator]]) ++
                      dataErrors ++ subjectErrors }, none)

/-- The parts of the Python kernel that canonicalize, over a canonicalizer that is
given. The other parts are the kernel's own. -/
def kernel : Kernel Exc :=
  { Python.kernel R with
    canonical := fun v => (canonicalize v).mapError Exc.text
    checkCheckpoint := checkCheckpoint R canonicalize
    checkEvent := checkEvent R canonicalize
    checkInclusion := checkInclusion R canonicalize
    expectedBytes := expectedBytes canonicalize
    verifyAttestation := verifyAttestation R canonicalize }

/-- The evidence verifier over a canonicalizer that is given; with `canonicalJson`
it is the verifier of the repository. -/
def verifyEvidenceBundle (bundle : Json) (options : Options) : Except Exc EvidenceBundleResult :=
  ArioProof.verifyEvidenceBundle (kernel R canonicalize) bundle options

/-- The inclusion of a proof bundle whose envelope was looked at, under the root
that the payload of the checkpoint commits to. -/
def checkProof (bundle : Json) (envResult : VerificationResult) : BundleVerificationResult :=
  let errors := envResult.errors ++
    (if envResult.ok then [] else [utf16 "checkpoint envelope verification failed"])
  let fail (error : Str) := failBundle (errors ++ [error]) true (some envResult)
  match canonicalize (bundle.get "leaf") with
  | .error _ => fail "leaf is not JCS-canonicalizable"
  | .ok canonical =>
      let payload := (bundle.get "checkpoint_envelope").get "payload"
      if !payload.isObj then fail "checkpoint envelope payload missing or wrong shape"
      else
        match payload.get "leaf_count" with
        | .int leafCount =>
            match proofOperands payload bundle with
            | none => fail "merkle_root / audit_path / leaf_index malformed"
            | some (expectedRoot, path, leafIndex) =>
                let inclusionOk :=
                  verifyInclusion R (leafHash R canonical) leafIndex leafCount path expectedRoot
                { ok := envResult.ok && inclusionOk
                  specVersionOk := true
                  envelope := some envResult
                  inclusionOk := inclusionOk
                  errors := errors ++ (if inclusionOk then [] else
                    [utf16 "audit_path does not reconstruct merkle_root"]) }
        | _ => fail "checkpoint payload.leaf_count missing or wrong type"

/-- The proof-bundle verifier over a canonicalizer that is given; with
`canonicalJson` it is the verifier of the repository. -/
def verifyProofBundle (bundle : Json) : BundleVerificationResult :=
  if !bundle.isObj then failBundle ["bundle is not a JSON object"] false none
  else if exceedsDepth bundle maxCanonicalDepth then
    failBundle ["bundle nesting exceeds the 128-level canonicalization depth bound"] false none
  else if (bundle.get "spec_version").str? ≠ some (utf16 bundleSpecVersion) then
    failBundle [fstring ["unsupported bundle spec_version: ", R.repr (bundle.get "spec_version")]]
      false none
  else if !(bundle.get "checkpoint_envelope").isObj then
    failBundle ["bundle missing checkpoint_envelope"] true none
  else if !(bundle.get "leaf").isObj then failBundle ["bundle missing leaf"] true none
  else if ((bundle.get "checkpoint_tx_id").str?.getD []).isEmpty then
    failBundle ["bundle missing checkpoint_tx_id"] true none
  else
    checkProof R canonicalize bundle
      (verifyEnvelope R canonicalize (bundle.get "checkpoint_envelope") none none false)

end Definitions

/-- With `canonical_json` in its place a verifier is the verifier. -/
theorem verifyEvidenceBundle_canonicalJson :
    verifyEvidenceBundle R (canonicalJson R) = Python.verifyEvidenceBundle R := rfl

theorem verifyProofBundle_canonicalJson :
    verifyProofBundle R (canonicalJson R) = Python.verifyProofBundle R := rfl

section Within

variable {R} {first second : Json → Except Exc Bytes}
  (hSame : ∀ v, v.depth ≤ maxCanonicalDepth → first v = second v)
include hSame

/-- The one call that these checks make is that of the inline payload, which is
part of the envelope. -/
theorem payloadChecks_within {envelope : Json} (h : envelope.depth ≤ maxCanonicalDepth)
    (payloadBytes : Option Bytes) (storedHash : Str) :
    payloadChecks R first envelope payloadBytes storedHash =
      payloadChecks R second envelope payloadBytes storedHash := by
  unfold payloadChecks
  cases hPayload : envelope.get? "payload" with
  | none => rfl
  | some payload => simp only [hSame payload ((Json.depth_lt_of_get? hPayload).le.trans h)]

/-- The signed scope is nested no more deeply than the envelope it is taken
from. -/
theorem checkSignature_within {envelope : Json} (h : envelope.depth ≤ maxCanonicalDepth) :
    checkSignature R first envelope = checkSignature R second envelope := by
  unfold checkSignature
  rw [hSame _ ((depth_envelopeForSignature_le envelope).trans h)]

/-- An envelope run calls the canonicalizer on the payload and the signed scope
only. -/
theorem verifyEnvelope_within {envelope : Json} (h : envelope.depth ≤ maxCanonicalDepth)
    (payloadBytes : Option Bytes) (expected : Option Str) (allowLegacy : Bool) :
    verifyEnvelope R first envelope payloadBytes expected allowLegacy =
      verifyEnvelope R second envelope payloadBytes expected allowLegacy := by
  unfold verifyEnvelope checkPayload
  simp only [payloadChecks_within hSame h, checkSignature_within hSame h]

/-- The one call that a checkpoint makes is that of its envelope, which is part of
the entry. -/
theorem checkCheckpoint_within {cp : Json} (h : cp.depth ≤ maxCanonicalDepth) :
    checkCheckpoint R first cp = checkCheckpoint R second cp := by
  unfold checkCheckpoint checkpointEnvelope
  rw [verifyEnvelope_within hSame ((depth_get_le cp "envelope").trans h)]

/-- The one call that an event makes here is that of its envelope, which is part
of the entry. -/
theorem checkEvent_within {ev : Json} (h : ev.depth ≤ maxCanonicalDepth) :
    checkEvent R first ev = checkEvent R second ev := by
  unfold checkEvent eventEnvelope
  rw [verifyEnvelope_within hSame ((depth_get_le ev "envelope").trans h)]

/-- An inclusion proof canonicalizes the envelope of its event, and nothing of the
proof or of the checkpoint. -/
theorem checkInclusion_within {ev : Json} (h : ev.depth ≤ maxCanonicalDepth) (incl cp : Json) :
    checkInclusion R first ev incl cp = checkInclusion R second ev incl cp := by
  unfold checkInclusion
  rw [hSame _ ((depth_get_le ev "envelope").trans h)]

/-- What a gateway has to answer with is computed from the envelope of the entry
alone. -/
theorem expectedBytes_within {cp : Json} (h : cp.depth ≤ maxCanonicalDepth) :
    expectedBytes first cp = expectedBytes second cp := by
  unfold expectedBytes
  rw [hSame _ ((depth_get_le cp "envelope").trans h)]

/-- A record canonicalizes its payload, and its binding the envelope of a
checkpoint of the source. -/
theorem verifyAttestation_within {rec : Json} (h : rec.depth ≤ maxCanonicalDepth)
    {checkpoints : List (Str × Json)}
    (hCheckpoints : ∀ txId cp, checkpoints.lookup txId = some cp → cp.depth ≤ maxCanonicalDepth) :
    verifyAttestation R first rec checkpoints = verifyAttestation R second rec checkpoints := by
  have hBind (payload : Json) (txId other : Str) :
      bindDataHash R first payload txId (checkpoints.lookup other) =
        bindDataHash R second payload txId (checkpoints.lookup other) := by
    cases hCp : checkpoints.lookup other with
    | none => rfl
    | some cp =>
        unfold bindDataHash
        simp only [hSame _ ((depth_get_le cp "envelope").trans (hCheckpoints other cp hCp))]
  unfold verifyAttestation
  simp only [hSame _ ((depth_get_le rec "payload").trans h), hBind]

/-- Nothing that is canonicalized to verify a proof lies deeper than the bundle. -/
theorem verifyProofBundle_within {bundle : Json} (h : bundle.depth ≤ maxCanonicalDepth) :
    verifyProofBundle R first bundle = verifyProofBundle R second bundle := by
  unfold verifyProofBundle checkProof
  simp only [hSame _ ((depth_get_le bundle "leaf").trans h),
    verifyEnvelope_within hSame ((depth_get_le bundle "checkpoint_envelope").trans h)]

end Within

end Over
end ArioProof.Python
