import ArioProof.Evidence.BundleRun
import ArioProof.Foundation.Outcome
import ArioProof.TypeScript.AgentProof

/-! The verifiers over any canonicalizer in the place of `jcs`. Each is the verifier
itself with the call exchanged, as in the other language. What a gateway answers
is canonicalized too and is no part of the bundle. -/
namespace ArioProof.TypeScript

open Foundation

variable (R : Runtime)

/-- `jcs` without its nesting guard: lone surrogates are still rejected in front
of the package. -/
def unguardedJcs : Option Json → Except Str Str
  | none => .error "jcs: canonicalize returned a non-string (input not JSON-serializable?)"
  | some value => do
      rejectLoneSurrogates value
      R.canonicalize value

/-- Within the depth bound the guarded canonicalizer is the one without a
guard. -/
theorem jcs_of_depth {v : Json} (h : v.depth ≤ maxCanonicalDepth) :
    jcs R (some v) = unguardedJcs R (some v) := by
  rw [jcs, (exceedsDepth_eq_false_iff v maxCanonicalDepth).mpr h]
  rfl

/-- The signed scope of an envelope leaves members out and adds no nesting. -/
theorem depth_envelopeForSig_le (v : Json) : (envelopeForSig v).depth ≤ v.depth := by
  have hSame : envelopeForSig v =
      v.restrict fun key => !(unsignedFields.map utf16).contains key := by
    cases v <;> rfl
  rw [hSame]
  exact Json.depth_restrict_le v _

namespace Over

variable (canonicalize : Option Json → Except Str Str)

section Definitions

/-- The inline payload of an envelope, where there is one, against its
`payload_hash`. -/
def checkInline (env : Json) (payloadHash : Str) : List Bool × List Str :=
  match env.get? "payload" with
  | none => ([], [])
  | some payload =>
      match canonicalize (some payload) with
      | .error text => ([false], [fstring ["payload canonicalization failed: ", text]])
      | .ok canonical =>
          let recomputed := sha256Hex R (utf8 canonical)
          let ok := recomputed = payloadHash
          ([ok], if ok then [] else [fstring
            ["payload_hash mismatch: envelope=", payloadHash, " recomputed=", recomputed]])

/-- The `payload_hash` against the inline payload and against the supplied bytes.
Nothing is checked where there is neither. -/
def checkPayload (env : Json) (payloadBytes : Option Bytes) : Option Bool × List Str :=
  match env.get "payload_hash" with
  | .str payloadHash =>
      let (inline, inlineErrors) := checkInline R canonicalize env payloadHash
      let (external, externalErrors) := checkExternal R payloadBytes payloadHash
      let checks := inline ++ external
      (if checks.isEmpty then none else some (checks.all id), inlineErrors ++ externalErrors)
  | _ => (some false, ["missing payload_hash (envelope-spec §2: required in every profile)"])

/-- The Ed25519 signature over the canonical bytes of the signed scope, which is
where the canonicalizer enters. -/
def checkSignature (env : Json) : Bool × List Str :=
  match canonicalize (some (envelopeForSig env)) with
  | .error text => (false, [fstring ["signature verification error: ", text]])
  | .ok message =>
      let signatureOk := ed25519Verify R (env.get? "signature") (utf8 message)
        (env.get? "public_key")
      (signatureOk, if signatureOk then [] else ["Ed25519 signature verification failed"])

/-- An envelope run over a canonicalizer: the version, the payload, the signature
and the content hash, each with its notes. -/
def verifyEnvelope (env : Option Json) (payloadBytes : Option Bytes)
    (expectedContentHash : Option Str) : VerificationResult :=
  let env := env.getD .null
  if !env.isObj then
    { ok := false
      specVersionOk := false
      payloadHashOk := some false
      signatureOk := false
      contentHashOk := if expectedContentHash = none then none else some false
      contentRole := none
      errors := ["envelope is not a JSON object"] }
  else
    let specVersionOk := specVersionSupported (env.get "spec_version")
    let (payloadHashOk, payloadErrors) := checkPayload R canonicalize env payloadBytes
    let (signatureOk, signatureErrors) := checkSignature R canonicalize env
    let (contentHashOk, contentRole, contentErrors) := checkContent R env expectedContentHash
    { ok := specVersionOk && signatureOk && payloadHashOk != some false
      specVersionOk := specVersionOk
      payloadHashOk := payloadHashOk
      signatureOk := signatureOk
      contentHashOk := contentHashOk
      contentRole := contentRole
      errors := (if specVersionOk then [] else
          [fstring ["unsupported spec_version: ", quote R (env.get? "spec_version")]]) ++
        payloadErrors ++ signatureErrors ++ contentErrors }

/-- The envelope of a checkpoint entry, verified with the record bytes that the
entry carries. -/
def checkpointEnvelope (cp : Json) : VerificationResult :=
  verifyEnvelope R canonicalize (cp.get? "envelope") (decodeRecord R "checkpoint" cp).1 none

/-- The checks of a checkpoint entry: its envelope, which its record has to bind
to, and the committed root against the entry's own. -/
def checkCheckpoint (cp : Json) : Bool × Bool × List Str :=
  let (recordBytes, recordErrors) := decodeRecord R "checkpoint" cp
  let res := checkpointEnvelope R canonicalize cp
  let (merkleRootOk, rootErrors) := checkMerkleRoot R cp recordBytes
  (res.ok && res.payloadHashOk = some true, merkleRootOk,
    recordErrors ++
      (if res.signatureOk then [] else [utf16 "checkpoint envelope signature failed"]) ++
      (if res.payloadHashOk = some false then
        [utf16 "checkpoint record does not bind to payload_hash"] else []) ++
      (if res.payloadHashOk = none then
        [utf16 "checkpoint record_bytes missing — root untrusted"] else []) ++ rootErrors)

/-- The bytes that a gateway has to answer with: the canonical form of the
envelope, where there is one. -/
def expectedBytes (cp : Json) : Option Bytes :=
  match canonicalize (cp.get? "envelope") with
  | .ok canonical => some (utf8 canonical)
  | .error _ => none

def eventEnvelope (ev : Json) : VerificationResult :=
  verifyEnvelope R canonicalize (ev.get? "envelope") (decodeRecord R "event" ev).1 none

/-- The checks of an event entry: its envelope, and its record bytes against the
`payload_hash`, where they are not withheld. -/
def checkEvent (ev : Json) : Bool × Option Bool × List Str :=
  let res := eventEnvelope R canonicalize ev
  (res.ok, res.payloadHashOk,
    (decodeRecord R "event" ev).2 ++
      (if res.signatureOk then [] else [utf16 "event envelope signature failed"]) ++
      (if res.payloadHashOk = some false then
        [utf16 "event record does not bind to payload_hash"] else []))

/-- The leaf hash that an event claims against the one recomputed from its
envelope. -/
def compareLeaf (ev incl : Json) : Except Str Bool := do
  let canonical ← canonicalize (ev.get? "envelope")
  let expectedLeafHex := Hex.encode (leafHash R (utf8 canonical))
  match incl.get "leaf_hash" with
  | .null => return expectedLeafHex = toLowerCase R []
  | .str s => return expectedLeafHex = toLowerCase R s
  | _ => .error "(incl.leaf_hash ?? \"\").toLowerCase is not a function"

/-- The inclusion proof of an event against the root of the checkpoint it names,
and its leaf hash against the envelope of the event. -/
def checkInclusion (ev incl cp : Json) : Bool × List Str :=
  match walkInclusion R incl cp with
  | .error text => (false, [fstring ["inclusion verify error: ", text]])
  | .ok inclusionOk =>
      let walkErrors : List Str :=
        if inclusionOk then []
        else ["RFC 9162 inclusion proof did not reconstruct the checkpoint root"]
      match compareLeaf R canonicalize ev incl with
      | .error text => (inclusionOk, walkErrors ++ [fstring ["inclusion verify error: ", text]])
      | .ok true => (inclusionOk, walkErrors)
      | .ok false => (false, walkErrors ++
          [utf16 "inclusion leaf_hash does not match SHA-256(0x00 || JCS(event envelope))"])

/-- The data hash of a record against the content hash of the checkpoint that it
names, which is recomputed from the envelope. -/
def bindDataHash (payload : Json) (txId : Str) (cp : Option Json) : Bool × List Str :=
  match cp with
  | none => (false, [fstring ["attestation checkpoint_tx_id ", R.stringify (.str txId),
      " resolves to no source checkpoint"]])
  | some cp =>
      match canonicalize (cp.get? "envelope") with
      | .error text => (false, [fstring ["cannot recompute checkpoint content hash: ", text]])
      | .ok canonical =>
          let committed := sha256Hex R (utf8 canonical)
          let dataHash := payloadDataHash R payload
          let bound := !dataHash.isEmpty && dataHash = committed
          (bound, if bound then [] else
            [fstring ["data_hash does not bind to the checkpoint's committed content hash: data_hash=",
              dataHash, " committed=", committed]])

/-- A record of an export: its shape, its signature, the operator it names and the
checkpoint it binds to. -/
def verifyAttestation (rec : Json) (sourceCheckpoints : List (Str × Json)) :
    AttestationResult × Option Str :=
  match attestationComplaint (quote R) rec with
  | some complaint => (emptyAttestation rec, some complaint)
  | none =>
      let payload := rec.get "payload"
      let rsaKey : RsaKey := ⟨((rec.get "public_key").get "n").str?.getD [],
        ((rec.get "public_key").get "e").str?.getD []⟩
      let result := labelled payload (emptyAttestation rec)
      match canonicalize (some payload) with
      | .error text =>
          (result, some (fstring ["attestation payload canonicalization failed: ", text]))
      | .ok canonical =>
          match verifyRsaPssSha256 R (utf8 canonical) ((rec.get "signature").str?.getD []) rsaKey with
          | .error text => (result, some (fstring ["attestation ", text]))
          | .ok signatureOk =>
              let result := { result with
                signatureOk := signatureOk
                errors := if signatureOk then [] else
                  [utf16 "attestation RSA-PSS signature verification failed"] }
              match deriveOperatorAddress R rsaKey.n with
              | .error text => (result, some (fstring ["attestation operator key: ", text]))
              | .ok derived =>
                  let operatorAddressBound := !result.operator.isEmpty && derived = result.operator
                  let cp := sourceCheckpoints.lookup result.checkpointTxId
                  let (dataHashBound, dataErrors) :=
                    bindDataHash R canonicalize payload result.checkpointTxId cp
                  let (subjectRefOk, subjectErrors) :=
                    evaluateSubjectRef isSha256Hex (payload.get "subject_ref")
                  ({ result with
                    operatorAddressBound := operatorAddressBound
                    dataHashBound := dataHashBound
                    checkpointResolved := cp.isSome
                    subjectRefOk := subjectRefOk
                    ok := signatureOk && operatorAddressBound && dataHashBound && cp.isSome
                    errors := result.errors ++
                      (if operatorAddressBound then [] else
                        [fstring ["operator-address binding failed: derived=", derived,
                          " payload.operator=", result.operator]]) ++
                      dataErrors ++ subjectErrors }, none)

/-- The parts of the TypeScript kernel that canonicalize, over a canonicalizer
that is given. The other parts are the kernel's own. -/
def kernel : Kernel Str :=
  { TypeScript.kernel R with
    canonical := fun v => (canonicalize (some v)).map utf8
    checkCheckpoint := checkCheckpoint R canonicalize
    checkEvent := checkEvent R canonicalize
    checkInclusion := checkInclusion R canonicalize
    expectedBytes := expectedBytes canonicalize
    verifyAttestation := fun rec checkpoints =>
      .ok (verifyAttestation R canonicalize rec checkpoints) }

/-- The evidence verifier over a canonicalizer that is given; with `jcs` it is the
verifier of the repository. -/
def verifyEvidenceBundle (bundle : Json) (options : Options) : Except Str EvidenceBundleResult :=
  ArioProof.verifyEvidenceBundle (kernel R canonicalize) bundle options

/-- The checkpoint of an agent proof: its envelope, whose payload has to be
inline, and the two members that the walk needs. -/
def checkCheckpointEnvelope (b : Json) : Bool × List Str :=
  let res := verifyEnvelope R canonicalize (b.get? "checkpoint_envelope") none none
  (res.ok && res.payloadHashOk = some true,
    (if res.signatureOk then [] else [utf16 "checkpoint envelope signature failed"]) ++
      (if res.payloadHashOk = some true then []
        else [utf16 "checkpoint envelope payload binding failed"]) ++
      (if (committedRoot b).isSome then []
        else [utf16 "checkpoint payload missing merkle_root"]) ++
      (if (committedCount b).isSome then []
        else [utf16 "checkpoint payload missing leaf_count"]))

/-- The walk from the leaf of an agent proof, which is hashed from its canonical
bytes. -/
def walkLeaf (b : Json) (merkleRoot : Str) : Except Str Bool := do
  let canonical ← canonicalize (b.get? "leaf")
  let path ← (b.listAt "audit_path").mapM fun h => hexToBytes R (some h)
  let root ← hexToBytes R (some (.str merkleRoot))
  verifyInclusion R (leafHash R (utf8 canonical)) (b.get? "leaf_index")
    (((b.get "checkpoint_envelope").get "payload").get? "leaf_count") path root

/-- The inclusion of an agent proof: the walk and its notes, with what it throws
among them. -/
def checkLeaf (b : Json) : Bool × List Str :=
  match committedRoot b, committedCount b with
  | some merkleRoot, some _ =>
      match walkLeaf R canonicalize b merkleRoot with
      | .error text => (false, [fstring ["inclusion verify error: ", text]])
      | .ok true => (true, [])
      | .ok false =>
          (false, [utf16 "RFC 9162 inclusion proof did not reconstruct merkle_root"])
  | _, _ => (false, [])

/-- Whether fetched bytes are those of the envelope, as they are or once
canonicalized. -/
def matchesEnvelope (expected onChain : Bytes) : Bool :=
  onChain = expected ||
    match (do
      let parsed ← R.jsonParse onChain
      let canonical ← canonicalize (some parsed)
      return utf8 canonical : Except Str Bytes) with
    | .ok canonical => canonical = expected
    | .error _ => false

/-- The loop over the gateways of an agent proof, which ends at the first answer
with a body. -/
def refetchLoop (expected : Bytes) (txId : Option Json) (fetchImpl : FetchImpl)
    (anyReachable : Bool) (requests : List Str) : List Str → Except Str RefetchResult
  | [] => do
      let shown ← display R txId
      if anyReachable then
        return ⟨some false, false,
          some (fstring ["checkpoint ", shown, " mismatched on every gateway"])⟩
      else
        return ⟨none, true, some (fstring ["checkpoint ", shown, " unreachable on all gateways"])⟩
  | gateway :: rest => do
      let shown ← display R txId
      let url := fstring [rstripSlash gateway, "/", shown]
      match fetchImpl requests url with
      | .rejected | .notOk =>
          refetchLoop expected txId fetchImpl anyReachable (requests ++ [url]) rest
      | .unreadable => refetchLoop expected txId fetchImpl true (requests ++ [url]) rest
      | .body onChain =>
          if matchesEnvelope R canonicalize expected onChain then return ⟨some true, false, none⟩
          else
            return ⟨some false, false, some (fstring
              ["on-chain bytes at ", shown, " do not match the checkpoint envelope"])⟩

/-- The re-fetch of an agent proof, whose expected bytes are the canonical form of
its envelope. -/
def refetch (envelope txId : Option Json) (gateways : List Str) (fetchImpl : FetchImpl) :
    Except Str RefetchResult :=
  match canonicalize envelope with
  | .error text => .ok ⟨some false, false,
      some (fstring ["cannot canonicalize checkpoint envelope: ", text])⟩
  | .ok canonical => refetchLoop R canonicalize (utf8 canonical) txId fetchImpl false [] gateways

def checkOnChain (b : Json) (options : VerifyAgentProofOptions) : Except Str RefetchResult :=
  if options.gateways.isEmpty then .ok ⟨none, false, none⟩
  else
    match options.fetchImpl with
    | none => .ok ⟨none, true,
        some "on-chain re-fetch requested but no fetch implementation is available"⟩
    | some fetchImpl =>
        refetch R canonicalize (b.get? "checkpoint_envelope") (b.get? "checkpoint_tx_id")
          options.gateways fetchImpl

/-- The agent-proof verifier over a canonicalizer that is given; with `jcs` it is
the verifier of the repository. -/
def verifyAgentProofBundle (bundle : Json) (options : VerifyAgentProofOptions) :
    Except Str AgentProofResult :=
  match agentProofComplaint R bundle with
  | some complaint => .ok (malformedAgentProof complaint)
  | none => do
      let (checkpointOk, checkpointErrors) := checkCheckpointEnvelope R canonicalize bundle
      let (inclusionOk, inclusionErrors) := checkLeaf R canonicalize bundle
      let outcome ← checkOnChain R canonicalize bundle options
      return {
        status := agentProofStatus checkpointOk inclusionOk outcome
        checkpointOk := checkpointOk
        inclusionOk := inclusionOk
        onChainOk := outcome.ok
        onChainChecked := !options.gateways.isEmpty
        leafIndex := (number? (bundle.get "leaf_index")).getD (.finite (-1))
        leafCount := committedCount bundle
        checkpointTxId := (bundle.get "checkpoint_tx_id").str?
        errors := checkpointErrors ++ inclusionErrors ++ outcome.error.toList }

end Definitions

/-- With `jcs` in its place a verifier is the verifier. -/
theorem verifyEvidenceBundle_jcs :
    verifyEvidenceBundle R (jcs R) = TypeScript.verifyEvidenceBundle R := rfl

/-- Over `jcs` the loop is that of the repository, turn by turn. -/
theorem refetchLoop_jcs (expected : Bytes) (txId : Option Json) (fetchImpl : FetchImpl)
    (anyReachable : Bool) (requests gateways : List Str) :
    refetchLoop R (jcs R) expected txId fetchImpl anyReachable requests gateways =
      TypeScript.refetchLoop R expected txId fetchImpl anyReachable requests gateways := by
  induction gateways generalizing anyReachable requests with
  | nil => rfl
  | cons gateway rest ih =>
      unfold refetchLoop TypeScript.refetchLoop
      simp only [ih]
      rfl

/-- Over `jcs` the verifier is that of the repository, because each of its parts
is. -/
theorem verifyAgentProofBundle_jcs :
    verifyAgentProofBundle R (jcs R) = TypeScript.verifyAgentProofBundle R := by
  have hRefetch : refetch R (jcs R) = TypeScript.refetch R := by
    funext envelope txId gateways fetchImpl
    unfold refetch TypeScript.refetch
    cases jcs R envelope with
    | error text => rfl
    | ok canonical => exact refetchLoop_jcs ..
  funext bundle options
  unfold verifyAgentProofBundle TypeScript.verifyAgentProofBundle checkOnChain
    TypeScript.checkOnChain
  rw [hRefetch]
  rfl

section Within

variable {R} {first second : Option Json → Except Str Str} (hNone : first none = second none)
  (hSame : ∀ v, v.depth ≤ maxCanonicalDepth → first (some v) = second (some v))
include hSame

/-- An envelope run calls the canonicalizer on the payload and the signed scope
only, and neither is nested more deeply than the envelope. -/
theorem verifyEnvelope_within {env : Option Json} (h : (env.getD .null).depth ≤ maxCanonicalDepth)
    (payloadBytes : Option Bytes) (expected : Option Str) :
    verifyEnvelope R first env payloadBytes expected =
      verifyEnvelope R second env payloadBytes expected := by
  have hInline (payloadHash : Str) : checkInline R first (env.getD .null) payloadHash =
      checkInline R second (env.getD .null) payloadHash := by
    unfold checkInline
    cases hPayload : (env.getD .null).get? "payload" with
    | none => rfl
    | some payload => simp only [hSame payload ((Json.depth_lt_of_get? hPayload).le.trans h)]
  unfold verifyEnvelope checkPayload checkSignature
  simp only [hInline, hSame _ ((depth_envelopeForSig_le (env.getD .null)).trans h)]

/-- The one call that a checkpoint makes is that of its envelope, which is part of
the entry. -/
theorem checkCheckpoint_within {cp : Json} (h : cp.depth ≤ maxCanonicalDepth) :
    checkCheckpoint R first cp = checkCheckpoint R second cp := by
  unfold checkCheckpoint checkpointEnvelope
  rw [verifyEnvelope_within hSame ((depth_get_le cp "envelope").trans h)]

/-- The one call that an event makes here is that of its envelope, which is part
of the entry. -/
theorem checkEvent_within {ev : Json} (h : ev.depth ≤ maxCanonicalDepth) :
    checkEvent R first ev = checkEvent R second ev := by
  unfold checkEvent eventEnvelope
  rw [verifyEnvelope_within hSame ((depth_get_le ev "envelope").trans h)]

include hNone

/-- A member that may be missing is canonicalized alike, since what is missing is
an error of both. -/
theorem member_within {v : Json} (h : v.depth ≤ maxCanonicalDepth) (key : String) :
    first (v.get? key) = second (v.get? key) := by
  cases hMember : v.get? key with
  | none => exact hNone
  | some member => exact hSame member ((Json.depth_lt_of_get? hMember).le.trans h)

/-- An inclusion proof canonicalizes the envelope of its event, and nothing of the
proof or of the checkpoint. -/
theorem checkInclusion_within {ev : Json} (h : ev.depth ≤ maxCanonicalDepth) (incl cp : Json) :
    checkInclusion R first ev incl cp = checkInclusion R second ev incl cp := by
  unfold checkInclusion compareLeaf
  rw [member_within hNone hSame h]

/-- What a gateway has to answer with is computed from the envelope of the entry
alone. -/
theorem expectedBytes_within {cp : Json} (h : cp.depth ≤ maxCanonicalDepth) :
    expectedBytes first cp = expectedBytes second cp := by
  unfold expectedBytes
  rw [member_within hNone hSame h]

/-- A record canonicalizes its payload, and its binding the envelope of a
checkpoint of the source. -/
theorem verifyAttestation_within {rec : Json} (h : rec.depth ≤ maxCanonicalDepth)
    {checkpoints : List (Str × Json)}
    (hCheckpoints : ∀ txId cp, checkpoints.lookup txId = some cp → cp.depth ≤ maxCanonicalDepth) :
    verifyAttestation R first rec checkpoints = verifyAttestation R second rec checkpoints := by
  have hBind (payload : Json) (txId other : Str) :
      bindDataHash R first payload txId (checkpoints.lookup other) =
        bindDataHash R second payload txId (checkpoints.lookup other) := by
    cases hCp : checkpoints.lookup other with
    | none => rfl
    | some cp =>
        unfold bindDataHash
        simp only [member_within hNone hSame (hCheckpoints other cp hCp)]
  unfold verifyAttestation
  simp only [hSame _ ((depth_get_le rec "payload").trans h), hBind]

section OnChain

variable {fetchImpl : FetchImpl} (hAnswers : ∀ requests url data v,
  fetchImpl requests url = .body data → R.jsonParse data = .ok v → v.depth ≤ maxCanonicalDepth)
include hAnswers

omit hNone

/-- Fetched bytes are as deep as they like, but past the bound neither
canonicalizer gives bytes that could match. -/
theorem refetchLoop_within (expected : Bytes) (txId : Option Json) (anyReachable : Bool)
    (requests gateways : List Str) :
    refetchLoop R first expected txId fetchImpl anyReachable requests gateways =
      refetchLoop R second expected txId fetchImpl anyReachable requests gateways := by
  induction gateways generalizing anyReachable requests with
  | nil => rfl
  | cons gateway rest ih =>
      unfold refetchLoop
      cases display R txId with
      | error text => rfl
      | ok shown =>
          simp only [ok_bind, ih]
          cases hAnswer : fetchImpl requests (fstring [rstripSlash gateway, "/", shown]) with
          | body data =>
              have hMatches : matchesEnvelope R first expected data =
                  matchesEnvelope R second expected data := by
                unfold matchesEnvelope
                cases hParse : R.jsonParse data with
                | error text => rfl
                | ok v => simp only [ok_bind, hSame v (hAnswers _ _ data v hAnswer hParse)]
              simp only [hMatches]
          | _ => rfl

end OnChain

/-- Nothing that is canonicalized to verify a proof lies deeper than the bundle or
than what the gateways answer. -/
theorem verifyAgentProofBundle_within {bundle : Json} (h : bundle.depth ≤ maxCanonicalDepth)
    {options : VerifyAgentProofOptions} (hAnswers : ∀ fetchImpl, options.fetchImpl = some fetchImpl →
      ∀ requests url data v, fetchImpl requests url = .body data → R.jsonParse data = .ok v →
        v.depth ≤ maxCanonicalDepth) :
    verifyAgentProofBundle R first bundle options =
      verifyAgentProofBundle R second bundle options := by
  have hOnChain : checkOnChain R first bundle options = checkOnChain R second bundle options := by
    unfold checkOnChain refetch
    cases hFetch : options.fetchImpl with
    | none => rfl
    | some fetchImpl =>
        simp only [member_within hNone hSame h, refetchLoop_within hSame (hAnswers fetchImpl hFetch)]
  unfold verifyAgentProofBundle checkCheckpointEnvelope checkLeaf walkLeaf
  simp only [hOnChain, member_within hNone hSame h,
    verifyEnvelope_within hSame ((depth_get_le bundle "checkpoint_envelope").trans h)]

end Within

end Over
end ArioProof.TypeScript
