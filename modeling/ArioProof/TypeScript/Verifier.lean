import ArioProof.Data.Depth
import ArioProof.Data.Evidence
import ArioProof.Data.Utf8
import ArioProof.TypeScript.Crypto

/-! `verifier.ts`. -/
namespace ArioProof.TypeScript

open Foundation

variable (R : Runtime)

section Canonical

def hasLoneSurrogate : Str → Bool
  | [] => false
  | [c] => Case.isHighSurrogate c || Case.isLowSurrogate c
  | c :: next :: rest =>
      if Case.isHighSurrogate c then
        if Case.isLowSurrogate next then hasLoneSurrogate rest else true
      else if Case.isLowSurrogate c then true
      else hasLoneSurrogate (next :: rest)

def rejectString (s : Str) : Except Str Unit :=
  if hasLoneSurrogate s then
    .error "jcs: input contains a lone UTF-16 surrogate (not representable as UTF-8)"
  else .ok ()

mutual

def rejectLoneSurrogates : Json → Except Str Unit
  | .str s => rejectString s
  | .arr items => rejectItems items
  | .obj members => rejectMembers members
  | _ => .ok ()

def rejectItems : List Json → Except Str Unit
  | [] => .ok ()
  | v :: rest => do
      rejectLoneSurrogates v
      rejectItems rest

def rejectMembers : List (Str × Json) → Except Str Unit
  | [] => .ok ()
  | (key, v) :: rest => do
      rejectString key
      rejectLoneSurrogates v
      rejectMembers rest

end

/-- The canonicalizer behind its two guards; `undefined` has no JSON text. -/
def jcs : Option Json → Except Str Str
  | none => .error "jcs: canonicalize returned a non-string (input not JSON-serializable?)"
  | some value =>
      if exceedsDepth value maxCanonicalDepth then
        .error "jcs: input nesting exceeds the 128-level canonicalization depth bound"
      else do
        rejectLoneSurrogates value
        R.canonicalize value

end Canonical

section Envelope

def acceptedSpecMajors : List String := ["ario.agent/v1", "ario.events/v1"]

def specVersionSupported (specVersion : Json) : Bool :=
  match specVersion with
  | .str s => !s.isEmpty && acceptedSpecMajors.any fun major => matchesMajor s major
  | _ => false

/-- The string under `hash`, unless it is empty, with the role it plays. -/
def hashOf (role : ContentRole) (holder : Json) : List (ContentRole × Str) :=
  match holder.get "hash" with
  | .str h => if h.isEmpty then [] else [(role, h)]
  | _ => []

def contentHashes (env : Json) : List (ContentRole × Str) :=
  let p := env.get "payload"
  let eventType := (env.get "event_type").str?
  if eventType = some (utf16 "asset_registered") then hashOf .asset p
  else if eventType = some (utf16 "asset_missing") then hashOf .baseline (p.get "baseline")
  else if eventType = some (utf16 "tamper_detected") then
    hashOf .observed (p.get "observed") ++ hashOf .baseline (p.get "baseline")
  else []

structure VerificationResult where
  ok : Bool
  specVersionOk : Bool
  payloadHashOk : Option Bool
  signatureOk : Bool
  contentHashOk : Option Bool
  contentRole : Option ContentRole
  errors : List Str
  deriving DecidableEq, Repr

/-- The inline payload against the stored hash, in the canonical form of the
kernel. -/
def checkInline (env : Json) (payloadHash : Str) : List Bool × List Str :=
  match env.get? "payload" with
  | none => ([], [])
  | some payload =>
      match jcs R (some payload) with
      | .error text => ([false], [fstring ["payload canonicalization failed: ", text]])
      | .ok canonical =>
          let recomputed := sha256Hex R (utf8 canonical)
          let ok := recomputed = payloadHash
          ([ok], if ok then [] else [fstring
            ["payload_hash mismatch: envelope=", payloadHash, " recomputed=", recomputed]])

/-- The supplied bytes against the stored hash, as they are. Nothing is
canonicalized here. -/
def checkExternal (payloadBytes : Option Bytes) (payloadHash : Str) : List Bool × List Str :=
  match payloadBytes with
  | none => ([], [])
  | some bytes =>
      let external := sha256Hex R bytes
      let ok := external = payloadHash
      ([ok], if ok then [] else [fstring
        ["payload_hash does not match the committed bytes: envelope=", payloadHash, " bytes=",
          external]])

/-- Check 1 of `verifyEnvelope`: the stored hash against the inline payload and
against the bytes supplied. -/
def checkPayload (env : Json) (payloadBytes : Option Bytes) : Option Bool × List Str :=
  match env.get "payload_hash" with
  | .str payloadHash =>
      let (inline, inlineErrors) := checkInline R env payloadHash
      let (external, externalErrors) := checkExternal R payloadBytes payloadHash
      let checks := inline ++ external
      (if checks.isEmpty then none else some (checks.all id), inlineErrors ++ externalErrors)
  | _ => (some false, ["missing payload_hash (envelope-spec §2: required in every profile)"])

/-- The signed scope of an envelope: its members without the signature and the
co-signatures. -/
def envelopeForSig (env : Json) : Json :=
  match env with
  | .obj members => .obj (members.filter fun (key, _) => !(unsignedFields.map utf16).contains key)
  | v => v

/-- Check 2 of `verifyEnvelope`: the signature over the canonical bytes of the
signed scope. -/
def checkSignature (env : Json) : Bool × List Str :=
  match jcs R (some (envelopeForSig env)) with
  | .error text => (false, [fstring ["signature verification error: ", text]])
  | .ok message =>
      let signatureOk := ed25519Verify R (env.get? "signature") (utf8 message)
        (env.get? "public_key")
      (signatureOk, if signatureOk then [] else ["Ed25519 signature verification failed"])

/-- Check 3 of `verifyEnvelope`: the first committed hash that matches, and its
role. Empty hashes are not among the committed ones here. -/
def checkContent (env : Json) (expectedContentHash : Option Str) :
    Option Bool × Option ContentRole × List Str :=
  match expectedContentHash with
  | none => (none, none, [])
  | some expected =>
      match (contentHashes env).find? fun c => toLowerCase R c.2 = toLowerCase R expected with
      | some (role, _) => (some true, some role, [])
      | none => (some false, none,
          ["provided content hash does not match any hash this envelope commits to"])

/-- Total: nothing it is given makes it throw. An envelope is ok with a known
version, a signature that holds and no binding that fails; content is reported
apart. -/
def verifyEnvelope (env : Option Json) (payloadBytes : Option Bytes)
    (expectedContentHash : Option Str) : VerificationResult :=
  let env := env.getD .null
  if !env.isObj then
    { ok := false
      specVersionOk := false
      payloadHashOk := some false
      signatureOk := false
      contentHashOk := if expectedContentHash = none then none else some false
      contentRole := none
      errors := ["envelope is not a JSON object"] }
  else
    let specVersionOk := specVersionSupported (env.get "spec_version")
    let (payloadHashOk, payloadErrors) := checkPayload R env payloadBytes
    let (signatureOk, signatureErrors) := checkSignature R env
    let (contentHashOk, contentRole, contentErrors) := checkContent R env expectedContentHash
    { ok := specVersionOk && signatureOk && payloadHashOk != some false
      specVersionOk := specVersionOk
      payloadHashOk := payloadHashOk
      signatureOk := signatureOk
      contentHashOk := contentHashOk
      contentRole := contentRole
      errors := (if specVersionOk then [] else
          [fstring ["unsupported spec_version: ", quote R (env.get? "spec_version")]]) ++
        payloadErrors ++ signatureErrors ++ contentErrors }

end Envelope
end ArioProof.TypeScript
