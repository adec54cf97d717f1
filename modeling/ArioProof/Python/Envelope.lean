import ArioProof.Data.Evidence
import ArioProof.Python.Runtime

/-! `verify.py` and the verifying half of `envelope.py`. -/
namespace ArioProof.Python

open Foundation

variable (R : Runtime)

/-- False on anything but two hex strings of the right lengths. -/
def verifySignature (message : Bytes) (signatureHex publicKeyHex : Json) : Bool :=
  match signatureHex.str?.bind Hex.fromhex, publicKeyHex.str?.bind Hex.fromhex with
  | some signature, some publicKey =>
      signature.length = 64 && publicKey.length = 32 &&
        R.crypto.ed25519Verify publicKey signature message
  | _, _ => false

def acceptedSpecVersions : List String := ["ario.agent/v1", "ario.mlflow/v1", "ario.events/v1"]

structure VerificationResult where
  ok : Bool
  specVersionOk : Bool
  payloadHashOk : Option Bool
  signatureOk : Bool
  contentHashOk : Option Bool
  contentRole : Option ContentRole
  legacyEnvelope : Bool
  errors : List Str
  deriving DecidableEq, Repr

def specVersionSupported (specVersion : Json) : Bool :=
  match specVersion with
  | .str s => acceptedSpecVersions.any fun major => matchesMajor s major
  | _ => false

def stripsAnnotations (envelope : Json) : Bool :=
  match envelope.get "spec_version" with
  | .null => true
  | .str s => matchesMajor s "ario.mlflow/v1"
  | _ => false

/-- The signed scope of an envelope: its members without the signatures and, in a
profile that has them, without annotations. -/
def envelopeForSignature (envelope : Json) : Json :=
  match envelope with
  | .obj members => .obj (members.filter fun (key, _) =>
      !(unsignedFields.map utf16).contains key &&
        !(stripsAnnotations envelope && (utf16 "_").isPrefixOf key))
  | v => v

/-- The string under `hash` of an object, tagged with the role it plays. -/
def hashOf (role : ContentRole) (holder : Json) : List (ContentRole × Str) :=
  match (holder.get "hash").str? with
  | some h => [(role, h)]
  | none => []

def contentHashes (envelope : Json) : List (ContentRole × Str) :=
  let payload := envelope.get "payload"
  if !payload.isObj then []
  else
    let eventType := (envelope.get "event_type").str?
    if eventType = some (utf16 "asset_registered") then hashOf .asset payload
    else if eventType = some (utf16 "asset_missing") then
      hashOf .baseline (payload.get "baseline")
    else if eventType = some (utf16 "tamper_detected") then
      hashOf .observed (payload.get "observed") ++ hashOf .baseline (payload.get "baseline")
    else []

/-- Step 1 of `verify_envelope`: the verdict, and whether the envelope is legacy. -/
def checkSpecVersion (envelope : Json) (allowLegacy : Bool) : Bool × Bool × List Str :=
  match envelope.get "spec_version" with
  | .null =>
      (allowLegacy, true,
        if allowLegacy then [] else ["missing spec_version (pass allow_legacy=True to accept)"])
  | specVersion =>
      let ok := specVersionSupported specVersion
      (ok, false, if ok then [] else [fstring ["unsupported spec_version: ", R.repr specVersion]])

/-- The comparisons of step 2, one for each kind of material that exists. -/
def payloadChecks (envelope : Json) (payloadBytes : Option Bytes) (storedHash : Str) :
    List Bool × List Str :=
  let inline : List Bool × List Str :=
    match envelope.get? "payload" with
    | none => ([], [])
    | some payload =>
        match canonicalJson R payload with
        | .ok canonical => ([sha256Hex R canonical = storedHash], [])
        | .error _ => ([false], ["payload is not JCS-canonicalizable"])
  let supplied : List Bool :=
    match payloadBytes with
    | none => []
    | some bytes => [sha256Hex R bytes = storedHash]
  (inline.1 ++ supplied, inline.2)

/-- Step 2 of `verify_envelope`: the stored hash against the inline payload and
against the bytes supplied. -/
def checkPayload (envelope : Json) (payloadBytes : Option Bytes) : Option Bool × List Str :=
  match (envelope.get "payload_hash").str? with
  | none =>
      (some false, ["missing payload_hash (envelope-spec §2: required in every profile)"])
  | some storedHash =>
      let (checks, errors) := payloadChecks R envelope payloadBytes storedHash
      let payloadHashOk := if checks.isEmpty then none else some (checks.all id)
      (payloadHashOk,
        if payloadHashOk = some false ∧ errors.isEmpty then
          ["payload_hash does not match the committed bytes"]
        else errors)

/-- Step 3 of `verify_envelope`; a scope that cannot be canonicalized fails. -/
def checkSignature (envelope : Json) : Bool :=
  match canonicalJson R (envelopeForSignature envelope) with
  | .ok message =>
      verifySignature R message ((envelope.get? "signature").getD (.str []))
        ((envelope.get? "public_key").getD (.str []))
  | .error _ => false

/-- Step 4 of `verify_envelope`: the first committed hash that matches, and its
role. Without an expected hash the step is left out. -/
def checkContent (envelope : Json) (expectedContentHash : Option Str) :
    Option Bool × Option ContentRole × List Str :=
  match expectedContentHash with
  | none => (none, none, [])
  | some expected =>
      match (contentHashes envelope).find? fun entry => lower R entry.2 = lower R expected with
      | some (role, _) => (some true, some role, [])
      | none =>
          (some false, none, ["expected_content_hash matches no hash this envelope commits to"])

def verifyEnvelope (envelope : Json) (payloadBytes : Option Bytes)
    (expectedContentHash : Option Str) (allowLegacy : Bool) : VerificationResult :=
  if !envelope.isObj then
    { ok := false
      specVersionOk := false
      payloadHashOk := none
      signatureOk := false
      contentHashOk := if expectedContentHash = none then none else some false
      contentRole := none
      legacyEnvelope := false
      errors := ["envelope is not a JSON object"] }
  else
    let (specVersionOk, legacy, specErrors) := checkSpecVersion R envelope allowLegacy
    let (payloadHashOk, payloadErrors) := checkPayload R envelope payloadBytes
    let signatureOk := checkSignature R envelope
    let (contentHashOk, contentRole, contentErrors) := checkContent R envelope expectedContentHash
    { ok := specVersionOk && signatureOk && payloadHashOk != some false
      specVersionOk := specVersionOk
      payloadHashOk := payloadHashOk
      signatureOk := signatureOk
      contentHashOk := contentHashOk
      contentRole := contentRole
      legacyEnvelope := legacy
      errors := specErrors ++ payloadErrors ++
        (if signatureOk then [] else [utf16 "Ed25519 signature verification failed"]) ++
        contentErrors }

section Spec

variable {R} {envelope : Json} {payloadBytes : Option Bytes} {expected : Option Str}
  {allowLegacy : Bool}

/-- The signature part of an accepted envelope: the signed scope canonicalizes,
and the signature over it verifies. A missing signature or key is the empty
text. -/
theorem checkSignature_iff : checkSignature R envelope = true ↔
    ∃ message, canonicalJson R (envelopeForSignature envelope) = .ok message ∧
      verifySignature R message ((envelope.get? "signature").getD (.str []))
        ((envelope.get? "public_key").getD (.str [])) = true := by
  unfold checkSignature
  cases canonicalJson R (envelopeForSignature envelope) <;> simp

/-- Every material that exists was compared with the stored hash, the inline
payload in canonical form and supplied bytes as they are, and there is some. -/
structure PayloadBinds (R : Runtime) (envelope : Json) (payloadBytes : Option Bytes) : Prop where
  stored : ∃ storedHash, envelope.get "payload_hash" = .str storedHash ∧
    (∀ payload, envelope.get? "payload" = some payload →
      ∃ canonical, canonicalJson R payload = .ok canonical ∧
        sha256Hex R canonical = storedHash) ∧
    (∀ bytes, payloadBytes = some bytes → sha256Hex R bytes = storedHash)
  material : (envelope.get? "payload").isSome ∨ payloadBytes.isSome

theorem payloadBinds_of_checkPayload
    (h : (checkPayload R envelope payloadBytes).1 = some true) :
    PayloadBinds R envelope payloadBytes := by
  unfold checkPayload at h
  split at h
  · simp at h
  · rename_i storedHash hStored
    rw [Json.str?_eq_some] at hStored
    obtain ⟨hSome, hAll⟩ : (payloadChecks R envelope payloadBytes storedHash).1.isEmpty = false ∧
        (payloadChecks R envelope payloadBytes storedHash).1.all id = true := by
      change (if (payloadChecks R envelope payloadBytes storedHash).1.isEmpty then none
        else some ((payloadChecks R envelope payloadBytes storedHash).1.all id)) = some true at h
      split_ifs at h with hEmpty
      exact ⟨by simpa using hEmpty, Option.some.inj h⟩
    unfold payloadChecks at hSome hAll
    cases hPayload : envelope.get? "payload" with
    | none =>
        cases payloadBytes with
        | none => simp [hPayload] at hSome
        | some bytes =>
            refine ⟨⟨storedHash, hStored, by simp [hPayload], ?_⟩, Or.inr rfl⟩
            intro other hOther
            obtain rfl := Option.some.inj hOther
            simpa [hPayload] using hAll
    | some payload =>
        cases hCanonical : canonicalJson R payload with
        | error exc => simp [hPayload, hCanonical] at hAll
        | ok canonical =>
            have hBoth : sha256Hex R canonical = storedHash ∧
                ∀ bytes, payloadBytes = some bytes → sha256Hex R bytes = storedHash := by
              cases payloadBytes <;> simpa [hPayload, hCanonical] using hAll
            refine ⟨⟨storedHash, hStored, ?_, hBoth.2⟩, Or.inl (by simp [hPayload])⟩
            intro other hOther
            obtain rfl : payload = other := by rw [hPayload] at hOther; exact Option.some.inj hOther
            exact ⟨canonical, hCanonical, hBoth.1⟩

theorem verifyEnvelope_signatureOk (h : (verifyEnvelope R envelope payloadBytes expected
    allowLegacy).signatureOk = true) : checkSignature R envelope = true := by
  unfold verifyEnvelope at h
  split at h
  · simp at h
  · exact h

theorem verifyEnvelope_payloadHashOk (h : (verifyEnvelope R envelope payloadBytes expected
    allowLegacy).payloadHashOk = some true) : PayloadBinds R envelope payloadBytes := by
  unfold verifyEnvelope at h
  split at h
  · simp at h
  · exact payloadBinds_of_checkPayload h

theorem verifyEnvelope_ok (h : (verifyEnvelope R envelope payloadBytes expected
    allowLegacy).ok = true) :
    envelope.isObj = true ∧ (verifyEnvelope R envelope payloadBytes expected
      allowLegacy).signatureOk = true := by
  unfold verifyEnvelope at h ⊢
  split at h
  · simp at h
  · rename_i hObj
    simp only [Bool.and_eq_true] at h
    refine ⟨by simpa using hObj, ?_⟩
    rw [if_neg hObj]
    exact h.1.2

end Spec
end ArioProof.Python
