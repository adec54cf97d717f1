import ArioProof.Foundation.Outcome
import ArioProof.Python.SignedScope

/-! `sign.py` and the signing half of `envelope.py`. What the producer
completes and signs, the verifier accepts, and members outside the signed scope
may change afterwards. -/
namespace ArioProof.Python

open Foundation

variable (R : Runtime)

/-- A signing key. `signing_key_from_seed_hex` admits seeds of 32 bytes only, so a
key is one. -/
structure SigningKey where
  seed : Bytes
  length_seed : seed.length = 32

def publicKeyHex (key : SigningKey) : Str := Hex.encode (R.crypto.ed25519PublicKey key.seed)

def sign (message : Bytes) (key : SigningKey) : Bytes := R.crypto.ed25519Sign key.seed message

/-- `d.setdefault(key, value)`: the mapping afterwards, and its member, which is
the stored one where there was any. -/
def setdefault (d : Json) (key : String) (value : Json) : Json × Json :=
  match d.get? key with
  | some stored => (d, stored)
  | none => (d.set key value, value)

/-- The envelope with the hash of its inline payload. A hash that is there already
has to be that one; without a payload there has to be a hash. -/
def completePayloadHash (envelope : Json) : Except Exc Json :=
  match envelope.get? "payload" with
  | some payload => do
      let computed := sha256Hex R (← canonicalJson R payload)
      let (env, stored) := setdefault envelope "payload_hash" (.str computed)
      if stored.str? ≠ some computed then
        .error (.valueError "payload_hash does not match SHA-256(JCS(payload))")
      else .ok env
  | none =>
      if (envelope.get? "payload_hash").isNone then
        .error (.valueError "envelope needs payload (inline) or payload_hash (external)")
      else .ok envelope

/-- The envelope with the key it is signed under. A key that is there already has
to be that one. -/
def completePublicKey (envelope : Json) (key : SigningKey) : Except Exc Json :=
  let (env, stored) := setdefault envelope "public_key" (.str (publicKeyHex R key))
  if stored.str? ≠ some (publicKeyHex R key) then
    .error (.valueError "envelope public_key does not match the signing key")
  else .ok env

def signEnvelope (envelope : Json) (key : SigningKey) : Except Exc Json :=
  if (envelope.get? "signature").isSome then
    .error (.valueError "envelope already carries a signature")
  else do
    let env ← completePayloadHash R envelope
    let env ← completePublicKey R env key
    let message ← canonicalJson R (envelopeForSignature env)
    return env.set "signature" (.str (Hex.encode (sign R message key)))

/-- A mapping with more members under keys that were free. Every member of the
smaller one is read as before. -/
structure Extends (smaller larger : Json) : Prop where
  isObj : smaller.isObj = true → larger.isObj = true
  members : ∀ key v, smaller.member? key = some v → larger.member? key = some v

/-- The hash that is stored next to an inline payload is its own. -/
def PayloadHashed (envelope : Json) : Prop :=
  ∀ payload, envelope.get? "payload" = some payload → ∃ canonical,
    canonicalJson R payload = .ok canonical ∧
      envelope.get? "payload_hash" = some (.str (sha256Hex R canonical))

/-- An envelope that the producer has completed, up to its signature. -/
structure Completed (envelope env : Json) (key : SigningKey) : Prop where
  extension : Extends envelope env
  unsigned : env.get? "signature" = none
  payload : PayloadHashed R env
  publicKey : env.get? "public_key" = some (.str (publicKeyHex R key))

section Sign

variable {R} {envelope env : Json} {key : SigningKey}

theorem Extends.refl (v : Json) : Extends v v := ⟨id, fun _ _ h => h⟩

theorem Extends.trans {u v w : Json} (h : Extends u v) (h' : Extends v w) : Extends u w :=
  ⟨fun hObj => h'.isObj (h.isObj hObj), fun key x hx => h'.members key x (h.members key x hx)⟩

/-- Assigning to a free key extends a mapping. -/
theorem extends_set {v : Json} {name : String} (hFree : v.get? name = none) (value : Json) :
    Extends v (v.set name value) := by
  refine ⟨fun hObj => by rw [Json.isObj_set, hObj], fun key x hx => ?_⟩
  by_cases hKey : key = utf16 name
  · rw [hKey, ← Json.get?_eq_member?, hFree] at hx
    cases hx
  · rw [Json.member?_set_of_ne hKey, hx]

theorem Extends.get? {v w : Json} (h : Extends v w) {name : String} {x : Json}
    (hx : v.get? name = some x) : w.get? name = some x := by
  rw [Json.get?_eq_member?] at hx ⊢
  exact h.members _ _ hx

/-- Only a free key is assigned to; a member that the caller has set is left as it
is. -/
theorem setdefault_spec {d value : Json} {name : String} (hObj : d.isObj = true) :
    Extends d (setdefault d name value).1 ∧
      (setdefault d name value).1.get? name = some (setdefault d name value).2 ∧
      ∀ other, other ≠ name → (setdefault d name value).1.get? other = d.get? other := by
  unfold setdefault
  cases hStored : d.get? name with
  | some stored => exact ⟨.refl d, hStored, fun _ _ => rfl⟩
  | none =>
      exact ⟨extends_set hStored value, Json.get?_set hObj name value,
        fun other hOther => Json.get?_set_of_ne hOther d value⟩

theorem completePayloadHash_eq_ok (hObj : envelope.isObj = true)
    (h : completePayloadHash R envelope = .ok env) : Extends envelope env ∧ PayloadHashed R env ∧
      ∀ other, other ≠ "payload_hash" → env.get? other = envelope.get? other := by
  unfold completePayloadHash at h
  cases hPayload : envelope.get? "payload" with
  | none =>
      simp only [hPayload] at h
      split_ifs at h
      cases h
      refine ⟨.refl _, fun payload hSome => ?_, fun _ _ => rfl⟩
      rw [hPayload] at hSome
      cases hSome
  | some payload =>
      simp only [hPayload] at h
      obtain ⟨canonical, hCanonical, h⟩ := bind_eq_ok.mp h
      obtain ⟨hExtends, hStored, hOthers⟩ := @setdefault_spec envelope
        (.str (sha256Hex R canonical)) "payload_hash" hObj
      split_ifs at h with hSame
      cases h
      rw [ne_eq, not_not, Json.str?_eq_some] at hSame
      refine ⟨hExtends, fun other hOther => ⟨canonical, ?_, by rw [hStored, hSame]⟩, hOthers⟩
      rw [hOthers "payload" (by decide), hPayload] at hOther
      cases hOther
      exact hCanonical

theorem completePublicKey_eq_ok (hObj : envelope.isObj = true)
    (h : completePublicKey R envelope key = .ok env) : Extends envelope env ∧
      env.get? "public_key" = some (.str (publicKeyHex R key)) ∧
      ∀ other, other ≠ "public_key" → env.get? other = envelope.get? other := by
  obtain ⟨hExtends, hStored, hOthers⟩ := @setdefault_spec envelope
    (.str (publicKeyHex R key)) "public_key" hObj
  unfold completePublicKey at h
  simp only at h
  split_ifs at h with hSame
  cases h
  rw [ne_eq, not_not, Json.str?_eq_some] at hSame
  exact ⟨hExtends, by rw [hStored, hSame], hOthers⟩

/-- What was signed is the completed envelope, and its signature is over the scope
that it will be verified under. -/
theorem signEnvelope_eq_ok {s : Json} (hObj : envelope.isObj = true)
    (h : signEnvelope R envelope key = .ok s) : ∃ env message, Completed R envelope env key ∧
      canonicalJson R (envelopeForSignature env) = .ok message ∧
      s = env.set "signature" (.str (Hex.encode (sign R message key))) := by
  unfold signEnvelope at h
  split_ifs at h with hSigned
  obtain ⟨env, hPayload, h⟩ := bind_eq_ok.mp h
  obtain ⟨env', hPublicKey, h⟩ := bind_eq_ok.mp h
  obtain ⟨message, hMessage, h⟩ := bind_eq_ok.mp h
  cases h
  obtain ⟨hExtends, hHashed, hOthers⟩ := completePayloadHash_eq_ok hObj hPayload
  obtain ⟨hExtends', hKey, hKept⟩ := completePublicKey_eq_ok (hExtends.isObj hObj) hPublicKey
  refine ⟨env', message, ⟨hExtends.trans hExtends', ?_, ?_, hKey⟩, hMessage, rfl⟩
  · rw [hKept "signature" (by decide), hOthers "signature" (by decide)]
    simpa using hSigned
  · intro payload hSome
    rw [hKept "payload" (by decide)] at hSome
    obtain ⟨canonical, hCanonical, hStored⟩ := hHashed payload hSome
    exact ⟨canonical, hCanonical, by rw [hKept "payload_hash" (by decide), hStored]⟩

end Sign

section Verify

variable {R} {envelope env s : Json} {key : SigningKey}

/-- A signature over a message verifies under the key it was made with. -/
theorem verifySignature_sign (hSign : R.crypto.Ed25519Correct) (message : Bytes) :
    verifySignature R message (.str (Hex.encode (sign R message key)))
      (.str (publicKeyHex R key)) = true := by
  have hSignature := hSign.length_sign key.seed message key.length_seed
  have hKey := hSign.length_publicKey key.seed key.length_seed
  have hVerify := hSign.verify_sign key.seed message key.length_seed
  simp [verifySignature, Json.str?, publicKeyHex, sign, hSignature, hKey, hVerify]

/-- A signature over the scope of an envelope, next to the key it was made
with, is accepted. -/
theorem checkSignature_set (hSign : R.crypto.Ed25519Correct) {message : Bytes}
    (hObj : env.isObj = true) (hPublicKey : env.get? "public_key" = some (.str (publicKeyHex R key)))
    (hMessage : canonicalJson R (envelopeForSignature env) = .ok message) :
    checkSignature R (env.set "signature" (.str (Hex.encode (sign R message key)))) = true := by
  apply checkSignature_iff.mpr
  refine ⟨message, ?_, ?_⟩
  · rw [envelopeForSignature_set (by decide)]
    exact hMessage
  · rw [Json.get?_set hObj, Json.get?_set_of_ne (by decide), hPublicKey]
    exact verifySignature_sign hSign message

/-- The binding of an envelope without supplied bytes: of an inline payload to
its own hash, and of anything else not at all. -/
theorem checkPayload_of_hashed (hHashed : PayloadHashed R s) :
    ((s.get? "payload").isSome → (checkPayload R s none).1 = some true) ∧
      ((checkPayload R s none).1 ≠ some false ↔ (s.get "payload_hash").isStr = true) := by
  cases hPayload : s.get? "payload" with
  | some payload =>
      obtain ⟨canonical, hCanonical, hStored⟩ := hHashed payload hPayload
      have hHash := Json.get_of_get? hStored
      have hBound : (checkPayload R s none).1 = some true := by
        simp [checkPayload, payloadChecks, hHash, Json.str?, hPayload, hCanonical]
      exact ⟨fun _ => hBound, by simp [hBound, hHash, Json.isStr]⟩
  | none =>
      refine ⟨fun h => by simp at h, ?_⟩
      cases hHash : s.get "payload_hash" with
      | str storedHash =>
          simp [checkPayload, payloadChecks, hHash, Json.str?, Json.isStr, hPayload]
      | _ => simp [checkPayload, hHash, Json.str?, Json.isStr]

/-- A missing version passes as legacy, and only where the caller allows that. -/
theorem checkSpecVersion_legacy (s : Json) : (checkSpecVersion R s true).1 = true ↔
    s.get "spec_version" = .null ∨ specVersionSupported (s.get "spec_version") = true := by
  unfold checkSpecVersion
  cases s.get "spec_version" <;> simp

/-- The members a verification of an envelope reads outside its scope. -/
def readFields : List String :=
  ["spec_version", "payload", "payload_hash", "signature", "public_key", "event_type"]

/-- A verification depends on the signed scope and on these members alone. -/
theorem verifyEnvelope_congr {first second : Json} (hObj : first.isObj = second.isObj)
    (hScope : envelopeForSignature first = envelopeForSignature second)
    (hRead : ∀ name ∈ readFields, first.get? name = second.get? name)
    (payloadBytes : Option Bytes) (expected : Option Str) (allowLegacy : Bool) :
    verifyEnvelope R first payloadBytes expected allowLegacy =
      verifyEnvelope R second payloadBytes expected allowLegacy := by
  have hGet (name : String) (hName : name ∈ readFields) : first.get name = second.get name := by
    rw [Json.get, Json.get, hRead name hName]
  have hHashes : contentHashes first = contentHashes second := by
    unfold contentHashes
    rw [hGet "payload" (by decide), hGet "event_type" (by decide)]
  unfold verifyEnvelope checkSpecVersion checkPayload payloadChecks checkSignature checkContent
  rw [hObj, hScope, hHashes, hGet "spec_version" (by decide), hGet "payload_hash" (by decide),
    hRead "payload" (by decide), hRead "signature" (by decide), hRead "public_key" (by decide)]

/-- A key that is no annotation, so that it is signed in every profile. -/
def isPlainKey (name : Str) : Bool := !(utf16 "_").isPrefixOf name

/-- Where annotations are stripped, only the other members are seen. -/
theorem verifyEnvelope_annotations {first second : Json} (hObj : first.isObj = second.isObj)
    (hStrips : stripsAnnotations first = true)
    (hPlain : first.restrict isPlainKey = second.restrict isPlainKey) (payloadBytes : Option Bytes)
    (expected : Option Str) (allowLegacy : Bool) :
    verifyEnvelope R first payloadBytes expected allowLegacy =
      verifyEnvelope R second payloadBytes expected allowLegacy := by
  have hRead (name : String) (hName : isPlainKey (utf16 name) = true) :
      first.get? name = second.get? name := by
    have hMember := congrArg (fun v => v.member? (utf16 name)) hPlain
    simp only [Json.member?_restrict, hName, if_true] at hMember
    rwa [Json.get?_eq_member?, Json.get?_eq_member?]
  have hSame : isSigned first = isSigned second :=
    isSigned_congr (by rw [hRead "spec_version" (by decide)])
  have hSigned : isSigned first =
      fun key => !(unsignedFields.map utf16).contains key && isPlainKey key := by
    funext key
    simp [isSigned, hStrips, isPlainKey]
  apply verifyEnvelope_congr hObj
  · rw [envelopeForSignature_eq_restrict, envelopeForSignature_eq_restrict, ← hSame, hSigned,
      ← Json.restrict_restrict, hPlain, Json.restrict_restrict]
  · intro name hName
    apply hRead
    revert name
    decide

/-- The producer's envelope is the one it was given, completed; the verifier
accepts it, and accepts it however co-signatures and, in a profile that has
them, annotations change afterwards. -/
theorem signed_envelope_verifies (hSign : R.crypto.Ed25519Correct) (members : List (Str × Json))
    (key : SigningKey) (s : Json) (h : signEnvelope R (.obj members) key = .ok s) :
    (∀ name v, (Json.obj members).member? name = some v → s.member? name = some v) ∧
    (verifyEnvelope R s none none true).signatureOk = true ∧
    ((s.get? "payload").isSome → (verifyEnvelope R s none none true).payloadHashOk = some true) ∧
    ((verifyEnvelope R s none none true).ok = true ↔ (s.get "payload_hash").isStr = true ∧
      (s.get "spec_version" = .null ∨ specVersionSupported (s.get "spec_version") = true)) ∧
    ∀ payloadBytes expected allowLegacy,
      (∀ v, verifyEnvelope R (s.set "co_signatures" v) payloadBytes expected allowLegacy =
        verifyEnvelope R s payloadBytes expected allowLegacy) ∧
      ∀ changed, stripsAnnotations s = true → changed.isObj = true →
        changed.restrict isPlainKey = s.restrict isPlainKey →
          verifyEnvelope R changed payloadBytes expected allowLegacy =
            verifyEnvelope R s payloadBytes expected allowLegacy := by
  obtain ⟨env, message, hCompleted, hMessage, rfl⟩ := signEnvelope_eq_ok rfl h
  have hObj : env.isObj = true := hCompleted.extension.isObj rfl
  have hExtends := hCompleted.extension.trans (extends_set hCompleted.unsigned
    (.str (Hex.encode (sign R message key))))
  have hHashed : PayloadHashed R (env.set "signature" (.str (Hex.encode (sign R message key)))) := by
    intro payload hPayload
    rw [Json.get?_set_of_ne (by decide)] at hPayload ⊢
    exact hCompleted.payload payload hPayload
  have hSignature := checkSignature_set hSign hObj hCompleted.publicKey hMessage
  generalize hs : env.set "signature" (.str (Hex.encode (sign R message key))) = s at *
  have hObj' : s.isObj = true := by rw [← hs, Json.isObj_set, hObj]
  obtain ⟨hInline, hHash⟩ := checkPayload_of_hashed hHashed
  have hResult : (verifyEnvelope R s none none true).signatureOk = checkSignature R s ∧
      (verifyEnvelope R s none none true).payloadHashOk = (checkPayload R s none).1 ∧
      (verifyEnvelope R s none none true).ok = ((checkSpecVersion R s true).1 &&
        checkSignature R s && (checkPayload R s none).1 != some false) := by
    simp [verifyEnvelope, hObj']
  refine ⟨hExtends.members, ?_, ?_, ?_, ?_⟩
  · rw [hResult.1, hSignature]
  · rw [hResult.2.1]
    exact hInline
  · rw [hResult.2.2, hSignature, ← hHash, ← checkSpecVersion_legacy (R := R)]
    simp [and_comm]
  · intro payloadBytes expected allowLegacy
    constructor
    · intro v
      apply verifyEnvelope_congr (Json.isObj_set s _ v) (envelopeForSignature_set (by decide) s v)
      intro name hName
      apply Json.get?_set_of_ne
      rintro rfl
      revert hName
      decide
    · intro changed hStrips hChanged hPlain
      symm
      exact verifyEnvelope_annotations (hObj'.trans hChanged.symm) hStrips hPlain.symm _ _ _

end Verify

section Sample

open Reference

def sampleKey : SigningKey := ⟨octets 32 seed, length_octets 32 seed⟩

def sampleUnsigned : List (Str × Json) :=
  [(utf16 "spec_version", .str "ario.agent/v1"), (utf16 "payload", .obj [])]

abbrev signingRuntime : Runtime :=
  python (signedWith [(0x338806cc75949ecc78e9ed2a89ff4643ba603d5d1c630ab9a7faf5e7d70abb90,
    0x1f2f41a10a4329167fbf8769a1f306e422298c1ddedd2eaf9a7f2b73fdb2663017e2bc21539233712a3193369ccf915158bc1752f348d0de4e84b5c6dba8df05)])

theorem signed_envelope_verifies_sample : ∃ s,
    signEnvelope signingRuntime (.obj sampleUnsigned) sampleKey = .ok s ∧
      (verifyEnvelope signingRuntime s none none true).signatureOk = true := by
  obtain ⟨s, hSigned, -⟩ := exists_of_returns (show returns
    (signEnvelope signingRuntime (.obj sampleUnsigned) sampleKey) (fun _ => true) = true
    by decide +kernel)
  exact ⟨s, hSigned,
    (signed_envelope_verifies (ed25519Correct _) sampleUnsigned sampleKey s hSigned).2.1⟩

end Sample
end ArioProof.Python
