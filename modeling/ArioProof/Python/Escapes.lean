import ArioProof.Evidence.Totality
import ArioProof.Python.EvidenceRun

/-! The inputs on which `verify_evidence_bundle` raises. An attestation catches
`MalformedRsaError` alone, and the two texts that end in a newline make its
decoders raise something else; a trace body is read without a type check. -/
namespace ArioProof.Python

open Foundation

variable (R : Runtime)

section Records

/-- A text whose hex decoder raises what its caller does not catch. -/
def HexEscapes (signature : Json) : Prop :=
  ∃ s, signature = .str s ∧ EndsInNewline isHexDigit s ∧ s.length % 2 = 0

/-- A modulus whose base64url decoder raises what its caller does not catch. -/
def ModulusEscapes (n : Json) : Prop :=
  ∃ s, n = .str s ∧ EndsInNewline Base64.isUrlsafe s ∧ s.length % 4 ≠ 1

/-- The exponent of the key is turned away before the key is imported. -/
def ForeignExponent (publicKey : Json) : Prop :=
  ∃ exponent, jwkPublicExponent publicKey = some exponent ∧ exponent ≠ rsaPublicExponent

/-- A record that reaches its cryptography, and that no check in front of the
key stops. -/
structure RecordEscapes (rec : Json) : Prop where
  complaint : attestationComplaint (quote R) rec = none
  payload : Canonicalizes R (rec.get "payload")
  text : HexEscapes (rec.get "signature") ∨
    (∃ signature, strictHexToBytes R (rec.get "signature") = .ok signature) ∧
      ForeignExponent (rec.get "public_key") ∧ ModulusEscapes ((rec.get "public_key").get "n")

/-- A record that gets a result: nothing in it makes a check raise what the
verifier does not catch. -/
structure RecordReads (rec : Json) : Prop where
  complaint : attestationComplaint (quote R) rec = none
  payload : Canonicalizes R (rec.get "payload")
  signature : ∃ signature, strictHexToBytes R (rec.get "signature") = .ok signature
  key : ForeignExponent (rec.get "public_key") ∨
    ∃ key, rsaPublicKeyFromJwk R (rec.get "public_key") = .ok key
  modulus : ∃ modulus, base64UrlToBytes ((rec.get "public_key").get "n") = .ok modulus

variable {R}

theorem strictHexToBytes_raises_iff {signature : Json} :
    (∃ exc, strictHexToBytes R signature = .error exc ∧ ¬exc.IsMalformedRsa) ↔
      HexEscapes signature := by
  unfold HexEscapes
  cases signature with
  | str s =>
      rw [strictHexToBytes_escapes_iff]
      exact ⟨fun h => ⟨s, rfl, h⟩, by rintro ⟨_, hs, h⟩; cases hs; exact h⟩
  | _ => simp [strictHexToBytes, Exc.IsMalformedRsa]

theorem base64UrlToBytes_raises_iff {n : Json} :
    (∃ exc, base64UrlToBytes n = .error exc ∧ ¬exc.IsMalformedRsa) ↔ ModulusEscapes n := by
  unfold ModulusEscapes
  cases n with
  | str s =>
      rw [base64UrlToBytes_escapes_iff]
      exact ⟨fun h => ⟨s, rfl, h⟩, by rintro ⟨_, hs, h⟩; cases hs; exact h⟩
  | _ => simp [base64UrlToBytes, Exc.IsMalformedRsa]

/-- The modulus of a key that was imported has been decoded. -/
theorem modulus_of_rsaPublicKeyFromJwk {publicKey : Json} {key : Nat × Nat}
    (h : rsaPublicKeyFromJwk R publicKey = .ok key) :
    ∃ modulus, base64UrlToBytes (publicKey.get "n") = .ok modulus := by
  unfold rsaPublicKeyFromJwk at h
  split_ifs at h
  cases hModulus : base64UrlToBytes (publicKey.get "n") with
  | ok modulus => exact ⟨modulus, rfl⟩
  | error exc =>
      simp only [hModulus, bind, Except.bind] at h
      cases exc <;> cases h

theorem verifyRsaPssSha256_of_signature {message signature : Bytes} {signatureHex publicKey : Json}
    (h : strictHexToBytes R signatureHex = .ok signature) :
    verifyRsaPssSha256 R message signatureHex publicKey =
      if jwkPublicExponent publicKey = none ∨
          jwkPublicExponent publicKey = some rsaPublicExponent then
        (rsaPublicKeyFromJwk R publicKey).map fun key =>
          R.rsaPssVerify key.1 key.2 signature message
      else .ok false := by
  unfold verifyRsaPssSha256
  simp only [h, Except.mapError, bind, Except.bind, pure, Except.pure]
  cases jwkPublicExponent publicKey with
  | none => cases rsaPublicKeyFromJwk R publicKey <;> rfl
  | some exponent =>
      by_cases hExponent : exponent = rsaPublicExponent
      · simp only [hExponent, ne_eq, not_true, if_false, or_true, if_true]
        cases rsaPublicKeyFromJwk R publicKey <;> rfl
      · simp [hExponent]

theorem foreignExponent_iff {publicKey : Json} :
    ForeignExponent publicKey ↔ ¬(jwkPublicExponent publicKey = none ∨
      jwkPublicExponent publicKey = some rsaPublicExponent) := by
  unfold ForeignExponent
  cases jwkPublicExponent publicKey <;> simp

theorem verifyRsaPssSha256_returns_iff {message : Bytes} {signatureHex publicKey : Json} :
    (∃ ok, verifyRsaPssSha256 R message signatureHex publicKey = .ok ok) ↔
      (∃ signature, strictHexToBytes R signatureHex = .ok signature) ∧
        (ForeignExponent publicKey ∨ ∃ key, rsaPublicKeyFromJwk R publicKey = .ok key) := by
  rw [foreignExponent_iff]
  cases hSignature : strictHexToBytes R signatureHex with
  | error exc =>
      simp only [verifyRsaPssSha256, hSignature, Except.mapError, bind, Except.bind, reduceCtorEq,
        exists_false, false_and]
  | ok signature =>
      rw [verifyRsaPssSha256_of_signature hSignature]
      simp only [Except.ok.injEq, exists_eq', true_and]
      split_ifs with hImport
      · cases rsaPublicKeyFromJwk R publicKey <;> simp [Except.map, hImport]
      · simp [hImport]

/-- Only the signature text lets a foreign exception out of the verification. -/
theorem verifyRsaPssSha256_raises_iff {message : Bytes} {signatureHex publicKey : Json} :
    (∃ exc, verifyRsaPssSha256 R message signatureHex publicKey = .error exc ∧
      ¬exc.IsMalformedRsa) ↔ HexEscapes signatureHex := by
  rw [← strictHexToBytes_raises_iff (R := R)]
  cases hSignature : strictHexToBytes R signatureHex with
  | error exc =>
      simp only [verifyRsaPssSha256, hSignature, Except.mapError, bind, Except.bind]
      cases exc <;> simp [Exc.IsMalformedRsa]
  | ok signature =>
      rw [verifyRsaPssSha256_of_signature hSignature]
      simp only [reduceCtorEq, false_and, exists_false, iff_false, not_exists, not_and, not_not]
      intro exc h
      split_ifs at h
      cases hKey : rsaPublicKeyFromJwk R publicKey with
      | error inner =>
          rw [hKey] at h
          cases h
          exact rsaPublicKeyFromJwk_error R hKey
      | ok key => simp [hKey, Except.map] at h

theorem deriveOperatorAddress_returns_iff {n : Json} :
    (∃ derived, deriveOperatorAddress R n = .ok derived) ↔
      ∃ modulus, base64UrlToBytes n = .ok modulus := by
  unfold deriveOperatorAddress
  cases base64UrlToBytes n <;> simp [bind, Except.bind, pure, Except.pure]

theorem deriveOperatorAddress_raises_iff {n : Json} :
    (∃ exc, deriveOperatorAddress R n = .error exc ∧ ¬exc.IsMalformedRsa) ↔ ModulusEscapes n := by
  rw [← base64UrlToBytes_raises_iff]
  unfold deriveOperatorAddress
  cases base64UrlToBytes n <;> simp [bind, Except.bind, pure, Except.pure]

/-- A record is read through exactly when it is readable part by part. -/
theorem verifyAttestation_reads_iff {rec : Json} {checkpoints : List (Str × Json)} :
    (∃ a, verifyAttestation R rec checkpoints = .ok (a, none)) ↔ RecordReads R rec := by
  constructor
  · rintro ⟨a, h⟩
    have run := verifyAttestation_eq_ok h
    obtain ⟨message, hPayload, hSignature⟩ := run.signature
    obtain ⟨derived, hDerived, -⟩ := run.operatorAddressBound
    obtain ⟨hHex, hKey⟩ := verifyRsaPssSha256_returns_iff.mp ⟨_, hSignature⟩
    exact ⟨run.complaint, ⟨message, hPayload⟩, hHex, hKey,
      deriveOperatorAddress_returns_iff.mp ⟨derived, hDerived⟩⟩
  · intro h
    obtain ⟨message, hPayload⟩ := h.payload
    obtain ⟨ok, hSignature⟩ : ∃ ok, verifyRsaPssSha256 R message (rec.get "signature")
        (rec.get "public_key") = .ok ok :=
      verifyRsaPssSha256_returns_iff.mpr ⟨h.signature, h.key⟩
    obtain ⟨derived, hDerived⟩ := deriveOperatorAddress_returns_iff.mpr h.modulus
    obtain ⟨a, hRun, -⟩ :=
      verifyAttestation_of_read h.complaint hPayload hSignature hDerived checkpoints
    exact ⟨a, hRun⟩

/-- The two handlers of a check pass on what is not a `MalformedRsaError`. -/
theorem verifyAttestation_eq_error {rec : Json} {checkpoints : List (Str × Json)} {exc : Exc} :
    verifyAttestation R rec checkpoints = .error exc ↔
      attestationComplaint (quote R) rec = none ∧ ¬exc.IsMalformedRsa ∧
        ∃ message, canonicalJson R (rec.get "payload") = .ok message ∧
          (verifyRsaPssSha256 R message (rec.get "signature") (rec.get "public_key") = .error exc ∨
            (∃ ok, verifyRsaPssSha256 R message (rec.get "signature") (rec.get "public_key") =
              .ok ok) ∧ deriveOperatorAddress R ((rec.get "public_key").get "n") = .error exc) := by
  unfold verifyAttestation
  cases attestationComplaint (quote R) rec with
  | some complaint => simp only [reduceCtorEq, false_and]
  | none =>
      dsimp only
      cases canonicalJson R (rec.get "payload") with
      | error inner => simp only [reduceCtorEq, false_and, exists_false, and_false]
      | ok message =>
          simp only [Except.ok.injEq, exists_eq_left', true_and]
          cases verifyRsaPssSha256 R message (rec.get "signature") (rec.get "public_key") with
          | error inner => cases inner <;> cases exc <;> simp [Exc.IsMalformedRsa]
          | ok ok =>
              dsimp only
              cases deriveOperatorAddress R ((rec.get "public_key").get "n") with
              | error inner => cases inner <;> cases exc <;> simp [Exc.IsMalformedRsa]
              | ok derived => simp only [reduceCtorEq, and_false, or_self]

/-- The check of a record raises what no handler around it catches exactly on
the texts its decoders do not expect. -/
theorem verifyAttestation_raises_iff {rec : Json} {checkpoints : List (Str × Json)} :
    (∃ exc, verifyAttestation R rec checkpoints = .error exc) ↔ RecordEscapes R rec := by
  simp only [verifyAttestation_eq_error]
  constructor
  · rintro ⟨exc, hComplaint, hExc, message, hPayload, hRaises | ⟨hReturns, hRaises⟩⟩
    · exact ⟨hComplaint, ⟨message, hPayload⟩,
        Or.inl (verifyRsaPssSha256_raises_iff.mp ⟨exc, hRaises, hExc⟩)⟩
    · have hModulus := deriveOperatorAddress_raises_iff.mp ⟨exc, hRaises, hExc⟩
      obtain ⟨hSignature, hForeign | ⟨key, hKey⟩⟩ := verifyRsaPssSha256_returns_iff.mp hReturns
      · exact ⟨hComplaint, ⟨message, hPayload⟩, Or.inr ⟨hSignature, hForeign, hModulus⟩⟩
      · -- An imported key has a modulus that decodes.
        obtain ⟨derived, hDerived⟩ :=
          deriveOperatorAddress_returns_iff.mpr (modulus_of_rsaPublicKeyFromJwk hKey)
        rw [hRaises] at hDerived
        cases hDerived
  · rintro ⟨hComplaint, ⟨message, hPayload⟩, hHex | ⟨hSignature, hForeign, hModulus⟩⟩
    · obtain ⟨exc, hRaises, hExc⟩ := verifyRsaPssSha256_raises_iff.mpr hHex
      exact ⟨exc, hComplaint, hExc, message, hPayload, Or.inl hRaises⟩
    · obtain ⟨exc, hRaises, hExc⟩ := deriveOperatorAddress_raises_iff.mpr hModulus
      exact ⟨exc, hComplaint, hExc, message, hPayload,
        Or.inr ⟨verifyRsaPssSha256_returns_iff.mpr ⟨hSignature, Or.inl hForeign⟩, hRaises⟩⟩

end Records

section Bundle

/-- A trace body without members, or with an entry without members. -/
def BodyEscapes (body : Json) : Prop :=
  body.isObj = false ∨ ∃ checkpoints events, body.get "checkpoints" = .arr checkpoints ∧
    body.get "events" = .arr events ∧ ∃ entry ∈ checkpoints ++ events, entry.isObj = false

/-- A list of records whose first unreadable one raises. -/
def RecordsEscape (records : List Json) : Prop :=
  ∃ before rec after, records = before ++ rec :: after ∧ (∀ r ∈ before, RecordReads R r) ∧
    RecordEscapes R rec

variable {R}

theorem kernel_checkEntry_eq_ok (member : String) (entry : Json) :
    (kernel R).checkEntry member entry = .ok () ↔ entry.isObj = true := by
  change (if entry.isObj then Except.ok () else Except.error (noGet entry)) = .ok () ↔ _
  split_ifs with h <;> simp [h]

theorem verifyAnchorTrace_returns_iff {b : Json} {bodyType : Str} {specVersionOk : Bool}
    {asserted : Option Str} {errors : List Str} {options : Options} :
    (∃ result, verifyAnchorTrace (kernel R) b bodyType specVersionOk asserted errors options =
      .ok result) ↔ ¬BodyEscapes (b.get "body") := by
  have hBody : (kernel R).checkBody (b.get "body") = .ok () ↔ (b.get "body").isObj = true :=
    kernel_checkEntry_eq_ok (R := R) "" _
  rw [ArioProof.verifyAnchorTrace_returns_iff, hBody]
  simp only [kernel_checkEntry_eq_ok, BodyEscapes, not_or, Bool.not_eq_false, not_exists, not_and,
    List.mem_append, or_imp, forall_and]

theorem verifyAttestations_returns_iff {checkpoints : List (Str × Json)} {records : List Json} :
    (∃ outcome, verifyAttestations (kernel R) checkpoints records = .ok outcome) ↔
      ¬RecordsEscape R records := by
  rw [ArioProof.verifyAttestations_returns_iff]
  change (¬∃ before rec after, records = before ++ rec :: after ∧
    (∀ r ∈ before, ∃ a, verifyAttestation R r checkpoints = .ok (a, none)) ∧
      ∃ exc, verifyAttestation R rec checkpoints = .error exc) ↔ _
  simp only [verifyAttestation_reads_iff, verifyAttestation_raises_iff, RecordsEscape]

/-- The bundles on which the verifier returns, which are all but those with an
entry or a record that makes an exception escape. -/
theorem verifyEvidenceBundle_returns_iff (b : Json) (options : Options) :
    (∃ result, verifyEvidenceBundle R b options = .ok result) ↔
      ¬Escapes (kernel R) BodyEscapes (RecordsEscape R) b :=
  ArioProof.verifyEvidenceBundle_returns_iff (fun _ => verifyAnchorTrace_returns_iff)
    (fun _ _ => verifyAttestations_returns_iff) b

end Bundle
end ArioProof.Python
