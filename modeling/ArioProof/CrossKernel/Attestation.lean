import ArioProof.CrossKernel.Agreement
import ArioProof.Python.AttestationRun
import ArioProof.Python.Escapes
import ArioProof.TypeScript.AttestationRun

/-! One attestation record in both kernels. Python keeps an integer level and
drops every other number; TypeScript keeps all numbers, as doubles. The decoders
of Python let a final newline through, and what they raise then is caught
nowhere. A checkpoint without an envelope has the content hash of `null` in
Python and none in TypeScript. An exponent that the decoders turn down ends the
check in Python; TypeScript leaves it to the import. -/
namespace ArioProof.CrossKernel

open Foundation

variable {P : Python.Runtime} {T : TypeScript.Runtime}

section Decoders

variable {s : Str} {bytes : Bytes}

/-- The signature decoder of Python accepts what the strict decoder does. -/
theorem strictHexToBytes_eq_ok :
    Python.strictHexToBytes P (.str s) = .ok bytes ↔ Hex.strictHex s = some bytes := by
  constructor
  · intro h
    unfold Python.strictHexToBytes at h
    by_cases hClass : Python.matchesClass Python.isHexDigit s = true
    · simp only [hClass, Bool.not_true, Bool.false_eq_true, if_false,
        Python.length_eq_len_of_matchesClass (fun _ => Python.lt_of_isHexDigit) hClass] at h
      by_cases hEven : s.length % 2 = 0
      · rw [if_neg (by omega)] at h
        obtain ⟨cs, hcs, rfl | rfl⟩ := Python.matchesClass_iff.mp hClass
        · rw [Hex.strictHex_of_digits hcs]
          cases hFrom : Hex.fromhex s with
          | none => simp [hFrom] at h
          | some own => simpa [hFrom] using h
        · have hNone := Hex.fromhex_digits_newline (s := cs) hcs
            (by rw [List.length_append, List.length_singleton] at hEven; omega)
          rw [Python.newline, hNone] at h
          cases h
      · rw [if_pos hEven] at h
        cases h
    · simp only [hClass, Bool.not_false, if_true] at h
      split_ifs at h
  · intro h
    have hDigits := Hex.isDigit_of_strictHex h
    have hClass : Python.matchesClass Python.isHexDigit s = true :=
      Python.matchesClass_iff.mpr ⟨s, hDigits, Or.inl rfl⟩
    have hEven : s.length % 2 = 0 := by
      have hLength := Hex.length_of_strictHex h
      omega
    unfold Python.strictHexToBytes
    dsimp only
    rw [Python.length_eq_len_of_matchesClass (fun _ => Python.lt_of_isHexDigit) hClass,
      if_neg (by omega), hClass, Hex.fromhex_of_strictHex h]
    rfl

theorem base64UrlToBytes_python :
    Python.base64UrlToBytes (.str s) = .ok bytes ↔
      (∀ c ∈ s, Base64.isUrlsafe c = true) ∧ Base64.decode s = some bytes := by
  unfold Python.base64UrlToBytes
  by_cases hClass : Python.matchesClass Base64.isUrlsafe s = true
  · simp only [hClass, Bool.not_true, Bool.false_eq_true, if_false,
      Python.length_eq_len_of_matchesClass (fun _ => Python.lt_of_isUrlsafe) hClass]
    by_cases hRem : s.length % 4 = 1
    · rw [if_pos hRem]
      refine iff_of_false (by simp) fun h => Base64.length_of_decode h.2 hRem
    · rw [if_neg hRem, Python.padding_eq _ (Nat.mod_lt _ (by omega))]
      obtain ⟨cs, hcs, rfl | rfl⟩ := Python.matchesClass_iff.mp hClass
      · obtain ⟨own, hDecode, h⟩ := Base64.urlsafeB64decode_padded s hcs hRem
        rw [h, hDecode]
        simp only [Except.mapError, Except.ok.injEq, Option.some.injEq]
        exact ⟨fun hEq => ⟨hcs, hEq⟩, fun hBoth => hBoth.2⟩
      · rw [List.length_append, List.length_singleton] at hRem ⊢
        obtain ⟨text, h⟩ := Base64.urlsafeB64decode_newline cs hcs (by omega)
        rw [List.append_assoc, List.singleton_append, Python.newline, h]
        refine iff_of_false (by simp [Except.mapError]) fun hBoth => ?_
        have hNewline := hBoth.1 0x0A (by simp)
        simp [Base64.isUrlsafe] at hNewline
  · simp only [hClass, Bool.not_false, if_true]
    exact iff_of_false (by simp) fun hBoth =>
      hClass (Python.matchesClass_iff.mpr ⟨s, hBoth.1, Or.inl rfl⟩)

theorem base64UrlToBytes_typeScript :
    TypeScript.base64UrlToBytes s = .ok bytes ↔
      (∀ c ∈ s, Base64.isUrlsafe c = true) ∧ Base64.decode s = some bytes := by
  unfold TypeScript.base64UrlToBytes
  by_cases hAll : s.all Base64.isUrlsafe = true
  · rw [hAll, Bool.not_true, if_neg Bool.false_ne_true]
    rw [List.all_eq_true] at hAll
    cases Base64.decode s with
    | none => simp
    | some own => simpa using fun _ => hAll
  · rw [Bool.eq_false_iff.mpr hAll]
    exact iff_of_false (by simp) fun hBoth => hAll (List.all_eq_true.mpr hBoth.1)

/-- The two base64url decoders accept the same texts, and decode them alike. -/
theorem base64UrlToBytes_iff :
    Python.base64UrlToBytes (.str s) = .ok bytes ↔ TypeScript.base64UrlToBytes s = .ok bytes :=
  base64UrlToBytes_python.trans base64UrlToBytes_typeScript.symm

theorem base64UrlToBytes_agree :
    (Python.base64UrlToBytes (.str s)).toOption = (TypeScript.base64UrlToBytes s).toOption := by
  apply Option.ext
  intro bytes
  rw [toOption_eq_some, toOption_eq_some, base64UrlToBytes_iff]

end Decoders

section Rsa

/-- The RSA implementations accept and reject the same decoded keys with the
exponent of an operator, and the same signatures under them. Nothing is assumed
of other exponents, which no import is reached with, nor of a modulus or an
exponent that the decoder of the kernels turns down. -/
structure RsaAgree (P : Python.Runtime) (T : TypeScript.Runtime) : Prop where
  importKey : ∀ n e modulus exponent, TypeScript.base64UrlToBytes n = .ok modulus →
    TypeScript.base64UrlToBytes e = .ok exponent →
    TypeScript.bytesToBigInt exponent = TypeScript.rsaPublicExponent →
    (T.importKey n e = .ok () ↔ 0 < Python.intFromBytes modulus ∧
      P.rsaPublicKey (Python.intFromBytes modulus) Python.rsaPublicExponent = .ok ())
  verify : ∀ n e modulus exponent signature message, TypeScript.base64UrlToBytes n = .ok modulus →
    TypeScript.base64UrlToBytes e = .ok exponent →
    TypeScript.bytesToBigInt exponent = TypeScript.rsaPublicExponent →
    T.rsaPssVerify n e signature message =
      P.rsaPssVerify (Python.intFromBytes modulus) Python.rsaPublicExponent signature message

/-- The key of a record that came through the checks of its shape. -/
structure RsaJwk (pub : Json) (n e : Str) : Prop where
  isObj : pub.isObj = true
  kty : (pub.get "kty").str? = some (utf16 "RSA")
  n : pub.get "n" = .str n
  e : pub.get "e" = .str e

variable {pub : Json} {n e : Str}

theorem rsaPublicKeyFromJwk_eq_ok (hKey : RsaJwk pub n e) {key : Nat × Nat} :
    Python.rsaPublicKeyFromJwk P pub = .ok key ↔ ∃ modulus exponent,
      Python.base64UrlToBytes (.str n) = .ok modulus ∧
      Python.base64UrlToBytes (.str e) = .ok exponent ∧
      0 < Python.intFromBytes modulus ∧ 0 < Python.intFromBytes exponent ∧
      P.rsaPublicKey (Python.intFromBytes modulus) (Python.intFromBytes exponent) = .ok () ∧
      key = (Python.intFromBytes modulus, Python.intFromBytes exponent) := by
  have hShape : ¬(!pub.isObj || (pub.get "kty").str? ≠ some (utf16 "RSA") ||
      !(pub.get "n").isStr || !(pub.get "e").isStr) = true := by
    simp [hKey.isObj, hKey.kty, hKey.n, hKey.e, Json.isStr]
  unfold Python.rsaPublicKeyFromJwk
  rw [if_neg hShape, hKey.n, hKey.e]
  cases Python.base64UrlToBytes (.str n) with
  | error exc => cases exc <;> simp [bind, Except.bind, Except.mapError]
  | ok modulus =>
      cases Python.base64UrlToBytes (.str e) with
      | error exc => cases exc <;> simp [bind, Except.bind, Except.mapError]
      | ok exponent =>
          simp only [bind, Except.bind, Except.ok.injEq, exists_and_left, exists_eq_left']
          by_cases hPositive : Python.intFromBytes modulus ≤ 0 ∨ Python.intFromBytes exponent ≤ 0
          · rw [if_pos hPositive]
            refine iff_of_false (by simp [throw, throwThe, MonadExceptOf.throw, Except.mapError]) ?_
            rintro ⟨hModulus, hExponent, -⟩
            omega
          · rw [if_neg hPositive]
            rw [not_or, Nat.not_le, Nat.not_le] at hPositive
            cases hImport : P.rsaPublicKey (Python.intFromBytes modulus)
                (Python.intFromBytes exponent) with
            | error text => simp [Except.mapError]
            | ok value => simp [Except.mapError, pure, Except.pure, hPositive, eq_comm]

theorem jwkPublicExponent_of_error (hKey : RsaJwk pub n e) {text : Str}
    (hExponent : TypeScript.base64UrlToBytes e = .error text) :
    Python.jwkPublicExponent pub = none := by
  have hSame := base64UrlToBytes_agree (s := e)
  rw [hExponent] at hSame
  have hShape : ¬(!pub.isObj || !(pub.get "e").isStr) = true := by
    simp [hKey.isObj, hKey.e, Json.isStr]
  unfold Python.jwkPublicExponent
  rw [if_neg hShape, hKey.e]
  cases hOk : Python.base64UrlToBytes (.str e) with
  | error exc => rfl
  | ok exponent => simp [hOk, Except.toOption] at hSame

theorem jwkPublicExponent_of_ok (hKey : RsaJwk pub n e) {exponent : Bytes}
    (hExponent : TypeScript.base64UrlToBytes e = .ok exponent) :
    Python.jwkPublicExponent pub =
      if exponent.isEmpty then none else some (Python.intFromBytes exponent) := by
  have hShape : ¬(!pub.isObj || !(pub.get "e").isStr) = true := by
    simp [hKey.isObj, hKey.e, Json.isStr]
  unfold Python.jwkPublicExponent
  rw [if_neg hShape, hKey.e, base64UrlToBytes_iff.mpr hExponent]
  cases exponent <;> rfl

/-- The outcomes of the two imports under the exponent of an operator. -/
theorem import_agree (hRsa : RsaAgree P T) (hKey : RsaJwk pub n e) {modulus exponent : Bytes}
    (hModulus : TypeScript.base64UrlToBytes n = .ok modulus)
    (hExponent : TypeScript.base64UrlToBytes e = .ok exponent)
    (hOperator : TypeScript.bytesToBigInt exponent = TypeScript.rsaPublicExponent) :
    (Python.rsaPublicKeyFromJwk P pub).toOption = (T.importKey n e).toOption.map fun _ =>
      (Python.intFromBytes modulus, Python.rsaPublicExponent) := by
  have hSame : Python.intFromBytes exponent = Python.rsaPublicExponent := hOperator
  have hImports := hRsa.importKey n e modulus exponent hModulus hExponent hOperator
  have hModulusPython := base64UrlToBytes_iff.mpr hModulus
  have hExponentPython := base64UrlToBytes_iff.mpr hExponent
  cases hImport : T.importKey n e with
  | ok value =>
      obtain ⟨hPositive, hPublic⟩ := hImports.mp hImport
      exact toOption_eq_some.mpr ((rsaPublicKeyFromJwk_eq_ok hKey).mpr ⟨modulus, exponent,
        hModulusPython, hExponentPython, hPositive, by rw [hSame]; decide,
        by rw [hSame]; exact hPublic, by rw [hSame]⟩)
  | error thrown =>
      cases hOk : Python.rsaPublicKeyFromJwk P pub with
      | error exc => rfl
      | ok key =>
          obtain ⟨own, other, hOwn, hOther, hPositive, -, hPublic, -⟩ :=
            (rsaPublicKeyFromJwk_eq_ok hKey).mp hOk
          rw [hModulusPython] at hOwn
          rw [hExponentPython] at hOther
          cases hOwn
          cases hOther
          rw [hSame] at hPublic
          rw [hImports.mpr ⟨hPositive, hPublic⟩] at hImport
          cases hImport

/-- Text that is no hex has no outcome in either language. -/
theorem verifyRsaPssSha256_of_text {s : Str} (hStrict : Hex.strictHex s = none) (message : Bytes) :
    (Python.verifyRsaPssSha256 P message (.str s) pub).toOption =
      (TypeScript.verifyRsaPssSha256 T message s ⟨n, e⟩).toOption := by
  unfold Python.verifyRsaPssSha256 TypeScript.verifyRsaPssSha256
  cases hP : Python.strictHexToBytes P (.str s) with
  | ok signature => simp [strictHexToBytes_eq_ok.mp hP] at hStrict
  | error exc =>
      cases hT : TypeScript.hexToBytes T (some (.str s)) with
      | ok signature => simp [TypeScript.hexToBytes_eq_ok.mp hT] at hStrict
      | error text => rfl

/-- Nor has a key whose exponent cannot be decoded and is turned away by the import. -/
theorem verifyRsaPssSha256_of_undecodable (hKey : RsaJwk pub n e) {s : Str} {signature : Bytes}
    (hStrict : Hex.strictHex s = some signature) {text : Str}
    (hDecoded : TypeScript.base64UrlToBytes e = .error text) (hThrown : T.importKey n e ≠ .ok ())
    (message : Bytes) : (Python.verifyRsaPssSha256 P message (.str s) pub).toOption =
      (TypeScript.verifyRsaPssSha256 T message s ⟨n, e⟩).toOption := by
  have hHex := (TypeScript.hexToBytes_eq_ok (R := T)).mpr hStrict
  rw [Python.verifyRsaPssSha256_of_signature (strictHexToBytes_eq_ok.mpr hStrict),
    jwkPublicExponent_of_error hKey hDecoded, if_pos (Or.inl rfl)]
  unfold TypeScript.verifyRsaPssSha256
  simp only [hHex, hDecoded, Except.mapError, bind, Except.bind]
  cases hImport : T.importKey n e with
  | ok value => exact (hThrown hImport).elim
  | error thrown =>
      cases hPythonKey : Python.rsaPublicKeyFromJwk P pub with
      | error exc => rfl
      | ok key =>
          obtain ⟨-, exponent, -, hOk, -⟩ := (rsaPublicKeyFromJwk_eq_ok hKey).mp hPythonKey
          rw [base64UrlToBytes_iff, hDecoded] at hOk
          cases hOk

/-- Under a key that both languages decode the outcomes are the same. -/
theorem verifyRsaPssSha256_of_exponent (hRsa : RsaAgree P T) (hKey : RsaJwk pub n e)
    {modulus exponent signature : Bytes} (hModulus : TypeScript.base64UrlToBytes n = .ok modulus)
    (hDecoded : TypeScript.base64UrlToBytes e = .ok exponent) {s : Str}
    (hStrict : Hex.strictHex s = some signature) (message : Bytes) :
    (Python.verifyRsaPssSha256 P message (.str s) pub).toOption =
      (TypeScript.verifyRsaPssSha256 T message s ⟨n, e⟩).toOption := by
  have hT := (TypeScript.hexToBytes_eq_ok (R := T)).mpr hStrict
  rw [Python.verifyRsaPssSha256_of_signature (strictHexToBytes_eq_ok.mpr hStrict),
    jwkPublicExponent_of_ok hKey hDecoded]
  unfold TypeScript.verifyRsaPssSha256
  simp only [hT, hDecoded, Except.mapError, bind, Except.bind]
  by_cases hEmpty : exponent.isEmpty = true
  · simp only [hEmpty, if_true, true_or]
    cases hImport : Python.rsaPublicKeyFromJwk P pub with
    | error exc => rfl
    | ok key =>
        -- Zero is no exponent in Python.
        obtain ⟨-, own, -, hOk, -, hPositive, -⟩ := (rsaPublicKeyFromJwk_eq_ok hKey).mp hImport
        rw [base64UrlToBytes_iff.mpr hDecoded] at hOk
        cases hOk
        rw [List.isEmpty_iff.mp hEmpty] at hPositive
        cases hPositive
  · by_cases hOperator : TypeScript.bytesToBigInt exponent = TypeScript.rsaPublicExponent
    · have hImport := import_agree hRsa hKey hModulus hDecoded hOperator
      have hVerifies := hRsa.verify n e modulus exponent signature message hModulus hDecoded
        hOperator
      have hSame : Python.intFromBytes exponent = Python.rsaPublicExponent := hOperator
      simp only [hEmpty, hOperator, hSame, if_false, ne_eq, not_true]
      cases hTypeScriptKey : T.importKey n e with
      | error thrown =>
          rw [hTypeScriptKey] at hImport
          cases hPythonKey : Python.rsaPublicKeyFromJwk P pub with
          | error exc => rfl
          | ok key => simp [hPythonKey, Except.toOption] at hImport
      | ok value =>
          rw [hTypeScriptKey] at hImport
          have hPythonKey := toOption_eq_some.mp hImport
          rw [hPythonKey]
          simp [Except.map, Except.toOption, pure, Except.pure, hVerifies]
    · have hForeign : Python.intFromBytes exponent ≠ Python.rsaPublicExponent := hOperator
      simp [hEmpty, hForeign, hOperator, Except.toOption, pure, Except.pure]

/-- Under a modulus that decodes, and an exponent that decodes or is turned away
by the import, the two verifications have one outcome, or none of them has any. -/
theorem verifyRsaPssSha256_agree (hRsa : RsaAgree P T) (hKey : RsaJwk pub n e) {modulus : Bytes}
    (hModulus : TypeScript.base64UrlToBytes n = .ok modulus)
    (hExponent : (∃ exponent, TypeScript.base64UrlToBytes e = .ok exponent) ∨
      T.importKey n e ≠ .ok ()) (message : Bytes) (s : Str) :
    (Python.verifyRsaPssSha256 P message (.str s) pub).toOption =
      (TypeScript.verifyRsaPssSha256 T message s ⟨n, e⟩).toOption := by
  cases hStrict : Hex.strictHex s with
  | none => exact verifyRsaPssSha256_of_text hStrict message
  | some signature =>
      cases hDecoded : TypeScript.base64UrlToBytes e with
      | ok exponent =>
          exact verifyRsaPssSha256_of_exponent hRsa hKey hModulus hDecoded hStrict message
      | error text =>
          refine verifyRsaPssSha256_of_undecodable hKey hStrict hDecoded ?_ message
          rcases hExponent with ⟨exponent, hOk⟩ | hThrown
          · rw [hDecoded] at hOk
            cases hOk
          · exact hThrown

theorem deriveOperatorAddress_agree (hHash : T.crypto.sha256 = P.crypto.sha256) (n : Str) :
    (Python.deriveOperatorAddress P (.str n)).toOption =
      (TypeScript.deriveOperatorAddress T n).toOption := by
  have hSame := base64UrlToBytes_agree (s := n)
  unfold Python.deriveOperatorAddress TypeScript.deriveOperatorAddress
  rw [hHash]
  cases hT : TypeScript.base64UrlToBytes n with
  | error text =>
      rw [hT] at hSame
      cases hP : Python.base64UrlToBytes (.str n) with
      | error exc => rfl
      | ok modulus => simp [hP, Except.toOption] at hSame
  | ok modulus =>
      rw [hT] at hSame
      rw [toOption_eq_some.mp hSame]
      rfl

end Rsa

section Payload

/-- Both kernels call for the same hash form. -/
theorem isSha256Hex_agree (s : Str) : Python.isSha256Hex s = TypeScript.isSha256Hex s := by
  unfold Python.isSha256Hex TypeScript.isSha256Hex
  cases hAll : s.all fun c => (0x30 ≤ c.toNat && c.toNat ≤ 0x39) ||
      (0x61 ≤ c.toNat && c.toNat ≤ 0x66) with
  | false => simp
  | true =>
      rw [Python.length_eq_len fun c hc => Python.isHighSurrogate_of_lt ?_]
      have hDigit := List.all_eq_true.mp hAll c hc
      simp only [Bool.or_eq_true, Bool.and_eq_true, decide_eq_true_eq] at hDigit
      omega

/-- A number as Python holds it: integers without a bound, and floats that are
doubles. -/
def pythonValue : Json → Option ℚ
  | .int n => some n
  | .float (.finite q) => some q
  | _ => none

/-- A number as TypeScript holds it: always a double, so that an integer is
rounded to the nearest one. -/
def typeScriptValue : Json → Option ℚ
  | .int n =>
      match Double.ofRat n with
      | .finite q => some q
      | _ => none
  | .float (.finite q) => some q
  | _ => none

/-- Two levels that are both absent, or one number. -/
def SameLevel (p t : Option Json) : Prop :=
  p = none ∧ t = none ∨
    ∃ q, p.bind pythonValue = some q ∧ t.bind typeScriptValue = some q

/-- A level is written as an integer that a double can hold, if it is a number. -/
def ExactLevel (payload : Json) : Prop :=
  match payload.get "level" with
  | .int n => Double.ofRat n = .finite n
  | .float _ => False
  | _ => True

theorem sameLevel_iff (payload : Json) (result : AttestationResult) :
    SameLevel (Python.labelled payload result).level (TypeScript.labelled payload result).level ↔
      ExactLevel payload := by
  simp only [Python.labelled, TypeScript.labelled, SameLevel, ExactLevel]
  cases payload.get "level" with
  | int n =>
      simp only [reduceCtorEq, and_self, false_or, Option.bind_some, pythonValue, typeScriptValue,
        Option.some.injEq, exists_eq_left']
      cases Double.ofRat (n : ℚ) <;> simp
  | float d => simp
  | _ => simp

/-- Levels that are the same number are the same JSON value. -/
theorem level_eq_of_exact {payload : Json} (h : ExactLevel payload) (result : AttestationResult) :
    (Python.labelled payload result).level = (TypeScript.labelled payload result).level := by
  unfold ExactLevel at h
  simp only [Python.labelled, TypeScript.labelled]
  cases hLevel : payload.get "level" with
  | float d =>
      rw [hLevel] at h
      exact h.elim
  | _ => rfl

/-- TypeScript binds the same hash, if the checkpoint has an envelope. -/
theorem bindDataHash_typeScript (hJcs : JcsAgree P T) (hHash : T.crypto.sha256 = P.crypto.sha256)
    (rec : Json) (txId : Str) (found : Option Json) :
    (TypeScript.bindDataHash T (rec.get "payload") txId found).1 = true ↔
      ∃ cp, found = some cp ∧ Python.SignedFor P rec cp ∧ (cp.get? "envelope").isSome = true := by
  cases found with
  | none => simp [TypeScript.bindDataHash]
  | some cp =>
      unfold TypeScript.bindDataHash
      cases hEnvelope : cp.get? "envelope" with
      | none => simp [TypeScript.jcs, hEnvelope]
      | some envelope =>
          have hMember : cp.get "envelope" = envelope := Json.get_of_get? hEnvelope
          have hSame := hJcs.canonical envelope
          unfold Python.SignedFor
          simp only [Option.some.injEq, exists_eq_left', hEnvelope, hMember, Option.isSome_some,
            and_true]
          cases hT : TypeScript.jcs T (some envelope) with
          | error text =>
              rw [hT] at hSame
              cases hP : Python.canonicalJson P envelope with
              | error exc => simp
              | ok bytes => simp [hP, Except.map, Except.toOption] at hSame
          | ok canonical =>
              rw [hT] at hSame
              have hP := toOption_eq_some.mp hSame
              have hHex : TypeScript.payloadDataHash T (rec.get "payload") =
                    TypeScript.sha256Hex T (utf8 canonical) ↔
                  Python.payloadDataHash P (rec.get "payload") =
                    Python.sha256Hex P (utf8 canonical) := by
                unfold TypeScript.payloadDataHash Python.payloadDataHash
                unfold TypeScript.sha256Hex Python.sha256Hex Crypto.sha256Hex
                rw [hHash]
                cases (rec.get "payload").get "data_hash" with
                | str h => exact T.folding.lower_eq_encode_iff.trans P.folding.lower_eq_encode_iff.symm
                | _ => rfl
              have hNe : Python.sha256Hex P (utf8 canonical) ≠ [] :=
                Python.sha256Hex_ne_nil (utf8 canonical)
              simp only [hP, Bool.and_eq_true, Bool.not_eq_true', List.isEmpty_eq_false_iff,
                decide_eq_true_eq, exists_eq_left', Except.ok.injEq]
              constructor
              · intro h
                exact hHex.mp h.2
              · intro h
                refine ⟨fun hEmpty => ?_, hHex.mpr h⟩
                have hOwn := hHex.mpr h
                rw [hEmpty, TypeScript.sha256Hex, Crypto.sha256Hex, hHash] at hOwn
                exact hNe hOwn.symm

end Payload

section Record

/-- Equal in every field but the notes, with one entry in the verdict. -/
structure SameAttestation (P : Python.Runtime) (T : TypeScript.Runtime) (p t : AttestationResult) :
    Prop where
  checkpointTxId : p.checkpointTxId = t.checkpointTxId
  operator : p.operator = t.operator
  gateway : p.gateway = t.gateway
  signatureOk : p.signatureOk = t.signatureOk
  operatorAddressBound : p.operatorAddressBound = t.operatorAddressBound
  dataHashBound : p.dataHashBound = t.dataHashBound
  checkpointResolved : p.checkpointResolved = t.checkpointResolved
  level : SameLevel p.level t.level
  subjectRefOk : p.subjectRefOk = t.subjectRefOk
  ok : p.ok = t.ok
  entry : (Python.canonicalJson P (attestationEntry p)).toOption =
    ((TypeScript.jcs T (some (attestationEntry t))).map utf8).toOption

/-- Both kernels find a record malformed, or both give it one result. -/
def AttestationAgrees (P : Python.Runtime) (T : TypeScript.Runtime) (rec : Json)
    (checkpoints : List (Str × Json)) : Prop :=
  ∃ p complaint, Python.verifyAttestation P rec checkpoints = .ok (p, complaint) ∧
    (complaint.isSome = true ∧ (TypeScript.verifyAttestation T rec checkpoints).2.isSome = true ∨
      complaint = none ∧ (TypeScript.verifyAttestation T rec checkpoints).2 = none ∧
        SameAttestation P T p (TypeScript.verifyAttestation T rec checkpoints).1)

/-- The checkpoint that carries the signed content hash has an envelope. -/
def BindsEnvelope (P : Python.Runtime) (rec : Json) (checkpoints : List (Str × Json)) : Prop :=
  ∀ cp, checkpoints.lookup ((rec.get "checkpoint_tx_id").str?.getD []) = some cp →
    Python.SignedFor P rec cp → (cp.get? "envelope").isSome = true

variable {rec : Json} {checkpoints : List (Str × Json)}

theorem complaint_agree {quote other : Option Json → Str}
    (h : attestationComplaint quote rec = none) : attestationComplaint other rec = none := by
  dsimp only [attestationComplaint] at h ⊢
  split_ifs at h ⊢
  rfl

theorem shape_of_complaint {quote : Option Json → Str} (h : attestationComplaint quote rec = none) :
    ∃ s n e, rec.get "signature" = .str s ∧ RsaJwk (rec.get "public_key") n e := by
  dsimp only [attestationComplaint] at h
  split_ifs at h with hRec hPayload hAlg hPub hSignature
  simp only [Bool.or_eq_true, Bool.not_eq_true', decide_eq_true_eq, not_or, Bool.not_eq_false,
    not_not] at hPub hSignature
  obtain ⟨⟨⟨hObj, hKty⟩, hn⟩, he⟩ := hPub
  obtain ⟨s, hs⟩ := str_of_isStr hSignature
  obtain ⟨n, hn⟩ := str_of_isStr hn
  obtain ⟨e, he⟩ := str_of_isStr he
  exact ⟨s, n, e, hs, hObj, hKty, hn, he⟩

/-- What the two results of a record that was read have in common, and where
the rest of them comes from. -/
structure Answered (P : Python.Runtime) (T : TypeScript.Runtime) (rec : Json)
    (checkpoints : List (Str × Json)) (p t : AttestationResult) : Prop where
  checkpointTxId : p.checkpointTxId = t.checkpointTxId
  operator : p.operator = t.operator
  gateway : p.gateway = t.gateway
  signatureOk : p.signatureOk = t.signatureOk
  operatorAddressBound : p.operatorAddressBound = t.operatorAddressBound
  checkpointResolved : p.checkpointResolved = t.checkpointResolved
  subjectRefOk : p.subjectRefOk = t.subjectRefOk
  levelPython : p.level = (Python.labelled (rec.get "payload") (emptyAttestation rec)).level
  levelTypeScript : t.level = (TypeScript.labelled (rec.get "payload") (emptyAttestation rec)).level
  boundPython : p.dataHashBound = (Python.bindDataHash P (rec.get "payload")
    ((rec.get "checkpoint_tx_id").str?.getD [])
    (checkpoints.lookup ((rec.get "checkpoint_tx_id").str?.getD []))).1
  boundTypeScript : t.dataHashBound = (TypeScript.bindDataHash T (rec.get "payload")
    ((rec.get "checkpoint_tx_id").str?.getD [])
    (checkpoints.lookup ((rec.get "checkpoint_tx_id").str?.getD []))).1
  okPython : p.ok = (p.signatureOk && p.operatorAddressBound && p.dataHashBound &&
    p.checkpointResolved)
  okTypeScript : t.ok = (t.signatureOk && t.operatorAddressBound && t.dataHashBound &&
    t.checkpointResolved)

theorem Answered.same_iff {p t : AttestationResult} (h : Answered P T rec checkpoints p t)
    (hJcs : JcsAgree P T) (hHash : T.crypto.sha256 = P.crypto.sha256) :
    SameAttestation P T p t ↔
      ExactLevel (rec.get "payload") ∧ BindsEnvelope P rec checkpoints := by
  have hLevel : SameLevel p.level t.level ↔ ExactLevel (rec.get "payload") := by
    rw [h.levelPython, h.levelTypeScript]
    exact sameLevel_iff _ _
  have hBound : p.dataHashBound = t.dataHashBound ↔ BindsEnvelope P rec checkpoints := by
    rw [h.boundPython, h.boundTypeScript, Bool.eq_iff_iff, Python.bindDataHash_iff,
      bindDataHash_typeScript hJcs hHash]
    constructor
    · intro hIff cp hFound hSigned
      obtain ⟨other, hOther, -, hSome⟩ := hIff.mp ⟨cp, hFound, hSigned⟩
      rw [hFound] at hOther
      cases hOther
      exact hSome
    · intro hBinds
      constructor
      · rintro ⟨cp, hFound, hSigned⟩
        exact ⟨cp, hFound, hSigned, hBinds cp hFound hSigned⟩
      · rintro ⟨cp, hFound, hSigned, -⟩
        exact ⟨cp, hFound, hSigned⟩
  constructor
  · intro hSame
    exact ⟨hLevel.mp hSame.level, hBound.mp hSame.dataHashBound⟩
  · rintro ⟨hExact, hBinds⟩
    have hData := hBound.mpr hBinds
    have hSameLevel : p.level = t.level := by
      rw [h.levelPython, h.levelTypeScript]
      exact level_eq_of_exact hExact _
    have hEntry : attestationEntry p = attestationEntry t := by
      unfold attestationEntry
      rw [h.operator, h.gateway, h.signatureOk, h.operatorAddressBound, hData, hSameLevel,
        h.subjectRefOk]
    exact {
      checkpointTxId := h.checkpointTxId
      operator := h.operator
      gateway := h.gateway
      signatureOk := h.signatureOk
      operatorAddressBound := h.operatorAddressBound
      dataHashBound := hData
      checkpointResolved := h.checkpointResolved
      level := hLevel.mpr hExact
      subjectRefOk := h.subjectRefOk
      ok := by rw [h.okPython, h.okTypeScript, h.signatureOk, h.operatorAddressBound, hData,
        h.checkpointResolved]
      entry := by
        rw [hEntry]
        exact hJcs.canonical _ }

/-- A record that could be read but for its exponent, which is no base64url,
and the import of TypeScript takes the key all the same. -/
structure ImportsUndecodable (P : Python.Runtime) (T : TypeScript.Runtime) (rec : Json) : Prop where
  complaint : attestationComplaint (Python.quote P) rec = none
  payload : Python.Canonicalizes P (rec.get "payload")
  signature : ∃ signature, Python.strictHexToBytes P (rec.get "signature") = .ok signature
  modulus : ∃ modulus, Python.base64UrlToBytes ((rec.get "public_key").get "n") = .ok modulus
  undecodable : ∀ exponent,
    Python.base64UrlToBytes ((rec.get "public_key").get "e") ≠ .ok exponent
  imported : T.importKey (TypeScript.recordKey rec).n (TypeScript.recordKey rec).e = .ok ()

/-- The exponent of a record that Python reads is base64url. -/
theorem exponent_of_reads (hReads : Python.RecordReads P rec) : ∃ exponent,
    Python.base64UrlToBytes ((rec.get "public_key").get "e") = .ok exponent := by
  obtain ⟨s, n, e, -, hKey⟩ := shape_of_complaint hReads.complaint
  rw [hKey.e]
  rcases hReads.key with ⟨k, hSome, -⟩ | ⟨key, hImport⟩
  · cases hExponent : TypeScript.base64UrlToBytes e with
    | ok exponent =>
        exact ⟨exponent, base64UrlToBytes_iff.mpr hExponent⟩
    | error text =>
        rw [jwkPublicExponent_of_error hKey hExponent] at hSome
        cases hSome
  · obtain ⟨-, exponent, -, hExponent, -⟩ := (rsaPublicKeyFromJwk_eq_ok hKey).mp hImport
    exact ⟨exponent, hExponent⟩

/-- Such a record is read by TypeScript, whose guard does not run on an exponent
that it cannot decode. -/
theorem ImportsUndecodable.reads_typeScript (h : ImportsUndecodable P T rec)
    (hJcs : JcsAgree P T) (checkpoints : List (Str × Json)) :
    (TypeScript.verifyAttestation T rec checkpoints).2 = none := by
  obtain ⟨s, n, e, hs, hKey⟩ := shape_of_complaint h.complaint
  obtain ⟨message, hPayload⟩ := h.payload
  obtain ⟨signature, hSignature⟩ := h.signature
  obtain ⟨modulus, hModulus⟩ := h.modulus
  have hImported := h.imported
  simp only [TypeScript.recordKey, hKey.n, hKey.e, Json.str?, Option.getD_some] at hImported
  obtain ⟨canonical, hCanonical⟩ : ∃ canonical,
      TypeScript.jcs T (some (rec.get "payload")) = .ok canonical := by
    have hSame := (hJcs.canonical_ok_iff _ _).mp hPayload
    cases hT : TypeScript.jcs T (some (rec.get "payload")) with
    | error text => simp [hT, Except.map] at hSame
    | ok canonical => exact ⟨canonical, rfl⟩
  rw [hs] at hSignature
  rw [hKey.n] at hModulus
  have hBytes := (TypeScript.hexToBytes_eq_ok (R := T)).mpr (strictHexToBytes_eq_ok.mp hSignature)
  have hModulusToo := base64UrlToBytes_iff.mp hModulus
  obtain ⟨text, hExponent⟩ : ∃ text, TypeScript.base64UrlToBytes e = .error text := by
    cases hDecoded : TypeScript.base64UrlToBytes e with
    | error text => exact ⟨text, rfl⟩
    | ok exponent =>
        refine (h.undecodable exponent ?_).elim
        rw [hKey.e]
        exact base64UrlToBytes_iff.mpr hDecoded
  have hVerified : TypeScript.verifyRsaPssSha256 T (utf8 canonical) s ⟨n, e⟩ =
      .ok (T.rsaPssVerify n e signature (utf8 canonical)) := by
    simp [TypeScript.verifyRsaPssSha256, hBytes, hExponent, hImported, bind, Except.bind,
      Except.mapError, pure, Except.pure]
  have hDerived : TypeScript.deriveOperatorAddress T n =
      .ok (Base64.encode (T.crypto.sha256.digest modulus)) := by
    rw [TypeScript.deriveOperatorAddress, hModulusToo]
    rfl
  rw [TypeScript.verifyAttestation_reads_iff]
  refine ⟨complaint_agree h.complaint,
    ⟨canonical, T.rsaPssVerify n e signature (utf8 canonical), hCanonical, ?_⟩,
    Base64.encode (T.crypto.sha256.digest modulus), ?_⟩
  · simp only [TypeScript.recordKey, hs, hKey.n, hKey.e, Json.str?, Option.getD_some]
    exact hVerified
  · simp only [TypeScript.recordKey, hKey.n, Json.str?, Option.getD_some]
    exact hDerived

/-- A record that Python reads is read by TypeScript too. -/
theorem answered_of_reads (hJcs : JcsAgree P T) (hHash : T.crypto.sha256 = P.crypto.sha256)
    (hRsa : RsaAgree P T) (hReads : Python.RecordReads P rec) (checkpoints : List (Str × Json)) :
    ∃ p t, Python.verifyAttestation P rec checkpoints = .ok (p, none) ∧
      TypeScript.verifyAttestation T rec checkpoints = (t, none) ∧
      Answered P T rec checkpoints p t := by
  obtain ⟨s, n, e, hs, hKey⟩ := shape_of_complaint hReads.complaint
  obtain ⟨message, hPayload⟩ := hReads.payload
  obtain ⟨signatureOk, hSignature⟩ : ∃ ok, Python.verifyRsaPssSha256 P message (rec.get "signature")
      (rec.get "public_key") = .ok ok :=
    Python.verifyRsaPssSha256_returns_iff.mpr ⟨hReads.signature, hReads.key⟩
  obtain ⟨derived, hDerived⟩ := (Python.deriveOperatorAddress_returns_iff (R := P)).mpr hReads.modulus
  obtain ⟨modulus, hModulus⟩ := hReads.modulus
  obtain ⟨canonical, hCanonical, rfl⟩ : ∃ canonical,
      TypeScript.jcs T (some (rec.get "payload")) = .ok canonical ∧ utf8 canonical = message := by
    have hSame := (hJcs.canonical_ok_iff _ _).mp hPayload
    cases hT : TypeScript.jcs T (some (rec.get "payload")) with
    | error text => simp [hT, Except.map] at hSame
    | ok canonical => exact ⟨canonical, rfl, by simpa [hT, Except.map] using hSame⟩
  have hSignatureToo : TypeScript.verifyRsaPssSha256 T (utf8 canonical) s ⟨n, e⟩ =
      .ok signatureOk := by
    rw [hKey.n] at hModulus
    have hModulusToo := base64UrlToBytes_iff.mp hModulus
    obtain ⟨exponent, hExponent⟩ := exponent_of_reads hReads
    rw [hKey.e] at hExponent
    have hExponentToo := base64UrlToBytes_iff.mp hExponent
    rw [← toOption_eq_some, ← verifyRsaPssSha256_agree hRsa hKey hModulusToo
      (Or.inl ⟨exponent, hExponentToo⟩), ← hs, hSignature]
    rfl
  have hDerivedToo : TypeScript.deriveOperatorAddress T n = .ok derived := by
    rw [← toOption_eq_some, ← deriveOperatorAddress_agree hHash, ← hKey.n, hDerived]
    rfl
  have hForms : Python.isSha256Hex = TypeScript.isSha256Hex := funext isSha256Hex_agree
  unfold Python.verifyAttestation TypeScript.verifyAttestation
  simp only [hReads.complaint, complaint_agree hReads.complaint, hPayload, hCanonical,
    hs, hKey.n, hKey.e, Json.str?, Option.getD_some, hSignatureToo, hDerivedToo]
  rw [hs] at hSignature
  rw [hKey.n] at hDerived
  simp only [hSignature, hDerived]
  refine ⟨_, _, rfl, rfl, rfl, rfl, rfl, rfl, rfl, rfl, ?_, rfl, rfl, rfl, rfl, rfl, rfl⟩
  rw [hForms]

/-- A record that TypeScript reads is read by Python, unless its exponent is no
base64url. -/
theorem reads_of_typeScript (hJcs : JcsAgree P T) (hRsa : RsaAgree P T)
    (h : (TypeScript.verifyAttestation T rec checkpoints).2 = none) :
    Python.RecordReads P rec ∨ ImportsUndecodable P T rec := by
  obtain ⟨hComplaint, ⟨canonical, signatureOk, hCanonical, hSignature⟩, derived, hDerived⟩ :=
    TypeScript.verifyAttestation_reads_iff.mp h
  obtain ⟨s, n, e, hs, hKey⟩ := shape_of_complaint hComplaint
  simp only [TypeScript.recordKey, hs, hKey.n, hKey.e, Json.str?, Option.getD_some] at hSignature
  simp only [TypeScript.recordKey, hKey.n, Json.str?, Option.getD_some] at hDerived
  have hPayload : Python.canonicalJson P (rec.get "payload") = .ok (utf8 canonical) := by
    rw [hJcs.canonical_ok_iff, hCanonical]
    rfl
  obtain ⟨modulus, hModulus, -⟩ := bind_eq_ok.mp hDerived
  have hModulusPython : Python.base64UrlToBytes ((rec.get "public_key").get "n") = .ok modulus := by
    rw [hKey.n]
    exact base64UrlToBytes_iff.mpr hModulus
  by_cases hOpen : (∃ exponent, TypeScript.base64UrlToBytes e = .ok exponent) ∨
      T.importKey n e ≠ .ok ()
  · have hVerified : Python.verifyRsaPssSha256 P (utf8 canonical) (rec.get "signature")
        (rec.get "public_key") = .ok signatureOk := by
      rw [← toOption_eq_some, hs, verifyRsaPssSha256_agree hRsa hKey hModulus hOpen, hSignature]
      rfl
    obtain ⟨hHex, hImports⟩ := Python.verifyRsaPssSha256_returns_iff.mp ⟨signatureOk, hVerified⟩
    exact Or.inl ⟨complaint_agree hComplaint, ⟨_, hPayload⟩, hHex, hImports, modulus,
      hModulusPython⟩
  · rw [not_or, not_exists, not_not] at hOpen
    obtain ⟨bytes, hBytes⟩ : ∃ bytes, TypeScript.hexToBytes T (some (.str s)) = .ok bytes := by
      obtain ⟨bytes, hBytes, -⟩ := bind_eq_ok.mp hSignature
      cases hHex : TypeScript.hexToBytes T (some (.str s)) with
      | error text => simp [hHex, Except.mapError] at hBytes
      | ok own => exact ⟨own, rfl⟩
    refine Or.inr ⟨complaint_agree hComplaint, ⟨_, hPayload⟩, ⟨bytes, ?_⟩,
      ⟨modulus, hModulusPython⟩, ?_, ?_⟩
    · rw [hs]
      exact strictHexToBytes_eq_ok.mpr (TypeScript.hexToBytes_eq_ok.mp hBytes)
    · intro exponent hExponent
      rw [hKey.e] at hExponent
      exact hOpen.1 exponent (base64UrlToBytes_iff.mp hExponent)
    · simp only [TypeScript.recordKey, hKey.n, hKey.e, Json.str?, Option.getD_some]
      exact hOpen.2

/-- The kernels agree on a record exactly if nothing in it makes Python raise,
the import takes no key that only its exponent makes unreadable and, where the
record is read, its level is an integer that a double holds and the checkpoint
it binds to has an envelope. -/
theorem attestations_agree_iff (hJcs : JcsAgree P T) (hHash : T.crypto.sha256 = P.crypto.sha256)
    (hRsa : RsaAgree P T) (rec : Json) (checkpoints : List (Str × Json)) :
    AttestationAgrees P T rec checkpoints ↔
      ¬Python.RecordEscapes P rec ∧ ¬ImportsUndecodable P T rec ∧
        (Python.RecordReads P rec →
          ExactLevel (rec.get "payload") ∧ BindsEnvelope P rec checkpoints) := by
  by_cases hReads : Python.RecordReads P rec
  · obtain ⟨p, t, hP, hT, answered⟩ := answered_of_reads hJcs hHash hRsa hReads checkpoints
    have hReturns : ¬Python.RecordEscapes P rec := by
      rw [← Python.verifyAttestation_raises_iff, hP]
      rintro ⟨exc, h⟩
      cases h
    have hDecodes : ¬ImportsUndecodable P T rec := by
      intro h
      obtain ⟨exponent, hExponent⟩ := exponent_of_reads hReads
      exact h.undecodable exponent hExponent
    rw [← answered.same_iff hJcs hHash]
    unfold AttestationAgrees
    rw [hP, hT]
    constructor
    · rintro ⟨p', complaint, hOk, ⟨hSome, hToo⟩ | ⟨-, -, hSame⟩⟩
      · cases hToo
      · cases hOk
        exact ⟨hReturns, hDecodes, fun _ => hSame⟩
    · rintro ⟨-, -, hSame⟩
      exact ⟨p, none, rfl, Or.inr ⟨rfl, rfl, hSame hReads⟩⟩
  · have hMalformed : (TypeScript.verifyAttestation T rec checkpoints).2.isSome = true ↔
        ¬ImportsUndecodable P T rec := by
      rw [Option.isSome_iff_ne_none]
      constructor
      · intro hSome h
        exact hSome (h.reads_typeScript hJcs checkpoints)
      · intro hDecodes h
        exact (reads_of_typeScript hJcs hRsa h).elim hReads hDecodes
    have hUnread : ∀ p, Python.verifyAttestation P rec checkpoints ≠ .ok (p, none) :=
      fun p h => hReads (Python.verifyAttestation_reads_iff.mp ⟨p, h⟩)
    rw [and_iff_left fun h => (hReads h).elim, ← Python.verifyAttestation_raises_iff,
      ← hMalformed]
    constructor
    · rintro ⟨p, complaint, hOk, ⟨-, hToo⟩ | ⟨rfl, -⟩⟩
      · refine ⟨?_, hToo⟩
        rintro ⟨exc, hError⟩
        rw [hOk] at hError
        cases hError
      · exact (hUnread p hOk).elim
    · rintro ⟨hReturns, hToo⟩
      cases hP : Python.verifyAttestation P rec checkpoints with
      | error exc => exact (hReturns ⟨exc, hP⟩).elim
      | ok outcome =>
          obtain ⟨p, complaint⟩ := outcome
          refine ⟨p, complaint, hP, Or.inl ⟨?_, hToo⟩⟩
          rw [Option.isSome_iff_ne_none]
          rintro rfl
          exact hUnread p hP

end Record

section Sample

open Python Reference

variable {S : Signatures}

theorem ofOctets_eq (bytes : Bytes) : ofOctets 0 bytes = intFromBytes bytes := by
  have run (acc : Nat) : ofOctets acc bytes =
      bytes.foldl (fun acc b => 256 * acc + b.toNat) acc := by
    induction bytes generalizing acc with
    | nil => rfl
    | cons b rest ih =>
        rw [ofOctets, eager_eq, ih, List.foldl_cons]
        rfl
  exact run 0

/-- An import that turns away what does not decode, and the modulus zero. -/
def importing (S : Signatures) : TypeScript.Runtime :=
  { typeScript S with
    importKey := fun n e =>
      match TypeScript.base64UrlToBytes n, TypeScript.base64UrlToBytes e with
      | .ok modulus, .ok _ =>
          if TypeScript.bytesToBigInt modulus = 0 then .error "Invalid keyData" else .ok ()
      | _, _ => .error "Invalid keyData" }

/-- Signatures hold under the number that the modulus denotes. -/
theorem rsaPssVerify_importing {n : Str} {modulus : Bytes} (h : Base64.decode n = some modulus)
    (e : Str) (signature message : Bytes) : (importing S).rsaPssVerify n e signature message =
      rsaVerify S (intFromBytes modulus) signature message := by
  simp only [importing, typeScript, h, ofOctets_eq]

theorem rsaAgree : RsaAgree (python S) (importing S) where
  importKey n e modulus exponent hModulus hExponent hOperator := by
    have hPublic : (python S).rsaPublicKey (intFromBytes modulus) rsaPublicExponent = .ok () := rfl
    have hSame : TypeScript.bytesToBigInt modulus = intFromBytes modulus := rfl
    simp only [importing, hModulus, hExponent, hPublic, and_true, hSame]
    split_ifs with hZero
    · simp [hZero]
    · simpa using Nat.pos_of_ne_zero hZero
  verify n e modulus exponent signature message hModulus hExponent hOperator :=
    rsaPssVerify_importing (base64UrlToBytes_typeScript.mp hModulus).2 e signature message

theorem jcsAgree_importing : JcsAgree (python S) (importing S) := jcsAgree (S := S)

/-- The TypeScript side of `attestationRuntime`. -/
abbrev attestationRuntimeToo : TypeScript.Runtime :=
  importing { signedWith [] with rsa := [⟨sampleModulus,
    0xcda7a1e36f56274876c27ffa4b0f67baeee09d1bc9ed010bc762eafb0e6eca2a, sampleRsaSignature⟩] }

theorem attestations_agree_sample :
    AttestationAgrees attestationRuntime attestationRuntimeToo (sampleAttestation "tx1")
      sampleSources := by
  obtain ⟨a, hRun, -⟩ := sampleAttestation_run
  have hReturns : ¬RecordEscapes attestationRuntime (sampleAttestation "tx1") := by
    rw [← verifyAttestation_raises_iff, hRun]
    rintro ⟨exc, h⟩
    cases h
  refine (attestations_agree_iff jcsAgree_importing rfl rsaAgree (sampleAttestation "tx1")
    sampleSources).mpr ⟨hReturns, fun h => ?_, fun _ => ⟨trivial, fun cp hFound _ => ?_⟩⟩
  · exact h.undecodable [1, 0, 1] (by decide +kernel)
  have hAll : ∀ entry ∈ sampleSources, (entry.2.get? "envelope").isSome = true := by decide +kernel
  obtain ⟨before, after, hSources, -⟩ := List.lookup_eq_some_iff.mp hFound
  have hMem : (((sampleAttestation "tx1").get "checkpoint_tx_id").str?.getD [], cp) ∈
      sampleSources := by
    rw [hSources]
    simp
  exact hAll _ hMem

/-- The sample with the level `1.0`, which Python reads as a `float`. -/
def floatLevel : Json :=
  (sampleAttestation "tx1").set "payload"
    (((sampleAttestation "tx1").get "payload").set "level" (.float (.finite 1)))

theorem floatLevel_disagrees :
    ¬AttestationAgrees attestationRuntime attestationRuntimeToo floatLevel sampleSources := by
  obtain ⟨⟨a, complaint⟩, hRun, h⟩ := exists_of_returns (show returns
    (verifyAttestation attestationRuntime floatLevel sampleSources) (fun entry =>
      entry.1.level.isNone = true ∧ entry.2 = none) = true by decide +kernel)
  have hToo : (TypeScript.verifyAttestation attestationRuntimeToo floatLevel
      sampleSources).1.level.isSome = true := by decide +kernel
  obtain ⟨hNone, rfl⟩ := of_decide_eq_true h
  rintro ⟨p, complaint, hOk, ⟨hSome, -⟩ | ⟨-, -, hSame⟩⟩
  · rw [hRun] at hOk
    cases hOk
    cases hSome
  · rw [hRun] at hOk
    cases hOk
    rcases hSame.level with ⟨-, hAbsent⟩ | ⟨q, hLevel, -⟩
    · rw [hAbsent] at hToo
      cases hToo
    · rw [Option.isNone_iff_eq_none.mp hNone] at hLevel
      cases hLevel

end Sample
end ArioProof.CrossKernel
