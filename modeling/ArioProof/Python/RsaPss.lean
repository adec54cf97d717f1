import ArioProof.Data.Base64
import ArioProof.Python.Runtime

/-! `rsa_pss.py`. Its two regular expressions end in `$`, which also matches in
front of a final newline; the decoders behind them then see that newline, and
what they raise is not a `MalformedRsaError`. -/
namespace ArioProof.Python

open Foundation

variable (R : Runtime)

def newline : UInt16 := 0x0A

/-- `re.match("^[class]*$", s)` for a class without the newline. The `$` also
matches in front of a final newline, which passes the check with it. -/
def matchesClass (inClass : UInt16 → Bool) (s : Str) : Bool :=
  s.all inClass || (s.getLast? = some newline && s.dropLast.all inClass)

/-- The character class of the hex pattern, which is that of the decoder behind
it. -/
def isHexDigit (c : UInt16) : Bool := (Hex.digit? c).isSome

/-- The hex decoder for signatures: an even length, a pattern that a final newline
passes, and then `bytes.fromhex`. -/
def strictHexToBytes (hexStr : Json) : Except Exc Bytes :=
  match hexStr with
  | .str s =>
      if len s % 2 ≠ 0 then .error (.malformedRsaError "odd-length hex string")
      else if !matchesClass isHexDigit s then .error (.malformedRsaError "non-hex characters")
      else
        match Hex.fromhex s with
        | some bytes => .ok bytes
        | none => .error (.valueError (R.fromhexError s))
  | _ => .error (.malformedRsaError "signature is not a string")

/-- The base64url decoder for keys: a pattern, then padding, then the decoder of
the standard library. -/
def base64UrlToBytes (b64url : Json) : Except Exc Bytes :=
  match b64url with
  | .str s =>
      if !matchesClass Base64.isUrlsafe s then
        .error (.malformedRsaError "non-base64url characters")
      else
        let rem := len s % 4
        if rem = 1 then .error (.malformedRsaError "invalid base64url length")
        else
          let padded := s ++ List.replicate (if rem = 0 then 0 else 4 - rem) Base64.pad
          (Base64.urlsafeB64decode padded).mapError fun text => .valueError (utf16 text)
  | _ => .error (.malformedRsaError "non-base64url characters")

/-- `int.from_bytes(data, "big")`. -/
def intFromBytes (data : Bytes) : Nat := data.foldl (fun acc b => 256 * acc + b.toNat) 0

/-- The modulus and exponent of an importable JWK. Whatever goes wrong on the way
is reported as a malformed key. -/
def rsaPublicKeyFromJwk (publicKey : Json) : Except Exc (Nat × Nat) :=
  if !publicKey.isObj || (publicKey.get "kty").str? ≠ some (utf16 "RSA") ||
      !(publicKey.get "n").isStr || !(publicKey.get "e").isStr then
    .error (.malformedRsaError "malformed RSA public key: not a \x7bkty:RSA,n,e\x7d JWK")
  else
    let imported : Except Exc (Nat × Nat) := do
      let n := intFromBytes (← base64UrlToBytes (publicKey.get "n"))
      let e := intFromBytes (← base64UrlToBytes (publicKey.get "e"))
      if n ≤ 0 ∨ e ≤ 0 then throw (.valueError "non-positive RSA parameter")
      (R.rsaPublicKey n e).mapError .library
      return (n, e)
    imported.mapError fun
      | .malformedRsaError text => .malformedRsaError text
      | exc => .malformedRsaError (fstring ["malformed RSA public key: ", exc.text])

/-- The exponent of every operator key, 65537. -/
def rsaPublicExponent : Nat := 65537

/-- The exponent of a key, where it can be decoded. It is read for the guard only,
apart from the import; what cannot be decoded the guard leaves to the import. -/
def jwkPublicExponent (publicKey : Json) : Option Nat :=
  if !publicKey.isObj || !(publicKey.get "e").isStr then none
  else
    match base64UrlToBytes (publicKey.get "e") with
    | .error _ => none
    | .ok raw => if raw.length = 0 then none else some (intFromBytes raw)

/-- The check of a record signature. A key with another exponent is refused before
it is used. -/
def verifyRsaPssSha256 (payloadBytes : Bytes) (signatureHex publicKey : Json) :
    Except Exc Bool := do
  let signature ← (strictHexToBytes R signatureHex).mapError fun
    | .malformedRsaError text =>
        .malformedRsaError (fstring ["malformed signature hex: ", text])
    | exc => exc
  match jwkPublicExponent publicKey with
  | some exponent =>
      if exponent ≠ rsaPublicExponent then return false
  | none => pure ()
  let (n, e) ← rsaPublicKeyFromJwk R publicKey
  return R.rsaPssVerify n e signature payloadBytes

/-- The address of an operator: the hash of the modulus in base64url. -/
def deriveOperatorAddress (nBase64url : Json) : Except Exc Str := do
  let modulus ← base64UrlToBytes nBase64url
  return Base64.encode (sha256 R modulus)

section Length

/-- A string without high surrogates has as many characters as units. -/
theorem length_eq_len {s : Str} (h : ∀ c ∈ s, Case.isHighSurrogate c = false) : len s = s.length := by
  unfold len
  induction s using chars.induct with
  | case1 => rfl
  | case2 c => rfl
  | case3 c d rest hPair ih =>
      rw [h c List.mem_cons_self] at hPair
      simp at hPair
  | case4 c d rest hPair ih =>
      rw [chars, if_neg hPair, List.length_cons, ih fun x hx => h x (List.mem_cons_of_mem c hx)]
      rfl

theorem isHighSurrogate_of_lt {c : UInt16} (h : c.toNat < 0xD800) : Case.isHighSurrogate c = false := by
  simp only [Case.isHighSurrogate, Bool.and_eq_false_iff, decide_eq_false_iff_not]
  omega

theorem lt_of_isUrlsafe {c : UInt16} (h : Base64.isUrlsafe c = true) : c.toNat < 0xD800 := by
  simp only [Base64.isUrlsafe, Bool.or_eq_true, Bool.and_eq_true, decide_eq_true_eq] at h
  omega

theorem lt_of_isHexDigit {c : UInt16} (h : isHexDigit c = true) : c.toNat < 0xD800 := by
  unfold isHexDigit Hex.digit? at h
  split_ifs at h <;> first | omega | simp at h

/-- What the two regular expressions accept: texts of the class, and the same with
a newline behind them. -/
theorem matchesClass_iff {inClass : UInt16 → Bool} {s : Str} :
    matchesClass inClass s = true ↔ ∃ cs, (∀ c ∈ cs, inClass c = true) ∧
      (s = cs ∨ s = cs ++ [newline]) := by
  simp only [matchesClass, Bool.or_eq_true, List.all_eq_true, Bool.and_eq_true,
    decide_eq_true_eq]
  constructor
  · rintro (h | ⟨hLast, h⟩)
    · exact ⟨s, h, Or.inl rfl⟩
    · exact ⟨s.dropLast, h, Or.inr (List.dropLast_append_getLast? _ hLast).symm⟩
  · rintro ⟨cs, h, rfl | rfl⟩
    · exact Or.inl h
    · exact Or.inr ⟨by simp, by simpa using h⟩

end Length

section Outcomes

/-- The texts that pass a guard by their final newline alone. -/
def EndsInNewline (inClass : UInt16 → Bool) (s : Str) : Prop :=
  ∃ cs, (∀ c ∈ cs, inClass c = true) ∧ s = cs ++ [newline]

/-- The one exception the callers of this module expect. -/
def Exc.IsMalformedRsa : Exc → Prop
  | .malformedRsaError _ => True
  | _ => False

theorem length_eq_len_of_matchesClass {inClass : UInt16 → Bool} {s : Str}
    (hLow : ∀ c, inClass c = true → c.toNat < 0xD800) (h : matchesClass inClass s = true) :
    len s = s.length := by
  obtain ⟨cs, hcs, hs⟩ := matchesClass_iff.mp h
  refine length_eq_len fun c hc => isHighSurrogate_of_lt ?_
  rcases hs with rfl | rfl
  · exact hLow c (hcs c hc)
  · rcases List.mem_append.mp hc with hc | hc
    · exact hLow c (hcs c hc)
    · rw [List.mem_singleton.mp hc]
      decide

theorem padding_eq (rem : Nat) (h : rem < 4) :
    (if rem = 0 then 0 else 4 - rem) = (4 - rem) % 4 := by
  split_ifs <;> omega

/-- `_base64url_to_bytes` lets a foreign exception out exactly on a final
newline that the length check does not reject by chance. -/
theorem base64UrlToBytes_escapes_iff (s : Str) :
    (∃ exc, base64UrlToBytes (.str s) = .error exc ∧ ¬exc.IsMalformedRsa) ↔
      EndsInNewline Base64.isUrlsafe s ∧ s.length % 4 ≠ 1 := by
  unfold base64UrlToBytes
  by_cases hClass : matchesClass Base64.isUrlsafe s = true
  · simp only [hClass, Bool.not_true, Bool.false_eq_true, if_false,
      length_eq_len_of_matchesClass (fun _ => lt_of_isUrlsafe) hClass]
    by_cases hRem : s.length % 4 = 1
    · simp [hRem, Exc.IsMalformedRsa]
    · rw [if_neg hRem, padding_eq _ (Nat.mod_lt _ (by omega))]
      obtain ⟨cs, hcs, rfl | rfl⟩ := matchesClass_iff.mp hClass
      · obtain ⟨bytes, -, h⟩ := Base64.urlsafeB64decode_padded s hcs hRem
        simp only [h, Except.mapError, reduceCtorEq, false_and, exists_false, false_iff]
        rintro ⟨⟨ds, -, rfl⟩, -⟩
        have := hcs newline (by simp)
        simp [Base64.isUrlsafe, newline] at this
      · rw [List.length_append, List.length_singleton] at hRem ⊢
        obtain ⟨text, h⟩ := Base64.urlsafeB64decode_newline cs hcs (by omega)
        rw [List.append_assoc, List.singleton_append, newline, h]
        exact iff_of_true ⟨_, rfl, id⟩ ⟨⟨cs, hcs, rfl⟩, hRem⟩
  · simp only [hClass, Bool.not_false, if_true, Except.error.injEq, exists_eq_left',
      Exc.IsMalformedRsa, not_true, false_iff]
    rintro ⟨⟨cs, hcs, rfl⟩, -⟩
    exact hClass (matchesClass_iff.mpr ⟨cs, hcs, Or.inr rfl⟩)

/-- `_strict_hex_to_bytes` lets a foreign exception out exactly on an odd
number of digits in front of a final newline. -/
theorem strictHexToBytes_escapes_iff (s : Str) :
    (∃ exc, strictHexToBytes R (.str s) = .error exc ∧ ¬exc.IsMalformedRsa) ↔
      EndsInNewline isHexDigit s ∧ s.length % 2 = 0 := by
  unfold strictHexToBytes
  by_cases hClass : matchesClass isHexDigit s = true
  · simp only [hClass, Bool.not_true, Bool.false_eq_true, if_false,
      length_eq_len_of_matchesClass (fun _ => lt_of_isHexDigit) hClass]
    by_cases hEven : s.length % 2 = 0
    · rw [if_neg (by omega)]
      obtain ⟨cs, hcs, rfl | rfl⟩ := matchesClass_iff.mp hClass
      · have hSome := Hex.isSome_fromhex_of_digits hcs
        obtain ⟨bytes, h⟩ := Option.isSome_iff_exists.mp (hSome.trans (by simpa using hEven))
        simp only [h, reduceCtorEq, false_and, exists_false, false_iff]
        rintro ⟨⟨ds, -, rfl⟩, -⟩
        have := hcs newline (by simp)
        simp [isHexDigit, newline, Hex.digit?] at this
      · have hNone := Hex.fromhex_digits_newline (s := cs) hcs
          (by rw [List.length_append, List.length_singleton] at hEven; omega)
        rw [newline, hNone]
        exact iff_of_true ⟨_, rfl, id⟩ ⟨⟨cs, hcs, rfl⟩, hEven⟩
    · rw [if_pos hEven]
      simp [hEven, Exc.IsMalformedRsa]
  · have hFalse : ¬(EndsInNewline isHexDigit s ∧ s.length % 2 = 0) := by
      rintro ⟨⟨cs, hcs, rfl⟩, -⟩
      exact hClass (matchesClass_iff.mpr ⟨cs, hcs, Or.inr rfl⟩)
    rw [iff_false_right hFalse]
    rintro ⟨exc, h, hExc⟩
    simp only [hClass, Bool.not_false, if_true] at h
    split_ifs at h <;> cases h <;> exact hExc trivial

/-- Importing a key complains in the expected way only. -/
theorem rsaPublicKeyFromJwk_error {publicKey : Json} {exc : Exc}
    (h : rsaPublicKeyFromJwk R publicKey = .error exc) : exc.IsMalformedRsa := by
  unfold rsaPublicKeyFromJwk at h
  split_ifs at h
  · cases h
    trivial
  · revert h
    generalize (do
      let n := intFromBytes (← base64UrlToBytes (publicKey.get "n"))
      let e := intFromBytes (← base64UrlToBytes (publicKey.get "e"))
      if n ≤ 0 ∨ e ≤ 0 then throw (.valueError "non-positive RSA parameter")
      (R.rsaPublicKey n e).mapError .library
      return (n, e) : Except Exc (Nat × Nat)) = imported
    intro h
    cases imported with
    | ok key => cases h
    | error inner => cases inner <;> cases h <;> trivial

end Outcomes
end ArioProof.Python
