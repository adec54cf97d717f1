import ArioProof.CrossKernel.Attestation
import ArioProof.Evidence.ExportRun
import ArioProof.TypeScript.AttestationRun

/-! The key behind an operator address. The address is a hash of the modulus
alone, so it stands for a key only because every verification fixes the
exponent. Both are decoded twice, once in front of the import and once by it. -/
namespace ArioProof.CrossKernel

open Foundation

section Decoding

variable {P : Python.Runtime} {pub : Json} {name : String} {octets : Bytes}

/-- The octets under a name of a key, written in base64url. -/
def Octets (pub : Json) (name : String) (octets : Bytes) : Prop :=
  ∃ s, pub.get name = .str s ∧ (∀ c ∈ s, Base64.isUrlsafe c = true) ∧
    Base64.decode s = some octets

theorem Octets.unique {other : Bytes} (h : Octets pub name octets) (hOther : Octets pub name other) :
    octets = other := by
  obtain ⟨s, hs, -, hDecode⟩ := h
  obtain ⟨t, ht, -, hOtherDecode⟩ := hOther
  rw [hs, Json.str.injEq] at ht
  rw [← ht, hDecode, Option.some.injEq] at hOtherDecode
  exact hOtherDecode

theorem base64UrlToBytes_get :
    Python.base64UrlToBytes (pub.get name) = .ok octets ↔ Octets pub name octets := by
  cases hGet : pub.get name with
  | str s => simp only [Octets, hGet, base64UrlToBytes_python, Json.str.injEq, exists_eq_left']
  | _ => simp [Octets, hGet, Python.base64UrlToBytes]

/-- The guarded exponent: no octets at all are no integer. -/
theorem jwkPublicExponent_eq_some_iff {exponent : Nat} :
    Python.jwkPublicExponent pub = some exponent ↔
      ∃ octets, Octets pub "e" octets ∧ octets ≠ [] ∧ Python.intFromBytes octets = exponent := by
  simp only [← base64UrlToBytes_get]
  rw [Python.jwkPublicExponent]
  cases hGet : pub.get "e" with
  | str s =>
      have hObj : pub.isObj = true := Json.isObj_of_get hGet (by simp)
      rw [if_neg (by simp [hObj, Json.isStr])]
      cases Python.base64UrlToBytes (.str s) with
      | error exc => simp
      | ok raw => cases raw <;> simp
  | _ => simp [Json.isStr, Python.base64UrlToBytes]

/-- A key that can be imported: `\x7bkty:RSA,n,e\x7d` with positive integers
that the library takes. -/
def Importable (P : Python.Runtime) (pub : Json) : Prop :=
  pub.get "kty" = .str (utf16 "RSA") ∧ ∃ modulus exponent, Octets pub "n" modulus ∧
    Octets pub "e" exponent ∧ 0 < Python.intFromBytes modulus ∧ 0 < Python.intFromBytes exponent ∧
    P.rsaPublicKey (Python.intFromBytes modulus) (Python.intFromBytes exponent) = .ok ()

/-- Only a key of that shape gets to its import. -/
theorem rsaJwk_of_ok {key : Nat × Nat} (h : Python.rsaPublicKeyFromJwk P pub = .ok key) :
    ∃ n e, RsaJwk pub n e := by
  rw [Python.rsaPublicKeyFromJwk] at h
  split_ifs at h with hShape
  simp only [Bool.or_eq_true, Bool.not_eq_true', decide_eq_true_eq, not_or, Bool.not_eq_false,
    not_not] at hShape
  obtain ⟨⟨⟨hObj, hKty⟩, hn⟩, he⟩ := hShape
  obtain ⟨n, hn⟩ := str_of_isStr hn
  obtain ⟨e, he⟩ := str_of_isStr he
  exact ⟨n, e, hObj, hKty, hn, he⟩

theorem importable_iff : (∃ key, Python.rsaPublicKeyFromJwk P pub = .ok key) ↔ Importable P pub := by
  constructor
  · rintro ⟨key, h⟩
    obtain ⟨n, e, hKey⟩ := rsaJwk_of_ok h
    obtain ⟨modulus, exponent, hModulus, hExponent, hPositive, hPositive', hImport, -⟩ :=
      (rsaPublicKeyFromJwk_eq_ok hKey).mp h
    rw [← hKey.n] at hModulus
    rw [← hKey.e] at hExponent
    exact ⟨Json.str?_eq_some.mp hKey.kty, modulus, exponent, base64UrlToBytes_get.mp hModulus,
      base64UrlToBytes_get.mp hExponent, hPositive, hPositive', hImport⟩
  · rintro ⟨hKty, modulus, exponent, hModulus, hExponent, hPositive, hPositive', hImport⟩
    obtain ⟨n, hn, -⟩ := id hModulus
    obtain ⟨e, he, -⟩ := id hExponent
    have hKey : RsaJwk pub n e := ⟨Json.isObj_of_get hn (by simp), by rw [hKty]; rfl, hn, he⟩
    rw [← base64UrlToBytes_get, hn] at hModulus
    rw [← base64UrlToBytes_get, he] at hExponent
    exact ⟨_, (rsaPublicKeyFromJwk_eq_ok hKey).mpr ⟨modulus, exponent, hModulus, hExponent,
      hPositive, hPositive', hImport, rfl⟩⟩

end Decoding

section Split

variable {P : Python.Runtime}

/-- The signature text is hex of whole bytes. -/
def IsHex (s : Str) : Prop := s.length % 2 = 0 ∧ ∀ c ∈ s, Hex.IsDigit c

/-- A verification of Python that raises `MalformedRsaError` and nothing else,
and that exactly for a signature that is no hex, or for a key that cannot be
imported unless its exponent is an integer that is turned away. -/
structure SplitExact (P : Python.Runtime) (message : Bytes) (s : Str) (pub : Json) : Prop where
  only : ∀ exc, Python.verifyRsaPssSha256 P message (.str s) pub = .error exc → exc.IsMalformedRsa
  raises : (∃ exc, Python.verifyRsaPssSha256 P message (.str s) pub = .error exc) ↔
    ¬IsHex s ∨ ¬(∃ octets, Octets pub "e" octets ∧ octets ≠ [] ∧
      Python.intFromBytes octets ≠ Python.rsaPublicExponent) ∧ ¬Importable P pub

/-- A derivation of an address that raises `MalformedRsaError` and nothing else,
and that exactly for a text that is no base64url. -/
structure AddressExact (P : Python.Runtime) (n : Str) : Prop where
  only : ∀ exc, Python.deriveOperatorAddress P (.str n) = .error exc → exc.IsMalformedRsa
  raises : (∃ exc, Python.deriveOperatorAddress P (.str n) = .error exc) ↔
    ¬(∀ c ∈ n, Base64.isUrlsafe c = true) ∨ n.length % 4 = 1
  address : ∀ address, Python.deriveOperatorAddress P (.str n) = .ok address →
    ∃ octets, Base64.decode n = some octets ∧ address = Base64.encode (Python.sha256 P octets)

theorem returns_or_raises {α : Type} (outcome : Except Python.Exc α) :
    (∃ exc, outcome = .error exc) ↔ ¬∃ value, outcome = .ok value := by
  cases outcome <;> simp

theorem strictHexToBytes_returns_iff (s : Str) :
    (∃ signature, Python.strictHexToBytes P (.str s) = .ok signature) ↔ IsHex s := by
  simp only [strictHexToBytes_eq_ok]
  exact Hex.strictHex_isSome_iff s

theorem foreignExponent_iff_octets {pub : Json} : Python.ForeignExponent pub ↔
    ∃ octets, Octets pub "e" octets ∧ octets ≠ [] ∧
      Python.intFromBytes octets ≠ Python.rsaPublicExponent := by
  rw [Python.ForeignExponent]
  simp only [jwkPublicExponent_eq_some_iff]
  constructor
  · rintro ⟨exponent, ⟨octets, hOctets, hSome, rfl⟩, hForeign⟩
    exact ⟨octets, hOctets, hSome, hForeign⟩
  · rintro ⟨octets, hOctets, hSome, hForeign⟩
    exact ⟨_, ⟨octets, hOctets, hSome, rfl⟩, hForeign⟩

/-- When a verification raises, it raises for a reason of the split. -/
theorem verifyRsaPssSha256_raises (message : Bytes) (s : Str) (pub : Json) :
    (∃ exc, Python.verifyRsaPssSha256 P message (.str s) pub = .error exc) ↔
      ¬IsHex s ∨ ¬(∃ octets, Octets pub "e" octets ∧ octets ≠ [] ∧
        Python.intFromBytes octets ≠ Python.rsaPublicExponent) ∧ ¬Importable P pub := by
  rw [returns_or_raises, Python.verifyRsaPssSha256_returns_iff, strictHexToBytes_returns_iff,
    importable_iff, foreignExponent_iff_octets, not_and_or, not_or]

/-- The foreign exceptions are those of the signature text. -/
theorem splitExact_iff (message : Bytes) (s : Str) (pub : Json) : SplitExact P message s pub ↔
    ¬(Python.EndsInNewline Python.isHexDigit s ∧ s.length % 2 = 0) := by
  have hEscapes : Python.HexEscapes (.str s) ↔
      Python.EndsInNewline Python.isHexDigit s ∧ s.length % 2 = 0 := by
    simp [Python.HexEscapes]
  have hRaises : (∃ exc, Python.verifyRsaPssSha256 P message (.str s) pub = .error exc ∧
      ¬exc.IsMalformedRsa) ↔ Python.HexEscapes (.str s) := Python.verifyRsaPssSha256_raises_iff
  rw [← hEscapes, ← hRaises]
  constructor
  · rintro h ⟨exc, hError, hForeign⟩
    exact hForeign (h.only exc hError)
  · intro hNone
    constructor
    · intro exc hError
      by_contra hForeign
      exact hNone ⟨exc, hError, hForeign⟩
    · exact verifyRsaPssSha256_raises message s pub

/-- Whole quads and a proper rest are all that a text of the alphabet needs. -/
theorem base64UrlToBytes_returns_iff (n : Str) :
    (∃ octets, Python.base64UrlToBytes (.str n) = .ok octets) ↔
      (∀ c ∈ n, Base64.isUrlsafe c = true) ∧ n.length % 4 ≠ 1 := by
  simp only [base64UrlToBytes_python]
  constructor
  · rintro ⟨octets, hAlphabet, hDecode⟩
    exact ⟨hAlphabet, Base64.length_of_decode hDecode⟩
  · rintro ⟨hAlphabet, hLength⟩
    obtain ⟨octets, hDecode, -⟩ := Base64.urlsafeB64decode_padded n hAlphabet hLength
    exact ⟨octets, hAlphabet, hDecode⟩

theorem deriveOperatorAddress_eq_ok {v : Json} {address : Str} :
    Python.deriveOperatorAddress P v = .ok address ↔ ∃ octets,
      Python.base64UrlToBytes v = .ok octets ∧ address = Base64.encode (Python.sha256 P octets) := by
  rw [Python.deriveOperatorAddress]
  cases Python.base64UrlToBytes v <;> simp [bind, Except.bind, pure, Except.pure, eq_comm]

theorem addressExact_iff (n : Str) : AddressExact P n ↔
    ¬(Python.EndsInNewline Base64.isUrlsafe n ∧ n.length % 4 ≠ 1) := by
  have hEscapes : Python.ModulusEscapes (.str n) ↔
      Python.EndsInNewline Base64.isUrlsafe n ∧ n.length % 4 ≠ 1 := by
    simp [Python.ModulusEscapes]
  rw [← hEscapes, ← Python.deriveOperatorAddress_raises_iff (R := P)]
  constructor
  · rintro h ⟨exc, hError, hForeign⟩
    exact hForeign (h.only exc hError)
  · intro hNone
    constructor
    · intro exc hError
      by_contra hForeign
      exact hNone ⟨exc, hError, hForeign⟩
    · rw [returns_or_raises, Python.deriveOperatorAddress_returns_iff,
        base64UrlToBytes_returns_iff, not_and_or, not_not]
    · intro address h
      obtain ⟨octets, hOctets, hAddress⟩ := deriveOperatorAddress_eq_ok.mp h
      exact ⟨octets, (base64UrlToBytes_python.mp hOctets).2, hAddress⟩

/-- The split is exact but for the texts that pass a regular expression by a
final newline, which the decoder behind it turns down in its own way. -/
theorem malformed_split_iff (P : Python.Runtime) :
    (∀ message s members, SplitExact P message s (.obj members) ↔
      ¬(Python.EndsInNewline Python.isHexDigit s ∧ s.length % 2 = 0)) ∧
    ∀ n, AddressExact P n ↔ ¬(Python.EndsInNewline Base64.isUrlsafe n ∧ n.length % 4 ≠ 1) := by
  constructor
  · intro message s members
    exact splitExact_iff message s (.obj members)
  · intro n
    exact addressExact_iff n

/-- One digit or three characters, and a newline that the length check counts:
a blank modulus of an operator, and a signature, that raise what no caller
catches. -/
theorem newline_breaks_split :
    ¬SplitExact (Reference.python (Reference.signedWith [])) [] (utf16 "0\n") (.obj []) ∧
    ¬AddressExact (Reference.python (Reference.signedWith [])) (utf16 "AAA\n") := by
  constructor
  · rw [splitExact_iff, not_not]
    exact ⟨⟨utf16 "0", List.all_eq_true.mp rfl, rfl⟩, rfl⟩
  · rw [addressExact_iff, not_not]
    exact ⟨⟨utf16 "AAA", List.all_eq_true.mp rfl, rfl⟩, by decide⟩

end Split

section Address

/-- What is accepted under an address was checked under a key whose exponent is
that of an operator. Two keys under one address have one modulus, or two moduli
of one hash. -/
structure DeterminesKey {α : Type} (H : HashFunction 32) (accepted : α → Str → Prop)
    (checkedUnder : α → (modulus : Bytes) → Prop) (exponent : α → Nat → Prop) : Prop where
  sameKey : ∀ x y address, accepted x address → accepted y address →
    ∃ modulus modulus', checkedUnder x modulus ∧ checkedUnder y modulus' ∧
      (Python.intFromBytes modulus = Python.intFromBytes modulus' ∨
        modulus ≠ modulus' ∧ H.digest modulus = H.digest modulus')
  foreign : ∀ x k address, exponent x k → k ≠ Python.rsaPublicExponent → ¬accepted x address

/-- It is enough that each acceptance names its modulus and has its exponent. -/
theorem determinesKey_of {α : Type} {H : HashFunction 32} {accepted : α → Str → Prop}
    {checkedUnder : α → Bytes → Prop} {exponent : α → Nat → Prop}
    (hAddress : ∀ x address, accepted x address →
      ∃ modulus, checkedUnder x modulus ∧ address = Base64.encode (H.digest modulus))
    (hExponent : ∀ x modulus k, checkedUnder x modulus → exponent x k →
      k = Python.rsaPublicExponent) : DeterminesKey H accepted checkedUnder exponent := by
  constructor
  · intro x y address hx hy
    obtain ⟨modulus, hUnder, hSame⟩ := hAddress x address hx
    obtain ⟨modulus', hUnder', hSame'⟩ := hAddress y address hy
    refine ⟨modulus, modulus', hUnder, hUnder', ?_⟩
    have hDigest := Base64.encode_inj (hSame.symm.trans hSame')
    by_cases hModulus : modulus = modulus'
    · exact Or.inl (by rw [hModulus])
    · exact Or.inr ⟨hModulus, hDigest⟩
  · intro x k address hRead hForeign hAccepted
    obtain ⟨modulus, hUnder, -⟩ := hAddress x address hAccepted
    exact hForeign (hExponent x modulus k hUnder hRead)

end Address

section Python

variable {P : Python.Runtime}

/-- The arguments of a verification in Python. -/
structure PythonCheck where
  message : Bytes
  signature : Json
  publicKey : Json

/-- The signature holds under the key with this modulus and the exponent of an
operator; both are what the record's own octets decode to. -/
structure PythonCheckedUnder (P : Python.Runtime) (check : PythonCheck) (modulus : Bytes) :
    Prop where
  modulus_eq : Octets check.publicKey "n" modulus
  exponent_eq : ∃ octets, Octets check.publicKey "e" octets ∧
    Python.intFromBytes octets = Python.rsaPublicExponent
  verified : ∃ signature, Python.strictHexToBytes P check.signature = .ok signature ∧
    P.rsaPssVerify (Python.intFromBytes modulus) Python.rsaPublicExponent signature
      check.message = true

/-- The signature holds, and the address is that of the key. -/
def PythonAccepted (P : Python.Runtime) (check : PythonCheck) (address : Str) : Prop :=
  Python.verifyRsaPssSha256 P check.message check.signature check.publicKey = .ok true ∧
    Python.deriveOperatorAddress P (check.publicKey.get "n") = .ok address

theorem checkedUnder_python {check : PythonCheck}
    (h : Python.verifyRsaPssSha256 P check.message check.signature check.publicKey = .ok true) :
    ∃ modulus, PythonCheckedUnder P check modulus := by
  obtain ⟨⟨signature, hSignature⟩, hKey⟩ := Python.verifyRsaPssSha256_returns_iff.mp ⟨true, h⟩
  rw [Python.verifyRsaPssSha256_of_signature hSignature] at h
  split_ifs at h with hGuard
  · cases hImport : Python.rsaPublicKeyFromJwk P check.publicKey with
    | error exc =>
        rw [hImport] at h
        cases h
    | ok key =>
        rw [hImport] at h
        obtain ⟨n, e, hJwk⟩ := rsaJwk_of_ok hImport
        obtain ⟨modulus, exponent, hModulus, hExponent, -, hPositive, -, rfl⟩ :=
          (rsaPublicKeyFromJwk_eq_ok hJwk).mp hImport
        rw [← hJwk.n] at hModulus
        rw [← hJwk.e] at hExponent
        have hOctets := base64UrlToBytes_get.mp hExponent
        -- The import has turned an empty exponent away, so the guard has read this one.
        have hSome : exponent ≠ [] := by
          rintro rfl
          exact absurd hPositive (Nat.lt_irrefl 0)
        have hGuarded := jwkPublicExponent_eq_some_iff.mpr ⟨exponent, hOctets, hSome, rfl⟩
        rw [hGuarded] at hGuard
        have hOperator : Python.intFromBytes exponent = Python.rsaPublicExponent := by
          simpa using hGuard
        exists modulus
        constructor
        · exact base64UrlToBytes_get.mp hModulus
        · exact ⟨exponent, hOctets, hOperator⟩
        · rw [hOperator] at h
          exact ⟨signature, hSignature, by simpa [Except.map] using h⟩
  · cases h

theorem accepted_python {check : PythonCheck} {address : Str} (h : PythonAccepted P check address) :
    ∃ modulus, PythonCheckedUnder P check modulus ∧
      address = Base64.encode (P.crypto.sha256.digest modulus) := by
  obtain ⟨modulus, hUnder⟩ := checkedUnder_python h.1
  obtain ⟨octets, hOctets, hAddress⟩ := deriveOperatorAddress_eq_ok.mp h.2
  rw [hUnder.modulus_eq.unique (base64UrlToBytes_get.mp hOctets)] at hUnder
  exact ⟨octets, hUnder, hAddress⟩

/-- The record is ok under some source, with this operator. -/
def PythonOk (P : Python.Runtime) (rec : Json) (operator : Str) : Prop :=
  ∃ checkpoints a complaint, Python.verifyAttestation P rec checkpoints = .ok (a, complaint) ∧
    a.ok = true ∧ a.operator = operator

/-- The signature of the record over its payload. -/
def PythonRecordUnder (P : Python.Runtime) (rec : Json) (modulus : Bytes) : Prop :=
  ∃ message, Python.canonicalJson P (rec.get "payload") = .ok message ∧
    PythonCheckedUnder P ⟨message, rec.get "signature", rec.get "public_key"⟩ modulus

theorem ok_python {rec : Json} {operator : Str} (h : PythonOk P rec operator) :
    ∃ modulus, PythonRecordUnder P rec modulus ∧
      operator = Base64.encode (P.crypto.sha256.digest modulus) := by
  obtain ⟨checkpoints, a, complaint, hRun, hOk, rfl⟩ := h
  obtain rfl := Python.complaint_eq_none_of_ok hRun hOk
  have run := Python.verifyAttestation_eq_ok hRun
  obtain ⟨hSignature, hAddress, -⟩ := run.ok_iff.mp hOk
  obtain ⟨message, hPayload, hVerified⟩ := run.signature
  obtain ⟨derived, hDerived, hBound⟩ := run.operatorAddressBound
  rw [hSignature] at hVerified
  have hSame : derived = a.operator := by
    rw [hAddress] at hBound
    have hBoth := Bool.and_eq_true_iff.mp hBound.symm
    exact of_decide_eq_true hBoth.2
  rw [hSame] at hDerived
  have hAccepted : PythonAccepted P ⟨message, rec.get "signature", rec.get "public_key"⟩
      a.operator := ⟨hVerified, hDerived⟩
  obtain ⟨modulus, hUnder, hOperator⟩ := accepted_python hAccepted
  exact ⟨modulus, ⟨message, hPayload, hUnder⟩, hOperator⟩

end Python

section TypeScript

variable {T : TypeScript.Runtime} {reads : Str → Option Nat}
  {pss : (n e : Nat) → (signature message : Bytes) → Bool}

/-- How WebCrypto reads the key of a JWK. The import finds an integer in the
exponent it takes, by a decoder of its own; on text that the guard decodes, the
two decoders agree. A signature is checked under the integers read. Nothing is
assumed of what the import takes: it need not turn away an exponent that the
guard cannot decode, and Node's does not. -/
structure ReadsJwk (T : TypeScript.Runtime) (reads : Str → Option Nat)
    (pss : (n e : Nat) → (signature message : Bytes) → Bool) : Prop where
  imported : ∀ n e, T.importKey n e = .ok () → ∃ k, reads e = some k
  decoded : ∀ e octets, TypeScript.base64UrlToBytes e = .ok octets →
    reads e = some (TypeScript.bytesToBigInt octets)
  verify : ∀ n e modulus k signature message,
    TypeScript.base64UrlToBytes n = .ok modulus → reads e = some k →
    T.rsaPssVerify n e signature message =
      pss (TypeScript.bytesToBigInt modulus) k signature message

/-- An exponent text under which only the exponent of an operator is accepted:
the guard decodes it, or the import reads that exponent in it all the same, or
no signature holds under a key that has it. -/
def ExponentHolds (T : TypeScript.Runtime) (reads : Str → Option Nat) (e : Str) : Prop :=
  (∃ octets, TypeScript.base64UrlToBytes e = .ok octets) ∨
    reads e = some TypeScript.rsaPublicExponent ∨
    ∀ n modulus signature message, TypeScript.base64UrlToBytes n = .ok modulus →
      T.importKey n e = .ok () → T.rsaPssVerify n e signature message = false

/-- The arguments of a verification in TypeScript. -/
structure TypeScriptCheck where
  message : Bytes
  signature : Str
  publicKey : TypeScript.RsaKey

/-- As in Python, on texts that are there already. -/
structure TypeScriptCheckedUnder (T : TypeScript.Runtime) (reads : Str → Option Nat)
    (pss : (n e : Nat) → (signature message : Bytes) → Bool) (check : TypeScriptCheck)
    (modulus : Bytes) : Prop where
  modulus_eq : TypeScript.base64UrlToBytes check.publicKey.n = .ok modulus
  exponent_eq : reads check.publicKey.e = some TypeScript.rsaPublicExponent
  verified : ∃ signature, TypeScript.hexToBytes T (some (.str check.signature)) = .ok signature ∧
    pss (TypeScript.bytesToBigInt modulus) TypeScript.rsaPublicExponent signature
      check.message = true

def TypeScriptAccepted (T : TypeScript.Runtime) (check : TypeScriptCheck) (address : Str) : Prop :=
  TypeScript.verifyRsaPssSha256 T check.message check.signature check.publicKey = .ok true ∧
    TypeScript.deriveOperatorAddress T check.publicKey.n = .ok address

/-- The guard, the import and the check, one after the other. The guard passes
over an exponent that it cannot decode. -/
theorem verifyRsaPssSha256_eq_true {check : TypeScriptCheck} :
    TypeScript.verifyRsaPssSha256 T check.message check.signature check.publicKey = .ok true ↔
      ∃ signature, TypeScript.hexToBytes T (some (.str check.signature)) = .ok signature ∧
        (∀ octets, TypeScript.base64UrlToBytes check.publicKey.e = .ok octets →
          TypeScript.bytesToBigInt octets = TypeScript.rsaPublicExponent) ∧
        T.importKey check.publicKey.n check.publicKey.e = .ok () ∧
        T.rsaPssVerify check.publicKey.n check.publicKey.e signature check.message = true := by
  rw [TypeScript.verifyRsaPssSha256]
  cases TypeScript.hexToBytes T (some (.str check.signature)) with
  | error text => simp [bind, Except.bind, Except.mapError]
  | ok signature =>
      cases TypeScript.base64UrlToBytes check.publicKey.e with
      | error text =>
          cases T.importKey check.publicKey.n check.publicKey.e <;>
            simp [bind, Except.bind, Except.mapError, pure, Except.pure]
      | ok exponent =>
          cases exponent with
          | nil =>
              -- No octets at all are turned away as malformed, and denote zero.
              simp [bind, Except.bind, Except.mapError, TypeScript.bytesToBigInt,
                TypeScript.rsaPublicExponent]
          | cons b rest =>
              by_cases hOperator :
                TypeScript.bytesToBigInt (b :: rest) = TypeScript.rsaPublicExponent
              · cases T.importKey check.publicKey.n check.publicKey.e <;>
                  simp [bind, Except.bind, Except.mapError, pure, Except.pure, hOperator]
              · simp [bind, Except.bind, Except.mapError, pure, Except.pure, hOperator]

theorem accepted_typeScript (hImport : ReadsJwk T reads pss) {check : TypeScriptCheck}
    {address : Str} (hHolds : ExponentHolds T reads check.publicKey.e)
    (h : TypeScriptAccepted T check address) :
    ∃ modulus, TypeScriptCheckedUnder T reads pss check modulus ∧
      address = Base64.encode (T.crypto.sha256.digest modulus) := by
  obtain ⟨hVerified, hDerived⟩ := h
  obtain ⟨signature, hSignature, hGuard, hKey, hVerifies⟩ := verifyRsaPssSha256_eq_true.mp hVerified
  rw [TypeScript.deriveOperatorAddress] at hDerived
  obtain ⟨modulus, hModulus, hAddress⟩ := bind_eq_ok.mp hDerived
  cases hAddress
  have hOperator : reads check.publicKey.e = some TypeScript.rsaPublicExponent := by
    rcases hHolds with ⟨octets, hOctets⟩ | hOperator | hNever
    · rw [hImport.decoded _ _ hOctets, hGuard octets hOctets]
    · exact hOperator
    · rw [hNever _ _ _ _ hModulus hKey] at hVerifies
      cases hVerifies
  rw [hImport.verify _ _ _ _ _ _ hModulus hOperator] at hVerifies
  exact ⟨modulus, ⟨hModulus, hOperator, signature, hSignature, hVerifies⟩, rfl⟩

/-- Where the exponent does not hold, the guard is passed over and a signature
is accepted under a key with another exponent. -/
theorem exponentHolds_of_determinesKey {e : Str}
    (h : ∀ check address, check.publicKey.e = e → TypeScriptAccepted T check address →
      ∃ modulus, TypeScriptCheckedUnder T reads pss check modulus) : ExponentHolds T reads e := by
  rw [ExponentHolds, or_iff_not_imp_left, or_iff_not_imp_left]
  intro hOpen hForeign n modulus signature message hModulus hKey
  by_contra hVerifies
  rw [Bool.not_eq_false] at hVerifies
  have hAccepted : TypeScriptAccepted T ⟨message, Hex.encode signature, ⟨n, e⟩⟩
      (Base64.encode (T.crypto.sha256.digest modulus)) := by
    constructor
    · refine verifyRsaPssSha256_eq_true.mpr ⟨signature, ?_, ?_, hKey, hVerifies⟩
      · exact TypeScript.hexToBytes_eq_ok.mpr (Hex.strictHex_encode signature)
      · exact fun octets hOctets => (hOpen ⟨octets, hOctets⟩).elim
    · rw [TypeScript.deriveOperatorAddress, hModulus]
      rfl
  obtain ⟨own, hUnder⟩ := h _ _ rfl hAccepted
  exact hForeign hUnder.exponent_eq

def TypeScriptOk (T : TypeScript.Runtime) (rec : Json) (operator : Str) : Prop :=
  ∃ checkpoints, (TypeScript.verifyAttestation T rec checkpoints).1.ok = true ∧
    (TypeScript.verifyAttestation T rec checkpoints).1.operator = operator

def TypeScriptRecordUnder (T : TypeScript.Runtime) (reads : Str → Option Nat)
    (pss : (n e : Nat) → (signature message : Bytes) → Bool) (rec : Json) (modulus : Bytes) : Prop :=
  ∃ canonical, TypeScript.jcs T (some (rec.get "payload")) = .ok canonical ∧
    TypeScriptCheckedUnder T reads pss
      ⟨utf8 canonical, (rec.get "signature").str?.getD [], TypeScript.recordKey rec⟩ modulus

/-- What an ok record of TypeScript has come through. -/
theorem accepted_of_ok {rec : Json} {checkpoints : List (Str × Json)}
    (h : (TypeScript.verifyAttestation T rec checkpoints).1.ok = true) :
    ∃ canonical, TypeScript.jcs T (some (rec.get "payload")) = .ok canonical ∧
      TypeScriptAccepted T
        ⟨utf8 canonical, (rec.get "signature").str?.getD [], TypeScript.recordKey rec⟩
        (TypeScript.verifyAttestation T rec checkpoints).1.operator := by
  obtain ⟨hSigned, hBound⟩ := (TypeScript.ok_iff rec checkpoints).mp h
  obtain ⟨canonical, hPayload, hVerified⟩ := hSigned.verified
  rw [TypeScript.operator_of_complaint hSigned.complaint]
  exact ⟨canonical, hPayload, hVerified, hBound.address⟩

theorem ok_typeScript (hImport : ReadsJwk T reads pss) {rec : Json} {operator : Str}
    (hHolds : ExponentHolds T reads (TypeScript.recordKey rec).e) (h : TypeScriptOk T rec operator) :
    ∃ modulus, TypeScriptRecordUnder T reads pss rec modulus ∧
      operator = Base64.encode (T.crypto.sha256.digest modulus) := by
  obtain ⟨checkpoints, hOk, rfl⟩ := h
  obtain ⟨canonical, hPayload, hAccepted⟩ := accepted_of_ok hOk
  obtain ⟨modulus, hUnder, hOperator⟩ := accepted_typeScript hImport hHolds hAccepted
  exact ⟨modulus, ⟨canonical, hPayload, hUnder⟩, hOperator⟩

end TypeScript

section Law

/-- Every result of an export is that of a record in its body. -/
theorem record_of_mem {ε : Type} {K : Kernel ε} {b : Json} {options : Options}
    {result : EvidenceBundleResult} {exported : ExportResult} {a : AttestationResult}
    (h : verifyEvidenceBundle K b options = .ok result) (hExported : result.exported = some exported)
    (ha : a ∈ exported.attestations) : ∃ rec ∈ (b.get "body").listAt "attestations",
      K.verifyAttestation rec (sourceCheckpoints (sourceOf b)) = .ok (a, none) := by
  obtain ⟨-, -, source, attestations, run⟩ := exportRun_of_exported h hExported
  rw [run.result_eq] at hExported
  cases hExported
  obtain ⟨i, hi, rfl⟩ := List.getElem_of_mem ha
  have hRuns := verifyAttestations_eq_ok run.attestations_eq
  have hRecord : i < ((b.get "body").listAt "attestations").length := by
    rw [hRuns.length_eq]
    exact hi
  exact ⟨_, List.getElem_mem hRecord, hRuns.get hRecord hi⟩

/-- In each kernel, for single verifications and for attestation records: the
address determines the key. The TypeScript half is about the exponent texts of a
set. An ok result of a bundle is that of an ok record. -/
structure OperatorKeyLaw (P : Python.Runtime) (T : TypeScript.Runtime) (reads : Str → Option Nat)
    (pss : (n e : Nat) → (signature message : Bytes) → Bool) (texts : Str → Prop) : Prop where
  pythonChecks : DeterminesKey P.crypto.sha256 (PythonAccepted P) (PythonCheckedUnder P)
    fun check k => ∃ octets, Octets check.publicKey "e" octets ∧ Python.intFromBytes octets = k
  pythonRecords : DeterminesKey P.crypto.sha256 (PythonOk P) (PythonRecordUnder P)
    fun rec k => ∃ octets, Octets (rec.get "public_key") "e" octets ∧ Python.intFromBytes octets = k
  typeScriptChecks : DeterminesKey T.crypto.sha256
    (fun check address => texts check.publicKey.e ∧ TypeScriptAccepted T check address)
    (TypeScriptCheckedUnder T reads pss) fun check k => reads check.publicKey.e = some k
  typeScriptRecords : DeterminesKey T.crypto.sha256
    (fun rec operator => texts (TypeScript.recordKey rec).e ∧ TypeScriptOk T rec operator)
    (TypeScriptRecordUnder T reads pss) fun rec k => reads (TypeScript.recordKey rec).e = some k
  pythonBundles : ∀ b options result exported, Python.verifyEvidenceBundle P b options = .ok result →
    result.exported = some exported → ∀ a ∈ exported.attestations, a.ok = true →
      ∃ rec ∈ (b.get "body").listAt "attestations", PythonOk P rec a.operator
  typeScriptBundles : ∀ b options result exported,
    TypeScript.verifyEvidenceBundle T b options = .ok result →
    result.exported = some exported → ∀ a ∈ exported.attestations, a.ok = true →
      ∃ rec ∈ (b.get "body").listAt "attestations", TypeScriptOk T rec a.operator

theorem exponent_of_checkedUnder {P : Python.Runtime} {check : PythonCheck} {modulus : Bytes} {k : Nat}
    (h : PythonCheckedUnder P check modulus)
    (hRead : ∃ octets, Octets check.publicKey "e" octets ∧ Python.intFromBytes octets = k) :
    k = Python.rsaPublicExponent := by
  obtain ⟨own, hOwn, hExponent⟩ := h.exponent_eq
  obtain ⟨octets, hOctets, rfl⟩ := hRead
  rw [← hOwn.unique hOctets]
  exact hExponent

/-- The law holds in Python, and in TypeScript for exactly those exponent texts
under which no key with another exponent verifies. -/
theorem operator_determines_key_iff (P : Python.Runtime) (T : TypeScript.Runtime)
    (reads : Str → Option Nat) (pss : (n e : Nat) → (signature message : Bytes) → Bool)
    (hImport : ReadsJwk T reads pss) (texts : Str → Prop) :
    OperatorKeyLaw P T reads pss texts ↔ ∀ e, texts e → ExponentHolds T reads e := by
  constructor
  · intro law e he
    have hDetermined : ∀ check address, check.publicKey.e = e → TypeScriptAccepted T check address →
        ∃ modulus, TypeScriptCheckedUnder T reads pss check modulus := by
      intro check address hText hAccepted
      have hBoth : texts check.publicKey.e ∧ TypeScriptAccepted T check address :=
        ⟨hText ▸ he, hAccepted⟩
      obtain ⟨modulus, -, hUnder, -⟩ := law.typeScriptChecks.sameKey check check address hBoth hBoth
      exact ⟨modulus, hUnder⟩
    exact exponentHolds_of_determinesKey hDetermined
  · intro hHolds
    constructor
    · exact determinesKey_of (fun _ _ h => accepted_python h) fun _ _ _ h hRead =>
        exponent_of_checkedUnder h hRead
    · refine determinesKey_of (fun _ _ h => ok_python h) fun _ _ _ h hRead => ?_
      obtain ⟨message, -, hUnder⟩ := h
      exact exponent_of_checkedUnder hUnder hRead
    · refine determinesKey_of (fun _ _ h => accepted_typeScript hImport (hHolds _ h.1) h.2) ?_
      intro check modulus k h hRead
      rw [h.exponent_eq] at hRead
      exact (Option.some.inj hRead).symm
    · refine determinesKey_of (fun _ _ h => ok_typeScript hImport (hHolds _ h.1) h.2) ?_
      intro rec modulus k h hRead
      obtain ⟨canonical, -, hUnder⟩ := h
      have hOperator : reads (TypeScript.recordKey rec).e = some TypeScript.rsaPublicExponent :=
        hUnder.exponent_eq
      rw [hOperator] at hRead
      exact (Option.some.inj hRead).symm
    · intro b options result exported h hExported a ha hOk
      obtain ⟨rec, hRec, hRun⟩ := record_of_mem h hExported ha
      exact ⟨rec, hRec, _, a, none, hRun, hOk, rfl⟩
    · intro b options result exported h hExported a ha hOk
      obtain ⟨rec, hRec, hRun⟩ := record_of_mem h hExported ha
      have hOutcome : TypeScript.verifyAttestation T rec (sourceCheckpoints (sourceOf b)) =
          (a, none) := Except.ok.inj hRun
      exact ⟨rec, hRec, sourceCheckpoints (sourceOf b), by rw [hOutcome]; exact hOk,
        by rw [hOutcome]⟩

end Law

section Sample

open Reference

/-- What a base64 decoder finds in an exponent when it passes over the padding,
as the one behind Node's import does. -/
def lenientReads (e : Str) : Option Nat :=
  (Base64.decode (e.filter (· ≠ 0x3D))).map TypeScript.bytesToBigInt

/-- An import that takes whatever it can read, with a table of the signatures
that hold under each exponent. -/
def lenient (S : Nat → Signatures) : TypeScript.Runtime :=
  { typeScript (S 0) with
    importKey := fun n e =>
      match TypeScript.base64UrlToBytes n, lenientReads e with
      | .ok _, some _ => .ok ()
      | _, _ => .error "Invalid keyData"
    rsaPssVerify := fun n e signature message =>
      match TypeScript.base64UrlToBytes n, lenientReads e with
      | .ok modulus, some k => rsaVerify (S k) (TypeScript.bytesToBigInt modulus) signature message
      | _, _ => false }

theorem readsJwk_lenient (S : Nat → Signatures) :
    ReadsJwk (lenient S) lenientReads fun n k => rsaVerify (S k) n where
  imported n e h := by
    cases hRead : lenientReads e with
    | some k => exact ⟨k, rfl⟩
    | none => cases hn : TypeScript.base64UrlToBytes n <;> simp [lenient, hRead, hn] at h
  decoded e octets h := by
    obtain ⟨hAlphabet, hDecode⟩ := base64UrlToBytes_typeScript.mp h
    have hPlain : e.filter (· ≠ 0x3D) = e := by
      rw [List.filter_eq_self]
      intro c hc
      have hUrlsafe := hAlphabet c hc
      rw [decide_eq_true_eq]
      rintro rfl
      revert hUrlsafe
      decide
    rw [lenientReads, hPlain, hDecode]
    rfl
  verify n e modulus k signature message hModulus hRead := by
    simp only [lenient, hModulus, hRead]

/-- The payload of the sample, encoded for a signature. -/
def forgedSignature : Nat :=
  0x52f697ccdeac8617e73fa1742c06b08f2411e46acd86ba96306e2df7092cde7c0e2036896203447037bfae436ec6b3084be2d91aab4a29e976f38fea593186135c4b4c07de7c9e4a725cdd5c889bb9cbd142d06ecb00ba0b9a68be5c1d13174c0e5a2ce1f6af0da7110efceb830b4f17696a37d5e7b8099582d2310ab46fafbc

/-- The signatures that hold under the key of the sample: its own under the
exponent of an operator, and under the exponent one the encoded message itself,
which takes no private key. -/
def signaturesUnder (k : Nat) : Signatures :=
  { signedWith [] with rsa :=
      if k = TypeScript.rsaPublicExponent then
        [⟨Python.sampleModulus,
          0xcda7a1e36f56274876c27ffa4b0f67baeee09d1bc9ed010bc762eafb0e6eca2a,
          Python.sampleRsaSignature⟩]
      else if k = 1 then
        [⟨Python.sampleModulus,
          0xcda7a1e36f56274876c27ffa4b0f67baeee09d1bc9ed010bc762eafb0e6eca2a, forgedSignature⟩]
      else [] }

abbrev lenientRuntime : TypeScript.Runtime := lenient signaturesUnder

/-- The record of the sample with a signature that nobody made and the exponent
one, padded. -/
def forgedRecord : Json :=
  ((Python.sampleAttestation "tx1").set "public_key"
    (((Python.sampleAttestation "tx1").get "public_key").set "e" (.str "AQ=="))).set "signature"
    (hexText 128 forgedSignature)

/-- The law for a runtime of each kernel in which a record is ok, and the
exponent text of that record. -/
theorem operator_key_sample :
    OperatorKeyLaw Python.attestationRuntime lenientRuntime lenientReads
      (fun n k => rsaVerify (signaturesUnder k) n) (· = "AQAB") ∧
    (∃ operator, PythonOk Python.attestationRuntime (Python.sampleAttestation "tx1") operator) ∧
    ∃ operator, TypeScriptOk lenientRuntime (Python.sampleAttestation "tx1") operator := by
  constructor
  · refine (operator_determines_key_iff _ _ _ _ (readsJwk_lenient _) (· = "AQAB")).mpr ?_
    rintro e rfl
    exact Or.inl ⟨[1, 0, 1], by decide +kernel⟩
  constructor
  · obtain ⟨a, hRun, hOk⟩ := Python.sampleAttestation_run
    exact ⟨_, _, a, none, hRun, hOk, rfl⟩
  · exact ⟨_, Python.sampleSources, by decide +kernel, rfl⟩

/-- The forged record is accepted in the name of the operator of the sample, and
the law fails. -/
theorem padded_exponent_breaks_law :
    TypeScriptOk lenientRuntime forgedRecord
      (Base64.encode (lenientRuntime.crypto.sha256.digest (octets 128 Python.sampleModulus))) ∧
    lenientReads (TypeScript.recordKey forgedRecord).e = some 1 ∧
    ¬OperatorKeyLaw Python.attestationRuntime lenientRuntime lenientReads
      (fun n k => rsaVerify (signaturesUnder k) n) fun _ => True := by
  have hOk : TypeScriptOk lenientRuntime forgedRecord
      (Base64.encode (lenientRuntime.crypto.sha256.digest (octets 128 Python.sampleModulus))) :=
    ⟨Python.sampleSources, by decide +kernel, by decide +kernel⟩
  have hReads : lenientReads (TypeScript.recordKey forgedRecord).e = some 1 := by decide +kernel
  refine ⟨hOk, hReads, fun law => ?_⟩
  exact law.typeScriptRecords.foreign forgedRecord 1 _ hReads (by decide) ⟨trivial, hOk⟩

end Sample
end ArioProof.CrossKernel
