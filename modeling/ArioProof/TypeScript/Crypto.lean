import ArioProof.Data.Base64
import ArioProof.TypeScript.Number
import ArioProof.TypeScript.Runtime

/-! `crypto.ts`. -/
namespace ArioProof.TypeScript

open Foundation

variable (R : Runtime)

/-- `hex.length % 2` of a value that need not be a string. -/
def oddLength : Json → Except Str Bool
  | .str s => .ok (s.length % 2 ≠ 0)
  | .arr items => .ok (items.length % 2 ≠ 0)
  | v => (toNumber (v.get? "length")).map fun
      | .finite q => !(q.den = 1 && q.num % 2 = 0)
      | _ => true

/-- An empty array has an even length and an empty text; every other value that
is not a string is turned down. -/
def hexToBytes : Option Json → Except Str Bytes
  | none => .error (noMember none "length")
  | some .null => .error (noMember (some .null) "length")
  | some v => do
      if ← oddLength v then .error "hexToBytes: odd-length string"
      match v with
      | .str s =>
          match Hex.strictHex s with
          | some bytes => return bytes
          | none => .error "hexToBytes: non-hex characters"
      | .arr [] => return []
      | v =>
          let _ ← R.text v
          .error "hexToBytes: non-hex characters"

variable {R} in
/-- The decoder of TypeScript is the strict one. -/
theorem hexToBytes_eq_ok {s : Str} {bytes : Bytes} :
    hexToBytes R (some (.str s)) = .ok bytes ↔ Hex.strictHex s = some bytes := by
  have hOdd : oddLength (.str s) = .ok (decide (s.length % 2 ≠ 0)) := rfl
  simp only [hexToBytes, hOdd, bind, Except.bind, decide_eq_true_eq]
  by_cases hEven : s.length % 2 = 0
  · rw [if_neg (not_not.mpr hEven)]
    cases Hex.strictHex s <;> simp [pure, Except.pure]
  · rw [if_pos hEven]
    refine iff_of_false (by simp) fun h => hEven ?_
    have hLength := Hex.length_of_strictHex h
    omega

/-- What decodes at all: strict hex, and an array without elements. -/
def hexBytes? : Json → Option Bytes
  | .str s => Hex.strictHex s
  | .arr [] => some []
  | _ => none

variable {R} in
theorem hexToBytes_iff {v : Option Json} {bytes : Bytes} :
    hexToBytes R v = .ok bytes ↔ v.bind hexBytes? = some bytes := by
  -- Every other value is turned down, whatever its length and its text are.
  have turnedDown {odd : Except Str Bool} {text : Except Str Str} {message other : Str} :
      (do
        if ← odd then .error message
        let _ ← text
        .error other : Except Str Bytes) ≠ .ok bytes := by
    cases odd with
    | error thrown => simp [bind, Except.bind]
    | ok turn => cases turn <;> cases text <;> simp [bind, Except.bind]
  cases v with
  | none => simp [hexToBytes]
  | some v =>
      cases v with
      | null => simp [hexToBytes, hexBytes?]
      | str s => rw [hexToBytes_eq_ok, Option.bind_some, hexBytes?]
      | arr items =>
          cases items with
          | nil => simp [hexToBytes, hexBytes?, oddLength, bind, Except.bind, pure, Except.pure]
          | cons item rest => exact iff_of_false turnedDown (by simp [hexBytes?])
      | _ => exact iff_of_false turnedDown (by simp [hexBytes?])

/-- Never throws: what does not decode does not verify. -/
def ed25519Verify (signatureHex : Option Json) (message : Bytes) (publicKeyHex : Option Json) :
    Bool :=
  match hexToBytes R signatureHex, hexToBytes R publicKeyHex with
  | .ok signature, .ok publicKey =>
      signature.length = 64 && publicKey.length = 32 &&
        R.crypto.ed25519Verify publicKey signature message
  | _, _ => false

/-- A seed as the signing package takes it. -/
def seedOf (privateKeyHex : Str) : Except Str Bytes := do
  let seed ← hexToBytes R (some (.str privateKeyHex))
  if seed.length = 32 then return seed else .error "Uint8Array of valid length expected"

def ed25519Sign (message : Bytes) (privateKeyHex : Str) : Except Str Str := do
  let seed ← seedOf R privateKeyHex
  return Hex.encode (R.crypto.ed25519Sign seed message)

def ed25519PublicKey (privateKeyHex : Str) : Except Str Str := do
  let seed ← seedOf R privateKeyHex
  return Hex.encode (R.crypto.ed25519PublicKey seed)

section Rsa

def base64UrlToBytes (b64url : Str) : Except Str Bytes :=
  if !b64url.all Base64.isUrlsafe then .error "base64url: non-base64url characters"
  else
    match Base64.decode b64url with
    | some bytes => .ok bytes
    | none => .error "base64url: invalid length"

def bytesToBigInt (bytes : Bytes) : Nat := bytes.foldl (fun v b => 256 * v + b.toNat) 0

def rsaPublicExponent : Nat := 65537

/-- The modulus and the exponent of a JWK, as base64url text. -/
structure RsaKey where
  n : Str
  e : Str

def verifyRsaPssSha256 (payloadBytes : Bytes) (signatureHex : Str) (publicKey : RsaKey) :
    Except Str Bool := do
  let signature ← (hexToBytes R (some (.str signatureHex))).mapError fun text =>
    fstring ["verifyRsaPssSha256: malformed signature hex: ", text]
  match base64UrlToBytes publicKey.e with
  | .ok eBytes =>
      if eBytes.isEmpty then
        .error "verifyRsaPssSha256: malformed RSA public key: empty exponent"
      if bytesToBigInt eBytes ≠ rsaPublicExponent then return false
  | .error _ => pure ()
  (R.importKey publicKey.n publicKey.e).mapError fun text =>
    fstring ["verifyRsaPssSha256: malformed RSA public key: ", text]
  return R.rsaPssVerify publicKey.n publicKey.e signature payloadBytes

def deriveOperatorAddress (nBase64url : Str) : Except Str Str := do
  let modulus ← base64UrlToBytes nBase64url
  return Base64.encode (R.crypto.sha256.digest modulus)

end Rsa
end ArioProof.TypeScript
