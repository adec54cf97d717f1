import ArioProof.Data.Hex
import ArioProof.Foundation.HashFunction

/-! What both kernels take ready-made from their languages and libraries: the
cryptographic primitives, and the folding of case. Nothing is assumed of the
primitives beyond digest width; correctness of signing is a separate
hypothesis. Lowercase follows the Unicode tables that come with a language, and
two languages need not come with the same ones. -/
namespace ArioProof

open Foundation

structure Crypto where
  sha256 : HashFunction 32
  ed25519PublicKey : (seed : Bytes) → Bytes
  ed25519Sign : (seed message : Bytes) → Bytes
  /-- Strict RFC 8032 verification of a 64-byte signature under a 32-byte key. -/
  ed25519Verify : (publicKey signature message : Bytes) → Bool

def Crypto.sha256Hex (C : Crypto) (data : Bytes) : Str := Hex.encode (C.sha256.digest data)

/-- A signature made from a 32-byte seed verifies under the key of that seed. -/
structure Crypto.Ed25519Correct (C : Crypto) : Prop where
  length_publicKey : ∀ seed, seed.length = 32 → (C.ed25519PublicKey seed).length = 32
  length_sign : ∀ seed message, seed.length = 32 → (C.ed25519Sign seed message).length = 64
  verify_sign : ∀ seed message, seed.length = 32 →
    C.ed25519Verify (C.ed25519PublicKey seed) (C.ed25519Sign seed message) message = true

namespace Case

open Hex

/-- The first unit of a surrogate pair. -/
def isHighSurrogate (c : UInt16) : Bool := 0xD800 ≤ c.toNat && c.toNat ≤ 0xDBFF

/-- The second unit of a surrogate pair. -/
def isLowSurrogate (c : UInt16) : Bool := 0xDC00 ≤ c.toNat && c.toNat ≤ 0xDFFF

/-- What a language makes of a text when it puts it into lowercase. Its tables
are left open. Every version of them folds ASCII letter by letter, and none
takes a character outside ASCII to hexadecimal digits alone. -/
structure Folding where
  lower : Str → Str
  ascii : ∀ s, isAscii s = true → lower s = s.map asciiLower
  digits : ∀ s, (∀ u ∈ lower s, IsDigit u) → isAscii s = true

namespace Folding

variable (F : Folding)

/-- A text whose lowercase consists of hexadecimal digits was folded letter by
letter. -/
theorem lower_of_isDigit {s : Str} (h : ∀ u ∈ F.lower s, IsDigit u) :
    F.lower s = s.map asciiLower :=
  F.ascii s (F.digits s h)

/-- Hexadecimal text is folded letter by letter, whatever tables a runtime folds
other text by. -/
theorem lower_of_digits {s : Str} (h : ∀ c ∈ s, IsDigit c) : F.lower s = s.map asciiLower := by
  apply F.ascii
  rw [isAscii_iff]
  intro c hc
  exact toNat_lt_of_isDigit (h c hc)

/-- Folding to hexadecimal digits does not depend on the language. -/
theorem lower_eq_encode_iff {s : Str} {bytes : Bytes} :
    F.lower s = encode bytes ↔ s.map asciiLower = encode bytes := by
  constructor
  · intro h
    rw [← h]
    exact (F.lower_of_isDigit fun u hu => isDigit_of_mem_encode (h ▸ hu)).symm
  · intro h
    rw [← h]
    apply F.lower_of_digits
    intro c hc
    have hDigit : IsDigit (asciiLower c) := by
      refine @isDigit_of_mem_encode bytes _ ?_
      rw [← h]
      exact List.mem_map_of_mem hc
    unfold IsDigit at hDigit ⊢
    rwa [digit?_asciiLower] at hDigit

/-- Only the empty text is folded to the empty one. -/
theorem lower_eq_nil_iff {s : Str} : F.lower s = [] ↔ s = [] := by
  constructor
  · intro h
    have hMap : F.lower s = s.map asciiLower := by
      apply F.lower_of_isDigit
      intro u hu
      rw [h] at hu
      cases hu
    rw [h] at hMap
    exact List.map_eq_nil_iff.mp hMap.symm
  · rintro rfl
    exact F.ascii [] rfl

end Folding

/-- The folding that knows no letters outside ASCII. -/
def asciiFolding : Folding where
  lower s := s.map asciiLower
  ascii _ _ := rfl
  digits s h := by
    rw [isAscii_iff]
    intro c hc
    apply toNat_lt_of_isDigit
    have hDigit := h (asciiLower c) (List.mem_map_of_mem hc)
    unfold IsDigit at hDigit ⊢
    rwa [digit?_asciiLower] at hDigit

end Case
end ArioProof
