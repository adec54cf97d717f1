import ArioProof.Foundation.HashFunction
import Mathlib.Algebra.Group.Nat.Defs

/-! SHA-256 on one number a message. Nothing is proved of it but the width of
its digests. Concrete runs are evaluated with it: each word is looked at before
the next one is formed from it, and the operations of a round go without the
notation that evaluation would unfold first. -/
namespace ArioProof.Reference

open Foundation

/-- The big-endian bytes of a number, in front of others. -/
def octetsOnto (rest : Bytes) : (width value : Nat) → Bytes
  | 0, _ => rest
  | width + 1, value => octetsOnto (UInt8.ofNat value :: rest) width (Nat.div value 256)

/-- The octets of a number, the first of them the most significant. -/
def octets (width value : Nat) : Bytes := octetsOnto [] width value

theorem length_octetsOnto (rest : Bytes) (width value : Nat) :
    (octetsOnto rest width value).length = width + rest.length := by
  induction width generalizing rest value with
  | zero => rw [octetsOnto, Nat.zero_add]
  | succ width ih =>
      rw [octetsOnto, ih, List.length_cons]
      omega

@[simp] theorem length_octets (width value : Nat) : (octets width value).length = width :=
  length_octetsOnto [] width value

/-- The function at an argument that evaluation looks at first. -/
def eager {α : Type} (n : Nat) (f : Nat → α) : α :=
  match n with
  | 0 => f 0
  | n + 1 => f (Nat.succ n)

/-- Forcing a number first does not change what is made of it. -/
theorem eager_eq {α : Type} (n : Nat) (f : Nat → α) : eager n f = f n := by cases n <;> rfl

/-- The number behind big-endian bytes, after those read into `acc`. -/
def ofOctets (acc : Nat) : Bytes → Nat
  | [] => acc
  | b :: rest => eager (Nat.add (Nat.mul 256 acc) b.toNat) fun acc => ofOctets acc rest

namespace Sha256

/-- A number as a word of 32 bits. -/
def word (x : Nat) : Nat := Nat.mod x 0x100000000

/-- The word next to a copy of itself, so that a shift is a rotation. -/
def twice (x : Nat) : Nat := Nat.mul x 0x100000001

/-- A word rotated to the right, as a shift of the word beside itself. -/
def rotr (x n : Nat) : Nat := Nat.shiftRight (twice x) n

def xor3 (x y z : Nat) : Nat := Nat.xor (Nat.xor x y) z

def bigSigma0 (x : Nat) : Nat := word (xor3 (rotr x 2) (rotr x 13) (rotr x 22))

def bigSigma1 (x : Nat) : Nat := word (xor3 (rotr x 6) (rotr x 11) (rotr x 25))

def smallSigma0 (x : Nat) : Nat :=
  Nat.xor (word (Nat.xor (rotr x 7) (rotr x 18))) (Nat.shiftRight x 3)

def smallSigma1 (x : Nat) : Nat :=
  Nat.xor (word (Nat.xor (rotr x 17) (rotr x 19))) (Nat.shiftRight x 10)

def ch (x y z : Nat) : Nat := Nat.xor z (Nat.land x (Nat.xor y z))

def maj (x y z : Nat) : Nat := Nat.lor (Nat.land x y) (Nat.land z (Nat.lor x y))

def add3 (x y z : Nat) : Nat := Nat.add (Nat.add x y) z

/-- The round constants of the standard, one for each of the 64 rounds. -/
def constants : List Nat := [
  0x428a2f98, 0x71374491, 0xb5c0fbcf, 0xe9b5dba5, 0x3956c25b, 0x59f111f1, 0x923f82a4, 0xab1c5ed5,
  0xd807aa98, 0x12835b01, 0x243185be, 0x550c7dc3, 0x72be5d74, 0x80deb1fe, 0x9bdc06a7, 0xc19bf174,
  0xe49b69c1, 0xefbe4786, 0x0fc19dc6, 0x240ca1cc, 0x2de92c6f, 0x4a7484aa, 0x5cb0a9dc, 0x76f988da,
  0x983e5152, 0xa831c66d, 0xb00327c8, 0xbf597fc7, 0xc6e00bf3, 0xd5a79147, 0x06ca6351, 0x14292967,
  0x27b70a85, 0x2e1b2138, 0x4d2c6dfc, 0x53380d13, 0x650a7354, 0x766a0abb, 0x81c2c92e, 0x92722c85,
  0xa2bfe8a1, 0xa81a664b, 0xc24b8b70, 0xc76c51a3, 0xd192e819, 0xd6990624, 0xf40e3585, 0x106aa070,
  0x19a4c116, 0x1e376c08, 0x2748774c, 0x34b0bcb5, 0x391c0cb3, 0x4ed8aa4a, 0x5b9cca4f, 0x682e6ff3,
  0x748f82ee, 0x78a5636f, 0x84c87814, 0x8cc70208, 0x90befffa, 0xa4506ceb, 0xbef9a3f7, 0xc67178f2]

structure State where
  a : Nat
  b : Nat
  c : Nat
  d : Nat
  e : Nat
  f : Nat
  g : Nat
  h : Nat

/-- The hash value that the first block is compressed into. -/
def initial : State := ⟨0x6a09e667, 0xbb67ae85, 0x3c6ef372, 0xa54ff53a, 0x510e527f, 0x9b05688c,
  0x1f83d9ab, 0x5be0cd19⟩

/-- The word of a window of sixteen words in one number that has so many bits
behind it. -/
def wordAt (window bits : Nat) : Nat := word (Nat.shiftRight window bits)

/-- The window one word further on: the first word leaves, and the next of the
schedule comes in. -/
def slide (window : Nat) : Nat :=
  Nat.add (Nat.mul (Nat.mod window (Nat.pow 2 480)) 0x100000000)
    (word (Nat.add (add3 (smallSigma1 (wordAt window 32)) (wordAt window 192)
      (smallSigma0 (wordAt window 448))) (wordAt window 480)))

/-- The rounds over the constants that are left, with the message schedule in a
window of sixteen words. -/
def rounds (a b c d e f g h window : Nat) : List Nat → State
  | [] => ⟨a, b, c, d, e, f, g, h⟩
  | k :: rest =>
      eager (add3 (add3 h (bigSigma1 e) (ch e f g)) k (wordAt window 480)) fun t1 =>
        eager (word (add3 t1 (bigSigma0 a) (maj a b c))) fun first =>
          eager (word (Nat.add d t1)) fun fifth =>
            rounds first a b c fifth e f g (slide window) rest

/-- The hash value after one more block. -/
def compress (s : State) (block : Nat) : State :=
  let t := rounds s.a s.b s.c s.d s.e s.f s.g s.h block constants
  eager (word (s.a + t.a)) fun a => eager (word (s.b + t.b)) fun b =>
    eager (word (s.c + t.c)) fun c => eager (word (s.d + t.d)) fun d =>
      eager (word (s.e + t.e)) fun e => eager (word (s.f + t.f)) fun f =>
        eager (word (s.g + t.g)) fun g => eager (word (s.h + t.h)) fun h => ⟨a, b, c, d, e, f, g, h⟩

/-- The last `n` blocks of a padded message in one number. -/
def blocks (s : State) (padded : Nat) : Nat → State
  | 0 => s
  | n + 1 => eager (padded >>> (512 * n) % 2 ^ 512) fun block => blocks (compress s block) padded n

/-- The message with the bit behind it, zeros and its own length in bits. -/
def pad (value length count : Nat) : Nat :=
  (value * 256 + 0x80) * 2 ^ (512 * count - 8 * length - 8) + 8 * length

/-- The words of a state in one number. -/
def number (s : State) : Nat :=
  [s.a, s.b, s.c, s.d, s.e, s.f, s.g, s.h].foldl (fun acc x => Nat.add (Nat.mul acc 0x100000000) x) 0

def digestNumber (message : Bytes) : Nat :=
  eager message.length fun length => eager (ofOctets 0 message) fun value =>
    eager ((length + 72) / 64) fun count => eager (pad value length count) fun padded =>
      number (blocks initial padded count)

def digest (message : Bytes) : Bytes := eager (digestNumber message) (octets 32)

end Sha256

def sha256 : HashFunction 32 where
  digest := Sha256.digest
  length_digest message := by rw [Sha256.digest, eager_eq, length_octets]

/-- The digest of "abc". -/
example : sha256.digest [0x61, 0x62, 0x63] =
    octets 32 0xba7816bf8f01cfea414140de5dae2223b00361a396177a9cb410ff61f20015ad := by
  decide +kernel

end ArioProof.Reference
