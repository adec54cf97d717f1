import ArioProof.Data.Text
import ArioProof.Foundation.HashFunction

/-! Hexadecimal text. `fromhex` is Python's decoder, which skips ASCII
whitespace in front of a byte; `strictHex` is the decoder of a kernel that
admits digits only. Both read upper and lower case alike. -/
namespace ArioProof.Hex

open Foundation

/-- The value of a hexadecimal digit, in either case; none for every other code
unit. -/
def digit? (c : UInt16) : Option Nat :=
  if 0x30 ≤ c.toNat ∧ c.toNat ≤ 0x39 then some (c.toNat - 0x30)
  else if 0x61 ≤ c.toNat ∧ c.toNat ≤ 0x66 then some (c.toNat - 0x57)
  else if 0x41 ≤ c.toNat ∧ c.toNat ≤ 0x46 then some (c.toNat - 0x37)
  else none

/-- A hex digit, of either case. -/
def IsDigit (c : UInt16) : Prop := (digit? c).isSome

instance (c : UInt16) : Decidable (IsDigit c) := inferInstanceAs (Decidable ((digit? c).isSome = true))

/-- The lowercase digit of a value below sixteen. -/
def digitChar (n : Nat) : UInt16 := UInt16.ofNat (if n < 10 then 0x30 + n else 0x57 + n)

/-- Python's `bytes.hex` and the kernels' `bytesToHex`: two lowercase digits for
each byte. -/
def encode (bytes : Bytes) : Str :=
  bytes.flatMap fun b => [digitChar (b.toNat / 16), digitChar (b.toNat % 16)]

/-- C `isspace` on the ASCII range, which is what `bytes.fromhex` passes over. -/
def isSpace (c : UInt16) : Bool := c.toNat = 0x20 || (0x09 ≤ c.toNat && c.toNat ≤ 0x0D)

/-- Python's `bytes.fromhex` on a `str`, which passes over white space between
bytes. -/
def fromhex : Str → Option Bytes
  | [] => some []
  | [c] => if isSpace c then some [] else none
  | c :: d :: rest =>
      if isSpace c then fromhex (d :: rest)
      else
        match digit? c, digit? d with
        | some high, some low => (fromhex rest).map (UInt8.ofNat (16 * high + low) :: ·)
        | _, _ => none

/-- Two digits a byte and nothing else, as the hex decoders of JavaScript and Go
have it. -/
def strictHex : Str → Option Bytes
  | [] => some []
  | [_] => none
  | c :: d :: rest =>
      match digit? c, digit? d with
      | some high, some low => (strictHex rest).map (UInt8.ofNat (16 * high + low) :: ·)
      | _, _ => none

/-- Lowercase of an ASCII letter; every other unit is kept. Outside ASCII the
languages fold by tables of their own. -/
def asciiLower (c : UInt16) : UInt16 :=
  if 0x41 ≤ c.toNat ∧ c.toNat ≤ 0x5A then UInt16.ofNat (c.toNat + 0x20) else c

theorem digit?_lt {c : UInt16} {n : Nat} (h : digit? c = some n) : n < 16 := by
  unfold digit? at h
  split_ifs at h <;> simp only [Option.some.injEq] at h <;> omega

theorem toNat_digitChar {n : Nat} (h : n < 16) :
    (digitChar n).toNat = if n < 10 then 0x30 + n else 0x57 + n := by
  unfold digitChar
  rw [UInt16.toNat_ofNat']
  split_ifs <;> omega

/-- The digit that is written for a number is read as that number. -/
@[simp] theorem digit?_digitChar {n : Nat} (h : n < 16) : digit? (digitChar n) = some n := by
  have hc := toNat_digitChar h
  unfold digit?
  rw [hc]
  split_ifs <;> first | (exfalso; omega) | (congr 1; omega)

theorem isDigit_digitChar {n : Nat} (h : n < 16) : IsDigit (digitChar n) := by
  simp [IsDigit, h]

theorem isSpace_eq_false_of_isDigit {c : UInt16} (h : IsDigit c) : isSpace c = false := by
  unfold IsDigit digit? at h
  unfold isSpace
  split_ifs at h <;> simp_all <;> omega

theorem toNat_asciiLower (c : UInt16) : (asciiLower c).toNat =
    if 0x41 ≤ c.toNat ∧ c.toNat ≤ 0x5A then c.toNat + 0x20 else c.toNat := by
  unfold asciiLower
  split_ifs with h
  · rw [UInt16.toNat_ofNat']
    omega
  · rfl

/-- A digit has the same value in either case. -/
@[simp] theorem digit?_asciiLower (c : UInt16) : digit? (asciiLower c) = digit? c := by
  have hc := toNat_asciiLower c
  unfold digit?
  rw [hc]
  split_ifs <;> first | (exfalso; omega) | congr 1

@[simp] theorem isSpace_asciiLower (c : UInt16) : isSpace (asciiLower c) = isSpace c := by
  have hc := toNat_asciiLower c
  unfold isSpace
  rw [hc, Bool.eq_iff_iff]
  simp only [Bool.or_eq_true, decide_eq_true_eq, Bool.and_eq_true]
  split_ifs <;> omega

private theorem ofNat_halves (b : UInt8) : UInt8.ofNat (16 * (b.toNat / 16) + b.toNat % 16) = b := by
  rw [Nat.div_add_mod]
  exact UInt8.ofNat_toNat

@[simp] theorem encode_nil : encode [] = [] := rfl

/-- A byte is written as two digits, the higher half first. -/
theorem encode_cons (b : UInt8) (rest : Bytes) :
    encode (b :: rest) = digitChar (b.toNat / 16) :: digitChar (b.toNat % 16) :: encode rest := rfl

/-- Hexadecimal digits are ASCII. -/
theorem toNat_lt_of_isDigit {c : UInt16} (h : IsDigit c) : c.toNat < 0x80 := by
  unfold IsDigit digit? at h
  split_ifs at h <;> first | omega | simp at h

theorem asciiLower_digitChar {n : Nat} (h : n < 16) : asciiLower (digitChar n) = digitChar n := by
  have hc := toNat_digitChar h
  unfold asciiLower
  rw [if_neg]
  split_ifs at hc <;> omega

/-- Hex is twice as long as what it encodes. -/
@[simp] theorem length_encode (bytes : Bytes) : (encode bytes).length = 2 * bytes.length := by
  induction bytes with
  | nil => rfl
  | cons b rest ih =>
      rw [encode_cons, List.length_cons, List.length_cons, List.length_cons, ih]
      omega

/-- An encoding is in lowercase. -/
@[simp] theorem map_asciiLower_encode (bytes : Bytes) :
    (encode bytes).map asciiLower = encode bytes := by
  induction bytes with
  | nil => rfl
  | cons b rest ih =>
      have hb := b.toNat_lt
      rw [encode_cons, List.map_cons, List.map_cons, ih, asciiLower_digitChar (by omega),
        asciiLower_digitChar (by omega)]

/-- Every unit of an encoding is a lowercase digit. -/
theorem isDigit_of_mem_encode {bytes : Bytes} {c : UInt16} (h : c ∈ encode bytes) : IsDigit c := by
  obtain ⟨b, -, hc⟩ := List.mem_flatMap.mp h
  have hb := b.toNat_lt
  rcases List.mem_cons.mp hc with rfl | hc
  · exact isDigit_digitChar (by omega)
  · rw [List.mem_singleton.mp hc]
    exact isDigit_digitChar (by omega)

/-- Hex is ASCII, so a canonicalizer writes it as it is. -/
theorem isAscii_encode (bytes : Bytes) : isAscii (encode bytes) = true :=
  isAscii_iff.mpr fun _ hc => toNat_lt_of_isDigit (isDigit_of_mem_encode hc)

/-- What was written as hex is decoded to the bytes it was written for. -/
@[simp] theorem strictHex_encode (bytes : Bytes) : strictHex (encode bytes) = some bytes := by
  induction bytes with
  | nil => rfl
  | cons b rest ih =>
      have hb := b.toNat_lt
      have hHigh := digit?_digitChar (show b.toNat / 16 < 16 by omega)
      have hLow := digit?_digitChar (show b.toNat % 16 < 16 by omega)
      rw [encode_cons, strictHex, hHigh, hLow]
      simp only [ih, Option.map_some, ofNat_halves]

/-- Text that decodes without skipping anything is twice as long as its bytes. -/
theorem length_of_strictHex {s : Str} {bytes : Bytes} (h : strictHex s = some bytes) :
    s.length = 2 * bytes.length := by
  induction s using strictHex.induct generalizing bytes with
  | case1 =>
      cases h
      rfl
  | case2 c => simp [strictHex] at h
  | case3 c d rest high low hLow hHigh ih =>
      simp only [strictHex, hLow, hHigh, Option.map_eq_some_iff] at h
      obtain ⟨tail, hTail, rfl⟩ := h
      rw [List.length_cons, List.length_cons, ih hTail, List.length_cons]
      omega
  | case4 c d rest hNone =>
      rw [strictHex] at h
      split at h
      · exact (hNone _ _ ‹_› ‹_›).elim
      · cases h

/-- What the strict decoder accepts, Python's decoder reads the same way. -/
theorem fromhex_of_strictHex {s : Str} {bytes : Bytes} (h : strictHex s = some bytes) :
    fromhex s = some bytes := by
  induction s using strictHex.induct generalizing bytes with
  | case1 => simpa [strictHex, fromhex] using h
  | case2 c => simp [strictHex] at h
  | case3 c d rest high low hLow hHigh ih =>
      have hSpace : isSpace c = false :=
        isSpace_eq_false_of_isDigit (by unfold IsDigit; rw [hHigh]; rfl)
      simp only [strictHex, hLow, hHigh, Option.map_eq_some_iff] at h
      obtain ⟨tail, hTail, rfl⟩ := h
      simp [fromhex, hSpace, hLow, hHigh, ih hTail]
  | case4 c d rest hNone =>
      rw [strictHex] at h
      split at h
      · exact (hNone _ _ ‹_› ‹_›).elim
      · simp at h

/-- The Python decoder reads what was written as hex too, since there is no white
space to skip. -/
@[simp] theorem fromhex_encode (bytes : Bytes) : fromhex (encode bytes) = some bytes :=
  fromhex_of_strictHex (strictHex_encode bytes)

/-- Case folding does not change what Python's decoder reads. -/
theorem fromhex_map_asciiLower (s : Str) : fromhex (s.map asciiLower) = fromhex s := by
  induction s using fromhex.induct with
  | case1 => rfl
  | case2 c h => simp [fromhex, h]
  | case3 c h => simp [fromhex, h]
  | case4 c d rest h ih => simpa [fromhex, h] using ih
  | case5 c d rest h high low hHigh hLow ih => simp [fromhex, h, hHigh, hLow, ih]
  | case6 c d rest h hNone =>
      simp only [List.map_cons, fromhex, isSpace_asciiLower, h, digit?_asciiLower,
        Bool.false_eq_true, if_false]

/-- Lowering the case of hex does not change what it decodes to. -/
theorem strictHex_map_asciiLower (s : Str) : strictHex (s.map asciiLower) = strictHex s := by
  induction s using strictHex.induct with
  | case1 => rfl
  | case2 c => rfl
  | case3 c d rest high low hLow hHigh ih => simp [strictHex, hHigh, hLow, ih]
  | case4 c d rest hNone => simp only [List.map_cons, strictHex, digit?_asciiLower]

/-- What the strict decoder accepts are digits. -/
theorem isDigit_of_strictHex {s : Str} {bytes : Bytes} (h : strictHex s = some bytes) :
    ∀ c ∈ s, IsDigit c := by
  induction s using strictHex.induct generalizing bytes with
  | case1 => simp
  | case2 c => simp [strictHex] at h
  | case3 c d rest high low hLow hHigh ih =>
      simp only [strictHex, hLow, hHigh, Option.map_eq_some_iff] at h
      obtain ⟨tail, hTail, -⟩ := h
      have hc : IsDigit c := by
        unfold IsDigit
        rw [hHigh]
        rfl
      have hd : IsDigit d := by
        unfold IsDigit
        rw [hLow]
        rfl
      exact List.forall_mem_cons.mpr ⟨hc, List.forall_mem_cons.mpr ⟨hd, ih hTail⟩⟩
  | case4 c d rest hNone =>
      rw [strictHex] at h
      split at h
      · exact (hNone _ _ ‹_› ‹_›).elim
      · cases h

/-- On digits the two decoders do not differ. -/
theorem strictHex_of_digits {s : Str} (h : ∀ c ∈ s, IsDigit c) : strictHex s = fromhex s := by
  induction s using strictHex.induct with
  | case1 => rfl
  | case2 c => simp [strictHex, fromhex, isSpace_eq_false_of_isDigit (h c List.mem_cons_self)]
  | case3 c d rest high low hLow hHigh ih =>
      have hSpace := isSpace_eq_false_of_isDigit (h c List.mem_cons_self)
      simp [strictHex, fromhex, hSpace, hLow, hHigh, ih fun x hx => h x (by simp [hx])]
  | case4 c d rest hNone =>
      obtain ⟨high, hHigh⟩ := Option.isSome_iff_exists.mp (h c List.mem_cons_self)
      obtain ⟨low, hLow⟩ := Option.isSome_iff_exists.mp (h d (by simp))
      exact (hNone high low hHigh hLow).elim

/-- Digits alone decode exactly when they come in pairs. -/
theorem isSome_fromhex_of_digits {s : Str} (h : ∀ c ∈ s, IsDigit c) :
    (fromhex s).isSome = decide (s.length % 2 = 0) := by
  induction s using fromhex.induct with
  | case1 => rfl
  | case2 c hSpace =>
      rw [isSpace_eq_false_of_isDigit (h c List.mem_cons_self)] at hSpace
      simp at hSpace
  | case3 c hSpace => simp [fromhex, hSpace]
  | case4 c d rest hSpace ih =>
      rw [isSpace_eq_false_of_isDigit (h c List.mem_cons_self)] at hSpace
      simp at hSpace
  | case5 c d rest hSpace high low hHigh hLow ih =>
      have hRest := ih fun x hx => h x (by simp [hx])
      simp only [fromhex, hSpace, hHigh, hLow, Bool.false_eq_true, if_false, Option.isSome_map,
        hRest, List.length_cons, decide_eq_decide]
      omega
  | case6 c d rest hSpace hNone =>
      obtain ⟨high, hHigh⟩ := Option.isSome_iff_exists.mp (h c (by simp))
      obtain ⟨low, hLow⟩ := Option.isSome_iff_exists.mp (h d (by simp))
      exact (hNone high low hHigh hLow).elim

/-- A newline behind an odd number of digits is read as half a byte. -/
theorem fromhex_digits_newline {s : Str} (h : ∀ c ∈ s, IsDigit c) (hOdd : s.length % 2 = 1) :
    fromhex (s ++ [0x0A]) = none := by
  induction s using fromhex.induct with
  | case1 => simp at hOdd
  | case2 c hSpace =>
      rw [isSpace_eq_false_of_isDigit (h c List.mem_cons_self)] at hSpace
      simp at hSpace
  | case3 c hSpace =>
      have hNewline : digit? 0x0A = none := by decide
      simp [fromhex, hSpace, hNewline]
  | case4 c d rest hSpace ih =>
      rw [isSpace_eq_false_of_isDigit (h c List.mem_cons_self)] at hSpace
      simp at hSpace
  | case5 c d rest hSpace high low hHigh hLow ih =>
      have hRest := ih (fun x hx => h x (by simp [hx])) (by simp at hOdd; omega)
      simp [fromhex, hSpace, hHigh, hLow, hRest]
  | case6 c d rest hSpace hNone =>
      obtain ⟨high, hHigh⟩ := Option.isSome_iff_exists.mp (h c (by simp))
      obtain ⟨low, hLow⟩ := Option.isSome_iff_exists.mp (h d (by simp))
      exact (hNone high low hHigh hLow).elim

/-- The strict decoder accepts pairs of digits. -/
theorem strictHex_isSome_iff (s : Str) : (∃ bytes, strictHex s = some bytes) ↔
    s.length % 2 = 0 ∧ ∀ c ∈ s, IsDigit c := by
  constructor
  · rintro ⟨bytes, h⟩
    have hLength := length_of_strictHex h
    exact ⟨by omega, isDigit_of_strictHex h⟩
  · rintro ⟨hEven, hDigits⟩
    have hSome := isSome_fromhex_of_digits hDigits
    rw [decide_eq_true hEven, ← strictHex_of_digits hDigits] at hSome
    exact Option.isSome_iff_exists.mp hSome

/-- A digit in lowercase is the digit written for its value. -/
theorem digitChar_of_digit? {c : UInt16} {n : Nat} (h : digit? c = some n) :
    digitChar n = asciiLower c := by
  have hUnit := c.toNat_lt
  have hLower := toNat_asciiLower c
  rw [← UInt16.toNat_inj, hLower, toNat_digitChar (digit?_lt h)]
  rw [digit?] at h
  split_ifs at h <;> simp only [Option.some.injEq] at h <;> split_ifs <;> omega

/-- Encoding what the strict decoder reads gives the text in lowercase. -/
theorem encode_of_strictHex {s : Str} {bytes : Bytes} (h : strictHex s = some bytes) :
    encode bytes = s.map asciiLower := by
  induction s using strictHex.induct generalizing bytes with
  | case1 =>
      cases h
      rfl
  | case2 c => simp [strictHex] at h
  | case3 c d rest high low hLow hHigh ih =>
      simp only [strictHex, hLow, hHigh, Option.map_eq_some_iff] at h
      obtain ⟨tail, hTail, rfl⟩ := h
      have hHighLt := digit?_lt hHigh
      have hLowLt := digit?_lt hLow
      have hByte : (UInt8.ofNat (16 * high + low)).toNat = 16 * high + low := by
        rw [UInt8.toNat_ofNat']
        omega
      rw [encode_cons, hByte, ih hTail, List.map_cons, List.map_cons,
        ← digitChar_of_digit? hHigh, ← digitChar_of_digit? hLow]
      congr 3 <;> omega
  | case4 c d rest hNone =>
      rw [strictHex] at h
      split at h
      · exact (hNone _ _ ‹_› ‹_›).elim
      · cases h

/-- Different bytes are written differently, so that hashes may be compared as
hex. -/
theorem encode_inj {first second : Bytes} (h : encode first = encode second) : first = second := by
  have := congrArg strictHex h
  simpa using this

end ArioProof.Hex
