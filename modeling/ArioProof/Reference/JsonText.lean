import ArioProof.Data.Canonical
import ArioProof.Data.Hex
import Mathlib.Tactic.IntervalCases

/-! A JSON text codec: compact text with sorted keys, integers and ASCII
strings, and the reader that inverts it. On these values the text is that of
RFC 8785; other numbers and other characters have no text here. -/
namespace ArioProof.Reference

open Foundation

section Strings

def quotationMark : UInt16 := 0x22

def backslash : UInt16 := 0x5C

/-- The letter of a two-character escape. -/
def escapeLetters : List (UInt16 × UInt16) :=
  [(0x22, 0x22), (0x5C, 0x5C), (0x08, 0x62), (0x09, 0x74), (0x0A, 0x6E), (0x0C, 0x66), (0x0D, 0x72)]

/-- A code unit below another one, evaluated without the notation. -/
def isBelow (c : UInt16) (bound : Nat) : Bool := Nat.blt c.toNat bound

/-- A character that stands for itself. -/
def isPlain (c : UInt16) : Bool :=
  bif isBelow c 0x5D then
    bif isBelow c 0x20 then false else bif Nat.beq c.toNat 0x22 then false else isBelow c 0x5C
  else true

/-- A character between quotation marks: itself, or the escape that a canonical
text has for it. -/
def escape (c : UInt16) : Str :=
  if isPlain c then [c]
  else
    match escapeLetters.lookup c with
    | some letter => [backslash, letter]
    | none => [backslash, 0x75, 0x30, 0x30, Hex.digitChar (c.toNat / 16),
        Hex.digitChar (c.toNat % 16)]

/-- Characters of a string in front of a text. -/
def escapeOnto : Str → Str → Str
  | [], rest => rest
  | c :: s, rest => bif isPlain c then c :: escapeOnto s rest else escape c ++ escapeOnto s rest

theorem escapeOnto_cons (c : UInt16) (s rest : Str) :
    escapeOnto (c :: s) rest = escape c ++ escapeOnto s rest := by
  rw [escapeOnto, escape]
  cases isPlain c <;> rfl

/-- A string with what follows it. Only ASCII strings are written, which is all
that a sample needs. -/
def emitString (s rest : Str) : Option Str :=
  if isAscii s then some (quotationMark :: escapeOnto s (quotationMark :: rest)) else none

/-- What the reader of a string has seen of an escape. -/
inductive Pending where
  | plain
  | escaped
  | hex (left value : Nat)

def push (c : UInt16) (rest : Option (Str × Str)) : Option (Str × Str) :=
  rest.map fun (s, tail) => (c :: s, tail)

/-- The string up to its closing quotation mark, and the text behind it. -/
def readString : Pending → Str → Option (Str × Str)
  | _, [] => none
  | .plain, c :: rest =>
      if c = quotationMark then some ([], rest)
      else if c = backslash then readString .escaped rest
      else push c (readString .plain rest)
  | .escaped, c :: rest =>
      if c = 0x75 then readString (.hex 3 0) rest
      else
        match escapeLetters.find? fun entry => entry.2 = c with
        | some entry => push entry.1 (readString .plain rest)
        | none => none
  | .hex left value, c :: rest =>
      match Hex.digit? c with
      | none => none
      | some d =>
          match left with
          | 0 => push (UInt16.ofNat (16 * value + d)) (readString .plain rest)
          | left + 1 => readString (.hex left (16 * value + d)) rest

/-- Reading undoes the escape of one character and goes on behind it. -/
theorem readString_escape {c : UInt16} (h : c.toNat < 0x80) (rest : Str) :
    readString .plain (escape c ++ rest) = push c (readString .plain rest) := by
  obtain ⟨n, hn, rfl⟩ : ∃ n, n < 128 ∧ c = UInt16.ofNat n :=
    ⟨c.toNat, h, by simp⟩
  interval_cases n <;> rfl

theorem length_le_escapeOnto (s rest : Str) : rest.length ≤ (escapeOnto s rest).length := by
  induction s with
  | nil => exact le_refl _
  | cons c s ih =>
      rw [escapeOnto_cons, List.length_append]
      omega

/-- An escaped string is read back to its end, whatever follows the closing
quotation mark. -/
theorem readString_escapeOnto {s : Str} (h : isAscii s = true) (rest : Str) :
    readString .plain (escapeOnto s (quotationMark :: rest)) = some (s, rest) := by
  induction s with
  | nil => rfl
  | cons c s ih =>
      simp only [isAscii, List.all_cons, Bool.and_eq_true, decide_eq_true_eq] at h
      rw [escapeOnto_cons, readString_escape h.1, ih h.2]
      rfl

end Strings

section Numbers

def digitOf (n : Nat) : UInt16 := UInt16.ofNat (0x30 + n)

def digits (n : Nat) : Str := if n < 10 then [digitOf n] else digits (n / 10) ++ [digitOf (n % 10)]

def emitInt (n : Int) (rest : Str) : Str :=
  if n < 0 then 0x2D :: (digits n.natAbs ++ rest) else digits n.natAbs ++ rest

def digit? (c : UInt16) : Option Nat :=
  if 0x30 ≤ c.toNat ∧ c.toNat ≤ 0x39 then some (c.toNat - 0x30) else none

/-- The number up to the first character that is no digit. -/
def readDigits (acc : Nat) : Str → Nat × Str
  | [] => (acc, [])
  | c :: rest =>
      match digit? c with
      | some d => readDigits (10 * acc + d) rest
      | none => (acc, c :: rest)

/-- The text goes on with something other than a digit. -/
def Stops (rest : Str) : Prop := ∀ c tail, rest = c :: tail → digit? c = none

theorem digit?_digitOf {n : Nat} (h : n < 10) : digit? (digitOf n) = some n := by
  interval_cases n <;> rfl

/-- The digits of a number shift the accumulator and add the number. -/
theorem readDigits_digits (n : Nat) :
    ∃ shift, ∀ acc rest, readDigits acc (digits n ++ rest) = readDigits (shift * acc + n) rest := by
  induction n using digits.induct with
  | case1 n h =>
      refine ⟨10, fun acc rest => ?_⟩
      rw [digits, if_pos h, List.singleton_append, readDigits, digit?_digitOf h]
  | case2 n h ih =>
      obtain ⟨shift, ih⟩ := ih
      refine ⟨10 * shift, fun acc rest => ?_⟩
      rw [digits, if_neg h, List.append_assoc, ih, List.singleton_append, readDigits,
        digit?_digitOf (Nat.mod_lt _ (by omega))]
      have hValue : 10 * (shift * acc + n / 10) + n % 10 = 10 * shift * acc + n := by
        rw [Nat.mul_assoc]
        omega
      simp only [hValue]

/-- The digits of a number are read back, up to text that does not begin with a
digit. -/
theorem readDigits_of_stops {n : Nat} {rest : Str} (h : Stops rest) :
    readDigits 0 (digits n ++ rest) = (n, rest) := by
  obtain ⟨shift, hRead⟩ := readDigits_digits n
  rw [hRead, Nat.mul_zero, Nat.zero_add]
  cases rest with
  | nil => rfl
  | cons c tail => rw [readDigits, h c tail rfl]

/-- A number has a first digit, so that its text is never empty. -/
theorem digits_eq_cons (n : Nat) : ∃ d tail, d < 10 ∧ digits n = digitOf d :: tail := by
  induction n using digits.induct with
  | case1 n h => exact ⟨n, [], h, by rw [digits, if_pos h]⟩
  | case2 n h ih =>
      obtain ⟨d, tail, hd, ih⟩ := ih
      exact ⟨d, tail ++ [digitOf (n % 10)], hd, by rw [digits, if_neg h, ih]; rfl⟩

end Numbers

section Values

mutual

/-- The text of a value, its members as they stand, in front of a text. -/
def emit : Json → Str → Option Str
  | .null, rest => some (0x6E :: 0x75 :: 0x6C :: 0x6C :: rest)
  | .bool true, rest => some (0x74 :: 0x72 :: 0x75 :: 0x65 :: rest)
  | .bool false, rest => some (0x66 :: 0x61 :: 0x6C :: 0x73 :: 0x65 :: rest)
  | .int n, rest => some (emitInt n rest)
  | .float _, _ => none
  | .str s, rest => emitString s rest
  | .arr [], rest => some (0x5B :: 0x5D :: rest)
  | .arr (v :: items), rest => do
      let tail ← emitItems items rest
      let text ← emit v tail
      return 0x5B :: text
  | .obj [], rest => some (0x7B :: 0x7D :: rest)
  | .obj ((key, v) :: members), rest => do
      let tail ← emitMembers members rest
      let text ← emit v tail
      let text ← emitString key (0x3A :: text)
      return 0x7B :: text

def emitItems : List Json → Str → Option Str
  | [], rest => some (0x5D :: rest)
  | v :: items, rest => do
      let tail ← emitItems items rest
      let text ← emit v tail
      return 0x2C :: text

def emitMembers : List (Str × Json) → Str → Option Str
  | [], rest => some (0x7D :: rest)
  | (key, v) :: members, rest => do
      let tail ← emitMembers members rest
      let text ← emit v tail
      let text ← emitString key (0x3A :: text)
      return 0x2C :: text

end

mutual

/-- One value and the text behind it; every call has less text to read. -/
def readValue : Nat → Str → Option (Json × Str)
  | 0, _ => none
  | _ + 1, [] => none
  | fuel + 1, c :: rest =>
      if c = 0x22 then (readString .plain rest).map fun (s, rest) => (.str s, rest)
      else if c = 0x5B then
        if rest.head? = some 0x5D then some (.arr [], rest.tail)
        else do
          let (v, rest) ← readValue fuel rest
          let (items, rest) ← readItems fuel rest
          return (.arr (v :: items), rest)
      else if c = 0x7B then
        if rest.head? = some 0x7D then some (.obj [], rest.tail)
        else do
          let (entry, rest) ← readMember fuel rest
          let (members, rest) ← readMembers fuel rest
          return (.obj (entry :: members), rest)
      else if c = 0x2D then
        let (n, rest) := readDigits 0 rest
        some (.int (-n), rest)
      else if (digit? c).isSome then
        let (n, rest) := readDigits 0 (c :: rest)
        some (.int n, rest)
      else if [0x6E, 0x75, 0x6C, 0x6C].isPrefixOf (c :: rest) then some (.null, rest.drop 3)
      else if [0x74, 0x72, 0x75, 0x65].isPrefixOf (c :: rest) then some (.bool true, rest.drop 3)
      else if [0x66, 0x61, 0x6C, 0x73, 0x65].isPrefixOf (c :: rest) then
        some (.bool false, rest.drop 4)
      else none

def readItems : Nat → Str → Option (List Json × Str)
  | 0, _ => none
  | _ + 1, [] => none
  | fuel + 1, c :: rest =>
      if c = 0x5D then some ([], rest)
      else if c = 0x2C then do
        let (v, rest) ← readValue fuel rest
        let (items, rest) ← readItems fuel rest
        return (v :: items, rest)
      else none

def readMember : Nat → Str → Option ((Str × Json) × Str)
  | 0, _ => none
  | fuel + 1, text => do
      let (key, rest) ← if text.head? = some 0x22 then readString .plain text.tail else none
      let (v, rest) ← if rest.head? = some 0x3A then readValue fuel rest.tail else none
      return ((key, v), rest)

def readMembers : Nat → Str → Option (List (Str × Json) × Str)
  | 0, _ => none
  | _ + 1, [] => none
  | fuel + 1, c :: rest =>
      if c = 0x7D then some ([], rest)
      else if c = 0x2C then do
        let (entry, rest) ← readMember fuel rest
        let (members, rest) ← readMembers fuel rest
        return (entry :: members, rest)
      else none

end

/-- A text that is one value, with nothing behind it. -/
def parse (text : Str) : Option Json :=
  match readValue (text.length + 1) text with
  | some (v, []) => some v
  | _ => none

theorem stops_of_ne {c : UInt16} (h : digit? c = none) (tail : Str) : Stops (c :: tail) := by
  intro d rest hRest
  cases hRest
  exact h

theorem emitString_eq_some {s rest text : Str} (h : emitString s rest = some text) :
    ∃ body, text = quotationMark :: body ∧ readString .plain body = some (s, rest) ∧
      rest.length ≤ body.length := by
  unfold emitString at h
  split_ifs at h with hAscii
  cases h
  refine ⟨_, rfl, readString_escapeOnto hAscii rest, ?_⟩
  exact (Nat.le_succ _).trans (length_le_escapeOnto s (quotationMark :: rest))

/-- An integer is read back with its sign, when what follows does not go on with a
digit. -/
theorem readValue_emitInt (n : Int) {rest : Str} (h : Stops rest) (fuel : Nat) :
    readValue (fuel + 1) (emitInt n rest) = some (.int n, rest) := by
  unfold emitInt
  split_ifs with hNeg
  · have hValue : -(n.natAbs : Int) = n := by omega
    simp only [readValue, readDigits_of_stops h, hValue]
    rfl
  · have hValue : (n.natAbs : Int) = n := by omega
    obtain ⟨d, tail, hd, hDigits⟩ := digits_eq_cons n.natAbs
    have hRead := readDigits_of_stops (n := n.natAbs) h
    rw [hDigits] at hRead ⊢
    have hHead : digitOf d ≠ 0x22 ∧ digitOf d ≠ 0x5B ∧ digitOf d ≠ 0x7B ∧ digitOf d ≠ 0x2D := by
      interval_cases d <;> decide
    rw [List.cons_append] at hRead ⊢
    simp only [readValue, hHead, if_false, digit?_digitOf hd, Option.isSome_some, if_true, hRead,
      hValue]

/-- A member is read back when its value is: the key is a string, and a colon
stands behind it. -/
theorem readMember_eq {key name text tail : Str} {v : Json} {fuel : Nat}
    (hName : emitString key (0x3A :: text) = some name)
    (hValue : readValue fuel text = some (v, tail)) :
    readMember (fuel + 1) name = some ((key, v), tail) := by
  obtain ⟨body, rfl, hBody, -⟩ := emitString_eq_some hName
  simp [readMember, quotationMark, hBody, hValue]

/-- An array with entries is read as its first entry and the rest of its text. -/
theorem readValue_arr {fuel : Nat} {text rest tail : Str} {v : Json} {items : List Json}
    (hOpen : text.head? ≠ some 0x5D) (hHead : readValue fuel text = some (v, rest))
    (hItems : readItems fuel rest = some (items, tail)) :
    readValue (fuel + 1) (0x5B :: text) = some (.arr (v :: items), tail) := by
  rw [readValue]
  simp [hOpen, hHead, hItems]

/-- An object with members is read as its first member and the rest of its
text. -/
theorem readValue_obj {fuel : Nat} {text rest tail : Str} {entry : Str × Json}
    {members : List (Str × Json)} (hOpen : text.head? ≠ some 0x7D)
    (hHead : readMember fuel text = some (entry, rest))
    (hMembers : readMembers fuel rest = some (members, tail)) :
    readValue (fuel + 1) (0x7B :: text) = some (.obj (entry :: members), tail) := by
  rw [readValue]
  simp [hOpen, hHead, hMembers]

/-- The text of entries, taken apart: the rest is written first and the entry in
front of it. -/
theorem emit_cons_eq_some {v : Json} {items : List Json} {c : UInt16} {rest text : Str}
    (h : (do
      let tail ← emitItems items rest
      let text ← emit v tail
      return c :: text : Option Str) = some text) :
    ∃ tail first, emitItems items rest = some tail ∧ emit v tail = some first ∧
      text = c :: first := by
  simp only [Option.bind_eq_bind, Option.bind_eq_some_iff, pure, Option.some.injEq] at h
  obtain ⟨tail, hTail, first, hFirst, rfl⟩ := h
  exact ⟨tail, first, hTail, hFirst, rfl⟩

/-- The text of members, taken apart: the rest is written first, then the value,
then the key in front. -/
theorem emit_member_eq_some {key : Str} {v : Json} {members : List (Str × Json)} {c : UInt16}
    {rest text : Str}
    (h : (do
      let tail ← emitMembers members rest
      let text ← emit v tail
      let text ← emitString key (0x3A :: text)
      return c :: text : Option Str) = some text) :
    ∃ tail first name, emitMembers members rest = some tail ∧ emit v tail = some first ∧
      emitString key (0x3A :: first) = some name ∧ text = c :: name := by
  simp only [Option.bind_eq_bind, Option.bind_eq_some_iff, pure, Option.some.injEq] at h
  obtain ⟨tail, hTail, first, hFirst, name, hName, rfl⟩ := h
  exact ⟨tail, first, name, hTail, hFirst, hName, rfl⟩

/-- No value begins like the end of an array. -/
theorem emit_eq_cons {v : Json} {rest text : Str} (h : emit v rest = some text) :
    ∃ c tail, text = c :: tail ∧ c ≠ 0x5D := by
  cases v with
  | null => cases h; exact ⟨_, _, rfl, by decide⟩
  | bool value => cases value <;> cases h <;> exact ⟨_, _, rfl, by decide⟩
  | int n =>
      cases h
      unfold emitInt
      split_ifs
      · exact ⟨_, _, rfl, by decide⟩
      · obtain ⟨d, tail, hd, hDigits⟩ := digits_eq_cons n.natAbs
        exact ⟨_, tail ++ rest, by rw [hDigits]; rfl, by interval_cases d <;> decide⟩
  | float d => cases h
  | str s =>
      obtain ⟨body, rfl, -⟩ := emitString_eq_some h
      exact ⟨_, _, rfl, by decide⟩
  | arr items =>
      cases items with
      | nil => cases h; exact ⟨_, _, rfl, by decide⟩
      | cons v items =>
          obtain ⟨-, first, -, -, rfl⟩ := emit_cons_eq_some h
          exact ⟨_, _, rfl, by decide⟩
  | obj members =>
      cases members with
      | nil => cases h; exact ⟨_, _, rfl, by decide⟩
      | cons entry members =>
          obtain ⟨-, -, name, -, -, -, rfl⟩ := emit_member_eq_some h
          exact ⟨_, _, rfl, by decide⟩

theorem emitItems_stops {items : List Json} {rest text : Str}
    (h : emitItems items rest = some text) : Stops text := by
  cases items with
  | nil => cases h; exact stops_of_ne (by decide) _
  | cons v items =>
      obtain ⟨-, first, -, -, rfl⟩ := emit_cons_eq_some h
      exact stops_of_ne (by decide) _

theorem emitMembers_stops {members : List (Str × Json)} {rest text : Str}
    (h : emitMembers members rest = some text) : Stops text := by
  cases members with
  | nil => cases h; exact stops_of_ne (by decide) _
  | cons entry members =>
      obtain ⟨-, -, name, -, -, -, rfl⟩ := emit_member_eq_some h
      exact stops_of_ne (by decide) _

theorem exists_eq_add_one {fuel : Nat} (h : 0 < fuel) : ∃ less, fuel = less + 1 :=
  ⟨fuel - 1, by omega⟩

/-- A text is read as a value in front of `rest` with as much fuel as it is long. -/
def Reads {α : Type} (read : Nat → Str → Option (α × Str)) (text : Str) (v : α) (rest : Str) : Prop :=
  rest.length ≤ text.length ∧
    ∀ fuel, text.length ≤ fuel → read (fuel + 1) text = some (v, rest)

mutual

/-- A value is read back from its text, whatever follows it. -/
theorem readValue_emit : ∀ (v : Json) {rest text : Str}, emit v rest = some text → Stops rest →
    Reads readValue text v rest
  | .null, rest, _, h, _ => by
      cases h
      exact ⟨by simp only [List.length_cons]; omega, fun fuel _ => rfl⟩
  | .bool true, rest, _, h, _ => by
      cases h
      exact ⟨by simp only [List.length_cons]; omega, fun fuel _ => rfl⟩
  | .bool false, rest, _, h, _ => by
      cases h
      exact ⟨by simp only [List.length_cons]; omega, fun fuel _ => rfl⟩
  | .int n, rest, _, h, hRest => by
      cases h
      refine ⟨?_, fun fuel _ => readValue_emitInt n hRest fuel⟩
      unfold emitInt
      split_ifs <;> simp only [List.length_cons, List.length_append] <;> omega
  | .float _, _, _, h, _ => by cases h
  | .str s, rest, _, h, _ => by
      obtain ⟨body, rfl, hBody, hLen⟩ := emitString_eq_some h
      refine ⟨hLen.trans (Nat.le_succ _), fun fuel _ => ?_⟩
      simp [readValue, quotationMark, hBody]
  | .arr [], rest, _, h, _ => by
      cases h
      exact ⟨by simp only [List.length_cons]; omega, fun fuel _ => rfl⟩
  | .arr (v :: items), rest, _, h, _ => by
      obtain ⟨tail, first, hTail, hFirst, rfl⟩ := emit_cons_eq_some h
      obtain ⟨hLen, hItems⟩ := readItems_emit items hTail
      obtain ⟨hLen', hHead⟩ := readValue_emit v hFirst (emitItems_stops hTail)
      obtain ⟨c, text, rfl, hOpen⟩ := emit_eq_cons hFirst
      simp only [List.length_cons] at hLen' hHead
      refine ⟨by simp only [List.length_cons]; omega, fun fuel hFuel => ?_⟩
      simp only [List.length_cons] at hFuel
      obtain ⟨fuel, rfl⟩ := exists_eq_add_one (show 0 < fuel by omega)
      exact readValue_arr (by simpa using hOpen) (hHead fuel (by omega)) (hItems fuel (by omega))
  | .obj [], rest, _, h, _ => by
      cases h
      exact ⟨by simp only [List.length_cons]; omega, fun fuel _ => rfl⟩
  | .obj ((key, v) :: members), rest, _, h, _ => by
      obtain ⟨tail, first, name, hTail, hFirst, hName, rfl⟩ := emit_member_eq_some h
      obtain ⟨hLen, hMembers⟩ := readMembers_emit members hTail
      obtain ⟨hLen', hHead⟩ := readValue_emit v hFirst (emitMembers_stops hTail)
      obtain ⟨body, rfl, hBody, hLen''⟩ := emitString_eq_some hName
      simp only [List.length_cons] at hLen''
      refine ⟨by simp only [List.length_cons]; omega, fun fuel hFuel => ?_⟩
      simp only [List.length_cons] at hFuel
      obtain ⟨fuel, rfl⟩ := exists_eq_add_one (show 0 < fuel by omega)
      obtain ⟨fuel, rfl⟩ := exists_eq_add_one (show 0 < fuel by omega)
      exact readValue_obj (by simp [quotationMark])
        (readMember_eq hName (hHead fuel (by omega))) (hMembers (fuel + 1) (by omega))

theorem readItems_emit : ∀ (items : List Json) {rest text : Str},
    emitItems items rest = some text → Reads readItems text items rest
  | [], rest, _, h => by
      cases h
      exact ⟨Nat.le_succ _, fun fuel _ => rfl⟩
  | v :: items, rest, _, h => by
      obtain ⟨tail, first, hTail, hFirst, rfl⟩ := emit_cons_eq_some h
      obtain ⟨hLen, hItems⟩ := readItems_emit items hTail
      obtain ⟨hLen', hHead⟩ := readValue_emit v hFirst (emitItems_stops hTail)
      refine ⟨by simp only [List.length_cons]; omega, fun fuel hFuel => ?_⟩
      simp only [List.length_cons] at hFuel
      obtain ⟨fuel, rfl⟩ := exists_eq_add_one (show 0 < fuel by omega)
      simp [readItems, hHead fuel (by omega), hItems fuel (by omega)]

theorem readMembers_emit : ∀ (members : List (Str × Json)) {rest text : Str},
    emitMembers members rest = some text → Reads readMembers text members rest
  | [], rest, _, h => by
      cases h
      exact ⟨Nat.le_succ _, fun fuel _ => rfl⟩
  | (key, v) :: members, rest, _, h => by
      obtain ⟨tail, first, name, hTail, hFirst, hName, rfl⟩ := emit_member_eq_some h
      obtain ⟨hLen, hMembers⟩ := readMembers_emit members hTail
      obtain ⟨hLen', hHead⟩ := readValue_emit v hFirst (emitMembers_stops hTail)
      obtain ⟨body, hCons, -, hLen''⟩ := emitString_eq_some hName
      have hNameLen := congrArg List.length hCons
      simp only [List.length_cons] at hLen'' hNameLen
      refine ⟨by simp only [List.length_cons]; omega, fun fuel hFuel => ?_⟩
      simp only [List.length_cons] at hFuel
      obtain ⟨fuel, rfl⟩ := exists_eq_add_one (show 0 < fuel by omega)
      obtain ⟨fuel, rfl⟩ := exists_eq_add_one (show 0 < fuel by omega)
      have hMember := readMember_eq hName (hHead fuel (by omega))
      simp [readMembers, hMember, hMembers (fuel + 1) (by omega)]

end

/-- A value that can be written is read back from its text, with its integers and
its order of members. -/
theorem parse_emit {v : Json} {text : Str} (h : emit v [] = some text) : parse text = some v := by
  have hRead := (readValue_emit v h (by simp [Stops])).2 text.length (le_refl _)
  simp [parse, hRead]

end Values

section Order

/-- A number as the integer it is, where that takes at most 53 bits. -/
def integral (d : Double) : Json :=
  match d with
  | .finite q => if q.den = 1 ∧ q.num.natAbs < 2 ^ 53 then .int q.num else .float d
  | _ => .float d

mutual

/-- The value with the members of every object in order, and every number that
has a text here as an integer. -/
def order : Json → Json
  | .int n => if n.natAbs < 2 ^ 53 then .int n else integral (Double.ofRat n)
  | .float d => integral d
  | .arr items => .arr (orderItems items)
  | .obj members => .obj (sortMembers (orderMembers members))
  | v => v

def orderItems : List Json → List Json
  | [] => []
  | v :: rest => order v :: orderItems rest

def orderMembers : List (Str × Json) → List (Str × Json)
  | [] => []
  | (key, v) :: rest => (key, order v) :: orderMembers rest

end

/-- Whole numbers that are written as integers stand for the same number. -/
theorem norm_integral (d : Double) : (integral d).norm = .float d := by
  cases d with
  | finite q =>
      simp only [integral]
      split_ifs with h
      · obtain ⟨hDen, hSmall⟩ := h
        rw [Json.norm, Double.ofRat_intCast hSmall, Rat.den_eq_one_iff q |>.mp hDen]
      · rfl
  | _ => rfl

/-- A small integer is the number it denotes. -/
theorem integral_ofRat {n : Int} (h : n.natAbs < 2 ^ 53) : integral (Double.ofRat n) = .int n := by
  rw [Double.ofRat_intCast h]
  simp only [integral, Rat.den_intCast, Rat.num_intCast, true_and]
  exact if_pos h

theorem order_int (n : Int) : order (.int n) = integral (Double.ofRat n) := by
  rw [order]
  split_ifs with h
  · exact (integral_ofRat h).symm
  · rfl

theorem orderItems_eq_map (items : List Json) : orderItems items = items.map order := by
  induction items with
  | nil => rfl
  | cons v rest ih => rw [orderItems, ih, List.map_cons]

theorem orderMembers_eq_map (members : List (Str × Json)) :
    orderMembers members = members.map fun entry => (entry.1, order entry.2) := by
  induction members with
  | nil => rfl
  | cons entry rest ih => rw [orderMembers, ih, List.map_cons]

mutual

/-- Sorting and rounding do not change what a canonical form shows. -/
theorem norm_order : ∀ v : Json, (order v).norm = v.norm
  | .null | .bool _ | .str _ => rfl
  | .int n => by rw [order_int, norm_integral, Json.norm]
  | .float d => norm_integral d
  | .arr items => by rw [order, Json.norm, Json.norm, normItems_orderItems]
  | .obj members => by
      have hSorted : sortMembers (normMembers (sortMembers (orderMembers members))) =
          sortMembers (normMembers (orderMembers members)) := by
        rw [normMembers_eq_map, sortMembers_map, sortMembers_sortMembers, ← sortMembers_map,
          ← normMembers_eq_map]
      rw [order, Json.norm, Json.norm, hSorted, normMembers_orderMembers]

theorem normItems_orderItems : ∀ items : List Json, normItems (orderItems items) = normItems items
  | [] => rfl
  | v :: rest => by rw [orderItems, normItems, normItems, norm_order v, normItems_orderItems rest]

theorem normMembers_orderMembers : ∀ members : List (Str × Json),
    normMembers (orderMembers members) = normMembers members
  | [] => rfl
  | (key, v) :: rest => by
      rw [orderMembers, normMembers, normMembers, norm_order v, normMembers_orderMembers rest]

end

mutual

/-- What a canonical form does not tell apart has the same sorted form. -/
theorem order_norm : ∀ v : Json, order v.norm = order v
  | .null | .bool _ | .float _ | .str _ => rfl
  | .int n => by rw [Json.norm, order_int, order]
  | .arr items => by rw [Json.norm, order, order, orderItems_normItems]
  | .obj members => by
      have hSorted : sortMembers (orderMembers (sortMembers (normMembers members))) =
          sortMembers (orderMembers (normMembers members)) := by
        rw [orderMembers_eq_map, sortMembers_map, sortMembers_sortMembers, ← sortMembers_map,
          ← orderMembers_eq_map]
      rw [Json.norm, order, order, hSorted, orderMembers_normMembers]

theorem orderItems_normItems : ∀ items : List Json, orderItems (normItems items) = orderItems items
  | [] => rfl
  | v :: rest => by rw [normItems, orderItems, orderItems, order_norm v, orderItems_normItems rest]

theorem orderMembers_normMembers : ∀ members : List (Str × Json),
    orderMembers (normMembers members) = orderMembers members
  | [] => rfl
  | (key, v) :: rest => by
      rw [normMembers, orderMembers, orderMembers, order_norm v, orderMembers_normMembers rest]

end

/-- Values that a canonical form does not tell apart are sorted alike. -/
theorem order_eq_of_norm_eq {v w : Json} (h : v.norm = w.norm) : order v = order w := by
  rw [← order_norm v, h, order_norm]

/-- A sorted form is its own sorted form. -/
theorem order_order (v : Json) : order (order v) = order v := order_eq_of_norm_eq (norm_order v)

/-- The canonical text of a value: sorted members, rounded numbers, and no
blanks. -/
def canonicalText (v : Json) : Option Str := emit (order v) []

/-- A canonical text is read back as the sorted form of its value. -/
theorem parse_canonicalText {v : Json} {text : Str} (h : canonicalText v = some text) :
    parse text = some (order v) := parse_emit h

/-- Values with one canonical text have one normal form. -/
theorem norm_eq_of_canonicalText {v w : Json} {text : Str} (hv : canonicalText v = some text)
    (hw : canonicalText w = some text) : v.norm = w.norm := by
  have hOrder : order v = order w :=
    Option.some.inj ((parse_canonicalText hv).symm.trans (parse_canonicalText hw))
  rw [← norm_order v, hOrder, norm_order]

/-- What was read from canonical text has that text again. -/
theorem canonicalText_parse {v parsed : Json} {text : Str} (h : canonicalText v = some text)
    (hParsed : parse text = some parsed) : canonicalText parsed = some text := by
  rw [parse_canonicalText h] at hParsed
  cases hParsed
  rw [canonicalText, order_order]
  exact h

end Order

section Texts

theorem isSome_emitString (s rest : Str) : (emitString s rest).isSome = isAscii s := by
  unfold emitString
  split_ifs with h <;> simp [h]

/-- Whether an entry can be written does not depend on what follows it. -/
theorem isSome_cons {v : Json} (h : ∀ rest, (emit v rest).isSome = (emit v []).isSome)
    (tail : Option Str) (c : UInt16) :
    (do
      let tail ← tail
      let text ← emit v tail
      return c :: text : Option Str).isSome = (tail.isSome && (emit v []).isSome) := by
  cases tail with
  | none => rfl
  | some tail =>
      rw [← h tail, Option.bind_eq_bind, Option.bind_some]
      cases emit v tail <;> rfl

/-- Whether a member can be written does not depend on what follows it, and its
key has to be ASCII. -/
theorem isSome_member {v : Json} (h : ∀ rest, (emit v rest).isSome = (emit v []).isSome)
    (tail : Option Str) (key : Str) (c : UInt16) :
    (do
      let tail ← tail
      let text ← emit v tail
      let text ← emitString key (0x3A :: text)
      return c :: text : Option Str).isSome =
        (tail.isSome && ((emit v []).isSome && isAscii key)) := by
  cases tail with
  | none => rfl
  | some tail =>
      rw [← h tail, Option.bind_eq_bind, Option.bind_some]
      cases emit v tail with
      | none => rfl
      | some text =>
          rw [← isSome_emitString key (0x3A :: text), Option.bind_some]
          cases emitString key (0x3A :: text) <;> rfl

mutual

/-- Whether a value can be written is a matter of the value, not of its place in a
text. -/
theorem isSome_emit : ∀ (v : Json) (rest : Str), (emit v rest).isSome = (emit v []).isSome
  | .null, _ | .bool true, _ | .bool false, _ | .int _, _ | .float _, _ => rfl
  | .str s, rest => by rw [emit, emit, isSome_emitString, isSome_emitString]
  | .arr [], _ | .obj [], _ => rfl
  | .arr (v :: items), rest => by
      rw [emit, emit, isSome_cons (isSome_emit v), isSome_cons (isSome_emit v),
        isSome_emitItems items rest, isSome_emitItems items []]
  | .obj ((key, v) :: members), rest => by
      rw [emit, emit, isSome_member (isSome_emit v), isSome_member (isSome_emit v),
        isSome_emitMembers members rest, isSome_emitMembers members []]

theorem isSome_emitItems : ∀ (items : List Json) (rest : Str),
    (emitItems items rest).isSome = items.all fun v => (emit v []).isSome
  | [], _ => rfl
  | v :: items, rest => by
      rw [emitItems, isSome_cons (isSome_emit v), isSome_emitItems items rest, List.all_cons,
        Bool.and_comm]

theorem isSome_emitMembers : ∀ (members : List (Str × Json)) (rest : Str),
    (emitMembers members rest).isSome =
      members.all fun entry => (emit entry.2 []).isSome && isAscii entry.1
  | [], _ => rfl
  | (key, v) :: members, rest => by
      rw [emitMembers, isSome_member (isSome_emit v), isSome_emitMembers members rest,
        List.all_cons, Bool.and_comm]

end

/-- An array can be written when each of its entries can. -/
theorem isSome_emit_arr (items : List Json) :
    (emit (.arr items) []).isSome = items.all fun v => (emit v []).isSome := by
  cases items with
  | nil => rfl
  | cons v items =>
      rw [emit, isSome_cons (isSome_emit v), isSome_emitItems, List.all_cons, Bool.and_comm]

/-- An object can be written when each of its values can and its keys are
ASCII. -/
theorem isSome_emit_obj (members : List (Str × Json)) : (emit (.obj members) []).isSome =
    members.all fun entry => (emit entry.2 []).isSome && isAscii entry.1 := by
  cases members with
  | nil => rfl
  | cons entry members =>
      rw [emit, isSome_member (isSome_emit entry.2), isSome_emitMembers, List.all_cons,
        Bool.and_comm]

/-- A container has a text exactly when its parts have one. -/
theorem isSome_canonicalText_arr (items : List Json) : (canonicalText (.arr items)).isSome = true ↔
    ∀ v ∈ items, (canonicalText v).isSome = true := by
  rw [canonicalText, order, isSome_emit_arr, orderItems_eq_map, List.all_map, List.all_eq_true]
  rfl

theorem isSome_canonicalText_str (s : Str) : (canonicalText (.str s)).isSome = isAscii s :=
  isSome_emitString s []

/-- An object has a canonical text when its values have one and its keys are
ASCII. The order of the members does not matter. -/
theorem isSome_canonicalText_obj (members : List (Str × Json)) :
    (canonicalText (.obj members)).isSome = true ↔
      ∀ entry ∈ members, isAscii entry.1 = true ∧ (canonicalText entry.2).isSome = true := by
  rw [canonicalText, order, isSome_emit_obj, orderMembers_eq_map, List.all_eq_true]
  simp only [mem_sortMembers, List.forall_mem_map, canonicalText, Bool.and_eq_true]
  exact forall₂_congr fun _ _ => and_comm

theorem isAscii_cons {c : UInt16} {s : Str} :
    isAscii (c :: s) = true ↔ c.toNat < 0x80 ∧ isAscii s = true := by simp [isAscii]

theorem isAscii_append {s t : Str} : isAscii (s ++ t) = true ↔ isAscii s = true ∧ isAscii t = true := by
  simp [isAscii]

theorem isAscii_escape {c : UInt16} (h : c.toNat < 0x80) : isAscii (escape c) = true := by
  obtain ⟨n, hn, rfl⟩ : ∃ n, n < 128 ∧ c = UInt16.ofNat n := ⟨c.toNat, h, by simp⟩
  interval_cases n <;> decide

theorem isAscii_escapeOnto {s rest : Str} (h : isAscii s = true) (hRest : isAscii rest = true) :
    isAscii (escapeOnto s rest) = true := by
  induction s with
  | nil => exact hRest
  | cons c s ih =>
      obtain ⟨hc, hs⟩ := isAscii_cons.mp h
      rw [escapeOnto_cons, isAscii_append]
      exact ⟨isAscii_escape hc, ih hs⟩

theorem isAscii_emitString {s rest text : Str} (h : emitString s rest = some text)
    (hRest : isAscii rest = true) : isAscii text = true := by
  unfold emitString at h
  split_ifs at h with hAscii
  cases h
  have hClosed : isAscii (quotationMark :: rest) = true := isAscii_cons.mpr ⟨by decide, hRest⟩
  exact isAscii_cons.mpr ⟨by decide, isAscii_escapeOnto hAscii hClosed⟩

theorem isAscii_digits (n : Nat) : isAscii (digits n) = true := by
  have digit (d : Nat) (h : d < 10) : isAscii [digitOf d] = true := by
    interval_cases d <;> decide
  induction n using digits.induct with
  | case1 n h =>
      rw [digits, if_pos h]
      exact digit n h
  | case2 n h ih =>
      rw [digits, if_neg h, isAscii_append]
      exact ⟨ih, digit _ (Nat.mod_lt _ (by omega))⟩

/-- A member adds only its key, a colon and what stands in front of it, all of it
ASCII. -/
theorem isAscii_member {key : Str} {c : UInt16} {first name : Str} (hc : c.toNat < 0x80)
    (hFirst : isAscii first = true) (hName : emitString key (0x3A :: first) = some name) :
    isAscii (c :: name) = true :=
  isAscii_cons.mpr ⟨hc, isAscii_emitString hName (isAscii_cons.mpr ⟨by decide, hFirst⟩)⟩

mutual

/-- A text in front of ASCII is ASCII. -/
theorem isAscii_emit : ∀ (v : Json) {rest text : Str}, emit v rest = some text →
    isAscii rest = true → isAscii text = true
  | .null, _, _, h, hRest => by cases h; simpa [isAscii_cons] using hRest
  | .bool true, _, _, h, hRest => by cases h; simpa [isAscii_cons] using hRest
  | .bool false, _, _, h, hRest => by cases h; simpa [isAscii_cons] using hRest
  | .int n, _, _, h, hRest => by
      cases h
      have hDigits := isAscii_append.mpr ⟨isAscii_digits n.natAbs, hRest⟩
      unfold emitInt
      split_ifs
      · exact isAscii_cons.mpr ⟨by decide, hDigits⟩
      · exact hDigits
  | .float _, _, _, h, _ => by cases h
  | .str _, _, _, h, hRest => isAscii_emitString h hRest
  | .arr [], _, _, h, hRest => by cases h; simpa [isAscii_cons] using hRest
  | .arr (v :: items), _, _, h, hRest => by
      obtain ⟨tail, first, hTail, hFirst, rfl⟩ := emit_cons_eq_some h
      exact isAscii_cons.mpr ⟨by decide, isAscii_emit v hFirst (isAscii_emitItems items hTail hRest)⟩
  | .obj [], _, _, h, hRest => by cases h; simpa [isAscii_cons] using hRest
  | .obj ((key, v) :: members), _, _, h, hRest => by
      obtain ⟨tail, first, name, hTail, hFirst, hName, rfl⟩ := emit_member_eq_some h
      have hTail := isAscii_emitMembers members hTail hRest
      exact isAscii_member (by decide) (isAscii_emit v hFirst hTail) hName

theorem isAscii_emitItems : ∀ (items : List Json) {rest text : Str},
    emitItems items rest = some text → isAscii rest = true → isAscii text = true
  | [], _, _, h, hRest => by cases h; exact isAscii_cons.mpr ⟨by decide, hRest⟩
  | v :: items, _, _, h, hRest => by
      obtain ⟨tail, first, hTail, hFirst, rfl⟩ := emit_cons_eq_some h
      exact isAscii_cons.mpr ⟨by decide, isAscii_emit v hFirst (isAscii_emitItems items hTail hRest)⟩

theorem isAscii_emitMembers : ∀ (members : List (Str × Json)) {rest text : Str},
    emitMembers members rest = some text → isAscii rest = true → isAscii text = true
  | [], _, _, h, hRest => by cases h; exact isAscii_cons.mpr ⟨by decide, hRest⟩
  | (key, v) :: members, _, _, h, hRest => by
      obtain ⟨tail, first, name, hTail, hFirst, hName, rfl⟩ := emit_member_eq_some h
      have hTail := isAscii_emitMembers members hTail hRest
      exact isAscii_member (by decide) (isAscii_emit v hFirst hTail) hName

end

/-- A canonical text is ASCII throughout, so that its UTF-8 bytes are its code
units. -/
theorem isAscii_canonicalText {v : Json} {text : Str} (h : canonicalText v = some text) :
    isAscii text = true := isAscii_emit (order v) h rfl

end Texts
end ArioProof.Reference
