import ArioProof.Data.Decoding
import ArioProof.Data.Utf8

/-! JSON text by its concrete syntax: the bytes a text is written in, and the
string literals it is written with, those of shadowed members among them. -/
namespace ArioProof.Syntax

open Foundation

section Strings

/-- A hexadecimal digit in the letter case it is written in. -/
structure HexDigit where
  value : Fin 16
  upper : Bool

def HexDigit.byte (d : HexDigit) : UInt8 :=
  UInt8.ofNat (if d.value.val < 10 then 0x30 + d.value.val
    else if d.upper then 0x37 + d.value.val else 0x57 + d.value.val)

/-- A hex digit is an ASCII character, in either case. -/
theorem HexDigit.byte_lt (d : HexDigit) : d.byte.toNat < 0x80 := by
  have hValue := d.value.isLt
  rw [byte, UInt8.toNat_ofNat']
  split_ifs <;> omega

/-- The escapes of two characters. -/
inductive Short where
  | quotationMark
  | reverseSolidus
  | solidus
  | backspace
  | formFeed
  | lineFeed
  | carriageReturn
  | tab

/-- The letter that stands behind the reverse solidus. -/
def Short.letter : Short → UInt8
  | quotationMark => 0x22
  | reverseSolidus => 0x5C
  | solidus => 0x2F
  | backspace => 0x62
  | formFeed => 0x66
  | lineFeed => 0x6E
  | carriageReturn => 0x72
  | tab => 0x74

/-- The code unit that the escape stands for. -/
def Short.unit : Short → UInt16
  | quotationMark => 0x22
  | reverseSolidus => 0x5C
  | solidus => 0x2F
  | backspace => 0x08
  | formFeed => 0x0C
  | lineFeed => 0x0A
  | carriageReturn => 0x0D
  | tab => 0x09

/-- A character that stands for itself in a literal. -/
def IsPlain (c : Char) : Prop := 0x20 ≤ c.toNat ∧ c.toNat ≠ 0x22 ∧ c.toNat ≠ 0x5C

/-- A part of a literal. Only the last kind can write half of a surrogate pair. -/
inductive Element where
  | plain (c : Char) (h : IsPlain c)
  | short (escape : Short)
  | unit (a b c d : HexDigit)

/-- The value of the four digits of an escape. -/
def escapedUnit (a b c d : HexDigit) : Nat :=
  0x10 * (0x10 * (0x10 * a.value.val + b.value.val) + c.value.val) + d.value.val

/-- An element of a string as it is encoded in a text. -/
def Element.bytes : Element → Bytes
  | plain c _ => utf8Char c.toNat
  | short escape => [0x5C, escape.letter]
  | unit a b c d => [0x5C, 0x75, a.byte, b.byte, c.byte, d.byte]

/-- The code units that an element stands for. A character beyond the basic plane
has two. -/
def Element.units : Element → Str
  | plain c _ => utf16Char c
  | short escape => [escape.unit]
  | unit a b c d => [UInt16.ofNat (escapedUnit a b c d)]

/-- What a literal denotes. -/
def denote (elements : List Element) : Str := elements.flatMap Element.units

end Strings

section Tokens

/-- A byte of a text outside its literals. -/
structure Symbol where
  byte : UInt8
  isAscii : byte.toNat < 0x80
  notQuotationMark : byte ≠ 0x22

/-- A piece of text that cannot be broken up by blanks: a character outside
strings, or a whole string. -/
inductive Token where
  | symbol (own : Symbol)
  | literal (elements : List Element)

/-- A token as it is encoded, a string with its quotation marks. -/
def Token.bytes : Token → Bytes
  | .symbol own => [own.byte]
  | .literal elements => 0x22 :: (elements.flatMap Element.bytes ++ [0x22])

/-- The strings that a token holds, as they are read. -/
def Token.literals : Token → List Str
  | .symbol _ => []
  | .literal elements => [denote elements]

def openBracket : Token := .symbol ⟨0x5B, by decide, by decide⟩

def closeBracket : Token := .symbol ⟨0x5D, by decide, by decide⟩

def openBrace : Token := .symbol ⟨0x7B, by decide, by decide⟩

def closeBrace : Token := .symbol ⟨0x7D, by decide, by decide⟩

def comma : Token := .symbol ⟨0x2C, by decide, by decide⟩

def colon : Token := .symbol ⟨0x3A, by decide, by decide⟩

/-- A letter of a word. -/
def letter (n : Fin 26) : Token :=
  .symbol ⟨UInt8.ofNat (0x61 + n.val), by revert n; decide, by revert n; decide⟩

/-- A name such as `null`, one token for each of its letters. -/
def word (letters : List (Fin 26)) : List Token := letters.map letter

/-- White space between tokens. -/
inductive Blank where
  | space
  | tab
  | lineFeed
  | carriageReturn

/-- The four characters that may stand between tokens without a meaning. -/
def Blank.token : Blank → Token
  | space => .symbol ⟨0x20, by decide, by decide⟩
  | tab => .symbol ⟨0x09, by decide, by decide⟩
  | lineFeed => .symbol ⟨0x0A, by decide, by decide⟩
  | carriageReturn => .symbol ⟨0x0D, by decide, by decide⟩

abbrev Blanks := List Blank

/-- A run of blanks, which may be empty. -/
def blanks (gap : Blanks) : List Token := gap.map Blank.token

end Tokens

section Numbers

/-- A decimal digit as a token of its own. -/
def digit (d : Fin 10) : Token :=
  .symbol ⟨UInt8.ofNat (0x30 + d.val), by revert d; decide, by revert d; decide⟩

def minus : Token := .symbol ⟨0x2D, by decide, by decide⟩

/-- The part of a number behind its `e`, with a sign if one is written. -/
structure Exponent where
  upper : Bool
  negative : Option Bool
  first : Fin 10
  digits : List (Fin 10)

/-- An exponent, its sign and its digits. -/
def Exponent.tokens (e : Exponent) : List Token :=
  .symbol (if e.upper then ⟨0x45, by decide, by decide⟩ else ⟨0x65, by decide, by decide⟩) ::
    (match e.negative with
      | none => []
      | some true => [minus]
      | some false => [.symbol ⟨0x2B, by decide, by decide⟩]) ++
    digit e.first :: e.digits.map digit

/-- A number without leading zeros. -/
structure Number where
  negative : Bool
  first : Fin 10
  digits : List (Fin 10)
  noLeadingZero : first = 0 → digits = []
  fraction : List (Fin 10)
  exponent : Option Exponent

/-- A number: a sign, whole digits without a leading zero, and where there are any
a fraction and an exponent. -/
def Number.tokens (n : Number) : List Token :=
  (if n.negative then [minus] else []) ++ digit n.first :: n.digits.map digit ++
    (if n.fraction.isEmpty then []
      else .symbol ⟨0x2E, by decide, by decide⟩ :: n.fraction.map digit) ++
    (match n.exponent with
      | none => []
      | some exponent => exponent.tokens)

end Numbers

section Texts

mutual

inductive Text where
  | null
  | bool (value : Bool)
  | number (n : Number)
  | string (elements : List Element)
  | array (gap : Blanks) (items : Items)
  | object (gap : Blanks) (members : Members)

inductive Items where
  | nil
  | cons (item : Text) (after before : Blanks) (rest : Items)

/-- Members as they are written: a key may occur again. -/
inductive Members where
  | nil
  | cons (key : List Element) (beforeColon afterColon : Blanks) (value : Text)
      (after before : Blanks) (rest : Members)

end

mutual

/-- The tokens of a value, with the blanks that were written inside it. -/
def Text.tokens : Text → List Token
  | .null => word [13, 20, 11, 11]
  | .bool true => word [19, 17, 20, 4]
  | .bool false => word [5, 0, 11, 18, 4]
  | .number n => n.tokens
  | .string elements => [.literal elements]
  | .array gap items => openBracket :: blanks gap ++ items.tokens [] ++ [closeBracket]
  | .object gap members => openBrace :: blanks gap ++ members.tokens [] ++ [closeBrace]

/-- The items of an array behind the tokens that divide them. -/
def Items.tokens : Items → (divider : List Token) → List Token
  | .nil, _ => []
  | .cons item after before rest, divider =>
      divider ++ item.tokens ++ blanks after ++ rest.tokens (comma :: blanks before)

/-- The tokens of the members of an object, where the divider is empty in front of
the first and a comma with blanks in front of each other one. -/
def Members.tokens : Members → (divider : List Token) → List Token
  | .nil, _ => []
  | .cons key beforeColon afterColon value after before rest, divider =>
      divider ++ Token.literal key :: blanks beforeColon ++ colon :: blanks afterColon ++
        value.tokens ++ blanks after ++ rest.tokens (comma :: blanks before)

end

/-- A whole text, with white space around its value. -/
structure Document where
  before : Blanks
  text : Text
  after : Blanks

/-- A value between blanks, which is all that a JSON text is. -/
def Document.tokens (d : Document) : List Token :=
  blanks d.before ++ d.text.tokens ++ blanks d.after

/-- The UTF-8 encoding of a document. -/
def Document.bytes (d : Document) : Bytes := d.tokens.flatMap Token.bytes

/-- Every string literal of a text, keys and shadowed members included. -/
def Document.literals (d : Document) : List Str := d.tokens.flatMap Token.literals

end Texts

section Utf8

/-- Bytes that decode by themselves, whatever comes behind them. -/
def Decodes (data : Bytes) : Prop :=
  ∃ text, ∀ rest, decodeUtf8From false none (data ++ rest) =
    (decodeUtf8From false none rest).map (text ++ ·)

theorem decodes_nil : Decodes [] := ⟨[], fun rest => by simp⟩

/-- Sequences that decode wherever they stand decode one after the other. -/
theorem Decodes.append {first second : Bytes} (h : Decodes first) (h' : Decodes second) :
    Decodes (first ++ second) := by
  obtain ⟨text, hText⟩ := h
  obtain ⟨more, hMore⟩ := h'
  refine ⟨text ++ more, fun rest => ?_⟩
  rw [List.append_assoc, hText, hMore, Option.map_map]
  simp [Function.comp_def]

/-- A list of pieces decodes when each of them decodes wherever it stands. -/
theorem decodes_flatMap {α : Type} {f : α → Bytes} {xs : List α} (h : ∀ x ∈ xs, Decodes (f x)) :
    Decodes (xs.flatMap f) := by
  induction xs with
  | nil => exact decodes_nil
  | cons x rest ih =>
      rw [List.forall_mem_cons] at h
      exact h.1.append (ih h.2)

theorem decodes_ascii {b : UInt8} (h : b.toNat < 0x80) : Decodes [b] := by
  refine ⟨[b.toNat], fun rest => ?_⟩
  have hStep : utf8Step false none b = .codePoint b.toNat := by
    simp [utf8Step, utf8Lead, h]
  simp [decodeUtf8From, hStep]

theorem decodeUtf8From_codePoint {begun : Option Utf8Sequence} {b : UInt8} {value : Nat}
    (h : utf8Step false begun b = .codePoint value) (rest : Bytes) :
    decodeUtf8From false begun (b :: rest) =
      (decodeUtf8From false none rest).map (value :: ·) := by
  cases begun <;> simp only [decodeUtf8From, h]

theorem decodeUtf8From_more {begun : Option Utf8Sequence} {b : UInt8} {after : Utf8Sequence}
    (h : utf8Step false begun b = .more after) (rest : Bytes) :
    decodeUtf8From false begun (b :: rest) = decodeUtf8From false (some after) rest := by
  cases begun <;> simp only [decodeUtf8From, h]

/-- A later byte within its range adds six bits. -/
theorem utf8Step_tail {needed lower upper value low : Nat} (hLow : low < 0x40)
    (hLower : lower ≤ 0x80 + low) (hUpper : 0x80 + low ≤ upper) :
    utf8Step false (some ⟨needed, lower, upper, value⟩) (UInt8.ofNat (0x80 + low)) =
      if needed ≤ 1 then .codePoint (0x40 * value + low)
      else .more ⟨needed - 1, 0x80, 0xBF, 0x40 * value + low⟩ := by
  have hByte : (UInt8.ofNat (0x80 + low)).toNat = 0x80 + low := by
    rw [UInt8.toNat_ofNat']
    omega
  have hBits : (0x80 + low) % 0x40 = low := by omega
  simp only [utf8Step, Utf8Sequence.next, hByte, hBits]
  rw [if_pos ⟨hLower, hUpper⟩]

theorem utf8Lead_ofNat {n : Nat} (h : n < 0x100) : utf8Step false none (UInt8.ofNat n) =
    if n < 0x80 then .codePoint n
    else if n < 0xC2 then .illFormed
    else if n < 0xE0 then .more ⟨1, 0x80, 0xBF, n % 0x20⟩
    else if n < 0xF0 then .more ⟨2, if n = 0xE0 then 0xA0 else 0x80, if n = 0xED then 0x9F else 0xBF, n % 0x10⟩
    else if n < 0xF5 then .more ⟨3, if n = 0xF0 then 0x90 else 0x80, if n = 0xF4 then 0x8F else 0xBF, n % 0x08⟩
    else .illFormed := by
  have hByte : (UInt8.ofNat n).toNat = n := by
    rw [UInt8.toNat_ofNat']
    omega
  simp [utf8Step, utf8Lead, hByte]

/-- The encoding of a scalar value decodes to it. -/
theorem decodes_utf8Char (c : Char) : Decodes (utf8Char c.toNat) := by
  have hValid : c.toNat < 0xD800 ∨ (0xDFFF < c.toNat ∧ c.toNat < 0x110000) := c.valid
  refine ⟨[c.toNat], fun rest => ?_⟩
  generalize c.toNat = n at hValid
  rw [utf8Char]
  split_ifs with hOne hTwo hThree
  · have hLead : utf8Step false none (UInt8.ofNat n) = .codePoint n := by
      rw [utf8Lead_ofNat (by omega), if_pos hOne]
    exact decodeUtf8From_codePoint hLead rest
  · have hLead : utf8Step false none (UInt8.ofNat (0xC0 + n / 0x40)) =
        .more ⟨1, 0x80, 0xBF, n / 0x40⟩ := by
      rw [utf8Lead_ofNat (by omega), if_neg (by omega), if_neg (by omega), if_pos (by omega),
        show (0xC0 + n / 0x40) % 0x20 = n / 0x40 by omega]
    have hLast := @utf8Step_tail 1 0x80 0xBF (n / 0x40) (n % 0x40) (by omega) (by omega) (by omega)
    rw [if_pos (Nat.le_refl 1), show 0x40 * (n / 0x40) + n % 0x40 = n by omega] at hLast
    exact (decodeUtf8From_more hLead _).trans (decodeUtf8From_codePoint hLast rest)
  · obtain ⟨lower, upper, hLead, hLower, hUpper⟩ : ∃ lower upper,
        utf8Step false none (UInt8.ofNat (0xE0 + n / 0x1000)) =
          .more ⟨2, lower, upper, n / 0x1000⟩ ∧ lower ≤ 0x80 + n / 0x40 % 0x40 ∧
            0x80 + n / 0x40 % 0x40 ≤ upper := by
      refine ⟨if 0xE0 + n / 0x1000 = 0xE0 then 0xA0 else 0x80,
        if 0xE0 + n / 0x1000 = 0xED then 0x9F else 0xBF, ?_, ?_, ?_⟩
      · rw [utf8Lead_ofNat (by omega), if_neg (by omega), if_neg (by omega), if_neg (by omega),
          if_pos (by omega), show (0xE0 + n / 0x1000) % 0x10 = n / 0x1000 by omega]
      · split_ifs <;> omega
      · split_ifs <;> omega
    have hNext := @utf8Step_tail 2 lower upper (n / 0x1000) (n / 0x40 % 0x40) (by omega) hLower hUpper
    have hLast := @utf8Step_tail 1 0x80 0xBF (0x40 * (n / 0x1000) + n / 0x40 % 0x40) (n % 0x40)
      (by omega) (by omega) (by omega)
    rw [if_neg (by omega)] at hNext
    rw [if_pos (Nat.le_refl 1), show 0x40 * (0x40 * (n / 0x1000) + n / 0x40 % 0x40) + n % 0x40 = n by omega]
      at hLast
    exact (decodeUtf8From_more hLead _).trans
      ((decodeUtf8From_more hNext _).trans (decodeUtf8From_codePoint hLast rest))
  · obtain ⟨lower, upper, hLead, hLower, hUpper⟩ : ∃ lower upper,
        utf8Step false none (UInt8.ofNat (0xF0 + n / 0x40000)) =
          .more ⟨3, lower, upper, n / 0x40000⟩ ∧ lower ≤ 0x80 + n / 0x1000 % 0x40 ∧
            0x80 + n / 0x1000 % 0x40 ≤ upper := by
      refine ⟨if 0xF0 + n / 0x40000 = 0xF0 then 0x90 else 0x80,
        if 0xF0 + n / 0x40000 = 0xF4 then 0x8F else 0xBF, ?_, ?_, ?_⟩
      · rw [utf8Lead_ofNat (by omega), if_neg (by omega), if_neg (by omega), if_neg (by omega),
          if_neg (by omega), if_pos (by omega),
          show (0xF0 + n / 0x40000) % 0x08 = n / 0x40000 by omega]
      · split_ifs <;> omega
      · split_ifs <;> omega
    have hNext := @utf8Step_tail 3 lower upper (n / 0x40000) (n / 0x1000 % 0x40) (by omega) hLower
      hUpper
    have hThird := @utf8Step_tail 2 0x80 0xBF (0x40 * (n / 0x40000) + n / 0x1000 % 0x40)
      (n / 0x40 % 0x40) (by omega) (by omega) (by omega)
    have hLast := @utf8Step_tail 1 0x80 0xBF
      (0x40 * (0x40 * (n / 0x40000) + n / 0x1000 % 0x40) + n / 0x40 % 0x40) (n % 0x40)
      (by omega) (by omega) (by omega)
    rw [if_neg (by omega)] at hNext hThird
    rw [if_pos (Nat.le_refl 1), show 0x40 * (0x40 * (0x40 * (n / 0x40000) + n / 0x1000 % 0x40) +
      n / 0x40 % 0x40) + n % 0x40 = n by omega] at hLast
    exact (decodeUtf8From_more hLead _).trans ((decodeUtf8From_more hNext _).trans
      ((decodeUtf8From_more hThird _).trans (decodeUtf8From_codePoint hLast rest)))

theorem Element.decodes (x : Element) : Decodes x.bytes := by
  cases x with
  | plain c h => exact decodes_utf8Char c
  | short escape =>
      have hLetter : escape.letter.toNat < 0x80 := by cases escape <;> decide
      exact (decodes_ascii (by decide)).append (decodes_ascii hLetter)
  | unit a b c d =>
      exact (decodes_ascii (by decide)).append ((decodes_ascii (by decide)).append
        ((decodes_ascii a.byte_lt).append ((decodes_ascii b.byte_lt).append
          ((decodes_ascii c.byte_lt).append (decodes_ascii d.byte_lt)))))

theorem Token.decodes (t : Token) : Decodes t.bytes := by
  cases t with
  | symbol own => exact decodes_ascii own.isAscii
  | literal elements =>
      exact (decodes_ascii (by decide)).append
        ((decodes_flatMap fun x _ => x.decodes).append (decodes_ascii (by decide)))

/-- A JSON text is UTF-8. -/
theorem Document.isSome_decodeUtf8 (d : Document) : (decodeUtf8 d.bytes).isSome = true := by
  obtain ⟨text, hText⟩ : Decodes d.bytes := decodes_flatMap fun t _ => t.decodes
  have hWhole := hText []
  rw [List.append_nil] at hWhole
  rw [decodeUtf8, hWhole]
  rfl

end Utf8
end ArioProof.Syntax
