import ArioProof.Data.Hex
import ArioProof.Data.Json

/-! JavaScript numbers, as far as a JSON value can reach an operator that
expects one: the implicit conversion of a comparison or a subtraction. -/
namespace ArioProof.TypeScript

open Foundation

section Text

/-- White space and line terminators of the language, which `trim` and number
literals pass over. -/
def isSpace (c : UInt16) : Bool :=
  [0x09, 0x0A, 0x0B, 0x0C, 0x0D, 0x20, 0xA0, 0x1680, 0x2028, 0x2029, 0x202F, 0x205F, 0x3000,
    0xFEFF].contains c.toNat || (0x2000 ≤ c.toNat && c.toNat ≤ 0x200A)

def trim (s : Str) : Str := ((s.dropWhile isSpace).reverse.dropWhile isSpace).reverse

/-- The value of a non-empty run of digits in a base up to sixteen; none where a
character is no digit of it. -/
def digitsIn (base : Nat) (s : Str) : Option Nat :=
  if s.isEmpty then none
  else s.foldlM (fun value c => do
    let digit ← Hex.digit? c
    if digit < base then some (base * value + digit) else none) 0

def isExponent (c : UInt16) : Bool := c.toNat = 0x65 || c.toNat = 0x45

def signedDigits : Str → Option Int
  | [] => none
  | c :: rest =>
      if c.toNat = 0x2D then (digitsIn 10 rest).map fun n => -n
      else if c.toNat = 0x2B then (digitsIn 10 rest).map fun n => n
      else (digitsIn 10 (c :: rest)).map fun n => n

/-- An unsigned decimal literal, with a fraction or an exponent or neither. -/
def decimalLiteral (s : Str) : Option ℚ := do
  let mantissa := s.takeWhile fun c => !isExponent c
  let whole := mantissa.takeWhile fun c => c.toNat ≠ 0x2E
  let fraction := (mantissa.drop whole.length).drop 1
  let significand ← digitsIn 10 (whole ++ fraction)
  let exponent ← match s.drop mantissa.length with
    | [] => some 0
    | _ :: digits => signedDigits digits
  return significand * 10 ^ (exponent - fraction.length)

def unsignedLiteral (s : Str) : Double :=
  if s = utf16 "Infinity" then .inf false
  else
    match decimalLiteral s with
    | some q => .ofRat q
    | none => .nan

/-- The base of a literal with a prefix of its own. -/
def radix? (s : Str) : Option Nat :=
  if s.take 2 = utf16 "0x" ∨ s.take 2 = utf16 "0X" then some 16
  else if s.take 2 = utf16 "0o" ∨ s.take 2 = utf16 "0O" then some 8
  else if s.take 2 = utf16 "0b" ∨ s.take 2 = utf16 "0B" then some 2
  else none

/-- `Number(s)` of a string: a literal between white space, or not a number. -/
def stringToNumber (s : Str) : Double :=
  match trim s, radix? (trim s) with
  | [], _ => .finite 0
  | text, some base =>
      match digitsIn base (text.drop 2) with
      | some n => .ofRat n
      | none => .nan
  | c :: rest, none =>
      if c.toNat = 0x2B then unsignedLiteral rest
      else if c.toNat = 0x2D then (unsignedLiteral rest).neg
      else unsignedLiteral (c :: rest)

end Text

section Conversion

/-- A value for which `typeof` says `"number"`, as the double that it is. -/
def number? : Json → Option Double
  | .int n => some (.ofRat n)
  | .float d => some d
  | _ => none

mutual

/-- An object that brings a `toString` of its own has no primitive value, and
neither has an array that holds one. -/
def hasNoPrimitive : Json → Bool
  | .arr items => hasNoPrimitiveItems items
  | .obj members => (members.lookup (utf16 "toString")).isSome
  | _ => false

def hasNoPrimitiveItems : List Json → Bool
  | [] => false
  | v :: rest => hasNoPrimitive v || hasNoPrimitiveItems rest

end

mutual

/-- The number behind the primitive value, as `Number` converts it. Text is read
by its own grammar, an array by its joined text, and an object is none. -/
def primitiveNumber : Json → Double
  | .null => .finite 0
  | .bool b => .finite (if b then 1 else 0)
  | .int n => .ofRat n
  | .float d => d
  | .str s => stringToNumber s
  | .arr items => joinedNumber items
  | .obj _ => .nan

/-- The number of the elements joined by commas. Null is joined as nothing, and
a number is read back from its own text. -/
def joinedNumber : List Json → Double
  | [] => .finite 0
  | [v] =>
      match v with
      | .bool _ => .nan
      | v => primitiveNumber v
  | _ => .nan

end

/-- The implicit conversion of a member, `undefined` when it is missing. -/
def toNumber : Option Json → Except Str Double
  | none => .ok .nan
  | some v =>
      if hasNoPrimitive v then .error "Cannot convert object to primitive value"
      else .ok (primitiveNumber v)

theorem number?_get (v : Json) (key : String) :
    (v.get? key).bind number? = number? (v.get key) := by
  rw [Json.get]
  cases v.get? key <;> rfl

/-- A number is converted to itself. -/
theorem toNumber_of_number? {v : Json} {key : String} {d : Double}
    (h : number? (v.get key) = some d) : toNumber (v.get? key) = .ok d := by
  rw [← number?_get] at h
  obtain ⟨w, hMember, hNumber⟩ := Option.bind_eq_some_iff.mp h
  rw [hMember, toNumber]
  cases w with
  | int n => rw [← Option.some.inj hNumber]; rfl
  | float own => rw [← Option.some.inj hNumber]; rfl
  | _ => cases hNumber

end Conversion
end ArioProof.TypeScript
