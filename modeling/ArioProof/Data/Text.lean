import Mathlib.Data.List.Basic
import Mathlib.Tactic.SplitIfs

/-! JSON strings. JSON text denotes sequences of UTF-16 code units, surrogates
that have no partner included. A JavaScript string is that sequence, and a
Python `str` is the same sequence with every surrogate pair read as one code
point, so both kernels share the representation. -/
namespace ArioProof

abbrev Str := List UInt16

/-- The code units of one Unicode scalar value: the value itself below `0x10000`,
a surrogate pair from there on. -/
def utf16Char (c : Char) : Str :=
  if c.toNat < 0x10000 then [UInt16.ofNat c.toNat]
  else
    [UInt16.ofNat (0xD800 + (c.toNat - 0x10000) / 0x400),
      UInt16.ofNat (0xDC00 + (c.toNat - 0x10000) % 0x400)]

/-- The bytes of a literal in UTF-8, which is how Lean holds it. -/
def utf8Bytes (text : String) : List UInt8 := text.toByteArray.data.toList

def isAsciiByte (b : UInt8) : Bool := Nat.blt b.toNat 0x80

def asciiUnit (b : UInt8) : UInt16 := UInt16.ofNat b.toNat

/-- A source-code literal as a JSON string. Those of the kernels are ASCII, and
evaluation takes the units of such a literal from its bytes. -/
def utf16 (text : String) : Str :=
  bif (utf8Bytes text).all isAsciiByte then (utf8Bytes text).map asciiUnit
  else text.toList.flatMap utf16Char

instance : Coe String Str := ⟨utf16⟩

/-- An interpolated string: the pieces in order, each of them already text. -/
def fstring (pieces : List Str) : Str := pieces.flatten

def isAscii (s : Str) : Bool := s.all fun c => c.toNat < 0x80

def decimal (n : Nat) : Str := utf16 (toString n)

/-- `major` itself, or `major.<minor>` with a numeric minor. A dot with nothing
behind it, and a minor with any other character, do not match. -/
def matchesMajor (specVersion : Str) (major : String) : Bool :=
  if specVersion = major then true
  else if !List.isPrefixOf (utf16 (major ++ ".")) specVersion then false
  else
    let minor := specVersion.drop (utf16 (major ++ ".")).length
    !minor.isEmpty && minor.all fun c => 0x30 ≤ c.toNat && c.toNat ≤ 0x39

theorem isAscii_iff {s : Str} : isAscii s = true ↔ ∀ c ∈ s, c.toNat < 0x80 := by
  simp [isAscii]

/-- Scalar values skip the surrogate range, so the first unit tells whether a
second one follows. -/
theorem utf16Char_append_inj {c d : Char} {s t : Str}
    (h : utf16Char c ++ s = utf16Char d ++ t) : c = d ∧ s = t := by
  have hc : c.toNat < 0xD800 ∨ (0xDFFF < c.toNat ∧ c.toNat < 0x110000) := c.valid
  have hd : d.toNat < 0xD800 ∨ (0xDFFF < d.toNat ∧ d.toNat < 0x110000) := d.valid
  have eq_of_toNat (h : c.toNat = d.toNat) : c = d := Char.toNat_inj.mp h
  unfold utf16Char at h
  split_ifs at h with h1 h2 h2
  all_goals
    simp only [List.cons_append, List.nil_append, List.cons.injEq, ← UInt16.toNat_inj,
      UInt16.toNat_ofNat'] at h
  · exact ⟨eq_of_toNat (by omega), h.2⟩
  · omega
  · omega
  · exact ⟨eq_of_toNat (by omega), h.2.2⟩

theorem flatMap_utf16Char_inj {s t : List Char}
    (h : s.flatMap utf16Char = t.flatMap utf16Char) : s = t := by
  have ne_nil (c : Char) : utf16Char c ≠ [] := by unfold utf16Char; split_ifs <;> simp
  induction s generalizing t with
  | nil =>
      cases t with
      | nil => rfl
      | cons d t => simp [ne_nil] at h
  | cons c s ih =>
      cases t with
      | nil => simp [ne_nil] at h
      | cons d t =>
          rw [List.flatMap_cons, List.flatMap_cons] at h
          obtain ⟨rfl, hRest⟩ := utf16Char_append_inj h
          rw [ih hRest]

theorem utf8Bytes_eq (text : String) : utf8Bytes text = text.toList.flatMap String.utf8EncodeChar := by
  have hText : text = String.ofList text.toList := String.ofList_toList.symm
  rw [utf8Bytes, congrArg String.toByteArray hText, String.toByteArray_ofList, List.utf8Encode,
    List.data_toByteArray]

/-- The first byte of any other character is not ASCII. -/
theorem utf16Char_of_ascii {c : Char} (h : (String.utf8EncodeChar c).all isAsciiByte = true) :
    utf16Char c = (String.utf8EncodeChar c).map asciiUnit := by
  simp only [String.utf8EncodeChar] at h ⊢
  split_ifs at h ⊢ with hOne hTwo hThree
  · have hValue : c.toNat = c.val.toNat := rfl
    rw [utf16Char, if_pos (by omega), List.map_singleton, asciiUnit, UInt8.toNat_ofNat',
      Nat.mod_eq_of_lt (by omega), hValue]
  all_goals
    exfalso
    simp only [List.all_cons, Bool.and_eq_true, isAsciiByte, Nat.blt_eq, UInt8.toNat_ofNat'] at h
    omega

/-- Either way a literal is the units of its characters. -/
theorem utf16_eq (text : String) : utf16 text = text.toList.flatMap utf16Char := by
  rw [utf16, utf8Bytes_eq]
  cases hAscii : (text.toList.flatMap String.utf8EncodeChar).all isAsciiByte with
  | false => rfl
  | true =>
      rw [List.all_flatMap, List.all_eq_true] at hAscii
      rw [cond_true, List.map_flatMap]
      exact List.flatMap_congr fun c hc => (utf16Char_of_ascii (hAscii c hc)).symm

/-- Literals are compared as they are written: different texts of characters have
different code units. -/
@[simp] theorem utf16_inj {s t : String} : utf16 s = utf16 t ↔ s = t := by
  refine ⟨fun h => ?_, fun h => by rw [h]⟩
  rw [utf16_eq, utf16_eq] at h
  exact String.toList_inj.mp (flatMap_utf16Char_inj h)

end ArioProof
