import Mathlib.Data.List.Basic
import Mathlib.Tactic.SplitIfs

/-! Decoding UTF-8 one byte at a time: strictly, with the encodings of
surrogates let through, and with U+FFFD in the place of what is ill-formed. On
well-formed input the three are one. -/
namespace Foundation

/-- A sequence that has begun: how many bytes it still needs, the range of the
next one, and the value so far. -/
structure Utf8Sequence where
  needed : Nat
  lower : Nat
  upper : Nat
  value : Nat
  deriving DecidableEq, Repr

/-- What a byte makes of a sequence: it completes a code point, calls for more
bytes, or breaks the sequence off. -/
inductive Utf8Step where
  | codePoint (value : Nat)
  | more (begun : Utf8Sequence)
  | illFormed
  deriving DecidableEq, Repr

/-- The first byte of a sequence, which tells how many bytes follow and how the
next one is bounded. -/
def utf8Lead (surrogates : Bool) (b : UInt8) : Utf8Step :=
  let n := b.toNat
  if n < 0x80 then .codePoint n
  else if n < 0xC2 then .illFormed
  else if n < 0xE0 then .more ⟨1, 0x80, 0xBF, n % 0x20⟩
  else if n < 0xF0 then
    .more ⟨2, if n = 0xE0 then 0xA0 else 0x80,
      if n = 0xED && !surrogates then 0x9F else 0xBF, n % 0x10⟩
  else if n < 0xF5 then
    .more ⟨3, if n = 0xF0 then 0x90 else 0x80, if n = 0xF4 then 0x8F else 0xBF, n % 0x08⟩
  else .illFormed

/-- A later byte of a sequence, which has to lie within the bounds that the bytes
before it have set. -/
def Utf8Sequence.next (begun : Utf8Sequence) (b : UInt8) : Utf8Step :=
  let n := b.toNat
  if begun.lower ≤ n ∧ n ≤ begun.upper then
    let value := 0x40 * begun.value + n % 0x40
    if begun.needed ≤ 1 then .codePoint value else .more ⟨begun.needed - 1, 0x80, 0xBF, value⟩
  else .illFormed

/-- A byte in either position: at the start of a sequence, or within one that has
begun. -/
def utf8Step (surrogates : Bool) (begun : Option Utf8Sequence) (b : UInt8) : Utf8Step :=
  match begun with
  | none => utf8Lead surrogates b
  | some begun => begun.next b

/-- The code points of a byte string, absent when it is ill-formed. -/
def decodeUtf8From (surrogates : Bool) : Option Utf8Sequence → List UInt8 → Option (List Nat)
  | none, [] => some []
  | some _, [] => none
  | begun, b :: rest =>
      match utf8Step surrogates begun b with
      | .codePoint value => (decodeUtf8From surrogates none rest).map (value :: ·)
      | .more begun => decodeUtf8From surrogates (some begun) rest
      | .illFormed => none

def decodeUtf8 (data : List UInt8) : Option (List Nat) := decodeUtf8From false none data

/-- The encodings of surrogates are let through as they are. -/
def decodeUtf8Surrogates (data : List UInt8) : Option (List Nat) := decodeUtf8From true none data

def replacementCharacter : Nat := 0xFFFD

/-- A byte that breaks a sequence off is read again as the first of the next. -/
def repairUtf8From : Option Utf8Sequence → List UInt8 → List Nat
  | none, [] => []
  | some _, [] => [replacementCharacter]
  | begun, b :: rest =>
      match utf8Step false begun b with
      | .codePoint value => value :: repairUtf8From none rest
      | .more begun => repairUtf8From (some begun) rest
      | .illFormed =>
          match begun with
          | none => replacementCharacter :: repairUtf8From none rest
          | some _ =>
              replacementCharacter ::
                match utf8Lead false b with
                | .codePoint value => value :: repairUtf8From none rest
                | .more begun => repairUtf8From (some begun) rest
                | .illFormed => replacementCharacter :: repairUtf8From none rest

def repairUtf8 (data : List UInt8) : List Nat := repairUtf8From none data

section WellFormed

theorem repairUtf8From_codePoint {begun : Option Utf8Sequence} {b : UInt8} {rest : List UInt8}
    {value : Nat} (h : utf8Step false begun b = .codePoint value) :
    repairUtf8From begun (b :: rest) = value :: repairUtf8From none rest := by
  cases begun <;> simp only [repairUtf8From, h]

theorem repairUtf8From_more {begun : Option Utf8Sequence} {b : UInt8} {rest : List UInt8}
    {after : Utf8Sequence} (h : utf8Step false begun b = .more after) :
    repairUtf8From begun (b :: rest) = repairUtf8From (some after) rest := by
  cases begun <;> simp only [repairUtf8From, h]

theorem repairUtf8From_of_decode {begun : Option Utf8Sequence} {data : List UInt8}
    {text : List Nat} (h : decodeUtf8From false begun data = some text) :
    repairUtf8From begun data = text := by
  induction data generalizing begun text with
  | nil =>
      cases begun with
      | none => simpa [decodeUtf8From, repairUtf8From] using h
      | some begun => cases h
  | cons b rest ih =>
      simp only [decodeUtf8From] at h
      cases hStep : utf8Step false begun b with
      | codePoint value =>
          rw [hStep] at h
          obtain ⟨more, hMore, rfl⟩ := Option.map_eq_some_iff.mp h
          rw [repairUtf8From_codePoint hStep, ih hMore]
      | more after =>
          rw [hStep] at h
          rw [repairUtf8From_more hStep, ih h]
      | illFormed =>
          rw [hStep] at h
          cases h

/-- Nothing is repaired in well-formed input: the replacing decoder gives what the
strict one does. -/
theorem repairUtf8_of_decode {data : List UInt8} {text : List Nat}
    (h : decodeUtf8 data = some text) : repairUtf8 data = text := repairUtf8From_of_decode h

/-- The state of the strict decoder and of the one that lets surrogates
through: the same, or after the one byte from which they may part. -/
inductive Beside : Option Utf8Sequence → Option Utf8Sequence → Prop where
  | same (begun : Option Utf8Sequence) : Beside begun begun
  | afterED (value : Nat) :
      Beside (some ⟨2, 0x80, 0x9F, value⟩) (some ⟨2, 0x80, 0xBF, value⟩)

theorem beside_lead (b : UInt8) :
    utf8Lead false b = utf8Lead true b ∨ ∃ value,
      utf8Lead false b = .more ⟨2, 0x80, 0x9F, value⟩ ∧
        utf8Lead true b = .more ⟨2, 0x80, 0xBF, value⟩ := by
  by_cases hED : b.toNat = 0xED
  · exact Or.inr ⟨0xD, by simp [utf8Lead, hED], by simp [utf8Lead, hED]⟩
  · exact Or.inl (by simp [utf8Lead, hED])

theorem decodeUtf8From_of_beside {begun other : Option Utf8Sequence} (hBeside : Beside begun other)
    {data : List UInt8} {text : List Nat} (h : decodeUtf8From false begun data = some text) :
    decodeUtf8From true other data = some text := by
  induction data generalizing begun other text with
  | nil =>
      cases hBeside with
      | same => cases begun <;> exact h
      | afterED => cases h
  | cons b rest ih =>
      simp only [decodeUtf8From] at h ⊢
      -- Where the strict decoder goes on, the other one goes beside it.
      have hStep : utf8Step false begun b = utf8Step true other b ∨ (∃ value,
            utf8Step false begun b = .more ⟨2, 0x80, 0x9F, value⟩ ∧
              utf8Step true other b = .more ⟨2, 0x80, 0xBF, value⟩) ∨
          utf8Step false begun b = .illFormed := by
        cases hBeside with
        | same =>
            cases begun with
            | none => exact (beside_lead b).imp_right Or.inl
            | some begun => exact Or.inl rfl
        | afterED value =>
            simp only [utf8Step, Utf8Sequence.next]
            by_cases hRange : 0x80 ≤ b.toNat ∧ b.toNat ≤ 0x9F
            · have hWider : 0x80 ≤ b.toNat ∧ b.toNat ≤ 0xBF := ⟨hRange.1, by omega⟩
              left
              rw [if_pos hRange, if_pos hWider]
            · exact Or.inr (Or.inr (if_neg hRange))
      rcases hStep with hSame | ⟨value, hStrict, hOther⟩ | hBad
      · rw [← hSame]
        cases hCase : utf8Step false begun b with
        | codePoint value =>
            rw [hCase] at h
            obtain ⟨more, hMore, rfl⟩ := Option.map_eq_some_iff.mp h
            exact Option.map_eq_some_iff.mpr ⟨more, ih (.same none) hMore, rfl⟩
        | more after =>
            rw [hCase] at h
            exact ih (.same _) h
        | illFormed =>
            rw [hCase] at h
            cases h
      · rw [hStrict] at h
        rw [hOther]
        exact ih (.afterED value) h
      · rw [hBad] at h
        cases h

/-- Well-formed input has no encoded surrogate to let through. -/
theorem decodeUtf8Surrogates_of_decode {data : List UInt8} {text : List Nat}
    (h : decodeUtf8 data = some text) : decodeUtf8Surrogates data = some text :=
  decodeUtf8From_of_beside (.same none) h

/-- In well-formed input every zero byte is a zero of the text. -/
theorem zero_mem_of_decodeUtf8From {begun : Option Utf8Sequence} {data : List UInt8}
    {text : List Nat} (hBegun : ∀ seq, begun = some seq → 0x80 ≤ seq.lower)
    (h : decodeUtf8From false begun data = some text) (hZero : (0 : UInt8) ∈ data) : 0 ∈ text := by
  induction data generalizing begun text with
  | nil => cases hZero
  | cons b rest ih =>
      simp only [decodeUtf8From] at h
      have hMore : ∀ after, utf8Step false begun b = .more after → 0x80 ≤ after.lower := by
        intro after hAfter
        cases begun with
        | none =>
            simp only [utf8Step, utf8Lead] at hAfter
            split_ifs at hAfter <;> cases hAfter <;> simp
        | some begun =>
            simp only [utf8Step, Utf8Sequence.next] at hAfter
            split_ifs at hAfter
            cases hAfter
            simp
      rcases List.mem_cons.mp hZero with rfl | hRest
      · cases begun with
        | none =>
            have hLead : utf8Step false none 0 = .codePoint 0 := by decide
            rw [hLead] at h
            obtain ⟨more, -, rfl⟩ := Option.map_eq_some_iff.mp h
            exact List.mem_cons_self
        | some begun =>
            have hLower := hBegun begun rfl
            have hBad : utf8Step false (some begun) 0 = .illFormed := by
              simp only [utf8Step, Utf8Sequence.next]
              exact if_neg (by simp; omega)
            rw [hBad] at h
            cases h
      · cases hCase : utf8Step false begun b with
        | codePoint value =>
            rw [hCase] at h
            obtain ⟨more, hText, rfl⟩ := Option.map_eq_some_iff.mp h
            exact List.mem_cons_of_mem value (ih (by simp) hText hRest)
        | more after =>
            rw [hCase] at h
            exact ih (fun seq hSeq => by cases hSeq; exact hMore after hCase) h hRest
        | illFormed =>
            rw [hCase] at h
            cases h

theorem zero_mem_of_decodeUtf8 {data : List UInt8} {text : List Nat}
    (h : decodeUtf8 data = some text) (hZero : (0 : UInt8) ∈ data) : 0 ∈ text :=
  zero_mem_of_decodeUtf8From (fun _ hSeq => by cases hSeq) h hZero

end WellFormed
end Foundation
