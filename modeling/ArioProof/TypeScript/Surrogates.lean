import ArioProof.TypeScript.Verifier

/-! Strings without lone surrogates. The scan of `verifier.ts` takes one unit or
two at a time; it accepts exactly the texts of Unicode scalar values, and the
walk over a value accepts exactly the values all of whose strings are such
texts. -/
namespace ArioProof.TypeScript

open Foundation

section Grammar

/-- One scalar value in UTF-16: a unit that is no surrogate, or a high surrogate
and a low one behind it. -/
inductive Piece : Str → Prop where
  | unit {c : UInt16} (hHigh : Case.isHighSurrogate c = false)
      (hLow : Case.isLowSurrogate c = false) : Piece [c]
  | pair {c d : UInt16} (hHigh : Case.isHighSurrogate c = true)
      (hLow : Case.isLowSurrogate d = true) : Piece [c, d]

/-- A concatenation of such pieces, which is what text of characters is encoded
to. -/
def WellFormed (s : Str) : Prop := ∃ pieces : List Str, (∀ p ∈ pieces, Piece p) ∧ pieces.flatten = s

theorem WellFormed.nil : WellFormed [] := ⟨[], by simp, rfl⟩

/-- A character in front of Unicode text leaves it Unicode text. -/
theorem WellFormed.append {p s : Str} (hPiece : Piece p) (h : WellFormed s) :
    WellFormed (p ++ s) := by
  obtain ⟨pieces, hPieces, rfl⟩ := h
  exact ⟨p :: pieces, List.forall_mem_cons.mpr ⟨hPiece, hPieces⟩, rfl⟩

/-- The scan goes from piece to piece: behind a whole character it starts
afresh. -/
theorem hasLoneSurrogate_append {p : Str} (hPiece : Piece p) (s : Str) :
    hasLoneSurrogate (p ++ s) = hasLoneSurrogate s := by
  cases hPiece with
  | unit hHigh hLow =>
      cases s with
      | nil => simp [hasLoneSurrogate, hHigh, hLow]
      | cons d rest => simp [hasLoneSurrogate, hHigh, hLow]
  | pair hHigh hLow => simp [hasLoneSurrogate, hHigh, hLow]

/-- Characters one after the other have no lone surrogate, since each pair stays
together. -/
theorem hasLoneSurrogate_flatten {pieces : List Str} (h : ∀ p ∈ pieces, Piece p) :
    hasLoneSurrogate pieces.flatten = false := by
  induction pieces with
  | nil => rfl
  | cons p rest ih =>
      rw [List.forall_mem_cons] at h
      rw [List.flatten_cons, hasLoneSurrogate_append h.1, ih h.2]

/-- A scan that finds nothing has cut the whole string into pieces. -/
theorem wellFormed_of_scan {s : Str} (h : hasLoneSurrogate s = false) : WellFormed s := by
  induction s using hasLoneSurrogate.induct with
  | case1 => exact WellFormed.nil
  | case2 c =>
      rw [hasLoneSurrogate, Bool.or_eq_false_iff] at h
      exact WellFormed.append (Piece.unit h.1 h.2) WellFormed.nil
  | case3 c next rest hHigh hLow ih =>
      rw [hasLoneSurrogate, if_pos hHigh, if_pos hLow] at h
      exact WellFormed.append (Piece.pair hHigh hLow) (ih h)
  | case4 c next rest hHigh hLow =>
      rw [hasLoneSurrogate, if_pos hHigh, if_neg hLow] at h
      cases h
  | case5 c next rest hHigh hLow =>
      rw [hasLoneSurrogate, if_neg hHigh, if_pos hLow] at h
      cases h
  | case6 c next rest hHigh hLow ih =>
      rw [hasLoneSurrogate, if_neg hHigh, if_neg hLow] at h
      exact WellFormed.append (Piece.unit (Bool.eq_false_iff.mpr hHigh) (Bool.eq_false_iff.mpr hLow))
        (ih h)

/-- The scan finds a lone surrogate exactly in text that no sequence of characters
encodes to. -/
theorem hasLoneSurrogate_eq_false_iff (s : Str) : hasLoneSurrogate s = false ↔ WellFormed s := by
  constructor
  · exact wellFormed_of_scan
  · rintro ⟨pieces, hPieces, rfl⟩
    exact hasLoneSurrogate_flatten hPieces

end Grammar

section ScalarValues

theorem piece_utf16Char (c : Char) : Piece (utf16Char c) := by
  have hValid : c.toNat < 0xD800 ∨ (0xDFFF < c.toNat ∧ c.toNat < 0x110000) := c.valid
  rw [utf16Char]
  split_ifs with hBasic
  · apply Piece.unit <;>
      simp only [Case.isHighSurrogate, Case.isLowSurrogate, UInt16.toNat_ofNat',
        Bool.and_eq_false_iff, decide_eq_false_iff_not] <;> omega
  · apply Piece.pair <;>
      simp only [Case.isHighSurrogate, Case.isLowSurrogate, UInt16.toNat_ofNat',
        Bool.and_eq_true, decide_eq_true_eq] <;> omega

theorem exists_char {n : Nat} (h : n.isValidChar) : ∃ c : Char, c.toNat = n :=
  ⟨Char.ofNatAux n h, rfl⟩

/-- Every piece is the code of a scalar value. -/
theorem exists_utf16Char {p : Str} (h : Piece p) : ∃ c : Char, utf16Char c = p := by
  cases h with
  | @unit c hHigh hLow =>
      simp only [Case.isHighSurrogate, Case.isLowSurrogate, Bool.and_eq_false_iff,
        decide_eq_false_iff_not] at hHigh hLow
      have hUnit := c.toNat_lt
      have hValid : c.toNat.isValidChar := by
        rw [Nat.isValidChar]
        omega
      obtain ⟨own, hOwn⟩ := exists_char hValid
      exists own
      rw [utf16Char, hOwn, if_pos hUnit, UInt16.ofNat_toNat]
  | @pair c d hHigh hLow =>
      simp only [Case.isHighSurrogate, Case.isLowSurrogate, Bool.and_eq_true,
        decide_eq_true_eq] at hHigh hLow
      have hValid : (0x10000 + (c.toNat - 0xD800) * 0x400 + (d.toNat - 0xDC00)).isValidChar := by
        rw [Nat.isValidChar]
        omega
      obtain ⟨own, hOwn⟩ := exists_char hValid
      exists own
      have hFirst : UInt16.ofNat (0xD800 + (own.toNat - 0x10000) / 0x400) = c := by
        rw [← UInt16.toNat_inj, UInt16.toNat_ofNat', hOwn]
        omega
      have hSecond : UInt16.ofNat (0xDC00 + (own.toNat - 0x10000) % 0x400) = d := by
        rw [← UInt16.toNat_inj, UInt16.toNat_ofNat', hOwn]
        omega
      rw [utf16Char, if_neg (by omega), hFirst, hSecond]

/-- The accepted strings are the encodings of sequences of scalar values. -/
theorem wellFormed_iff_utf16 (s : Str) : WellFormed s ↔ ∃ text : String, utf16 text = s := by
  constructor
  · rintro ⟨pieces, hPieces, rfl⟩
    induction pieces with
    | nil => exact ⟨"", rfl⟩
    | cons p rest ih =>
        rw [List.forall_mem_cons] at hPieces
        obtain ⟨c, rfl⟩ := exists_utf16Char hPieces.1
        obtain ⟨text, hText⟩ := ih hPieces.2
        exists String.ofList (c :: text.toList)
        rw [utf16_eq, String.toList_ofList, List.flatMap_cons, List.flatten_cons, ← hText, utf16_eq]
  · rintro ⟨text, rfl⟩
    exact ⟨text.toList.map utf16Char, by simp [piece_utf16Char], by simp [utf16_eq, List.flatMap]⟩

/-- The code units of a text of characters are Unicode text. -/
theorem wellFormed_utf16 (text : String) : WellFormed (utf16 text) :=
  (wellFormed_iff_utf16 _).mpr ⟨text, rfl⟩

end ScalarValues

section Values

mutual

/-- The strings in a value, keys included, from front to back. -/
def strings : Json → List Str
  | .str s => [s]
  | .arr items => stringsItems items
  | .obj members => stringsMembers members
  | _ => []

def stringsItems : List Json → List Str
  | [] => []
  | v :: rest => strings v ++ stringsItems rest

def stringsMembers : List (Str × Json) → List Str
  | [] => []
  | (key, v) :: rest => key :: (strings v ++ stringsMembers rest)

end

/-- A string passes the guard when it is Unicode text. -/
theorem rejectString_eq_ok_iff (s : Str) : rejectString s = .ok () ↔ WellFormed s := by
  rw [← hasLoneSurrogate_eq_false_iff, rejectString]
  cases hasLoneSurrogate s <;> simp

/-- Two walks in a row pass when both do. -/
theorem seq_eq_ok_iff {first second : Except Str Unit} :
    (do first; second) = .ok () ↔ first = .ok () ∧ second = .ok () := by
  cases first <;> simp [bind, Except.bind]

mutual

/-- A value passes the guard when all its texts are Unicode text, keys
included. -/
theorem rejectLoneSurrogates_eq_ok_iff : ∀ v : Json,
    rejectLoneSurrogates v = .ok () ↔ ∀ s ∈ strings v, WellFormed s
  | .null | .bool _ | .int _ | .float _ => by simp [rejectLoneSurrogates, strings]
  | .str s => by simp [rejectLoneSurrogates, strings, rejectString_eq_ok_iff]
  | .arr items => by
      rw [rejectLoneSurrogates, strings]
      exact rejectItems_eq_ok_iff items
  | .obj members => by
      rw [rejectLoneSurrogates, strings]
      exact rejectMembers_eq_ok_iff members

theorem rejectItems_eq_ok_iff : ∀ items : List Json,
    rejectItems items = .ok () ↔ ∀ s ∈ stringsItems items, WellFormed s
  | [] => by simp [rejectItems, stringsItems]
  | v :: rest => by
      rw [rejectItems, seq_eq_ok_iff, stringsItems, List.forall_mem_append,
        rejectLoneSurrogates_eq_ok_iff v, rejectItems_eq_ok_iff rest]

theorem rejectMembers_eq_ok_iff : ∀ members : List (Str × Json),
    rejectMembers members = .ok () ↔ ∀ s ∈ stringsMembers members, WellFormed s
  | [] => by simp [rejectMembers, stringsMembers]
  | (key, v) :: rest => by
      rw [rejectMembers, seq_eq_ok_iff, seq_eq_ok_iff, stringsMembers, List.forall_mem_cons,
        List.forall_mem_append, rejectString_eq_ok_iff, rejectLoneSurrogates_eq_ok_iff v,
        rejectMembers_eq_ok_iff rest]

end

/-- The walk throws for a string that encodes no text, and for nothing else. -/
theorem rejectLoneSurrogates_throws_iff (v : Json) :
    (∃ text, rejectLoneSurrogates v = .error text) ↔ ∃ s ∈ strings v, ¬WellFormed s := by
  have hPasses := rejectLoneSurrogates_eq_ok_iff v
  cases hRun : rejectLoneSurrogates v with
  | ok done =>
      have hAll := hPasses.mp hRun
      simpa using hAll
  | error text =>
      rw [hRun] at hPasses
      simpa using hPasses

end Values

section Jcs

variable (R : Runtime)

/-- What `jcs` emits is the canonical form of a value that is not nested too
deep and whose strings all have a UTF-8 form. -/
theorem jcs_eq_ok_iff (v : Json) (canonical : Str) :
    jcs R (some v) = .ok canonical ↔ v.depth ≤ maxCanonicalDepth ∧
      (∀ s ∈ strings v, WellFormed s) ∧ R.canonicalize v = .ok canonical := by
  rw [← exceedsDepth_eq_false_iff, ← rejectLoneSurrogates_eq_ok_iff, jcs]
  cases exceedsDepth v maxCanonicalDepth with
  | true => simp
  | false =>
      cases rejectLoneSurrogates v <;> simp [bind, Except.bind]

/-- Lone surrogates are rejected exactly: in a string, in a value with its keys,
and in front of the canonicalizer, which is asked only about values whose texts
are sequences of characters. -/
theorem lone_surrogates_exact :
    (∀ s, hasLoneSurrogate s = false ↔
      ∃ pieces : List Str, (∀ p ∈ pieces, Piece p) ∧ pieces.flatten = s) ∧
    (∀ s, hasLoneSurrogate s = false ↔ ∃ text : String, utf16 text = s) ∧
    (∀ v, (∃ text, rejectLoneSurrogates v = .error text) ↔
      ∃ s ∈ strings v, ¬∃ pieces : List Str, (∀ p ∈ pieces, Piece p) ∧ pieces.flatten = s) ∧
    (∀ v canonical, jcs R (some v) = .ok canonical ↔ v.depth ≤ maxCanonicalDepth ∧
      (∀ s ∈ strings v, ∃ text : String, utf16 text = s) ∧
      R.canonicalize v = .ok canonical) := by
  have hText (s : Str) : hasLoneSurrogate s = false ↔ ∃ text : String, utf16 text = s := by
    rw [hasLoneSurrogate_eq_false_iff, wellFormed_iff_utf16]
  constructor
  · exact hasLoneSurrogate_eq_false_iff
  constructor
  · exact hText
  constructor
  · exact rejectLoneSurrogates_throws_iff
  · intro v canonical
    simp only [jcs_eq_ok_iff, wellFormed_iff_utf16]

end Jcs
end ArioProof.TypeScript
