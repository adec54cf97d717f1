import ArioProof.Data.Syntax
import ArioProof.Go.Proof
import ArioProof.TypeScript.Surrogates
import Mathlib.Tactic.IntervalCases

/-! The scan for text that has no UTF-8 form, over JSON text. It finds out
without parsing whether every string literal encodes a sequence of Unicode
scalar values. -/
namespace ArioProof.Go

open Foundation Syntax
open TypeScript (hasLoneSurrogate WellFormed Piece)

section Digits

theorem hexDigit?_byte (d : HexDigit) : hexDigit? d.byte = some d.value.val := by
  obtain ⟨⟨n, hn⟩, upper⟩ := d
  interval_cases n <;> cases upper <;> rfl

theorem hex4_bytes (a b c d : HexDigit) :
    hex4 [a.byte, b.byte, c.byte, d.byte] = some (escapedUnit a b c d) := by
  simp [hex4, hexDigit?_byte, escapedUnit]

theorem toNat_escapedUnit (a b c d : HexDigit) :
    (UInt16.ofNat (escapedUnit a b c d)).toNat = escapedUnit a b c d := by
  have ha := a.value.isLt
  have hb := b.value.isLt
  have hc := c.value.isLt
  have hd := d.value.isLt
  rw [UInt16.toNat_ofNat', escapedUnit]
  omega

theorem isLowSurrogate_unit (a b c d : HexDigit) :
    Case.isLowSurrogate (UInt16.ofNat (escapedUnit a b c d)) =
      isLowSurrogate (escapedUnit a b c d) := by
  rw [Case.isLowSurrogate, toNat_escapedUnit, isLowSurrogate]

theorem isHighSurrogate_unit (a b c d : HexDigit) :
    Case.isHighSurrogate (UInt16.ofNat (escapedUnit a b c d)) =
      isHighSurrogate (escapedUnit a b c d) := by
  rw [Case.isHighSurrogate, toNat_escapedUnit, isHighSurrogate]

end Digits

section Literals

/-- A byte that neither ends a literal nor begins an escape. -/
theorem scanText_other {b : UInt8} (hQuote : b ≠ 0x22) (hEscape : b ≠ 0x5C) (rest : Bytes) :
    scanText true (b :: rest) = scanText true rest := by
  conv_lhs => unfold scanText
  rw [if_neg hQuote, if_pos hEscape]

theorem scanText_others {data : Bytes} (h : ∀ b ∈ data, b ≠ 0x22 ∧ b ≠ 0x5C) (rest : Bytes) :
    scanText true (data ++ rest) = scanText true rest := by
  induction data with
  | nil => rfl
  | cons b data ih =>
      rw [List.forall_mem_cons] at h
      rw [List.cons_append, scanText_other h.1.1 h.1.2, ih h.2]

/-- A byte of an encoding is the character itself or beyond ASCII. -/
theorem toNat_of_mem_utf8Char {n : Nat} (h : n < 0x110000) {b : UInt8} (hb : b ∈ utf8Char n) :
    b.toNat = n ∨ 0x80 ≤ b.toNat := by
  rw [utf8Char] at hb
  split_ifs at hb <;> simp only [List.mem_cons, List.not_mem_nil, or_false] at hb
  · rw [hb, UInt8.toNat_ofNat']
    omega
  · rcases hb with rfl | rfl <;> rw [UInt8.toNat_ofNat'] <;> omega
  · rcases hb with rfl | rfl | rfl <;> rw [UInt8.toNat_ofNat'] <;> omega
  · rcases hb with rfl | rfl | rfl | rfl <;> rw [UInt8.toNat_ofNat'] <;> omega

theorem scanText_plain {c : Char} (h : IsPlain c) (rest : Bytes) :
    scanText true (utf8Char c.toNat ++ rest) = scanText true rest := by
  have hValid : c.toNat < 0xD800 ∨ (0xDFFF < c.toNat ∧ c.toNat < 0x110000) := c.valid
  obtain ⟨-, hQuote, hEscape⟩ := h
  apply scanText_others
  intro b hb
  have hByte := toNat_of_mem_utf8Char (by omega) hb
  constructor
  · rintro rfl
    rcases hByte with hOwn | hBeyond
    · exact hQuote hOwn.symm
    · exact absurd hBeyond (by decide)
  · rintro rfl
    rcases hByte with hOwn | hBeyond
    · exact hEscape hOwn.symm
    · exact absurd hBeyond (by decide)

theorem scanText_short (escape : Short) (rest : Bytes) :
    scanText true (0x5C :: escape.letter :: rest) = scanText true rest := by
  have hLetter : escape.letter ≠ 0x75 := by cases escape <;> decide
  conv_lhs => unfold scanText
  simp only
  rw [if_neg (by decide), if_neg (by decide), if_pos hLetter]

/-- The escape of a unit by what the scan makes of its value. -/
theorem scanText_unit (a b c d : HexDigit) (rest : Bytes) :
    (isLowSurrogate (escapedUnit a b c d) = true →
      scanText true ((Element.unit a b c d).bytes ++ rest) ≠ .ok ()) ∧
    (isLowSurrogate (escapedUnit a b c d) = false → isHighSurrogate (escapedUnit a b c d) = false →
      scanText true ((Element.unit a b c d).bytes ++ rest) = scanText true rest) := by
  change (_ → scanText true (0x5C :: 0x75 :: a.byte :: b.byte :: c.byte :: d.byte :: rest) ≠ _) ∧
    (_ → _ → scanText true (0x5C :: 0x75 :: a.byte :: b.byte :: c.byte :: d.byte :: rest) = _)
  constructor
  · intro hLow
    unfold scanText
    simp [hex4_bytes, hLow]
  · intro hLow hHigh
    conv_lhs => unfold scanText
    simp [hex4_bytes, hLow, hHigh]

/-- A high surrogate passes with a low one right behind it. -/
theorem scanText_pair {a b c d a' b' c' d' : HexDigit}
    (hHigh : isHighSurrogate (escapedUnit a b c d) = true)
    (hLow : isLowSurrogate (escapedUnit a' b' c' d') = true) (rest : Bytes) :
    scanText true ((Element.unit a b c d).bytes ++ ((Element.unit a' b' c' d').bytes ++ rest)) =
      scanText true rest := by
  change scanText true (0x5C :: 0x75 :: a.byte :: b.byte :: c.byte :: d.byte ::
    0x5C :: 0x75 :: a'.byte :: b'.byte :: c'.byte :: d'.byte :: rest) = _
  have hNotLow : isLowSurrogate (escapedUnit a b c d) = false := by
    simp [isLowSurrogate, isHighSurrogate] at hHigh ⊢
    omega
  conv_lhs => unfold scanText
  simp [hex4_bytes, hNotLow, hHigh, hLow]

/-- Nothing else lets a high surrogate pass. -/
theorem scanText_high {a b c d : HexDigit} (hHigh : isHighSurrogate (escapedUnit a b c d) = true)
    {tail : Bytes} (hTail : ∀ d0 d1 d2 d3 rest, tail = 0x5C :: 0x75 :: d0 :: d1 :: d2 :: d3 :: rest →
      (hex4 [d0, d1, d2, d3]).any isLowSurrogate = false) :
    scanText true ((Element.unit a b c d).bytes ++ tail) ≠ .ok () := by
  change scanText true (0x5C :: 0x75 :: a.byte :: b.byte :: c.byte :: d.byte :: tail) ≠ _
  have hNotLow : isLowSurrogate (escapedUnit a b c d) = false := by
    simp [isLowSurrogate, isHighSurrogate] at hHigh ⊢
    omega
  unfold scanText
  simp only [hex4_bytes, hNotLow, hHigh]
  rw [if_neg (by decide), if_neg (by decide), if_neg (by decide), if_neg (by decide),
    if_pos trivial]
  split
  · rename_i own next d0 d1 d2 d3 rest
    rw [if_neg]
    · simp
    · rintro ⟨rfl, rfl, hAny⟩
      rw [hTail d0 d1 d2 d3 rest rfl] at hAny
      cases hAny
  · simp

/-- Half a pair in front is found. -/
theorem hasLoneSurrogate_low {c : UInt16} (h : Case.isLowSurrogate c = true) (s : Str) :
    hasLoneSurrogate (c :: s) = true := by
  have hHigh : Case.isHighSurrogate c = false := by
    simp [Case.isLowSurrogate, Case.isHighSurrogate] at h ⊢
    omega
  cases s <;> simp [hasLoneSurrogate, h, hHigh]

theorem hasLoneSurrogate_high {c d : UInt16} (h : Case.isHighSurrogate c = true)
    (hNext : Case.isLowSurrogate d = false) (s : Str) : hasLoneSurrogate (c :: d :: s) = true := by
  simp [hasLoneSurrogate, h, hNext]

/-- The first unit of a piece is no low surrogate. -/
theorem piece_eq_cons {units : Str} (h : Piece units) :
    ∃ unit rest, units = unit :: rest ∧ Case.isLowSurrogate unit = false := by
  cases h with
  | unit hHigh hLow => exact ⟨_, _, rfl, hLow⟩
  | pair hHigh hLow =>
      refine ⟨_, _, rfl, ?_⟩
      simp [Case.isLowSurrogate, Case.isHighSurrogate] at hHigh ⊢
      omega

theorem piece_short (escape : Short) : Piece [escape.unit] := by
  cases escape <;> exact Piece.unit (by decide) (by decide)

/-- What an element is behind a high surrogate: only an escaped low one
completes the pair, in the bytes as in the units. -/
theorem element_cases (x : Element) :
    (∃ a b c d, x = .unit a b c d ∧ isLowSurrogate (escapedUnit a b c d) = true) ∨
    (∃ unit units, x.units = unit :: units ∧ Case.isLowSurrogate unit = false) ∧
      ∀ tail d0 d1 d2 d3 rest, x.bytes ++ tail = 0x5C :: 0x75 :: d0 :: d1 :: d2 :: d3 :: rest →
        (hex4 [d0, d1, d2, d3]).any isLowSurrogate = false := by
  cases x with
  | plain c h =>
      refine Or.inr ⟨piece_eq_cons (TypeScript.piece_utf16Char c), fun tail d0 d1 d2 d3 rest hShape => ?_⟩
      have hSame := scanText_plain h tail
      change utf8Char c.toNat ++ tail = _ at hShape
      have hValid : c.toNat < 0xD800 ∨ (0xDFFF < c.toNat ∧ c.toNat < 0x110000) := c.valid
      have hHead : (0x5C : UInt8) ∈ utf8Char c.toNat := by
        have hNe : utf8Char c.toNat ≠ [] := by
          rw [utf8Char]
          split_ifs <;> simp
        obtain ⟨b, more, hBytes⟩ := List.exists_cons_of_ne_nil hNe
        rw [hBytes, List.cons_append, List.cons.injEq] at hShape
        rw [hBytes, hShape.1]
        exact List.mem_cons_self
      rcases toNat_of_mem_utf8Char (by omega) hHead with hOwn | hBeyond
      · exact (h.2.2 hOwn.symm).elim
      · exact absurd hBeyond (by decide)
  | short escape =>
      refine Or.inr ⟨piece_eq_cons (piece_short escape), fun tail d0 d1 d2 d3 rest hShape => ?_⟩
      change 0x5C :: escape.letter :: tail = _ at hShape
      simp only [List.cons.injEq, true_and] at hShape
      have hLetter : escape.letter ≠ 0x75 := by cases escape <;> decide
      exact (hLetter hShape.1).elim
  | unit a b c d =>
      cases hLow : isLowSurrogate (escapedUnit a b c d) with
      | true => exact Or.inl ⟨a, b, c, d, rfl, hLow⟩
      | false =>
          refine Or.inr ⟨⟨_, _, rfl, by rw [isLowSurrogate_unit, hLow]⟩,
            fun tail d0 d1 d2 d3 rest hShape => ?_⟩
          change 0x5C :: 0x75 :: a.byte :: b.byte :: c.byte :: d.byte :: tail = _ at hShape
          simp only [List.cons.injEq, true_and] at hShape
          obtain ⟨rfl, rfl, rfl, rfl, -⟩ := hShape
          simp [hex4_bytes, hLow]

/-- Behind a high surrogate both scans ask for the low one. -/
theorem scanText_behind_high {a b c d : HexDigit}
    (hHigh : isHighSurrogate (escapedUnit a b c d) = true)
    (hUnit : Case.isHighSurrogate (UInt16.ofNat (escapedUnit a b c d)) = true)
    (tail : List Element) (rest : Bytes)
    (ih : ∀ more : List Element, more.length < tail.length →
      (scanText true (more.flatMap Element.bytes ++ 0x22 :: rest) = .ok () ↔
        hasLoneSurrogate (denote more) = false ∧ scanText false rest = .ok ())) :
    scanText true ((Element.unit a b c d).bytes ++
        (tail.flatMap Element.bytes ++ 0x22 :: rest)) = .ok () ↔
      hasLoneSurrogate (UInt16.ofNat (escapedUnit a b c d) :: denote tail) = false ∧
        scanText false rest = .ok () := by
  cases tail with
  | nil =>
      refine iff_of_false (scanText_high hHigh fun d0 d1 d2 d3 rest hShape => ?_) fun h => ?_
      · simp at hShape
      · simp [denote, hasLoneSurrogate, hUnit] at h
  | cons y more =>
      rw [List.flatMap_cons, List.append_assoc]
      rcases element_cases y with ⟨a', b', c', d', rfl, hNext⟩ | ⟨⟨unit, units, hUnits, hNotLow⟩, hBytes⟩
      · have hPair : hasLoneSurrogate (UInt16.ofNat (escapedUnit a b c d) ::
            denote (.unit a' b' c' d' :: more)) = hasLoneSurrogate (denote more) :=
          TypeScript.hasLoneSurrogate_append
            (Piece.pair hUnit (by rw [isLowSurrogate_unit, hNext])) (denote more)
        rw [scanText_pair hHigh hNext, hPair]
        exact ih more (by simp)
      · refine iff_of_false (scanText_high hHigh (hBytes _)) fun h => ?_
        rw [denote, List.flatMap_cons, hUnits, List.cons_append,
          hasLoneSurrogate_high hUnit hNotLow] at h
        cases h.1

/-- The scan leaves a literal at its end, and without an error exactly when the
literal has no half of a pair in it. -/
theorem scanText_literal (elements : List Element) (rest : Bytes) :
    scanText true (elements.flatMap Element.bytes ++ 0x22 :: rest) = .ok () ↔
      hasLoneSurrogate (denote elements) = false ∧ scanText false rest = .ok () := by
  -- A pair takes two elements at once.
  induction hLength : elements.length using Nat.strong_induction_on generalizing elements with
  | _ n ih =>
      subst hLength
      cases elements with
      | nil =>
          change scanText true (0x22 :: rest) = _ ↔ _
          conv_lhs => unfold scanText
          simp [denote, hasLoneSurrogate]
      | cons x tail =>
          have hRest := ih tail.length (by simp) tail rfl
          -- Elements that are a piece are passed over by both scans.
          have whole (hPiece : Piece x.units)
              (hScan : ∀ rest, scanText true (x.bytes ++ rest) = scanText true rest) :
              scanText true ((x :: tail).flatMap Element.bytes ++ 0x22 :: rest) = .ok () ↔
                hasLoneSurrogate (denote (x :: tail)) = false ∧ scanText false rest = .ok () := by
            rw [List.flatMap_cons, List.append_assoc, hScan, denote, List.flatMap_cons,
              TypeScript.hasLoneSurrogate_append hPiece]
            exact hRest
          cases x with
          | plain c h => exact whole (TypeScript.piece_utf16Char c) (scanText_plain h)
          | short escape => exact whole (piece_short escape) (scanText_short escape)
          | unit a b c d =>
              have hUnits : denote (.unit a b c d :: tail) =
                  UInt16.ofNat (escapedUnit a b c d) :: denote tail := rfl
              cases hLow : isLowSurrogate (escapedUnit a b c d) with
              | true =>
                  refine iff_of_false ?_ fun h => ?_
                  · rw [List.flatMap_cons, List.append_assoc]
                    exact (scanText_unit a b c d _).1 hLow
                  · rw [hUnits, hasLoneSurrogate_low (by rw [isLowSurrogate_unit, hLow])] at h
                    cases h.1
              | false =>
                  cases hHigh : isHighSurrogate (escapedUnit a b c d) with
                  | false =>
                      exact whole
                        (Piece.unit (by rw [isHighSurrogate_unit, hHigh])
                          (by rw [isLowSurrogate_unit, hLow]))
                        fun rest => (scanText_unit a b c d rest).2 hLow hHigh
                  | true =>
                      have hUnit : Case.isHighSurrogate (UInt16.ofNat (escapedUnit a b c d)) = true := by
                        rw [isHighSurrogate_unit, hHigh]
                      rw [hUnits, List.flatMap_cons, List.append_assoc]
                      exact scanText_behind_high hHigh hUnit tail rest fun more hMore =>
                        ih more.length (by rw [List.length_cons]; omega) more rfl

end Literals

section Texts

theorem scanText_symbol (own : Symbol) (rest : Bytes) :
    scanText false (own.byte :: rest) = scanText false rest := by
  rw [scanText_outside, decide_eq_false own.notQuotationMark]

theorem scanText_token (t : Token) (rest : Bytes) : scanText false (t.bytes ++ rest) = .ok () ↔
    (∀ s ∈ t.literals, WellFormed s) ∧ scanText false rest = .ok () := by
  cases t with
  | symbol own =>
      change scanText false (own.byte :: rest) = _ ↔ _
      rw [scanText_symbol]
      simp [Token.literals]
  | literal elements =>
      have hOpen : scanText false ((Token.literal elements).bytes ++ rest) =
          scanText true (elements.flatMap Element.bytes ++ 0x22 :: rest) := by
        rw [Token.bytes, List.cons_append, List.append_assoc, scanText_outside]
        rfl
      rw [hOpen, scanText_literal, TypeScript.hasLoneSurrogate_eq_false_iff]
      simp [Token.literals]

theorem scanText_tokens (tokens : List Token) : scanText false (tokens.flatMap Token.bytes) = .ok () ↔
    ∀ s ∈ tokens.flatMap Token.literals, WellFormed s := by
  induction tokens with
  | nil => simp [scanText]
  | cons t rest ih =>
      rw [List.flatMap_cons, scanText_token, ih, List.flatMap_cons, List.forall_mem_append]

/-- The scan of a JSON text passes when its literals are well formed. -/
theorem rejectMalformedText_document (d : Document) :
    rejectMalformedText d.bytes = .ok () ↔ ∀ s ∈ d.literals, WellFormed s := by
  have hUtf8 : (decodeUtf8 d.bytes).isNone = false := by
    rw [← Option.not_isSome, d.isSome_decodeUtf8]
    rfl
  rw [rejectMalformedText, hUtf8]
  simp only [Bool.false_eq_true, if_false]
  exact scanText_tokens d.tokens

/-- The scan tells JSON texts apart by their string literals: every one of them
has to encode Unicode text. Bytes that are no UTF-8 never pass. -/
theorem rejectMalformedText_exact :
    (∀ d : Document, rejectMalformedText d.bytes = .ok () ↔
      ∀ s ∈ d.literals, ∃ text : String, utf16 text = s) ∧
    ∀ raw, decodeUtf8 raw = none → rejectMalformedText raw ≠ .ok () := by
  constructor
  · intro d
    simp only [rejectMalformedText_document, TypeScript.wellFormed_iff_utf16]
  · intro raw hRaw
    simp [rejectMalformedText, hRaw]

end Texts
end ArioProof.Go
