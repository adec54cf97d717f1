import ArioProof.CrossKernel.Agreement
import ArioProof.Python.ProofBundle
import ArioProof.Python.TraceSoundness

/-! The hex decoders that every verdict passes through. TypeScript reads digits
in pairs and nothing else. Python validates a length at most and leaves the rest
to `bytes.fromhex`, which skips ASCII whitespace between the pairs, so a text
with whitespace is one more spelling of its bytes there. -/
namespace ArioProof.CrossKernel

open Foundation

section Grammar

/-- What `bytes.fromhex` reads: pairs of digits with whitespace around them. -/
inductive HexText : Str → Prop where
  | nil : HexText []
  | space {c : UInt16} {s : Str} (hSpace : Hex.isSpace c = true) (rest : HexText s) :
      HexText (c :: s)
  | pair {c d : UInt16} {s : Str} (hHigh : Hex.IsDigit c) (hLow : Hex.IsDigit d)
      (rest : HexText s) : HexText (c :: d :: s)

/-- Such a text with white space in it, which the decoder of one language passes
over and that of the other refuses. -/
def Spaced (s : Str) : Prop := HexText s ∧ ∃ c ∈ s, Hex.isSpace c = true

theorem hexText_of_fromhex {s : Str} {bytes : Bytes} (h : Hex.fromhex s = some bytes) :
    HexText s := by
  induction s using Hex.fromhex.induct generalizing bytes with
  | case1 => exact HexText.nil
  | case2 c hSpace => exact HexText.space hSpace HexText.nil
  | case3 c hSpace =>
      rw [Hex.fromhex, if_neg hSpace] at h
      cases h
  | case4 c d rest hSpace ih =>
      rw [Hex.fromhex, if_pos hSpace] at h
      exact HexText.space hSpace (ih h)
  | case5 c d rest hSpace high low hLow hHigh ih =>
      simp only [Hex.fromhex, hSpace, hHigh, hLow, Bool.false_eq_true, if_false,
        Option.map_eq_some_iff] at h
      obtain ⟨tail, hTail, -⟩ := h
      apply HexText.pair
      · rw [Hex.IsDigit, hHigh]
        rfl
      · rw [Hex.IsDigit, hLow]
        rfl
      · exact ih hTail
  | case6 c d rest hSpace hNone =>
      rw [Hex.fromhex, if_neg hSpace] at h
      split at h
      · exact (hNone _ _ ‹_› ‹_›).elim
      · cases h

/-- The decoder passes over one white space unit and goes on as if it were not
there. -/
theorem fromhex_space {c : UInt16} (hSpace : Hex.isSpace c = true) (s : Str) :
    Hex.fromhex (c :: s) = Hex.fromhex s := by
  cases s with
  | nil => simp [Hex.fromhex, hSpace]
  | cons d rest => rw [Hex.fromhex, if_pos hSpace]

theorem fromhex_of_hexText {s : Str} (h : HexText s) : ∃ bytes, Hex.fromhex s = some bytes := by
  induction h with
  | nil => exact ⟨[], rfl⟩
  | space hSpace rest ih =>
      obtain ⟨bytes, hBytes⟩ := ih
      exact ⟨bytes, by rw [fromhex_space hSpace, hBytes]⟩
  | pair hHigh hLow rest ih =>
      obtain ⟨bytes, hBytes⟩ := ih
      have hSpace := Hex.isSpace_eq_false_of_isDigit hHigh
      obtain ⟨high, hHigh⟩ := Option.isSome_iff_exists.mp hHigh
      obtain ⟨low, hLow⟩ := Option.isSome_iff_exists.mp hLow
      exists UInt8.ofNat (16 * high + low) :: bytes
      simp [Hex.fromhex, hSpace, hHigh, hLow, hBytes]

/-- Without whitespace a text that `bytes.fromhex` reads has digits only. -/
theorem HexText.isDigit {s : Str} (h : HexText s) (hNone : ∀ c ∈ s, Hex.isSpace c = false) :
    ∀ c ∈ s, Hex.IsDigit c := by
  induction h with
  | nil => simp
  | space hSpace rest ih =>
      rw [hNone _ List.mem_cons_self] at hSpace
      cases hSpace
  | pair hHigh hLow rest ih =>
      have hRest := ih fun c hc => hNone c (List.mem_cons_of_mem _ (List.mem_cons_of_mem _ hc))
      exact List.forall_mem_cons.mpr ⟨hHigh, List.forall_mem_cons.mpr ⟨hLow, hRest⟩⟩

/-- The two decoders differ on the texts with whitespace, and on no other. -/
theorem fromhex_eq_strictHex_iff (s : Str) : Hex.fromhex s = Hex.strictHex s ↔ ¬Spaced s := by
  constructor
  · rintro hSame ⟨hText, c, hc, hSpace⟩
    obtain ⟨bytes, hBytes⟩ := fromhex_of_hexText hText
    rw [hSame] at hBytes
    have hDigit := Hex.isDigit_of_strictHex hBytes c hc
    rw [Hex.isSpace_eq_false_of_isDigit hDigit] at hSpace
    cases hSpace
  · intro hSpaced
    cases hFrom : Hex.fromhex s with
    | none =>
        cases hStrict : Hex.strictHex s with
        | none => rfl
        | some bytes =>
            rw [Hex.fromhex_of_strictHex hStrict] at hFrom
            cases hFrom
    | some bytes =>
        have hText := hexText_of_fromhex hFrom
        have hDigits : ∀ c ∈ s, Hex.IsDigit c := by
          apply hText.isDigit
          intro c hc
          rw [← Bool.not_eq_true]
          intro hSpace
          exact hSpaced ⟨hText, c, hc, hSpace⟩
        rw [Hex.strictHex_of_digits hDigits, hFrom]

end Grammar

section Codec

variable {P : Python.Runtime} {T : TypeScript.Runtime} {s : Str}

/-- A text that `bytes.fromhex` reads has as many characters as units. -/
theorem HexText.len (h : HexText s) : Python.len s = s.length := by
  apply Python.length_eq_len
  intro c hc
  apply Python.isHighSurrogate_of_lt
  induction h with
  | nil => cases hc
  | @space d s hSpace rest ih =>
      rcases List.mem_cons.mp hc with rfl | hc
      · simp only [Hex.isSpace, Bool.or_eq_true, Bool.and_eq_true, decide_eq_true_eq] at hSpace
        omega
      · exact ih hc
  | pair hHigh hLow rest ih =>
      rcases List.mem_cons.mp hc with rfl | hc
      · have := Hex.toNat_lt_of_isDigit hHigh
        omega
      · rcases List.mem_cons.mp hc with rfl | hc
        · have := Hex.toNat_lt_of_isDigit hLow
          omega
        · exact ih hc

/-- `_hex_to_bytes` is `bytes.fromhex` on texts of even length. -/
theorem hexToBytes_python {bytes : Bytes} : Python.hexToBytes P (.str s) = .ok bytes ↔
    s.length % 2 = 0 ∧ Hex.fromhex s = some bytes := by
  rw [Python.hexToBytes]
  cases hFrom : Hex.fromhex s with
  | none => split_ifs <;> simp
  | some own =>
      rw [(hexText_of_fromhex hFrom).len]
      split_ifs with hOdd
      · simp [hOdd]
      · rw [not_not] at hOdd
        simp [hOdd]

/-- A text for which the decoders are one strict codec: the two of Python accept
it exactly if the one of TypeScript does, with the same bytes, and the bytes
give back the text in lowercase. -/
structure OneCodec (P : Python.Runtime) (T : TypeScript.Runtime) (s : Str) : Prop where
  record : ∀ bytes, Python.hexToBytes P (.str s) = .ok bytes ↔
    TypeScript.hexToBytes T (some (.str s)) = .ok bytes
  signature : ∀ bytes, Python.fromhex? (.str s) = some bytes ↔
    TypeScript.hexToBytes T (some (.str s)) = .ok bytes
  form : (∃ bytes, TypeScript.hexToBytes T (some (.str s)) = .ok bytes) ↔
    s.length % 2 = 0 ∧ ∀ c ∈ s, Hex.IsDigit c
  spelling : ∀ bytes, Python.hexToBytes P (.str s) = .ok bytes ∨
    Python.fromhex? (.str s) = some bytes ∨
    TypeScript.hexToBytes T (some (.str s)) = .ok bytes → Hex.encode bytes = s.map Hex.asciiLower

theorem signatureCodec_iff : (∀ bytes, Python.fromhex? (.str s) = some bytes ↔
    TypeScript.hexToBytes T (some (.str s)) = .ok bytes) ↔ ¬Spaced s := by
  rw [← fromhex_eq_strictHex_iff]
  constructor
  · intro h
    apply Option.ext
    intro bytes
    rw [← TypeScript.hexToBytes_eq_ok (R := T), ← h bytes]
    rfl
  · intro hSame bytes
    rw [TypeScript.hexToBytes_eq_ok, ← hSame]
    rfl

/-- An odd number of whitespace units is caught by the length test in front. -/
theorem recordCodec_iff : (∀ bytes, Python.hexToBytes P (.str s) = .ok bytes ↔
    TypeScript.hexToBytes T (some (.str s)) = .ok bytes) ↔ ¬(Spaced s ∧ s.length % 2 = 0) := by
  constructor
  · rintro h ⟨hSpaced, hEven⟩
    apply (signatureCodec_iff (T := T)).mp _ hSpaced
    intro bytes
    rw [← h bytes, hexToBytes_python]
    exact ⟨fun hFrom => ⟨hEven, hFrom⟩, fun hBoth => hBoth.2⟩
  · intro hNot bytes
    rw [hexToBytes_python, TypeScript.hexToBytes_eq_ok]
    constructor
    · rintro ⟨hEven, hFrom⟩
      have hPlain : ¬Spaced s := fun hSpaced => hNot ⟨hSpaced, hEven⟩
      rw [← (fromhex_eq_strictHex_iff s).mpr hPlain, hFrom]
    · intro hStrict
      have hLength := Hex.length_of_strictHex hStrict
      exact ⟨by omega, Hex.fromhex_of_strictHex hStrict⟩

theorem oneCodec_iff : OneCodec P T s ↔ ¬Spaced s := by
  constructor
  · intro h
    exact signatureCodec_iff.mp h.signature
  · intro hPlain
    have hRecord := (recordCodec_iff (P := P) (T := T)).mpr fun hBoth => hPlain hBoth.1
    have hSignature := (signatureCodec_iff (T := T)).mpr hPlain
    constructor
    · exact hRecord
    · exact hSignature
    · simp only [TypeScript.hexToBytes_eq_ok]
      exact Hex.strictHex_isSome_iff s
    · intro bytes h
      apply Hex.encode_of_strictHex
      rw [← TypeScript.hexToBytes_eq_ok (R := T)]
      rcases h with h | h | h
      · exact (hRecord bytes).mp h
      · exact (hSignature bytes).mp h
      · exact h

/-- The decoders of both kernels are one codec on every text that is not spaced
out with whitespace, and on no other. What is written as hex is read back. -/
theorem hex_codec_iff (P : Python.Runtime) (T : TypeScript.Runtime) :
    (∀ s, OneCodec P T s ↔ ¬Spaced s) ∧
    ∀ bytes, Python.hexToBytes P (.str (Hex.encode bytes)) = .ok bytes ∧
      Python.fromhex? (.str (Hex.encode bytes)) = some bytes ∧
      TypeScript.hexToBytes T (some (.str (Hex.encode bytes))) = .ok bytes := by
  constructor
  · intro s
    exact oneCodec_iff
  · intro bytes
    constructor
    · exact Python.hexToBytes_encode bytes
    constructor
    · exact Hex.fromhex_encode bytes
    · exact TypeScript.hexToBytes_eq_ok.mpr (Hex.strictHex_encode bytes)

end Codec

section Sample

open Reference

/-- Two zero bytes, with a blank behind each. -/
def spacedZeros : Str := utf16 "00 00 "

/-- Both decoders of Python read them, and the one of TypeScript does not. -/
theorem spacedZeros_differs :
    ¬OneCodec (python (signedWith [])) (typeScript (signedWith [])) spacedZeros := by
  intro h
  have hPython : Python.hexToBytes (python (signedWith [])) (.str spacedZeros) = .ok [0, 0] :=
    hexToBytes_python.mpr (by decide)
  have hToo := TypeScript.hexToBytes_eq_ok.mp ((h.record [0, 0]).mp hPython)
  have hStrict : Hex.strictHex spacedZeros = none := by decide
  rw [hStrict] at hToo
  cases hToo

end Sample
end ArioProof.CrossKernel
