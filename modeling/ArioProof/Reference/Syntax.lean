import ArioProof.Data.Syntax
import ArioProof.Reference.JsonText
import ArioProof.TypeScript.Surrogates

/-! The canonical text of a value by its concrete syntax: it is a JSON text, and
its literals are the strings of the value. -/
namespace ArioProof.Reference

open Foundation Syntax
open TypeScript (strings stringsItems stringsMembers)

/-- The bytes of an ASCII text, one for each code unit. -/
def toBytes (text : Str) : Bytes := text.map UInt16.toUInt8

@[simp] theorem toBytes_append (s t : Str) : toBytes (s ++ t) = toBytes s ++ toBytes t := by
  simp [toBytes]

@[simp] theorem toBytes_cons (c : UInt16) (s : Str) : toBytes (c :: s) = c.toUInt8 :: toBytes s := rfl

section Elements

instance (c : Char) : Decidable (IsPlain c) :=
  inferInstanceAs (Decidable (0x20 ≤ c.toNat ∧ c.toNat ≠ 0x22 ∧ c.toNat ≠ 0x5C))

def shortEscapes : List (UInt16 × Short) :=
  [(0x22, .quotationMark), (0x5C, .reverseSolidus), (0x08, .backspace), (0x09, .tab),
    (0x0A, .lineFeed), (0x0C, .formFeed), (0x0D, .carriageReturn)]

/-- The element that writes an ASCII character. -/
def elementOf (c : UInt16) : Element :=
  if h : IsPlain (Char.ofNat c.toNat) then .plain (Char.ofNat c.toNat) h
  else
    match shortEscapes.lookup c with
    | some escape => .short escape
    | none => .unit ⟨0, false⟩ ⟨0, false⟩ ⟨Fin.ofNat 16 (c.toNat / 16), false⟩
        ⟨Fin.ofNat 16 (c.toNat % 16), false⟩

/-- A character of a string and its escape are one element of the grammar. -/
theorem elementOf_spec {c : UInt16} (h : c.toNat < 0x80) :
    (elementOf c).units = [c] ∧ (elementOf c).bytes = toBytes (escape c) := by
  obtain ⟨n, hn, rfl⟩ : ∃ n, n < 128 ∧ c = UInt16.ofNat n := ⟨c.toNat, h, by simp⟩
  interval_cases n <;> exact ⟨rfl, rfl⟩

/-- A string is written by its elements. -/
theorem exists_elements {s : Str} (h : isAscii s = true) (rest : Str) :
    ∃ elements : List Element, denote elements = s ∧
      toBytes (escapeOnto s rest) = elements.flatMap Element.bytes ++ toBytes rest := by
  induction s with
  | nil => exact ⟨[], rfl, rfl⟩
  | cons c s ih =>
      obtain ⟨hc, hs⟩ := isAscii_cons.mp h
      obtain ⟨hUnits, hBytes⟩ := elementOf_spec hc
      obtain ⟨elements, rfl, hRest⟩ := ih hs
      refine ⟨elementOf c :: elements, ?_, ?_⟩
      · rw [denote, List.flatMap_cons, hUnits]
        rfl
      · rw [escapeOnto_cons, toBytes_append, hRest, List.flatMap_cons, hBytes, List.append_assoc]

end Elements

section Numbers

def digitByte (d : Fin 10) : UInt8 := UInt8.ofNat (0x30 + d.val)

/-- Digits are encoded one by one. -/
theorem bytes_digits (ds : List (Fin 10)) :
    (ds.map digit).flatMap Token.bytes = ds.map digitByte := by
  induction ds with
  | nil => rfl
  | cons d ds ih =>
      rw [List.map_cons, List.flatMap_cons, ih]
      rfl

/-- The digits of a number do not begin with a zero, unless they are one. -/
theorem exists_digits (n : Nat) : ∃ (first : Fin 10) (more : List (Fin 10)),
    toBytes (digits n) = digitByte first :: more.map digitByte ∧ (first = 0 → more = []) ∧
      (first = 0 → n = 0) := by
  have digitOf_eq (d : Fin 10) : (digitOf d.val).toUInt8 = digitByte d := by
    revert d
    decide
  induction n using digits.induct with
  | case1 n h =>
      refine ⟨⟨n, h⟩, [], ?_, fun _ => rfl, fun hZero => ?_⟩
      · rw [digits, if_pos h]
        exact congrArg (· :: []) (digitOf_eq ⟨n, h⟩)
      · exact congrArg Fin.val hZero
  | case2 n h ih =>
      obtain ⟨first, more, hBytes, -, hZero⟩ := ih
      have hFirst : first ≠ 0 := by
        intro hFirst
        have := hZero hFirst
        omega
      refine ⟨first, more ++ [⟨n % 10, Nat.mod_lt _ (by omega)⟩], ?_, fun hZero => (hFirst hZero).elim,
        fun hZero => (hFirst hZero).elim⟩
      rw [digits, if_neg h, toBytes_append, hBytes, List.map_append, List.cons_append]
      exact congrArg (fun byte => digitByte first :: (more.map digitByte ++ [byte]))
        (digitOf_eq ⟨n % 10, Nat.mod_lt _ (by omega)⟩)

/-- An integer that is written is a number of the grammar, and holds no string. -/
theorem exists_number (n : Int) (rest : Str) : ∃ number : Number,
    toBytes (emitInt n rest) = number.tokens.flatMap Token.bytes ++ toBytes rest ∧
      number.tokens.flatMap Token.literals = [] := by
  obtain ⟨first, more, hBytes, hZero, -⟩ := exists_digits n.natAbs
  refine ⟨⟨n < 0, first, more, hZero, [], none⟩, ?_, ?_⟩
  · have hDigits : (digit first :: more.map digit).flatMap Token.bytes = toBytes (digits n.natAbs) := by
      rw [hBytes, List.flatMap_cons, bytes_digits]
      rfl
    unfold emitInt Number.tokens
    by_cases hNeg : n < 0
    · simp [hNeg, hDigits.symm, minus, Token.bytes]
    · simp [hNeg, hDigits.symm]
  · unfold Number.tokens
    by_cases hNeg : n < 0 <;> simp [hNeg, digit, minus, Token.literals]

end Numbers

section Texts

/-- Tokens write a text in front of another one, and their literals are the
given strings. -/
def Writes (tokens : List Token) (own : List Str) (text rest : Str) : Prop :=
  toBytes text = tokens.flatMap Token.bytes ++ toBytes rest ∧
    tokens.flatMap Token.literals = own

/-- Stretches of a text that the grammar derives lie one behind the other. -/
theorem Writes.append {tokens more : List Token} {own others : List Str} {text middle rest : Str}
    (h : Writes tokens own text middle) (h' : Writes more others middle rest) :
    Writes (tokens ++ more) (own ++ others) text rest := by
  constructor
  · rw [h.1, h'.1, List.flatMap_append, List.append_assoc]
  · rw [List.flatMap_append, h.2, h'.2]

/-- A character outside strings is a token in front of a stretch that is
derived. -/
theorem Writes.cons {c : UInt16} {own : Symbol} {tokens : List Token} {strs : List Str}
    {text rest : Str} (h : Writes tokens strs text rest) (hByte : own.byte = c.toUInt8) :
    Writes (.symbol own :: tokens) strs (c :: text) rest := by
  constructor
  · rw [toBytes_cons, h.1, ← hByte]
    rfl
  · exact h.2

/-- A string that is written is one token, whose elements are the escapes. -/
theorem writes_string {s rest text : Str} (h : emitString s rest = some text) :
    ∃ elements, Writes [.literal elements] [s] text rest := by
  unfold emitString at h
  split_ifs at h with hAscii
  cases h
  obtain ⟨elements, hDenote, hBytes⟩ := exists_elements hAscii (quotationMark :: rest)
  refine ⟨elements, ?_, ?_⟩
  · rw [toBytes_cons, hBytes]
    simp [Token.bytes, quotationMark]
  · simp [Token.literals, hDenote]

mutual

/-- Every value that is written is derived by the grammar, with the strings of the
value for its literals. -/
theorem exists_text : ∀ (v : Json) {rest text : Str}, emit v rest = some text →
    ∃ t : Text, Writes t.tokens (strings v) text rest
  | .null, _, _, h => by
      cases h
      exact ⟨.null, rfl, rfl⟩
  | .bool true, _, _, h => by
      cases h
      exact ⟨.bool true, rfl, rfl⟩
  | .bool false, _, _, h => by
      cases h
      exact ⟨.bool false, rfl, rfl⟩
  | .int n, rest, _, h => by
      cases h
      obtain ⟨number, hBytes, hLiterals⟩ := exists_number n rest
      exact ⟨.number number, hBytes, hLiterals⟩
  | .float _, _, _, h => by cases h
  | .str s, _, _, h => by
      obtain ⟨elements, hWrites⟩ := writes_string h
      exact ⟨.string elements, hWrites⟩
  | .arr [], _, _, h => by
      cases h
      exact ⟨.array [] .nil, rfl, rfl⟩
  | .arr (v :: items), rest, _, h => by
      obtain ⟨tail, first, hTail, hFirst, rfl⟩ := emit_cons_eq_some h
      obtain ⟨t, hHead⟩ := exists_text v hFirst
      obtain ⟨more, hRest⟩ := exists_items items hTail
      refine ⟨.array [] (.cons t [] [] more), ?_⟩
      have hTokens : (Text.array [] (.cons t [] [] more)).tokens =
          openBracket :: (t.tokens ++ (more.tokens [comma] ++ [closeBracket])) := by
        simp [Text.tokens, Items.tokens, blanks]
      rw [hTokens, strings, stringsItems]
      exact (hHead.append hRest).cons rfl
  | .obj [], _, _, h => by
      cases h
      exact ⟨.object [] .nil, rfl, rfl⟩
  | .obj ((key, v) :: members), rest, _, h => by
      obtain ⟨tail, first, name, hTail, hFirst, hName, rfl⟩ := emit_member_eq_some h
      obtain ⟨elements, hKey⟩ := writes_string hName
      obtain ⟨t, hHead⟩ := exists_text v hFirst
      obtain ⟨more, hRest⟩ := exists_members members hTail
      refine ⟨.object [] (.cons elements [] [] t [] [] more), ?_⟩
      have hTokens : (Text.object [] (.cons elements [] [] t [] [] more)).tokens =
          openBrace :: ([.literal elements] ++
            (colon :: (t.tokens ++ (more.tokens [comma] ++ [closeBrace])))) := by
        simp [Text.tokens, Members.tokens, blanks]
      rw [hTokens, strings, stringsMembers]
      exact (hKey.append ((hHead.append hRest).cons rfl)).cons rfl

theorem exists_items : ∀ (items : List Json) {rest text : Str},
    emitItems items rest = some text →
      ∃ t : Items, Writes (t.tokens [comma] ++ [closeBracket]) (stringsItems items) text rest
  | [], _, _, h => by
      cases h
      exact ⟨.nil, rfl, rfl⟩
  | v :: items, rest, _, h => by
      obtain ⟨tail, first, hTail, hFirst, rfl⟩ := emit_cons_eq_some h
      obtain ⟨t, hHead⟩ := exists_text v hFirst
      obtain ⟨more, hRest⟩ := exists_items items hTail
      refine ⟨.cons t [] [] more, ?_⟩
      have hTokens : (Items.cons t [] [] more).tokens [comma] ++ [closeBracket] =
          comma :: (t.tokens ++ (more.tokens [comma] ++ [closeBracket])) := by
        simp [Items.tokens, blanks]
      rw [hTokens, stringsItems]
      exact (hHead.append hRest).cons rfl

theorem exists_members : ∀ (members : List (Str × Json)) {rest text : Str},
    emitMembers members rest = some text →
      ∃ t : Members, Writes (t.tokens [comma] ++ [closeBrace]) (stringsMembers members) text rest
  | [], _, _, h => by
      cases h
      exact ⟨.nil, rfl, rfl⟩
  | (key, v) :: members, rest, _, h => by
      obtain ⟨tail, first, name, hTail, hFirst, hName, rfl⟩ := emit_member_eq_some h
      obtain ⟨elements, hKey⟩ := writes_string hName
      obtain ⟨t, hHead⟩ := exists_text v hFirst
      obtain ⟨more, hRest⟩ := exists_members members hTail
      refine ⟨.cons elements [] [] t [] [] more, ?_⟩
      have hTokens : (Members.cons elements [] [] t [] [] more).tokens [comma] ++ [closeBrace] =
          comma :: ([.literal elements] ++
            (colon :: (t.tokens ++ (more.tokens [comma] ++ [closeBrace])))) := by
        simp [Members.tokens, blanks]
      rw [hTokens, stringsMembers]
      exact (hKey.append ((hHead.append hRest).cons rfl)).cons rfl

end

/-- Canonical text is a JSON text, whose literals are the strings of the value
in order. -/
theorem exists_document {v : Json} {text : Str} (h : canonicalText v = some text) :
    ∃ d : Document, d.bytes = toBytes text ∧ d.literals = strings (order v) := by
  obtain ⟨t, hBytes, hLiterals⟩ := exists_text (order v) h
  have hTokens : (Document.mk [] t []).tokens = t.tokens := by
    simp [Document.tokens, blanks]
  refine ⟨⟨[], t, []⟩, ?_, ?_⟩
  · rw [Document.bytes, hTokens, hBytes]
    simp [toBytes]
  · rw [Document.literals, hTokens]
    exact hLiterals

end Texts
end ArioProof.Reference
