import ArioProof.Reference.Runtime
import ArioProof.TypeScript.Cli
import ArioProof.TypeScript.Held

/-! A concrete environment of the command line: files in a list, and JSON text
with the white space that an indent of two puts into it. -/
namespace ArioProof.Reference

open Foundation
open TypeScript (Held HeldItems HeldMembers clone cloneItems cloneMembers cloneNumber)

section Layout

/-- Where a character of a text stands. -/
inductive Place where
  | outside
  | inside
  | escaped
  deriving DecidableEq

/-- Whether the next character is inside a string, and there behind a reverse
solidus. -/
def Place.next : Place → UInt16 → Place
  | outside, c => if c = quotationMark then inside else outside
  | inside, c => if c = quotationMark then outside else if c = backslash then escaped else inside
  | escaped, _ => inside

/-- The blanks that may stand between tokens. -/
def isBlank (c : UInt16) : Bool := [0x20, 0x0A, 0x0D, 0x09].contains c

def isOpener (c : UInt16) : Bool := c = 0x7B || c = 0x5B

def isCloser (c : UInt16) : Bool := c = 0x7D || c = 0x5D

/-- The text without the white space between its tokens. -/
def compact : Place → Str → Str
  | _, [] => []
  | place, c :: rest =>
      if place = .outside && isBlank c then compact place rest else c :: compact (place.next c) rest

/-- A line break with the indent of a level, which is two blanks deep. -/
def newLine (level : Nat) : Str := 0x0A :: List.replicate (2 * level) 0x20

/-- White space in front of a token, at its level; `opened` tells that the token
before it has opened an array or an object. -/
def before (level : Nat) (opened : Bool) (c : UInt16) : Str :=
  if isCloser c then (if opened then [] else newLine (level - 1))
  else if opened then newLine level else []

/-- What is laid out behind a character: a line break behind a comma, and a blank
behind a colon. -/
def after (level : Nat) (c : UInt16) : Str :=
  if c = 0x2C then newLine level else if c = 0x3A then [0x20] else []

def levelAfter (level : Nat) (c : UInt16) : Nat :=
  if isOpener c then level + 1 else if isCloser c then level - 1 else level

/-- A text without white space between its tokens, laid out with an indent of
two. -/
def indent : (level : Nat) → (opened : Bool) → Place → Str → Str
  | _, _, _, [] => []
  | level, opened, place, c :: rest =>
      if place = .outside then
        before level opened c ++ c :: after level c ++
          indent (levelAfter level c) (isOpener c) (place.next c) rest
      else c :: indent level false (place.next c) rest

/-- Blanks outside strings go, however many there are. -/
theorem compact_blanks {blanks : Str} (h : blanks.all isBlank = true) (rest : Str) :
    compact .outside (blanks ++ rest) = compact .outside rest := by
  induction blanks with
  | nil => rfl
  | cons c blanks ih =>
      rw [List.all_cons, Bool.and_eq_true] at h
      rw [List.cons_append, compact, h.1]
      exact ih h.2

theorem isBlank_newLine (level : Nat) : (newLine level).all isBlank = true := by
  rw [newLine, List.all_cons, List.all_replicate]
  simp [isBlank]

/-- Only blanks are laid out in front of a character. -/
theorem isBlank_before (level : Nat) (opened : Bool) (c : UInt16) :
    (before level opened c).all isBlank = true := by
  unfold before
  split_ifs <;> first | rfl | exact isBlank_newLine _

/-- Only blanks are laid out behind a character. -/
theorem isBlank_after (level : Nat) (c : UInt16) : (after level c).all isBlank = true := by
  unfold after
  split_ifs <;> first | rfl | exact isBlank_newLine _

/-- White space stands outside of strings, since a comma or a colon does. -/
theorem next_of_after {level : Nat} {c : UInt16} (h : after level c ≠ []) :
    Place.outside.next c = .outside := by
  unfold after at h
  rw [Place.next, if_neg]
  rintro rfl
  exact h rfl

/-- The layout is what a reading skips: a laid out text compacts to the text it
was made from. -/
theorem compact_indent (level : Nat) (opened : Bool) (place : Place) (text rest : Str) :
    compact place (indent level opened place text ++ rest) = compact place (text ++ rest) := by
  induction text generalizing level opened place with
  | nil => rfl
  | cons c text ih =>
      by_cases hPlace : place = .outside
      · subst hPlace
        have hAfter : compact (Place.outside.next c) (after level c ++
            (indent (levelAfter level c) (isOpener c) (Place.outside.next c) text ++ rest)) =
            compact (Place.outside.next c) (text ++ rest) := by
          by_cases hNone : after level c = []
          · rw [hNone]
            exact ih _ _ _
          · rw [next_of_after hNone, compact_blanks (isBlank_after level c)]
            exact ih _ _ _
        rw [indent, if_pos rfl, List.append_assoc, List.append_assoc,
          compact_blanks (isBlank_before level opened c), List.cons_append, List.cons_append, compact,
          compact]
        by_cases hBlank : isBlank c = true
        · have hSame : Place.outside.next c = .outside := by
            rw [Place.next, if_neg]
            rintro rfl
            exact absurd hBlank (by decide)
          rw [hSame] at hAfter
          simpa [hBlank, hSame] using hAfter
        · simpa [hBlank] using hAfter
      · rw [indent, if_neg hPlace, List.cons_append, List.cons_append, compact, compact]
        simp only [hPlace, decide_false, Bool.false_and, Bool.false_eq_true, if_false]
        rw [ih]

/-- A text in front of another one keeps all of its characters, and ends outside
of its strings. -/
def Keeps (text rest : Str) : Prop :=
  ∃ own, text = own ++ rest ∧ ∀ tail, compact .outside (own ++ tail) = own ++ compact .outside tail

/-- Stretches that are kept lie one behind the other. -/
theorem Keeps.trans {text middle rest : Str} (h : Keeps text middle) (h' : Keeps middle rest) :
    Keeps text rest := by
  obtain ⟨own, rfl, hOwn⟩ := h
  obtain ⟨more, rfl, hMore⟩ := h'
  refine ⟨own ++ more, (List.append_assoc _ _ _).symm, fun tail => ?_⟩
  rw [List.append_assoc, hOwn, hMore, List.append_assoc]

/-- A character outside strings is kept when it is no blank and opens no
string. -/
theorem Keeps.cons {text rest : Str} (h : Keeps text rest) (c : UInt16)
    (hc : isBlank c = false ∧ c ≠ quotationMark) : Keeps (c :: text) rest := by
  obtain ⟨own, rfl, hOwn⟩ := h
  refine ⟨c :: own, rfl, fun tail => ?_⟩
  rw [List.cons_append, compact, hc.1, Bool.and_false, if_neg Bool.false_ne_true, Place.next,
    if_neg hc.2, hOwn, List.cons_append]

theorem Keeps.refl (text : Str) : Keeps text text := ⟨[], rfl, fun _ => rfl⟩

/-- The character of a string is kept, and the string goes on. -/
theorem compact_escape {c : UInt16} (h : c.toNat < 0x80) (rest : Str) :
    compact .inside (escape c ++ rest) = escape c ++ compact .inside rest := by
  obtain ⟨n, hn, rfl⟩ : ∃ n, n < 128 ∧ c = UInt16.ofNat n := ⟨c.toNat, h, by simp⟩
  interval_cases n <;> rfl

/-- An escaped string is kept up to its closing quotation mark, because each inner
one is behind a reverse solidus. -/
theorem compact_escapeOnto {s : Str} (h : isAscii s = true) (rest : Str) :
    ∃ own, escapeOnto s rest = own ++ rest ∧
      ∀ tail, compact .inside (own ++ tail) = own ++ compact .inside tail := by
  induction s with
  | nil => exact ⟨[], rfl, fun _ => rfl⟩
  | cons c s ih =>
      obtain ⟨hc, hs⟩ := isAscii_cons.mp h
      obtain ⟨own, hOwn, hCompact⟩ := ih hs
      refine ⟨escape c ++ own, by rw [escapeOnto_cons, hOwn, List.append_assoc], fun tail => ?_⟩
      rw [List.append_assoc, compact_escape hc, hCompact, List.append_assoc]

/-- A string is kept with the blanks inside it. -/
theorem keeps_string {s rest text : Str} (h : emitString s rest = some text) : Keeps text rest := by
  unfold emitString at h
  split_ifs at h with hAscii
  cases h
  obtain ⟨own, hOwn, hCompact⟩ := compact_escapeOnto hAscii (quotationMark :: rest)
  refine ⟨quotationMark :: (own ++ [quotationMark]), ?_, fun tail => ?_⟩
  · rw [hOwn, List.cons_append, List.append_assoc, List.singleton_append]
  · rw [List.cons_append, List.append_assoc, List.singleton_append, compact]
    change quotationMark :: compact .inside (own ++ quotationMark :: tail) = _
    rw [hCompact, List.cons_append, List.append_assoc, List.singleton_append]
    rfl

theorem keeps_digits (n : Nat) (rest : Str) : Keeps (digits n ++ rest) rest := by
  have digit (d : Nat) (h : d < 10) : isBlank (digitOf d) = false ∧ digitOf d ≠ quotationMark := by
    interval_cases d <;> decide
  induction n using digits.induct generalizing rest with
  | case1 n h =>
      rw [digits, if_pos h]
      exact (Keeps.refl rest).cons _ (digit n h)
  | case2 n h ih =>
      rw [digits, if_neg h, List.append_assoc]
      exact (ih _).trans ((Keeps.refl rest).cons _ (digit _ (Nat.mod_lt _ (by omega))))

/-- A member is kept when its value is. -/
theorem keeps_member {key : Str} {c : UInt16} {first name rest : Str} (hFirst : Keeps first rest)
    (hc : isBlank c = false ∧ c ≠ quotationMark) (hName : emitString key (0x3A :: first) = some name) :
    Keeps (c :: name) rest :=
  Keeps.cons ((keeps_string hName).trans (hFirst.cons _ (by decide))) c hc

mutual

/-- The text of a value has no white space between its tokens. -/
theorem keeps_emit : ∀ (v : Json) {rest text : Str}, emit v rest = some text → Keeps text rest
  | .null, rest, _, h => by
      cases h
      exact ⟨[0x6E, 0x75, 0x6C, 0x6C], rfl, fun _ => rfl⟩
  | .bool true, rest, _, h => by
      cases h
      exact ⟨[0x74, 0x72, 0x75, 0x65], rfl, fun _ => rfl⟩
  | .bool false, rest, _, h => by
      cases h
      exact ⟨[0x66, 0x61, 0x6C, 0x73, 0x65], rfl, fun _ => rfl⟩
  | .int n, rest, _, h => by
      cases h
      unfold emitInt
      split_ifs
      · exact (keeps_digits _ rest).cons _ (by decide)
      · exact keeps_digits _ rest
  | .float _, _, _, h => by cases h
  | .str _, _, _, h => keeps_string h
  | .arr [], rest, _, h => by
      cases h
      exact ((Keeps.refl rest).cons _ (by decide)).cons _ (by decide)
  | .arr (v :: items), _, _, h => by
      obtain ⟨tail, first, hTail, hFirst, rfl⟩ := emit_cons_eq_some h
      exact ((keeps_emit v hFirst).trans (keeps_emitItems items hTail)).cons _ (by decide)
  | .obj [], rest, _, h => by
      cases h
      exact ((Keeps.refl rest).cons _ (by decide)).cons _ (by decide)
  | .obj ((key, v) :: members), _, _, h => by
      obtain ⟨tail, first, name, hTail, hFirst, hName, rfl⟩ := emit_member_eq_some h
      exact keeps_member ((keeps_emit v hFirst).trans (keeps_emitMembers members hTail)) (by decide) hName

theorem keeps_emitItems : ∀ (items : List Json) {rest text : Str},
    emitItems items rest = some text → Keeps text rest
  | [], rest, _, h => by
      cases h
      exact (Keeps.refl rest).cons _ (by decide)
  | v :: items, _, _, h => by
      obtain ⟨tail, first, hTail, hFirst, rfl⟩ := emit_cons_eq_some h
      exact ((keeps_emit v hFirst).trans (keeps_emitItems items hTail)).cons _ (by decide)

theorem keeps_emitMembers : ∀ (members : List (Str × Json)) {rest text : Str},
    emitMembers members rest = some text → Keeps text rest
  | [], rest, _, h => by
      cases h
      exact (Keeps.refl rest).cons _ (by decide)
  | (key, v) :: members, _, _, h => by
      obtain ⟨tail, first, name, hTail, hFirst, hName, rfl⟩ := emit_member_eq_some h
      exact keeps_member ((keeps_emit v hFirst).trans (keeps_emitMembers members hTail)) (by decide) hName

end

/-- Blanks behind the text of a value are all that is dropped. -/
theorem compact_emit {v : Json} {text blanks : Str} (h : emit v [] = some text)
    (hBlanks : blanks.all isBlank = true) : compact .outside (text ++ blanks) = text := by
  obtain ⟨own, rfl, hOwn⟩ := keeps_emit v h
  have hNone := compact_blanks hBlanks []
  rw [List.append_nil] at hNone
  rw [List.append_nil, hOwn, hNone]
  exact List.append_nil own

end Layout

section Values

mutual

/-- No array is longer than a length can say. -/
def fits : Json → Bool
  | .arr items => items.length < 4294967296 && fitsItems items
  | .obj members => fitsMembers members
  | _ => true

def fitsItems : List Json → Bool
  | [] => true
  | v :: rest => fits v && fitsItems rest

def fitsMembers : List (Str × Json) → Bool
  | [] => true
  | (_, v) :: rest => fits v && fitsMembers rest

end

/-- A cloned number is one that a JavaScript value can hold. -/
theorem held_cloneNumber (n : Int) : Held (cloneNumber (.int n) (Double.ofRat n)) := by
  cases hDouble : Double.ofRat n with
  | finite q =>
      rw [cloneNumber]
      split_ifs with hSame
      · rw [Held, hDouble, hSame]
      · trivial
  | _ => trivial

theorem length_cloneItems (items : List Json) : (cloneItems items).length = items.length := by
  rw [TypeScript.cloneItems_eq_map, List.length_map]

mutual

/-- What a number is read as is a double. -/
theorem held_clone : ∀ v : Json, fits v = true → Held (clone v)
  | .null, _ | .bool _, _ | .str _, _ => trivial
  | .int n, _ => held_cloneNumber n
  | .float d, _ => TypeScript.cloneNumber_of (P := Held) (.float d) d trivial trivial fun _ => trivial
  | .arr items, h => by
      rw [fits, Bool.and_eq_true, decide_eq_true_eq] at h
      rw [clone, Held, length_cloneItems]
      exact ⟨h.1, held_cloneItems items h.2⟩
  | .obj members, h => by
      rw [fits] at h
      rw [clone, Held]
      exact held_cloneMembers members h

theorem held_cloneItems : ∀ items : List Json, fitsItems items = true → HeldItems (cloneItems items)
  | [], _ => trivial
  | v :: rest, h => by
      rw [fitsItems, Bool.and_eq_true] at h
      exact ⟨held_clone v h.1, held_cloneItems rest h.2⟩

theorem held_cloneMembers : ∀ members : List (Str × Json), fitsMembers members = true →
    HeldMembers (cloneMembers members)
  | [], _ => trivial
  | (key, v) :: rest, h => by
      rw [fitsMembers, Bool.and_eq_true] at h
      exact ⟨held_clone v h.1, held_cloneMembers rest h.2⟩

end

/-- `JSON.parse` of a text that was laid out: the blanks go, and numbers are
rounded as they are read. -/
def readJsonText (text : Str) : Except Str Json :=
  match parse (compact .outside text) with
  | some v => if fits v then .ok (clone v) else .error "Invalid array length"
  | none => .error notJson

/-- Whatever is read from a text is a value that JavaScript can hold. -/
theorem held_of_readJsonText {text : Str} {v : Json} (h : readJsonText text = .ok v) : Held v := by
  unfold readJsonText at h
  split at h
  · split_ifs at h with hFits
    cases h
    exact held_clone _ hFits
  · cases h

/-- `JSON.stringify` with an indent of two. -/
def writeJsonText (v : Json) : Str := indent 0 false .outside ((emit v []).getD [])

/-- A text that compacts to that of a value is read as a clone of the value. -/
theorem readJsonText_of_compact {v : Json} {text laid : Str} (hText : emit v [] = some text)
    (hCompact : compact .outside laid = text) (hFits : fits v = true) :
    readJsonText laid = .ok (clone v) := by
  rw [readJsonText, hCompact, parse_emit hText]
  simp only [hFits, if_true]

/-- What was laid out is read back, with a line feed behind it. -/
theorem readJsonText_writeJsonText {v : Json} {text : Str} (hText : emit v [] = some text)
    (hFits : fits v = true) : readJsonText (writeJsonText v ++ [0x0A]) = .ok (clone v) := by
  apply readJsonText_of_compact hText _ hFits
  rw [writeJsonText, hText, Option.getD_some, compact_indent, compact_emit hText (by decide)]

end Values

/-- Files by their paths, the one written last in front. -/
abbrev Files := List (Str × Str)

/-- An environment over a table of files, with the reference JSON and no
network. -/
def environment (R : TypeScript.Runtime) (now : Str) : TypeScript.Environment Files where
  runtime := R
  useColor := false
  readFile files path :=
    match files.lookup path with
    | some text => .ok text
    | none => .error (fstring ["ENOENT: no such file or directory, open '", path, "'"])
  writeFile files path text := (.ok (), (path, text) :: files)
  jsonParse := readJsonText
  stringify := writeJsonText
  numberText d := (emit (integral d) []).getD []
  fetchImpl := none
  now := now
  stack e := e

/-- A file that was written is read back under its path. -/
theorem readFile_writeFile (R : TypeScript.Runtime) (now : Str) (files : Files) (path text : Str) :
    (environment R now).readFile ((environment R now).writeFile files path text).2 path = .ok text := by
  simp [environment]

end ArioProof.Reference
