import Mathlib.Logic.Function.Basic
import Mathlib.Data.List.Induction

/-! Command lines of positional arguments and of options with a value each. The
word after an option is its value, whatever it looks like; of several values the
last one counts. -/
namespace Foundation.CommandLine

variable {α φ : Type*}

/-- The loop over the words: the values given so far and the positional words,
or the option at the end that no value follows. -/
def readWords [DecidableEq φ] (option? : α → Option φ) (given : φ → Option α) :
    List α → Except α ((φ → Option α) × List α)
  | [] => .ok (given, [])
  | word :: rest =>
      match option? word with
      | none => do
          let (given, positional) ← readWords option? given rest
          return (given, word :: positional)
      | some option =>
          match rest with
          | [] => .error word
          | value :: rest => readWords option? (Function.update given option (some value)) rest

/-- What a command line is made of: positional words, and options with the word
that is their value. -/
inductive Argument (α : Type*) where
  | positional (word : α)
  | option (name value : α)

namespace Argument

def words : Argument α → List α
  | positional word => [word]
  | option name value => [name, value]

def positional? : Argument α → Option α
  | positional word => some word
  | option _ _ => none

/-- The value that is given to an option here. -/
def value? [DecidableEq φ] (option? : α → Option φ) (own : φ) : Argument α → Option α
  | positional _ => none
  | option name value => if option? name = some own then some value else none

/-- A positional word is no option, and an option is one. -/
def WellFormed (option? : α → Option φ) : Argument α → Prop
  | positional word => option? word = none
  | option name _ => (option? name).isSome

end Argument

open Argument

def wordsOf (arguments : List (Argument α)) : List α := arguments.flatMap words

def positionals (arguments : List (Argument α)) : List α := arguments.filterMap positional?

variable [DecidableEq φ] {option? : α → Option φ}

/-- The last value that is given to an option. -/
def lastValue (option? : α → Option φ) (arguments : List (Argument α)) (own : φ) : Option α :=
  (arguments.filterMap (value? option? own)).getLast?

theorem lastValue_cons (argument : Argument α) (rest : List (Argument α)) (own : φ) :
    lastValue option? (argument :: rest) own =
      (lastValue option? rest own).or (value? option? own argument) := by
  rw [lastValue, lastValue, List.filterMap_cons]
  cases hValue : value? option? own argument with
  | none => simp
  | some value =>
      rw [List.getLast?_cons]
      cases (rest.filterMap (value? option? own)).getLast? <;> rfl

/-- A well-formed command line is read as what it is made of. -/
theorem readWords_wordsOf {arguments : List (Argument α)}
    (h : ∀ argument ∈ arguments, argument.WellFormed option?) (given : φ → Option α) :
    readWords option? given (wordsOf arguments) =
      .ok (fun own => (lastValue option? arguments own).or (given own), positionals arguments) := by
  induction arguments generalizing given with
  | nil => rfl
  | cons argument rest ih =>
      have hOwn := h argument List.mem_cons_self
      have hRest := ih fun other hOther => h other (List.mem_cons_of_mem _ hOther)
      cases argument with
      | positional word =>
          change readWords option? given (word :: wordsOf rest) = _
          rw [readWords, show option? word = none from hOwn]
          simp only [hRest, bind, Except.bind, pure, Except.pure]
          congr 2
      | option name value =>
          obtain ⟨option, hOption⟩ := Option.isSome_iff_exists.mp hOwn
          change readWords option? given (name :: value :: wordsOf rest) = _
          rw [readWords, hOption]
          simp only [hRest]
          congr 2
          funext own
          rw [lastValue_cons, value?, hOption, Function.update_apply]
          by_cases hSame : own = option
          · subst hSame
            simp
          · simp [hSame, Ne.symm hSame]

/-- The words are those of well-formed arguments, up to an option at their end that
no value follows. -/
structure ReadAs (option? : α → Option φ) (words : List α) (arguments : List (Argument α))
    (unfinished : Option α) : Prop where
  wellFormed : ∀ argument ∈ arguments, argument.WellFormed option?
  isOption : ∀ name, unfinished = some name → (option? name).isSome
  words_eq : words = wordsOf arguments ++ unfinished.toList

namespace ReadAs

omit [DecidableEq φ] in
theorem cons {rest : List α} {arguments : List (Argument α)} {unfinished : Option α}
    (h : ReadAs option? rest arguments unfinished) (argument : Argument α)
    (hOwn : argument.WellFormed option?) :
    ReadAs option? (argument.words ++ rest) (argument :: arguments) unfinished where
  wellFormed other hOther := by
    rcases List.mem_cons.mp hOther with rfl | hOther
    · exact hOwn
    · exact h.wellFormed other hOther
  isOption := h.isOption
  words_eq := by
    rw [h.words_eq, wordsOf, wordsOf, List.flatMap_cons, List.append_assoc]

omit [DecidableEq φ] in
/-- Every list of words can be read, as complete arguments or with an option at
its end that lacks its value. -/
theorem exists_readAs (option? : α → Option φ) (words : List α) :
    ∃ arguments unfinished, ReadAs option? words arguments unfinished := by
  have hEmpty : ReadAs option? [] [] none := ⟨by simp, by simp, rfl⟩
  induction words using List.twoStepInduction with
  | nil => exact ⟨[], none, hEmpty⟩
  | singleton word =>
      cases hOption : option? word with
      | none => exact ⟨_, _, hEmpty.cons (.positional word) hOption⟩
      | some option =>
          exact ⟨[], some word, by simp,
            fun name hName => by simp [← Option.some.inj hName, hOption], rfl⟩
  | cons_cons word value rest ihRest ihTail =>
      cases hOption : option? word with
      | none =>
          obtain ⟨arguments, unfinished, h⟩ := ihTail value
          exact ⟨_, _, h.cons (.positional word) hOption⟩
      | some option =>
          obtain ⟨arguments, unfinished, h⟩ := ihRest
          exact ⟨_, _, h.cons (.option word value) (by simp [WellFormed, hOption])⟩

omit [DecidableEq φ] in
/-- The first word tells what it begins: a positional word, or an option with the
word behind it. -/
theorem of_cons {word : α} {rest : List α} {arguments : List (Argument α)} {unfinished : Option α}
    (h : ReadAs option? (word :: rest) arguments unfinished) :
    (option? word = none ∧ ∃ more, arguments = .positional word :: more ∧
      ReadAs option? rest more unfinished) ∨
    ((option? word).isSome ∧ rest = [] ∧ arguments = [] ∧ unfinished = some word) ∨
    ((option? word).isSome ∧ ∃ value tail more, rest = value :: tail ∧
      arguments = .option word value :: more ∧ ReadAs option? tail more unfinished) := by
  cases arguments with
  | nil =>
      cases hLeft : unfinished with
      | none => simpa [hLeft, wordsOf] using h.words_eq
      | some name =>
          obtain ⟨rfl, rfl⟩ : word = name ∧ rest = [] := by simpa [hLeft, wordsOf] using h.words_eq
          exact Or.inr (Or.inl ⟨h.isOption word hLeft, rfl, rfl, rfl⟩)
  | cons argument more =>
      have hOwn := h.wellFormed argument List.mem_cons_self
      have hRest := fun other hOther => h.wellFormed other (List.mem_cons_of_mem argument hOther)
      cases argument with
      | positional own =>
          obtain ⟨rfl, hWords⟩ : word = own ∧ rest = wordsOf more ++ unfinished.toList := by
            simpa [wordsOf, Argument.words] using h.words_eq
          exact Or.inl ⟨hOwn, more, rfl, hRest, h.isOption, hWords⟩
      | option name value =>
          obtain ⟨rfl, hWords⟩ :
              word = name ∧ rest = value :: (wordsOf more ++ unfinished.toList) := by
            simpa [wordsOf, Argument.words] using h.words_eq
          exact Or.inr (Or.inr ⟨hOwn, value, _, more, hWords, rfl, hRest, h.isOption, rfl⟩)

omit [DecidableEq φ] in
/-- There is one reading only: each word decides what it begins, so that two
readings cannot part anywhere. -/
theorem unique {words : List α} {first second : List (Argument α)} {unfinished left : Option α}
    (h : ReadAs option? words first unfinished) (h' : ReadAs option? words second left) :
    second = first ∧ left = unfinished := by
  induction hLength : words.length using Nat.strongRecOn generalizing words first second with
  | ind length ih =>
      cases words with
      | nil =>
          have empty {arguments : List (Argument α)} {last : Option α}
              (hRead : ReadAs option? [] arguments last) : arguments = [] ∧ last = none := by
            have hWords := hRead.words_eq
            cases arguments with
            | nil =>
                cases last with
                | none => exact ⟨rfl, rfl⟩
                | some name => simp [wordsOf] at hWords
            | cons argument more => cases argument <;> simp [wordsOf, Argument.words] at hWords
          obtain ⟨rfl, rfl⟩ := empty h
          exact empty h'
      | cons word rest =>
          rcases h.of_cons with ⟨hNone, more, rfl, hRest⟩ | ⟨hSome, rfl, rfl, rfl⟩ |
            ⟨hSome, value, tail, more, rfl, rfl, hRest⟩
          · rcases h'.of_cons with ⟨-, others, rfl, hOthers⟩ | ⟨hSome, -⟩ | ⟨hSome, -⟩
            · obtain ⟨rfl, rfl⟩ := ih rest.length (by rw [← hLength, List.length_cons]; omega) hRest hOthers rfl
              exact ⟨rfl, rfl⟩
            · simp [hNone] at hSome
            · simp [hNone] at hSome
          · rcases h'.of_cons with ⟨hNone, -⟩ | ⟨-, -, rfl, rfl⟩ | ⟨-, value, tail, more, hWords, -⟩
            · simp [hNone] at hSome
            · exact ⟨rfl, rfl⟩
            · cases hWords
          · rcases h'.of_cons with ⟨hNone, -⟩ | ⟨-, hWords, -⟩ |
              ⟨-, own, others, list, hWords, rfl, hOthers⟩
            · simp [hNone] at hSome
            · cases hWords
            · obtain ⟨rfl, rfl⟩ := List.cons.inj hWords
              obtain ⟨rfl, rfl⟩ := ih tail.length (by rw [← hLength, List.length_cons, List.length_cons]; omega) hRest hOthers rfl
              exact ⟨rfl, rfl⟩

end ReadAs

/-- An option at the end that no value follows is the one error. -/
theorem readWords_unfinished {arguments : List (Argument α)}
    (h : ∀ argument ∈ arguments, argument.WellFormed option?) {name : α}
    (hName : (option? name).isSome) (given : φ → Option α) :
    readWords option? given (wordsOf arguments ++ [name]) = .error name := by
  induction arguments generalizing given with
  | nil =>
      obtain ⟨option, hOption⟩ := Option.isSome_iff_exists.mp hName
      change readWords option? given [name] = _
      rw [readWords, hOption]
  | cons argument rest ih =>
      have hOwn := h argument List.mem_cons_self
      have hRest := ih fun other hOther => h other (List.mem_cons_of_mem _ hOther)
      cases argument with
      | positional word =>
          change readWords option? given (word :: (wordsOf rest ++ [name])) = _
          rw [readWords, show option? word = none from hOwn]
          simp only [hRest]
          rfl
      | option own value =>
          obtain ⟨option, hOption⟩ := Option.isSome_iff_exists.mp hOwn
          change readWords option? given (own :: value :: (wordsOf rest ++ [name])) = _
          rw [readWords, hOption]
          exact hRest _

end Foundation.CommandLine
