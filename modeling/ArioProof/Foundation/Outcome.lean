import ArioProof.Foundation.Pointwise

/-! How computations end: with a value or an exception, and after finitely many
turns of a loop. What was returned came through every step. -/
namespace Foundation

universe u v

variable {ε : Type u} {α β : Type v}

theorem bind_eq_ok {x : Except ε α} {f : α → Except ε β} {b : β} :
    x >>= f = .ok b ↔ ∃ a, x = .ok a ∧ f a = .ok b := by
  cases x with
  | error exc => simp [bind, Except.bind]
  | ok a => simp [bind, Except.bind]

theorem ok_bind (a : α) (f : α → Except ε β) : (Except.ok a >>= f) = f a := rfl

theorem error_bind (exc : ε) (f : α → Except ε β) : (Except.error exc >>= f) = .error exc := rfl

theorem mapError_eq_ok {δ : Type u} {x : Except ε α} {f : ε → δ} {a : α} :
    x.mapError f = .ok a ↔ x = .ok a := by
  cases x <;> simp [Except.mapError]

theorem map_eq_ok {x : Except ε α} {f : α → β} {b : β} :
    x.map f = .ok b ↔ ∃ a, x = .ok a ∧ f a = b := by
  cases x <;> simp [Except.map]

theorem toOption_eq_some {x : Except ε α} {a : α} : x.toOption = some a ↔ x = .ok a := by
  cases x with
  | error exc => simp [Except.toOption]
  | ok b => simp [Except.toOption]

/-- A map that completed did so on every element, with its results in their
order. -/
theorem forall₂_of_mapM_eq_ok {γ δ : Type} {exc : Type} {f : γ → Except exc δ} {xs : List γ}
    {ys : List δ} (h : xs.mapM f = .ok ys) : List.Forall₂ (fun x y => f x = .ok y) xs ys := by
  induction xs generalizing ys with
  | nil =>
      cases h
      exact .nil
  | cons head rest ih =>
      rw [List.mapM_cons] at h
      obtain ⟨y, hHead, h⟩ := bind_eq_ok.mp h
      obtain ⟨more, hRest, h⟩ := bind_eq_ok.mp h
      cases h
      exact .cons hHead (ih hRest)

theorem exists_of_mapM_eq_ok {γ δ : Type} {exc : Type} {f : γ → Except exc δ} {xs : List γ}
    {ys : List δ} (h : xs.mapM f = .ok ys) {x : γ} (hx : x ∈ xs) : ∃ y ∈ ys, f x = .ok y :=
  exists_of_mem_left (forall₂_of_mapM_eq_ok h) hx

theorem getElem?_of_mapM_eq_ok {γ δ : Type} {exc : Type} {f : γ → Except exc δ} {xs : List γ}
    {ys : List δ} (h : xs.mapM f = .ok ys) {i : Nat} {x : γ} (hx : xs[i]? = some x) :
    ∃ y, ys[i]? = some y ∧ f x = .ok y := by
  obtain ⟨hLength, hEach⟩ := List.forall₂_iff_get.mp (forall₂_of_mapM_eq_ok h)
  obtain ⟨hi, rfl⟩ := List.getElem?_eq_some_iff.mp hx
  have hi' : i < ys.length := hLength ▸ hi
  exact ⟨ys[i], List.getElem?_eq_getElem hi', hEach i hi hi'⟩

/-- A map that may raise ends where a map that may fail does. -/
theorem mapM_eq_ok_iff {γ δ exc : Type} {f : γ → Except exc δ} {g : γ → Option δ}
    (h : ∀ x y, f x = .ok y ↔ g x = some y) {xs : List γ} {ys : List δ} :
    xs.mapM f = .ok ys ↔ xs.mapM g = some ys := by
  induction xs generalizing ys with
  | nil => simp [pure, Except.pure]
  | cons head rest ih =>
      simp only [List.mapM_cons, bind_eq_ok, Option.bind_eq_bind, Option.bind_eq_some_iff, h, ih,
        pure, Except.pure, Except.ok.injEq, Option.some.injEq]

/-- A loop that is entered in a state is left after finitely many turns; `step`
is one turn, absent where the loop is left. -/
def Terminates (step : α → Option α) (start : α) : Prop :=
  Acc (fun after before => step before = some after) start

/-- A loop that is entered in one state is left in another. -/
inductive EndsIn (step : α → Option α) : α → α → Prop where
  | leave {state : α} (h : step state = none) : EndsIn step state state
  | turn {state next last : α} (h : step state = some next) (rest : EndsIn step next last) :
      EndsIn step state last

/-- Turns follow each other in one way only, so a loop that is left terminates. -/
theorem EndsIn.terminates {step : α → Option α} {start last : α} (h : EndsIn step start last) :
    Terminates step start := by
  induction h with
  | leave hNone =>
      refine ⟨_, fun after hStep => ?_⟩
      rw [hNone] at hStep
      cases hStep
  | turn hNext _ ih =>
      refine ⟨_, fun after hStep => ?_⟩
      rw [hNext] at hStep
      cases hStep
      exact ih

end Foundation
