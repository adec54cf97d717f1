import Mathlib.Order.Basic

/-! Functions that call themselves on smaller arguments only. A body written
with a parameter for its own recursive calls is closed by counting nesting. -/
namespace Foundation.Nesting

variable {α β : Type*} (size : α → Nat) (body : (α → β) → α → β) (bottom : α → β)

/-- The body with calls nested up to a bound, and `bottom` beyond. -/
def upTo : Nat → α → β
  | 0 => bottom
  | bound + 1 => body (upTo bound)

/-- The closed function: no argument nests its calls deeper than its size. -/
def close (x : α) : β := upTo body bottom (size x + 1) x

variable {size body bottom}

theorem upTo_stable
    (hBody : ∀ x f g, (∀ y, size y < size x → f y = g y) → body f x = body g x) (x : α)
    (first second : Nat) (hFirst : size x < first) (hSecond : size x < second) :
    upTo body bottom first x = upTo body bottom second x := by
  induction first generalizing x second with
  | zero => omega
  | succ first ih =>
      obtain ⟨second, rfl⟩ : ∃ n, second = n + 1 := ⟨second - 1, by omega⟩
      exact hBody x _ _ fun y hy => ih y second (by omega) (by omega)

/-- A body that only looks at smaller arguments is satisfied by its closure. -/
theorem close_eq
    (hBody : ∀ x f g, (∀ y, size y < size x → f y = g y) → body f x = body g x) (x : α) :
    close size body bottom x = body (close size body bottom) x :=
  hBody x _ _ fun y hy => upTo_stable hBody y _ _ hy (Nat.lt_succ_self _)

end Foundation.Nesting
