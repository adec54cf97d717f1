import Mathlib.Data.List.Forall2

/-! Lists related entry by entry: the partner of a member on the other side. -/
namespace Foundation

variable {α β : Type*} {r : α → β → Prop} {xs : List α} {ys : List β}

theorem exists_of_mem_left (h : List.Forall₂ r xs ys) {x : α} (hx : x ∈ xs) : ∃ y ∈ ys, r x y := by
  induction h with
  | nil => cases hx
  | cons hHead hTail ih =>
      rcases List.mem_cons.mp hx with rfl | hx
      · exact ⟨_, List.mem_cons_self, hHead⟩
      · obtain ⟨y, hy, hRel⟩ := ih hx
        exact ⟨y, List.mem_cons_of_mem _ hy, hRel⟩

theorem exists_of_mem_right (h : List.Forall₂ r xs ys) {y : β} (hy : y ∈ ys) : ∃ x ∈ xs, r x y :=
  exists_of_mem_left h.flip hy

/-- A relation may be weakened with the members in hand. -/
theorem forall₂_imp_of_mem {s : α → β → Prop} (h : List.Forall₂ r xs ys)
    (himp : ∀ x ∈ xs, ∀ y ∈ ys, r x y → s x y) : List.Forall₂ s xs ys := by
  induction h with
  | nil => exact .nil
  | cons hHead hTail ih =>
      refine .cons (himp _ List.mem_cons_self _ List.mem_cons_self hHead) (ih ?_)
      exact fun x hx y hy => himp x (List.mem_cons_of_mem _ hx) y (List.mem_cons_of_mem _ hy)

/-- Mapped lists that agree stay equal under maps that the agreement determines. -/
theorem map_eq_map_of_map_eq {γ δ : Type*} {f : α → γ} {g : β → γ} {f' : α → δ} {g' : β → δ}
    (h : xs.map f = ys.map g) (himp : ∀ x ∈ xs, ∀ y ∈ ys, f x = g y → f' x = g' y) :
    xs.map f' = ys.map g' := by
  have hRel : List.Forall₂ (fun x y => f x = g y) xs ys := by
    rwa [← List.forall₂_eq_eq_eq, List.forall₂_map_left_iff, List.forall₂_map_right_iff] at h
  rw [← List.forall₂_eq_eq_eq, List.forall₂_map_left_iff, List.forall₂_map_right_iff]
  exact forall₂_imp_of_mem hRel himp

end Foundation
