import Mathlib.Data.List.Basic

/-! Sources that approve, object or abstain. Asking them in turn takes the first
opinion; weighing them takes the worst. The two are the same, in every order,
exactly when the opinions agree. -/
namespace Foundation

variable {α : Type} (opinion : α → Option Bool)

/-- An objection outweighs every approval, and an approval outweighs silence. -/
def worstOpinion (sources : List α) : Option Bool :=
  if sources.any (opinion · = some false) then some false
  else if sources.any (opinion · = some true) then some true
  else none

/-- No source objects to what another one approves. -/
def Agree (sources : List α) : Prop :=
  ¬((∃ a ∈ sources, opinion a = some true) ∧ ∃ a ∈ sources, opinion a = some false)

variable {opinion}

theorem worstOpinion_eq_false_iff {sources : List α} :
    worstOpinion opinion sources = some false ↔ ∃ a ∈ sources, opinion a = some false := by
  unfold worstOpinion
  simp only [List.any_eq_true, decide_eq_true_eq]
  split_ifs with hNo hYes
  · exact iff_of_true rfl hNo
  · exact iff_of_false (by simp) hNo
  · exact iff_of_false (by simp) hNo

theorem worstOpinion_eq_true_iff {sources : List α} :
    worstOpinion opinion sources = some true ↔
      (∃ a ∈ sources, opinion a = some true) ∧ ¬∃ a ∈ sources, opinion a = some false := by
  unfold worstOpinion
  simp only [List.any_eq_true, decide_eq_true_eq]
  split_ifs with hNo hYes
  · simp [hNo]
  · exact iff_of_true rfl ⟨hYes, hNo⟩
  · simp [hYes]

theorem worstOpinion_eq_none_iff {sources : List α} :
    worstOpinion opinion sources = none ↔ ∀ a ∈ sources, opinion a = none := by
  unfold worstOpinion
  simp only [List.any_eq_true, decide_eq_true_eq]
  split_ifs with hNo hYes
  · obtain ⟨a, ha, hOpinion⟩ := hNo
    exact iff_of_false (by simp) fun hNone => by simp [hNone a ha] at hOpinion
  · obtain ⟨a, ha, hOpinion⟩ := hYes
    exact iff_of_false (by simp) fun hNone => by simp [hNone a ha] at hOpinion
  · refine iff_of_true rfl fun a ha => ?_
    cases hOpinion : opinion a with
    | none => rfl
    | some verdict =>
        cases verdict with
        | true => exact (hYes ⟨a, ha, hOpinion⟩).elim
        | false => exact (hNo ⟨a, ha, hOpinion⟩).elim

/-- Neither the order nor the number of times a source is asked matters. -/
theorem worstOpinion_congr {sources others : List α} (h : ∀ a, a ∈ others ↔ a ∈ sources) :
    worstOpinion opinion others = worstOpinion opinion sources := by
  have hAny : ∀ p : α → Bool, others.any p = sources.any p := fun p => by
    rw [Bool.eq_iff_iff, List.any_eq_true, List.any_eq_true]
    simp only [h]
  simp only [worstOpinion, hAny]

/-- Where the opinions agree, the first one is the worst one. -/
theorem Agree.findSome?_eq {sources : List α} (hAgree : Agree opinion sources) :
    sources.findSome? opinion = worstOpinion opinion sources := by
  cases hFirst : sources.findSome? opinion with
  | none => exact (worstOpinion_eq_none_iff.mpr (List.findSome?_eq_none_iff.mp hFirst)).symm
  | some verdict =>
      obtain ⟨a, ha, hOpinion⟩ := List.exists_of_findSome?_eq_some hFirst
      cases verdict with
      | true =>
          exact (worstOpinion_eq_true_iff.mpr
            ⟨⟨a, ha, hOpinion⟩, fun hNo => hAgree ⟨⟨a, ha, hOpinion⟩, hNo⟩⟩).symm
      | false => exact (worstOpinion_eq_false_iff.mpr ⟨a, ha, hOpinion⟩).symm

/-- Where they do not, asking an approving source first hides an objection. -/
theorem agree_of_first {sources : List α}
    (h : ∀ others : List α, (∀ a, a ∈ others ↔ a ∈ sources) → ∀ verdict,
      others.findSome? opinion = some verdict → worstOpinion opinion sources = some verdict) :
    Agree opinion sources := by
  rintro ⟨⟨yes, hYes, hApproves⟩, hNo⟩
  have hSame : ∀ a, a ∈ yes :: sources ↔ a ∈ sources := fun a => by
    rw [List.mem_cons]
    exact or_iff_right_of_imp fun hEq => hEq ▸ hYes
  have hFirst := h (yes :: sources) hSame true (by rw [List.findSome?_cons, hApproves])
  rw [worstOpinion_eq_false_iff.mpr hNo] at hFirst
  cases hFirst

end Foundation
