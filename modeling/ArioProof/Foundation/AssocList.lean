import Mathlib.Data.List.Nodup
import Mathlib.Data.List.Perm.Basic

/-! Association lists. The first entry under a key counts; where no key occurs
twice, the entries are determined by what lookups find. -/
namespace Foundation.AssocList

variable {α β γ : Type*}

/-- Where no key occurs twice, two searches find the same key exactly if they
decide alike about every entry up to the first that one of them finds. -/
theorem find?_agree_iff {entries : List (α × β)} (hNodup : (entries.map Prod.fst).Nodup)
    {p q : α × β → Bool} :
    (entries.find? p).map Prod.fst = (entries.find? q).map Prod.fst ↔
      ∀ before entry after, entries = before ++ entry :: after →
        (∀ other ∈ before, p other = false) → p entry = q entry := by
  induction entries with
  | nil => simp
  | cons first rest ih =>
      rw [List.map_cons, List.nodup_cons] at hNodup
      -- Whoever finds the first entry finds a key that the rest does not have.
      have hAbsent : ∀ r : α × β → Bool, (rest.find? r).map Prod.fst ≠ some first.1 := by
        intro r hFound
        obtain ⟨other, hOther, hKey⟩ := Option.map_eq_some_iff.mp hFound
        exact hNodup.1 (hKey ▸ List.mem_map_of_mem (List.mem_of_find?_eq_some hOther))
      cases hp : p first with
      | true =>
          cases hq : q first with
          | true =>
              refine iff_of_true (by simp [hp, hq]) ?_
              rintro (_ | ⟨other, before⟩) entry after hSplit hBefore
              · obtain ⟨rfl, -⟩ := List.cons.inj hSplit
                rw [hp, hq]
              · obtain ⟨rfl, -⟩ := List.cons.inj hSplit
                simp [hp] at hBefore
          | false =>
              refine iff_of_false ?_ fun h => ?_
              · simpa [hp, hq] using (hAbsent q).symm
              · have hSame := h [] first rest rfl (by simp)
                rw [hp, hq] at hSame
                cases hSame
      | false =>
          cases hq : q first with
          | true =>
              refine iff_of_false ?_ fun h => ?_
              · simpa [hp, hq] using hAbsent p
              · have hSame := h [] first rest rfl (by simp)
                rw [hp, hq] at hSame
                cases hSame
          | false =>
              rw [List.find?_cons, List.find?_cons, hp, hq, ih hNodup.2]
              constructor
              · rintro h (_ | ⟨other, before⟩) entry after hSplit hBefore
                · obtain ⟨rfl, -⟩ := List.cons.inj hSplit
                  rw [hp, hq]
                · obtain ⟨rfl, hRest⟩ := List.cons.inj hSplit
                  exact h before entry after hRest fun o ho =>
                    hBefore o (List.mem_cons_of_mem _ ho)
              · rintro h before entry after rfl hBefore
                refine h (first :: before) entry after rfl ?_
                rintro other (_ | ⟨_, hOther⟩)
                · exact hp
                · exact hBefore other hOther

variable [BEq α]

theorem lookup_map (f : β → γ) (entries : List (α × β)) (key : α) :
    (entries.map fun entry => (entry.1, f entry.2)).lookup key = (entries.lookup key).map f := by
  induction entries with
  | nil => rfl
  | cons entry rest ih =>
      rw [List.map_cons, List.lookup_cons, List.lookup_cons]
      split
      · rfl
      · exact ih

variable [LawfulBEq α]

/-- A filter on keys hides the keys it drops. -/
theorem lookup_filter (keep : α → Bool) (entries : List (α × β)) (key : α) :
    (entries.filter fun entry => keep entry.1).lookup key =
      if keep key then entries.lookup key else none := by
  induction entries with
  | nil => simp
  | cons entry rest ih =>
      obtain ⟨name, value⟩ := entry
      rw [List.filter_cons]
      by_cases hKey : key = name
      · subst hKey
        cases hKeep : keep key with
        | true => simp
        | false => simp [ih, hKeep]
      · have hOther : (key == name) = false := beq_eq_false_iff_ne.mpr hKey
        cases hKeep : keep name <;> simp [List.lookup_cons, hOther, ih]

/-- Where no key occurs twice, every entry is found. -/
theorem mem_iff_lookup {entries : List (α × β)} (hNodup : (entries.map Prod.fst).Nodup) {key : α}
    {value : β} : (key, value) ∈ entries ↔ entries.lookup key = some value := by
  induction entries with
  | nil => simp
  | cons entry rest ih =>
      rw [List.map_cons, List.nodup_cons] at hNodup
      rw [List.mem_cons, List.lookup_cons, ih hNodup.2]
      by_cases hKey : key = entry.1
      · subst hKey
        have hAbsent : rest.lookup entry.1 = none := by
          apply List.lookup_eq_none_iff.mpr
          intro other hOther
          simp only [bne_iff_ne, ne_eq]
          intro hSame
          exact hNodup.1 (hSame ▸ List.mem_map_of_mem hOther)
        rw [hAbsent]
        simp [Prod.ext_iff, eq_comm]
      · have hOther : (key == entry.1) = false := beq_eq_false_iff_ne.mpr hKey
        simp [hOther, Prod.ext_iff, hKey]

/-- Lists without repeated keys that look the same hold the same entries. -/
theorem perm_of_lookup_eq {first second : List (α × β)} (hFirst : (first.map Prod.fst).Nodup)
    (hSecond : (second.map Prod.fst).Nodup)
    (h : ∀ key, first.lookup key = second.lookup key) : first.Perm second := by
  apply (List.perm_ext_iff_of_nodup hFirst.of_map hSecond.of_map).mpr
  rintro ⟨key, value⟩
  rw [mem_iff_lookup hFirst, mem_iff_lookup hSecond, h]

/-- Ordered by keys none of which occurs twice, the same entries stand in the
same places. -/
theorem eq_of_perm_of_pairwise {le : α → α → Prop} (hAntisymm : ∀ a b, le a b → le b a → a = b)
    {first second : List (α × β)} (hKeys : (first.map Prod.fst).Nodup)
    (hFirst : first.Pairwise fun a b => le a.1 b.1)
    (hSecond : second.Pairwise fun a b => le a.1 b.1) (h : first.Perm second) : first = second := by
  refine List.Perm.eq_of_pairwise (fun a b ha hb hab hba => ?_) hFirst hSecond h
  have hSame := hAntisymm _ _ hab hba
  have hMem : b ∈ first := h.symm.subset hb
  have hFound : first.lookup a.1 = some a.2 := (mem_iff_lookup hKeys).mp ha
  have hAgain : first.lookup b.1 = some b.2 := (mem_iff_lookup hKeys).mp hMem
  rw [← hSame, hFound] at hAgain
  exact Prod.ext hSame (Option.some.inj hAgain)

end Foundation.AssocList
