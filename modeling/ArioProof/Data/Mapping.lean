import ArioProof.Data.Depth
import ArioProof.Foundation.AssocList

/-! Objects as mappings: assignment to a member, and the members under some of
the keys. -/
namespace ArioProof

open Foundation

/-- `v[key] = value` on a mapping: the member is replaced where there is one, and
else added at the end. -/
def Json.set (v : Json) (key : String) (value : Json) : Json :=
  match v with
  | .obj members =>
      .obj (if (members.lookup (utf16 key)).isSome then
        members.map fun entry => if entry.1 = utf16 key then (entry.1, value) else entry
      else members ++ [(utf16 key, value)])
  | v => v

/-- Replacing the values under one key is seen under that key only. -/
theorem lookup_replace (key other : Str) (value : Json) (members : List (Str × Json)) :
    (members.map fun entry => if entry.1 = key then (entry.1, value) else entry).lookup other =
      if other = key then (members.lookup key).map fun _ => value else members.lookup other := by
  induction members with
  | nil => simp
  | cons entry rest ih =>
      obtain ⟨name, old⟩ := entry
      rw [List.map_cons]
      by_cases hName : name = key
      · subst hName
        by_cases hOther : other = name
        · subst hOther
          simp
        · have hNe : (other == name) = false := by simpa using hOther
          simp only [if_true, List.lookup_cons, hNe, ih, hOther, if_false]
      · have hKey : (key == name) = false := by simpa using fun h => hName h.symm
        simp only [hName, if_false, List.lookup_cons, hKey, ih]
        split
        · rename_i hSame
          rw [beq_iff_eq] at hSame
          rw [if_neg (hSame ▸ hName)]
        · rfl

/-- The assigned member is read back, whether it was there before or not. -/
theorem Json.get?_set {v : Json} (h : v.isObj = true) (key : String) (value : Json) :
    (v.set key value).get? key = some value := by
  cases v with
  | obj members =>
      simp only [Json.set, Json.get?]
      cases hOld : members.lookup (utf16 key) with
      | none => simp [List.lookup_append, hOld]
      | some old => simp [lookup_replace, hOld]
  | _ => simp [Json.isObj] at h

/-- An assignment leaves the other members alone, wherever they stand. -/
theorem Json.member?_set_of_ne {key : String} {other : Str} (h : other ≠ utf16 key)
    (v value : Json) : (v.set key value).member? other = v.member? other := by
  have hNe : (other == utf16 key) = false := by simpa using h
  cases v with
  | obj members =>
      simp only [Json.set, Json.member?]
      split
      · rw [lookup_replace, if_neg h]
      · rw [List.lookup_append, List.lookup_cons, hNe]
        simp
  | _ => rfl

theorem Json.get?_set_of_ne {key other : String} (h : other ≠ key) (v value : Json) :
    (v.set key value).get? other = v.get? other := by
  rw [get?_eq_member?, get?_eq_member?, member?_set_of_ne (by simpa using h)]

/-- What is in a mapping after an assignment was there or is assigned. -/
theorem Json.set_obj (members : List (Str × Json)) (key : String) (value : Json) :
    ∃ after, (obj members).set key value = obj after ∧
      ∀ entry ∈ after, entry ∈ members ∨ entry = (utf16 key, value) := by
  refine ⟨_, rfl, fun entry hEntry => ?_⟩
  split at hEntry
  · obtain ⟨old, hOld, rfl⟩ := List.mem_map.mp hEntry
    split
    · rename_i hKey
      exact Or.inr (by rw [hKey])
    · exact Or.inl hOld
  · simpa using hEntry

@[simp] theorem Json.isObj_set (v : Json) (key : String) (value : Json) :
    (v.set key value).isObj = v.isObj := by
  cases v <;> rfl

/-- The members whose keys are kept, in their order; what is no mapping stays as
it is. -/
def Json.restrict (keep : Str → Bool) : Json → Json
  | .obj members => .obj (members.filter fun entry => keep entry.1)
  | v => v

theorem Json.member?_restrict (keep : Str → Bool) (v : Json) (key : Str) :
    (v.restrict keep).member? key = if keep key then v.member? key else none := by
  cases v with
  | obj members => exact AssocList.lookup_filter keep members key
  | _ => simp [restrict, member?]

theorem Json.restrict_restrict (keep again : Str → Bool) (v : Json) :
    (v.restrict keep).restrict again = v.restrict fun key => again key && keep key := by
  cases v with
  | obj members => simp [restrict, List.filter_filter]
  | _ => rfl

/-- An assignment to a key that is kept is made before or after the rest is
dropped. -/
theorem Json.restrict_set_of_keep {keep : Str → Bool} {key : String}
    (h : keep (utf16 key) = true) (v value : Json) :
    (v.set key value).restrict keep = (v.restrict keep).set key value := by
  cases v with
  | obj members =>
      have hLookup : (members.filter fun entry => keep entry.1).lookup (utf16 key) =
          members.lookup (utf16 key) := by
        rw [AssocList.lookup_filter, if_pos h]
      have hKey (entry : Str × Json) :
          keep (if entry.1 = utf16 key then (entry.1, value) else entry).1 = keep entry.1 := by
        split <;> rfl
      simp only [set, restrict, hLookup]
      split
      · rw [List.filter_map]
        congr 3
        funext entry
        exact hKey entry
      · simp [List.filter_append, h]
  | _ => rfl

/-- An assignment to a key that is dropped does not show. -/
theorem Json.restrict_set {keep : Str → Bool} {key : String} (h : keep (utf16 key) = false)
    (v value : Json) : (v.set key value).restrict keep = v.restrict keep := by
  have replace (members : List (Str × Json)) :
      (members.map fun entry => if entry.1 = utf16 key then (entry.1, value) else entry).filter
        (fun entry => keep entry.1) = members.filter fun entry => keep entry.1 := by
    induction members with
    | nil => rfl
    | cons entry rest ih =>
        by_cases hName : entry.1 = utf16 key
        · simp [hName, h, ih]
        · simp [List.filter_cons, hName, ih]
  cases v with
  | obj members =>
      simp only [set, restrict]
      split
      · rw [replace]
      · simp [List.filter_append, h]
  | _ => rfl

section Depth

theorem Json.depth_restrict_le (v : Json) (keep : Str → Bool) : (v.restrict keep).depth ≤ v.depth := by
  cases v with
  | obj members =>
      change (Json.obj _).depth ≤ depthMembers members + 1
      apply depth_obj_le_iff.mpr
      intro entry hEntry
      exact depth_le_depthMembers (List.mem_of_mem_filter hEntry)
  | _ => exact le_rfl

theorem Json.depth_set_le {v value : Json} {key : String} {bound : Nat} (h : v.depth ≤ bound)
    (hValue : value.depth < bound) : (v.set key value).depth ≤ bound := by
  obtain ⟨bound, rfl⟩ : ∃ less, bound = less + 1 := ⟨bound - 1, by omega⟩
  cases v with
  | obj members =>
      obtain ⟨after, hAfter, hEntries⟩ := Json.set_obj members key value
      rw [hAfter]
      apply depth_obj_le_iff.mpr
      intro entry hEntry
      rcases hEntries entry hEntry with hOld | rfl
      · exact depth_obj_le_iff.mp h entry hOld
      · exact Nat.lt_succ_iff.mp hValue
  | _ => exact h

end Depth
end ArioProof
