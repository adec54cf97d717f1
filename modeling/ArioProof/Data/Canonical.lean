import ArioProof.Data.Depth
import ArioProof.Data.Evidence
import ArioProof.Foundation.AssocList
import Mathlib.Data.List.Sort

/-! What canonicalization keeps of a value. Canonical bytes do not show the
order of members, nor whether a number was written as an integer, so values are
compared in a normal form without either. -/
namespace ArioProof

open Foundation

/-- Members by key, in the order of code units. Sorting is stable, so the first
entry under a key stays the first. -/
def sortMembers (members : List (Str × Json)) : List (Str × Json) :=
  members.insertionSort fun a b => a.1 ≤ b.1

mutual

/-- Sorted members, and every number as the double it denotes. The canonicalizer
does not tell apart two values with one normal form. -/
def Json.norm : Json → Json
  | .int n => .float (Double.ofRat n)
  | .arr items => .arr (normItems items)
  | .obj members => .obj (sortMembers (normMembers members))
  | v => v

def normItems : List Json → List Json
  | [] => []
  | v :: rest => v.norm :: normItems rest

def normMembers : List (Str × Json) → List (Str × Json)
  | [] => []
  | (key, v) :: rest => (key, v.norm) :: normMembers rest

end

theorem normItems_eq_map (items : List Json) : normItems items = items.map Json.norm := by
  induction items with
  | nil => rfl
  | cons v rest ih => simp [normItems, ih]

theorem normMembers_eq_map (members : List (Str × Json)) :
    normMembers members = members.map fun entry => (entry.1, entry.2.norm) := by
  induction members with
  | nil => rfl
  | cons entry rest ih => simp [normMembers, ih]

/-- Numbers are rounded and members sorted inside the entries; their order is
kept. -/
@[simp] theorem Json.norm_arr (items : List Json) : (arr items).norm = .arr (items.map norm) := by
  rw [norm, normItems_eq_map]

/-- Members are sorted by their keys, once the values are in normal form. -/
@[simp] theorem Json.norm_obj (members : List (Str × Json)) : (obj members).norm =
    .obj (sortMembers (members.map fun entry => (entry.1, entry.2.norm))) := by
  rw [norm, normMembers_eq_map]

@[simp] theorem Json.norm_null : null.norm = .null := rfl

@[simp] theorem Json.norm_bool (value : Bool) : (bool value).norm = .bool value := rfl

@[simp] theorem Json.norm_str (s : Str) : (str s).norm = .str s := rfl

/-- Sorting looks at keys alone, so values may be mapped before or after it. -/
theorem sortMembers_map (f : Json → Json) (members : List (Str × Json)) :
    sortMembers (members.map fun entry => (entry.1, f entry.2)) =
      (sortMembers members).map fun entry => (entry.1, f entry.2) :=
  (List.map_insertionSort _ _ (fun entry : Str × Json => (entry.1, f entry.2)) members
    fun _ _ _ _ => Iff.rfl).symm

/-- Sorted members stay where they are. -/
theorem sortMembers_sortMembers (members : List (Str × Json)) :
    sortMembers (sortMembers members) = sortMembers members := by
  have : Std.Total fun a b : Str × Json => a.1 ≤ b.1 := ⟨fun a b => List.le_total a.1 b.1⟩
  have : IsTrans (Str × Json) fun a b => a.1 ≤ b.1 := ⟨fun _ _ _ => List.le_trans⟩
  exact List.Pairwise.insertionSort_eq (List.pairwise_insertionSort _ members)

/-- Sorting keeps every member, and adds none. -/
theorem mem_sortMembers {entry : Str × Json} {members : List (Str × Json)} :
    entry ∈ sortMembers members ↔ entry ∈ members :=
  List.mem_insertionSort _

/-- A search finds an inserted member as if it stood in front, since it comes
before every other one of its key. -/
theorem lookup_orderedInsert (key : Str) (entry : Str × Json) (members : List (Str × Json)) :
    (members.orderedInsert (fun a b => a.1 ≤ b.1) entry).lookup key =
      (entry :: members).lookup key := by
  induction members with
  | nil => rfl
  | cons head rest ih =>
      rw [List.orderedInsert_cons]
      split_ifs with hLe
      · rfl
      · -- The new entry passes an entry with a smaller key, hence another one.
        have hNe : head.1 ≠ entry.1 := fun h => hLe (h ▸ List.le_refl _)
        rw [List.lookup_cons, ih, List.lookup_cons, List.lookup_cons, List.lookup_cons]
        by_cases hKey : key = head.1
        · subst hKey
          have hOther : (head.1 == entry.1) = false := by simpa using hNe
          simp [hOther]
        · have hOther : (key == head.1) = false := by simpa using hKey
          simp [hOther]

/-- Sorting is stable, so a search finds the same member in an object with
duplicate keys too. -/
theorem lookup_sortMembers (key : Str) (members : List (Str × Json)) :
    (sortMembers members).lookup key = members.lookup key := by
  unfold sortMembers
  induction members with
  | nil => rfl
  | cons entry rest ih =>
      rw [List.insertionSort_cons, lookup_orderedInsert, List.lookup_cons, List.lookup_cons, ih]

/-- Members are read through the normal form: sorting does not move one behind
another of its key. -/
theorem Json.member?_norm (v : Json) (key : Str) :
    v.norm.member? key = (v.member? key).map norm := by
  cases v with
  | obj members =>
      rw [norm_obj]
      simp only [member?, lookup_sortMembers]
      exact AssocList.lookup_map norm members key
  | _ => rfl

/-- A normal form has the same members, each in normal form. -/
theorem Json.get?_norm (v : Json) (key : String) : v.norm.get? key = (v.get? key).map norm := by
  rw [get?_eq_member?, get?_eq_member?, member?_norm]

/-- Objects without repeated keys that hold the same values have one normal
form. -/
theorem Json.norm_eq_of_member?_eq {first second : List (Str × Json)}
    (hFirst : (first.map Prod.fst).Nodup) (hSecond : (second.map Prod.fst).Nodup)
    (h : ∀ key, ((obj first).member? key).map norm = ((obj second).member? key).map norm) :
    (obj first).norm = (obj second).norm := by
  rw [norm_obj, norm_obj]
  have hKeys (members : List (Str × Json)) :
      (members.map fun entry => (entry.1, entry.2.norm)).map Prod.fst = members.map Prod.fst := by
    rw [List.map_map]
    rfl
  have hPerm : (first.map fun entry => (entry.1, entry.2.norm)).Perm
      (second.map fun entry => (entry.1, entry.2.norm)) := by
    apply AssocList.perm_of_lookup_eq
    · rwa [hKeys]
    · rwa [hKeys]
    · intro key
      rw [AssocList.lookup_map, AssocList.lookup_map]
      exact h key
  have : Std.Total fun a b : Str × Json => a.1 ≤ b.1 := ⟨fun a b => List.le_total a.1 b.1⟩
  have : IsTrans (Str × Json) fun a b => a.1 ≤ b.1 := ⟨fun _ _ _ => List.le_trans⟩
  have hSorted (members : List (Str × Json)) :
      (sortMembers members).Pairwise fun a b => a.1 ≤ b.1 := List.pairwise_insertionSort _ members
  have hSortedPerm (members : List (Str × Json)) : (sortMembers members).Perm members :=
    List.perm_insertionSort _ members
  congr 1
  apply AssocList.eq_of_perm_of_pairwise
    (fun (a b : Str) (hab : a ≤ b) (hba : b ≤ a) => List.le_antisymm hab hba) ?_
    (hSorted _) (hSorted _) ((hSortedPerm _).trans (hPerm.trans (hSortedPerm _).symm))
  rw [((hSortedPerm _).map Prod.fst).nodup_iff, hKeys]
  exact hFirst

/-- What is read from a normal form is the normal form of what is read from the
value. -/
theorem Json.get_norm (v : Json) (key : String) : v.norm.get key = (v.get key).norm := by
  unfold Json.get
  rw [get?_norm]
  cases v.get? key <;> rfl

/-- Only numbers and containers change, so that a text in normal form was that
text before. -/
theorem Json.norm_eq_str {v : Json} {s : Str} : v.norm = .str s ↔ v = .str s := by
  cases v <;> simp [norm]

/-- Only a truth value has that truth value for its normal form. -/
theorem Json.norm_eq_bool {v : Json} {value : Bool} : v.norm = .bool value ↔ v = .bool value := by
  cases v <;> simp [norm]

/-- Only `null` has `null` for its normal form. -/
theorem Json.norm_eq_null {v : Json} : v.norm = .null ↔ v = .null := by
  cases v <;> simp [norm]

/-- How deeply an object is nested does not depend on the order of its members. -/
theorem depthMembers_perm {first second : List (Str × Json)} (h : first.Perm second) :
    Json.depthMembers first = Json.depthMembers second := by
  induction h with
  | nil => rfl
  | cons entry _ ih => simp only [Json.depthMembers, ih]
  | swap a b rest => simp only [Json.depthMembers, max_left_comm]
  | trans _ _ ih ih' => rw [ih, ih']

mutual

/-- Canonicalization keeps the nesting of a value, which the guard in front of it
therefore bounds. -/
theorem Json.depth_norm : ∀ v : Json, v.norm.depth = v.depth
  | .null | .bool _ | .int _ | .float _ | .str _ => rfl
  | .arr items => by rw [Json.norm, Json.depth, Json.depth, depthItems_normItems]
  | .obj members => by
      have hSorted := depthMembers_perm (List.perm_insertionSort (fun a b => a.1 ≤ b.1)
        (normMembers members))
      rw [Json.norm, Json.depth, Json.depth, sortMembers, hSorted, depthMembers_normMembers]

theorem depthItems_normItems : ∀ items : List Json,
    Json.depthItems (normItems items) = Json.depthItems items
  | [] => rfl
  | v :: rest => by
      rw [normItems, Json.depthItems, Json.depthItems, v.depth_norm, depthItems_normItems rest]

theorem depthMembers_normMembers : ∀ members : List (Str × Json),
    Json.depthMembers (normMembers members) = Json.depthMembers members
  | [] => rfl
  | (key, v) :: rest => by
      rw [normMembers, Json.depthMembers, Json.depthMembers, v.depth_norm,
        depthMembers_normMembers rest]

end

end ArioProof
