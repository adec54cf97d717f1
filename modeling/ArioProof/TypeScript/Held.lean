import ArioProof.Evidence.ExportRun
import ArioProof.TypeScript.Compose
import ArioProof.TypeScript.Renders

/-! Values that a round trip through JSON leaves as they are. A value of
JavaScript that has a canonical text is one of them, and a clone is. -/
namespace ArioProof.TypeScript

open Foundation

section Held

mutual

/-- A value as JavaScript holds it: its numbers are doubles, and its arrays no
longer than a length can say. -/
def Held : Json → Prop
  | .int n => Double.ofRat n = .finite n
  | .arr items => items.length < 2 ^ 32 ∧ HeldItems items
  | .obj members => HeldMembers members
  | _ => True

def HeldItems : List Json → Prop
  | [] => True
  | v :: rest => Held v ∧ HeldItems rest

def HeldMembers : List (Str × Json) → Prop
  | [] => True
  | (_, v) :: rest => Held v ∧ HeldMembers rest

end

/-- An object can be held when each of its values can. -/
theorem heldMembers_iff {members : List (Str × Json)} :
    HeldMembers members ↔ ∀ entry ∈ members, Held entry.2 := by
  induction members with
  | nil => simp [HeldMembers]
  | cons entry rest ih => simp [HeldMembers, ih]

/-- What is read from a value that can be held can be held. -/
theorem Held.get {v : Json} (h : Held v) (key : String) : Held (v.get key) := by
  unfold Json.get
  cases hw : v.get? key with
  | none => trivial
  | some w =>
      obtain ⟨members, rfl, hm⟩ := Json.mem_of_get? hw
      exact heldMembers_iff.mp h _ hm

/-- The bundle at the end of a chain of exports is held as part of them. -/
theorem Held.traced {b : Json} (h : Held b) : Held (ArioProof.traced b) := by
  induction b using traced.induct with
  | case1 b hExport ih =>
      rw [traced_of_isExport hExport]
      exact ih ((h.get "body").get "source_bundle")
  | case2 b hExport =>
      rw [traced_of_not_isExport (by simpa using hExport)]
      exact h

end Held

section Fixed

theorem cloneItems_eq_map (items : List Json) : cloneItems items = items.map clone := by
  induction items with
  | nil => rfl
  | cons v rest ih => rw [cloneItems, ih, List.map_cons]

theorem cloneMembers_eq_map (members : List (Str × Json)) :
    cloneMembers members = members.map fun entry => (entry.1, clone entry.2) := by
  induction members with
  | nil => rfl
  | cons entry rest ih => rw [cloneMembers, ih, List.map_cons]

/-- An array is kept by a clone when its entries are. -/
theorem clone_arr_eq_self {items : List Json} (h : ∀ v ∈ items, clone v = v) :
    clone (.arr items) = .arr items := by
  rw [clone, cloneItems_eq_map, List.map_congr_left h, List.map_id']

/-- An object is kept by a clone when its values are. -/
theorem clone_obj_eq_self {members : List (Str × Json)}
    (h : ∀ entry ∈ members, clone entry.2 = entry.2) : clone (.obj members) = .obj members := by
  rw [clone, cloneMembers_eq_map, Json.obj.injEq]
  exact (List.map_congr_left fun entry hEntry => by rw [h entry hEntry]).trans (List.map_id' _)

/-- An object literal is kept by a clone when its values are. -/
theorem clone_object_eq_self {members : List (String × Json)}
    (h : ∀ entry ∈ members, clone entry.2 = entry.2) :
    clone (.object members) = .object members := by
  apply clone_obj_eq_self
  intro entry hEntry
  obtain ⟨own, hOwn, rfl⟩ := List.mem_map.mp hEntry
  exact h own hOwn

/-- A value with one member replaced is kept by a clone when the rest and the
member are. -/
theorem clone_set_eq_self {v value : Json} (key : String) (h : clone v = v)
    (hValue : clone value = value) : clone (v.set key value) = v.set key value := by
  cases v with
  | obj members =>
      obtain ⟨after, hAfter, hEntries⟩ := Json.set_obj members key value
      rw [clone, cloneMembers_eq_map, Json.obj.injEq] at h
      have hOwn : ∀ entry ∈ members, clone entry.2 = entry.2 := by
        intro entry hEntry
        have hSame := List.map_inj_left.mp (h.trans (List.map_id members).symm) entry hEntry
        exact congrArg Prod.snd hSame
      rw [hAfter]
      apply clone_obj_eq_self
      intro entry hEntry
      rcases hEntries entry hEntry with hOld | rfl
      · exact hOwn entry hOld
      · exact hValue
  | _ => exact h

/-- A small natural number is a double, so counts come through a clone as they
are. -/
theorem clone_natCast_eq_self {n : Nat} (h : n < 2 ^ 53) : clone (.int n) = .int n := by
  have hRat : Double.ofRat ((n : Int) : ℚ) = .finite ((n : Int) : ℚ) :=
    Double.ofRat_intCast (by simpa using h)
  rw [clone, hRat, cloneNumber, if_pos rfl]

/-- A check that was made or not is a truth value or `null`, which a clone
keeps. -/
theorem clone_ofOption_eq_self (value : Option Bool) :
    clone (.ofOption value) = .ofOption value := by
  cases value <;> rfl

/-- What a number is cloned to is cloned to itself. -/
theorem clone_cloneNumber (own : Json) (d : Double) (hOwn : clone own = cloneNumber own d) :
    clone (cloneNumber own d) = cloneNumber own d := by
  cases d with
  | finite q =>
      cases own with
      | int n =>
          rw [cloneNumber] at hOwn ⊢
          split_ifs at hOwn ⊢
          · exact hOwn
          · rfl
      | _ => exact hOwn
  | _ => rfl

mutual

/-- A clone is its own clone: its numbers are rounded already. -/
theorem clone_clone : ∀ v : Json, clone (clone v) = clone v
  | .null | .bool _ | .str _ => rfl
  | .int n => clone_cloneNumber (.int n) _ rfl
  | .float d => clone_cloneNumber (.float d) _ rfl
  | .arr items => by rw [clone, clone, cloneItems_cloneItems items]
  | .obj members => by rw [clone, clone, cloneMembers_cloneMembers members]

theorem cloneItems_cloneItems : ∀ items : List Json,
    cloneItems (cloneItems items) = cloneItems items
  | [] => rfl
  | v :: rest => by rw [cloneItems, cloneItems, clone_clone v, cloneItems_cloneItems rest]

theorem cloneMembers_cloneMembers : ∀ members : List (Str × Json),
    cloneMembers (cloneMembers members) = cloneMembers members
  | [] => rfl
  | (key, v) :: rest => by
      rw [cloneMembers, cloneMembers, clone_clone v, cloneMembers_cloneMembers rest]

end

section Renders

variable {R : Runtime}

mutual

/-- Of the numbers of JavaScript, those that JSON could not write have no
canonical text. -/
theorem clone_of_renders (hParts : R.CanonicalizeCompositional) :
    ∀ v : Json, Held v → Renders R v → clone v = v
  | .null, _, _ | .bool _, _, _ | .str _, _, _ => rfl
  | .int n, hHeld, _ => by
      rw [clone, show Double.ofRat n = .finite n from hHeld, cloneNumber, if_pos rfl]
  | .float d, _, h => by
      have hFinite := hParts.finite d h.canonicalizes
      cases d with
      | finite q => rfl
      | inf _ => cases hFinite
      | nan => cases hFinite
  | .arr items, hHeld, h => by
      rw [clone, cloneItems_of_renders hParts items hHeld.2 ((renders_arr hParts).mp h).2]
  | .obj members, hHeld, h => by
      rw [clone, cloneMembers_of_renders hParts members hHeld fun _ hEntry => h.member hParts hEntry]

theorem cloneItems_of_renders (hParts : R.CanonicalizeCompositional) :
    ∀ items : List Json, HeldItems items → (∀ v ∈ items, Renders R v) → cloneItems items = items
  | [], _, _ => rfl
  | v :: rest, hHeld, h => by
      rw [cloneItems, clone_of_renders hParts v hHeld.1 (h v List.mem_cons_self),
        cloneItems_of_renders hParts rest hHeld.2 fun w hw => h w (List.mem_cons_of_mem v hw)]

theorem cloneMembers_of_renders (hParts : R.CanonicalizeCompositional) :
    ∀ members : List (Str × Json), HeldMembers members → (∀ entry ∈ members, Renders R entry.2) → cloneMembers members = members
  | [], _, _ => rfl
  | (key, v) :: rest, hHeld, h => by
      rw [cloneMembers, clone_of_renders hParts v hHeld.1 (h _ List.mem_cons_self),
        cloneMembers_of_renders hParts rest hHeld.2 fun _ hw => h _ (List.mem_cons_of_mem _ hw)]

end

end Renders
end Fixed
end ArioProof.TypeScript
