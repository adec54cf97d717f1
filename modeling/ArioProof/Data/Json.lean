import ArioProof.Data.Text
import ArioProof.Foundation.Double

/-! JSON values as a parser of either kernel delivers them. A number keeps
whether its text was an integer literal, because Python reads `int` and `float`
as different types; JavaScript reads both as doubles. -/
namespace ArioProof

open Foundation

/-- A parsed JSON value. Whole numbers and floats are told apart, as Python does,
and an object keeps its members in order. -/
inductive Json where
  | null
  | bool (value : Bool)
  | int (value : Int)
  | float (value : Double)
  | str (value : Str)
  | arr (items : List Json)
  | obj (members : List (Str × Json))
  deriving Repr

namespace Json

instance : Inhabited Json := ⟨.null⟩

/-- A member of an object under a literal key. The first entry counts; a parser
leaves at most one. -/
def get? (v : Json) (key : String) : Option Json :=
  match v with
  | obj members => members.lookup (utf16 key)
  | _ => none

/-- Python's `d.get(key)` on a mapping: a missing key reads as null. -/
def get (v : Json) (key : String) : Json := (v.get? key).getD null

/-- A member of an object under any key. Where a key occurs twice the first entry
counts, and other values have no members. -/
def member? (v : Json) (key : Str) : Option Json :=
  match v with
  | obj members => members.lookup key
  | _ => none

/-- No key of an object occurs twice, as in a mapping. -/
def DistinctKeys : Json → Prop
  | obj members => (members.map Prod.fst).Nodup
  | _ => True

instance (v : Json) : Decidable v.DistinctKeys :=
  match v with
  | obj members => inferInstanceAs (Decidable (members.map Prod.fst).Nodup)
  | null | bool _ | int _ | float _ | str _ | arr _ => inferInstanceAs (Decidable True)

/-- Whether a value is an object, a `dict` of Python. TypeScript asks for this
where it excludes arrays and null. -/
def isObj : Json → Bool
  | obj _ => true
  | _ => false

/-- Whether a value is an array, a `list` of Python. -/
def isArr : Json → Bool
  | arr _ => true
  | _ => false

/-- Whether a value is a string. -/
def isStr : Json → Bool
  | str _ => true
  | _ => false

/-- A string, where the value is one. Numbers and booleans are not converted. -/
def str? : Json → Option Str
  | str s => some s
  | _ => none

/-- The entries of an array, where the value is one. -/
def arr? : Json → Option (List Json)
  | arr items => some items
  | _ => none

/-- Reading a member by its name is searching for the code units of that name. -/
theorem get?_eq_member? (v : Json) (key : String) : v.get? key = v.member? (utf16 key) := by
  cases v <;> rfl

@[simp] theorem str?_eq_some {v : Json} {s : Str} : v.str? = some s ↔ v = str s := by
  cases v <;> simp [str?]

@[simp] theorem arr?_eq_some {v : Json} {items : List Json} :
    v.arr? = some items ↔ v = arr items := by
  cases v <;> simp [arr?]

mutual

/-- Container nesting: scalars have depth zero and a container is one deeper
than its deepest child. -/
def depth : Json → Nat
  | arr items => depthItems items + 1
  | obj members => depthMembers members + 1
  | _ => 0

def depthItems : List Json → Nat
  | [] => 0
  | v :: rest => max v.depth (depthItems rest)

def depthMembers : List (Str × Json) → Nat
  | [] => 0
  | (_, v) :: rest => max v.depth (depthMembers rest)

end

/-- An entry is nested no more deeply than the deepest entry. -/
theorem depth_le_depthItems {items : List Json} {v : Json} (h : v ∈ items) :
    v.depth ≤ depthItems items := by
  induction items with
  | nil => cases h
  | cons w rest ih =>
      simp only [depthItems]
      rcases List.mem_cons.mp h with rfl | h
      · exact le_max_left _ _
      · exact (ih h).trans (le_max_right _ _)

/-- A value is nested no more deeply than the deepest value of its object. -/
theorem depth_le_depthMembers {members : List (Str × Json)} {key : Str} {v : Json}
    (h : (key, v) ∈ members) : v.depth ≤ depthMembers members := by
  induction members with
  | nil => cases h
  | cons entry rest ih =>
      simp only [depthMembers]
      rcases List.mem_cons.mp h with rfl | h
      · exact le_max_left _ _
      · exact (ih h).trans (le_max_right _ _)

/-- An entry is nested less deeply than its array. -/
theorem depth_lt_arr {items : List Json} {v : Json} (h : v ∈ items) :
    v.depth < (arr items).depth := by
  rw [depth]
  exact Nat.lt_succ_of_le (depth_le_depthItems h)

/-- A value is nested less deeply than its object. -/
theorem depth_lt_obj {members : List (Str × Json)} {key : Str} {v : Json}
    (h : (key, v) ∈ members) : v.depth < (obj members).depth := by
  rw [depth]
  exact Nat.lt_succ_of_le (depth_le_depthMembers h)

/-- A member that is found is an entry of the object. -/
theorem mem_of_get? {v w : Json} {key : String} (h : v.get? key = some w) :
    ∃ members, v = obj members ∧ (utf16 key, w) ∈ members := by
  cases v with
  | obj members =>
      obtain ⟨before, after, rfl, -⟩ := List.lookup_eq_some_iff.mp h
      exact ⟨_, rfl, by simp⟩
  | _ => simp [get?] at h

/-- A member that is there is nested less deeply than the value it is read
from. -/
theorem depth_lt_of_get? {v w : Json} {key : String} (h : v.get? key = some w) :
    w.depth < v.depth := by
  obtain ⟨members, rfl, hm⟩ := mem_of_get? h
  exact depth_lt_obj hm

/-- A member read as something other than null is present. -/
theorem get?_of_get {v w : Json} {key : String} (h : v.get key = w) (hw : w ≠ null) :
    v.get? key = some w := by
  cases hv : v.get? key with
  | none => simp [get, hv] at h; exact (hw h.symm).elim
  | some u => simp [get, hv] at h; rw [h]

/-- An object is not `null`. -/
theorem ne_null_of_isObj {v : Json} (h : v.isObj = true) : v ≠ null := by
  rintro rfl
  simp [isObj] at h

/-- Only an object has members. -/
theorem isObj_of_get {v w : Json} {key : String} (h : v.get key = w) (hw : w ≠ null) :
    v.isObj = true := by
  obtain ⟨members, rfl, -⟩ := mem_of_get? (get?_of_get h hw)
  rfl

/-- Every member of anything else reads as null. -/
theorem get_of_not_isObj {v : Json} (h : v.isObj = false) (key : String) : v.get key = null := by
  cases v with
  | obj members => cases h
  | _ => rfl

/-- A member that is there is what a read of it gives. -/
theorem get_of_get? {v w : Json} {key : String} (h : v.get? key = some w) : v.get key = w := by
  simp [get, h]

end Json
end ArioProof
