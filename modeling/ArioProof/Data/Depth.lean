import ArioProof.Data.Json

/-! The nesting guard in front of canonicalization. Both kernels walk a value
with an explicit stack, in the same order and up to the same bound. -/
namespace ArioProof

def maxCanonicalDepth : Nat := 128

mutual

/-- Number of nodes, the measure of the traversal below: the stack may grow from
turn to turn, what is left to visit does not. -/
def nodes : Json → Nat
  | .arr items => nodesItems items + 1
  | .obj members => nodesMembers members + 1
  | _ => 1

def nodesItems : List Json → Nat
  | [] => 0
  | v :: rest => nodes v + nodesItems rest

def nodesMembers : List (Str × Json) → Nat
  | [] => 0
  | (_, v) :: rest => nodes v + nodesMembers rest

end

/-- The values a container holds; a scalar has none. The keys of an object are not
visited. -/
def children : Json → Option (List Json)
  | .arr items => some items
  | .obj members => some (members.map Prod.snd)
  | _ => none

def stackNodes (stack : List (Json × Nat)) : Nat := (stack.map fun entry => nodes entry.1).sum

theorem nodesItems_eq_sum (items : List Json) : nodesItems items = (items.map nodes).sum := by
  induction items with
  | nil => rfl
  | cons v rest ih => simp [nodesItems, ih]

theorem nodesMembers_eq_sum (members : List (Str × Json)) :
    nodesMembers members = ((members.map Prod.snd).map nodes).sum := by
  induction members with
  | nil => rfl
  | cons entry rest ih => simp [nodesMembers, ih]

theorem nodes_eq_children {node : Json} {items : List Json} (h : children node = some items) :
    nodes node = (items.map nodes).sum + 1 := by
  cases node <;> simp only [children, Option.some.injEq, reduceCtorEq] at h
  · subst h; simp [nodes, nodesItems_eq_sum]
  · subst h; simp [nodes, nodesMembers_eq_sum]

/-- The loop of `exceeds_depth` over its explicit stack, whose head is the top. -/
def exceedsDepthLoop (maxDepth : Nat) : List (Json × Nat) → Bool
  | [] => false
  | (node, depth) :: stack =>
      match _h : children node with
      | none => exceedsDepthLoop maxDepth stack
      | some items =>
          if maxDepth < depth then true
          else exceedsDepthLoop maxDepth ((items.map fun child => (child, depth + 1)).reverse ++ stack)
termination_by stack => stackNodes stack
decreasing_by
  · have : 0 < nodes node := by cases node <;> simp [nodes]
    simp only [stackNodes, List.map_cons, List.sum_cons]
    omega
  · have hNodes := nodes_eq_children _h
    have hPushed : ((items.map fun child => (child, depth + 1)).map fun entry => nodes entry.1) =
        items.map nodes := by simp
    simp only [stackNodes, List.map_cons, List.sum_cons, List.map_append, List.map_reverse,
      List.sum_append, List.sum_reverse, hPushed]
    omega

def exceedsDepth (value : Json) (maxDepth : Nat) : Bool := exceedsDepthLoop maxDepth [(value, 1)]

theorem depth_eq_children (node : Json) : node.depth =
    match children node with
    | none => 0
    | some items => Json.depthItems items + 1 := by
  have members (entries : List (Str × Json)) :
      Json.depthMembers entries = Json.depthItems (entries.map Prod.snd) := by
    induction entries with
    | nil => rfl
    | cons entry rest ih => simp [Json.depthMembers, Json.depthItems, ih]
  cases node <;> simp [children, Json.depth, members]

theorem depthItems_lt_iff (items : List Json) (bound : Nat) :
    bound < Json.depthItems items ↔ ∃ v ∈ items, bound < v.depth := by
  induction items with
  | nil => simp [Json.depthItems]
  | cons v rest ih => simp [Json.depthItems, ih]

/-- A container is nested no deeper than a bound when its parts are less. -/
theorem depth_arr_le_iff {items : List Json} {bound : Nat} :
    (Json.arr items).depth ≤ bound + 1 ↔ ∀ v ∈ items, v.depth ≤ bound := by
  rw [Json.depth, Nat.add_le_add_iff_right, ← Nat.not_lt, depthItems_lt_iff]
  push Not
  rfl

theorem depth_obj_le_iff {members : List (Str × Json)} {bound : Nat} :
    (Json.obj members).depth ≤ bound + 1 ↔ ∀ entry ∈ members, entry.2.depth ≤ bound := by
  have hSame : (Json.obj members).depth = (Json.arr (members.map Prod.snd)).depth := by
    rw [depth_eq_children, depth_eq_children]
    rfl
  rw [hSame, depth_arr_le_iff, List.forall_mem_map]

/-- The stack invariant: a pending node at depth `d` reports exactly when its
own containers reach below the bound from there. -/
theorem exceedsDepthLoop_iff (maxDepth : Nat) (stack : List (Json × Nat)) :
    exceedsDepthLoop maxDepth stack = true ↔
      ∃ entry ∈ stack, 0 < entry.1.depth ∧ maxDepth < entry.1.depth + entry.2 - 1 := by
  induction stack using exceedsDepthLoop.induct maxDepth with
  | case1 => simp [exceedsDepthLoop]
  | case2 node depth stack hNone ih =>
      have hDepth : node.depth = 0 := by rw [depth_eq_children, hNone]
      rw [exceedsDepthLoop]
      split
      · rw [ih]
        simp [hDepth]
      · simp_all
  | case3 node depth stack items hItems hBound =>
      have hDepth : node.depth = Json.depthItems items + 1 := by rw [depth_eq_children, hItems]
      rw [exceedsDepthLoop]
      split
      · simp_all
      · rw [if_pos hBound]
        exact iff_of_true rfl ⟨_, List.mem_cons_self, by simp [hDepth], by
          simp only [hDepth]; omega⟩
  | case4 node depth stack items hItems hBound ih =>
      have hDepth : node.depth = Json.depthItems items + 1 := by rw [depth_eq_children, hItems]
      rw [exceedsDepthLoop]
      split
      · simp_all
      · rename_i found hFound
        obtain rfl : items = found := by rw [hItems] at hFound; exact Option.some.inj hFound
        rw [if_neg hBound, ih]
        have hChild := depthItems_lt_iff items (maxDepth - depth)
        constructor
        · rintro ⟨entry, hm, hPos, hDeep⟩
          rcases List.mem_append.mp hm with hm | hm
          · obtain ⟨child, hc, rfl⟩ := List.mem_map.mp (List.mem_reverse.mp hm)
            have := hChild.mpr ⟨child, hc, by simp only at hPos hDeep; omega⟩
            exact ⟨_, List.mem_cons_self, by simp [hDepth], by simp only [hDepth]; omega⟩
          · exact ⟨entry, List.mem_cons_of_mem _ hm, hPos, hDeep⟩
        · rintro ⟨entry, hm, hPos, hDeep⟩
          rcases List.mem_cons.mp hm with rfl | hm
          · obtain ⟨child, hc, hLt⟩ := hChild.mp (by simp only [hDepth] at hDeep; omega)
            exact ⟨(child, depth + 1), List.mem_append_left _
              (List.mem_reverse.mpr (List.mem_map_of_mem hc)), by simp only; omega,
              by simp only; omega⟩
          · exact ⟨entry, List.mem_append_right _ hm, hPos, hDeep⟩

/-- The iterative guard computes container nesting exactly, for every bound. -/
theorem exceedsDepth_iff (value : Json) (maxDepth : Nat) :
    exceedsDepth value maxDepth = true ↔ maxDepth < value.depth := by
  rw [exceedsDepth, exceedsDepthLoop_iff]
  simp only [List.mem_singleton, exists_eq_left]
  omega

theorem exceedsDepth_eq_false_iff (value : Json) (maxDepth : Nat) :
    exceedsDepth value maxDepth = false ↔ value.depth ≤ maxDepth := by
  rw [← Bool.not_eq_true, exceedsDepth_iff, Nat.not_lt]

end ArioProof
