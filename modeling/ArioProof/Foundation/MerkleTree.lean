import ArioProof.Foundation.HashFunction

/-! Binary hash trees of arbitrary shape, with leaf and node inputs separated
by a leading tag byte. An inclusion proof is a climb: a digest is combined with
one sibling per level. Siblings are arbitrary byte strings here, because a
verifier reads them from an untrusted proof. -/
namespace Foundation.MerkleTree

variable {width : Nat} (H : HashFunction width)

/-- The input of a leaf hash, under its own tag. -/
def leafMessage (data : Bytes) : Bytes := 0x00 :: data

/-- The input of a node hash, under its own tag. Digests have one length, so the
halves can be told apart. -/
def nodeMessage (left right : Bytes) : Bytes := 0x01 :: (left ++ right)

/-- The digest of an entry, under the tag of leaves. -/
def leafHash (data : Bytes) : Bytes := H.digest (leafMessage data)

/-- The digest of two subtrees, left before right. -/
def nodeHash (left right : Bytes) : Bytes := H.digest (nodeMessage left right)

@[simp] theorem length_leafHash (data : Bytes) : (leafHash H data).length = width := by
  simp [leafHash]

@[simp] theorem length_nodeHash (left right : Bytes) :
    (nodeHash H left right).length = width := by
  simp [nodeHash]

/-- The tag is followed by the entry as it is. -/
@[simp] theorem leafMessage_inj {first second : Bytes} :
    leafMessage first = leafMessage second ↔ first = second := by
  simp [leafMessage]

/-- The tags keep leaves and nodes apart, whatever they hold. -/
@[simp] theorem leafMessage_ne_nodeMessage (data left right : Bytes) :
    leafMessage data ≠ nodeMessage left right := by
  simp [leafMessage, nodeMessage]

@[simp] theorem nodeMessage_ne_leafMessage (data left right : Bytes) :
    nodeMessage left right ≠ leafMessage data :=
  (leafMessage_ne_nodeMessage data left right).symm

/-- On which side of the running digest the sibling stands. -/
inductive Side where
  | left
  | right
  deriving DecidableEq, Repr

/-- A tree over leaf digests. Its shape is not tied to any splitting rule. -/
inductive Tree where
  | leaf (digest : Bytes)
  | node (left right : Tree)
  deriving DecidableEq, Repr

namespace Tree

/-- The digest at the top of a tree. -/
def root : Tree → Bytes
  | leaf digest => digest
  | node left right => nodeHash H left.root right.root

/-- The digests at the bottom of a tree, from left to right. -/
def leaves : Tree → List Bytes
  | leaf digest => [digest]
  | node left right => left.leaves ++ right.leaves

/-- Inputs of the interior hashes computed for the root. -/
def messages : Tree → List Bytes
  | leaf _ => []
  | node left right =>
      nodeMessage (left.root H) (right.root H) :: (left.messages ++ right.messages)

/-- Sides of the siblings met from the leaf at a position up to the root. -/
def sides : Tree → Nat → List Side
  | leaf _, _ => []
  | node left right, i =>
      if i < left.leaves.length then left.sides i ++ [.right]
      else right.sides (i - left.leaves.length) ++ [.left]

/-- The honest proof for a position: the sibling roots, bottom-up. -/
def siblings : Tree → Nat → List Bytes
  | leaf _, _ => []
  | node left right, i =>
      if i < left.leaves.length then left.siblings i ++ [right.root H]
      else right.siblings (i - left.leaves.length) ++ [left.root H]

/-- There is one sibling for each turn on the way down. -/
@[simp] theorem length_siblings (t : Tree) (i : Nat) :
    (t.siblings H i).length = (t.sides i).length := by
  induction t generalizing i with
  | leaf digest => rfl
  | node left right ihl ihr =>
      simp only [siblings, sides]
      split <;> simp [ihl, ihr]

/-- Roots have digest width as soon as the leaves have. -/
theorem length_root (t : Tree) (h : ∀ digest ∈ t.leaves, digest.length = width) :
    (t.root H).length = width := by
  cases t with
  | leaf digest => exact h digest (by simp [leaves])
  | node left right => simp [root]

end Tree

/-- The input of the hash that one step of a walk computes: the digest so far
beside a sibling, on its side. -/
def stepMessage (digest : Bytes) (step : Side × Bytes) : Bytes :=
  match step.1 with
  | .left => nodeMessage step.2 digest
  | .right => nodeMessage digest step.2

/-- Combine a digest with the siblings of a proof, bottom-up. -/
def climb (digest : Bytes) (steps : List (Side × Bytes)) : Bytes :=
  steps.foldl (fun current step => H.digest (stepMessage current step)) digest

/-- Siblings that stand on the given sides of a climb from a digest to a root. -/
structure Leads (digest : Bytes) (sides : List Side) (path : List Bytes) (root : Bytes) : Prop where
  length_eq : path.length = sides.length
  climb_eq : climb H digest (sides.zip path) = root

/-- Inputs of the hashes computed along a climb. -/
def climbMessages : Bytes → List (Side × Bytes) → List Bytes
  | _, [] => []
  | digest, step :: rest =>
      stepMessage digest step :: climbMessages (H.digest (stepMessage digest step)) rest

@[simp] theorem climb_nil (digest : Bytes) : climb H digest [] = digest := rfl

@[simp] theorem climb_cons (digest : Bytes) (step : Side × Bytes) (rest : List (Side × Bytes)) :
    climb H digest (step :: rest) = climb H (H.digest (stepMessage digest step)) rest := rfl

/-- The last step of a climb hashes what the others have reached. -/
theorem climb_concat (digest : Bytes) (steps : List (Side × Bytes)) (last : Side × Bytes) :
    climb H digest (steps ++ [last]) = H.digest (stepMessage (climb H digest steps) last) := by
  simp [climb]

/-- A climb in two parts hashes what the parts hash. -/
theorem climbMessages_append (digest : Bytes) (first second : List (Side × Bytes)) :
    climbMessages H digest (first ++ second) =
      climbMessages H digest first ++ climbMessages H (climb H digest first) second := by
  induction first generalizing digest with
  | nil => rfl
  | cons step rest ih => simp [climbMessages, ih]

/-- A climb that starts at a digest ends at one. -/
theorem length_climb {digest : Bytes} (h : digest.length = width)
    (steps : List (Side × Bytes)) : (climb H digest steps).length = width := by
  induction steps generalizing digest with
  | nil => exact h
  | cons step rest ih => exact ih (H.length_digest _)

/-- One level of a climb that reaches an interior root. Either the running
digest and its sibling are the two child roots, in the order of the side, or
the two hash inputs differ. No length is assumed of the sibling. -/
theorem stepMessage_eq_node {current left right : Bytes} {step : Side × Bytes}
    (hCurrent : current.length = width) (hLeft : left.length = width)
    (hRight : right.length = width)
    (h : stepMessage current step = nodeMessage left right) :
    (step = (.left, left) ∧ current = right) ∨ (step = (.right, right) ∧ current = left) := by
  obtain ⟨side, sibling⟩ := step
  cases side with
  | left =>
      simp only [stepMessage, nodeMessage, List.cons.injEq, true_and] at h
      obtain ⟨hSibling, hCur⟩ := List.append_inj' h (hCurrent.trans hRight.symm)
      exact Or.inl ⟨by rw [hSibling], hCur⟩
  | right =>
      simp only [stepMessage, nodeMessage, List.cons.injEq, true_and] at h
      obtain ⟨hCur, hSibling⟩ := List.append_inj h (hCurrent.trans hLeft.symm)
      exact Or.inr ⟨by rw [hSibling], hCur⟩

/-- A step never hashes what a leaf hash does. -/
theorem stepMessage_ne_leafMessage (current data : Bytes) (step : Side × Bytes) :
    stepMessage current step ≠ leafMessage data := by
  obtain ⟨side, sibling⟩ := step
  cases side <;> simp [stepMessage]

/-- All hash inputs of a claimed membership: the leaf, the climb above it, and
the honest tree over the hashed data. -/
def membershipMessages (t : Tree) (data : List Bytes) (x : Bytes)
    (steps : List (Side × Bytes)) : List Bytes :=
  leafMessage x :: climbMessages H (leafHash H x) steps ++ (data.map leafMessage ++ t.messages H)

/-- Membership soundness for every proof. Whatever siblings and sides a proof
carries, a hashed value that climbs to the root of a tree over hashed data is
one of the data, or the two computations contain a collision. The descent
follows the proof from the root, so the tag bytes stop it at a leaf. -/
theorem mem_of_climb_eq_root (t : Tree) (data : List Bytes)
    (hLeaves : t.leaves = data.map (leafHash H)) (x : Bytes) (steps : List (Side × Bytes))
    (h : climb H (leafHash H x) steps = t.root H) :
    x ∈ data ∨ H.CollisionIn (membershipMessages H t data x steps) := by
  induction t generalizing data steps with
  | leaf digest =>
      obtain ⟨d, rfl, hd⟩ : ∃ d, data = [d] ∧ leafHash H d = digest := by
        cases data with
        | nil => simp [Tree.leaves] at hLeaves
        | cons d rest =>
            simp only [Tree.leaves, List.map_cons, List.cons.injEq] at hLeaves
            exact ⟨d, by simpa using hLeaves.2.symm, hLeaves.1.symm⟩
      rcases List.eq_nil_or_concat' steps with rfl | ⟨init, last, rfl⟩
      · have hEq : H.digest (leafMessage x) = H.digest (leafMessage d) := h.trans hd.symm
        rcases HashFunction.eq_or_collisionIn
            (membershipMessages H (.leaf digest) [d] x [])
            (by simp [membershipMessages]) (by simp [membershipMessages]) hEq with he | hc
        · exact Or.inl (by simpa using he)
        · exact Or.inr hc
      · rw [climb_concat] at h
        refine Or.inr ⟨stepMessage (climb H (leafHash H x) init) last, ?_, leafMessage d, ?_,
          stepMessage_ne_leafMessage _ _ _, h.trans hd.symm⟩
        · simp [membershipMessages, climbMessages_append, climbMessages]
        · simp [membershipMessages]
  | node left right ihl ihr =>
      obtain ⟨dataLeft, dataRight, rfl, hl, hr⟩ : ∃ dl dr, data = dl ++ dr ∧
          left.leaves = dl.map (leafHash H) ∧ right.leaves = dr.map (leafHash H) := by
        obtain ⟨dl, dr, hSplit, hl, hr⟩ := List.map_eq_append_iff.mp hLeaves.symm
        exact ⟨dl, dr, hSplit, hl.symm, hr.symm⟩
      have hWidth (t : Tree) (ds : List Bytes) (ht : t.leaves = ds.map (leafHash H)) :
          (t.root H).length = width :=
        t.length_root H (by rw [ht]; simp)
      rcases List.eq_nil_or_concat' steps with rfl | ⟨init, last, rfl⟩
      · -- A leaf hash can never stand for an interior node.
        refine Or.inr ⟨leafMessage x, by simp [membershipMessages],
          nodeMessage (left.root H) (right.root H),
          by simp [membershipMessages, Tree.messages], by simp, h⟩
      · rw [climb_concat, Tree.root] at h
        have hStep : stepMessage (climb H (leafHash H x) init) last ∈
            membershipMessages H (.node left right) (dataLeft ++ dataRight) x (init ++ [last]) := by
          simp [membershipMessages, climbMessages_append, climbMessages]
        have hNode : nodeMessage (left.root H) (right.root H) ∈
            membershipMessages H (.node left right) (dataLeft ++ dataRight) x (init ++ [last]) := by
          simp [membershipMessages, Tree.messages]
        rcases HashFunction.eq_or_collisionIn _ hStep hNode h with hEq | hc
        · have hCurrent := length_climb H (length_leafHash H x) init
          rcases stepMessage_eq_node hCurrent (hWidth _ _ hl) (hWidth _ _ hr) hEq with
            ⟨-, hChild⟩ | ⟨-, hChild⟩
          · rcases ihr dataRight hr init hChild with hm | hc
            · exact Or.inl (List.mem_append_right _ hm)
            · refine Or.inr (hc.mono ?_)
              intro m hm
              simp only [membershipMessages, Tree.messages, climbMessages_append, List.mem_cons,
                List.mem_append, List.map_append, List.cons_append] at hm ⊢
              tauto
          · rcases ihl dataLeft hl init hChild with hm | hc
            · exact Or.inl (List.mem_append_left _ hm)
            · refine Or.inr (hc.mono ?_)
              intro m hm
              simp only [membershipMessages, Tree.messages, climbMessages_append, List.mem_cons,
                List.mem_append, List.map_append, List.cons_append] at hm ⊢
              tauto
        · exact Or.inr (by simpa using hc)

/-- A position has the honest proof: climbing with it gives the root. -/
theorem climb_siblings (t : Tree) (i : Nat) (leaf : Bytes) (h : t.leaves[i]? = some leaf) :
    climb H leaf ((t.sides i).zip (t.siblings H i)) = t.root H := by
  induction t generalizing i with
  | leaf digest =>
      cases i with
      | zero => simpa [Tree.leaves, Tree.sides, Tree.root, eq_comm] using h
      | succ i => simp [Tree.leaves] at h
  | node left right ihl ihr =>
      simp only [Tree.leaves] at h
      simp only [Tree.sides, Tree.siblings, Tree.root]
      split_ifs with hi
      · rw [List.getElem?_append_left hi] at h
        rw [List.zip_append (by simp)]
        simp [climb_concat, ihl i h, stepMessage, nodeHash]
      · rw [List.getElem?_append_right (by omega)] at h
        rw [List.zip_append (by simp)]
        simp [climb_concat, ihr _ h, stepMessage, nodeHash]

/-- Position soundness for every proof of the right length. A digest that
climbs to the root along the sides of a position is the leaf at that position,
and the proof is the honest one, unless the two computations collide. -/
theorem eq_of_climb_eq_root (t : Tree) (hWidth : ∀ digest ∈ t.leaves, digest.length = width)
    (i : Nat) (hi : i < t.leaves.length) (leaf : Bytes) (hLeaf : leaf.length = width)
    (path : List Bytes) (hPath : path.length = (t.sides i).length)
    (h : climb H leaf ((t.sides i).zip path) = t.root H) :
    (t.leaves[i]? = some leaf ∧ path = t.siblings H i) ∨
      H.CollisionIn (climbMessages H leaf ((t.sides i).zip path) ++ t.messages H) := by
  induction t generalizing i path with
  | leaf digest =>
      obtain rfl : i = 0 := by simpa [Tree.leaves] using hi
      obtain rfl : path = [] := by simpa [Tree.sides] using hPath
      exact Or.inl ⟨by simpa [Tree.leaves, Tree.sides, Tree.root, eq_comm] using h, rfl⟩
  | node left right ihl ihr =>
      have hl : ∀ digest ∈ left.leaves, digest.length = width :=
        fun d hd => hWidth d (List.mem_append_left _ hd)
      have hr : ∀ digest ∈ right.leaves, digest.length = width :=
        fun d hd => hWidth d (List.mem_append_right _ hd)
      obtain ⟨init, last, rfl⟩ : ∃ init last, path = init ++ [last] := by
        rcases List.eq_nil_or_concat' path with rfl | hc
        · simp only [Tree.sides] at hPath
          split at hPath <;> simp at hPath
        · exact hc
      -- Both sides of the split finish alike: the last level is compared here.
      have finish (side : Side) (sides : List Side) (hLen : init.length = sides.length)
          (hRoot : climb H leaf ((sides ++ [side]).zip (init ++ [last])) =
            (Tree.node left right).root H) :
          (((side, last) = (.left, left.root H) ∧
              climb H leaf (sides.zip init) = right.root H) ∨
            ((side, last) = (.right, right.root H) ∧
              climb H leaf (sides.zip init) = left.root H)) ∨
          H.CollisionIn (climbMessages H leaf ((sides ++ [side]).zip (init ++ [last])) ++
            (Tree.node left right).messages H) := by
        rw [List.zip_append hLen.symm] at hRoot ⊢
        rw [List.zip_cons_cons, List.zip_nil_left, climb_concat] at hRoot
        rcases HashFunction.eq_or_collisionIn
            (climbMessages H leaf (sides.zip init ++ [(side, last)]) ++
              (Tree.node left right).messages H)
            (by simp [climbMessages_append, climbMessages])
            (by simp [Tree.messages]) hRoot with hEq | hc
        · exact Or.inl (stepMessage_eq_node (length_climb H hLeaf _)
            (left.length_root H hl) (right.length_root H hr) hEq)
        · exact Or.inr hc
      simp only [Tree.sides, Tree.siblings, Tree.leaves, List.length_append] at hPath h hi ⊢
      split_ifs at hPath h ⊢ with hlt
      · have hLen : init.length = (left.sides i).length := by simpa using hPath
        rcases finish .right _ hLen h with (⟨hSide, -⟩ | ⟨hSide, hChild⟩) | hc
        · simp at hSide
        · rcases ihl hl i hlt init hLen hChild with ⟨hGet, hInit⟩ | hc
          · refine Or.inl ⟨by rwa [List.getElem?_append_left hlt], ?_⟩
            rw [hInit, (Prod.mk.inj hSide).2]
          · refine Or.inr (hc.mono ?_)
            rw [List.zip_append hLen.symm, climbMessages_append]
            intro m hm
            simp only [List.mem_append, Tree.messages, List.mem_cons] at hm ⊢
            tauto
        · exact Or.inr hc
      · have hLen : init.length = (right.sides (i - left.leaves.length)).length := by
          simpa using hPath
        rcases finish .left _ hLen h with (⟨hSide, hChild⟩ | ⟨hSide, -⟩) | hc
        · rcases ihr hr _ (by omega) init hLen hChild with ⟨hGet, hInit⟩ | hc
          · refine Or.inl ⟨by rwa [List.getElem?_append_right (by omega)], ?_⟩
            rw [hInit, (Prod.mk.inj hSide).2]
          · refine Or.inr (hc.mono ?_)
            rw [List.zip_append hLen.symm, climbMessages_append]
            intro m hm
            simp only [List.mem_append, Tree.messages, List.mem_cons] at hm ⊢
            tauto
        · simp at hSide
        · exact Or.inr hc

/-- Hash inputs on one side agree only if what they combine does. No length is
assumed of the siblings. -/
theorem stepMessage_inj {current other sibling sibling' : Bytes} {side : Side}
    (hCurrent : current.length = width) (hOther : other.length = width)
    (h : stepMessage current (side, sibling) = stepMessage other (side, sibling')) :
    current = other ∧ sibling = sibling' := by
  cases side with
  | left =>
      simp only [stepMessage, nodeMessage, List.cons.injEq, true_and] at h
      obtain ⟨hSibling, hSame⟩ := List.append_inj' h (hCurrent.trans hOther.symm)
      exact ⟨hSame, hSibling⟩
  | right =>
      simp only [stepMessage, nodeMessage, List.cons.injEq, true_and] at h
      exact List.append_inj h (hCurrent.trans hOther.symm)

/-- A digest above a position binds what is below it, whether or not any tree
has it for a root: climbs along the same sides that end alike have begun alike
and passed the same siblings, unless they collide. -/
theorem eq_of_climb_eq_climb {sides : List Side} {leaf other : Bytes} {path path' : List Bytes}
    (hLeaf : leaf.length = width) (hOther : other.length = width)
    (hPath : path.length = sides.length) (hPath' : path'.length = sides.length)
    (h : climb H leaf (sides.zip path) = climb H other (sides.zip path')) :
    (leaf = other ∧ path = path') ∨ H.CollisionIn (climbMessages H leaf (sides.zip path) ++
      climbMessages H other (sides.zip path')) := by
  induction sides generalizing leaf other path path' with
  | nil =>
      rw [List.length_nil, List.length_eq_zero_iff] at hPath hPath'
      subst hPath hPath'
      exact Or.inl ⟨h, rfl⟩
  | cons side sides ih =>
      obtain ⟨sibling, path, rfl⟩ := List.exists_cons_of_length_eq_add_one hPath
      obtain ⟨sibling', path', rfl⟩ := List.exists_cons_of_length_eq_add_one hPath'
      simp only [List.length_cons, Nat.add_right_cancel_iff] at hPath hPath'
      simp only [List.zip_cons_cons, climb_cons] at h
      simp only [List.zip_cons_cons, climbMessages]
      rcases ih (H.length_digest _) (H.length_digest _) hPath hPath' h with ⟨hDigest, rfl⟩ | hc
      · rcases HashFunction.eq_or_collisionIn
            (stepMessage leaf (side, sibling) :: climbMessages H _ (sides.zip path) ++
              stepMessage other (side, sibling') :: climbMessages H _ (sides.zip path))
            (by simp) (by simp) hDigest with hMessage | hc
        · obtain ⟨rfl, rfl⟩ := stepMessage_inj hLeaf hOther hMessage
          exact Or.inl ⟨rfl, rfl⟩
        · exact Or.inr hc
      · refine Or.inr (hc.mono ?_)
        intro m hm
        simp only [List.mem_append, List.mem_cons] at hm ⊢
        tauto

/-- A leaf digest is the hash of the one datum under it. -/
theorem data_of_leaf {digest : Bytes} {data : List Bytes}
    (h : (Tree.leaf digest).leaves = data.map (leafHash H)) :
    ∃ d, data = [d] ∧ H.digest (leafMessage d) = digest := by
  cases data with
  | nil => simp [Tree.leaves] at h
  | cons d rest =>
      simp only [Tree.leaves, List.map_cons, List.cons.injEq] at h
      exact ⟨d, by simpa using h.2.symm, h.1.symm⟩

/-- The data under a node are those under its children. -/
theorem data_of_node {left right : Tree} {data : List Bytes}
    (h : (Tree.node left right).leaves = data.map (leafHash H)) : ∃ first second,
      data = first ++ second ∧ left.leaves = first.map (leafHash H) ∧
        right.leaves = second.map (leafHash H) := by
  obtain ⟨first, second, hSplit, hLeft, hRight⟩ := List.map_eq_append_iff.mp h.symm
  exact ⟨first, second, hSplit, hLeft.symm, hRight.symm⟩

/-- Hash inputs of a root over hashed data. -/
def treeMessages (t : Tree) (data : List Bytes) : List Bytes :=
  data.map leafMessage ++ t.messages H

/-- A tree of one entry hashes that entry. -/
theorem leafMessage_mem_treeMessages (t : Tree) (d : Bytes) :
    leafMessage d ∈ treeMessages H t [d] := by
  simp [treeMessages]

/-- A tree hashes the roots of its halves. -/
theorem nodeMessage_mem_treeMessages (left right : Tree) (data : List Bytes) :
    nodeMessage (left.root H) (right.root H) ∈ treeMessages H (.node left right) data := by
  simp [treeMessages, Tree.messages]

/-- A tree hashes whatever its halves hash. -/
theorem treeMessages_subset_node (left right : Tree) (first second : List Bytes) :
    treeMessages H left first ⊆ treeMessages H (.node left right) (first ++ second) ∧
      treeMessages H right second ⊆ treeMessages H (.node left right) (first ++ second) := by
  constructor <;> intro m hm <;>
    simp only [treeMessages, Tree.messages, List.map_append, List.mem_append, List.mem_cons] at hm ⊢ <;>
    tauto

/-- A root commits to all the data below it, whatever the shapes of the trees.
The leading tags keep a leaf apart from a node, and the width of digests tells
the children of a node. -/
theorem eq_of_root_eq (t u : Tree) (data other : List Bytes)
    (ht : t.leaves = data.map (leafHash H)) (hu : u.leaves = other.map (leafHash H))
    (h : t.root H = u.root H) :
    data = other ∨ H.CollisionIn (treeMessages H t data ++ treeMessages H u other) := by
  induction t generalizing u data other with
  | leaf digest =>
      obtain ⟨d, rfl, hd⟩ := data_of_leaf H ht
      have hLeft : leafMessage d ∈ treeMessages H (.leaf digest) [d] ++ treeMessages H u other :=
        List.mem_append_left _ (leafMessage_mem_treeMessages H _ d)
      cases u with
      | leaf digest' =>
          obtain ⟨e, rfl, he⟩ := data_of_leaf H hu
          rcases HashFunction.eq_or_collisionIn _ hLeft
              (List.mem_append_right _ (leafMessage_mem_treeMessages H _ e))
              (hd.trans (h.trans he.symm)) with hEq | hc
          · exact Or.inl (by simpa using hEq)
          · exact Or.inr hc
      | node left right =>
          exact Or.inr ⟨_, hLeft, _,
            List.mem_append_right _ (nodeMessage_mem_treeMessages H left right other),
            leafMessage_ne_nodeMessage _ _ _, hd.trans h⟩
  | node left right ihl ihr =>
      have hLeft : nodeMessage (left.root H) (right.root H) ∈
          treeMessages H (.node left right) data ++ treeMessages H u other :=
        List.mem_append_left _ (nodeMessage_mem_treeMessages H left right data)
      cases u with
      | leaf digest =>
          obtain ⟨e, rfl, he⟩ := data_of_leaf H hu
          exact Or.inr ⟨_, hLeft, _,
            List.mem_append_right _ (leafMessage_mem_treeMessages H _ e),
            nodeMessage_ne_leafMessage _ _ _, h.trans he.symm⟩
      | node left' right' =>
          obtain ⟨first, second, rfl, hl, hr⟩ := data_of_node H ht
          obtain ⟨first', second', rfl, hl', hr'⟩ := data_of_node H hu
          rcases HashFunction.eq_or_collisionIn _ hLeft (List.mem_append_right _
              (nodeMessage_mem_treeMessages H left' right' (first' ++ second'))) h with hEq | hc
          · have hWidth (t : Tree) (ds : List Bytes) (hds : t.leaves = ds.map (leafHash H)) :
                (t.root H).length = width :=
              t.length_root H (by rw [hds]; simp)
            simp only [nodeMessage, List.cons.injEq, true_and] at hEq
            obtain ⟨hRootL, hRootR⟩ := List.append_inj hEq
              ((hWidth _ _ hl).trans (hWidth _ _ hl').symm)
            obtain ⟨hSubL, hSubR⟩ := treeMessages_subset_node H left right first second
            obtain ⟨hSubL', hSubR'⟩ := treeMessages_subset_node H left' right' first' second'
            rcases ihl left' first first' hl hl' hRootL with rfl | hc
            · rcases ihr right' second second' hr hr' hRootR with rfl | hc
              · exact Or.inl rfl
              · exact Or.inr (hc.mono (List.append_subset.mpr
                  ⟨List.subset_append_of_subset_left _ hSubR,
                    List.subset_append_of_subset_right _ hSubR'⟩))
            · exact Or.inr (hc.mono (List.append_subset.mpr
                ⟨List.subset_append_of_subset_left _ hSubL,
                  List.subset_append_of_subset_right _ hSubL'⟩))
          · exact Or.inr hc

end Foundation.MerkleTree
