import ArioProof.Foundation.Rfc9162
import ArioProof.Python.Runtime

/-! `merkle.py`. The verifier walks two counters and never builds the tree; it
is shown to be the climb along the sides those counters spell, and the builder
to be the root of the RFC 9162 tree. -/
namespace ArioProof.Python

open Foundation MerkleTree

variable (R : Runtime)

def leafHash (leafBytes : Bytes) : Bytes := sha256 R (0x00 :: leafBytes)

def nodeHash (left right : Bytes) : Bytes := sha256 R (0x01 :: (left ++ right))

def largestPow2Loop (n k : Nat) : Nat :=
  if 0 < k ∧ k * 2 < n then largestPow2Loop n (k * 2) else k
termination_by n - k

/-- The largest `k = 2^a` with `k < n`, and zero below two. -/
def largestPow2LessThan (n : Nat) : Nat := if n < 2 then 0 else largestPow2Loop n 1

theorem largestPow2Loop_eq (n a : Nat) (h : 2 ^ a < n) :
    largestPow2Loop n (2 ^ a) = Rfc9162.splitPoint n := by
  induction hGap : n - 2 ^ a using Nat.strongRecOn generalizing a with
  | ind gap ih =>
      have hPos := Nat.two_pow_pos a
      rw [largestPow2Loop]
      split_ifs with hNext
      · rw [← pow_succ] at hNext ⊢
        exact ih _ (by rw [← hGap]; rw [pow_succ] at hNext ⊢; omega) (a + 1) hNext.2 rfl
      · have hLog : Nat.log 2 (n - 1) = a := by
          rw [Nat.log_eq_iff (Or.inr ⟨by omega, by omega⟩), pow_succ]
          omega
        rw [Rfc9162.splitPoint, hLog]

theorem largestPow2LessThan_eq {n : Nat} (h : 2 ≤ n) :
    largestPow2LessThan n = Rfc9162.splitPoint n := by
  rw [largestPow2LessThan, if_neg (by omega)]
  exact largestPow2Loop_eq n 0 (by rw [pow_zero]; omega)

def merkleRoot (leafHashes : List Bytes) : Bytes :=
  if leafHashes.length = 0 then sha256 R []
  else if leafHashes.length = 1 then leafHashes.headD []
  else
    nodeHash R (merkleRoot (leafHashes.take (largestPow2LessThan leafHashes.length)))
      (merkleRoot (leafHashes.drop (largestPow2LessThan leafHashes.length)))
termination_by leafHashes.length
decreasing_by
  all_goals
    have hSplit := largestPow2LessThan_eq (show 2 ≤ leafHashes.length by omega)
    have hPos := Rfc9162.splitPoint_pos leafHashes.length
    have hLt := Rfc9162.splitPoint_lt (show 2 ≤ leafHashes.length by omega)
    simp only [List.length_take, List.length_drop]
    omega

/-- The halves of a list that is split are not empty. -/
theorem halves_ne_nil {leafHashes : List Bytes} (h : 2 ≤ leafHashes.length) :
    leafHashes.take (Rfc9162.splitPoint leafHashes.length) ≠ [] ∧
      leafHashes.drop (Rfc9162.splitPoint leafHashes.length) ≠ [] := by
  have hPos := Rfc9162.splitPoint_pos leafHashes.length
  have hLt := Rfc9162.splitPoint_lt h
  constructor
  · exact List.ne_nil_of_length_pos (by rw [List.length_take]; omega)
  · exact List.ne_nil_of_length_pos (by rw [List.length_drop]; omega)

/-- The root of a non-empty list is the root of its RFC 9162 tree. -/
theorem merkleRoot_eq_root (leafHashes : List Bytes) (h : leafHashes ≠ []) :
    merkleRoot R leafHashes = (Rfc9162.tree leafHashes).root R.crypto.sha256 := by
  induction leafHashes using merkleRoot.induct with
  | case1 leafHashes hZero => exact (h (List.length_eq_zero_iff.mp hZero)).elim
  | case2 leafHashes hZero hOne =>
      obtain ⟨digest, rfl⟩ := List.length_eq_one_iff.mp hOne
      rw [merkleRoot]
      simp [Tree.root]
  | case3 leafHashes hZero hOne ihl ihr =>
      have hTwo : 2 ≤ leafHashes.length := by omega
      have hSplit := largestPow2LessThan_eq hTwo
      obtain ⟨hTake, hDrop⟩ := halves_ne_nil hTwo
      rw [hSplit] at ihl ihr
      rw [merkleRoot, if_neg hZero, if_neg hOne, hSplit, ihl hTake, ihr hDrop,
        Rfc9162.tree_node hTwo, Tree.root]
      rfl

/-- `_audit_path`, which is never called on an empty list. -/
def auditPathLoop (m : Nat) (leafHashes : List Bytes) : List Bytes :=
  if leafHashes.length ≤ 1 then []
  else
    let k := largestPow2LessThan leafHashes.length
    if m < k then auditPathLoop m (leafHashes.take k) ++ [merkleRoot R (leafHashes.drop k)]
    else auditPathLoop (m - k) (leafHashes.drop k) ++ [merkleRoot R (leafHashes.take k)]
termination_by leafHashes.length
decreasing_by
  all_goals
    have hSplit := largestPow2LessThan_eq (show 2 ≤ leafHashes.length by omega)
    have hPos := Rfc9162.splitPoint_pos leafHashes.length
    have hLt := Rfc9162.splitPoint_lt (show 2 ≤ leafHashes.length by omega)
    simp only [List.length_take, List.length_drop]
    omega

/-- `audit_path`, absent where it raises `IndexError`, that is for an index
outside the list. -/
def auditPath (m : Int) (leafHashes : List Bytes) : Option (List Bytes) :=
  if m < 0 ∨ (leafHashes.length : Int) ≤ m then none
  else some (auditPathLoop R m.toNat leafHashes)

/-- The path holds the siblings of the leaf in the RFC 9162 tree. -/
theorem auditPathLoop_eq_siblings (m : Nat) (leafHashes : List Bytes) :
    auditPathLoop R m leafHashes = (Rfc9162.tree leafHashes).siblings R.crypto.sha256 m := by
  induction m, leafHashes using auditPathLoop.induct with
  | case1 m leafHashes hOne =>
      rw [auditPathLoop, if_pos hOne, Rfc9162.tree, if_neg (by omega), Tree.siblings]
  | case2 m leafHashes hMany k hLeft ih =>
      have hTwo : 2 ≤ leafHashes.length := by omega
      obtain ⟨hTake, hDrop⟩ := halves_ne_nil hTwo
      have hk : k = Rfc9162.splitPoint leafHashes.length := largestPow2LessThan_eq hTwo
      have hLt := Rfc9162.splitPoint_lt hTwo
      rw [auditPathLoop, if_neg hMany, Rfc9162.tree_node hTwo, Tree.siblings,
        Rfc9162.leaves_tree _ hTake]
      simp only
      rw [if_pos hLeft, if_pos (by rw [List.length_take]; omega), ih, ← hk,
        merkleRoot_eq_root R _ (by change leafHashes.drop k ≠ []; rw [hk]; exact hDrop)]
  | case3 m leafHashes hMany k hRight ih =>
      have hTwo : 2 ≤ leafHashes.length := by omega
      obtain ⟨hTake, hDrop⟩ := halves_ne_nil hTwo
      have hk : k = Rfc9162.splitPoint leafHashes.length := largestPow2LessThan_eq hTwo
      have hLt := Rfc9162.splitPoint_lt hTwo
      have hLength : (leafHashes.take (Rfc9162.splitPoint leafHashes.length)).length = k := by
        rw [List.length_take]
        omega
      rw [auditPathLoop, if_neg hMany, Rfc9162.tree_node hTwo, Tree.siblings,
        Rfc9162.leaves_tree _ hTake]
      simp only
      rw [if_neg hRight, hLength, if_neg hRight, ih, ← hk,
        merkleRoot_eq_root R _ (by change leafHashes.take k ≠ []; rw [hk]; exact hTake)]

/-- Inputs of the hashes behind a climb and behind the root over `data`; the
empty input stands for the root over no data. -/
def rootMessages (data : List Bytes) (x : Bytes) (steps : List (Side × Bytes)) : List Bytes :=
  [] :: membershipMessages R.crypto.sha256 (Rfc9162.tree (data.map (leafHash R))) data x steps

/-- Membership soundness against a root of any number of leaves: a hashed value
that climbs to it, by whatever steps, is among the data. -/
theorem mem_of_climb_eq_merkleRoot (data : List Bytes) (x : Bytes) (steps : List (Side × Bytes))
    (h : climb R.crypto.sha256 (leafHash R x) steps = merkleRoot R (data.map (leafHash R))) :
    x ∈ data ∨ R.crypto.sha256.CollisionIn (rootMessages R data x steps) := by
  by_cases hData : data = []
  · subst hData
    have hRoot : merkleRoot R (([] : List Bytes).map (leafHash R)) = sha256 R [] := by
      rw [merkleRoot]
      rfl
    rw [hRoot] at h
    refine Or.inr ?_
    rcases List.eq_nil_or_concat' steps with rfl | ⟨init, last, rfl⟩
    · exact ⟨leafMessage x, by simp [rootMessages, membershipMessages], [],
        List.mem_cons_self, by simp [leafMessage], h⟩
    · rw [climb_concat] at h
      refine ⟨stepMessage (climb R.crypto.sha256 (leafHash R x) init) last, ?_, [],
        List.mem_cons_self, ?_, h⟩
      · have hSame : MerkleTree.leafHash R.crypto.sha256 x = leafHash R x := rfl
        simp [rootMessages, membershipMessages, climbMessages_append, climbMessages, hSame]
      · obtain ⟨side, sibling⟩ := last
        cases side <;> simp [stepMessage, nodeMessage]
  · have hLeaves : data.map (leafHash R) ≠ [] := by simpa using hData
    rw [merkleRoot_eq_root R _ hLeaves] at h
    rcases mem_of_climb_eq_root R.crypto.sha256 _ data (Rfc9162.leaves_tree _ hLeaves) x steps h
      with hMem | hCollision
    · exact Or.inl hMem
    · exact Or.inr (hCollision.mono (List.subset_cons_self _ _))

/-- The inner loop of the walk, which leaves a lone right edge. -/
def dropZeroBits (fn sn : Nat) : Nat × Nat :=
  if fn % 2 = 0 ∧ fn ≠ 0 then dropZeroBits (fn / 2) (sn / 2) else (fn, sn)
termination_by fn

/-- The outer loop of `verify_inclusion` over the audit path. -/
def inclusionLoop (fn sn : Nat) (r : Bytes) (path : List Bytes) (expectedRoot : Bytes) : Bool :=
  match path with
  | [] => sn = 0 && r = expectedRoot
  | p :: rest =>
      if sn = 0 then false
      else if fn % 2 = 1 ∨ fn = sn then
        let (fn, sn) := if fn % 2 = 0 then dropZeroBits fn sn else (fn, sn)
        inclusionLoop (fn / 2) (sn / 2) (nodeHash R p r) rest expectedRoot
      else inclusionLoop (fn / 2) (sn / 2) (nodeHash R r p) rest expectedRoot

def verifyInclusion (leaf : Bytes) (leafIndex totalLeaves : Int) (path : List Bytes)
    (expectedRoot : Bytes) : Bool :=
  if leafIndex < 0 ∨ totalLeaves ≤ leafIndex ∨ totalLeaves = 0 then false
  else if totalLeaves = 1 then path.isEmpty && leaf = expectedRoot
  else inclusionLoop R leafIndex.toNat (totalLeaves - 1).toNat leaf path expectedRoot

/-- An edge that is skipped is the same edge one level up. -/
theorem counterSides_dropZeroBits {fn : Nat} (h : fn ≠ 0) :
    (dropZeroBits fn fn).1 = (dropZeroBits fn fn).2 ∧
      Rfc9162.counterSides fn fn =
        .left :: Rfc9162.counterSides ((dropZeroBits fn fn).1 / 2) ((dropZeroBits fn fn).2 / 2) := by
  induction fn using Nat.strongRecOn with
  | ind fn ih =>
      rw [dropZeroBits]
      split_ifs with hEven
      · rw [Rfc9162.counterSides_skip hEven.1]
        exact ih (fn / 2) (by omega) (by omega)
      · exact ⟨rfl, Rfc9162.counterSides_left h (by omega)⟩

/-- The loop accepts exactly a path of the length its counters ask for whose
climb reaches the expected root. -/
theorem inclusionLoop_iff (fn sn : Nat) (r : Bytes) (path : List Bytes) (expectedRoot : Bytes) :
    inclusionLoop R fn sn r path expectedRoot = true ↔
      path.length = (Rfc9162.counterSides fn sn).length ∧
        climb R.crypto.sha256 r ((Rfc9162.counterSides fn sn).zip path) = expectedRoot := by
  induction path generalizing fn sn r with
  | nil =>
      by_cases hsn : sn = 0
      · subst hsn
        simp [inclusionLoop]
      · have hLen := List.length_pos_of_ne_nil (@Rfc9162.counterSides_ne_nil fn sn hsn)
        have hShort : (0 : Nat) ≠ (Rfc9162.counterSides fn sn).length := by omega
        simp [inclusionLoop, hsn, hShort]
  | cons p rest ih =>
      by_cases hsn : sn = 0
      · subst hsn
        simp [inclusionLoop]
      · rw [inclusionLoop, if_neg hsn]
        by_cases hOdd : fn % 2 = 1
        · rw [if_pos (Or.inl hOdd), if_neg (by omega), ih, Rfc9162.counterSides_left hsn hOdd]
          simp [nodeHash, stepMessage, nodeMessage]
        · by_cases hEdge : fn = sn
          · subst hEdge
            obtain ⟨-, hSides⟩ := counterSides_dropZeroBits hsn
            rw [if_pos (Or.inr rfl), if_pos (by omega), ih, hSides]
            simp [nodeHash, stepMessage, nodeMessage]
          · rw [if_neg (by omega), ih, Rfc9162.counterSides_right hEdge hsn (by omega)]
            simp [nodeHash, stepMessage, nodeMessage]

/-- `verify_inclusion` is a bounded climb: the index is in range, the path has one
sibling for each level, and the climb ends at the root. -/
theorem verifyInclusion_iff (leaf : Bytes) (leafIndex totalLeaves : Int) (path : List Bytes)
    (expectedRoot : Bytes) :
    verifyInclusion R leaf leafIndex totalLeaves path expectedRoot = true ↔
      0 ≤ leafIndex ∧ leafIndex < totalLeaves ∧
        path.length = (Rfc9162.counterSides leafIndex.toNat (totalLeaves - 1).toNat).length ∧
        climb R.crypto.sha256 leaf
          ((Rfc9162.counterSides leafIndex.toNat (totalLeaves - 1).toNat).zip path) =
            expectedRoot := by
  unfold verifyInclusion
  split_ifs with hRange hOne
  · simp only [false_iff]
    omega
  · subst hOne
    have hIndex : 0 ≤ leafIndex ∧ leafIndex < 1 := by omega
    simp [hIndex]
  · have hIndex : 0 ≤ leafIndex ∧ leafIndex < totalLeaves := by omega
    rw [inclusionLoop_iff]
    simp [hIndex]

variable {R}

/-- Position soundness of the walk: told the true size, it accepts an envelope
at its own index only. -/
theorem getElem?_of_verifyInclusion {data : List Bytes} {canonical rootBytes : Bytes}
    {index : Int} {path : List Bytes}
    (h : verifyInclusion R (leafHash R canonical) index data.length path rootBytes = true)
    (hRoot : merkleRoot R (data.map (leafHash R)) = rootBytes) :
    data[index.toNat]? = some canonical ∨ R.crypto.sha256.CollisionIn (rootMessages R data canonical
      ((Rfc9162.counterSides index.toNat ((data.length : Int) - 1).toNat).zip path)) := by
  obtain ⟨hNonneg, hLt, hLen, hClimb⟩ := (verifyInclusion_iff R _ _ _ _ _).mp h
  have hIndex : index.toNat < (data.map (leafHash R)).length := by
    rw [List.length_map]
    omega
  have hNe : data.map (leafHash R) ≠ [] := List.ne_nil_of_length_pos (by omega)
  have hSides : Rfc9162.counterSides index.toNat ((data.length : Int) - 1).toNat =
      (Rfc9162.tree (data.map (leafHash R))).sides index.toNat := by
    rw [← Rfc9162.counterSides_eq_sides _ _ hIndex, List.length_map]
    congr 1
    omega
  rw [hSides] at hLen hClimb ⊢
  rw [merkleRoot_eq_root R _ hNe] at hRoot
  have hLeaves := Rfc9162.leaves_tree _ hNe
  rcases eq_of_climb_eq_root R.crypto.sha256 (Rfc9162.tree (data.map (leafHash R)))
      (by rw [hLeaves]; simp [leafHash]) index.toNat (by rw [hLeaves]; exact hIndex)
      (leafHash R canonical) (by simp [leafHash]) path hLen (hClimb.trans hRoot.symm) with
    ⟨hLeaf, -⟩ | hCollision
  · rw [hLeaves, List.getElem?_map, Option.map_eq_some_iff] at hLeaf
    obtain ⟨d, hd, hHash⟩ := hLeaf
    rcases HashFunction.eq_or_collisionIn (rootMessages R data canonical
        (((Rfc9162.tree (data.map (leafHash R))).sides index.toNat).zip path))
        (x := leafMessage d) (y := leafMessage canonical)
        (by simp [rootMessages, membershipMessages, List.mem_of_getElem? hd])
        (by simp [rootMessages, membershipMessages]) hHash with hEq | hCollision
    · rw [leafMessage_inj] at hEq
      exact Or.inl (hEq ▸ hd)
    · exact Or.inr hCollision
  · refine Or.inr (hCollision.mono fun m hm => ?_)
    have hSame : MerkleTree.leafHash R.crypto.sha256 canonical = leafHash R canonical := rfl
    simp only [rootMessages, membershipMessages, List.mem_cons, List.mem_append,
      List.cons_append, hSame] at hm ⊢
    tauto

/-- The path of a leaf is accepted at its own index. -/
theorem verifyInclusion_auditPath {leafHashes path : List Bytes} {index : Nat} {leaf : Bytes}
    (hPath : auditPath R index leafHashes = some path) (hLeaf : leafHashes[index]? = some leaf) :
    verifyInclusion R leaf index leafHashes.length path (merkleRoot R leafHashes) = true := by
  have hIndex : index < leafHashes.length := (List.getElem?_eq_some_iff.mp hLeaf).1
  have hNe : leafHashes ≠ [] := List.ne_nil_of_length_pos (by omega)
  obtain rfl : auditPathLoop R index leafHashes = path := by
    unfold auditPath at hPath
    rw [if_neg (by omega)] at hPath
    exact Option.some.inj hPath
  have hSides : Rfc9162.counterSides (index : Int).toNat ((leafHashes.length : Int) - 1).toNat =
      (Rfc9162.tree leafHashes).sides index := by
    rw [← Rfc9162.counterSides_eq_sides _ _ hIndex]
    congr 1
    omega
  apply (verifyInclusion_iff R _ _ _ _ _).mpr
  rw [hSides, auditPathLoop_eq_siblings, merkleRoot_eq_root R _ hNe]
  refine ⟨by omega, by omega, Tree.length_siblings R.crypto.sha256 _ _, ?_⟩
  apply climb_siblings
  rw [Rfc9162.leaves_tree _ hNe]
  exact hLeaf

end ArioProof.Python
