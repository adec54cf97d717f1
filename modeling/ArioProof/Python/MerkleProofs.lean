import ArioProof.Foundation.Outcome
import ArioProof.Python.Merkle
import ArioProof.Reference.Bundle

/-! The laws of `merkle.py`: what an accepted proof pins down, that the proof of
every leaf is accepted, and that a root commits to the whole list. -/
namespace ArioProof.Python

open Foundation MerkleTree

variable (R : Runtime)

/-- Inputs of the hashes behind the walk of a proof and behind the root. -/
def proofMessages (leafHashes : List Bytes) (index : Nat) (leaf : Bytes) (path : List Bytes) :
    List Bytes :=
  climbMessages R.crypto.sha256 leaf (((Rfc9162.tree leafHashes).sides index).zip path) ++
    (Rfc9162.tree leafHashes).messages R.crypto.sha256

/-- An accepted proof pins down the index, the leaf and the path: against the root
of a list, the leaf is the entry at that index and the path is its audit path, or
two of the messages that were hashed are a collision. -/
theorem verifyInclusion_sound (leafHashes : List Bytes) (hNe : leafHashes ≠ [])
    (hWidth : ∀ digest ∈ leafHashes, digest.length = 32) (index : Int) (leaf : Bytes)
    (hLeaf : leaf.length = 32) (path : List Bytes)
    (h : verifyInclusion R leaf index leafHashes.length path (merkleRoot R leafHashes) = true) :
    0 ≤ index ∧ index < leafHashes.length ∧
      (leafHashes[index.toNat]? = some leaf ∧ auditPath R index leafHashes = some path ∨
        R.crypto.sha256.CollisionIn (proofMessages R leafHashes index.toNat leaf path)) := by
  obtain ⟨hFrom, hTo, hLength, hClimb⟩ := (verifyInclusion_iff R _ _ _ _ _).mp h
  refine ⟨hFrom, hTo, ?_⟩
  have hIndex : index.toNat < leafHashes.length := by omega
  have hLast : ((leafHashes.length : Int) - 1).toNat = leafHashes.length - 1 := by omega
  have hLeaves := Rfc9162.leaves_tree _ hNe
  rw [hLast, Rfc9162.counterSides_eq_sides _ _ hIndex] at hLength hClimb
  rw [merkleRoot_eq_root R _ hNe] at hClimb
  rcases eq_of_climb_eq_root R.crypto.sha256 (Rfc9162.tree leafHashes)
      (by rwa [hLeaves]) index.toNat (by rwa [hLeaves]) leaf hLeaf path hLength hClimb with
    ⟨hGet, rfl⟩ | hCollision
  · rw [hLeaves] at hGet
    refine Or.inl ⟨hGet, ?_⟩
    rw [auditPath, if_neg (by omega), auditPathLoop_eq_siblings]
  · exact Or.inr hCollision

section Termination

/-- One turn of the loop of `_largest_pow2_less_than`. -/
def largestPow2Step (n k : Nat) : Option Nat := if k * 2 < n then some (k * 2) else none

/-- One turn of the inner loop of `verify_inclusion`. -/
def dropZeroStep (counters : Nat × Nat) : Option (Nat × Nat) :=
  if counters.1 % 2 = 0 ∧ counters.1 ≠ 0 then some (counters.1 / 2, counters.2 / 2) else none

/-- The turns lead to what the loop returns. -/
theorem endsIn_largestPow2Loop (n : Nat) {k : Nat} (h : 0 < k) :
    EndsIn (largestPow2Step n) k (largestPow2Loop n k) := by
  induction hGap : n - k using Nat.strongRecOn generalizing k with
  | ind gap ih =>
      rw [largestPow2Loop]
      by_cases hNext : k * 2 < n
      · rw [if_pos ⟨h, hNext⟩]
        exact .turn (if_pos hNext) (ih (n - k * 2) (by omega) (by omega) rfl)
      · rw [if_neg fun hBoth => hNext hBoth.2]
        exact .leave (if_neg hNext)

/-- The turns lead to what the inner loop leaves behind. -/
theorem endsIn_dropZeroBits (fn sn : Nat) :
    EndsIn dropZeroStep (fn, sn) (dropZeroBits fn sn) := by
  induction fn using Nat.strongRecOn generalizing sn with
  | ind fn ih =>
      rw [dropZeroBits]
      by_cases hNext : fn % 2 = 0 ∧ fn ≠ 0
      · rw [if_pos hNext]
        exact .turn (if_pos hNext) (ih (fn / 2) (by omega) (sn / 2))
      · rw [if_neg hNext]
        exact .leave (if_neg hNext)

/-- The two recursive calls are on shorter lists that are not empty. -/
theorem length_halves {leafHashes : List Bytes} (h : 2 ≤ leafHashes.length) :
    0 < (leafHashes.take (largestPow2LessThan leafHashes.length)).length ∧
      (leafHashes.take (largestPow2LessThan leafHashes.length)).length < leafHashes.length ∧
      0 < (leafHashes.drop (largestPow2LessThan leafHashes.length)).length ∧
      (leafHashes.drop (largestPow2LessThan leafHashes.length)).length < leafHashes.length := by
  have hPos := Rfc9162.splitPoint_pos leafHashes.length
  have hLt := Rfc9162.splitPoint_lt h
  rw [largestPow2LessThan_eq h, List.length_take, List.length_drop]
  omega

end Termination

/-- The proof of every leaf is accepted, whatever the length of the list; every
recursion and loop behind it ends; and a proof is refused exactly for an index
outside the range. -/
theorem verifyInclusion_complete :
    (∀ (leafHashes : List Bytes) (m : Nat) (leaf : Bytes), leafHashes[m]? = some leaf →
      ∃ path, auditPath R m leafHashes = some path ∧
        verifyInclusion R leaf m leafHashes.length path (merkleRoot R leafHashes) = true) ∧
    (∀ (m : Int) (leafHashes : List Bytes), auditPath R m leafHashes = none ↔
      ¬(0 ≤ m ∧ m < leafHashes.length)) ∧
    (∀ leafHashes : List Bytes, 2 ≤ leafHashes.length →
      0 < (leafHashes.take (largestPow2LessThan leafHashes.length)).length ∧
      (leafHashes.take (largestPow2LessThan leafHashes.length)).length < leafHashes.length ∧
      0 < (leafHashes.drop (largestPow2LessThan leafHashes.length)).length ∧
      (leafHashes.drop (largestPow2LessThan leafHashes.length)).length < leafHashes.length) ∧
    (∀ n, Terminates (largestPow2Step n) 1) ∧
    ∀ fn sn, Terminates dropZeroStep (fn, sn) := by
  refine ⟨fun leafHashes m leaf hLeaf => ?_, fun m leafHashes => ?_, fun _ => length_halves,
    fun n => (endsIn_largestPow2Loop n one_pos).terminates,
    fun fn sn => (endsIn_dropZeroBits fn sn).terminates⟩
  · have hRange := (List.getElem?_eq_some_iff.mp hLeaf).1
    have hPath : auditPath R m leafHashes = some (auditPathLoop R m leafHashes) := by
      rw [auditPath, if_neg (by omega)]
      rfl
    exact ⟨_, hPath, verifyInclusion_auditPath hPath hLeaf⟩
  · unfold auditPath
    split_ifs with hRange
    · exact iff_of_true rfl (by omega)
    · exact iff_of_false (by simp) (by omega)

/-- Inputs of the hashes behind the root over some data. -/
def commitMessages (data : List Bytes) : List Bytes :=
  [] :: treeMessages R.crypto.sha256 (Rfc9162.tree (data.map (leafHash R))) data

/-- Some input of the root over data is not the empty message, and has the root
for its hash. -/
theorem exists_message_of_root {data : List Bytes} (h : data ≠ []) :
    ∃ message ∈ commitMessages R data, message ≠ [] ∧
      R.crypto.sha256.digest message = merkleRoot R (data.map (leafHash R)) := by
  have hLeaves := Rfc9162.leaves_tree (data.map (leafHash R)) (by simpa using h)
  rw [merkleRoot_eq_root R _ (by simpa using h)]
  unfold commitMessages
  cases hTree : Rfc9162.tree (data.map (leafHash R)) with
  | leaf digest =>
      rw [hTree] at hLeaves
      obtain ⟨d, rfl, hd⟩ := data_of_leaf R.crypto.sha256 hLeaves
      exact ⟨leafMessage d, List.mem_cons_of_mem _ (leafMessage_mem_treeMessages _ _ d),
        by simp [leafMessage], hd⟩
  | node left right =>
      exact ⟨_, List.mem_cons_of_mem _ (nodeMessage_mem_treeMessages _ left right data),
        by simp [nodeMessage], rfl⟩

/-- A root commits to the whole list, its length included. Two lists with one root
are the same list, or two messages that were hashed for them are a collision. -/
theorem merkleRoot_commits (data other : List Bytes)
    (h : merkleRoot R (data.map (leafHash R)) = merkleRoot R (other.map (leafHash R))) :
    data = other ∨
      R.crypto.sha256.CollisionIn (commitMessages R data ++ commitMessages R other) := by
  have hEmpty : merkleRoot R (([] : List Bytes).map (leafHash R)) = sha256 R [] := by
    rw [merkleRoot]
    rfl
  by_cases hData : data = []
  · by_cases hOther : other = []
    · exact Or.inl (hData.trans hOther.symm)
    · subst hData
      obtain ⟨message, hMem, hNe, hRoot⟩ := exists_message_of_root R hOther
      exact Or.inr ⟨[], List.mem_append_left _ List.mem_cons_self, message,
        List.mem_append_right _ hMem, hNe.symm, hEmpty.symm.trans (h.trans hRoot.symm)⟩
  · by_cases hOther : other = []
    · subst hOther
      obtain ⟨message, hMem, hNe, hRoot⟩ := exists_message_of_root R hData
      exact Or.inr ⟨message, List.mem_append_left _ hMem, [],
        List.mem_append_right _ List.mem_cons_self, hNe, hRoot.trans (h.trans hEmpty)⟩
    · have hLeaves {list : List Bytes} (hList : list ≠ []) :=
        Rfc9162.leaves_tree (list.map (leafHash R)) (by simpa using hList)
      rw [merkleRoot_eq_root R _ (by simpa using hData),
        merkleRoot_eq_root R _ (by simpa using hOther)] at h
      rcases eq_of_root_eq R.crypto.sha256 _ _ data other (hLeaves hData) (hLeaves hOther) h with
        hEq | hCollision
      · exact Or.inl hEq
      · refine Or.inr (hCollision.mono (List.append_subset.mpr ⟨?_, ?_⟩))
        · exact List.subset_append_of_subset_left _ (List.subset_cons_self _ _)
        · exact List.subset_append_of_subset_right _ (List.subset_cons_self _ _)

section Sample

open Reference

abbrev treeRuntime : Runtime := python (signedWith [])

/-- A tree of three leaves, whose last one is a lone right edge. -/
def threeLeaves : List Bytes := [octets 32 1, octets 32 2, octets 32 3]

theorem verifyInclusion_sound_sample :
    (threeLeaves[2]? = some (octets 32 3) ∧ auditPath treeRuntime 2 threeLeaves =
      some [nodeHash treeRuntime (octets 32 1) (octets 32 2)]) ∨
    treeRuntime.crypto.sha256.CollisionIn (proofMessages treeRuntime threeLeaves 2 (octets 32 3)
      [nodeHash treeRuntime (octets 32 1) (octets 32 2)]) := by
  obtain ⟨-, -, h⟩ := verifyInclusion_sound treeRuntime threeLeaves (by decide) (by decide) 2
    (octets 32 3) (length_octets 32 3) [nodeHash treeRuntime (octets 32 1) (octets 32 2)]
    (by decide +kernel)
  exact h

theorem merkleRoot_commits_sample :
    threeLeaves = (List.range 3).map (fun n => octets 32 (n + 1)) ∨
    treeRuntime.crypto.sha256.CollisionIn (commitMessages treeRuntime threeLeaves ++
      commitMessages treeRuntime ((List.range 3).map fun n => octets 32 (n + 1))) :=
  merkleRoot_commits treeRuntime threeLeaves ((List.range 3).map fun n => octets 32 (n + 1))
    (by decide +kernel)

end Sample
end ArioProof.Python
