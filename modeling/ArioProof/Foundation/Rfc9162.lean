import ArioProof.Foundation.MerkleTree
import Mathlib.Data.Nat.Log
import Mathlib.Tactic.Ring

/-! The RFC 9162 tree shape. A tree of `n` leaves splits at the largest power
of two below `n`. A verifier does not build the tree: it walks two counters,
the leaf index and the last index, and reads the sides off their low bits.
The two descriptions of the sides are proved equal here. -/
namespace Foundation.Rfc9162

open MerkleTree

/-- The largest power of two strictly below `n`, for `n` at least two. -/
def splitPoint (n : Nat) : Nat := 2 ^ Nat.log 2 (n - 1)

theorem splitPoint_pos (n : Nat) : 0 < splitPoint n := Nat.two_pow_pos _

theorem splitPoint_lt {n : Nat} (h : 2 ≤ n) : splitPoint n < n := by
  have := Nat.pow_log_le_self 2 (show n - 1 ≠ 0 by omega)
  unfold splitPoint
  omega

/-- The tree over a non-empty list of leaf digests. The value on the empty
list is never used by the theorems below. -/
def tree (leaves : List Bytes) : Tree :=
  if 2 ≤ leaves.length then
    .node (tree (leaves.take (splitPoint leaves.length)))
      (tree (leaves.drop (splitPoint leaves.length)))
  else .leaf (leaves.headD [])
termination_by leaves.length
decreasing_by
  · have := splitPoint_lt ‹2 ≤ leaves.length›
    simp only [List.length_take]
    omega
  · have := splitPoint_pos leaves.length
    simp only [List.length_drop]
    omega

theorem tree_node {leaves : List Bytes} (h : 2 ≤ leaves.length) :
    tree leaves = .node (tree (leaves.take (splitPoint leaves.length)))
      (tree (leaves.drop (splitPoint leaves.length))) := by
  rw [tree, if_pos h]

@[simp] theorem tree_singleton (digest : Bytes) : tree [digest] = .leaf digest := by
  rw [tree]
  simp

/-- The tree keeps the leaves in order, however it splits them. -/
theorem leaves_tree (leaves : List Bytes) (h : leaves ≠ []) : (tree leaves).leaves = leaves := by
  induction leaves using tree.induct with
  | case1 leaves hTwo ihl ihr =>
      have hk := splitPoint_lt hTwo
      have hp := splitPoint_pos leaves.length
      have hTake : leaves.take (splitPoint leaves.length) ≠ [] :=
        List.ne_nil_of_length_pos (by rw [List.length_take]; omega)
      have hDrop : leaves.drop (splitPoint leaves.length) ≠ [] :=
        List.ne_nil_of_length_pos (by rw [List.length_drop]; omega)
      rw [tree_node hTwo, Tree.leaves, ihl hTake, ihr hDrop, List.take_append_drop]
  | case2 leaves hOne =>
      obtain ⟨digest, rfl⟩ : ∃ digest, leaves = [digest] := by
        apply List.length_eq_one_iff.mp
        have := List.length_pos_of_ne_nil h
        omega
      simp [Tree.leaves]

/-- Sides read off the counters of a verifier: `fn` is the position and `sn`
the last position on the current level. A lone right edge, where the two agree
and are even, rises without consuming a sibling. -/
def counterSides (fn sn : Nat) : List Side :=
  if sn = 0 then []
  else if fn = sn ∧ fn % 2 = 0 then counterSides (fn / 2) (sn / 2)
  else (if fn % 2 = 1 ∨ fn = sn then .left else .right) :: counterSides (fn / 2) (sn / 2)
termination_by sn

@[simp] theorem counterSides_zero (fn : Nat) : counterSides fn 0 = [] := by
  rw [counterSides, if_pos rfl]

theorem counterSides_skip {fn : Nat} (h : fn % 2 = 0) :
    counterSides fn fn = counterSides (fn / 2) (fn / 2) := by
  by_cases hz : fn = 0
  · subst hz; rfl
  · rw [counterSides, if_neg hz, if_pos ⟨rfl, h⟩]

theorem counterSides_left {fn sn : Nat} (hsn : sn ≠ 0) (h : fn % 2 = 1) :
    counterSides fn sn = .left :: counterSides (fn / 2) (sn / 2) := by
  rw [counterSides, if_neg hsn, if_neg (by omega), if_pos (Or.inl h)]

theorem counterSides_right {fn sn : Nat} (hne : fn ≠ sn) (hsn : sn ≠ 0) (h : fn % 2 = 0) :
    counterSides fn sn = .right :: counterSides (fn / 2) (sn / 2) := by
  rw [counterSides, if_neg hsn, if_neg (by omega), if_neg (by omega)]

/-- Counters that are not exhausted ask for at least one sibling. -/
theorem counterSides_ne_nil {fn sn : Nat} (h : sn ≠ 0) : counterSides fn sn ≠ [] := by
  induction fn, sn using counterSides.induct with
  | case1 fn => exact (h rfl).elim
  | case2 fn sn hsn hEven ih =>
      obtain ⟨rfl, hEven⟩ := hEven
      rw [counterSides_skip hEven]
      exact ih (by omega)
  | case3 fn sn hsn hOdd ih => rw [counterSides, if_neg hsn, if_neg hOdd]; simp

/-- Counters whose high bits agree are walked below those first: the high bits
add the siblings of a right edge of their own. -/
theorem counterSides_highBits (b h fn sn : Nat) (hle : fn ≤ sn) (hlt : sn < 2 ^ b) :
    counterSides (2 ^ b * h + fn) (2 ^ b * h + sn) = counterSides fn sn ++ counterSides h h := by
  induction b generalizing fn sn with
  | zero =>
      obtain rfl : sn = 0 := by simpa using hlt
      obtain rfl : fn = 0 := by omega
      simp
  | succ b ih =>
      have hPow : 2 ^ (b + 1) * h = 2 * (2 ^ b * h) := by ring
      have hHalf := ih (fn / 2) (sn / 2) (by omega) (by omega)
      have hfn : (2 ^ (b + 1) * h + fn) / 2 = 2 ^ b * h + fn / 2 := by omega
      have hsn : (2 ^ (b + 1) * h + sn) / 2 = 2 ^ b * h + sn / 2 := by omega
      rcases Nat.mod_two_eq_zero_or_one fn with hEven | hOdd
      · by_cases hEq : fn = sn
        · subst hEq
          rw [counterSides_skip (by omega), counterSides_skip hEven, hfn, hHalf]
        · rw [counterSides_right (by omega) (by omega) (by omega),
            counterSides_right hEq (by omega) hEven, hfn, hsn, hHalf, List.cons_append]
      · rw [counterSides_left (by omega) (by omega), counterSides_left (by omega) hOdd,
          hfn, hsn, hHalf, List.cons_append]

/-- A right subtree under a perfect left one: both counters carry the same top
bit, and it adds one last sibling on the left. -/
theorem counterSides_topBit (b fn sn : Nat) (hle : fn ≤ sn) (hlt : sn < 2 ^ b) :
    counterSides (2 ^ b + fn) (2 ^ b + sn) = counterSides fn sn ++ [.left] := by
  have hOne : counterSides 1 1 = [.left] := by
    rw [counterSides_left one_ne_zero rfl]
    exact congrArg _ (counterSides_zero 0)
  have hBits := counterSides_highBits b 1 fn sn hle hlt
  rwa [hOne, mul_one] at hBits

theorem counterSides_two_pow (j : Nat) : counterSides (2 ^ j) (2 ^ j) = [.left] := by
  induction j with
  | zero =>
      rw [counterSides_left (by simp) (by simp)]
      exact congrArg _ (counterSides_zero 0)
  | succ j ih =>
      rw [counterSides_skip (by rw [pow_succ]; omega), show 2 ^ (j + 1) / 2 = 2 ^ j by rw [pow_succ]; omega]
      exact ih

/-- A right edge asks for one sibling exactly at the powers of two. -/
theorem length_counterSides_self_eq_one_iff {n : Nat} (h : n ≠ 0) :
    (counterSides n n).length = 1 ↔ ∃ j, n = 2 ^ j := by
  induction n using Nat.strongRecOn with
  | ind n ih =>
      rcases Nat.mod_two_eq_zero_or_one n with hEven | hOdd
      · rw [counterSides_skip hEven, ih (n / 2) (by omega) (by omega)]
        constructor
        · rintro ⟨j, hj⟩
          exact ⟨j + 1, by rw [pow_succ]; omega⟩
        · rintro ⟨j, rfl⟩
          cases j with
          | zero => simp at hEven
          | succ j => exact ⟨j, by rw [pow_succ]; omega⟩
      · rw [counterSides_left h hOdd, List.length_cons]
        constructor
        · intro hLength
          have hHalf : n / 2 = 0 := by
            by_contra hNe
            have := List.length_pos_of_ne_nil (@counterSides_ne_nil (n / 2) _ hNe)
            omega
          exact ⟨0, by rw [pow_zero]; omega⟩
        · rintro ⟨j, rfl⟩
          cases j with
          | zero => simp
          | succ j => rw [pow_succ] at hOdd; omega

/-- Counters that differ above some bits ask for a sibling at each of these. -/
theorem lt_length_counterSides {k fn sn : Nat} (h : fn / 2 ^ k < sn / 2 ^ k) :
    k < (counterSides fn sn).length := by
  induction k generalizing fn sn with
  | zero =>
      rw [pow_zero, Nat.div_one, Nat.div_one] at h
      exact List.length_pos_of_ne_nil (counterSides_ne_nil (by omega))
  | succ k ih =>
      rw [pow_succ', ← Nat.div_div_eq_div_mul, ← Nat.div_div_eq_div_mul] at h
      have hLt : fn < sn := by
        by_contra hGe
        have := Nat.div_le_div_right (c := 2 ^ k) (Nat.div_le_div_right (c := 2) (not_lt.mp hGe))
        omega
      have hHalf := ih h
      rcases Nat.mod_two_eq_zero_or_one fn with hEven | hOdd
      · rw [counterSides_right (by omega) (by omega) hEven, List.length_cons]
        omega
      · rw [counterSides_left (by omega) hOdd, List.length_cons]
        omega

/-- A perfect left subtree: the top bit of the last index alone decides nothing
below it and adds one last sibling on the right. -/
theorem counterSides_perfect (b fn sn : Nat) (hfn : fn < 2 ^ b) (hsn : sn < 2 ^ b) :
    counterSides fn (2 ^ b + sn) = counterSides fn (2 ^ b - 1) ++ [.right] := by
  induction b generalizing fn sn with
  | zero =>
      obtain rfl : sn = 0 := by simpa using hsn
      obtain rfl : fn = 0 := by simpa using hfn
      rw [counterSides_right (by simp) (by simp) rfl]
      simp
  | succ b ih =>
      have hPow : 2 ^ (b + 1) = 2 * 2 ^ b := by ring
      have hBit := Nat.two_pow_pos b
      have hHalf := ih (fn / 2) (sn / 2) (by omega) (by omega)
      have hLong : (2 ^ (b + 1) + sn) / 2 = 2 ^ b + sn / 2 := by omega
      have hShort : (2 ^ (b + 1) - 1) / 2 = 2 ^ b - 1 := by omega
      rcases Nat.mod_two_eq_zero_or_one fn with hEven | hOdd
      · rw [counterSides_right (by omega) (by omega) hEven,
          counterSides_right (by omega) (by omega) hEven, hLong, hShort, hHalf, List.cons_append]
      · rw [counterSides_left (by omega) hOdd, counterSides_left (by omega) hOdd,
          hLong, hShort, hHalf, List.cons_append]

/-- The counters of a verifier that is told the true size visit exactly the
sides of the position in the tree. -/
theorem counterSides_eq_sides (leaves : List Bytes) (i : Nat) (hi : i < leaves.length) :
    counterSides i (leaves.length - 1) = (tree leaves).sides i := by
  induction leaves using tree.induct generalizing i with
  | case1 leaves hTwo ihl ihr =>
      have hk := splitPoint_lt hTwo
      have hp := splitPoint_pos leaves.length
      have hUpper : leaves.length - 1 < 2 * splitPoint leaves.length := by
        have := Nat.lt_pow_succ_log_self (b := 2) (by omega) (leaves.length - 1)
        rw [pow_succ, mul_comm] at this
        exact this
      have hTake : (leaves.take (splitPoint leaves.length)).length = splitPoint leaves.length := by
        rw [List.length_take]
        omega
      have hDrop : (leaves.drop (splitPoint leaves.length)).length =
          leaves.length - splitPoint leaves.length := List.length_drop
      have hCount : (tree (leaves.take (splitPoint leaves.length))).leaves.length =
          splitPoint leaves.length := by
        rw [leaves_tree _ (List.ne_nil_of_length_pos (by omega)), hTake]
      rw [tree_node hTwo, Tree.sides, hCount]
      have hLast : leaves.length - 1 =
          splitPoint leaves.length + (leaves.length - 1 - splitPoint leaves.length) := by omega
      split_ifs with hlt
      · rw [← ihl i (by omega), hTake, hLast]
        exact counterSides_perfect _ _ _ hlt (by
          change _ < splitPoint leaves.length
          omega)
      · have hRight := ihr (i - splitPoint leaves.length) (by omega)
        rw [← hRight, hDrop]
        have hTop := counterSides_topBit (Nat.log 2 (leaves.length - 1))
          (i - splitPoint leaves.length) (leaves.length - 1 - splitPoint leaves.length)
          (by omega) (by change _ < splitPoint leaves.length; omega)
        change counterSides (splitPoint leaves.length + _) (splitPoint leaves.length + _) = _ at hTop
        rw [← hLast, Nat.add_sub_cancel' (by omega)] at hTop
        rw [hTop, Nat.sub_right_comm]
  | case2 leaves hOne =>
      obtain ⟨digest, rfl⟩ : ∃ digest, leaves = [digest] :=
        List.length_eq_one_iff.mp (by omega)
      simp [Tree.sides]

end Foundation.Rfc9162
