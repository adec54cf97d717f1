import ArioProof.Foundation.MerkleTree
import ArioProof.TypeScript.Number
import ArioProof.TypeScript.Runtime
import Mathlib.Tactic.Linarith

/-! `merkle.ts`, the verifying half. The counters are JavaScript numbers, which
the bit operators read as 32-bit integers. The walk is shown to be the climb
along the sides that these integers spell. -/
namespace ArioProof.TypeScript

open Foundation MerkleTree

variable (R : Runtime)

def leafHash (leafBytes : Bytes) : Bytes := R.crypto.sha256.digest (0x00 :: leafBytes)

def nodeHash (left right : Bytes) : Bytes := R.crypto.sha256.digest (0x01 :: (left ++ right))

/-- `(n & 1) === 1`, on the 32 bits that the operator leaves of a number. -/
def isOdd (n : Double) : Bool := n.toInt32 % 2 = 1

/-- `n >> 1`, on the 32 bits that the operator leaves of a number, the first of
them a sign. -/
def shiftRight (n : Double) : Double := .finite (n.toInt32 / 2 : ℤ)

theorem toInt32_bounds (n : Double) : -2 ^ 31 ≤ n.toInt32 ∧ n.toInt32 < 2 ^ 31 := by
  unfold Double.toInt32
  split <;> omega

theorem toInt32_of_bounds {n : ℤ} (h : -2 ^ 31 ≤ n) (h' : n < 2 ^ 31) :
    (Double.finite n).toInt32 = n := by
  simp only [Double.toInt32, Int.floor_intCast, Int.ceil_intCast, ite_self]
  omega

theorem toInt32_shiftRight (n : Double) : (shiftRight n).toInt32 = n.toInt32 / 2 := by
  have h := toInt32_bounds n
  exact toInt32_of_bounds (by omega) (by omega)

/-- The inner loop, which ends at an odd number or at zero. -/
def dropZeroBits (fn sn : Double) : Double × Double :=
  if !isOdd fn && !fn.eq (.finite 0) then dropZeroBits (shiftRight fn) (shiftRight sn)
  else (fn, sn)
termination_by if fn = .finite 0 then 0 else fn.toInt32.natAbs + 1
decreasing_by
  rename_i h
  simp only [Bool.and_eq_true, Bool.not_eq_true', isOdd, decide_eq_false_iff_not] at h
  have hNe : fn ≠ .finite 0 := by
    rintro rfl
    simp [Double.eq] at h
  have hShift := toInt32_shiftRight fn
  rw [if_neg hNe]
  split
  · omega
  · rename_i hZero
    have hHalf : fn.toInt32 / 2 ≠ 0 := by
      intro hHalf
      exact hZero (by rw [shiftRight, hHalf]; rfl)
    omega

/-- The walk over the siblings, with the index and the last index at each
level. -/
def inclusionLoop (fn sn : Double) (r : Bytes) (auditPath : List Bytes) (expectedRoot : Bytes) :
    Bool :=
  match auditPath with
  | [] => sn.eq (.finite 0) && r = expectedRoot
  | p :: rest =>
      if sn.eq (.finite 0) then false
      else if isOdd fn || fn.eq sn then
        let (fn, sn) := if isOdd fn then (fn, sn) else dropZeroBits fn sn
        inclusionLoop (shiftRight fn) (shiftRight sn) (nodeHash R p r) rest expectedRoot
      else inclusionLoop (shiftRight fn) (shiftRight sn) (nodeHash R r p) rest expectedRoot

/-- `verifyInclusion` on operands of any type. Only the index is required to be
a number; the total is converted wherever an operator meets it. -/
def verifyInclusion (leaf : Bytes) (leafIndex totalLeaves : Option Json) (auditPath : List Bytes)
    (expectedRoot : Bytes) : Except Str Bool :=
  let index? : Option Double :=
    match leafIndex with
    | some (.int n) => some (.ofRat n)
    | some (.float d) => some d
    | _ => none
  match index? with
  | none => .ok false
  | some index =>
      if !index.isInteger || index.lt (.finite 0) then .ok false
      else do
        let total ← toNumber totalLeaves
        if total.le (.finite 0) || total.le index then return false
        let isNumber := match totalLeaves with
          | some (.int _) | some (.float _) => true
          | _ => false
        if isNumber && total.eq (.finite 1) then
          return auditPath.isEmpty && leaf = expectedRoot
        return inclusionLoop R index (total.sub (.finite 1)) leaf auditPath expectedRoot

/-- The sides that the counters spell over a number of siblings, absent where
they ask for another number. -/
def wordSides (fn sn : Double) : Nat → Option (List Side)
  | 0 => if sn.eq (.finite 0) then some [] else none
  | siblings + 1 =>
      if sn.eq (.finite 0) then none
      else if isOdd fn || fn.eq sn then
        let (fn, sn) := if isOdd fn then (fn, sn) else dropZeroBits fn sn
        (wordSides (shiftRight fn) (shiftRight sn) siblings).map (.left :: ·)
      else (wordSides (shiftRight fn) (shiftRight sn) siblings).map (.right :: ·)

theorem length_wordSides {fn sn : Double} {siblings : Nat} {sides : List Side}
    (h : wordSides fn sn siblings = some sides) : sides.length = siblings := by
  induction siblings generalizing fn sn sides with
  | zero =>
      rw [wordSides] at h
      split_ifs at h
      obtain rfl := Option.some.inj h
      rfl
  | succ siblings ih =>
      rw [wordSides] at h
      split_ifs at h
      all_goals
        obtain ⟨rest, hRest, rfl⟩ := Option.map_eq_some_iff.mp h
        rw [List.length_cons, ih hRest]

/-- An index that stands for a leaf of a tree of that total. -/
structure InTree (index total : Double) : Prop where
  isInteger : index.isInteger = true
  nonneg : index.lt (.finite 0) = false
  positive : total.le (.finite 0) = false
  inside : total.le index = false

variable {R}

/-- The loop accepts exactly a path whose climb along these sides reaches the
expected root. -/
theorem inclusionLoop_iff {fn sn : Double} {r : Bytes} {path : List Bytes} {expectedRoot : Bytes} :
    inclusionLoop R fn sn r path expectedRoot = true ↔
      ∃ sides, wordSides fn sn path.length = some sides ∧
        climb R.crypto.sha256 r (sides.zip path) = expectedRoot := by
  induction path generalizing fn sn r with
  | nil =>
      rw [inclusionLoop, List.length_nil, wordSides]
      split_ifs with hZero
      · simp [hZero]
      · simp [hZero]
  | cons p rest ih =>
      rw [inclusionLoop, List.length_cons, wordSides]
      split_ifs with hZero hLeft hOdd
      · simp
      · simp only [ih, Option.map_eq_some_iff]
        constructor
        · rintro ⟨sides, hSides, hClimb⟩
          exact ⟨_, ⟨sides, hSides, rfl⟩, hClimb⟩
        · rintro ⟨_, ⟨sides, hSides, rfl⟩, hClimb⟩
          exact ⟨sides, hSides, hClimb⟩
      · simp only [ih, Option.map_eq_some_iff]
        constructor
        · rintro ⟨sides, hSides, hClimb⟩
          exact ⟨_, ⟨sides, hSides, rfl⟩, hClimb⟩
        · rintro ⟨_, ⟨sides, hSides, rfl⟩, hClimb⟩
          exact ⟨sides, hSides, hClimb⟩
      · simp only [ih, Option.map_eq_some_iff]
        constructor
        · rintro ⟨sides, hSides, hClimb⟩
          exact ⟨_, ⟨sides, hSides, rfl⟩, hClimb⟩
        · rintro ⟨_, ⟨sides, hSides, rfl⟩, hClimb⟩
          exact ⟨sides, hSides, hClimb⟩

/-- The only leaf of a tree takes no sibling. -/
theorem inclusionLoop_single {index total : Double} (h : InTree index total)
    (hOne : total.eq (.finite 1) = true) {leaf : Bytes} {path : List Bytes} {expectedRoot : Bytes} :
    inclusionLoop R index (total.sub (.finite 1)) leaf path expectedRoot =
      (path.isEmpty && leaf = expectedRoot) := by
  obtain rfl : total = .finite 1 := by
    cases total <;> simp_all [Double.eq]
  have hLast : (Double.finite 1).sub (.finite 1) = .finite 0 := by
    rw [Double.sub, sub_self, Double.ofRat, if_pos rfl]
  rw [hLast]
  cases path with
  | nil => simp [inclusionLoop, Double.eq]
  | cons p rest => simp [inclusionLoop, Double.eq]

/-- The walk from an index that is a number. -/
theorem walk_iff (index : Double) (isNumber : Bool) {leaf : Bytes} {totalLeaves : Option Json}
    {path : List Bytes} {expectedRoot : Bytes} :
    (if !index.isInteger || index.lt (.finite 0) then .ok false
      else do
        let total ← toNumber totalLeaves
        if total.le (.finite 0) || total.le index then return false
        if isNumber && total.eq (.finite 1) then
          return path.isEmpty && leaf = expectedRoot
        return inclusionLoop R index (total.sub (.finite 1)) leaf path expectedRoot :
          Except Str Bool) = .ok true ↔
      ∃ total sides, toNumber totalLeaves = .ok total ∧ InTree index total ∧
        wordSides index (total.sub (.finite 1)) path.length = some sides ∧
        climb R.crypto.sha256 leaf (sides.zip path) = expectedRoot := by
  by_cases hIndex : (!index.isInteger || index.lt (.finite 0)) = true
  · rw [if_pos hIndex]
    refine iff_of_false (by simp) ?_
    rintro ⟨total, sides, -, hIn, -⟩
    simp [hIn.isInteger, hIn.nonneg] at hIndex
  rw [if_neg hIndex]
  cases toNumber totalLeaves with
  | error text => simp [bind, Except.bind]
  | ok total =>
      simp only [bind, Except.bind, pure, Except.pure, Except.ok.injEq, exists_and_left,
        exists_eq_left']
      by_cases hRange : (total.le (.finite 0) || total.le index) = true
      · rw [if_pos hRange]
        refine iff_of_false (by simp) ?_
        rintro ⟨hIn, -⟩
        simp [hIn.positive, hIn.inside] at hRange
      rw [if_neg hRange]
      have hIn : InTree index total := by
        simp only [Bool.or_eq_true, Bool.not_eq_true', not_or, Bool.not_eq_false,
          Bool.not_eq_true] at hIndex hRange
        exact ⟨hIndex.1, hIndex.2, hRange.1, hRange.2⟩
      rw [and_iff_right hIn, ← inclusionLoop_iff]
      split_ifs with hOne
      · rw [inclusionLoop_single hIn (Bool.and_eq_true_iff.mp hOne).2, Except.ok.injEq]
      · rw [Except.ok.injEq]

/-- `verifyInclusion` is a climb from an index that is a number, in a tree of
whatever number the total is converted to. -/
theorem verifyInclusion_iff {leaf : Bytes} {leafIndex totalLeaves : Option Json} {path : List Bytes}
    {expectedRoot : Bytes} :
    verifyInclusion R leaf leafIndex totalLeaves path expectedRoot = .ok true ↔
      ∃ index, leafIndex.bind number? = some index ∧
        ∃ total sides, toNumber totalLeaves = .ok total ∧ InTree index total ∧
          wordSides index (total.sub (.finite 1)) path.length = some sides ∧
          climb R.crypto.sha256 leaf (sides.zip path) = expectedRoot := by
  cases leafIndex with
  | none => simp [verifyInclusion]
  | some v =>
      cases v with
      | int n =>
          simp only [Option.bind_some, number?, Option.some.injEq, exists_eq_left']
          exact walk_iff (.ofRat n) _
      | float d =>
          simp only [Option.bind_some, number?, Option.some.injEq, exists_eq_left']
          exact walk_iff d _
      | _ => simp [verifyInclusion, number?]

end ArioProof.TypeScript
