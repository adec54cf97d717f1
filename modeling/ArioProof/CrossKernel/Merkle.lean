import ArioProof.Python.MerkleProofs
import ArioProof.Reference.Bundle
import ArioProof.TypeScript.Merkle

/-! The Merkle walks of the two kernels on counters of any size. One counts with
unbounded integers, the other with numbers that its bit operators wrap around
at 32 bits. -/
namespace ArioProof.CrossKernel

open Foundation TypeScript

variable {P : Python.Runtime} {T : TypeScript.Runtime}

section Counters

theorem toInt32_natCast (n : Nat) :
    (Double.finite (n : ℚ)).toInt32 = ((n : ℤ) + 2 ^ 31) % 2 ^ 32 - 2 ^ 31 := by
  simp [Double.toInt32]

theorem toInt32_of_lt {n : Nat} (h : n < 2 ^ 31) : (Double.finite (n : ℚ)).toInt32 = n := by
  rw [toInt32_natCast]
  omega

/-- Parity survives the wrap to 32 bits, since it is the last bit. -/
theorem isOdd_natCast (n : Nat) : isOdd (.finite (n : ℚ)) = decide (n % 2 = 1) := by
  unfold isOdd
  rw [toInt32_natCast, decide_eq_decide]
  omega

theorem shiftRight_of_toInt32 {d : Double} {n : Nat} (h : d.toInt32 = n) :
    shiftRight d = .finite ((n / 2 : Nat) : ℚ) := by
  rw [shiftRight, h]
  norm_cast

theorem shiftRight_of_lt {n : Nat} (h : n < 2 ^ 31) :
    shiftRight (.finite (n : ℚ)) = .finite ((n / 2 : Nat) : ℚ) :=
  shiftRight_of_toInt32 (toInt32_of_lt h)

theorem eq_natCast (m n : Nat) :
    (Double.finite (m : ℚ)).eq (.finite (n : ℚ)) = decide (m = n) := by
  simp [Double.eq]

theorem eq_zero_natCast (n : Nat) : (Double.finite (n : ℚ)).eq (.finite 0) = decide (n = 0) := by
  simp [Double.eq]

/-- Below the sign bit the inner loops agree. -/
theorem dropZeroBits_of_lt {fn sn : Nat} (hfn : fn < 2 ^ 31) (hsn : sn < 2 ^ 31) :
    dropZeroBits (.finite (fn : ℚ)) (.finite (sn : ℚ)) =
      (.finite ((Python.dropZeroBits fn sn).1 : ℚ), .finite ((Python.dropZeroBits fn sn).2 : ℚ)) := by
  induction fn using Nat.strongRecOn generalizing sn with
  | ind fn ih =>
      rw [dropZeroBits, Python.dropZeroBits, isOdd_natCast, eq_zero_natCast]
      by_cases hMore : fn % 2 = 0 ∧ fn ≠ 0
      · have hTurn : (!decide (fn % 2 = 1) && !decide (fn = 0)) = true := by
          simp only [Bool.and_eq_true, Bool.not_eq_true', decide_eq_false_iff_not]
          omega
        rw [if_pos hTurn, if_pos hMore, shiftRight_of_lt hfn, shiftRight_of_lt hsn]
        exact ih (fn / 2) (by omega) (by omega) (by omega)
      · have hLast : ¬(!decide (fn % 2 = 1) && !decide (fn = 0)) = true := by
          simp only [Bool.and_eq_true, Bool.not_eq_true', decide_eq_false_iff_not]
          omega
        rw [if_neg hLast, if_neg hMore]

theorem dropZeroBits_le (fn sn : Nat) : (Python.dropZeroBits fn sn).1 ≤ fn ∧
    (Python.dropZeroBits fn sn).2 ≤ sn := by
  induction fn using Nat.strongRecOn generalizing sn with
  | ind fn ih =>
      rw [Python.dropZeroBits]
      split_ifs with hMore
      · have hHalf := ih (fn / 2) (by omega) (sn / 2)
        omega
      · exact ⟨le_rfl, le_rfl⟩

/-- What the inner loop does to the last index: some number of shifts. -/
theorem toInt32_dropZeroBits (fn sn : Double) :
    (0 ≤ sn.toInt32 → 0 ≤ (dropZeroBits fn sn).2.toInt32 ∧
      (dropZeroBits fn sn).2.toInt32 ≤ sn.toInt32) ∧
    (sn.toInt32 < 0 → (dropZeroBits fn sn).2.toInt32 < 0) := by
  induction fn, sn using dropZeroBits.induct with
  | case1 fn sn hMore ih =>
      rw [dropZeroBits, if_pos hMore]
      rw [toInt32_shiftRight] at ih
      exact ⟨fun h => ⟨(ih.1 (by omega)).1, (ih.1 (by omega)).2.trans (by omega)⟩,
        fun h => ih.2 (by omega)⟩
  | case2 fn sn hLast =>
      rw [dropZeroBits, if_neg hLast]
      exact ⟨fun h => ⟨h, le_rfl⟩, id⟩

/-- One turn of the inner loop of `verifyInclusion`. -/
def dropZeroStep (counters : Double × Double) : Option (Double × Double) :=
  if !isOdd counters.1 && !counters.1.eq (.finite 0) then
    some (shiftRight counters.1, shiftRight counters.2)
  else none

/-- The inner loop ends on every number, negative ones and fractions included,
with what it leaves behind. -/
theorem endsIn_dropZeroBits (fn sn : Double) :
    EndsIn dropZeroStep (fn, sn) (dropZeroBits fn sn) := by
  induction fn, sn using dropZeroBits.induct with
  | case1 fn sn hMore ih =>
      rw [dropZeroBits, if_pos hMore]
      exact .turn (if_pos hMore) ih
  | case2 fn sn hLast =>
      rw [dropZeroBits, if_neg hLast]
      exact .leave (if_neg hLast)

end Counters

section Walks

variable (hHash : T.crypto.sha256 = P.crypto.sha256)
include hHash

theorem nodeHash_eq (left right : Bytes) : nodeHash T left right = Python.nodeHash P left right := by
  rw [nodeHash, Python.nodeHash, hHash]

/-- Below the sign bit the walks agree, turn by turn, because the 32-bit operators
are those on the integers. -/
theorem inclusionLoop_of_lt {fn sn : Nat} (hfn : fn < 2 ^ 31) (hsn : sn < 2 ^ 31) (r : Bytes)
    (path : List Bytes) (expectedRoot : Bytes) :
    inclusionLoop T (.finite (fn : ℚ)) (.finite (sn : ℚ)) r path expectedRoot =
      Python.inclusionLoop P fn sn r path expectedRoot := by
  induction path generalizing fn sn r with
  | nil => rw [inclusionLoop, Python.inclusionLoop, eq_zero_natCast]
  | cons p rest ih =>
      rw [inclusionLoop, Python.inclusionLoop, eq_zero_natCast, eq_natCast, isOdd_natCast]
      simp only [decide_eq_true_eq, Bool.or_eq_true, nodeHash_eq hHash]
      split_ifs with hZero hLeft hOdd hEven hEven
      · rfl
      · omega
      · simp only [shiftRight_of_lt hfn, shiftRight_of_lt hsn]
        exact ih (by omega) (by omega) _
      · obtain ⟨hfn', hsn'⟩ := dropZeroBits_le fn sn
        simp only [dropZeroBits_of_lt hfn hsn]
        rw [shiftRight_of_lt (by omega), shiftRight_of_lt (by omega)]
        exact ih (by omega) (by omega) _
      · omega
      · simp only [shiftRight_of_lt hfn, shiftRight_of_lt hsn]
        exact ih (by omega) (by omega) _

omit hHash in
/-- A last index with the sign bit never gets to zero. -/
theorem inclusionLoop_of_neg {fn sn : Double} (h : sn.toInt32 < 0) (r : Bytes) (path : List Bytes)
    (expectedRoot : Bytes) : inclusionLoop T fn sn r path expectedRoot = false := by
  have hNonzero {sn : Double} (h : sn.toInt32 < 0) : sn.eq (.finite 0) = false := by
    rw [← Bool.not_eq_true]
    intro hEq
    have hZero : sn = .finite 0 := by
      cases sn <;> simp_all [Double.eq]
    rw [hZero] at h
    exact absurd h (by decide +kernel)
  induction path generalizing fn sn r with
  | nil => rw [inclusionLoop, hNonzero h, Bool.false_and]
  | cons p rest ih =>
      have hShift {sn : Double} (h : sn.toInt32 < 0) : (shiftRight sn).toInt32 < 0 := by
        rw [toInt32_shiftRight]
        omega
      rw [inclusionLoop, hNonzero h, if_neg Bool.false_ne_true]
      split_ifs with hLeft hOdd
      · exact ih (hShift h) _
      · exact ih (hShift ((toInt32_dropZeroBits fn sn).2 h)) _
      · exact ih (hShift h) _

omit hHash in
/-- Every turn of the walk halves the last index. -/
theorem length_of_inclusionLoop {k : Nat} {fn sn : Double} (hFrom : 0 ≤ sn.toInt32)
    (hTo : sn.toInt32 < 2 ^ k) {r : Bytes} {path : List Bytes} {expectedRoot : Bytes}
    (h : inclusionLoop T fn sn r path expectedRoot = true) : path.length ≤ k + 1 := by
  induction path generalizing k fn sn r with
  | nil => exact Nat.zero_le _
  | cons p rest ih =>
      have next {fn' sn' : Double} {r' : Bytes} (hFrom' : 0 ≤ sn'.toInt32)
          (hLe : sn'.toInt32 ≤ sn.toInt32)
          (hRest : inclusionLoop T fn' (shiftRight sn') r' rest expectedRoot = true) :
          rest.length ≤ k := by
        cases k with
        | zero =>
            have hZero : shiftRight sn' = .finite 0 := by
              rw [shiftRight, show sn'.toInt32 = 0 by omega]
              rfl
            rw [hZero] at hRest
            cases rest with
            | nil => rfl
            | cons q more => simp [inclusionLoop, Double.eq] at hRest
        | succ k =>
            refine ih ?_ ?_ hRest
            · rw [toInt32_shiftRight]
              omega
            · rw [toInt32_shiftRight]
              have : (2 : ℤ) ^ (k + 1) = 2 * 2 ^ k := by ring
              omega
      rw [inclusionLoop] at h
      split_ifs at h with hZero hLeft hOdd
      · exact Nat.succ_le_succ (next hFrom le_rfl h)
      · obtain ⟨hDrop, -⟩ := toInt32_dropZeroBits fn sn
        exact Nat.succ_le_succ (next (hDrop hFrom).1 (hDrop hFrom).2 h)
      · exact Nat.succ_le_succ (next hFrom le_rfl h)

omit hHash in
theorem toInt32_highBits {h l : Nat} (hl : l < 2 ^ 31) :
    (Double.finite ((2 ^ 32 * h + l : Nat) : ℚ)).toInt32 = l := by
  rw [toInt32_natCast]
  push_cast
  omega

/-- Where the counters agree above 32 bits, the walk is one below. -/
theorem inclusionLoop_highBits {h m l : Nat} (hm : m < 2 ^ 31) (hl : l < 2 ^ 31) (hPos : l ≠ 0)
    (r : Bytes) (path : List Bytes) (expectedRoot : Bytes) :
    inclusionLoop T (.finite ((2 ^ 32 * h + m : Nat) : ℚ)) (.finite ((2 ^ 32 * h + l : Nat) : ℚ)) r
      path expectedRoot = Python.inclusionLoop P m l r path expectedRoot := by
  have hfn := shiftRight_of_toInt32 (toInt32_highBits (h := h) hm)
  have hsn := shiftRight_of_toInt32 (toInt32_highBits (h := h) hl)
  cases path with
  | nil =>
      rw [inclusionLoop, Python.inclusionLoop, eq_zero_natCast]
      simp [hPos]
  | cons p rest =>
      rw [inclusionLoop, Python.inclusionLoop, eq_zero_natCast, eq_natCast, isOdd_natCast]
      have hParity : (2 ^ 32 * h + m) % 2 = m % 2 := by omega
      have hSame : 2 ^ 32 * h + m = 2 ^ 32 * h + l ↔ m = l := by omega
      have hZero : 2 ^ 32 * h + l ≠ 0 := by omega
      simp only [decide_eq_true_eq, Bool.or_eq_true, nodeHash_eq hHash, hParity, hSame, hZero, hPos,
        if_false]
      split_ifs with hLeft hOdd hEven hEven
      · omega
      · rw [hfn, hsn]
        exact inclusionLoop_of_lt hHash (by omega) (by omega) _ _ _
      · obtain ⟨hfn', hsn'⟩ := dropZeroBits_le (m / 2) (l / 2)
        have hTurn : (!isOdd (.finite ((2 ^ 32 * h + m : Nat) : ℚ)) &&
            !(Double.finite ((2 ^ 32 * h + m : Nat) : ℚ)).eq (.finite 0)) = true := by
          rw [isOdd_natCast, eq_zero_natCast, hParity]
          simp only [Bool.and_eq_true, Bool.not_eq_true', decide_eq_false_iff_not]
          omega
        have hPython : Python.dropZeroBits m l = Python.dropZeroBits (m / 2) (l / 2) := by
          rw [Python.dropZeroBits, if_pos (by omega)]
        rw [dropZeroBits, if_pos hTurn, hfn, hsn, dropZeroBits_of_lt (by omega) (by omega), hPython]
        simp only
        rw [shiftRight_of_lt (by omega), shiftRight_of_lt (by omega)]
        exact inclusionLoop_of_lt hHash (by omega) (by omega) _ _ _
      · omega
      · rw [hfn, hsn]
        exact inclusionLoop_of_lt hHash (by omega) (by omega) _ _ _

/-- A right edge that is a multiple of the word is taken for one level. -/
theorem inclusionLoop_word {h : Nat} (hPos : h ≠ 0) (r : Bytes) (path : List Bytes)
    (expectedRoot : Bytes) :
    inclusionLoop T (.finite ((2 ^ 32 * h : Nat) : ℚ)) (.finite ((2 ^ 32 * h : Nat) : ℚ)) r path
        expectedRoot = true ↔ ∃ p, path = [p] ∧ Python.nodeHash P p r = expectedRoot := by
  have hWord : (Double.finite ((2 ^ 32 * h : Nat) : ℚ)).toInt32 = (0 : Nat) :=
    toInt32_highBits (h := h) (l := 0) (by norm_num)
  have hShift := shiftRight_of_toInt32 hWord
  have hZero : (Double.finite ((2 ^ 32 * h : Nat) : ℚ)).eq (.finite 0) = false := by
    rw [eq_zero_natCast, decide_eq_false_iff_not]
    omega
  have hEven : isOdd (.finite ((2 ^ 32 * h : Nat) : ℚ)) = false := by
    rw [isOdd_natCast, decide_eq_false_iff_not]
    omega
  cases path with
  | nil =>
      rw [inclusionLoop, hZero]
      simp
  | cons p rest =>
      have hDrop : dropZeroBits (.finite ((2 ^ 32 * h : Nat) : ℚ))
          (.finite ((2 ^ 32 * h : Nat) : ℚ)) = (.finite ((0 : Nat) : ℚ), .finite ((0 : Nat) : ℚ)) := by
        rw [dropZeroBits, hEven, hZero, if_pos (by decide), hShift,
          dropZeroBits_of_lt (by norm_num) (by norm_num), Python.dropZeroBits, if_neg (by omega)]
      have hStill : shiftRight (.finite ((0 : Nat) : ℚ)) = .finite ((0 : Nat) : ℚ) :=
        shiftRight_of_lt (by norm_num)
      rw [inclusionLoop, hZero, if_neg Bool.false_ne_true, if_pos (by rw [eq_natCast]; simp), hEven,
        if_neg Bool.false_ne_true]
      simp only [hDrop, hStill]
      rw [inclusionLoop_of_lt hHash (by norm_num) (by norm_num), nodeHash_eq hHash]
      cases rest with
      | nil => simp [Python.inclusionLoop]
      | cons q more => simp [Python.inclusionLoop]

end Walks

section Entry

/-- The entry of the walk on integers that a number carries exactly. -/
theorem verifyInclusion_natCast {i n : Nat} (hi : i < 2 ^ 53) (hn : n < 2 ^ 53) (leaf : Bytes)
    (path : List Bytes) (expectedRoot : Bytes) :
    TypeScript.verifyInclusion T leaf (some (.int i)) (some (.int n)) path expectedRoot =
      .ok (if n ≤ i then false
        else if n = 1 then path.isEmpty && leaf = expectedRoot
        else inclusionLoop T (.finite (i : ℚ)) (.finite ((n - 1 : Nat) : ℚ)) leaf path
          expectedRoot) := by
  have hIndex : Double.ofRat ((i : ℤ) : ℚ) = .finite (i : ℚ) := by
    rw [Double.ofRat_intCast (by simpa using hi)]
    norm_cast
  have hTotal : Double.ofRat ((n : ℤ) : ℚ) = .finite (n : ℚ) := by
    rw [Double.ofRat_intCast (by simpa using hn)]
    norm_cast
  have hInteger : (Double.finite (i : ℚ)).isInteger = true := by simp [Double.isInteger]
  have hNegative : (Double.finite (i : ℚ)).lt (.finite 0) = false := by
    simp [Double.lt, Nat.cast_nonneg]
  have hZero : (Double.finite (n : ℚ)).le (.finite 0) = decide (n = 0) := by
    simp [Double.le, Double.lt, Double.eq]
  have hRange : (Double.finite (n : ℚ)).le (.finite (i : ℚ)) = decide (n ≤ i) := by
    simp [Double.le, Double.lt, Double.eq, le_iff_lt_or_eq]
  have hOne : (Double.finite (n : ℚ)).eq (.finite 1) = decide (n = 1) := by
    simp [Double.eq]
  unfold TypeScript.verifyInclusion
  simp only [toNumber, hasNoPrimitive, primitiveNumber, hIndex, hTotal, hInteger, hNegative, hZero,
    hRange, hOne, bind, Except.bind, pure, Except.pure, Bool.not_true, Bool.or_self,
    Bool.false_eq_true, if_false, Bool.true_and, decide_eq_true_eq, Bool.or_eq_true]
  by_cases hOut : n ≤ i
  · rw [if_pos (Or.inr hOut), if_pos hOut]
  · rw [if_neg (by omega), if_neg hOut]
    by_cases hSingle : n = 1
    · rw [if_pos hSingle, if_pos hSingle]
    · have hLast : (Double.finite (n : ℚ)).sub (.finite 1) = .finite ((n - 1 : Nat) : ℚ) := by
        have hSub : (n : ℚ) - 1 = (((n - 1 : Nat) : ℤ) : ℚ) := by
          push_cast [Nat.cast_sub (show 1 ≤ n by omega)]
          ring
        rw [Double.sub, hSub, Double.ofRat_intCast (by simp; omega)]
        norm_cast
      rw [if_neg hSingle, if_neg hSingle, hLast]

/-- Some proof is accepted at every position of a tree. -/
theorem exists_accepted (P : Python.Runtime) {i n : Nat} (h : i < n) (leaf : Bytes) :
    ∃ path expectedRoot, Python.verifyInclusion P leaf i n path expectedRoot = true := by
  refine ⟨List.replicate (Rfc9162.counterSides i (n - 1)).length [], _,
    (Python.verifyInclusion_iff P _ _ _ _ _).mpr ⟨by omega, by omega, ?_, rfl⟩⟩
  rw [List.length_replicate]
  congr 2
  omega

/-- Where the TypeScript walk counts as the other one does: the tree is no
larger than the positive 32-bit numbers reach, or the leaf is the last one and
alone under a right edge of one level above 32 bits. -/
def CountsAlike (index total : Int) : Prop :=
  total ≤ index ∨ total ≤ 2 ^ 31 ∨ index = total - 1 ∧ ∃ j, 32 ≤ j ∧ index = 2 ^ j

/-- Counters that are told apart by the wrap: the TypeScript walk asks for
another number of siblings, or for none that would do. -/
theorem countsAlike_of_accepted (hHash : T.crypto.sha256 = P.crypto.sha256) {i n : Nat}
    (h : i < n) {leaf expectedRoot : Bytes} {path : List Bytes}
    (hLength : path.length = (Rfc9162.counterSides i (n - 1)).length)
    (hAccept : inclusionLoop T (.finite (i : ℚ)) (.finite ((n - 1 : Nat) : ℚ)) leaf path
      expectedRoot = true) : CountsAlike i n := by
  by_cases hSmall : n ≤ 2 ^ 31
  · exact Or.inr (Or.inl (by omega))
  generalize hLast : n - 1 = s at *
  obtain ⟨high, low, hWord, rfl⟩ : ∃ high low, low < 2 ^ 32 ∧ s = 2 ^ 32 * high + low :=
    ⟨s / 2 ^ 32, s % 2 ^ 32, by omega, by omega⟩
  by_cases hSign : 2 ^ 31 ≤ low
  · have hNegative : (Double.finite ((2 ^ 32 * high + low : Nat) : ℚ)).toInt32 < 0 := by
      rw [toInt32_natCast]
      push_cast
      omega
    rw [inclusionLoop_of_neg hNegative] at hAccept
    cases hAccept
  have hLow : low < 2 ^ 31 := by omega
  have hInt := toInt32_highBits (h := high) hLow
  have hHigh : high ≠ 0 := by omega
  rcases lt_or_eq_of_le (Nat.div_le_div_right (c := 2 ^ 32) (show i ≤ 2 ^ 32 * high + low by omega))
    with hBelow | hSame
  · have hMany := Rfc9162.lt_length_counterSides hBelow
    have hFew := length_of_inclusionLoop (k := 31) (by rw [hInt]; omega) (by rw [hInt]; omega) hAccept
    omega
  · obtain ⟨m, hm, rfl⟩ : ∃ m, m ≤ low ∧ i = 2 ^ 32 * high + m :=
      ⟨i % 2 ^ 32, by omega, by omega⟩
    by_cases hZero : low = 0
    · obtain rfl : m = 0 := by omega
      subst hZero
      rw [Nat.add_zero] at hAccept hLength
      obtain ⟨p, rfl, -⟩ := (inclusionLoop_word hHash hHigh _ _ _).mp hAccept
      obtain ⟨j, hj⟩ := (Rfc9162.length_counterSides_self_eq_one_iff (by omega)).mp hLength.symm
      refine Or.inr (Or.inr ⟨by omega, j, ?_, by rw [Nat.add_zero, hj]; norm_cast⟩)
      by_contra hLess
      have := Nat.pow_le_pow_right (n := 2) (by omega) (show j ≤ 31 by omega)
      omega
    · rw [inclusionLoop_highBits hHash (by omega) hLow hZero,
        Python.inclusionLoop_iff] at hAccept
      rw [hAccept.1, Rfc9162.counterSides_highBits 32 high m low hm hWord, List.length_append]
        at hLength
      have := List.length_pos_of_ne_nil (@Rfc9162.counterSides_ne_nil high _ hHigh)
      omega

/-- Where the walks count alike they agree: they visit the same sides and hash the
same messages. -/
theorem walks_agree_of_countsAlike (hHash : T.crypto.sha256 = P.crypto.sha256) {i n : Nat}
    (hi : i < 2 ^ 53) (hn : n < 2 ^ 53) (hCounts : CountsAlike i n) (leaf : Bytes)
    (path : List Bytes) (expectedRoot : Bytes) :
    TypeScript.verifyInclusion T leaf (some (.int i)) (some (.int n)) path expectedRoot =
      .ok (Python.verifyInclusion P leaf i n path expectedRoot) := by
  rw [verifyInclusion_natCast hi hn, Python.verifyInclusion]
  by_cases hOut : n ≤ i
  · rw [if_pos hOut, if_pos (by omega)]
  by_cases hSingle : n = 1
  · rw [if_neg hOut, if_pos hSingle, if_neg (by omega), if_pos (by omega)]
  have hLast : ((n : ℤ) - 1).toNat = n - 1 := by omega
  rw [if_neg hOut, if_neg hSingle, if_neg (by omega), if_neg (by omega), hLast, Int.toNat_natCast]
  rcases hCounts with hOut' | hSmall | ⟨hEdge, j, hj, hPow⟩
  · omega
  · rw [inclusionLoop_of_lt hHash (by omega) (by omega)]
  · obtain ⟨k, rfl⟩ := Nat.exists_eq_add_of_le hj
    have hiPow : i = 2 ^ 32 * 2 ^ k := by
      rw [← pow_add]
      exact_mod_cast hPow
    have hnPow : n - 1 = 2 ^ 32 * 2 ^ k := by omega
    rw [hiPow, hnPow]
    congr 1
    rw [Bool.eq_iff_iff, inclusionLoop_word hHash (Nat.two_pow_pos k).ne',
      Python.inclusionLoop_iff, ← pow_add, Rfc9162.counterSides_two_pow]
    constructor
    · rintro ⟨p, rfl, hRoot⟩
      exact ⟨rfl, hRoot⟩
    · rintro ⟨hLength, hRoot⟩
      obtain ⟨p, rfl⟩ := List.length_eq_one_iff.mp hLength
      exact ⟨p, rfl, hRoot⟩

/-- A position at which some proof is accepted by both walks is one at which
they count alike. -/
theorem countsAlike_of_both (hHash : T.crypto.sha256 = P.crypto.sha256) {i n : Nat}
    (hi : i < 2 ^ 53) (hn : n < 2 ^ 53) {leaf : Bytes} {path : List Bytes} {expectedRoot : Bytes}
    (hPython : Python.verifyInclusion P leaf i n path expectedRoot = true)
    (hTypeScript : TypeScript.verifyInclusion T leaf (some (.int i)) (some (.int n)) path
      expectedRoot = .ok true) : CountsAlike i n := by
  by_cases hOut : n ≤ i
  · exact Or.inl (by omega)
  by_cases hSingle : n = 1
  · exact Or.inr (Or.inl (by omega))
  rw [verifyInclusion_natCast hi hn, if_neg hOut, if_neg hSingle, Except.ok.injEq] at hTypeScript
  obtain ⟨-, -, hLength, -⟩ := (Python.verifyInclusion_iff P _ _ _ _ _).mp hPython
  have hLast : ((n : ℤ) - 1).toNat = n - 1 := by omega
  rw [Int.toNat_natCast, hLast] at hLength
  exact countsAlike_of_accepted hHash (not_le.mp hOut) hLength hTypeScript

/-- The loops of the walk end, and the two walks accept the same proofs at a
position exactly where they count alike. -/
theorem walks_agree_iff (P : Python.Runtime) (T : TypeScript.Runtime)
    (hHash : T.crypto.sha256 = P.crypto.sha256) (index total : Int) (hFrom : 0 ≤ index)
    (hTo : index ≤ 2 ^ 53 - 1) (hTotalFrom : 0 ≤ total) (hTotalTo : total ≤ 2 ^ 53 - 1) :
    (∀ fn sn, Terminates dropZeroStep (fn, sn)) ∧
    ((∀ leaf path expectedRoot,
      TypeScript.verifyInclusion T leaf (some (.int index)) (some (.int total)) path expectedRoot =
        .ok (Python.verifyInclusion P leaf index total path expectedRoot)) ↔
      CountsAlike index total) := by
  obtain ⟨i, rfl⟩ := Int.eq_ofNat_of_zero_le hFrom
  obtain ⟨n, rfl⟩ := Int.eq_ofNat_of_zero_le hTotalFrom
  have hi : i < 2 ^ 53 := by omega
  have hn : n < 2 ^ 53 := by omega
  refine ⟨fun fn sn => (endsIn_dropZeroBits fn sn).terminates, ?_⟩
  constructor
  · intro hAgree
    by_cases hOut : n ≤ i
    · exact Or.inl (by omega)
    obtain ⟨path, expectedRoot, hAccept⟩ := exists_accepted P (not_le.mp hOut) []
    refine countsAlike_of_both hHash hi hn hAccept ?_
    rw [hAgree, hAccept]
  · exact walks_agree_of_countsAlike hHash hi hn

/-- One leaf more than the positive 32-bit numbers reach: the last leaf has a
proof of one sibling, which only one kernel accepts. -/
theorem walks_disagree (P : Python.Runtime) (T : TypeScript.Runtime) (leaf sibling : Bytes) :
    Python.verifyInclusion P leaf (2 ^ 31) (2 ^ 31 + 1) [sibling]
        (Python.nodeHash P sibling leaf) = true ∧
      TypeScript.verifyInclusion T leaf (some (.int (2 ^ 31))) (some (.int (2 ^ 31 + 1))) [sibling]
        (Python.nodeHash P sibling leaf) = .ok false := by
  constructor
  · refine (Python.verifyInclusion_iff P _ _ _ _ _).mpr ⟨by norm_num, by norm_num, ?_, ?_⟩
    · exact (congrArg List.length (Rfc9162.counterSides_two_pow 31)).symm
    · exact congrArg (fun sides => MerkleTree.climb P.crypto.sha256 leaf (List.zip sides [sibling]))
        (Rfc9162.counterSides_two_pow 31)
  · have hEntry := verifyInclusion_natCast (T := T) (i := 2 ^ 31) (n := 2 ^ 31 + 1) (by norm_num)
      (by norm_num) leaf [sibling] (Python.nodeHash P sibling leaf)
    rw [if_neg (by norm_num), if_neg (by norm_num), inclusionLoop_of_neg] at hEntry
    · exact_mod_cast hEntry
    · rw [toInt32_natCast]
      norm_num

end Entry

section Sample

open Reference

theorem walks_disagree_sample :
    ¬∀ leaf path expectedRoot, TypeScript.verifyInclusion (typeScript (signedWith [])) leaf
        (some (.int (2 ^ 31))) (some (.int (2 ^ 31 + 1))) path expectedRoot =
      .ok (Python.verifyInclusion (python (signedWith [])) leaf (2 ^ 31) (2 ^ 31 + 1) path
        expectedRoot) := by
  intro hAgree
  obtain ⟨hAccepts, hRejects⟩ :=
    walks_disagree (python (signedWith [])) (typeScript (signedWith [])) [] []
  rw [hAgree, hAccepts] at hRejects
  cases hRejects

/-- The proof of a lone right edge, which both kernels accept. -/
theorem walks_agree_sample :
    Python.verifyInclusion (python (signedWith [])) (octets 32 3) 2 3
      [Python.nodeHash (python (signedWith [])) (octets 32 1) (octets 32 2)]
      (Python.merkleRoot (python (signedWith [])) Python.threeLeaves) = true ∧
    TypeScript.verifyInclusion (typeScript (signedWith [])) (octets 32 3) (some (.int 2))
      (some (.int 3)) [Python.nodeHash (python (signedWith [])) (octets 32 1) (octets 32 2)]
      (Python.merkleRoot (python (signedWith [])) Python.threeLeaves) = .ok true := by
  have hPython : Python.verifyInclusion (python (signedWith [])) (octets 32 3) 2 3
      [Python.nodeHash (python (signedWith [])) (octets 32 1) (octets 32 2)]
      (Python.merkleRoot (python (signedWith [])) Python.threeLeaves) = true := by decide +kernel
  obtain ⟨-, hAgree⟩ := walks_agree_iff (python (signedWith [])) (typeScript (signedWith [])) rfl 2 3
    (by norm_num) (by norm_num) (by norm_num) (by norm_num)
  refine ⟨hPython, ?_⟩
  rw [hAgree.mpr (Or.inr (Or.inl (by norm_num))), hPython]

end Sample
end ArioProof.CrossKernel
