import ArioProof.Data.Canonical
import ArioProof.Data.Mapping
import ArioProof.Python.Runtime

/-! What is assumed of the `jcs` package, and what the depth guard in front of
it makes of that. Every law stops at the nesting bound, beyond which the
package is never called. -/
namespace ArioProof.Python

open Foundation

variable (R : Runtime)

/-- Plain scalars are serialized, and a container exactly when its parts are. -/
structure Runtime.JcsCompositional : Prop where
  null : (R.jcs .null).isOk = true
  bool : ∀ value, (R.jcs (.bool value)).isOk = true
  ascii : ∀ s : Str, (∀ c ∈ s, c.toNat < 0x80) → (R.jcs (.str s)).isOk = true
  arr : ∀ items, (Json.arr items).depth ≤ maxCanonicalDepth →
    ((R.jcs (.arr items)).isOk = true ↔ ∀ v ∈ items, (R.jcs v).isOk = true)
  obj : ∀ members, (Json.obj members).depth ≤ maxCanonicalDepth →
    ((R.jcs (.obj members)).isOk = true ↔
      ∀ entry ∈ members, (R.jcs (.str entry.1)).isOk = true ∧ (R.jcs entry.2).isOk = true)

/-- Canonical bytes determine the normal form of a value. -/
def Runtime.JcsInjective : Prop :=
  ∀ v w bytes, R.jcs v = .ok bytes → R.jcs w = .ok bytes → v.norm = w.norm

/-- The bytes of a value are those of its normal form: neither the order of
members nor the spelling of numbers shows. -/
def Runtime.JcsNormal : Prop :=
  ∀ v w bytes, v.norm = w.norm → R.jcs v = .ok bytes → R.jcs w = .ok bytes

/-- Parsing canonical bytes gives the value back, up to the order of members and
the kind of numbers. -/
def Runtime.JcsRoundTrip : Prop :=
  ∀ v bytes, R.jcs v = .ok bytes → ∃ parsed, R.jsonLoads bytes = .ok parsed ∧ parsed.norm = v.norm

/-- Canonical bytes are a fixed point of parsing and canonicalizing. -/
def Runtime.JcsReparse : Prop :=
  ∀ v bytes parsed other, R.jcs v = .ok bytes → R.jsonLoads bytes = .ok parsed →
    R.jcs parsed = .ok other → other = bytes

/-- The value has canonical bytes: it is shallow enough, and the package takes
it. -/
def Canonicalizes (v : Json) : Prop := ∃ bytes, canonicalJson R v = .ok bytes

variable {R}

/-- A value has canonical bytes when it is shallow and the canonicalizer takes
it. -/
theorem canonicalJson_eq_ok_iff {v : Json} {bytes : Bytes} :
    canonicalJson R v = .ok bytes ↔ v.depth ≤ maxCanonicalDepth ∧ R.jcs v = .ok bytes := by
  unfold canonicalJson
  by_cases hDeep : exceedsDepth v maxCanonicalDepth = true
  · rw [if_pos hDeep]
    rw [exceedsDepth_iff] at hDeep
    simp only [reduceCtorEq, false_iff, not_and]
    intro h
    omega
  · rw [if_neg hDeep]
    rw [exceedsDepth_iff, Nat.not_lt] at hDeep
    cases R.jcs v <;> simp [Except.mapError, hDeep]

/-- Whether a value has canonical bytes, without naming them. -/
theorem canonicalizes_iff {v : Json} :
    Canonicalizes R v ↔ v.depth ≤ maxCanonicalDepth ∧ (R.jcs v).isOk = true := by
  unfold Canonicalizes
  simp only [canonicalJson_eq_ok_iff]
  cases R.jcs v <;> simp [Except.isOk, Except.toBool]

/-- A shallow array has canonical bytes when its entries do. -/
theorem canonicalizes_arr (hJcs : R.JcsCompositional) {items : List Json} :
    Canonicalizes R (.arr items) ↔
      (Json.arr items).depth ≤ maxCanonicalDepth ∧ ∀ v ∈ items, Canonicalizes R v := by
  rw [canonicalizes_iff]
  constructor
  · rintro ⟨hDepth, hOk⟩
    refine ⟨hDepth, fun v hv => canonicalizes_iff.mpr ⟨?_, (hJcs.arr items hDepth).mp hOk v hv⟩⟩
    exact (Json.depth_lt_arr hv).le.trans hDepth
  · rintro ⟨hDepth, hItems⟩
    exact ⟨hDepth, (hJcs.arr items hDepth).mpr fun v hv => (canonicalizes_iff.mp (hItems v hv)).2⟩

/-- A shallow object has canonical bytes when its keys and values do. -/
theorem canonicalizes_obj (hJcs : R.JcsCompositional) {members : List (Str × Json)} :
    Canonicalizes R (.obj members) ↔ (Json.obj members).depth ≤ maxCanonicalDepth ∧
      ∀ entry ∈ members, (R.jcs (.str entry.1)).isOk = true ∧ Canonicalizes R entry.2 := by
  rw [canonicalizes_iff]
  constructor
  · rintro ⟨hDepth, hOk⟩
    refine ⟨hDepth, fun entry hm => ?_⟩
    obtain ⟨hKey, hValue⟩ := (hJcs.obj members hDepth).mp hOk entry hm
    exact ⟨hKey, canonicalizes_iff.mpr ⟨(Json.depth_lt_obj hm).le.trans hDepth, hValue⟩⟩
  · rintro ⟨hDepth, hMembers⟩
    refine ⟨hDepth, (hJcs.obj members hDepth).mpr fun entry hm => ?_⟩
    obtain ⟨hKey, hValue⟩ := hMembers entry hm
    exact ⟨hKey, (canonicalizes_iff.mp hValue).2⟩

theorem canonicalizes_null (hJcs : R.JcsCompositional) : Canonicalizes R .null :=
  canonicalizes_iff.mpr ⟨Nat.zero_le _, hJcs.null⟩

/-- A member of a canonicalizable object is canonicalizable. -/
theorem Canonicalizes.get? (hJcs : R.JcsCompositional) {v w : Json} {key : String}
    (h : Canonicalizes R v) (hw : v.get? key = some w) : Canonicalizes R w := by
  obtain ⟨members, rfl, hm⟩ := Json.mem_of_get? hw
  exact (((canonicalizes_obj hJcs).mp h).2 _ hm).2

/-- A member has canonical bytes when the value around it does. -/
theorem Canonicalizes.get (hJcs : R.JcsCompositional) {v w : Json} {key : String}
    (h : Canonicalizes R v) (hw : v.get key = w) (hNull : w ≠ .null) : Canonicalizes R w :=
  h.get? hJcs (Json.get?_of_get hw hNull)

/-- Reading a member that is missing gives null, which is canonicalizable. -/
theorem Canonicalizes.getD (hJcs : R.JcsCompositional) {v : Json} (h : Canonicalizes R v)
    (key : String) : Canonicalizes R (v.get key) := by
  unfold Json.get
  cases hw : v.get? key with
  | none => exact canonicalizes_null hJcs
  | some w => exact h.get? hJcs hw

/-- An entry has canonical bytes when the array around it does. -/
theorem Canonicalizes.mem (hJcs : R.JcsCompositional) {v : Json} {items : List Json}
    (h : Canonicalizes R (.arr items)) (hv : v ∈ items) : Canonicalizes R v :=
  ((canonicalizes_arr hJcs).mp h).2 v hv

/-- Values with the same canonical bytes have the same normal form. -/
theorem norm_eq_of_canonicalJson (hInj : R.JcsInjective) {v w : Json} {bytes : Bytes}
    (hv : canonicalJson R v = .ok bytes) (hw : canonicalJson R w = .ok bytes) : v.norm = w.norm :=
  hInj v w bytes (canonicalJson_eq_ok_iff.mp hv).2 (canonicalJson_eq_ok_iff.mp hw).2

/-- Values with the same normal form have the same canonical bytes, if they have
any. -/
theorem canonicalJson_congr (hNormal : R.JcsNormal) {v w : Json} {bytes : Bytes}
    (h : v.norm = w.norm) (hv : canonicalJson R v = .ok bytes) : canonicalJson R w = .ok bytes := by
  obtain ⟨hDepth, hJcs⟩ := canonicalJson_eq_ok_iff.mp hv
  refine canonicalJson_eq_ok_iff.mpr ⟨?_, hNormal v w bytes h hJcs⟩
  rwa [← w.depth_norm, ← h, v.depth_norm]

/-- Dropping members keeps a value canonicalizable. -/
theorem Canonicalizes.restrict (hJcs : R.JcsCompositional) {v : Json} (h : Canonicalizes R v)
    (keep : Str → Bool) : Canonicalizes R (v.restrict keep) := by
  cases v with
  | obj members =>
      obtain ⟨hDepth, hMembers⟩ := (canonicalizes_obj hJcs).mp h
      refine (canonicalizes_obj hJcs).mpr ⟨(Json.depth_restrict_le _ keep).trans hDepth, ?_⟩
      exact fun entry hEntry => hMembers entry (List.mem_of_mem_filter hEntry)
  | _ => exact h

section Renders

/-- The value is canonicalizable and nested no deeper than a bound. -/
structure Renders (R : Runtime) (bound : Nat) (v : Json) : Prop where
  depth : v.depth ≤ bound
  jcs : (R.jcs v).isOk = true

theorem Renders.mono {v : Json} {bound more : Nat} (h : Renders R bound v) (hLe : bound ≤ more) :
    Renders R more v := ⟨h.depth.trans hLe, h.jcs⟩

theorem Renders.canonicalizes {v : Json} {bound : Nat} (h : Renders R bound v)
    (hBound : bound ≤ maxCanonicalDepth) : Canonicalizes R v :=
  canonicalizes_iff.mpr ⟨h.depth.trans hBound, h.jcs⟩

theorem renders_null (hJcs : R.JcsCompositional) (bound : Nat) : Renders R bound .null :=
  ⟨Nat.zero_le _, hJcs.null⟩

theorem renders_bool (hJcs : R.JcsCompositional) (bound : Nat) (value : Bool) :
    Renders R bound (.bool value) := ⟨Nat.zero_le _, hJcs.bool value⟩

theorem renders_ofOption (hJcs : R.JcsCompositional) (bound : Nat) (value : Option Bool) :
    Renders R bound (.ofOption value) := by
  cases value with
  | none => exact renders_null hJcs bound
  | some value => exact renders_bool hJcs bound value

theorem renders_str {s : Str} (h : Canonicalizes R (.str s)) (bound : Nat) :
    Renders R bound (.str s) := ⟨Nat.zero_le _, (canonicalizes_iff.mp h).2⟩

/-- ASCII text renders at any depth, whatever a canonicalizer makes of other
text. -/
theorem renders_ascii (hJcs : R.JcsCompositional) {s : Str} (h : isAscii s = true) (bound : Nat) :
    Renders R bound (.str s) := ⟨Nat.zero_le _, hJcs.ascii s (isAscii_iff.mp h)⟩

/-- An array renders one level above its entries. -/
theorem renders_arr (hJcs : R.JcsCompositional) {bound : Nat} (hBound : bound < maxCanonicalDepth)
    {items : List Json} (h : ∀ v ∈ items, Renders R bound v) :
    Renders R (bound + 1) (.arr items) := by
  have hDepth : (Json.arr items).depth ≤ bound + 1 := depth_arr_le_iff.mpr fun v hv => (h v hv).depth
  exact ⟨hDepth, (hJcs.arr items (by omega)).mpr fun v hv => (h v hv).jcs⟩

/-- An object with ASCII keys renders one level above its values. -/
theorem renders_object (hJcs : R.JcsCompositional) {bound : Nat}
    (hBound : bound < maxCanonicalDepth) {members : List (String × Json)}
    (hKeys : ∀ entry ∈ members, isAscii (utf16 entry.1) = true)
    (h : ∀ entry ∈ members, Renders R bound entry.2) :
    Renders R (bound + 1) (Json.object members) := by
  have hDepth : (Json.object members).depth ≤ bound + 1 := by
    apply depth_obj_le_iff.mpr
    intro entry hEntry
    obtain ⟨source, hSource, rfl⟩ := List.mem_map.mp hEntry
    exact (h source hSource).depth
  refine ⟨hDepth, (hJcs.obj _ (hDepth.trans hBound)).mpr fun entry hEntry => ?_⟩
  obtain ⟨source, hSource, rfl⟩ := List.mem_map.mp hEntry
  exact ⟨hJcs.ascii _ (isAscii_iff.mp (hKeys source hSource)), (h source hSource).jcs⟩

/-- Assigning a member that is nested less deeply than the bound keeps a value
canonicalizable. -/
theorem Canonicalizes.set (hJcs : R.JcsCompositional) {v value : Json} {key : String}
    {bound : Nat} (h : Canonicalizes R v) (hKey : isAscii (utf16 key) = true)
    (hValue : Renders R bound value) (hBound : bound < maxCanonicalDepth) :
    Canonicalizes R (v.set key value) := by
  cases v with
  | obj members =>
      obtain ⟨hDepth, hMembers⟩ := (canonicalizes_obj hJcs).mp h
      obtain ⟨after, hAfter, hEntries⟩ := Json.set_obj members key value
      rw [hAfter]
      refine (canonicalizes_obj hJcs).mpr ⟨?_, fun entry hEntry => ?_⟩
      · rw [← hAfter]
        exact Json.depth_set_le hDepth (hValue.depth.trans_lt hBound)
      · rcases hEntries entry hEntry with hOld | rfl
        · exact hMembers entry hOld
        · exact ⟨hJcs.ascii _ (isAscii_iff.mp hKey), hValue.canonicalizes hBound.le⟩
  | _ => exact h

end Renders
end ArioProof.Python
