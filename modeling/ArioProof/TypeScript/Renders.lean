import ArioProof.CrossKernel.DepthGuard
import ArioProof.TypeScript.Surrogates

/-! The values that have a canonical text. A part of one has a canonical text
itself, and so has what is compared of a verdict. -/
namespace ArioProof.TypeScript

open Foundation

/-- The package writes finite numbers only, and a container exactly when its parts
can be written. It is called within the bound and on well-formed text. -/
structure Runtime.CanonicalizeCompositional (R : Runtime) : Prop where
  null : (R.canonicalize .null).isOk = true
  finite : ∀ d, (R.canonicalize (.float d)).isOk = true → d.isFinite = true
  ascii : ∀ s, isAscii s = true → (R.canonicalize (.str s)).isOk = true
  arr : ∀ items, (Json.arr items).depth ≤ maxCanonicalDepth →
    ((R.canonicalize (.arr items)).isOk = true ↔ ∀ v ∈ items, (R.canonicalize v).isOk = true)
  obj : ∀ members, (Json.obj members).depth ≤ maxCanonicalDepth →
    ((R.canonicalize (.obj members)).isOk = true ↔ ∀ entry ∈ members,
      (R.canonicalize (.str entry.1)).isOk = true ∧ (R.canonicalize entry.2).isOk = true)

variable {R : Runtime}

section Renders

/-- Within the nesting bound the value has canonical text. -/
structure Renders (R : Runtime) (v : Json) : Prop where
  depth : v.depth ≤ maxCanonicalDepth
  wellFormed : ∀ s ∈ strings v, WellFormed s
  canonicalizes : (R.canonicalize v).isOk = true

theorem isOk_iff_exists {α : Type} {x : Except Str α} : x.isOk = true ↔ ∃ a, x = .ok a := by
  cases x <;> simp [Except.isOk, Except.toBool]

/-- A value renders when it has a canonical text. -/
theorem renders_iff {v : Json} : Renders R v ↔ ∃ canonical, jcs R (some v) = .ok canonical := by
  simp only [jcs_eq_ok_iff]
  constructor
  · rintro ⟨hDepth, hStrings, hOk⟩
    obtain ⟨canonical, hCanonical⟩ := isOk_iff_exists.mp hOk
    exact ⟨canonical, hDepth, hStrings, hCanonical⟩
  · rintro ⟨canonical, hDepth, hStrings, hCanonical⟩
    exact ⟨hDepth, hStrings, isOk_iff_exists.mpr ⟨canonical, hCanonical⟩⟩

/-- The texts of an array are those of its entries. -/
theorem mem_stringsItems {s : Str} {items : List Json} :
    s ∈ stringsItems items ↔ ∃ v ∈ items, s ∈ strings v := by
  induction items with
  | nil => simp [stringsItems]
  | cons v rest ih => simp [stringsItems, ih]

/-- The texts of an object are its keys and those of its values. -/
theorem mem_stringsMembers {s : Str} {members : List (Str × Json)} :
    s ∈ stringsMembers members ↔ ∃ entry ∈ members, s = entry.1 ∨ s ∈ strings entry.2 := by
  induction members with
  | nil => simp [stringsMembers]
  | cons entry rest ih => simp [stringsMembers, ih, or_assoc]

/-- An array renders when it is shallow and its entries do. -/
theorem renders_arr (hParts : R.CanonicalizeCompositional) {items : List Json} :
    Renders R (.arr items) ↔
      (Json.arr items).depth ≤ maxCanonicalDepth ∧ ∀ v ∈ items, Renders R v := by
  constructor
  · rintro ⟨hDepth, hStrings, hOk⟩
    refine ⟨hDepth, fun v hv => ⟨(Json.depth_lt_arr hv).le.trans hDepth, ?_,
      (hParts.arr items hDepth).mp hOk v hv⟩⟩
    intro s hs
    exact hStrings s (mem_stringsItems.mpr ⟨v, hv, hs⟩)
  · rintro ⟨hDepth, hItems⟩
    refine ⟨hDepth, ?_, (hParts.arr items hDepth).mpr fun v hv => (hItems v hv).canonicalizes⟩
    intro s hs
    obtain ⟨v, hv, hOwn⟩ := mem_stringsItems.mp hs
    exact (hItems v hv).wellFormed s hOwn

/-- A value of an object renders when the object does. -/
theorem Renders.member (hParts : R.CanonicalizeCompositional) {members : List (Str × Json)}
    (h : Renders R (.obj members)) {entry : Str × Json} (hEntry : entry ∈ members) :
    Renders R entry.2 := by
  refine ⟨(Json.depth_lt_obj hEntry).le.trans h.depth, ?_,
    ((hParts.obj members h.depth).mp h.canonicalizes entry hEntry).2⟩
  intro s hs
  exact h.wellFormed s (mem_stringsMembers.mpr ⟨entry, hEntry, Or.inr hs⟩)

theorem renders_null (hParts : R.CanonicalizeCompositional) : Renders R .null :=
  ⟨Nat.zero_le _, fun _ hs => (List.not_mem_nil hs).elim, hParts.null⟩

/-- What is read from a value that renders does render, `null` included. -/
theorem Renders.get (hParts : R.CanonicalizeCompositional) {v : Json} (h : Renders R v)
    (key : String) : Renders R (v.get key) := by
  unfold Json.get
  cases hw : v.get? key with
  | none => exact renders_null hParts
  | some w =>
      obtain ⟨members, rfl, hm⟩ := Json.mem_of_get? hw
      exact h.member hParts hm

/-- An entry under a key renders when the value around it does. -/
theorem Renders.listAt (hParts : R.CanonicalizeCompositional) {v item : Json} {key : String}
    (h : Renders R v) (hItem : item ∈ v.listAt key) : Renders R item := by
  have hGet := h.get hParts key
  rw [Json.listAt] at hItem
  cases hList : (v.get key).arr? with
  | none => simp [hList] at hItem
  | some items =>
      rw [hList, Option.getD_some] at hItem
      rw [Json.arr?_eq_some.mp hList] at hGet
      exact ((renders_arr hParts).mp hGet).2 item hItem

/-- An object under plain keys, of which every member renders. -/
theorem renders_object (hParts : R.CanonicalizeCompositional) {members : List (String × Json)}
    (hDepth : (Json.object members).depth ≤ maxCanonicalDepth)
    (hKeys : ∀ entry ∈ members, isAscii (utf16 entry.1) = true)
    (h : ∀ entry ∈ members, entry.2.depth ≤ maxCanonicalDepth → Renders R entry.2) :
    Renders R (.object members) := by
  have below {entry : String × Json} (hEntry : entry ∈ members) :
      entry.2.depth ≤ maxCanonicalDepth := by
    refine le_trans (le_of_lt ?_) hDepth
    rw [Json.object]
    exact Json.depth_lt_obj (List.mem_map_of_mem hEntry)
  refine ⟨hDepth, ?_, (hParts.obj _ hDepth).mpr ?_⟩
  · intro s hs
    obtain ⟨entry, hEntry, hOwn⟩ := mem_stringsMembers.mp hs
    obtain ⟨own, hMem, rfl⟩ := List.mem_map.mp hEntry
    rcases hOwn with rfl | hOwn
    · exact wellFormed_utf16 own.1
    · exact (h own hMem (below hMem)).wellFormed s hOwn
  · intro entry hEntry
    obtain ⟨own, hMem, rfl⟩ := List.mem_map.mp hEntry
    exact ⟨hParts.ascii _ (hKeys own hMem), (h own hMem (below hMem)).canonicalizes⟩

end Renders

section Projection

/-- Fields that are picked render where their holder does. -/
theorem renders_pick (hParts : R.CanonicalizeCompositional) {keys : List String}
    {more : List (String × Json)} {v : Json}
    (hDepth : (Json.object (pick keys v ++ more)).depth ≤ maxCanonicalDepth)
    (hKeys : ∀ key ∈ keys, isAscii (utf16 key) = true) (h : Renders R v)
    (hMore : ∀ entry ∈ more, isAscii (utf16 entry.1) = true ∧
      (entry.2.depth ≤ maxCanonicalDepth → Renders R entry.2)) :
    Renders R (.object (pick keys v ++ more)) := by
  apply renders_object hParts hDepth
  · intro entry hEntry
    rcases List.mem_append.mp hEntry with hPick | hRest
    · obtain ⟨key, hKey, rfl⟩ := List.mem_map.mp hPick
      exact hKeys key hKey
    · exact (hMore entry hRest).1
  · intro entry hEntry hBelow
    rcases List.mem_append.mp hEntry with hPick | hRest
    · obtain ⟨key, -, rfl⟩ := List.mem_map.mp hPick
      exact h.get hParts key
    · exact (hMore entry hRest).2 hBelow

/-- The projection of an event that renders does render, if it is shallow. -/
theorem renders_projectEvent (hParts : R.CanonicalizeCompositional) {e : Json} (h : Renders R e)
    (hDepth : (projectEvent e).depth ≤ maxCanonicalDepth) : Renders R (projectEvent e) := by
  rw [projectEvent, ← List.append_nil (pick _ _)] at hDepth ⊢
  exact renders_pick hParts hDepth (by decide +kernel) h (by simp)

/-- The projection of an attestation that renders does render, if it is
shallow. -/
theorem renders_projectAttestation (hParts : R.CanonicalizeCompositional) {a : Json}
    (h : Renders R a) (hDepth : (projectAttestation a).depth ≤ maxCanonicalDepth) :
    Renders R (projectAttestation a) := by
  rw [projectAttestation, ← List.append_nil (pick _ _)] at hDepth ⊢
  exact renders_pick hParts hDepth (by decide +kernel) h (by simp)

theorem renders_map (hParts : R.CanonicalizeCompositional) {v : Json} {key : String}
    {project : Json → Json} (h : Renders R v)
    (hProject : ∀ item, Renders R item → (project item).depth ≤ maxCanonicalDepth →
      Renders R (project item))
    (hDepth : (Json.arr ((v.listAt key).map project)).depth ≤ maxCanonicalDepth) :
    Renders R (.arr ((v.listAt key).map project)) := by
  refine (renders_arr hParts).mpr ⟨hDepth, fun projected hProjected => ?_⟩
  have hBelow := (Json.depth_lt_arr hProjected).le.trans hDepth
  obtain ⟨item, hItem, rfl⟩ := List.mem_map.mp hProjected
  exact hProject item (h.listAt hParts hItem) hBelow

/-- The projection of a checkpoint that renders does render, if it is shallow. -/
theorem renders_projectCheckpoint (hParts : R.CanonicalizeCompositional) {c : Json}
    (h : Renders R c) (hDepth : (projectCheckpoint c).depth ≤ maxCanonicalDepth) :
    Renders R (projectCheckpoint c) := by
  rw [projectCheckpoint] at hDepth ⊢
  refine renders_pick hParts hDepth (by decide +kernel) h ?_
  simp only [List.mem_singleton, forall_eq]
  exact ⟨by decide +kernel, renders_map hParts h fun a => renders_projectAttestation hParts⟩

/-- What is compared of a verdict renders where the verdict does. -/
theorem renders_projection (hParts : R.CanonicalizeCompositional) {v : Json} (h : Renders R v) :
    Renders R (projectVerdictForAgreement v) := by
  have hDepth : (projectVerdictForAgreement v).depth ≤ maxCanonicalDepth :=
    (CrossKernel.depth_projectVerdict_le v).trans (max_le (by decide) h.depth)
  unfold projectVerdictForAgreement at hDepth ⊢
  apply renders_object hParts hDepth
  · simp only [List.forall_mem_cons, List.not_mem_nil, false_implies, implies_true, and_true]
    exact ⟨by decide +kernel, by decide +kernel, by decide +kernel⟩
  · simp only [List.forall_mem_cons, List.not_mem_nil, false_implies, implies_true, and_true]
    refine ⟨fun _ => ?_, renders_map hParts h fun e => renders_projectEvent hParts,
      renders_map hParts h fun c => renders_projectCheckpoint hParts⟩
    split
    · exact h.get hParts _
    · exact renders_null hParts

end Projection
end ArioProof.TypeScript
