import ArioProof.Python.EvidenceRun

/-! Agreement of a cached verdict with the recomputed one. The comparison goes
through the canonical bytes of two projections; it comes down to equality of the
compared dimensions, entry by entry. -/
namespace ArioProof.Python

open Foundation

section Dimensions

/-- The members of a displayed event that the agreement looks at, as they are read
from it. -/
def eventDimensions (e : Json) : List Json :=
  ["event_id", "signature_ok", "payload_bound", "inclusion_ok", "content_ok"].map e.get

/-- The members of a displayed attestation that the agreement looks at, as they
are read from it. -/
def attestationDimensions (a : Json) : List Json :=
  ["operator", "signature_ok", "operator_address_bound", "data_hash_bound",
    "subject_ref_ok"].map a.get

/-- The members of a displayed checkpoint that the agreement looks at, with those
of each of its attestations in order. -/
def checkpointDimensions (c : Json) : List Json × List (List Json) :=
  (["checkpoint_tx_id", "merkle_root_ok"].map c.get,
    (c.listAt "attestations").map attestationDimensions)

/-- Equality on the compared dimensions. A missing field is read as null, and a
list that is missing or no list as empty. -/
structure VerdictsAgree (cached fresh : Json) : Prop where
  schemaVersion : cached.get "schema_version" = fresh.get "schema_version"
  events : (cached.listAt "events").map eventDimensions =
    (fresh.listAt "events").map eventDimensions
  checkpoints : (cached.listAt "checkpoints").map checkpointDimensions =
    (fresh.listAt "checkpoints").map checkpointDimensions

/-- Only three members of the recomputed verdict are compared. -/
theorem verdictsAgree_set {key : String} (value : Json) {cached fresh : Json}
    (h : key ≠ "schema_version" ∧ key ≠ "events" ∧ key ≠ "checkpoints") :
    VerdictsAgree cached (fresh.set key value) ↔ VerdictsAgree cached fresh := by
  have hGet {other : String} (hOther : key ≠ other) : (fresh.set key value).get other =
      fresh.get other := by
    rw [Json.get, Json.get, Json.get?_set_of_ne hOther.symm]
  have hList {other : String} (hOther : key ≠ other) : (fresh.set key value).listAt other =
      fresh.listAt other := by
    rw [Json.listAt, Json.listAt, hGet hOther]
  constructor
  · rintro ⟨hSchema, hEvents, hCheckpoints⟩
    rw [hGet h.1] at hSchema
    rw [hList h.2.1] at hEvents
    rw [hList h.2.2] at hCheckpoints
    exact ⟨hSchema, hEvents, hCheckpoints⟩
  · rintro ⟨hSchema, hEvents, hCheckpoints⟩
    refine ⟨?_, ?_, ?_⟩
    · rw [hGet h.1]
      exact hSchema
    · rw [hList h.2.1]
      exact hEvents
    · rw [hList h.2.2]
      exact hCheckpoints

end Dimensions

section Plain

/-- A value whose canonical bytes no other value has. -/
def Plain (v : Json) : Prop := ∀ u : Json, u.norm = v.norm → u = v

theorem plain_null : Plain .null := fun _ h => Json.norm_eq_null.mp h

theorem plain_bool (value : Bool) : Plain (.bool value) := fun _ h => Json.norm_eq_bool.mp h

theorem plain_str (s : Str) : Plain (.str s) := fun _ h => Json.norm_eq_str.mp h

theorem plain_ofOption (value : Option Bool) : Plain (.ofOption value) := by
  cases value with
  | none => exact plain_null
  | some value => exact plain_bool value

/-- A picked member is the member itself, or `null` where there is none. -/
theorem lookup_pick {keys : List String} {key : String} (v : Json) (h : key ∈ keys) :
    (pick keys v).lookup key = some (v.get key) := by
  induction keys with
  | nil => cases h
  | cons head rest ih =>
      by_cases hKey : key = head
      · subst hKey
        simp [pick]
      · have hOther : (key == head) = false := by simpa using hKey
        rw [pick, List.map_cons, List.lookup_cons, hOther]
        exact ih ((List.mem_cons.mp h).resolve_left hKey)

/-- Members that are added to a pick come after it and do not hide it. -/
theorem get_object_pick {keys : List String} {key : String} (v : Json)
    (more : List (String × Json)) (h : key ∈ keys) :
    (Json.object (pick keys v ++ more)).get key = v.get key := by
  simp [Json.get, List.lookup_append, lookup_pick _ h]

/-- Objects with one normal form agree on every member that is plain in one of
them. -/
theorem map_get_of_norm_eq {keys : List String} {more more' : List (String × Json)} {v w : Json}
    (h : (Json.object (pick keys v ++ more)).norm = (Json.object (pick keys w ++ more')).norm)
    (hPlain : ∀ u ∈ keys.map w.get, Plain u) : keys.map v.get = keys.map w.get := by
  refine List.map_congr_left fun key hKey => hPlain _ (List.mem_map_of_mem hKey) _ ?_
  have hGet := congrArg (fun u : Json => u.get key) h
  simpa only [Json.get_norm, get_object_pick _ _ hKey] using hGet

end Plain

section Projection

variable (v : Json)

theorem get_projection_schemaVersion : (projectVerdictForAgreement v).get "schema_version" =
    if (v.get "schema_version").isStr then v.get "schema_version" else .null := by
  simp [projectVerdictForAgreement, Json.get]

/-- The projection has an entry for each event of the verdict, in its order. -/
theorem get_projection_events : (projectVerdictForAgreement v).get "events" =
    .arr ((v.listAt "events").map projectEvent) := by
  simp [projectVerdictForAgreement, Json.get, List.lookup_cons]

/-- The projection has an entry for each checkpoint of the verdict, in its
order. -/
theorem get_projection_checkpoints : (projectVerdictForAgreement v).get "checkpoints" =
    .arr ((v.listAt "checkpoints").map projectCheckpoint) := by
  simp [projectVerdictForAgreement, Json.get, List.lookup_cons]

theorem get_projectCheckpoint : (projectCheckpoint v).get "attestations" =
    .arr ((v.listAt "attestations").map projectAttestation) := by
  simp [projectCheckpoint, pick, Json.get, List.lookup_cons]

end Projection

section Fresh

variable (source : EvidenceBundleResult) (attestations : List AttestationResult) (b : Json)

/-- Before the rollup is known, only the time of the verdict is taken from the
bundle. -/
theorem get?_freshVerdict {key : String} (h : key ≠ "as_of") :
    (freshVerdict b source attestations).get? key =
      (buildVerdictObject source attestations).get? key := by
  unfold freshVerdict
  split
  · exact Json.get?_set_of_ne h _ _
  · rfl

theorem schemaVersion_freshVerdict : (freshVerdict b source attestations).get "schema_version" =
    .str verdictSchemaVersion := by
  rw [Json.get, get?_freshVerdict _ _ _ (by decide), buildVerdictObject, Json.get?_object]
  rfl

/-- A recomputed verdict lists the events of the source result, in its order. -/
theorem events_freshVerdict : (freshVerdict b source attestations).listAt "events" =
    source.events.map eventEntry := by
  rw [Json.listAt, Json.get, get?_freshVerdict _ _ _ (by decide), buildVerdictObject,
    Json.get?_object]
  rfl

/-- A recomputed verdict lists the checkpoints of the source result, each with the
attestations that name it. -/
theorem checkpoints_freshVerdict : (freshVerdict b source attestations).listAt "checkpoints" =
    source.checkpoints.map (checkpointEntry attestations) := by
  rw [Json.listAt, Json.get, get?_freshVerdict _ _ _ (by decide), buildVerdictObject,
    Json.get?_object]
  rfl

/-- What the agreement sees of a recomputed event: its id and the outcomes of its
checks. -/
theorem eventDimensions_eventEntry (e : EventResult) : eventDimensions (eventEntry e) =
    [.str e.eventId, .bool e.envelopeOk, .ofOption e.payloadBindingOk, .bool e.inclusionOk,
      .ofOption e.contentOk] := by
  simp [eventDimensions, eventEntry, Json.get, List.lookup_cons]

/-- What the agreement sees of a recomputed attestation: its operator and the
outcomes of its checks. -/
theorem attestationDimensions_attestationEntry (a : AttestationResult) :
    attestationDimensions (attestationEntry a) = [.str a.operator, .bool a.signatureOk,
      .bool a.operatorAddressBound, .bool a.dataHashBound, .ofOption a.subjectRefOk] := by
  have entry {gateway level : List (String × Json)}
      (hGateway : gateway = [] ∨ ∃ v, gateway = [("gateway", v)])
      (hLevel : level = [] ∨ ∃ v, level = [("level", v)]) :
      attestationDimensions (.object ([("operator", .str a.operator)] ++ gateway ++
        [("signature_ok", .bool a.signatureOk),
          ("operator_address_bound", .bool a.operatorAddressBound),
          ("data_hash_bound", .bool a.dataHashBound)] ++ level ++
        [("subject_ref_ok", .ofOption a.subjectRefOk)])) = [.str a.operator, .bool a.signatureOk,
          .bool a.operatorAddressBound, .bool a.dataHashBound, .ofOption a.subjectRefOk] := by
    rcases hGateway with rfl | ⟨v, rfl⟩ <;> rcases hLevel with rfl | ⟨w, rfl⟩ <;>
      simp [attestationDimensions, Json.get, List.lookup_cons]
  unfold attestationEntry
  refine entry ?_ ?_
  · cases a.gateway with
    | none => exact Or.inl rfl
    | some gateway =>
        by_cases hEmpty : gateway.isEmpty = true
        · exact Or.inl (by simp [hEmpty])
        · exact Or.inr ⟨.str gateway, by simp [hEmpty]⟩
  · cases a.level with
    | none => exact Or.inl rfl
    | some level => exact Or.inr ⟨level, rfl⟩

/-- What the agreement sees of a recomputed checkpoint. The outcome of a re-fetch
is not part of it. -/
theorem checkpointDimensions_checkpointEntry (c : CheckpointResult) :
    checkpointDimensions (checkpointEntry attestations c) =
      ([.str c.txId, .bool c.merkleRootOk],
        (attestations.filter (·.checkpointTxId = c.txId)).map fun a =>
          attestationDimensions (attestationEntry a)) := by
  simp [checkpointDimensions, checkpointEntry, Json.listAt, Json.get, List.lookup_cons, Json.arr?]

end Fresh

section Render

variable {R : Runtime}

/-- The strings that a recomputed verdict shows can be serialized. -/
structure StringsRender (R : Runtime) (source : EvidenceBundleResult)
    (attestations : List AttestationResult) : Prop where
  eventId : ∀ e ∈ source.events, Canonicalizes R (.str e.eventId)
  txId : ∀ c ∈ source.checkpoints, Canonicalizes R (.str c.txId)
  operator : ∀ a ∈ attestations, Canonicalizes R (.str a.operator)

/-- A pick renders one level above its members when their keys are ASCII and they
render themselves. -/
theorem renders_pick (hJcs : R.JcsCompositional) {bound : Nat} (hBound : bound < maxCanonicalDepth)
    {keys : List String} {more : List (String × Json)} {v : Json}
    (hKeys : ∀ key ∈ keys, isAscii (utf16 key) = true)
    (hMore : ∀ entry ∈ more, isAscii (utf16 entry.1) = true ∧ Renders R bound entry.2)
    (h : ∀ w ∈ keys.map v.get, Renders R bound w) :
    Renders R (bound + 1) (.object (pick keys v ++ more)) := by
  refine renders_object hJcs hBound (fun entry hEntry => ?_) fun entry hEntry => ?_
  all_goals rcases List.mem_append.mp hEntry with hPick | hRest
  · obtain ⟨key, hKey, rfl⟩ := List.mem_map.mp hPick
    exact hKeys key hKey
  · exact (hMore entry hRest).1
  · obtain ⟨key, hKey, rfl⟩ := List.mem_map.mp hPick
    exact h _ (List.mem_map_of_mem hKey)
  · exact (hMore entry hRest).2

/-- An event renders when its id does: every other dimension is a truth value or
missing. -/
theorem renders_projectEvent (hJcs : R.JcsCompositional) {e : EventResult}
    (h : Canonicalizes R (.str e.eventId)) : Renders R 1 (projectEvent (eventEntry e)) := by
  rw [projectEvent, ← List.append_nil (pick _ _)]
  refine renders_pick hJcs (by decide) (by decide +kernel) (by simp) fun w hw => ?_
  rw [show List.map (eventEntry e).get _ = eventDimensions (eventEntry e) from rfl,
    eventDimensions_eventEntry] at hw
  simp only [List.mem_cons, List.not_mem_nil, or_false] at hw
  rcases hw with rfl | rfl | rfl | rfl | rfl
  · exact renders_str h 0
  · exact renders_bool hJcs 0 _
  · exact renders_ofOption hJcs 0 _
  · exact renders_bool hJcs 0 _
  · exact renders_ofOption hJcs 0 _

/-- An attestation renders when its operator does: every other dimension is a
truth value or missing. -/
theorem renders_projectAttestation (hJcs : R.JcsCompositional) {a : AttestationResult}
    (h : Canonicalizes R (.str a.operator)) :
    Renders R 1 (projectAttestation (attestationEntry a)) := by
  rw [projectAttestation, ← List.append_nil (pick _ _)]
  refine renders_pick hJcs (by decide) (by decide +kernel) (by simp) fun w hw => ?_
  rw [show List.map (attestationEntry a).get _ = attestationDimensions (attestationEntry a)
    from rfl, attestationDimensions_attestationEntry] at hw
  simp only [List.mem_cons, List.not_mem_nil, or_false] at hw
  rcases hw with rfl | rfl | rfl | rfl | rfl
  · exact renders_str h 0
  · exact renders_bool hJcs 0 _
  · exact renders_bool hJcs 0 _
  · exact renders_bool hJcs 0 _
  · exact renders_ofOption hJcs 0 _

/-- A checkpoint renders when its id and the operators under it do. -/
theorem renders_projectCheckpoint (hJcs : R.JcsCompositional)
    {attestations : List AttestationResult} {c : CheckpointResult}
    (h : Canonicalizes R (.str c.txId))
    (hOperators : ∀ a ∈ attestations, Canonicalizes R (.str a.operator)) :
    Renders R 3 (projectCheckpoint (checkpointEntry attestations c)) := by
  have hEntries : (checkpointEntry attestations c).listAt "attestations" =
      (attestations.filter (·.checkpointTxId = c.txId)).map attestationEntry := by
    simp [checkpointEntry, Json.listAt, Json.get, List.lookup_cons, Json.arr?]
  rw [projectCheckpoint, hEntries]
  refine renders_pick hJcs (by decide) (by decide +kernel) ?_ fun w hw => ?_
  · simp only [List.mem_singleton, forall_eq]
    refine ⟨by decide +kernel, renders_arr hJcs (by decide) fun v hv => ?_⟩
    simp only [List.map_map, List.mem_map, List.mem_filter, Function.comp_apply] at hv
    obtain ⟨a, ⟨ha, -⟩, rfl⟩ := hv
    exact renders_projectAttestation hJcs (hOperators a ha)
  · have hDims := congrArg Prod.fst (checkpointDimensions_checkpointEntry attestations c)
    rw [show List.map (checkpointEntry attestations c).get _ =
      (checkpointDimensions (checkpointEntry attestations c)).1 from rfl, hDims] at hw
    simp only [List.mem_cons, List.not_mem_nil, or_false] at hw
    rcases hw with rfl | rfl
    · exact renders_str h 2
    · exact renders_bool hJcs 2 _

/-- The recomputed side of the agreement has canonical bytes when the texts that
it quotes from the bundle render. -/
theorem canonicalizes_freshProjection (hJcs : R.JcsCompositional) {source : EvidenceBundleResult}
    {attestations : List AttestationResult} (h : StringsRender R source attestations) (b : Json) :
    Canonicalizes R (projectVerdictForAgreement (freshVerdict b source attestations)) := by
  unfold projectVerdictForAgreement
  rw [schemaVersion_freshVerdict, events_freshVerdict, checkpoints_freshVerdict]
  refine (renders_object hJcs (show 4 < maxCanonicalDepth by decide) ?_ ?_).canonicalizes
    (by decide)
  all_goals
    simp only [List.forall_mem_cons, List.not_mem_nil, false_implies, implies_true, and_true]
  · exact ⟨by decide +kernel, by decide +kernel, by decide +kernel⟩
  refine ⟨?_, ?_, ?_⟩
  · exact ⟨Nat.zero_le _, hJcs.ascii _ (isAscii_iff.mp (by decide +kernel))⟩
  · refine (renders_arr hJcs (show 1 < maxCanonicalDepth by decide) fun v hv => ?_).mono (by decide)
    simp only [List.map_map, List.mem_map, Function.comp_apply] at hv
    obtain ⟨e, he, rfl⟩ := hv
    exact renders_projectEvent hJcs (h.eventId e he)
  · refine renders_arr hJcs (show 3 < maxCanonicalDepth by decide) fun v hv => ?_
    simp only [List.map_map, List.mem_map, Function.comp_apply] at hv
    obtain ⟨c, hc, rfl⟩ := hv
    exact renders_projectCheckpoint hJcs (h.txId c hc) h.operator

end Render

section Agreement

variable {R : Runtime}

theorem pick_congr {keys : List String} {v w : Json} (h : keys.map v.get = keys.map w.get) :
    pick keys v = pick keys w := by
  have hGet := List.map_inj_left.mp h
  exact List.map_congr_left fun key hKey => by rw [hGet key hKey]

/-- The projection of an event depends on its dimensions only. -/
theorem projectEvent_congr {e e' : Json} (h : eventDimensions e = eventDimensions e') :
    projectEvent e = projectEvent e' := by
  rw [projectEvent, projectEvent, pick_congr h]

/-- The projection of an attestation depends on its dimensions only. -/
theorem projectAttestation_congr {a a' : Json}
    (h : attestationDimensions a = attestationDimensions a') :
    projectAttestation a = projectAttestation a' := by
  rw [projectAttestation, projectAttestation, pick_congr h]

/-- The projection of a checkpoint depends on its dimensions only. -/
theorem projectCheckpoint_congr {c c' : Json} (h : checkpointDimensions c = checkpointDimensions c') :
    projectCheckpoint c = projectCheckpoint c' := by
  obtain ⟨hPick, hAttestations⟩ := Prod.mk.inj h
  rw [projectCheckpoint, projectCheckpoint, pick_congr hPick,
    map_eq_map_of_map_eq hAttestations fun a _ a' _ => projectAttestation_congr]

/-- Agreeing verdicts have one projection. -/
theorem projection_congr {cached fresh : Json} (h : VerdictsAgree cached fresh) :
    projectVerdictForAgreement cached = projectVerdictForAgreement fresh := by
  unfold projectVerdictForAgreement
  rw [h.schemaVersion, map_eq_map_of_map_eq h.events fun e _ f _ => projectEvent_congr,
    map_eq_map_of_map_eq h.checkpoints fun c _ c' _ => projectCheckpoint_congr]

/-- Values that a canonical form does not tell apart have lists of the same length
under a key, and entries it does not tell apart. -/
theorem map_norm_of_get {v w : Json} {key : String} {items items' : List Json} (h : v.norm = w.norm)
    (hv : v.get key = .arr items) (hw : w.get key = .arr items') :
    items.map Json.norm = items'.map Json.norm := by
  have hGet := congrArg (fun u : Json => u.get key) h
  simp only [Json.get_norm, hv, hw, Json.norm_arr, Json.arr.injEq] at hGet
  exact hGet

/-- A cached event that agrees with a recomputed one in canonical form has the
very dimensions of it, since they are texts, truth values and nulls. -/
theorem eventDimensions_of_norm {cached : Json} {e : EventResult}
    (h : (projectEvent cached).norm = (projectEvent (eventEntry e)).norm) :
    eventDimensions cached = eventDimensions (eventEntry e) := by
  rw [projectEvent, projectEvent, ← List.append_nil (pick _ cached),
    ← List.append_nil (pick _ (eventEntry e))] at h
  refine map_get_of_norm_eq h fun u hu => ?_
  rw [show List.map (eventEntry e).get _ = eventDimensions (eventEntry e) from rfl,
    eventDimensions_eventEntry] at hu
  simp only [List.mem_cons, List.not_mem_nil, or_false] at hu
  rcases hu with rfl | rfl | rfl | rfl | rfl
  · exact plain_str _
  · exact plain_bool _
  · exact plain_ofOption _
  · exact plain_bool _
  · exact plain_ofOption _

/-- A cached attestation that agrees with a recomputed one in canonical form has
the very dimensions of it. -/
theorem attestationDimensions_of_norm {cached : Json} {a : AttestationResult}
    (h : (projectAttestation cached).norm = (projectAttestation (attestationEntry a)).norm) :
    attestationDimensions cached = attestationDimensions (attestationEntry a) := by
  rw [projectAttestation, projectAttestation, ← List.append_nil (pick _ cached),
    ← List.append_nil (pick _ (attestationEntry a))] at h
  refine map_get_of_norm_eq h fun u hu => ?_
  rw [show List.map (attestationEntry a).get _ = attestationDimensions (attestationEntry a)
    from rfl, attestationDimensions_attestationEntry] at hu
  simp only [List.mem_cons, List.not_mem_nil, or_false] at hu
  rcases hu with rfl | rfl | rfl | rfl | rfl
  · exact plain_str _
  · exact plain_bool _
  · exact plain_bool _
  · exact plain_bool _
  · exact plain_ofOption _

/-- A cached checkpoint that agrees with a recomputed one in canonical form has
the very dimensions of it, with its attestations in the same order. -/
theorem checkpointDimensions_of_norm {cached : Json} {attestations : List AttestationResult}
    {c : CheckpointResult} (h : (projectCheckpoint cached).norm =
      (projectCheckpoint (checkpointEntry attestations c)).norm) :
    checkpointDimensions cached = checkpointDimensions (checkpointEntry attestations c) := by
  have hDims := checkpointDimensions_checkpointEntry attestations c
  refine Prod.ext (map_get_of_norm_eq h fun u hu => ?_) ?_
  · rw [show List.map (checkpointEntry attestations c).get _ =
      (checkpointDimensions (checkpointEntry attestations c)).1 from rfl, hDims] at hu
    simp only [List.mem_cons, List.not_mem_nil, or_false] at hu
    rcases hu with rfl | rfl
    · exact plain_str _
    · exact plain_bool _
  · have hItems := map_norm_of_get h (get_projectCheckpoint _) (get_projectCheckpoint _)
    have hEntries : (checkpointEntry attestations c).listAt "attestations" =
        (attestations.filter (·.checkpointTxId = c.txId)).map attestationEntry := by
      simp [checkpointEntry, Json.listAt, Json.get, List.lookup_cons, Json.arr?]
    rw [List.map_map, List.map_map] at hItems
    refine map_eq_map_of_map_eq hItems fun v _ w hw hNorm => ?_
    rw [hEntries] at hw
    obtain ⟨a, -, rfl⟩ := List.mem_map.mp hw
    exact attestationDimensions_of_norm hNorm

/-- One projection in normal form: the verdicts agree, since every dimension of
a recomputed verdict is plain. -/
theorem verdictsAgree_of_norm {cached : Json} {source : EvidenceBundleResult}
    {attestations : List AttestationResult} {b : Json}
    (h : (projectVerdictForAgreement cached).norm =
      (projectVerdictForAgreement (freshVerdict b source attestations)).norm) :
    VerdictsAgree cached (freshVerdict b source attestations) := by
  refine ⟨?_, ?_, ?_⟩
  · have hSchema := congrArg (fun u : Json => u.get "schema_version") h
    simp only [Json.get_norm, get_projection_schemaVersion, schemaVersion_freshVerdict] at hSchema
    have hStr := plain_str _ _ hSchema
    rw [schemaVersion_freshVerdict]
    split_ifs at hStr
    exact hStr
  · have hItems := map_norm_of_get h (get_projection_events _) (get_projection_events _)
    rw [List.map_map, List.map_map] at hItems
    refine map_eq_map_of_map_eq hItems fun v _ w hw hNorm => ?_
    rw [events_freshVerdict] at hw
    obtain ⟨e, -, rfl⟩ := List.mem_map.mp hw
    exact eventDimensions_of_norm hNorm
  · have hItems := map_norm_of_get h (get_projection_checkpoints _) (get_projection_checkpoints _)
    rw [List.map_map, List.map_map] at hItems
    refine map_eq_map_of_map_eq hItems fun v _ w hw hNorm => ?_
    rw [checkpoints_freshVerdict] at hw
    obtain ⟨c, -, rfl⟩ := List.mem_map.mp hw
    exact checkpointDimensions_of_norm hNorm

/-- The cached verdict passes exactly when it agrees with the recomputed one on
every compared dimension. -/
theorem verdictAgreement_iff (hJcs : R.JcsCompositional) (hInj : R.JcsInjective) {cached b : Json}
    {source : EvidenceBundleResult} {attestations : List AttestationResult}
    (hStrings : StringsRender R source attestations) :
    (verdictAgreement (kernel R) cached (freshVerdict b source attestations)).1 = true ↔
      VerdictsAgree cached (freshVerdict b source attestations) := by
  obtain ⟨fresh, hFresh⟩ := canonicalizes_freshProjection hJcs hStrings b
  rw [verdictAgreement_iff_canonical]
  simp only [kernel_canonical_eq_ok]
  constructor
  · rintro ⟨bytes, hCached, hSame⟩
    exact verdictsAgree_of_norm (norm_eq_of_canonicalJson hInj hCached hSame)
  · intro h
    rw [projection_congr h]
    exact ⟨fresh, hFresh, hFresh⟩

end Agreement
end ArioProof.Python
