import ArioProof.Python.AttestationRun
import ArioProof.Python.ExportSource

/-! What one transaction id denotes in a result. Events and the re-fetch take
the first entry under an id, attestations the last one in the body of the
source, and every entry has a row of its own. -/
namespace ArioProof.Python

open Foundation

variable (R : Runtime)

/-- A row of a result and the entry it reports. -/
def Reports (b : Json) (result : EvidenceBundleResult) (i : Nat) (cp : Json)
    (row : CheckpointResult) : Prop :=
  (tracedCheckpoints b)[i]? = some cp ∧ result.checkpoints[i]? = some row

/-- The attestations of a result, of which only an export has any. -/
def attestationsOf (result : EvidenceBundleResult) : List AttestationResult :=
  match result.exported with
  | some exported => exported.attestations
  | none => []

/-- Every use of a transaction id is about the entry that the rows under this
id report; the last two fields are what a reader of the rows relies on. -/
structure OneCheckpoint (b : Json) (options : Options) (result : EvidenceBundleResult) : Prop where
  /-- The map that events bind through and rows are re-fetched through. -/
  bound : ∀ i cp row, Reports b result i cp row → ∀ entry,
    (firstEntries (tracedCheckpoints b)).lookup row.txId = some entry → entry = cp
  /-- The map that attestations are compared through. -/
  attested : ∀ a ∈ attestationsOf result, a.ok = true → ∃ entry,
    (sourceCheckpoints (sourceOf b)).lookup a.checkpointTxId = some entry ∧
    (∃ i row, Reports b result i entry row ∧ row.txId = a.checkpointTxId) ∧
    ∀ i cp row, Reports b result i cp row → row.txId = a.checkpointTxId → entry = cp
  signedFor : ∀ (k : Nat) rec a, ((b.get "body").listAt "attestations")[k]? = some rec →
    (attestationsOf result)[k]? = some a → a.ok = true → ∀ i cp row, Reports b result i cp row →
      row.txId = a.checkpointTxId → SignedFor R rec cp
  confirmed : ∀ i cp row onChain, Reports b result i cp row → row.onChain = some onChain →
    onChain.rollup = .confirm → ∃ expected, canonicalJson R (cp.get "envelope") = .ok expected ∧
      (∃ bytes, some bytes ∈ answersForRow (kernel R) (tracedCheckpoints b) options i ∧
        Confirms (kernel R) expected bytes) ∧
      ∀ bytes, some bytes ∈ answersForRow (kernel R) (tracedCheckpoints b) options i →
        Confirms (kernel R) expected bytes

/-- No two different entries behind the rows answer to one id, and an id that a
record names finds the same entry in the source and behind the rows. -/
structure OneEntryPerTxId (b : Json) : Prop where
  entries : ∀ cp ∈ tracedCheckpoints b, ∀ entry,
    (tracedCheckpoints b).find? (hasTxId (rowTxId cp)) = some entry → entry = cp
  records : isExport b = true → ∀ rec ∈ (b.get "body").listAt "attestations",
    (((sourceOf b).get "body").listAt "checkpoints").reverse.find?
        (hasTxId ((rec.get "checkpoint_tx_id").str?.getD [])) =
      (tracedCheckpoints b).find? (hasTxId ((rec.get "checkpoint_tx_id").str?.getD []))

variable {R} {b : Json} {options : Options} {result : EvidenceBundleResult}

/-- The records and results of an export that did not fail: each record was
read against its source and found ok. -/
theorem attestationsOf_runs (h : verifyEvidenceBundle R b options = .ok result)
    (hStatus : result.status ≠ .failed ∧ result.status ≠ .malformed) :
    attestationsOf result = [] ∧ (isExport b = true → sourceOf b = .null) ∨
    isExport b = true ∧ List.Forall₂ (fun rec a => a.ok = true ∧
        AttestationRun R rec (sourceCheckpoints (sourceOf b)) a)
      ((b.get "body").listAt "attestations") (attestationsOf result) := by
  unfold attestationsOf
  cases bodyRun_of_status h hStatus with
  | trace checkpoints events hType run =>
      left
      rw [run.exported]
      exact ⟨rfl, by simp [isExport_eq_false_of_isTrace hType]⟩
  | finished source attestations hType run status attested =>
      right
      refine ⟨hType, ?_⟩
      rw [run.result_eq]
      refine forall₂_imp_of_mem (verifyAttestations_eq_ok run.attestations_eq) ?_
      exact fun rec _ a ha hRec => ⟨attested a ha, verifyAttestation_eq_ok hRec⟩
  | withoutSource hType inline status checkpoints events exported =>
      left
      rw [exported]
      exact ⟨rfl, fun _ => inline⟩
  | unknown hExport hTrace status checkpoints events exported =>
      left
      rw [exported]
      exact ⟨rfl, by simp [hExport]⟩

/-- Rows and entries of a result correspond by position. -/
theorem reports_of_status (h : verifyEvidenceBundle R b options = .ok result)
    (hStatus : result.status ≠ .failed ∧ result.status ≠ .malformed) :
    List.Forall₂ (RowOf (kernel R)) (tracedCheckpoints b) result.checkpoints ∧
    ∀ i cp row onChain, Reports b result i cp row → row.onChain = some onChain →
      onChain.rollup = .confirm → ∃ entry expected,
        (tracedCheckpoints b).find? (hasTxId (rowTxId cp)) = some entry ∧
        expectedBytes R entry = some expected ∧
        (∃ bytes, some bytes ∈ answersForRow (kernel R) (tracedCheckpoints b) options i ∧
          Confirms (kernel R) expected bytes) ∧
        ∀ bytes, some bytes ∈ answersForRow (kernel R) (tracedCheckpoints b) options i →
          Confirms (kernel R) expected bytes := by
  rcases traceRun_of_traced h hStatus with ⟨hNone, hRows, -⟩ |
    ⟨inner, checkpoints, events, run, hTraced, hRows, -⟩
  · rw [hNone, hRows]
    exact ⟨.nil, fun i cp row _ hReports => by simp [Reports, hNone] at hReports⟩
  · unfold Reports
    rw [hTraced, hRows]
    exact ⟨run.rowsOf, fun i cp row onChain hReports hOnChain hConfirm =>
      run.onChain_of_row hReports.1 hReports.2 hOnChain hConfirm⟩

/-- A reported row has the transaction id of the entry it reports. -/
theorem txId_of_reports (hRows : List.Forall₂ (RowOf (kernel R)) (tracedCheckpoints b) result.checkpoints)
    {i : Nat} {cp : Json} {row : CheckpointResult} (h : Reports b result i cp row) :
    row.txId = rowTxId cp := by
  obtain ⟨hLen, hGet⟩ := List.forall₂_iff_get.mp hRows
  obtain ⟨hi, rfl⟩ := List.getElem?_eq_some_iff.mp h.1
  obtain ⟨hi', rfl⟩ := List.getElem?_eq_some_iff.mp h.2
  exact (hGet i hi hi').txId

/-- Every entry is reported by a row. -/
theorem reports_of_mem (hRows : List.Forall₂ (RowOf (kernel R)) (tracedCheckpoints b) result.checkpoints)
    {cp : Json} (h : cp ∈ tracedCheckpoints b) : ∃ i row, Reports b result i cp row := by
  obtain ⟨i, hi, rfl⟩ := List.mem_iff_getElem.mp h
  exact ⟨i, _, List.getElem?_eq_getElem hi, List.getElem?_eq_getElem (hRows.length_eq ▸ hi)⟩

/-- Under one entry per id, the entry an ok record is signed for is the one that
the rows under its id report. -/
theorem OneEntryPerTxId.attested (hOne : OneEntryPerTxId b)
    (h : verifyEvidenceBundle R b options = .ok result)
    (hStatus : result.status ≠ .failed ∧ result.status ≠ .malformed) {k : Nat} {rec : Json}
    {a : AttestationResult} (hRec : ((b.get "body").listAt "attestations")[k]? = some rec)
    (ha : (attestationsOf result)[k]? = some a) : ∃ entry,
      (sourceCheckpoints (sourceOf b)).lookup a.checkpointTxId = some entry ∧
      SignedFor R rec entry ∧
      (∃ i row, Reports b result i entry row ∧ row.txId = a.checkpointTxId) ∧
      ∀ i cp row, Reports b result i cp row → row.txId = a.checkpointTxId → entry = cp := by
  obtain ⟨hRows, -⟩ := reports_of_status h hStatus
  rcases attestationsOf_runs h hStatus with ⟨hNone, -⟩ | ⟨hExport, hRuns⟩
  · simp [hNone] at ha
  · obtain ⟨hLen, hGet⟩ := List.forall₂_iff_get.mp hRuns
    obtain ⟨hk, rfl⟩ := List.getElem?_eq_some_iff.mp hRec
    obtain ⟨hk', rfl⟩ := List.getElem?_eq_some_iff.mp ha
    obtain ⟨hOk, run⟩ := hGet k hk hk'
    simp only [List.get_eq_getElem] at hOk run
    obtain ⟨-, -, entry, hFound, hSigned⟩ := run.ok_iff.mp hOk
    have hFirst := hOne.records hExport _ (List.getElem_mem hk)
    rw [← run.checkpointTxId, ← lookup_sourceCheckpoints, hFound] at hFirst
    obtain ⟨i, row, hReports⟩ := reports_of_mem hRows (List.mem_of_find?_eq_some hFirst.symm)
    refine ⟨entry, hFound, hSigned, ⟨i, row, hReports, ?_⟩, fun j cp other hOther hTxId => ?_⟩
    · exact (txId_of_reports hRows hReports).trans
        (rowTxId_of_hasTxId (List.find?_some hFirst.symm))
    · refine hOne.entries cp (List.mem_of_getElem? hOther.1) entry ?_
      rw [← txId_of_reports hRows hOther, hTxId]
      exact hFirst.symm

/-- A transaction id denotes one checkpoint throughout a result exactly when it
names one entry throughout the bundle. Rows are made by the first entry under an
id, and attestations are bound to the last. -/
theorem oneCheckpoint_iff (b : Json) (options : Options) (result : EvidenceBundleResult)
    (h : verifyEvidenceBundle R b options = .ok result)
    (hStatus : result.status ≠ .failed ∧ result.status ≠ .malformed) :
    OneCheckpoint R b options result ↔ OneEntryPerTxId b := by
  obtain ⟨hRows, hConfirms⟩ := reports_of_status h hStatus
  have hRuns := attestationsOf_runs h hStatus
  constructor
  · intro hOne
    refine ⟨fun cp hMem entry hFound => ?_, fun hExport rec hRec => ?_⟩
    · obtain ⟨i, row, hReports⟩ := reports_of_mem hRows hMem
      refine hOne.bound i cp row hReports entry ?_
      rw [lookup_firstEntries, txId_of_reports hRows hReports]
      exact hFound
    · rcases hRuns with ⟨-, hNull⟩ | ⟨-, hRuns⟩
      · rw [tracedCheckpoints, traced_of_isExport hExport, hNull hExport,
          traced_of_not_isExport (by rfl)]
        rfl
      · obtain ⟨a, ha, hOk, run⟩ := exists_of_mem_left hRuns hRec
        obtain ⟨entry, hFound, ⟨i, row, hReports, hTxId⟩, hAll⟩ := hOne.attested a ha hOk
        rw [← run.checkpointTxId, ← lookup_sourceCheckpoints, hFound]
        rw [lookup_sourceCheckpoints] at hFound
        cases hFirst : (tracedCheckpoints b).find? (hasTxId a.checkpointTxId) with
        | none =>
            exact absurd (List.find?_some hFound)
              (List.find?_eq_none.mp hFirst entry (List.mem_of_getElem? hReports.1))
        | some first =>
            obtain ⟨j, firstRow, hFirstReports⟩ :=
              reports_of_mem hRows (List.mem_of_find?_eq_some hFirst)
            rw [hAll j first firstRow hFirstReports ((txId_of_reports hRows hFirstReports).trans
              (rowTxId_of_hasTxId (List.find?_some hFirst)))]
  · intro hOne
    refine ⟨fun i cp row hReports entry hFound => ?_, fun a ha _ => ?_, ?_, ?_⟩
    · rw [lookup_firstEntries, txId_of_reports hRows hReports] at hFound
      exact hOne.entries cp (List.mem_of_getElem? hReports.1) entry hFound
    · obtain ⟨k, hk, rfl⟩ := List.mem_iff_getElem.mp ha
      rcases hRuns with ⟨hNone, -⟩ | ⟨-, hRuns⟩
      · simp [hNone] at hk
      · obtain ⟨entry, hFound, -, hReported, hAll⟩ := hOne.attested h hStatus
          (List.getElem?_eq_getElem (hRuns.length_eq ▸ hk)) (List.getElem?_eq_getElem hk)
        exact ⟨entry, hFound, hReported, hAll⟩
    · intro k rec a hRec ha _ i cp row hReports hTxId
      obtain ⟨entry, -, hSigned, -, hAll⟩ := hOne.attested h hStatus hRec ha
      rw [← hAll i cp row hReports hTxId]
      exact hSigned
    · intro i cp row onChain hReports hOnChain hConfirm
      obtain ⟨entry, expected, hFound, hExpected, hAnswers⟩ :=
        hConfirms i cp row onChain hReports hOnChain hConfirm
      obtain rfl := hOne.entries cp (List.mem_of_getElem? hReports.1) entry hFound
      exact ⟨expected, expectedBytes_eq_some.mp hExpected, hAnswers⟩

section Sample

open Reference

def secondCheckpointSigned : Nat × Nat :=
  (0xf863cdc609372aa0f6c9873b021d91c1bca82d4a1f43d14c3707c335d9d9ef8e,
    0xfaaa13853a53f67720ca084aa1a1dd8f55b8936e0c888f03ea3b62496a465d7242186019650f219a3904395553471902eb02159ea31fc04e62e1a7dc96256901)

def secondCheckpoint : Json :=
  checkpoint "tx2" 0x28a3a18f6cd6406b086e9ffda1f9b8a13dbcf44b0f3f32cb9031a11fd053acf9 1
    0xd7a762ea96d45214ccf719988401af00b68cda774fc00d25187aae88611201e8 secondCheckpointSigned

def attestedTraceSigned : Nat × Nat :=
  (0x7d1cd360f0f4591ead83c490434e1b1e1dbe9468e9121bca7215e147ccd6a3d8,
    0xab1ad16bceb75a1b9d6450b74dbac438008a32cb0b7a2d2fee08037b9793acd4f32a2d13ad28e37d3df188b775aac8530bb5c093375c945a5a88382254452308)

/-- A trace of two checkpoints. -/
def attestedTrace : Json :=
  trace [sampleCheckpoint, secondCheckpoint] [sampleEvent 1 2]
    0xe4dc4118970b886906db33cab81a873c163a47d565d3ed40e957c49dedef43a4 attestedTraceSigned

def attestedExportSigned : Nat × Nat :=
  (0x4ac56d0cdf356f967a6efd16aa351d5b0f96a1f549b8ad180f81ae1424b67345,
    0xbe081e1974fd5f755191f0023c5299319dc2d23d072389a34c43071ee31c61e713d865ffa998b03e30aee0eab7eb517d577324494732eab77ace0f81de43e107)

/-- Its export with a record of an operator for the first of them. -/
def attestedExport : Json :=
  exporting attestedTrace 0xa5015e01a703c860023b67960d6b8dcddf06e00b9bb989007bd877d5f304557c
    [sampleAttestation "tx1"]
    [.object [("event_id", .str "e1"), ("signature_ok", .bool true), ("payload_bound", .bool true),
      ("inclusion_ok", .bool true), ("content_ok", .null)]]
    [.object [("checkpoint_tx_id", .str "tx1"), ("merkle_root_ok", .bool true),
      ("attestations", .arr [.object [
        ("operator", .str "92SmR2LDw6MVXaEZZu2NlWeJlBQEHUwcEOQlUyUEL30"),
        ("signature_ok", .bool true), ("operator_address_bound", .bool true),
        ("data_hash_bound", .bool true), ("subject_ref_ok", .null)]])],
      .object [("checkpoint_tx_id", .str "tx2"), ("merkle_root_ok", .bool true),
        ("attestations", .arr [])]]
    0xbd37fbac1a508dcb63451a6b4f1327eb6cdc104a5af34cf3d1157650169e8350 attestedExportSigned

/-- The sample keys, and the signatures of an export over two checkpoints. -/
abbrev attestedRuntime : Runtime :=
  python { signedWith [sampleEventSigned, sampleCheckpointSigned, secondCheckpointSigned,
    attestedTraceSigned, attestedExportSigned] with rsa := [⟨sampleModulus,
      0xcda7a1e36f56274876c27ffa4b0f67baeee09d1bc9ed010bc762eafb0e6eca2a, sampleRsaSignature⟩] }

/-- A trace of the samples has the checkpoints it was built from. -/
theorem tracedCheckpoints_trace (checkpoints events : List Json) (bodyHash : Nat)
    (signed : Nat × Nat) :
    tracedCheckpoints (trace checkpoints events bodyHash signed) = checkpoints := by
  have hType : isTrace (trace checkpoints events bodyHash signed) = true := by
    simp [isTrace, trace, wrapper, Json.get, Json.str?, List.lookup_cons]
  rw [tracedCheckpoints, traced_of_not_isExport (isExport_eq_false_of_isTrace hType), if_pos hType]
  exact (listAt_trace checkpoints events bodyHash signed).1

/-- A gateway that holds both of them. -/
def attestedOnChain : Options :=
  ⟨[utf16 "https://g"], fun _ => none, some fun _ url =>
    if url = utf16 "https://g/tx1" then some singleEnvelopeBytes
    else if url = utf16 "https://g/tx2" then
      some (((canonicalText (secondCheckpoint.get "envelope")).getD []).map UInt16.toUInt8)
    else none⟩

/-- The attested export has its trace inline. -/
theorem sourceOf_attestedExport : sourceOf attestedExport = attestedTrace := by
  simp [sourceOf, attestedExport, exporting, wrapper, Json.get, List.lookup_cons]

theorem isExport_attestedExport : isExport attestedExport = true := by
  simp [isExport, attestedExport, exporting, wrapper, Json.get, List.lookup_cons, Json.str?]

/-- The two checkpoints have different transaction ids. -/
theorem oneEntryPerTxId_attestedExport : OneEntryPerTxId attestedExport := by
  have hTraced : tracedCheckpoints attestedExport = [sampleCheckpoint, secondCheckpoint] := by
    rw [tracedCheckpoints, traced_of_isExport isExport_attestedExport, sourceOf_attestedExport]
    exact tracedCheckpoints_trace _ _ _ _
  have hOwn : rowTxId sampleCheckpoint = utf16 "tx1" ∧ rowTxId secondCheckpoint = utf16 "tx2" := by
    simp [rowTxId, sampleCheckpoint, secondCheckpoint, checkpoint, Json.get]
  have hTxId (txId : String) : hasTxId txId sampleCheckpoint = decide ("tx1" = txId) ∧
      hasTxId txId secondCheckpoint = decide ("tx2" = txId) := by
    simp [hasTxId, sampleCheckpoint, secondCheckpoint, checkpoint, Json.get, Json.str?]
  constructor
  · intro cp hMem entry hFound
    rw [hTraced] at hMem hFound
    simp only [List.mem_cons, List.not_mem_nil, or_false] at hMem
    rcases hMem with rfl | rfl
    · simpa [hOwn, hTxId, List.find?_cons, eq_comm] using hFound
    · simpa [hOwn, hTxId, List.find?_cons, eq_comm] using hFound
  · intro _ rec hRec
    have hRecords : (attestedExport.get "body").listAt "attestations" = [sampleAttestation "tx1"] := by
      simp [attestedExport, exporting, wrapper, Json.get, Json.listAt, Json.arr?, List.lookup_cons]
    rw [hRecords, List.mem_singleton] at hRec
    have hNamed : (rec.get "checkpoint_tx_id").str?.getD [] = utf16 "tx1" := by
      simp [hRec, sampleAttestation, attestation, Json.get, Json.str?]
    rw [hTraced, sourceOf_attestedExport, attestedTrace, (listAt_trace _ _ _ _).1, hNamed]
    simp [hTxId]

theorem oneCheckpoint_sample : ∃ result,
    verifyEvidenceBundle attestedRuntime attestedExport attestedOnChain = .ok result ∧
      result.status = .verified ∧
      OneCheckpoint attestedRuntime attestedExport attestedOnChain result := by
  obtain ⟨result, hRun, hStatus⟩ := exists_of_returns (show returns
    (verifyEvidenceBundle attestedRuntime attestedExport attestedOnChain)
      (fun result => result.status = .verified) = true by decide +kernel)
  have hStatus := of_decide_eq_true hStatus
  exact ⟨result, hRun, hStatus, (oneCheckpoint_iff attestedExport attestedOnChain result hRun
    (by simp [hStatus])).mpr oneEntryPerTxId_attestedExport⟩

/-- Another checkpoint under the id of the first one. -/
def twinCheckpoint : Json :=
  checkpoint "tx1" 0x28a3a18f6cd6406b086e9ffda1f9b8a13dbcf44b0f3f32cb9031a11fd053acf9 1
    0xd7a762ea96d45214ccf719988401af00b68cda774fc00d25187aae88611201e8
    (0x8cba6fa98ff20b660c9093ba16c6bac48b0734257864bfc38d3bef44279c8cf5,
      0xb0304400b8657dfaab9c2fe5e9ddc4e6babf10821c22b0652dc72326e4d753107930813a41fcde1bc4696bc51e926142d9673afc26658e86629c805a51ee0d0f)

def twinTraceSigned : Nat × Nat :=
  (0x6e4014bd1012599ae2c05ed6525321ccbe719714650710f64bf11b1ed2a6dac2,
    0x1973793a6a1d543853ac4177eec4b41f903bf46fee21f64e37701b92960ea791e545644165d03b4271cc88946554b89490ca1b428677fe1f8d924f0a7b5d7107)

/-- A trace with two entries under one transaction id. -/
def twinTrace : Json :=
  trace [sampleCheckpoint, twinCheckpoint] []
    0x5a756900fd83fc87177b227ac35698a1f5099a9f0a5643df322c8d4c058cb520 twinTraceSigned

abbrev twinRuntime : Runtime :=
  python (signedWith [sampleCheckpointSigned, twinTraceSigned,
    (0x8cba6fa98ff20b660c9093ba16c6bac48b0734257864bfc38d3bef44279c8cf5,
      0xb0304400b8657dfaab9c2fe5e9ddc4e6babf10821c22b0652dc72326e4d753107930813a41fcde1bc4696bc51e926142d9673afc26658e86629c805a51ee0d0f)])

/-- The row of the second entry shows an id under which everything else looks
at the first one. -/
theorem twinTrace_twoCheckpoints : ∃ result,
    verifyEvidenceBundle twinRuntime twinTrace .offline = .ok result ∧
      result.status = .verified ∧ ¬OneCheckpoint twinRuntime twinTrace .offline result := by
  obtain ⟨result, hRun, h⟩ := exists_of_returns (show returns
    (verifyEvidenceBundle twinRuntime twinTrace .offline) (fun result =>
      result.status = .verified ∧ result.checkpoints[1]?.map (·.txId) = some (utf16 "tx1")) = true
    by decide +kernel)
  obtain ⟨hStatus, hSecond⟩ := of_decide_eq_true h
  obtain ⟨row, hRow, hTxId⟩ := Option.map_eq_some_iff.mp hSecond
  refine ⟨result, hRun, hStatus, fun hOne => ?_⟩
  have hTraced : tracedCheckpoints twinTrace = [sampleCheckpoint, twinCheckpoint] :=
    tracedCheckpoints_trace _ _ _ _
  have hFirst : hasTxId "tx1" sampleCheckpoint = true := by
    simp [sampleCheckpoint, checkpoint, hasTxId, Json.get, Json.str?]
  have hSame : sampleCheckpoint = twinCheckpoint := by
    refine hOne.bound 1 twinCheckpoint row ⟨by rw [hTraced]; rfl, hRow⟩ _ ?_
    rw [lookup_firstEntries, hTraced, hTxId]
    simp [hFirst]
  have hRoots : sampleCheckpoint.get "merkle_root" = twinCheckpoint.get "merkle_root" := by
    rw [hSame]
  simp only [sampleCheckpoint, twinCheckpoint, checkpoint, Json.get, Json.get?_object] at hRoots
  exact absurd (Json.str.inj hRoots) (by decide +kernel)

end Sample
end ArioProof.Python
