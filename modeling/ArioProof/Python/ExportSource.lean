import ArioProof.Python.TraceOnChain

/-! What a verified export rests on. Its attestations are compared with the
checkpoints written in the body of its source; whether these are the ones the
source was verified by depends on the type of that body. -/
namespace ArioProof.Python

open Foundation

variable (R : Runtime)

/-- A record is signed for an entry that has an ok row under the record's id. -/
def BoundToVerified (checkpoints : List Json) (rows : List CheckpointResult) (rec : Json)
    (a : AttestationResult) : Prop :=
  ∃ (i : Nat) (cp : Json) (row : CheckpointResult), checkpoints[i]? = some cp ∧
    rows[i]? = some row ∧ row.txId = a.checkpointTxId ∧ row.ok = true ∧ SignedFor R rec cp

/-- The source is an anchor trace, and every record is bound to a checkpoint
that the recompute of the source verified. -/
structure RestsOnVerifiedTrace (b : Json) (options : Options) (result : EvidenceBundleResult) :
    Prop where
  isTrace : isTrace (sourceOf b) = true
  bound : ∃ source exported, verifyEvidenceBundle R (sourceOf b) options = .ok source ∧
    result.exported = some exported ∧
    List.Forall₂ (BoundToVerified R (((sourceOf b).get "body").listAt "checkpoints")
      source.checkpoints) ((b.get "body").listAt "attestations") exported.attestations

variable {R} {b : Json} {options : Options} {result : EvidenceBundleResult}

/-- A verified export rests on a verified anchor trace exactly when its inline
source is not itself an export. The verifier follows an inline source of any type,
so an export of an export is verified without resting on a trace. -/
theorem verified_export_rests_iff (b : Json) (options : Options) (result : EvidenceBundleResult)
    (h : verifyEvidenceBundle R b options = .ok result) (hStatus : result.status = .verified)
    (hType : result.bodyType = some (utf16 exportBodyType)) :
    RestsOnVerifiedTrace R b options result ↔ isExport (sourceOf b) = false := by
  refine ⟨fun hRests => isExport_eq_false_of_isTrace hRests.isTrace, fun hNotExport => ?_⟩
  have hGood : result.status ≠ .failed ∧ result.status ≠ .malformed := by simp [hStatus]
  have hExport : isExport b = true := by
    simpa [isExport, bodyType_of_status h hGood] using hType
  cases bodyRun_of_status h hGood with
  | trace checkpoints events hTrace run =>
      rw [isExport_eq_false_of_isTrace hTrace] at hExport
      cases hExport
  | finished source attestations _ run status attested =>
      have hVerified : source.status = .verified := status.symm.trans hStatus
      -- Only a trace can bring the source to `verified` here.
      cases bodyRun_of_status run.source_eq (by simp [hVerified]) with
      | trace checkpoints events hTrace sourceRun =>
          have hRows := ((rollupStatus_verified_iff _ _ _).mp
            (sourceRun.status.symm.trans hVerified)).2.1
          have hCheckpoints : ((sourceOf b).get "body").listAt "checkpoints" = checkpoints := by
            simp [Json.listAt, sourceRun.checkpoints_eq, Json.arr?]
          refine ⟨hTrace, source, _, run.source_eq, by rw [run.result_eq]; rfl, ?_⟩
          rw [hCheckpoints]
          refine forall₂_imp_of_mem (verifyAttestations_eq_ok run.attestations_eq) ?_
          intro rec _ a ha hRec
          obtain ⟨-, -, cp, hFound, hSigned⟩ :=
            (verifyAttestation_eq_ok hRec).ok_iff.mp (attested a ha)
          rw [lookup_sourceCheckpoints, hCheckpoints] at hFound
          obtain ⟨i, row, hCp, hRow, hTxId⟩ := sourceRun.row_of_mem
            (List.mem_reverse.mp (List.mem_of_find?_eq_some hFound)) (List.find?_some hFound)
          exact ⟨i, cp, row, hCp, hRow, hTxId, hRows row (List.mem_of_getElem? hRow), hSigned⟩
      | finished inner _ hInner => rw [hNotExport] at hInner; cases hInner
      | withoutSource hInner => rw [hNotExport] at hInner; cases hInner
      | unknown _ _ hPartly => rw [hVerified] at hPartly; cases hPartly
  | withoutSource _ _ hPartly => rw [hStatus] at hPartly; cases hPartly
  | unknown _ _ hPartly => rw [hStatus] at hPartly; cases hPartly

section Sample

open Reference

def checkedEntry : Json :=
  .object [("checkpoint_tx_id", .str "tx1"), ("merkle_root_ok", .bool true),
    ("attestations", .arr [])]

def singleExportSigned : Nat × Nat :=
  (0x9d95f9a0c3786cc57bc2dee6fe3041978dfdfaff2db8b326508086651113e4d1,
    0xe4140f18a3290deed110cefe1f953f3ed1fabcd9783df5d7c29804b5425991168e78a94c86932a3ab63c467a43aca34de374aba1cb786fa73b833629282cbe0d)

def singleExport : Json :=
  exporting singleTrace 0x86dbb32278168a66c7e1b6887dfaeb33d45ee8b2a0eaddb26c91ca6dd3b80a5c [] []
    [checkedEntry] 0xee1316787bae4966b56bc9e95bb64313f42417cfd9a9820b26f46b0c035901a9
    singleExportSigned

def nestedExportSigned : Nat × Nat :=
  (0x652b9666ee0f11fc4ac6c6dd14179644d0e09c26f30454f01102df00da46ddf9,
    0x4e3daf251e7512af9899059e356cb1f4ef03d8f95f046298803827f6eaf8945bce4ce51ed27c274c8a46620aee3ce62874e3cc177066d2f1c7e010f53a49440f)

/-- An export of an export. -/
def nestedExport : Json :=
  exporting singleExport 0xf3c3fe544cc84794e1c64d751ecf0f761943b929dcf27e6adb2cf7fd52d6ea10 [] []
    [checkedEntry] 0x0ae8f8899b41a9669aa1a3f14f962a293e8ee78daba6a3d534ca731634dd1e58
    nestedExportSigned

abbrev exportRuntime : Runtime :=
  python (signedWith [sampleCheckpointSigned, singleTraceSigned, singleExportSigned,
    nestedExportSigned])

theorem verified_export_rests_sample : ∃ result,
    verifyEvidenceBundle exportRuntime singleExport .offline = .ok result ∧
      RestsOnVerifiedTrace exportRuntime singleExport .offline result := by
  obtain ⟨result, hRun, h⟩ := exists_of_returns (show returns
    (verifyEvidenceBundle exportRuntime singleExport .offline) (fun result =>
      result.status = .verified ∧ result.bodyType = some (utf16 exportBodyType)) = true
    by decide +kernel)
  obtain ⟨hStatus, hType⟩ := of_decide_eq_true h
  refine ⟨result, hRun, (verified_export_rests_iff _ _ result hRun hStatus hType).mpr ?_⟩
  simp [isExport, sourceOf, singleExport, exporting, wrapper, singleTrace, trace, Json.get,
    List.lookup_cons, exportBodyType, anchorTraceBodyType, Json.str?]

/-- An export of an export is verified, and no trace is its inline source. -/
theorem nestedExport_rests_on_no_trace : ∃ result,
    verifyEvidenceBundle exportRuntime nestedExport .offline = .ok result ∧
      result.status = .verified ∧ result.bodyType = some (utf16 exportBodyType) ∧
      ¬RestsOnVerifiedTrace exportRuntime nestedExport .offline result := by
  obtain ⟨result, hRun, h⟩ := exists_of_returns (show returns
    (verifyEvidenceBundle exportRuntime nestedExport .offline) (fun result =>
      result.status = .verified ∧ result.bodyType = some (utf16 exportBodyType)) = true
    by decide +kernel)
  obtain ⟨hStatus, hType⟩ := of_decide_eq_true h
  refine ⟨result, hRun, hStatus, hType, fun hRests => ?_⟩
  have hTrace := hRests.isTrace
  simp [isTrace, sourceOf, nestedExport, exporting, wrapper, singleExport, Json.get, List.lookup_cons,
    exportBodyType, anchorTraceBodyType, Json.str?] at hTrace

end Sample
end ArioProof.Python
