import ArioProof.Evidence.ExportRun

/-! Where an exception leaves the algorithm. Nothing is raised in front of a
body, so that a kernel returns on a bundle unless the readers of its bodies or
of its attestation records raise under a wrapper that holds. -/
namespace ArioProof

open Foundation

variable {ε : Type} (K : Kernel ε)

/-- The bundles on which an exception escapes, given the trace bodies and the
lists of records that are not read through. -/
inductive Escapes (body : Json → Prop) (records : List Json → Prop) : Json → Prop where
  | body {b : Json} (wrapped : Wrapped K b) (hType : isTrace b = true) (h : body (b.get "body")) :
      Escapes body records b
  | source {b : Json} (wrapped : Wrapped K b) (hType : isExport b = true)
      (complaint : exportComplaint (b.get "body") = none) (inline : sourceOf b ≠ .null)
      (h : Escapes body records (sourceOf b)) : Escapes body records b
  | records {b : Json} (wrapped : Wrapped K b) (hType : isExport b = true)
      (complaint : exportComplaint (b.get "body") = none) (inline : sourceOf b ≠ .null)
      (h : records ((b.get "body").listAt "attestations")) : Escapes body records b

variable {K}

/-- A trace body is read through when it has members and, where it holds two
arrays, their entries have members. -/
theorem verifyAnchorTrace_returns_iff {b : Json} {bodyType : Str} {specVersionOk : Bool}
    {asserted : Option Str} {errors : List Str} {options : Options} :
    (∃ result, verifyAnchorTrace K b bodyType specVersionOk asserted errors options = .ok result) ↔
      K.checkBody (b.get "body") = .ok () ∧
        ∀ checkpoints events, (b.get "body").get "checkpoints" = .arr checkpoints →
          (b.get "body").get "events" = .arr events →
            (∀ cp ∈ checkpoints, K.checkEntry "tx_id" cp = .ok ()) ∧
              ∀ ev ∈ events, K.checkEntry "envelope" ev = .ok () := by
  constructor
  · rintro ⟨result, h⟩
    unfold verifyAnchorTrace at h
    cases hBody : K.checkBody (b.get "body") with
    | error exc => simp only [hBody, bind, Except.bind, reduceCtorEq] at h
    | ok _ =>
        refine ⟨rfl, fun checkpoints events hCheckpoints hEvents => ?_⟩
        simp only [hBody, hCheckpoints, hEvents, bind, Except.bind] at h
        cases hRows : verifyCheckpoints K [] checkpoints with
        | error exc => simp only [hRows, reduceCtorEq] at h
        | ok entry =>
            obtain ⟨byTxId, rows⟩ := entry
            simp only [hRows] at h
            cases hEvs : verifyEvents K byTxId options.content events with
            | error exc => simp only [hEvs, reduceCtorEq] at h
            | ok eventRows =>
                exact ⟨(verifyCheckpoints_eq_ok K hRows).1, (verifyEvents_eq_ok K hEvs).1⟩
  · rintro ⟨hBody, hEntries⟩
    by_cases hArrays : ∃ checkpoints events, (b.get "body").get "checkpoints" = .arr checkpoints ∧
        (b.get "body").get "events" = .arr events
    · obtain ⟨checkpoints, events, hCheckpoints, hEvents⟩ := hArrays
      obtain ⟨hRead, hRead'⟩ := hEntries checkpoints events hCheckpoints hEvents
      obtain ⟨result, h, -⟩ := verifyAnchorTrace_of_readable hCheckpoints hEvents hBody hRead hRead'
        bodyType specVersionOk asserted errors options
      exact ⟨result, h⟩
    · refine ⟨malformed "ario.anchor.trace/v1 body must have checkpoints[] and events[]" true, ?_⟩
      unfold verifyAnchorTrace
      simp only [hBody, bind, Except.bind]
      split
      · rename_i checkpoints events hCheckpoints hEvents
        exact (hArrays ⟨checkpoints, events, hCheckpoints, hEvents⟩).elim
      · rfl

/-- The records are read through unless one raises behind records that can all
be read; a malformed one ends the loop. -/
theorem verifyAttestations_returns_iff {checkpoints : List (Str × Json)} {records : List Json} :
    (∃ outcome, verifyAttestations K checkpoints records = .ok outcome) ↔
      ¬∃ before rec after, records = before ++ rec :: after ∧
        (∀ r ∈ before, ∃ a, K.verifyAttestation r checkpoints = .ok (a, none)) ∧
        ∃ exc, K.verifyAttestation rec checkpoints = .error exc := by
  induction records with
  | nil => exact iff_of_true ⟨_, rfl⟩ (by simp)
  | cons first rest ih =>
      cases hFirst : K.verifyAttestation first checkpoints with
      | error exc =>
          rw [verifyAttestations, hFirst]
          refine iff_of_false (by simp [bind, Except.bind]) (not_not.mpr ?_)
          exact ⟨[], first, rest, rfl, by simp, exc, hFirst⟩
      | ok entry =>
          obtain ⟨a, message⟩ := entry
          cases message with
          | some message =>
              rw [verifyAttestations, hFirst]
              refine iff_of_true ⟨.error message, rfl⟩ ?_
              rintro ⟨before, rec, after, hSplit, hRead, exc, hRaises⟩
              rcases List.cons_eq_append_iff.mp hSplit with ⟨rfl, hHead⟩ | ⟨tail, rfl, -⟩
              · cases hHead
                rw [hFirst] at hRaises
                cases hRaises
              · obtain ⟨other, hOther⟩ := hRead first List.mem_cons_self
                rw [hFirst] at hOther
                cases hOther
          | none =>
              have hStep : (∃ outcome, verifyAttestations K checkpoints (first :: rest) = .ok outcome) ↔
                  ∃ outcome, verifyAttestations K checkpoints rest = .ok outcome := by
                rw [verifyAttestations, hFirst]
                cases verifyAttestations K checkpoints rest with
                | error exc => simp [bind, Except.bind]
                | ok outcome => cases outcome <;> simp [bind, Except.bind, pure, Except.pure]
              refine (hStep.trans ih).trans (not_congr ?_)
              constructor
              · rintro ⟨before, rec, after, rfl, hRead, hRaises⟩
                refine ⟨first :: before, rec, after, rfl, ?_, hRaises⟩
                intro r hr
                rcases List.mem_cons.mp hr with rfl | hr
                · exact ⟨a, hFirst⟩
                · exact hRead r hr
              · rintro ⟨before, rec, after, hSplit, hRead, exc, hRaises⟩
                rcases List.cons_eq_append_iff.mp hSplit with ⟨rfl, hHead⟩ | ⟨tail, rfl, hRest⟩
                · cases hHead
                  rw [hFirst] at hRaises
                  cases hRaises
                · exact ⟨tail, rec, after, hRest, fun r hr =>
                    hRead r (List.mem_cons_of_mem first hr), exc, hRaises⟩

section Bundle

variable {body : Json → Prop} {records : List Json → Prop} {options : Options}

/-- An export returns when its source and its records do, unless it is turned
away before they are read. -/
theorem verifyExportBody_returns_iff {verifySource : Json → Except ε EvidenceBundleResult}
    {b : Json} {specVersionOk : Bool} {asserted : Option Str} {errors : List Str}
    (hRecords : ∀ checkpoints list, (∃ outcome, verifyAttestations K checkpoints list = .ok outcome) ↔
      ¬records list) :
    (∃ result, verifyExportBody K verifySource b specVersionOk asserted errors = .ok result) ↔
      (exportComplaint (b.get "body") = none → sourceOf b ≠ .null →
        (∃ source, verifySource (sourceOf b) = .ok source) ∧
          ¬records ((b.get "body").listAt "attestations")) := by
  unfold verifyExportBody
  dsimp only
  cases exportComplaint (b.get "body") with
  | some complaint => simp
  | none =>
      dsimp only
      rw [← hRecords (sourceCheckpoints (sourceOf b)), sourceOf]
      split
      · rename_i hNull
        simp [hNull]
      · rename_i hInline
        simp only [ne_eq, show (b.get "body").get "source_bundle" ≠ .null from hInline,
          not_false_eq_true, true_imp_iff]
        cases verifySource ((b.get "body").get "source_bundle") with
        | error exc => simp [bind, Except.bind]
        | ok source =>
            cases verifyAttestations K (sourceCheckpoints ((b.get "body").get "source_bundle"))
                ((b.get "body").listAt "attestations") with
            | error exc => simp [bind, Except.bind]
            | ok outcome => cases outcome <;> simp [bind, Except.bind, pure, Except.pure]

/-- A kernel returns on every bundle but those on which an exception escapes. -/
theorem verifyEvidenceBundle_returns_iff
    (hBody : ∀ b, (∃ result, verifyAnchorTrace K b anchorTraceBodyType true (assertedStatus b) []
      options = .ok result) ↔ ¬body (b.get "body"))
    (hRecords : ∀ checkpoints list, (∃ outcome, verifyAttestations K checkpoints list = .ok outcome) ↔
      ¬records list) (b : Json) :
    (∃ result, verifyEvidenceBundle K b options = .ok result) ↔ ¬Escapes K body records b := by
  induction b using traced.induct with
  | case1 b hExport ih =>
      rw [verifyEvidenceBundle_eq]
      by_cases hb : Wrapped K b
      · rw [verifyBundle_of_wrapped hb, verifyBody_of_isExport hExport,
          verifyExportBody_returns_iff hRecords, ih]
        constructor
        · rintro h (⟨-, hTrace, -⟩ | ⟨-, -, hComplaint, hInline, hSource⟩ |
            ⟨-, -, hComplaint, hInline, hList⟩)
          · rw [isExport_eq_false_of_isTrace hTrace] at hExport
            cases hExport
          · exact (h hComplaint hInline).1 hSource
          · exact (h hComplaint hInline).2 hList
        · intro h hComplaint hInline
          exact ⟨fun hSource => h (.source hb hExport hComplaint hInline hSource),
            fun hList => h (.records hb hExport hComplaint hInline hList)⟩
      · obtain ⟨result, h, -⟩ := verifyBundle_of_not_wrapped hb
          (fun inline => verifyEvidenceBundle K inline options) options
        refine iff_of_true ⟨result, h⟩ ?_
        rintro (⟨hw, -⟩ | ⟨hw, -⟩ | ⟨hw, -⟩) <;> exact hb hw
  | case2 b hExport =>
      rw [Bool.not_eq_true] at hExport
      rw [verifyEvidenceBundle_eq]
      by_cases hb : Wrapped K b
      · rw [verifyBundle_of_wrapped hb]
        by_cases hTrace : isTrace b = true
        · rw [verifyBody_of_isTrace hTrace, hBody]
          refine not_congr ⟨fun h => .body hb hTrace h, ?_⟩
          rintro (⟨-, -, h⟩ | ⟨-, hType, -⟩ | ⟨-, hType, -⟩)
          · exact h
          · rw [hExport] at hType
            cases hType
          · rw [hExport] at hType
            cases hType
        · rw [verifyBody_of_unknown hExport (by simpa using hTrace)]
          refine iff_of_true ⟨_, rfl⟩ ?_
          rintro (⟨-, hType, -⟩ | ⟨-, hType, -⟩ | ⟨-, hType, -⟩)
          · exact hTrace hType
          · rw [hExport] at hType
            cases hType
          · rw [hExport] at hType
            cases hType
      · obtain ⟨result, h, -⟩ := verifyBundle_of_not_wrapped hb
          (fun inline => verifyEvidenceBundle K inline options) options
        refine iff_of_true ⟨result, h⟩ ?_
        rintro (⟨hw, -⟩ | ⟨hw, -⟩ | ⟨hw, -⟩) <;> exact hb hw

end Bundle
end ArioProof
