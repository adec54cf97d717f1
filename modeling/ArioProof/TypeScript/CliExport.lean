import ArioProof.Reference.Environment
import ArioProof.TypeScript.CliArguments
import ArioProof.TypeScript.ExportRoundTrip

/-! `export`, and `verify` of what it wrote. -/
namespace ArioProof.TypeScript

open Foundation CommandLine

variable {δ : Type} {E : Environment δ}

section Inputs

/-- A run that does not exit as malformed had its inputs. -/
theorem withInputs_code {α : Type} {input : Input α} {disk : δ} {run : α → Run δ}
    (h : (withInputs input disk run).code ≠ .ok exitMalformed) :
    ∃ value, input = .ok value ∧ withInputs input disk run = run value := by
  cases input with
  | error lines => exact absurd rfl h
  | ok value => exact ⟨value, rfl, rfl⟩

theorem required_of_ne {s : Str} (h : s ≠ []) (complaint : String) (usage : List Line) :
    required (some s) complaint usage = .ok s := by
  rw [required, if_neg (by simpa using h)]

/-- A file that was read as JSON has a text that parses. -/
theorem readJson_eq_ok {disk : δ} {path : Str} {v : Json} (h : readJson E disk path = .ok v) :
    ∃ text, E.jsonParse text = .ok v := by
  obtain ⟨raw, -, hParsed⟩ := bind_eq_ok.mp h
  exact ⟨raw, mapError_eq_ok.mp hParsed⟩

/-- Records that were read from a file can be held. -/
theorem held_coerceAttestations {raw : Json} {items : List Json}
    (h : coerceAttestations raw = some items) (hRaw : Held raw) : Held (.arr items) := by
  unfold coerceAttestations at h
  split at h
  · cases h
    exact hRaw
  · split at h
    · next found hFound =>
      cases h
      rw [← hFound]
      exact hRaw.get "attestations"
    · cases h

/-- The inputs of an export are values that were parsed. -/
theorem held_exportInputs (hHeld : ∀ text v, E.jsonParse text = .ok v → Held v)
    {given : ExportOption → Option Str} {positional : List Str} {disk : δ} {inputs : ExportInputs}
    (h : exportInputs E given positional disk = .ok inputs) :
    Held inputs.sourceBundle ∧ Held (.arr inputs.attestations) := by
  obtain ⟨bundlePath, -, h⟩ := bind_eq_ok.mp h
  obtain ⟨attestationsPath, -, h⟩ := bind_eq_ok.mp h
  obtain ⟨keyPath, -, h⟩ := bind_eq_ok.mp h
  obtain ⟨sourceBundle, hSource, h⟩ := bind_eq_ok.mp h
  obtain ⟨attestationsRaw, hRaw, h⟩ := bind_eq_ok.mp h
  obtain ⟨sourceText, hSource⟩ := readJson_eq_ok hSource
  obtain ⟨attestationsText, hRaw⟩ := readJson_eq_ok hRaw
  cases hItems : coerceAttestations attestationsRaw with
  | none =>
      rw [hItems] at h
      cases h
  | some items =>
      rw [hItems] at h
      obtain ⟨privateKey, -, h⟩ := bind_eq_ok.mp h
      cases h
      exact ⟨hHeld _ _ hSource, held_coerceAttestations hItems (hHeld _ _ hRaw)⟩

end Inputs

section Exported

/-- An export that got as far as to compose. -/
structure Exports (E : Environment δ) (rest : List Str) (disk : δ)
    (given : ExportOption → Option Str) (positional : List Str) (inputs : ExportInputs)
    (composed : ComposeExportResult) : Prop where
  words_eq : readWords exportOption? (fun _ => none) rest = .ok (given, positional)
  inputs_eq : exportInputs E given positional disk = .ok inputs
  composed_eq : composeFrom E given inputs = .ok composed

/-- The artifact was written to the named file, or was the one line printed. -/
def Delivered (E : Environment δ) (outPath : Option Str) (bundle : Json) (disk : δ) (run : Run δ) :
    Prop :=
  (outPath.getD [] = [] ∧ run.lines = [.out (E.stringify bundle)] ∧ run.disk = disk) ∨
    (outPath.getD [] ≠ [] ∧
      E.writeFile disk (outPath.getD []) (serialized E bundle) = (.ok (), run.disk))

/-- An artifact that was written exits by its status. -/
theorem writeExport_code {outPath : Option Str} {count : Nat} {composed : ComposeExportResult}
    {disk : δ} (h : (writeExport E outPath count composed disk).code ≠ .ok exitMalformed) :
    (writeExport E outPath count composed disk).code = .ok (exportCode composed.status) ∧
    Delivered E outPath composed.bundle disk (writeExport E outPath count composed disk) := by
  unfold writeExport at h ⊢
  by_cases hPath : outPath.getD [] = []
  · simp only [hPath, List.isEmpty_nil, if_true]
    refine ⟨trivial, Or.inl ⟨hPath, ?_, rfl⟩⟩
    rw [serialized, List.dropLast_concat]
  · simp only [List.isEmpty_iff, hPath, if_false] at h ⊢
    cases hWrite : E.writeFile disk (outPath.getD []) (serialized E composed.bundle) with
    | mk written later =>
        rw [hWrite] at h
        cases written with
        | error e => exact absurd rfl h
        | ok written => exact ⟨rfl, Or.inr ⟨hPath, hWrite⟩⟩

/-- What is composed is written: a run whose stages all succeed ends in the
artifact. -/
theorem runExport_of_exports {rest : List Str} {disk : δ} {given : ExportOption → Option Str}
    {positional : List Str} {inputs : ExportInputs} {composed : ComposeExportResult}
    (h : Exports E rest disk given positional inputs composed) : runExport E rest disk =
      writeExport E (given .out) inputs.attestations.length composed disk := by
  rw [runExport, h.words_eq]
  simp only [Except.mapError, withInputs, h.inputs_eq, h.composed_eq]

/-- An export that does not exit with 2 has composed and written. -/
theorem runExport_code {rest : List Str} {disk : δ}
    (h : (runExport E rest disk).code ≠ .ok exitMalformed) :
    ∃ given positional inputs composed, Exports E rest disk given positional inputs composed ∧
      (runExport E rest disk).code = .ok (exportCode composed.status) ∧
      Delivered E (given .out) composed.bundle disk (runExport E rest disk) := by
  obtain ⟨⟨given, positional⟩, hWords, hRun⟩ := withInputs_code h
  rw [runExport, hRun] at h ⊢
  obtain ⟨inputs, hInputs, hRun⟩ := withInputs_code h
  rw [hRun] at h ⊢
  obtain ⟨composed, hComposed, hRun⟩ := withInputs_code h
  rw [hRun] at h ⊢
  exact ⟨given, positional, inputs, composed, ⟨mapError_eq_ok.mp hWords, hInputs,
    mapError_eq_ok.mp hComposed⟩, writeExport_code h⟩

end Exported

section Verified

/-- A value is read back from the text that is written of it. -/
def ReadsBack (E : Environment δ) (v : Json) : Prop :=
  E.jsonParse (serialized E v) = .ok (clone v)

/-- Without gateways nothing is fetched, so it does not matter what would
answer. -/
theorem verifyEvidenceBundle_fetch (R : Runtime) (b : Json) (content : Str → Option SideContent)
    (fetch : Option Fetch) : verifyEvidenceBundle R b ⟨[], content, fetch⟩ =
      verifyEvidenceBundle R b ⟨[], content, none⟩ := by
  have hLevel : verifyBundle (kernel R) ⟨[], content, fetch⟩ =
      verifyBundle (kernel R) ⟨[], content, none⟩ := rfl
  unfold verifyEvidenceBundle ArioProof.verifyEvidenceBundle
  rw [hLevel]

/-- A run of `verify` over a file that is an evidence bundle. -/
theorem runCli_verify_file {disk : δ} {path text : Str} {b : Json} {result : EvidenceBundleResult}
    (hPath : path ≠ []) (hOption : isLogsOption path = none) (hRead : E.readFile disk path = .ok text)
    (hParsed : E.jsonParse text = .ok b) (hSpec : isAgentProofSpec (b.get "spec_version") = false)
    (hResult : verifyEvidenceBundle E.runtime b .offline = .ok result) :
    (runCli E [utf16 "verify", path] disk).code = .ok (reportEvidence E result path []).2 := by
  have hJson : readJson E disk path = .ok b := by
    simp only [readJson, readText, hRead, parseJson, hParsed, Except.mapError, bind, Except.bind]
  have hInputs : verifyInputs E (fun _ => none) [path] disk = .ok ⟨path, [], none, b⟩ := by
    simp only [verifyInputs, List.getElem?_cons_zero, required_of_ne hPath, hJson, bind, Except.bind,
      Option.mapM_none, pure, Except.pure]
    rfl
  have hRun : verifyEvidenceBundle E.runtime b
      (VerifyInputs.options E ⟨path, [], none, b⟩) = .ok result := by
    rw [← hResult]
    exact verifyEvidenceBundle_fetch E.runtime b (fun _ => none) _
  rw [runCli_verify, runVerify, readWords, hOption]
  simp only [readWords, bind, Except.bind, pure, Except.pure, Except.mapError, withInputs, hInputs,
    verifyParsed, hSpec, Bool.false_eq_true, if_false, hRun, reported]

/-- The code of a report is that of its result. -/
theorem reportEvidence_code {result : EvidenceBundleResult} (h : result.status ≠ .malformed)
    (path : Str) (gateways : List Str) : (reportEvidence E result path gateways).2 =
      exitOf result.status result.errors := by
  rw [reportEvidence, if_neg h]
  rfl

/-- A verification exits with 1 where a composition of that status does. -/
theorem exitOf_failed {status : Status} (h : status ∈ [.verified, .partly, .failed])
    (errors : List Str) : exitOf status errors ≠ exitMalformed ∧
      (exitOf status errors = exitFailed ↔ exportCode status = exitFailed) := by
  cases status with
  | verified => exact ⟨Nat.zero_ne_add_one 1, Iff.rfl⟩
  | failed => exact ⟨(Nat.lt_succ_self 1).ne, Iff.rfl⟩
  | malformed => exact absurd h (by decide)
  | partly =>
      rw [exitOf]
      split_ifs
      · exact ⟨by decide, by decide⟩
      · exact ⟨by decide, by decide⟩

/-- What `export` wrote, `verify` reads, on any disk that has the artifact: it
exits with 1 where the export did, and never calls the artifact malformed. -/
theorem exported_verifies (hSign : E.runtime.crypto.Ed25519Correct)
    (hParts : E.runtime.CanonicalizeCompositional)
    (hHeld : ∀ text v, E.jsonParse text = .ok v → Held v) (rest : List Str) (disk : δ)
    (hCode : (runCli E (utf16 "export" :: rest) disk).code ≠ .ok exitMalformed) :
    ∃ given positional inputs composed, Exports E rest disk given positional inputs composed ∧
      Delivered E (given .out) composed.bundle disk (runCli E (utf16 "export" :: rest) disk) ∧
      (ReadsBack E composed.bundle → ∀ (later : δ) (path : Str), path ≠ [] →
        isLogsOption path = none → E.readFile later path = .ok (serialized E composed.bundle) →
        ∃ code, (runCli E [utf16 "verify", path] later).code = .ok code ∧ code ≠ exitMalformed ∧
          (code = exitFailed ↔
            (runCli E (utf16 "export" :: rest) disk).code = .ok exitFailed)) := by
  rw [runCli_export] at hCode ⊢
  obtain ⟨given, positional, inputs, composed, hExports, hExit, hDelivered⟩ := runExport_code hCode
  refine ⟨given, positional, inputs, composed, hExports, hDelivered, ?_⟩
  intro hReads later path hPath hOption hFile
  obtain ⟨hSource, hItems⟩ := held_exportInputs hHeld hExports.inputs_eq
  obtain ⟨records, recomputed, source, publicKey, body, pre, signature, run⟩ :=
    composeExport_eq_ok hExports.composed_eq
  have hClone : clone composed.bundle = composed.bundle := clone_composed hParts hSource hItems run
  obtain ⟨result, exported, hTrip⟩ := roundTrips_composed hSign hParts rfl run
  have hSpec : isAgentProofSpec (composed.bundle.get "spec_version") = false := by
    have hOwn : composed.bundle.get "spec_version" = .str "ario.evidence/v1" :=
      get_composed run (by decide)
    rw [hOwn]
    decide
  rw [ReadsBack, hClone] at hReads
  have hVerify := runCli_verify_file hPath hOption hFile hReads hSpec hTrip.result_eq
  refine ⟨_, hVerify, ?_⟩
  have hRolled : result.status ∈ [.verified, .partly, .failed] := hTrip.status ▸ hTrip.rolledUp
  rw [hExit, ← hTrip.status, Except.ok.injEq, reportEvidence_code]
  · exact exitOf_failed hRolled _
  · rintro hMalformed
    rw [hMalformed] at hRolled
    exact absurd hRolled (by decide)

end Verified

section Sample

open Reference

def failedExportSigned : Nat × Nat :=
  (0x8add514bb1c081c0063a71d5c2788c82e8eabdb10f0c11ee953d80a8f236e4b7,
    0xa169b3aec7f9d4bb42b86769fc7c688c1ced08570bd09d0bb91ea6ec253e91b9bdc2d08fb2b30e82c6df126b78650a1da4b424beb8fa3ded552cd38c7b04e40d)

abbrev sampleEnvironment : Environment Files :=
  environment (typeScript (signedWith [failedExportSigned])) "2026-01-01T00:00:00Z"

/-- A source that is no evidence bundle, no records, and a key. -/
def sampleFiles : Files :=
  [("source.json", "\x7b\x7d\n"), ("records.json", "[]\n"), ("seed.hex", Hex.encode (octets 32 seed))]

/-- The words of a command line of `export`: three files to read and one to
write. -/
def sampleWords : List Str :=
  ["-o", "export.json", "source.json", "--attestations", "records.json", "-k", "seed.hex"]

/-- Whether an export ends in an artifact that has a text. -/
def endsWritten (rest : List Str) (files : Files) : Bool :=
  match readWords exportOption? (fun _ => none) rest with
  | .error _ => false
  | .ok (given, positional) =>
      match exportInputs sampleEnvironment given positional files with
      | .error _ => false
      | .ok inputs =>
          returns (composeFrom sampleEnvironment given inputs) fun composed =>
            fits composed.bundle && (emit composed.bundle []).isSome

theorem readsBack_of_endsWritten {rest : List Str} {files : Files}
    {given : ExportOption → Option Str} {positional : List Str} {inputs : ExportInputs}
    {composed : ComposeExportResult} (h : endsWritten rest files = true)
    (hExports : Exports sampleEnvironment rest files given positional inputs composed) :
    ReadsBack sampleEnvironment composed.bundle := by
  rw [endsWritten, hExports.words_eq] at h
  simp only [hExports.inputs_eq, hExports.composed_eq, returns, Bool.and_eq_true] at h
  obtain ⟨text, hText⟩ := Option.isSome_iff_exists.mp h.2
  exact readJsonText_writeJsonText hText h.1

/-- A source that verifies, with a record that binds. -/
abbrev boundEnvironment : Environment Files := environment composeRuntime []

/-- A disk with a verified source, a record that binds to it, and a seed. -/
def boundFiles : Files :=
  [("source.json", serialized boundEnvironment Python.sampleTrace),
    ("records.json", serialized boundEnvironment (.arr [Python.sampleAttestation "tx1"])),
    ("seed.hex", Hex.encode (octets 32 seed))]

def boundArguments : List (Argument Str) :=
  [.option "-o" "export.json", .option "--generated-at" "2026-01-01T00:00:00Z",
    .positional "source.json", .option "--attestations" "records.json", .option "-k" "seed.hex"]

def boundGiven : ExportOption → Option Str
  | .out => some "export.json"
  | .generatedAt => some "2026-01-01T00:00:00Z"
  | .attestations => some "records.json"
  | .key => some "seed.hex"
  | _ => none

def boundInputs : ExportInputs :=
  ⟨Python.sampleTrace, [Python.sampleAttestation "tx1"], Hex.encode (octets 32 seed)⟩

/-- A file that holds a value as it is written is read as the value. -/
theorem readJson_serialized {v : Json} {path : String}
    (hFile : boundFiles.lookup (utf16 path) = some (serialized boundEnvironment v))
    (hEmit : (emit v []).isSome = true) (hFits : fits v = true) (hClone : clone v = v) :
    readJson boundEnvironment boundFiles path = .ok v := by
  obtain ⟨text, hText⟩ := Option.isSome_iff_exists.mp hEmit
  have hFound : boundEnvironment.readFile boundFiles (utf16 path) =
      .ok (serialized boundEnvironment v) := by
    simp only [environment, hFile]
  have hParsed : boundEnvironment.jsonParse (serialized boundEnvironment v) = .ok v := by
    rw [← hClone]
    exact hClone.symm ▸ readJsonText_writeJsonText hText hFits
  simp only [readJson, readText, hFound, parseJson, hParsed, Except.mapError, bind, Except.bind]

theorem exports_bound {composed : ComposeExportResult}
    (h : composeExport composeRuntime Python.sampleTrace (.arr [Python.sampleAttestation "tx1"])
      sampleKey sampleOptions [] = .ok composed) :
    Exports boundEnvironment (wordsOf boundArguments) boundFiles boundGiven ["source.json"]
      boundInputs composed where
  words_eq := by
    have hGiven : (fun own => (lastValue exportOption? boundArguments own).or none) = boundGiven := by
      funext own
      cases own <;> decide +kernel
    have hFormed : ∀ argument ∈ boundArguments, argument.WellFormed exportOption? := by
      simp only [boundArguments, List.forall_mem_cons, List.not_mem_nil, false_implies,
        implies_true, and_true, Argument.WellFormed]
      decide +kernel
    rw [readWords_wordsOf hFormed, hGiven]
    rfl
  inputs_eq := by
    have hSource : readJson boundEnvironment boundFiles "source.json" = .ok Python.sampleTrace :=
      readJson_serialized rfl (by decide +kernel) rfl clone_sampleTrace
    have hRecords : readJson boundEnvironment boundFiles "records.json" =
        .ok (.arr [Python.sampleAttestation "tx1"]) :=
      readJson_serialized rfl (by decide +kernel) rfl rfl
    have hKey : readExporterKey boundEnvironment boundFiles "seed.hex" =
        .ok (Hex.encode (octets 32 seed)) := by
      obtain ⟨own, hOwn, hSame⟩ := exists_of_returns (show returns
        (readExporterKey boundEnvironment boundFiles "seed.hex")
          (fun own => own = Hex.encode (octets 32 seed)) = true by decide +kernel)
      rw [hOwn, of_decide_eq_true hSame]
    have hBundlePath := required_of_ne (show utf16 "source.json" ≠ [] by decide)
    have hRecordsPath := required_of_ne (show utf16 "records.json" ≠ [] by decide)
    have hKeyPath := required_of_ne (show utf16 "seed.hex" ≠ [] by decide)
    simp only [exportInputs, boundGiven, List.getElem?_cons_zero, hBundlePath, hRecordsPath, hKeyPath,
      hSource, hRecords, hKey, coerceAttestations, bind, Except.bind, pure, Except.pure, boundInputs]
  composed_eq := h

/-- A named file is what was written, and it holds the artifact where a file is
read as it was written. -/
theorem written_of_delivered {path : Str} {bundle : Json} {disk : δ} {run : Run δ}
    (hRead : ∀ disk path text, E.readFile (E.writeFile disk path text).2 path = .ok text)
    (hPath : path ≠ []) (h : Delivered E (some path) bundle disk run) :
    run.disk = (E.writeFile disk path (serialized E bundle)).2 ∧
      E.readFile run.disk path = .ok (serialized E bundle) := by
  rcases h with ⟨hEmpty, -⟩ | ⟨-, hWrite⟩
  · exact absurd hEmpty hPath
  · have hDisk : run.disk = (E.writeFile disk path (serialized E bundle)).2 :=
      (congrArg Prod.snd hWrite).symm
    rw [hDisk]
    exact ⟨rfl, hRead disk path _⟩

/-- An export of a source that does not verify exits with 1, and so does the
verification of what it wrote. An export of one that verifies exits with 0, and
its verification with neither 1 nor 2. -/
theorem exported_verifies_sample :
    (∃ bundle,
      (runCli sampleEnvironment (utf16 "export" :: sampleWords) sampleFiles).code = .ok 1 ∧
      (runCli sampleEnvironment (utf16 "export" :: sampleWords) sampleFiles).disk =
        (utf16 "export.json", serialized sampleEnvironment bundle) :: sampleFiles ∧
      (runCli sampleEnvironment [utf16 "verify", utf16 "export.json"]
        (runCli sampleEnvironment (utf16 "export" :: sampleWords) sampleFiles).disk).code = .ok 1) ∧
    ∃ bundle code,
      (runCli boundEnvironment (utf16 "export" :: wordsOf boundArguments) boundFiles).code = .ok 0 ∧
      (runCli boundEnvironment (utf16 "export" :: wordsOf boundArguments) boundFiles).disk =
        (utf16 "export.json", serialized boundEnvironment bundle) :: boundFiles ∧
      (runCli boundEnvironment [utf16 "verify", utf16 "export.json"]
        (runCli boundEnvironment (utf16 "export" :: wordsOf boundArguments) boundFiles).disk).code =
          .ok code ∧ code ≠ 1 ∧ code ≠ 2 := by
  constructor
  · have hRun : returns (runCli sampleEnvironment (utf16 "export" :: sampleWords) sampleFiles).code
        (fun code => code = 1) = true := by decide +kernel
    obtain ⟨one, hCode, hOne⟩ := exists_of_returns hRun
    rw [of_decide_eq_true hOne] at hCode
    have hWritten : endsWritten sampleWords sampleFiles = true := by decide +kernel
    obtain ⟨given, positional, inputs, composed, hExports, hDelivered, hVerifies⟩ :=
      exported_verifies (E := sampleEnvironment) (ed25519Correct _) (canonicalizeCompositional _)
        (fun _ _ => held_of_readJsonText) sampleWords sampleFiles (by
          rw [hCode]
          exact fun h => absurd (Except.ok.inj h) (by decide))
    have hPath : given .out = some (utf16 "export.json") := by
      have hWords := congrArg (fun read => read.toOption.map fun words => words.1 ExportOption.out)
        hExports.words_eq
      exact (Option.some.inj hWords).symm
    rw [hPath] at hDelivered
    obtain ⟨hDisk, hFile⟩ := written_of_delivered (E := sampleEnvironment) (readFile_writeFile _ _)
      (show utf16 "export.json" ≠ [] by decide) hDelivered
    obtain ⟨code, hVerify, -, hBoth⟩ := hVerifies (readsBack_of_endsWritten hWritten hExports)
      _ (utf16 "export.json") (by decide) (by decide) hFile
    rw [hBoth.mpr hCode] at hVerify
    exact ⟨composed.bundle, hCode, hDisk, hVerify⟩
  · obtain ⟨composed, hComposed, hStatus, -, hFits, hText⟩ := sampleTrace_composed
    obtain ⟨text, hText⟩ := Option.isSome_iff_exists.mp hText
    have hOwn := exports_bound hComposed
    have hCode : (runCli boundEnvironment (utf16 "export" :: wordsOf boundArguments) boundFiles).code =
        .ok 0 := by
      rw [runCli_export, runExport_of_exports hOwn]
      change Except.ok (exportCode composed.status) = _
      rw [hStatus]
      rfl
    obtain ⟨given, positional, inputs, other, hExports, hDelivered, hVerifies⟩ :=
      exported_verifies (E := boundEnvironment) (ed25519Correct _) (canonicalizeCompositional _)
        (fun _ _ => held_of_readJsonText) (wordsOf boundArguments) boundFiles (by
          rw [hCode]
          exact fun h => absurd (Except.ok.inj h) (by decide))
    -- The export that was found is the one at hand.
    obtain ⟨rfl, rfl⟩ := Prod.mk.inj (Except.ok.inj (hExports.words_eq.symm.trans hOwn.words_eq))
    obtain rfl := Except.ok.inj (hExports.inputs_eq.symm.trans hOwn.inputs_eq)
    obtain rfl := Except.ok.inj (hExports.composed_eq.symm.trans hOwn.composed_eq)
    have hReads : ReadsBack boundEnvironment other.bundle := readJsonText_writeJsonText hText hFits
    change Delivered boundEnvironment (some (utf16 "export.json")) _ _ _ at hDelivered
    obtain ⟨hDisk, hFile⟩ := written_of_delivered (E := boundEnvironment) (readFile_writeFile _ _)
      (show utf16 "export.json" ≠ [] by decide) hDelivered
    obtain ⟨code, hVerify, hTwo, hBoth⟩ := hVerifies hReads _ (utf16 "export.json") (by decide)
      (by decide) hFile
    refine ⟨other.bundle, code, hCode, hDisk, hVerify, fun hFailed => ?_, hTwo⟩
    rw [hCode] at hBoth
    exact absurd (Except.ok.inj (hBoth.mp hFailed)) (by decide)

end Sample
end ArioProof.TypeScript
