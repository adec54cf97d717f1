import ArioProof.CrossKernel.ExitCode
import ArioProof.Foundation.CommandLine
import ArioProof.TypeScript.Compose
import ArioProof.TypeScript.Number

/-! `cli.ts`: the two commands, what they print and the code they exit with.
Files are read and written through an environment. -/
namespace ArioProof.TypeScript

open Foundation CommandLine

/-- What a command runs in. A disk is whatever files are read from. -/
structure Environment (δ : Type) where
  runtime : Runtime
  useColor : Bool
  readFile : δ → Str → Except Str Str
  writeFile : δ → (path text : Str) → Except Str Unit × δ
  /-- `JSON.parse` of a text. -/
  jsonParse : Str → Except Str Json
  /-- `JSON.stringify` with an indent of two. -/
  stringify : Json → Str
  /-- The text of a number in a template. -/
  numberText : Double → Str
  /-- The given implementation, or else the global one. -/
  fetchImpl : Option FetchImpl
  now : Str
  /-- The stack of an error, or its message. -/
  stack : Str → Str

/-- A line as it was printed: to standard output, or to standard error, where
complaints and usage go. -/
inductive Line where
  | out (s : Str)
  | err (s : Str)
  deriving DecidableEq

/-- A run that ended, or threw: the lines it printed, its code, and the disk it
left. -/
structure Run (δ : Type) where
  lines : List Line
  code : Except Str Nat
  disk : δ

section Codes

def exitVerified : Nat := 0

def exitFailed : Nat := 1

def exitMalformed : Nat := 2

end Codes
variable {δ : Type} (E : Environment δ)

section Text

def green : String := "\x1b[32m"

def red : String := "\x1b[31m"

def yellow : String := "\x1b[33m"

def dim : String := "\x1b[2m"

def bold : String := "\x1b[1m"

def reset : String := "\x1b[0m"

/-- A text in a color and back, or the bare text where the output is no terminal
or colors are turned off. -/
def paint (s : Str) (color : String) : Str :=
  if E.useColor then fstring [color, s, reset] else s

/-- The sign of a check that was made, or of one that was not and so neither
passed nor failed. -/
def mark : Option Bool → Str
  | none => paint E "~" yellow
  | some true => paint E "✓" green
  | some false => paint E "✗" red

/-- A transaction id as a report shows it: in full where it is short, else its
first eight and last four units. -/
def shortTx (tx : Str) : Str :=
  if tx.length ≤ 16 then tx else fstring [tx.take 8, "…", tx.drop (tx.length - 4)]

def shortId (id : Str) : Str := if id.length ≤ 12 then id else fstring [id.take 8, "…"]

/-- What `help` prints, and what follows each complaint about a command line of
`verify`. -/
def printUsage : List Line :=
  ["Usage: npx @ar.io/proof <command> [args]",
    "",
    "Commands:",
    "  verify <bundle.json> [gateways] [--logs <logs.json>]   Verify a bundle/export",
    "  export <source.json> --attestations <f> --key <f> [-o] Compose an attested export",
    "",
    "Verify an ario.evidence/v1 (ario.anchor.trace/v1) bundle, an",
    "ario.evidence.export/v1 attested export, or an ario.agent.proof/v1",
    "inclusion bundle, fully offline. Supply a comma-separated gateway list",
    "to also re-fetch each checkpoint on-chain.",
    "",
    "--logs <logs.json>  Bind disclosed raw logs to each event's committed",
    "                    content_hash. JSON object mapping event_id → bytes",
    "                    (even-length lowercase hex ⇒ hex, else utf8 text).",
    "                    In-body events[].content is verified automatically.",
    "",
    "Exit codes: 0 verified · 1 failed · 2 malformed · 3 gateway-unavailable"].map
  fun text : String => .out text

/-- What follows a complaint about a command line of `export`, before any file is
read. -/
def usageExport : List Line :=
  ["Usage: npx @ar.io/proof export <source-bundle.json> --attestations <file> --key <file> [-o <out.json>]",
    "",
    "Compose a signed, offline-verifiable ario.evidence.export/v1 artifact from an",
    "ario.anchor.trace/v1 source bundle + operator attestation records + an exporter",
    "Ed25519 key. The output verifies with `proof verify <out.json>`.",
    "",
    "--attestations <file>  JSON array of attestation records (or \x7battestations:[...]\x7d).",
    "--key <file>           Exporter Ed25519 key: a 32-byte hex seed, or JSON",
    "                       \x7b\"privateKey\":\"<hex>\"\x7d / \x7b\"seed\":\"<hex>\"\x7d.",
    "-o, --out <file>       Write the export here (default: stdout).",
    "--issuer-id <id>       Wrapper issuer.issuer_id (default ar-io-verify).",
    "--gateway <url>        Named delivery surface (not trusted).",
    "--previous-hash <h>    Custody pointer (default GENESIS).",
    "--generated-at <ts>    RFC 3339 compose time (default now)."].map
  fun text : String => .out text

end Text

section Report

/-- The notes of a row, a record or a whole result, each on a line of its own
under the same indent. -/
def errorLines (indent : String) (color : String) (errors : List Str) : List Line :=
  errors.map fun e => .out (paint E (fstring [indent, e]) color)

/-- All that is printed of a bundle that could not be read: its path and the
reasons, on standard error. -/
def malformedLines (path : Str) (errors : List Str) : List Line :=
  .err (fstring [paint E "MALFORMED" red, "  ", path]) ::
    errors.map fun e => .err (fstring ["  - ", e])

/-- A segment that is shown where its check was made; an outcome that is
undetermined leaves it out. -/
def segment (label : String) (ok : Option Bool) : Str :=
  if ok.isSome then fstring [label, mark E ok] else []

/-- The recomputed verdict with the scope it was reached in, and a line about the
status that the producer asserted where that is another one. -/
def printRollup (status : Status) (asserted : Option Str) (gateways : List Str)
    (onChainChecked : Bool) : List Line :=
  let scope : Str :=
    if onChainChecked then
      fstring ["verified offline + on-chain against ", decimal gateways.length, " gateway(s)"]
    else "verified offline (no gateway re-fetch requested)"
  let head := match status with
    | .verified => paint E "VERIFIED" green
    | .partly => paint E "PARTIAL" yellow
    | .failed => paint E "FAILED" red
    | .malformed => paint E "MALFORMED" red
  .out (fstring [head, "  ", paint E scope dim]) ::
    match asserted with
    | some text =>
        if text.isEmpty || text = status.wire then []
        else [.out (paint E (fstring ["  (producer asserted \"", text,
          "\"; recomputed verdict is \"", status.wire, "\" — recomputed wins)"]) dim)]
    | none => []

/-- A checkpoint row with its checks, and the on-chain one where a gateway was
asked, above its notes. -/
def checkpointLines (cp : CheckpointResult) : List Line :=
  .out (fstring ["    ", mark E (some cp.ok), " ", shortTx cp.txId, "  envelope ",
    mark E (some cp.envelopeOk), "  root ", mark E (some cp.merkleRootOk),
    segment E "  on-chain " cp.onChainOk]) :: errorLines E "        - " red cp.errors

/-- An event row with its checks above its notes. A withheld record is marked as
such, not as a failure. -/
def eventLines (ev : EventResult) : List Line :=
  let binding := match ev.payloadBindingOk with
    | none => paint E "~ record withheld" yellow
    | ok => fstring ["record ", mark E ok]
  .out (fstring ["    ", mark E (some ev.ok), " ", shortId ev.eventId, "  sig ",
    mark E (some ev.envelopeOk), "  ", binding, "  inclusion ", mark E (some ev.inclusionOk),
    segment E "  logs " ev.contentOk]) :: errorLines E "        - " red ev.errors

/-- An attestation with its checks above its notes; the subject is shown only
where the record names one. -/
def attestationLines (a : AttestationResult) : List Line :=
  .out (fstring ["      ", mark E (some a.ok), " ", shortId a.operator, "  sig ",
    mark E (some a.signatureOk), "  operator ", mark E (some a.operatorAddressBound),
    "  data_hash ", mark E (some a.dataHashBound), segment E "  subject " a.subjectRefOk]) ::
    errorLines E "          - " red a.errors

/-- A block that is shown where it has entries, under its own heading. -/
def block (lead : List Line) (head : String) (entries : List (List Line)) : List Line :=
  if entries.isEmpty then [] else lead ++ .out (paint E head dim) :: entries.flatten

/-- The part of a report that only an export has, between its events and its
rollup. -/
def reportExport (exported : ExportResult) : List Line :=
  [.out "", .out (paint E "  Attested export" dim),
    .out (fstring ["    source linkage ", mark E (some exported.sourceLinkageOk),
      "  verdict agreement ", mark E (some exported.verdictAgreementOk)])] ++
    block E [] "    Operator attestations" (exported.attestations.map (attestationLines E))

/-- How many of the disclosed logs hold, where any were disclosed. -/
def disclosedLines (events : List EventResult) : List Line :=
  let disclosed := events.filter (·.contentOk.isSome)
  if disclosed.isEmpty then []
  else [.out (paint E (fstring ["  logs: ", decimal (disclosed.countP (·.contentOk = some true)), "/",
    decimal disclosed.length, " disclosed verified"]) dim)]

/-- The report of an evidence bundle or an export, with the code to exit with. -/
def reportEvidence (result : EvidenceBundleResult) (path : Str) (gateways : List Str) :
    List Line × Nat :=
  if result.status = .malformed then (malformedLines E path result.errors, exitMalformed)
  else
    ([.out (fstring [paint E "Evidence bundle" bold, "  ", path]),
      .out (fstring ["  body_type     ", result.bodyType.getD "<unknown>"]),
      .out (fstring ["  wrapper       sig ", mark E (some result.signatureOk), "  body_hash ",
        mark E (some result.bodyHashOk), "  spec ", mark E (some result.specVersionOk)])] ++
      block E [.out ""] "  Checkpoints" (result.checkpoints.map (checkpointLines E)) ++
      block E [.out ""] "  Events" (result.events.map (eventLines E)) ++
      (result.exported.map (reportExport E)).getD [] ++
      .out "" :: printRollup E result.status result.assertedStatus gateways result.onChainChecked ++
      errorLines E "  note: " dim result.errors ++ disclosedLines E result.events,
      mapStatusToExit result.status result.errors)

/-- The report of an agent proof, with the code to exit with, which is found by
the same rule as that of an evidence bundle. -/
def reportAgentProof (result : AgentProofResult) (path : Str) (gateways : List Str) :
    List Line × Nat :=
  if result.status = .malformed then (malformedLines E path result.errors, exitMalformed)
  else
    ([.out (fstring [paint E "Agent inclusion proof" bold, "  ", path]),
      .out "  spec_version  ario.agent.proof/v1",
      .out (fstring ["  checkpoint    ", shortTx (result.checkpointTxId.getD []), "  envelope ",
        mark E (some result.checkpointOk)]),
      .out (fstring ["  leaf          index ", E.numberText result.leafIndex, " / ",
        (result.leafCount.map E.numberText).getD "?", "  inclusion ", mark E (some result.inclusionOk),
        segment E "  on-chain " result.onChainOk]),
      .out ""] ++ printRollup E result.status none gateways result.onChainChecked ++
      errorLines E "  note: " dim result.errors,
      mapStatusToExit result.status result.errors)

end Report

section Inputs

/-- What is printed in place of a value that is not there. -/
abbrev Input (α : Type) := Except (List Line) α

/-- A file as it is read, with the message where it is not. -/
def readText (disk : δ) (path : Str) (complaint : Str) : Input Str :=
  (E.readFile disk path).mapError fun e => [.err (fstring [complaint, path, ": ", e])]

/-- A text as JSON, with a complaint that names where the text is from. -/
def parseJson (label text : Str) : Input Json :=
  (E.jsonParse text).mapError fun e => [.err (fstring [label, " is not valid JSON: ", e])]

/-- A file as JSON, with the complaint of whichever of the two steps did not
succeed. -/
def readJson (disk : δ) (path : Str) : Input Json := do
  let raw ← readText E disk path "cannot read "
  parseJson E path raw

/-- An argument that a command cannot do without, and that is not empty. -/
def required (value : Option Str) (complaint : String) (usage : List Line) : Input Str :=
  match value with
  | some s => if s.isEmpty then .error (.err complaint :: usage) else .ok s
  | none => .error (.err complaint :: usage)

/-- The bytes of a disclosed log. An even number of lower-case hex digits is read
as hex, and any other text stands for its UTF-8 bytes. -/
def decodeLogValue (v : Str) : SideContent :=
  if 0 < v.length && v.length % 2 = 0 &&
      v.all (fun c => (Hex.digit? c).isSome && Hex.asciiLower c = c) then .hex v
  else .raw (utf8 v)

/-- The members of a `--logs` file that are text, each as the disclosed content of
the event it is filed under. Other members are passed over. -/
def logContent (members : List (Str × Json)) : List (Str × SideContent) :=
  members.filterMap fun (eventId, v) => v.str?.map fun s => (eventId, decodeLogValue s)

/-- The `--logs` file: an object from event ids to texts, where members that are
not text are passed over. -/
def readLogs (disk : δ) (path : Str) : Input (List (Str × SideContent)) := do
  let raw ← readText E disk path "cannot read --logs "
  match ← parseJson E (fstring ["--logs ", path]) raw with
  | .obj members => .ok (logContent members)
  | _ => .error [.err (fstring ["--logs ", path,
      " must be a JSON object mapping event_id → disclosed bytes"])]

/-- The records of an attestations file, which is an array of them or an object
that has one. -/
def coerceAttestations : Json → Option (List Json)
  | .arr items => some items
  | raw =>
      match raw.get "attestations" with
      | .arr items => some items
      | _ => none

/-- `found ?? other`. -/
def orElse : Json → Json → Json
  | .null, other => other
  | found, _ => found

/-- A seed of 32 bytes in hex, in either case, with nothing around it. -/
def isSeed (s : Str) : Bool := s.length = 64 && s.all fun c => (Hex.digit? c).isSome

/-- The seed that a key file carries, before its shape is looked at. -/
def keySeed (path raw : Str) : Input Str :=
  if List.isPrefixOf [0x7B] raw then do
    let obj ← parseJson E (fstring ["export: --key ", path]) raw
    match orElse (orElse (obj.get "privateKey") (obj.get "seed")) (obj.get "private_key") with
    | .str found => return trim found
    | _ => .error [.err (fstring ["export: --key ", path,
        " JSON needs a string \"privateKey\"/\"seed\" field"])]
  else .ok raw

/-- The seed in a key file, in lower case, as it is handed to the composition. -/
def readExporterKey (disk : δ) (path : Str) : Input Str := do
  let raw ← readText E disk path "export: cannot read --key "
  let seed ← keySeed E path (trim raw)
  if isSeed seed then return toLowerCase E.runtime seed
  else .error [.err "export: --key must be a 32-byte (64 hex char) Ed25519 seed"]

end Inputs

section Verify

def isLogsOption (word : Str) : Option Unit := if word = utf16 "--logs" then some () else none

def comma : UInt16 := 0x2C

/-- The second word of `verify`: gateways between commas, trimmed, without the
empty ones. -/
def gatewayList (gatewayArg : Str) : List Str :=
  ((gatewayArg.splitOn comma).map trim).filter fun g => 0 < g.length

structure VerifyInputs where
  bundlePath : Str
  gateways : List Str
  content : Option (List (Str × SideContent))
  parsed : Json

/-- What `verify` makes of its words and of the files they name. The logs are read
before the bundle, so that a complaint about them comes first. -/
def verifyInputs (given : Unit → Option Str) (positional : List Str) (disk : δ) :
    Input VerifyInputs := do
  let bundlePath ← required positional[0]? "verify: a bundle file path is required" printUsage
  let content ← (given ()).mapM (readLogs E disk)
  let parsed ← readJson E disk bundlePath
  return ⟨bundlePath, gatewayList (positional[1]?.getD []), content, parsed⟩

/-- A response as an answer to a re-fetch: the bytes of a body that could be read,
and nothing for every failure. -/
def fetchAnswer (fetchImpl : FetchImpl) : Fetch := fun requests url => (fetchImpl requests url).answer

/-- The options of an evidence run. Where no file of logs was given, every event
is without side content. -/
def VerifyInputs.options (inputs : VerifyInputs) : Options where
  gateways := inputs.gateways
  content eventId := (inputs.content.getD []).lookup eventId
  fetchImpl := E.fetchImpl.map fetchAnswer

/-- A report, after lines that were printed before it was known. -/
def reported {ρ : Type} (before : List Line) (result : Except Str ρ) (report : ρ → List Line × Nat)
    (disk : δ) : Run δ :=
  match result with
  | .error e => ⟨before, .error e, disk⟩
  | .ok result => ⟨before ++ (report result).1, .ok (report result).2, disk⟩

/-- The kernel that the `spec_version` asks for, and its report. An agent proof
takes no logs, and says so before it is verified. -/
def verifyParsed (inputs : VerifyInputs) (disk : δ) : Run δ :=
  if isAgentProofSpec (inputs.parsed.get "spec_version") then
    reported (if inputs.content.isSome then
        [.err "note: --logs has no effect on an ario.agent.proof/v1 bundle (ignored)"] else [])
      (verifyAgentProofBundle E.runtime inputs.parsed ⟨inputs.gateways, E.fetchImpl⟩)
      (fun result => reportAgentProof E result inputs.bundlePath inputs.gateways) disk
  else
    reported [] (verifyEvidenceBundle E.runtime inputs.parsed (inputs.options E))
      (fun result => reportEvidence E result inputs.bundlePath inputs.gateways) disk

/-- A run that ends where its inputs are not there, with the code of a malformed
input and nothing written. -/
def withInputs {α : Type} (input : Input α) (disk : δ) (run : α → Run δ) : Run δ :=
  match input with
  | .error lines => ⟨lines, .ok exitMalformed, disk⟩
  | .ok value => run value

/-- The `verify` command: its words, then its files, then the bundle. Each stage
ends the run with a complaint where it cannot be passed. -/
def runVerify (rest : List Str) (disk : δ) : Run δ :=
  withInputs ((readWords isLogsOption (fun _ => none) rest).mapError fun _ =>
      .err "verify: --logs requires a file path" :: printUsage) disk fun words =>
    withInputs (verifyInputs E words.1 words.2 disk) disk fun inputs => verifyParsed E inputs disk

end Verify

section Export

/-- The options of `export`, each under its long name and, for three of them, a
short one. -/
inductive ExportOption where
  | attestations
  | key
  | out
  | issuerId
  | gateway
  | previousHash
  | generatedAt
  deriving DecidableEq

def exportOption? (word : Str) : Option ExportOption :=
  if word = utf16 "--attestations" || word = utf16 "-a" then some .attestations
  else if word = utf16 "--key" || word = utf16 "-k" then some .key
  else if word = utf16 "--out" || word = utf16 "-o" then some .out
  else if word = utf16 "--issuer-id" then some .issuerId
  else if word = utf16 "--gateway" then some .gateway
  else if word = utf16 "--previous-hash" then some .previousHash
  else if word = utf16 "--generated-at" then some .generatedAt
  else none

/-- The options that only pass into the wrapper or the body of the composed
export. -/
def composeOptions (given : ExportOption → Option Str) : ComposeExportOptions where
  issuerId := given .issuerId
  gateway := given .gateway
  previousHash := given .previousHash
  generatedAt := given .generatedAt

structure ExportInputs where
  sourceBundle : Json
  attestations : List Json
  privateKey : Str

/-- What `export` makes of its words and of the files they name, in the order in
which it complains. -/
def exportInputs (given : ExportOption → Option Str) (positional : List Str) (disk : δ) :
    Input ExportInputs := do
  let bundlePath ← required positional[0]? "export: a source bundle file path is required"
    usageExport
  let attestationsPath ← required (given .attestations)
    "export: --attestations <file> is required" usageExport
  let keyPath ← required (given .key) "export: --key <file> is required" usageExport
  let sourceBundle ← readJson E disk bundlePath
  let attestationsRaw ← readJson E disk attestationsPath
  match coerceAttestations attestationsRaw with
  | none => .error [.err (fstring ["export: ", attestationsPath,
      " must be a JSON array of attestation records ", "(or an object with an \"attestations\" array)"])]
  | some attestations => do
      let privateKey ← readExporterKey E disk keyPath
      return ⟨sourceBundle, attestations, privateKey⟩

def newline : UInt16 := 0x0A

/-- The artifact as it is written: indented JSON with a line break at its end. -/
def serialized (bundle : Json) : Str := E.stringify bundle ++ [newline]

/-- An export is written whatever its status, but a failed one makes the command
exit as failed. -/
def exportCode (status : Status) : Nat := if status = .failed then exitFailed else exitVerified

/-- The artifact goes to a file, or is printed as a line. -/
def writeExport (outPath : Option Str) (count : Nat) (composed : ComposeExportResult) (disk : δ) :
    Run δ :=
  let path := outPath.getD []
  if path.isEmpty then
    ⟨[.out (serialized E composed.bundle).dropLast], .ok (exportCode composed.status), disk⟩
  else
    match E.writeFile disk path (serialized E composed.bundle) with
    | (.error e, disk) =>
        ⟨[.err (fstring ["export: cannot write ", path, ": ", e])], .ok exitMalformed, disk⟩
    | (.ok _, disk) =>
        ⟨[.out (fstring [paint E "exported" (if composed.status = .failed then red else green), " ",
            path, "  ", "status ", composed.status.wire, "  ", "attestations ",
            decimal composed.boundAttestations, "/", decimal count, " bound"])],
          .ok (exportCode composed.status), disk⟩

/-- The composition behind `export`, at the current time where no time was
given. -/
def composeFrom (given : ExportOption → Option Str) (inputs : ExportInputs) :
    Except Str ComposeExportResult :=
  composeExport E.runtime inputs.sourceBundle (.arr inputs.attestations) ⟨inputs.privateKey, none⟩
    (composeOptions given) E.now

/-- The `export` command: its words, then its files, then the composition, and at
last the artifact. -/
def runExport (rest : List Str) (disk : δ) : Run δ :=
  withInputs ((readWords exportOption? (fun _ => none) rest).mapError fun name =>
      .err (fstring ["export: ", name, " requires a value"]) :: usageExport) disk fun words =>
    withInputs (exportInputs E words.1 words.2 disk) disk fun inputs =>
      withInputs ((composeFrom E words.1 inputs).mapError fun e =>
          [.err (fstring ["export: cannot compose — ", e])]) disk fun composed =>
        writeExport E (words.1 .out) inputs.attestations.length composed disk

end Export

section Commands

def isHelp (command : Str) : Bool :=
  command = utf16 "help" || command = utf16 "--help" || command = utf16 "-h"

def isVersion (command : Str) : Bool :=
  command = utf16 "version" || command = utf16 "--version" || command = utf16 "-v"

/-- The command line interface. Only the first word tells the commands apart, and
a run without one prints the usage and exits as malformed. -/
def runCli (argv : List Str) (disk : δ) : Run δ :=
  match argv with
  | [] => ⟨printUsage, .ok exitMalformed, disk⟩
  | command :: rest =>
      if isHelp command then ⟨printUsage, .ok exitVerified, disk⟩
      else if isVersion command then ⟨[.out "@ar.io/proof verify CLI"], .ok exitVerified, disk⟩
      else if command = utf16 "export" then runExport E rest disk
      else if command = utf16 "verify" then runVerify E rest disk
      else ⟨.err (fstring ["unknown command: ", command]) :: printUsage, .ok exitMalformed, disk⟩

/-- The exit code of the binary: what is thrown is printed and exits with 2. -/
def runMain (argv : List Str) (disk : δ) : List Line × Nat × δ :=
  let run := runCli E argv disk
  match run.code with
  | .ok code => (run.lines, code, run.disk)
  | .error e => (run.lines ++ [.err (fstring ["fatal: ", E.stack e])], exitMalformed, run.disk)

end Commands

section ExitCodes

/-- A run that ends with one of the four exit codes, if it ends. -/
def EndsCoded (run : Run δ) : Prop := ∀ code, run.code = .ok code → code ≤ 3

theorem endsCoded_ok {lines : List Line} {code : Nat} {disk : δ} (h : code ≤ 3) :
    EndsCoded (⟨lines, .ok code, disk⟩ : Run δ) := by
  rintro _ ⟨⟩
  exact h

/-- Every status has one of the four codes, a partial one 0 or 3 by its notes. -/
theorem mapStatusToExit_le (status : Status) (errors : List Str) :
    mapStatusToExit status errors ≤ 3 := by
  cases status with
  | partly =>
      unfold mapStatusToExit exitOf
      simp only
      split_ifs <;> decide
  | verified | failed | malformed => simp [mapStatusToExit, exitOf]

theorem reportEvidence_le (result : EvidenceBundleResult) (path : Str) (gateways : List Str) :
    (reportEvidence E result path gateways).2 ≤ 3 := by
  unfold reportEvidence
  split_ifs
  · exact Nat.le_succ 2
  · exact mapStatusToExit_le result.status result.errors

theorem reportAgentProof_le (result : AgentProofResult) (path : Str) (gateways : List Str) :
    (reportAgentProof E result path gateways).2 ≤ 3 := by
  unfold reportAgentProof
  split_ifs
  · exact Nat.le_succ 2
  · exact mapStatusToExit_le result.status result.errors

/-- A kernel that throws ends the run without a code; any other result is reported
with one. -/
theorem endsCoded_reported {ρ : Type} {before : List Line} {result : Except Str ρ}
    {report : ρ → List Line × Nat} {disk : δ} (h : ∀ value, (report value).2 ≤ 3) :
    EndsCoded (reported before result report disk) := by
  cases result with
  | error e =>
      rintro code ⟨⟩
  | ok value => exact endsCoded_ok (h value)

/-- A run that stops for want of its inputs exits as malformed, so it is enough to
look at the runs that go on. -/
theorem endsCoded_withInputs {α : Type} {input : Input α} {disk : δ} {run : α → Run δ}
    (h : ∀ value, EndsCoded (run value)) : EndsCoded (withInputs input disk run) := by
  cases input with
  | error lines => exact endsCoded_ok (Nat.le_succ 2)
  | ok value => exact h value

theorem endsCoded_runVerify (rest : List Str) (disk : δ) : EndsCoded (runVerify E rest disk) := by
  refine endsCoded_withInputs fun words => endsCoded_withInputs fun inputs => ?_
  by_cases hAgent : isAgentProofSpec (inputs.parsed.get "spec_version") = true
  · rw [verifyParsed, if_pos hAgent]
    exact endsCoded_reported fun result => reportAgentProof_le E result _ _
  · rw [verifyParsed, if_neg hAgent]
    exact endsCoded_reported fun result => reportEvidence_le E result _ _

theorem exportCode_le (status : Status) : exportCode status ≤ 3 := by
  unfold exportCode
  split_ifs <;> decide

theorem endsCoded_writeExport (outPath : Option Str) (count : Nat)
    (composed : ComposeExportResult) (disk : δ) :
    EndsCoded (writeExport E outPath count composed disk) := by
  unfold writeExport
  by_cases hPath : (outPath.getD []).isEmpty = true
  · simp only [hPath, if_true]
    exact endsCoded_ok (exportCode_le composed.status)
  · simp only [hPath, Bool.false_eq_true, if_false]
    split
    · exact endsCoded_ok (Nat.le_succ 2)
    · exact endsCoded_ok (exportCode_le composed.status)

theorem endsCoded_runCli (argv : List Str) (disk : δ) : EndsCoded (runCli E argv disk) := by
  cases argv with
  | nil => exact endsCoded_ok (Nat.le_succ 2)
  | cons command rest =>
      simp only [runCli]
      split_ifs
      · exact endsCoded_ok (Nat.zero_le 3)
      · exact endsCoded_ok (Nat.zero_le 3)
      · exact endsCoded_withInputs fun words => endsCoded_withInputs fun inputs =>
          endsCoded_withInputs fun composed => endsCoded_writeExport E _ _ composed disk
      · exact endsCoded_runVerify E rest disk
      · exact endsCoded_ok (Nat.le_succ 2)

/-- The binary exits with one of its four codes, whatever it is called with and
whatever the disk holds. -/
theorem runMain_code (argv : List Str) (disk : δ) : (runMain E argv disk).2.1 ≤ 3 := by
  have hCoded := endsCoded_runCli E argv disk
  cases hCode : (runCli E argv disk).code with
  | error e =>
      simp only [runMain, hCode]
      exact Nat.le_succ 2
  | ok code =>
      simp only [runMain, hCode]
      exact hCoded code hCode

end ExitCodes
end ArioProof.TypeScript
