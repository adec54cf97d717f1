import ArioProof.TypeScript.Cli

/-! Command lines of the two commands. An option may stand anywhere, and takes
the next word for its value even where that word is an option itself. -/
namespace ArioProof.TypeScript

open Foundation CommandLine

variable {δ φ : Type} [DecidableEq φ]

/-- Arguments with the same positional words, as far as they are looked at, and the
same last value for each option. -/
structure SameArguments (option? : Str → Option φ) (positional : Nat)
    (first second : List (Argument Str)) : Prop where
  lastValue : ∀ own, lastValue option? first own = lastValue option? second own
  positionals : (positionals first).take positional = (positionals second).take positional

theorem SameArguments.getElem? {option? : Str → Option φ} {count : Nat}
    {first second : List (Argument Str)} (h : SameArguments option? count first second) {i : Nat}
    (hi : i < count) : (CommandLine.positionals first)[i]? = (CommandLine.positionals second)[i]? := by
  rw [← List.getElem?_take_of_lt hi, h.positionals, List.getElem?_take_of_lt hi]

/-- Two lists of words that are read to the end with the same arguments. -/
theorem readWords_congr {option? : Str → Option φ} {count : Nat} {words words' : List Str}
    {first second : List (Argument Str)} (h : ReadAs option? words first none)
    (h' : ReadAs option? words' second none) (hSame : SameArguments option? count first second) :
    ∃ given, readWords option? (fun _ => none) words = .ok (given, positionals first) ∧
      readWords option? (fun _ => none) words' = .ok (given, positionals second) := by
  refine ⟨fun own => (lastValue option? first own).or none, ?_, ?_⟩
  · rw [h.words_eq, Option.toList_none, List.append_nil, readWords_wordsOf h.wellFormed]
  · simp only [hSame.lastValue]
    rw [h'.words_eq, Option.toList_none, List.append_nil, readWords_wordsOf h'.wellFormed]

theorem runCli_export (E : Environment δ) (rest : List Str) (disk : δ) :
    runCli E (utf16 "export" :: rest) disk = runExport E rest disk := by
  rw [runCli, if_neg (by decide), if_neg (by decide), if_pos rfl]

theorem runCli_verify (E : Environment δ) (rest : List Str) (disk : δ) :
    runCli E (utf16 "verify" :: rest) disk = runVerify E rest disk := by
  rw [runCli, if_neg (by decide), if_neg (by decide), if_neg (by decide), if_pos rfl]

/-- `export` looks at its first positional word and at the options. -/
theorem runExport_congr (E : Environment δ) {words words' : List Str}
    {first second : List (Argument Str)} (h : ReadAs exportOption? words first none)
    (h' : ReadAs exportOption? words' second none)
    (hSame : SameArguments exportOption? 1 first second) (disk : δ) :
    runExport E words disk = runExport E words' disk := by
  obtain ⟨given, hWords, hWords'⟩ := readWords_congr h h' hSame
  have hInputs : exportInputs E given (positionals first) disk =
      exportInputs E given (positionals second) disk := by
    rw [exportInputs, exportInputs, hSame.getElem? Nat.one_pos]
  rw [runExport, runExport, hWords, hWords']
  simp only [Except.mapError, withInputs, hInputs]

/-- `verify` looks at its first two positional words and at `--logs`. -/
theorem runVerify_congr (E : Environment δ) {words words' : List Str}
    {first second : List (Argument Str)} (h : ReadAs isLogsOption words first none)
    (h' : ReadAs isLogsOption words' second none)
    (hSame : SameArguments isLogsOption 2 first second) (disk : δ) :
    runVerify E words disk = runVerify E words' disk := by
  obtain ⟨given, hWords, hWords'⟩ := readWords_congr h h' hSame
  have hInputs : verifyInputs E given (positionals first) disk =
      verifyInputs E given (positionals second) disk := by
    rw [verifyInputs, verifyInputs, hSame.getElem? Nat.two_pos, hSame.getElem? Nat.one_lt_two]
  rw [runVerify, runVerify, hWords, hWords']
  simp only [Except.mapError, withInputs, hInputs]

/-- What stops before a file is read. -/
def usageError (message : Str) (usage : List Line) (disk : δ) : Run δ :=
  ⟨.err message :: usage, .ok exitMalformed, disk⟩

/-- What a command makes of its words. They have one reading, complete or with an
option at its end that no value follows, which stops the run. Of complete readings
only the last value of each option counts, and the positional words in front. -/
structure ReadsCommandLine (run : List Str → Run δ) (option? : Str → Option φ) (positional : Nat)
    (stopped : Str → Run δ) : Prop where
  reading : ∀ words, ∃ arguments unfinished, ReadAs option? words arguments unfinished ∧
    ∀ others left, ReadAs option? words others left → others = arguments ∧ left = unfinished
  unfinished : ∀ words arguments name, ReadAs option? words arguments (some name) →
    run words = stopped name
  alike : ∀ words words' first second, ReadAs option? words first none →
    ReadAs option? words' second none → SameArguments option? positional first second →
      run words = run words'

/-- Every command line of `export` and `verify` has exactly one reading, and what it
does depends on little of it. -/
theorem command_lines (E : Environment δ) (disk : δ) :
    ReadsCommandLine (fun words => runCli E (utf16 "export" :: words) disk) exportOption? 1
      (fun name => usageError (fstring ["export: ", name, " requires a value"]) usageExport disk) ∧
    ReadsCommandLine (fun words => runCli E (utf16 "verify" :: words) disk) isLogsOption 2
      (fun _ => usageError "verify: --logs requires a file path" printUsage disk) := by
  constructor
  · refine ⟨fun words => ?_, fun words arguments name h => ?_,
      fun words words' first second h h' hSame => ?_⟩
    · obtain ⟨arguments, unfinished, h⟩ := ReadAs.exists_readAs exportOption? words
      exact ⟨arguments, unfinished, h, fun _ _ h' => h.unique h'⟩
    · rw [h.words_eq, runCli_export, runExport, Option.toList_some,
        readWords_unfinished h.wellFormed (h.isOption name rfl)]
      rfl
    · rw [runCli_export, runCli_export]
      exact runExport_congr E h h' hSame disk
  · refine ⟨fun words => ?_, fun words arguments name h => ?_,
      fun words words' first second h h' hSame => ?_⟩
    · obtain ⟨arguments, unfinished, h⟩ := ReadAs.exists_readAs isLogsOption words
      exact ⟨arguments, unfinished, h, fun _ _ h' => h.unique h'⟩
    · rw [h.words_eq, runCli_verify, runVerify, Option.toList_some,
        readWords_unfinished h.wellFormed (h.isOption name rfl)]
      rfl
    · rw [runCli_verify, runCli_verify]
      exact runVerify_congr E h h' hSame disk

end ArioProof.TypeScript
