import ArioProof.CrossKernel.Agreement
import ArioProof.Evidence.OnChain
import ArioProof.Reference.Bundle

/-! What the bytes of a gateway say about a checkpoint. Both kernels decode
bytes that are not the canonical ones before they compare, each in its own way,
so that they confirm more than UTF-8 JSON text. -/
namespace ArioProof.CrossKernel

open Foundation

variable (P : Python.Runtime) (T : TypeScript.Runtime)

/-- A parsed value has the canonical bytes of the envelope. -/
def Denotes (expected : Bytes) (parsed : Option Json) : Prop :=
  ∃ v, parsed = some v ∧ Python.canonicalJson P v = .ok expected

/-- UTF-8 JSON text, an initial byte order mark allowed, that denotes the
envelope. -/
def DenotesText (parse : Str → Option Json) (expected data : Bytes) : Prop :=
  ∃ text, utf8Text data = some text ∧ Denotes P expected (parse (codeUnits text))

/-- One answer, classified alike by both kernels and confirmed for what it
denotes alone. -/
structure ClassifiedRight (parse : Str → Option Json) (cp : Json) (expected data : Bytes) : Prop where
  same : classifyAnswer (Python.kernel P) (Python.expectedBytes P cp) (some data) =
    classifyAnswer (TypeScript.kernel T) (TypeScript.expectedBytes T cp) (some data)
  confirm : classifyAnswer (Python.kernel P) (Python.expectedBytes P cp) (some data) = .confirm ↔
    data = expected ∨ DenotesText P parse expected data
  mismatch : classifyAnswer (Python.kernel P) (Python.expectedBytes P cp) (some data) = .mismatch ↔
    ¬(data = expected ∨ DenotesText P parse expected data)

/-- The four ways to bytes that are no UTF-8 JSON text and are still read as the
envelope, all of them closed. -/
structure NotMisread (loads : List Nat → Option Json) (parse : Str → Option Json)
    (expected data : Bytes) : Prop where
  /-- The first bytes make `json.loads` read UTF-16 or UTF-32. -/
  encoding : isUtf8 (detectEncoding data) = false → ¬Denotes P expected ((decodeJson data).bind loads)
  /-- `json.loads` lets encoded surrogates through, in a member that a later one
  replaces. -/
  surrogates : isUtf8 (detectEncoding data) = true → utf8Text data = none →
    ¬Denotes P expected ((decodeUtf8Surrogates (dropByteOrderMark data)).bind loads)
  /-- `json.loads` takes literals that are not JSON, in such a member too. -/
  literals : isUtf8 (detectEncoding data) = true → ∀ text, utf8Text data = some text →
    parse (codeUnits text) = none → ¬Denotes P expected (loads text)
  /-- `TextDecoder` repairs the text, and U+FFFD stands where the envelope has it. -/
  replacement : utf8Text data = none →
    ¬Denotes P expected (parse (codeUnits (repairUtf8 (dropByteOrderMark data))))

variable {P T} {loads : List Nat → Option Json} {parse : Str → Option Json}

section Classification

variable {cp envelope : Json} {expected data : Bytes}

theorem expectedBytes_python (hEnvelope : cp.get? "envelope" = some envelope)
    (hCanonical : Python.canonicalJson P envelope = .ok expected) :
    Python.expectedBytes P cp = some expected := by
  simp only [Python.expectedBytes, Json.get, hEnvelope, Option.getD_some, hCanonical]

theorem expectedBytes_typeScript (hJcs : JcsAgree P T)
    (hEnvelope : cp.get? "envelope" = some envelope)
    (hCanonical : Python.canonicalJson P envelope = .ok expected) :
    TypeScript.expectedBytes T cp = some expected := by
  have hSame := (hJcs.canonical_ok_iff envelope expected).mp hCanonical
  simp only [TypeScript.expectedBytes, hEnvelope]
  cases hCase : TypeScript.jcs T (some envelope) with
  | error text =>
      rw [hCase] at hSame
      cases hSame
  | ok text =>
      rw [hCase] at hSame
      exact congrArg some (Except.ok.inj hSame)

theorem confirms_python_iff (hReads : ReadsJson P T loads parse) :
    Confirms (Python.kernel P) expected data ↔
      data = expected ∨ Denotes P expected ((decodeJson data).bind loads) := by
  refine or_congr_right ?_
  rw [← hReads.jsonLoads]
  simp only [Denotes, toOption_eq_some]
  refine exists_congr fun v => and_congr_right fun _ => ?_
  change (Python.canonicalJson P v).mapError Python.Exc.text = .ok expected ↔ _
  cases Python.canonicalJson P v <;> simp [Except.mapError]

theorem confirms_typeScript_iff (hReads : ReadsJson P T loads parse) (hJcs : JcsAgree P T) :
    Confirms (TypeScript.kernel T) expected data ↔
      data = expected ∨ Denotes P expected (parse (textDecode data)) := by
  refine or_congr_right ?_
  rw [← hReads.jsonParse]
  simp only [Denotes, toOption_eq_some, hJcs.canonical_ok_iff]
  rfl

/-- An answer is a confirmation or a mismatch. -/
theorem classifyAnswer_own {ε : Type} (K : Kernel ε) :
    (classifyAnswer K (some expected) (some data) = .confirm ↔ Confirms K expected data) ∧
      (classifyAnswer K (some expected) (some data) = .mismatch ↔ ¬Confirms K expected data) := by
  rcases classifyAnswer_some (K := K) expected data with ⟨hYes, h⟩ | ⟨hNo, h⟩
  · rw [h]
    exact ⟨iff_of_true rfl hYes, iff_of_false (by simp) fun hNo => hNo hYes⟩
  · rw [h]
    exact ⟨iff_of_false (by simp) hNo, iff_of_true rfl hNo⟩

end Classification

section Readings

variable {expected data : Bytes}

/-- What UTF-8 JSON text denotes is what both runtimes read in it. -/
theorem DenotesText.readings (hReads : ReadsJson P T loads parse)
    (h : DenotesText P parse expected data) :
    isUtf8 (detectEncoding data) = true ∧ Denotes P expected ((decodeJson data).bind loads) ∧
      Denotes P expected (parse (textDecode data)) := by
  obtain ⟨text, hText, v, hParse, hCanonical⟩ := h
  have hZero : 0 ∉ text := fun hMem => hReads.noZero _ v hParse (zero_mem_codeUnits hMem)
  refine ⟨isUtf8_of_utf8Text hText hZero, ⟨v, ?_, hCanonical⟩, v, ?_, hCanonical⟩
  · rw [decodeJson_of_utf8Text hText hZero, Option.bind_some]
    exact hReads.agree data text v hText hParse
  · rw [textDecode_of_utf8Text hText, hParse]

/-- Bytes that are not misread denote the envelope to neither kernel unless
they are JSON text of it. -/
theorem NotMisread.denotesText_iff (hReads : ReadsJson P T loads parse)
    (h : NotMisread P loads parse expected data) :
    (Denotes P expected ((decodeJson data).bind loads) ↔ DenotesText P parse expected data) ∧
      (Denotes P expected (parse (textDecode data)) ↔ DenotesText P parse expected data) := by
  refine ⟨⟨fun hLoads => ?_, fun hText => (hText.readings hReads).2.1⟩,
    ⟨fun hParse => ?_, fun hText => (hText.readings hReads).2.2⟩⟩
  · cases hUtf8 : isUtf8 (detectEncoding data) with
    | false => exact (h.encoding hUtf8 hLoads).elim
    | true =>
        rw [decodeJson_of_isUtf8 hUtf8] at hLoads
        cases hText : utf8Text data with
        | none => exact (h.surrogates hUtf8 hText hLoads).elim
        | some text =>
            rw [decodeUtf8Surrogates_of_decode hText, Option.bind_some] at hLoads
            cases hParse : parse (codeUnits text) with
            | none => exact (h.literals hUtf8 text hText hParse hLoads).elim
            | some v =>
                obtain ⟨w, hw, hCanonical⟩ := hLoads
                rw [hReads.agree data text v hText hParse, Option.some.injEq] at hw
                exact ⟨text, hText, v, hParse, hw ▸ hCanonical⟩
  · cases hText : utf8Text data with
    | none => exact (h.replacement hText hParse).elim
    | some text =>
        rw [textDecode_of_utf8Text hText] at hParse
        exact ⟨text, hText, hParse⟩

end Readings

/-- An answer is classified right exactly when it is the canonical bytes or is
not misread. -/
theorem classifiedRight_iff {cp envelope : Json} {expected : Bytes} (data : Bytes)
    (hReads : ReadsJson P T loads parse) (hJcs : JcsAgree P T)
    (hEnvelope : cp.get? "envelope" = some envelope)
    (hCanonical : Python.canonicalJson P envelope = .ok expected) :
    ClassifiedRight P T parse cp expected data ↔
      data = expected ∨ NotMisread P loads parse expected data := by
  obtain ⟨hConfirmP, hMismatchP⟩ := @classifyAnswer_own expected data _
    (Python.kernel P)
  obtain ⟨hConfirmT, hMismatchT⟩ := @classifyAnswer_own expected data _
    (TypeScript.kernel T)
  rw [confirms_python_iff hReads] at hConfirmP hMismatchP
  rw [confirms_typeScript_iff hReads hJcs] at hConfirmT hMismatchT
  constructor
  · rintro ⟨hSame, hConfirm, -⟩
    rw [expectedBytes_python hEnvelope hCanonical] at hSame hConfirm
    rw [expectedBytes_typeScript hJcs hEnvelope hCanonical] at hSame
    by_cases hData : data = expected
    · exact Or.inl hData
    right
    -- What either kernel reads as the envelope is confirmed, hence JSON text of it.
    have hLoads (h : Denotes P expected ((decodeJson data).bind loads)) :
        DenotesText P parse expected data :=
      (hConfirm.mp (hConfirmP.mpr (Or.inr h))).resolve_left hData
    have hParse (h : Denotes P expected (parse (textDecode data))) :
        DenotesText P parse expected data :=
      (hConfirm.mp (hSame.trans (hConfirmT.mpr (Or.inr h)))).resolve_left hData
    refine ⟨fun hUtf8 h => ?_, fun hUtf8 hText h => ?_, fun hUtf8 text hText hNone h => ?_,
      fun hText h => ?_⟩
    · have hDetected := ((hLoads h).readings hReads).1
      rw [hUtf8] at hDetected
      cases hDetected
    · rw [← decodeJson_of_isUtf8 hUtf8] at h
      obtain ⟨text, hSome, -⟩ := hLoads h
      rw [hText] at hSome
      cases hSome
    · have hRead : decodeJson data = some text := by
        rw [decodeJson_of_isUtf8 hUtf8]
        exact decodeUtf8Surrogates_of_decode hText
      obtain ⟨other, hOther, v, hv, -⟩ := hLoads (by rwa [hRead, Option.bind_some])
      rw [hText, Option.some.injEq] at hOther
      rw [← hOther, hNone] at hv
      cases hv
    · obtain ⟨text, hSome, -⟩ := hParse h
      rw [hText] at hSome
      cases hSome
  · intro h
    have hPython : (data = expected ∨ Denotes P expected ((decodeJson data).bind loads)) ↔
        data = expected ∨ DenotesText P parse expected data := by
      rcases h with hData | hRead
      · exact iff_of_true (Or.inl hData) (Or.inl hData)
      · exact or_congr_right (hRead.denotesText_iff hReads).1
    have hTypeScript : (data = expected ∨ Denotes P expected (parse (textDecode data))) ↔
        data = expected ∨ DenotesText P parse expected data := by
      rcases h with hData | hRead
      · exact iff_of_true (Or.inl hData) (Or.inl hData)
      · exact or_congr_right (hRead.denotesText_iff hReads).2
    rw [hPython] at hConfirmP hMismatchP
    rw [hTypeScript] at hConfirmT hMismatchT
    refine ⟨?_, ?_, ?_⟩
    · rw [expectedBytes_python hEnvelope hCanonical,
        expectedBytes_typeScript hJcs hEnvelope hCanonical]
      by_cases hDenotes : data = expected ∨ DenotesText P parse expected data
      · rw [hConfirmP.mpr hDenotes, hConfirmT.mpr hDenotes]
      · rw [hMismatchP.mpr hDenotes, hMismatchT.mpr hDenotes]
    · rw [expectedBytes_python hEnvelope hCanonical]
      exact hConfirmP
    · rw [expectedBytes_python hEnvelope hCanonical]
      exact hMismatchP

section Sample

open Reference

/-- The parser of the reference runtimes, on text without zeros. -/
def parseText (s : Str) : Option Json := if s.contains 0 then none else Reference.parse s

def loadsText (text : List Nat) : Option Json := parseText (codeUnits text)

def okOr (v : Option Json) : Except Str Json :=
  match v with
  | some v => .ok v
  | none => .error notJson

/-- The reference runtimes with the decoders of their languages. -/
def pythonText : Python.Runtime :=
  { python (signedWith []) with jsonLoads := fun data => okOr ((decodeJson data).bind loadsText) }

def typeScriptText : TypeScript.Runtime :=
  { typeScript (signedWith []) with jsonParse := fun data => okOr (parseText (textDecode data)) }

theorem readsJson_text : ReadsJson pythonText typeScriptText loadsText parseText where
  jsonLoads data := by
    change (okOr _).toOption = _
    cases (decodeJson data).bind loadsText <;> rfl
  jsonParse data := by
    change (okOr _).toOption = _
    cases parseText (textDecode data) <;> rfl
  agree _ _ _ _ hParse := hParse
  noZero s v hParse hZero := by
    unfold parseText at hParse
    rw [if_pos (by simpa using hZero)] at hParse
    cases hParse

def emptyCheckpoint : Json := .object [("envelope", .obj [])]

/-- The envelope behind a byte order mark is classified right: what is read of it
is the envelope in both kernels. -/
theorem classifiedRight_sample :
    ClassifiedRight pythonText typeScriptText parseText emptyCheckpoint [0x7B, 0x7D]
      [0xEF, 0xBB, 0xBF, 0x7B, 0x7D] :=
  (classifiedRight_iff [0xEF, 0xBB, 0xBF, 0x7B, 0x7D] readsJson_text (jcsAgree (S := signedWith []))
    (by rfl : emptyCheckpoint.get? "envelope" = some (.obj [])) (by decide +kernel)).mpr (Or.inr
      { encoding := fun hUtf8 => by cases hUtf8
        surrogates := fun _ hText => by cases hText
        literals := fun _ text hText hNone => by
          have hBraces : text = [0x7B, 0x7D] := Option.some.inj (hText.symm.trans (by decide))
          subst hBraces
          have hParses : (parseText (codeUnits [0x7B, 0x7D])).isSome = true := by decide +kernel
          rw [hNone] at hParses
          cases hParses
        replacement := fun hText => by cases hText })

/-- The same envelope in UTF-16, which only one kernel confirms. -/
theorem utf16_misread : ¬ClassifiedRight pythonText typeScriptText parseText emptyCheckpoint
    [0x7B, 0x7D] [0x7B, 0x00, 0x7D, 0x00] := by
  rintro ⟨hSame, -, -⟩
  have hPython : classifyAnswer (Python.kernel pythonText)
      (Python.expectedBytes pythonText emptyCheckpoint) (some [0x7B, 0x00, 0x7D, 0x00]) =
        .confirm := by decide +kernel
  have hTypeScript : classifyAnswer (TypeScript.kernel typeScriptText)
      (TypeScript.expectedBytes typeScriptText emptyCheckpoint) (some [0x7B, 0x00, 0x7D, 0x00]) =
        .mismatch := by decide +kernel
  rw [hPython, hTypeScript] at hSame
  cases hSame

end Sample
end ArioProof.CrossKernel
