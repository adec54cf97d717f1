import ArioProof.Data.Decoding
import ArioProof.Foundation.Outcome
import ArioProof.Python.Attestation
import ArioProof.Reference.Runtime
import ArioProof.TypeScript.Evidence

/-! What a comparison of the two kernels takes for granted about the libraries
they call. -/
namespace ArioProof.CrossKernel

open Foundation

section Canonical

/-- Both JCS libraries produce the same bytes or both fail. The one for
TypeScript stands behind a check for lone surrogates, which the one for Python
makes by itself. -/
def JcsAgree (P : Python.Runtime) (T : TypeScript.Runtime) : Prop :=
  ∀ v, (P.jcs v).toOption =
    ((do TypeScript.rejectLoneSurrogates v; T.canonicalize v : Except Str Str).map utf8).toOption

variable {P : Python.Runtime} {T : TypeScript.Runtime}

/-- Canonical bytes as both kernels have them: the TypeScript canonicalizer writes
the text whose bytes the Python one writes. -/
theorem JcsAgree.canonical (h : JcsAgree P T) (v : Json) :
    (Python.canonicalJson P v).toOption = ((TypeScript.jcs T (some v)).map utf8).toOption := by
  unfold Python.canonicalJson
  simp only [TypeScript.jcs]
  by_cases hDepth : exceedsDepth v maxCanonicalDepth = true
  · rw [if_pos hDepth, if_pos hDepth]
    rfl
  · rw [if_neg hDepth, if_neg hDepth, ← h v]
    cases P.jcs v <;> rfl

theorem JcsAgree.canonical_ok_iff (h : JcsAgree P T) (v : Json) (bytes : Bytes) :
    Python.canonicalJson P v = .ok bytes ↔
      (TypeScript.jcs T (some v)).map utf8 = .ok bytes := by
  rw [← toOption_eq_some, h.canonical v, toOption_eq_some]

end Canonical

section Strings

theorem str_of_isStr {v : Json} (h : v.isStr = true) : ∃ s, v = .str s := by
  cases v with
  | str s => exact ⟨s, rfl⟩
  | _ => cases h

end Strings

section Text

/-- How each runtime parses JSON bytes: with the parser of its language, after
its own decoding. The parsers agree on JSON text, which holds no zero. -/
structure ReadsJson (P : Python.Runtime) (T : TypeScript.Runtime)
    (loads : List Nat → Option Json) (parse : Str → Option Json) : Prop where
  jsonLoads : ∀ data, (P.jsonLoads data).toOption = (decodeJson data).bind loads
  jsonParse : ∀ data, (T.jsonParse data).toOption = parse (textDecode data)
  agree : ∀ data text v, utf8Text data = some text → parse (codeUnits text) = some v →
    loads text = some v
  noZero : ∀ s v, parse s = some v → 0 ∉ s

variable {P : Python.Runtime} {T : TypeScript.Runtime} {loads : List Nat → Option Json}
  {parse : Str → Option Json}

/-- On UTF-8 JSON text the two runtimes read one value. -/
theorem ReadsJson.same (h : ReadsJson P T loads parse) {data : Bytes} {text : List Nat} {v : Json}
    (hText : utf8Text data = some text) (hParse : parse (codeUnits text) = some v) :
    P.jsonLoads data = .ok v ∧ T.jsonParse data = .ok v := by
  have hZero : 0 ∉ text := fun hMem => h.noZero _ v hParse (zero_mem_codeUnits hMem)
  have hLoads := h.jsonLoads data
  have hParsed := h.jsonParse data
  rw [decodeJson_of_utf8Text hText hZero, Option.bind_some, h.agree data text v hText hParse]
    at hLoads
  rw [textDecode_of_utf8Text hText, hParse] at hParsed
  exact ⟨toOption_eq_some.mp hLoads, toOption_eq_some.mp hParsed⟩

end Text

section Reference

open Reference

variable {S : Signatures}

theorem not_surrogate {c : UInt16} (h : c.toNat < 0x80) :
    Case.isHighSurrogate c = false ∧ Case.isLowSurrogate c = false := by
  unfold Case.isHighSurrogate Case.isLowSurrogate
  constructor
  · rw [Bool.and_eq_false_iff, decide_eq_false_iff_not]
    exact Or.inl (by omega)
  · rw [Bool.and_eq_false_iff, decide_eq_false_iff_not]
    exact Or.inl (by omega)

theorem rejectString_of_isAscii {s : Str} (h : isAscii s = true) :
    TypeScript.rejectString s = .ok () := by
  have hLone : TypeScript.hasLoneSurrogate s = false := by
    rw [isAscii_iff] at h
    induction s with
    | nil => rfl
    | cons c rest ih =>
        have hc := not_surrogate (h c List.mem_cons_self)
        have hRest := ih fun d hd => h d (List.mem_cons_of_mem c hd)
        cases rest with
        | nil => simp [TypeScript.hasLoneSurrogate, hc]
        | cons d rest =>
            simp only [TypeScript.hasLoneSurrogate, hc, Bool.false_eq_true, if_false]
            exact hRest
  simp only [TypeScript.rejectString, hLone, Bool.false_eq_true, if_false]

mutual

/-- What the reference canonicalizer writes has no surrogate in it. -/
theorem rejectLoneSurrogates_of_isSome : ∀ v : Json, (canonicalText v).isSome = true →
    TypeScript.rejectLoneSurrogates v = .ok ()
  | .null, _ | .bool _, _ | .int _, _ | .float _, _ => rfl
  | .str s, h => rejectString_of_isAscii ((isSome_canonicalText_str s).symm.trans h)
  | .arr items, h => rejectItems_of_isSome items ((isSome_canonicalText_arr items).mp h)
  | .obj members, h => rejectMembers_of_isSome members ((isSome_canonicalText_obj members).mp h)

theorem rejectItems_of_isSome : ∀ items : List Json,
    (∀ v ∈ items, (canonicalText v).isSome = true) → TypeScript.rejectItems items = .ok ()
  | [], _ => rfl
  | v :: rest, h => by
      have hHead := rejectLoneSurrogates_of_isSome v (h v List.mem_cons_self)
      have hRest := rejectItems_of_isSome rest fun w hw => h w (List.mem_cons_of_mem v hw)
      simp only [TypeScript.rejectItems, hHead, hRest, bind, Except.bind]

theorem rejectMembers_of_isSome : ∀ members : List (Str × Json),
    (∀ entry ∈ members, isAscii entry.1 = true ∧ (canonicalText entry.2).isSome = true) →
    TypeScript.rejectMembers members = .ok ()
  | [], _ => rfl
  | (key, v) :: rest, h => by
      obtain ⟨hKey, hValue⟩ := h (key, v) List.mem_cons_self
      have hString := rejectString_of_isAscii hKey
      have hHead := rejectLoneSurrogates_of_isSome v hValue
      have hRest := rejectMembers_of_isSome rest fun entry he => h entry (List.mem_cons_of_mem _ he)
      simp only [TypeScript.rejectMembers, hString, hHead, hRest, bind, Except.bind]

end

theorem utf8Char_of_lt {c : UInt16} (h : c.toNat < 0x80) :
    utf8Char (loneCodePoint c) = [c.toUInt8] := by
  have hLone : loneCodePoint c = c.toNat := by simp [loneCodePoint, not_surrogate h]
  rw [hLone, utf8Char, if_pos h]
  simp

theorem utf8_of_isAscii {s : Str} (h : isAscii s = true) : utf8 s = s.map UInt16.toUInt8 := by
  rw [isAscii_iff] at h
  induction s with
  | nil => rfl
  | cons c rest ih =>
      have hHead := h c List.mem_cons_self
      have hRest := ih fun d hd => h d (List.mem_cons_of_mem c hd)
      cases rest with
      | nil => exact utf8Char_of_lt hHead
      | cons d rest =>
          rw [utf8, if_neg (by simp [not_surrogate hHead]), utf8Char_of_lt hHead, hRest]
          rfl

theorem jcsAgree : JcsAgree (python S) (typeScript S) := by
  intro v
  cases hText : canonicalText v with
  | none => cases hReject : TypeScript.rejectLoneSurrogates v <;>
      simp [python, typeScript, hText, bind, Except.bind, Except.map, Except.toOption]
  | some text =>
      have hReject := rejectLoneSurrogates_of_isSome v (by rw [hText]; rfl)
      simp [python, typeScript, hText, hReject, bind, Except.bind, Except.map, Except.toOption,
        utf8_of_isAscii (isAscii_canonicalText hText)]

end Reference
end ArioProof.CrossKernel
