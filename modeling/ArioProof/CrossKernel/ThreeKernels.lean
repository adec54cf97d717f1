import ArioProof.Reference.GoRuntime
import ArioProof.TypeScript.Renders

/-! One envelope in front of three kernels. What tells their verdicts apart is
the nesting bound, which the Go kernel does not have, the string literals of
the text, which it alone looks at, and two things that only Python lets pass. -/
namespace ArioProof.CrossKernel

open Foundation
open TypeScript (strings WellFormed)

variable {G : Go.Runtime} {T : TypeScript.Runtime} {P : Python.Runtime}

section Versions

theorem matchesSup_eq (s : Str) (major : String) : Go.matchesSup s major = matchesMajor s major := by
  have hDigits : Go.isDigits = fun minor => minor.all fun c => 0x30 ≤ c.toNat && c.toNat ≤ 0x39 := by
    funext minor
    unfold Go.isDigits
    congr 1
    funext c
    rw [Bool.eq_iff_iff]
    simp
  unfold Go.matchesSup matchesMajor Go.cutPrefix
  rw [hDigits]
  by_cases hSame : s = utf16 major
  · simp [hSame]
  · rw [decide_eq_false hSame, Bool.false_or, if_neg hSame]
    cases (utf16 (major ++ ".")).isPrefixOf s <;> rfl

/-- The Go kernel knows the versions that the TypeScript kernel knows. -/
theorem isSupportedSpec_eq (s : Str) :
    Go.isSupportedSpec s = TypeScript.specVersionSupported (.str s) := by
  have hMatches : Go.matchesSup s = matchesMajor s := funext (matchesSup_eq s)
  unfold Go.isSupportedSpec TypeScript.specVersionSupported
  rw [hMatches]
  cases s <;> rfl

theorem isPrefixOf_of_matchesMajor {s : Str} {major : String} (h : matchesMajor s major = true) :
    (utf16 major).isPrefixOf s = true := by
  unfold matchesMajor at h
  by_cases hSame : s = utf16 major
  · rw [hSame]
    exact List.isPrefixOf_iff_prefix.mpr List.prefix_rfl
  · rw [if_neg hSame] at h
    cases hMinor : (utf16 (major ++ ".")).isPrefixOf s with
    | false => simp [hMinor] at h
    | true =>
        rw [List.isPrefixOf_iff_prefix] at hMinor ⊢
        have hSplit : utf16 (major ++ ".") = utf16 major ++ utf16 "." := by
          simp [utf16_eq]
        exact (hSplit ▸ List.prefix_append _ _).trans hMinor

/-- No version has two majors of which neither begins the other. -/
theorem matchesMajor_eq_false {s : Str} {major other : String} (h : matchesMajor s major = true)
    (hLength : (utf16 major).length ≤ (utf16 other).length)
    (hApart : (utf16 major).isPrefixOf (utf16 other) = false) : matchesMajor s other = false := by
  by_contra hOther
  rw [Bool.not_eq_false] at hOther
  have hFirst := List.isPrefixOf_iff_prefix.mp (isPrefixOf_of_matchesMajor h)
  have hSecond := List.isPrefixOf_iff_prefix.mp (isPrefixOf_of_matchesMajor hOther)
  have hBoth := List.prefix_of_prefix_length_le hFirst hSecond hLength
  rw [← List.isPrefixOf_iff_prefix, hApart] at hBoth
  cases hBoth

/-- The versions that TypeScript knows are not the legacy one. -/
theorem not_legacy_of_supported {s : Str} (h : TypeScript.specVersionSupported (.str s) = true) :
    matchesMajor s "ario.mlflow/v1" = false := by
  simp only [TypeScript.specVersionSupported, TypeScript.acceptedSpecMajors, List.any_cons,
    List.any_nil, Bool.or_false, Bool.and_eq_true, Bool.or_eq_true] at h
  rcases h.2 with hAgent | hEvents
  · exact matchesMajor_eq_false hAgent (by decide) (by decide)
  · exact matchesMajor_eq_false hEvents (by decide) (by decide)

/-- Up to the legacy version, Python knows the same ones. -/
theorem specVersionSupported_python {s : Str} (h : matchesMajor s "ario.mlflow/v1" = false) :
    Python.specVersionSupported (.str s) = TypeScript.specVersionSupported (.str s) := by
  have hEmpty : matchesMajor [] "ario.agent/v1" = false ∧ matchesMajor [] "ario.events/v1" = false := by
    decide
  simp only [Python.specVersionSupported, Python.acceptedSpecVersions,
    TypeScript.specVersionSupported, TypeScript.acceptedSpecMajors, List.any_cons, List.any_nil, h,
    Bool.false_or, Bool.or_false]
  cases s with
  | nil => simp [hEmpty]
  | cons c rest => simp

end Versions

section Scope

/-- An inline payload is part of the signed scope. -/
theorem get?_payload_scope (env : Json) : (Go.scopeMap env).get? "payload" = env.get? "payload" := by
  rw [Json.get?_eq_member?, Go.scopeMap, Json.member?_restrict, if_pos (by decide),
    Json.get?_eq_member?]

theorem mem_strings_of_get? {v w : Json} {key : String} (h : v.get? key = some w) {s : Str}
    (hs : s ∈ strings w) : s ∈ strings v := by
  obtain ⟨members, rfl, hm⟩ := Json.mem_of_get? h
  exact TypeScript.mem_stringsMembers.mpr ⟨_, hm, Or.inr hs⟩

theorem envelopeForSig_eq_scopeMap (env : Json) : TypeScript.envelopeForSig env = Go.scopeMap env := by
  cases env <;> rfl

theorem mem_strings_restrict {v : Json} {keep : Str → Bool} {s : Str}
    (h : s ∈ strings (v.restrict keep)) : s ∈ strings v := by
  cases v with
  | obj members =>
      obtain ⟨entry, hEntry, hOwn⟩ := TypeScript.mem_stringsMembers.mp h
      exact TypeScript.mem_stringsMembers.mpr ⟨entry, List.mem_of_mem_filter hEntry, hOwn⟩
  | _ => exact h

end Scope

section Values

variable {env : Json} {supplied : Option Bytes}

/-- The TypeScript kernel accepts what the Go kernel accepts, within the bound
and on Unicode text. -/
theorem typeScript_iff_go (hJcs : GoJcsAgrees G T) (hHash : G.crypto.sha256 = T.crypto.sha256)
    (hVerify : VerifiersAgree G.crypto T.crypto env) :
    (typeScriptRules T).Accepts env supplied ↔ (goRules G).Accepts env supplied ∧
      (Go.scopeMap env).depth ≤ maxCanonicalDepth ∧
        ∀ s ∈ strings (Go.scopeMap env), WellFormed s := by
  have hDigest : (goRules G).digest = (typeScriptRules T).digest := by
    funext data
    simp only [goRules, typeScriptRules, Go.sha256Hex, TypeScript.sha256Hex, Crypto.sha256Hex, hHash]
  have canonical {v : Json} {bytes : Bytes} : (typeScriptRules T).canonical v = some bytes ↔
      v.depth ≤ maxCanonicalDepth ∧ (∀ s ∈ strings v, WellFormed s) ∧
        (goRules G).canonical v = some bytes := by
    rw [canonical_typeScript]
    simp only [TypeScript.jcs_eq_ok_iff]
    constructor
    · rintro ⟨text, ⟨hDepth, hStrings, hText⟩, rfl⟩
      refine ⟨hDepth, hStrings, ?_⟩
      change (Go.canonicalJSON G v).toOption = _
      rw [hJcs v hDepth hStrings, hText]
      rfl
    · rintro ⟨hDepth, hStrings, hBytes⟩
      change (Go.canonicalJSON G v).toOption = _ at hBytes
      rw [hJcs v hDepth hStrings, toOption_eq_some] at hBytes
      cases hText : T.canonicalize v with
      | error text => rw [hText] at hBytes; cases hBytes
      | ok text =>
          rw [hText] at hBytes
          cases hBytes
          exact ⟨text, ⟨hDepth, hStrings, rfl⟩, rfl⟩
  constructor
  · intro h
    obtain ⟨s, k, hSigned⟩ := h.signed
    obtain ⟨-, -, message, -, -, -, -, hMessage, -⟩ := hSigned.holds
    have hScope := canonical.mp hMessage
    change (TypeScript.envelopeForSig env).depth ≤ _ ∧ _ at hScope
    rw [envelopeForSig_eq_scopeMap] at hScope
    refine ⟨h.imp hDigest ?_ ?_ ?_ ?_ ?_, hScope.1, hScope.2.1⟩
    · intro version _ hKnown
      exact (isSupportedSpec_eq version).trans hKnown
    · exact fun payload bytes _ hCanonical => (canonical.mp hCanonical).2.2
    · intro message hMessage
      have hGo := (canonical.mp hMessage).2.2
      rwa [show (typeScriptRules T).scope env = (goRules G).scope env from
        envelopeForSig_eq_scopeMap env] at hGo
    · exact fun _ _ _ hDecode => hDecode
    · intro s k signature key message hs hk hSig hKey hHolds
      exact (hVerify s k signature key message hs hk (Hex.fromhex_of_strictHex hSig)
        (Hex.fromhex_of_strictHex hKey)).trans hHolds
  · rintro ⟨h, hDepth, hStrings⟩
    refine h.imp hDigest.symm ?_ ?_ ?_ ?_ ?_
    · intro version _ hKnown
      exact (isSupportedSpec_eq version).symm.trans hKnown
    · intro payload bytes hPayload hCanonical
      rw [← get?_payload_scope] at hPayload
      exact canonical.mpr ⟨(Json.depth_lt_of_get? hPayload).le.trans hDepth,
        fun s hs => hStrings s (mem_strings_of_get? hPayload hs), hCanonical⟩
    · intro message hMessage
      rw [show (typeScriptRules T).scope env = (goRules G).scope env from
        envelopeForSig_eq_scopeMap env]
      exact canonical.mpr ⟨hDepth, hStrings, hMessage⟩
    · exact fun _ _ _ hDecode => hDecode
    · intro s k signature key message hs hk hSig hKey hHolds
      exact (hVerify s k signature key message hs hk (Hex.fromhex_of_strictHex hSig)
        (Hex.fromhex_of_strictHex hKey)).symm.trans hHolds

/-- The value under a key is a string of hexadecimal digits in pairs. -/
def StrictHex (env : Json) (key : String) : Prop :=
  ∃ s bytes, env.get key = .str s ∧ Hex.strictHex s = some bytes

/-- The version of an envelope is no legacy one. -/
def NotLegacy (env : Json) : Prop :=
  ∃ s, env.get "spec_version" = .str s ∧ matchesMajor s "ario.mlflow/v1" = false

/-- Python lets legacy versions pass, and white space between the bytes of hex
text; the TypeScript kernel accepts the rest of what it accepts. -/
theorem typeScript_iff_python (hJcs : JcsAgree P T) (hHash : T.crypto.sha256 = P.crypto.sha256)
    (hVerify : VerifiersAgree T.crypto P.crypto env) :
    (typeScriptRules T).Accepts env supplied ↔ (pythonRules P).Accepts env supplied ∧
      NotLegacy env ∧ StrictHex env "signature" ∧ StrictHex env "public_key" := by
  have hDigest : (pythonRules P).digest = (typeScriptRules T).digest := by
    funext data
    simp only [pythonRules, typeScriptRules, Python.sha256Hex, TypeScript.sha256Hex,
      Crypto.sha256Hex, hHash]
  have canonical {v : Json} {bytes : Bytes} :
      (pythonRules P).canonical v = some bytes ↔ (typeScriptRules T).canonical v = some bytes := by
    change (Python.canonicalJson P v).toOption = _ ↔ _
    rw [hJcs.canonical v]
    rfl
  have scope (hLegacy : NotLegacy env) :
      (pythonRules P).scope env = (typeScriptRules T).scope env := by
    obtain ⟨s, hs, hPlain⟩ := hLegacy
    exact envelopeForSignature_eq (by rw [Python.stripsAnnotations, hs]; exact hPlain)
  have hMajors : TypeScript.acceptedSpecMajors = ["ario.agent/v1", "ario.events/v1"] := rfl
  constructor
  · intro h
    obtain ⟨version, hGet, hKnown⟩ := h.version
    obtain ⟨s, k, hSigned⟩ := h.signed
    obtain ⟨signature, key, message, hSig, hKey, -⟩ := hSigned.holds
    have hLegacy : NotLegacy env := ⟨version, hGet, not_legacy_of_supported hKnown⟩
    refine ⟨h.imp hDigest ?_ ?_ ?_ ?_ ?_, hLegacy, ⟨s, signature, hSigned.signature, hSig⟩, k, key,
      hSigned.publicKey, hKey⟩
    · intro version hGet hKnown
      exact (specVersionSupported_python (not_legacy_of_supported hKnown)).trans hKnown
    · exact fun payload bytes _ hCanonical => canonical.mpr hCanonical
    · intro message hMessage
      rw [scope hLegacy]
      exact canonical.mpr hMessage
    · exact fun _ _ _ hDecode => Hex.fromhex_of_strictHex hDecode
    · intro s k signature key message hs hk hSig hKey hHolds
      exact (hVerify s k signature key message hs hk (Hex.fromhex_of_strictHex hSig)
        (Hex.fromhex_of_strictHex hKey)).symm.trans hHolds
  · rintro ⟨h, hLegacy, ⟨s, signature, hs, hSig⟩, k, key, hk, hKey⟩
    refine h.imp hDigest.symm ?_ ?_ ?_ ?_ ?_
    · intro version hGet hKnown
      obtain ⟨own, hOwn, hPlain⟩ := hLegacy
      rw [hOwn, Json.str.injEq] at hGet
      subst hGet
      exact (specVersionSupported_python hPlain).symm.trans hKnown
    · exact fun payload bytes _ hCanonical => canonical.mp hCanonical
    · intro message hMessage
      rw [scope hLegacy] at hMessage
      exact canonical.mp hMessage
    · intro text hText bytes hDecode
      have strict {own : Str} {decoded : Bytes} (hOwn : Hex.strictHex own = some decoded)
          (hSame : Hex.fromhex own = some bytes) : Hex.strictHex own = some bytes := by
        rw [Hex.fromhex_of_strictHex hOwn] at hSame
        rw [hOwn, hSame]
      rcases hText with hText | hText
      · rw [hs, Json.str.injEq] at hText
        subst hText
        exact strict hSig hDecode
      · rw [hk, Json.str.injEq] at hText
        subst hText
        exact strict hKey hDecode
    · intro s k signature key message hs hk hSig hKey hHolds
      exact (hVerify s k signature key message hs hk hSig hKey).trans hHolds

/-- Values with one normal form are accepted alike by the Go kernel. -/
theorem goAccepts_congr (hNormal : GoJcsNormal G) {other : Json} (hNorm : env.norm = other.norm)
    (h : (goRules G).Accepts env supplied) : (goRules G).Accepts other supplied := by
  apply h.congr hNorm
  · intro v w bytes hSame hBytes
    exact (hNormal v w hSame).symm.trans hBytes
  · change (Go.scopeMap env).norm = (Go.scopeMap other).norm
    rw [Go.scopeMap, Json.norm_restrict, hNorm, ← Json.norm_restrict, Go.scopeMap]

end Values

section Texts

/-- The Go kernel accepts a text with the payload bytes that were supplied for it,
if any were. -/
def GoAccepts (G : Go.Runtime) (raw : Bytes) (supplied : Option Bytes) : Prop :=
  ∃ parsed, Go.verifyEnvelope G raw supplied = .ok parsed

variable {d : Syntax.Document} {env : Json} {supplied : Option Bytes}

/-- The Go kernel checks the literals of a text, and then the value. -/
theorem goAccepts_iff (hNormal : GoJcsNormal G) (hParsed : ParsedAlike G T P d env) :
    GoAccepts G d.bytes supplied ↔
      (∀ s ∈ d.literals, WellFormed s) ∧ (goRules G).Accepts env supplied := by
  have hScan := Go.rejectMalformedText_document d
  unfold GoAccepts
  constructor
  · rintro ⟨parsed, hVerified⟩
    have hLiterals : ∀ s ∈ d.literals, WellFormed s := by
      obtain ⟨_, hPassed, -⟩ := bind_eq_ok.mp hVerified
      exact hScan.mp (mapError_eq_ok.mp hPassed)
    obtain ⟨members, hMembers, hNorm⟩ := hParsed.go hLiterals
    obtain ⟨-, -, hAccepts⟩ := (goVerify_eq_ok_iff hMembers).mp hVerified
    exact ⟨hLiterals, goAccepts_congr hNormal hNorm hAccepts⟩
  · rintro ⟨hLiterals, hAccepts⟩
    obtain ⟨members, hMembers, hNorm⟩ := hParsed.go hLiterals
    exact ⟨.obj members, (goVerify_eq_ok_iff hMembers).mpr
      ⟨hScan.mpr hLiterals, rfl, goAccepts_congr hNormal hNorm.symm hAccepts⟩⟩

/-- On one JSON text the verdicts of the kernels part in four ways only: a
string that is no Unicode text stops Go, wherever it stands; nesting stops
TypeScript and Python, but not Go; and Python lets a legacy version pass, and
white space in hex. -/
theorem kernels_on_text (hGo : GoJcsAgrees G T) (hNormal : GoJcsNormal G) (hJcs : JcsAgree P T)
    (hHash : G.crypto.sha256 = T.crypto.sha256) (hHash' : T.crypto.sha256 = P.crypto.sha256)
    (hVerify : VerifiersAgree G.crypto T.crypto env)
    (hVerify' : VerifiersAgree T.crypto P.crypto env) (hParsed : ParsedAlike G T P d env)
    (supplied : Option Bytes) (expected : Option Str) :
    ((TypeScript.verifyEnvelope T (some env) supplied expected).ok = true →
      (GoAccepts G d.bytes supplied ↔ ∀ s ∈ d.literals, ∃ text : String, utf16 text = s)) ∧
    (GoAccepts G d.bytes supplied →
      ((TypeScript.verifyEnvelope T (some env) supplied expected).ok = true ↔
        (TypeScript.envelopeForSig env).depth ≤ maxCanonicalDepth)) ∧
    ((TypeScript.verifyEnvelope T (some env) supplied expected).ok = true ↔
      (Python.verifyEnvelope P env supplied expected false).ok = true ∧ NotLegacy env ∧
        StrictHex env "signature" ∧ StrictHex env "public_key") := by
  rw [goAccepts_iff hNormal hParsed, verifyEnvelope_ok_iff, verify_envelope_ok_iff]
  have hBoth : (typeScriptRules T).Accepts env supplied ↔ _ := typeScript_iff_go hGo hHash hVerify
  simp only [← TypeScript.wellFormed_iff_utf16, envelopeForSig_eq_scopeMap]
  refine ⟨fun h => ?_, fun h => ?_, typeScript_iff_python hJcs hHash' hVerify'⟩
  · exact ⟨fun hAccepts => hAccepts.1, fun hLiterals => ⟨hLiterals, (hBoth.mp h).1⟩⟩
  · obtain ⟨hLiterals, hAccepts⟩ := h
    have hStrings : ∀ s ∈ strings (Go.scopeMap env), WellFormed s := fun s hs =>
      hLiterals s (hParsed.literals s (mem_strings_restrict hs))
    exact ⟨fun h => (hBoth.mp h).2.1, fun hDepth => hBoth.mpr ⟨hAccepts, hDepth, hStrings⟩⟩

end Texts

section Sample

open Reference

theorem kernels_on_text_sample : ∃ (d : Syntax.Document) (env : Json),
    (TypeScript.verifyEnvelope (typeScript (signedWith [Python.sampleProofSigned])) (some env) none
      none).ok = true ∧
    GoAccepts (go (signedWith [Python.sampleProofSigned])) d.bytes none := by
  obtain ⟨text, hText⟩ : ∃ text, canonicalText Python.sampleProofEnvelope = some text :=
    Option.isSome_iff_exists.mp (by decide +kernel)
  obtain ⟨d, hBytes, hLiterals⟩ := exists_document hText
  have hVerified : (TypeScript.verifyEnvelope (typeScript (signedWith [Python.sampleProofSigned]))
      (some (order Python.sampleProofEnvelope)) none none).ok = true := by
    decide +kernel
  have hParsed := parsedAlike (S := signedWith [Python.sampleProofSigned]) rfl hText hBytes hLiterals
  refine ⟨d, _, hVerified, ((kernels_on_text goJcsAgrees goJcsNormal jcsAgree rfl rfl
    (fun _ _ _ _ _ _ _ _ _ => rfl) (fun _ _ _ _ _ _ _ _ _ => rfl) hParsed none none).1
      hVerified).mpr ?_⟩
  intro s hs
  rw [← TypeScript.wellFormed_iff_utf16]
  exact wellFormed_of_canonicalText hText (hLiterals ▸ hs)

end Sample
end ArioProof.CrossKernel
