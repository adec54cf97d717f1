import ArioProof.CrossKernel.Envelope
import ArioProof.Data.Acceptance
import ArioProof.Go.MalformedText

/-! The envelope verifiers of the three kernels against what it means to accept
an envelope. Each of them follows rules of its own. -/
namespace ArioProof.CrossKernel

open Foundation

section Go

variable {G : Go.Runtime}

/-- The rules of the Go kernel, under its own canonical form, its versions and its
signed scope. -/
def goRules (G : Go.Runtime) : EnvelopeRules where
  canonical v := (Go.canonicalJSON G v).toOption
  digest := Go.sha256Hex G
  supported := Go.isSupportedSpec
  decode := Hex.strictHex
  scope := Go.scopeMap
  verify := G.crypto.ed25519Verify

theorem checkInline_eq_ok_iff {env : Json} {want : Str} : Go.checkInline G env want = .ok () ↔
    ∀ payload, env.get? "payload" = some payload →
      ∃ canonical, (goRules G).canonical payload = some canonical ∧
        (goRules G).digest canonical = want := by
  unfold Go.checkInline
  cases env.get? "payload" with
  | none => simp
  | some payload =>
      simp only [bind_eq_ok, mapError_eq_ok, Option.some.injEq, forall_eq', goRules,
        toOption_eq_some]
      refine exists_congr fun canonical => and_congr_right fun _ => ?_
      simp

theorem checkExternal_eq_ok_iff {supplied : Option Bytes} {want : Str} :
    Go.checkExternal G supplied want = .ok () ↔
      ∀ bytes, supplied = some bytes → (goRules G).digest bytes = want := by
  unfold Go.checkExternal
  cases supplied with
  | none => simp
  | some bytes =>
      simp only [Option.some.injEq, forall_eq', goRules]
      simp

theorem goPayload_eq_ok_iff {env : Json} {supplied : Option Bytes} :
    Go.checkPayload G env supplied = .ok () ↔ ∃ h, env.get "payload_hash" = .str h ∧
      (∀ payload, env.get? "payload" = some payload →
        ∃ canonical, (goRules G).canonical payload = some canonical ∧
          (goRules G).digest canonical = h) ∧
      ∀ bytes, supplied = some bytes → (goRules G).digest bytes = h := by
  unfold Go.checkPayload
  cases env.get "payload_hash" with
  | str want =>
      simp only [bind_eq_ok, Json.str.injEq, exists_eq_left', ← checkInline_eq_ok_iff,
        ← checkExternal_eq_ok_iff]
      constructor
      · rintro ⟨_, hInline, hExternal⟩
        exact ⟨hInline, hExternal⟩
      · rintro ⟨hInline, hExternal⟩
        exact ⟨(), hInline, hExternal⟩
  | _ => simp

/-- The decoder of the Go standard library takes hex of either case, and nothing
else. -/
theorem decodeString_eq_ok {s : Str} {bytes : Bytes} :
    Go.decodeString G s = .ok bytes ↔ Hex.strictHex s = some bytes := by
  unfold Go.decodeString
  cases Hex.strictHex s <;> simp

/-- The empty string decodes to nothing, which is too short. -/
theorem goSignature_eq_ok_iff {env : Json} :
    Go.checkSignature G env = .ok () ↔ ∃ s k, (goRules G).Signed env s k := by
  have decoded {v : Json} {bytes : Bytes} (hDecode : Hex.strictHex (v.str?.getD []) = some bytes)
      (hNe : bytes ≠ []) : v = .str (v.str?.getD []) := by
    cases v with
    | str s => rfl
    | _ => cases hDecode; exact (hNe rfl).elim
  unfold Go.checkSignature
  simp only [bind_eq_ok, mapError_eq_ok, decodeString_eq_ok, Go.require_eq_ok, Go.ed25519Verify]
  constructor
  · rintro ⟨_, -, sig, hSig, pub, hPub, _, hPubLength, scope, hScope, hVerify⟩
    simp only [Bool.and_eq_true, decide_eq_true_eq] at hPubLength hVerify
    refine ⟨_, _, decoded hSig ?_, decoded hPub ?_, sig, pub, scope, hSig, hPub, hVerify.1,
      hPubLength, toOption_eq_some.mpr hScope, hVerify.2⟩
    · rintro rfl
      simp at hVerify
    · rintro rfl
      simp at hPubLength
  · rintro ⟨s, k, hs, hk, sig, pub, scope, hSig, hPub, hSigLength, hPubLength, hScope, hVerify⟩
    have nonempty {text : Str} {bytes : Bytes} (hDecode : Hex.strictHex text = some bytes)
        (hNe : bytes ≠ []) : text.isEmpty = false := by
      cases text with
      | nil => cases hDecode; exact (hNe rfl).elim
      | cons c rest => rfl
    have hSigNe : sig ≠ [] := by
      rintro rfl
      simp at hSigLength
    have hPubNe : pub ≠ [] := by
      rintro rfl
      simp at hPubLength
    rw [hs, hk]
    refine ⟨(), ?_, sig, hSig, pub, hPub, (), by simpa using hPubLength, scope,
      toOption_eq_some.mp hScope, ?_⟩
    · simp [Json.str?, nonempty hSig hSigNe, nonempty hPub hPubNe]
    · rw [Bool.and_eq_true, decide_eq_true_eq]
      exact ⟨hSigLength, hVerify⟩

/-- The checks of the Go kernel on a parsed envelope. -/
theorem checkEnvelope_eq_ok_iff {env : Json} {supplied : Option Bytes} :
    Go.checkEnvelope G env supplied = .ok () ↔ (goRules G).Accepts env supplied := by
  have hEmpty : Go.isSupportedSpec [] = false := rfl
  unfold Go.checkEnvelope
  simp only [bind_eq_ok, Go.require_eq_ok, goSignature_eq_ok_iff]
  constructor
  · rintro ⟨_, hVersion, _, hPayload, hSigned⟩
    refine ⟨?_, goPayload_eq_ok_iff.mp hPayload, hSigned⟩
    cases hGet : env.get "spec_version" with
    | str s =>
        rw [hGet] at hVersion
        exact ⟨s, rfl, hVersion⟩
    | _ =>
        rw [hGet] at hVersion
        cases hEmpty.symm.trans hVersion
  · rintro ⟨⟨s, hGet, hVersion⟩, hPayload, hSigned⟩
    exact ⟨(), by rw [hGet]; exact hVersion, (), goPayload_eq_ok_iff.mpr hPayload, hSigned⟩

/-- What the Go kernel makes of bytes that its parser reads: their text is
checked, and then what was read. -/
theorem goVerify_eq_ok_iff {raw : Bytes} {read : List (Str × Json)}
    (hRead : G.unmarshal raw = .ok (some read)) {supplied : Option Bytes} {parsed : Json} :
    Go.verifyEnvelope G raw supplied = .ok parsed ↔ Go.rejectMalformedText raw = .ok () ∧
      parsed = .obj read ∧ (goRules G).Accepts (.obj read) supplied := by
  unfold Go.verifyEnvelope
  simp only [bind_eq_ok, mapError_eq_ok, hRead]
  constructor
  · rintro ⟨_, hPassed, own, hOwn, _, hChecked, hParsed⟩
    cases hOwn
    cases hParsed
    exact ⟨hPassed, rfl, checkEnvelope_eq_ok_iff.mp hChecked⟩
  · rintro ⟨hPassed, rfl, hAccepts⟩
    exact ⟨(), hPassed, some read, rfl, (), checkEnvelope_eq_ok_iff.mpr hAccepts, rfl⟩

/-- `VerifyEnvelopeWithPayload` accepts what `VerifyEnvelope` accepts, of envelopes
that commit to the bytes it is given. -/
theorem goVerifyWithPayload_eq_ok_iff {raw : Bytes} {read : List (Str × Json)}
    (hRead : G.unmarshal raw = .ok (some read)) {supplied : Option Bytes} {parsed : Json} :
    Go.verifyEnvelopeWithPayload G raw supplied = .ok parsed ↔
      Go.verifyEnvelope G raw none = .ok parsed ∧ ∃ bytes, supplied = some bytes ∧
        (Json.obj read).get "payload_hash" = .str (Go.sha256Hex G bytes) := by
  unfold Go.verifyEnvelopeWithPayload
  cases supplied with
  | none => simp
  | some bytes =>
      simp only [goVerify_eq_ok_iff hRead, EnvelopeRules.accepts_some_iff, Option.some.injEq,
        exists_eq_left']
      tauto

end Go

section TypeScript

variable {T : TypeScript.Runtime}

/-- The rules of the TypeScript kernel, which decodes strict hex. -/
def typeScriptRules (T : TypeScript.Runtime) : EnvelopeRules where
  canonical v := ((TypeScript.jcs T (some v)).map utf8).toOption
  digest := TypeScript.sha256Hex T
  supported s := TypeScript.specVersionSupported (.str s)
  decode := Hex.strictHex
  scope := TypeScript.envelopeForSig
  verify := T.crypto.ed25519Verify

theorem canonical_typeScript {v : Json} {bytes : Bytes} :
    (typeScriptRules T).canonical v = some bytes ↔
      ∃ text, TypeScript.jcs T (some v) = .ok text ∧ utf8 text = bytes := by
  simp only [typeScriptRules, toOption_eq_some]
  cases TypeScript.jcs T (some v) <;> simp [Except.map]

theorem typeScriptPayload_iff {env : Json} {supplied : Option Bytes} :
    ((TypeScript.checkPayload T env supplied).1 != some false) = true ↔
      ∃ h, env.get "payload_hash" = .str h ∧
        (∀ payload, env.get? "payload" = some payload →
          ∃ canonical, (typeScriptRules T).canonical payload = some canonical ∧
            (typeScriptRules T).digest canonical = h) ∧
        ∀ bytes, supplied = some bytes → (typeScriptRules T).digest bytes = h := by
  have hInline (h : Str) : (TypeScript.checkInline T env h).1.all id = true ↔
      ∀ payload, env.get? "payload" = some payload →
        ∃ canonical, (typeScriptRules T).canonical payload = some canonical ∧
          (typeScriptRules T).digest canonical = h := by
    unfold TypeScript.checkInline
    simp only [canonical_typeScript]
    cases env.get? "payload" with
    | none => simp
    | some payload =>
        simp only [Option.some.injEq, forall_eq']
        cases TypeScript.jcs T (some payload) <;> simp [typeScriptRules]
  have hExternal (h : Str) : (TypeScript.checkExternal T supplied h).1.all id = true ↔
      ∀ bytes, supplied = some bytes → (typeScriptRules T).digest bytes = h := by
    unfold TypeScript.checkExternal
    cases supplied <;> simp [typeScriptRules]
  unfold TypeScript.checkPayload
  cases env.get "payload_hash" with
  | str h =>
      simp only [Json.str.injEq, exists_eq_left', ← hInline, ← hExternal, ← Bool.and_eq_true,
        ← List.all_append]
      cases (TypeScript.checkInline T env h).1 ++ (TypeScript.checkExternal T supplied h).1 <;> simp
  | _ => simp

/-- Only strings verify, and only those of the strict codec. -/
theorem ed25519Verify_iff {signature publicKey : Option Json} {message : Bytes} :
    TypeScript.ed25519Verify T signature message publicKey = true ↔
      ∃ s k sig key, signature = some (.str s) ∧ publicKey = some (.str k) ∧
        Hex.strictHex s = some sig ∧ Hex.strictHex k = some key ∧ sig.length = 64 ∧
        key.length = 32 ∧ T.crypto.ed25519Verify key sig message = true := by
  constructor
  · intro h
    by_cases hStrings : (∀ s, signature ≠ some (.str s)) ∨ ∀ k, publicKey ≠ some (.str k)
    · rw [ed25519Verify_eq_false message hStrings] at h
      cases h
    · push Not at hStrings
      obtain ⟨⟨s, rfl⟩, k, rfl⟩ := hStrings
      unfold TypeScript.ed25519Verify at h
      cases hSig : TypeScript.hexToBytes T (some (.str s)) with
      | error text => simp [hSig] at h
      | ok sig =>
          cases hKey : TypeScript.hexToBytes T (some (.str k)) with
          | error text => simp [hSig, hKey] at h
          | ok key =>
              simp only [hSig, hKey, Bool.and_eq_true, decide_eq_true_eq] at h
              exact ⟨s, k, sig, key, rfl, rfl, TypeScript.hexToBytes_eq_ok.mp hSig,
                TypeScript.hexToBytes_eq_ok.mp hKey, h.1.1, h.1.2, h.2⟩
  · rintro ⟨s, k, sig, key, rfl, rfl, hSig, hKey, hSigLength, hKeyLength, hVerify⟩
    unfold TypeScript.ed25519Verify
    rw [TypeScript.hexToBytes_eq_ok.mpr hSig, TypeScript.hexToBytes_eq_ok.mpr hKey]
    simp [hSigLength, hKeyLength, hVerify]

/-- A member that reads as text is there, and is that text. -/
theorem get_eq_str_iff {env : Json} {key : String} {s : Str} :
    env.get key = .str s ↔ env.get? key = some (.str s) :=
  ⟨fun h => Json.get?_of_get h (by simp), Json.get_of_get?⟩

theorem typeScriptSignature_iff {env : Json} :
    (TypeScript.checkSignature T env).1 = true ↔ ∃ s k, (typeScriptRules T).Signed env s k := by
  have hSplit : (TypeScript.checkSignature T env).1 = true ↔ ∃ text,
      TypeScript.jcs T (some (TypeScript.envelopeForSig env)) = .ok text ∧
        TypeScript.ed25519Verify T (env.get? "signature") (utf8 text) (env.get? "public_key") = true := by
    unfold TypeScript.checkSignature
    cases TypeScript.jcs T (some (TypeScript.envelopeForSig env)) <;> simp
  rw [hSplit]
  constructor
  · rintro ⟨text, hText, hVerify⟩
    obtain ⟨s, k, sig, key, hs, hk, hSig, hKey, hSigLength, hKeyLength, hHolds⟩ :=
      ed25519Verify_iff.mp hVerify
    exact ⟨s, k, get_eq_str_iff.mpr hs, get_eq_str_iff.mpr hk, sig, key, utf8 text, hSig, hKey,
      hSigLength, hKeyLength, canonical_typeScript.mpr ⟨text, hText, rfl⟩, hHolds⟩
  · rintro ⟨s, k, hs, hk, sig, key, message, hSig, hKey, hSigLength, hKeyLength, hMessage, hHolds⟩
    obtain ⟨text, hText, rfl⟩ := canonical_typeScript.mp hMessage
    exact ⟨text, hText, ed25519Verify_iff.mpr ⟨s, k, sig, key, get_eq_str_iff.mp hs,
      get_eq_str_iff.mp hk, hSig, hKey, hSigLength, hKeyLength, hHolds⟩⟩

/-- The checks of the TypeScript kernel. -/
theorem verifyEnvelope_ok_iff {env : Json} {supplied : Option Bytes} {expected : Option Str} :
    (TypeScript.verifyEnvelope T (some env) supplied expected).ok = true ↔
      (typeScriptRules T).Accepts env supplied := by
  have hVersion : TypeScript.specVersionSupported (env.get "spec_version") = true ↔
      ∃ s, env.get "spec_version" = .str s ∧ (typeScriptRules T).supported s = true := by
    cases env.get "spec_version" <;> simp [typeScriptRules, TypeScript.specVersionSupported]
  unfold TypeScript.verifyEnvelope
  cases hObj : env.isObj with
  | false =>
      refine iff_of_false (by simp [hObj]) fun h => ?_
      rw [h.isObj] at hObj
      cases hObj
  | true =>
      simp only [hObj, Option.getD_some, Bool.not_true, Bool.false_eq_true, if_false,
        Bool.and_eq_true, hVersion, typeScriptSignature_iff, typeScriptPayload_iff]
      constructor
      · rintro ⟨⟨hKnown, hSigned⟩, hPayload⟩
        exact ⟨hKnown, hPayload, hSigned⟩
      · rintro ⟨hKnown, hPayload, hSigned⟩
        exact ⟨⟨hKnown, hSigned⟩, hPayload⟩

end TypeScript

section Python

variable {P : Python.Runtime}

/-- The rules of the Python kernel, whose decoder skips white space. -/
def pythonRules (P : Python.Runtime) : EnvelopeRules where
  canonical v := (Python.canonicalJson P v).toOption
  digest := Python.sha256Hex P
  supported s := Python.specVersionSupported (.str s)
  decode := Hex.fromhex
  scope := Python.envelopeForSignature
  verify := P.crypto.ed25519Verify

theorem pythonPayload_iff {env : Json} {supplied : Option Bytes} :
    ((Python.checkPayload P env supplied).1 != some false) = true ↔
      ∃ h, env.get "payload_hash" = .str h ∧
        (∀ payload, env.get? "payload" = some payload →
          ∃ canonical, (pythonRules P).canonical payload = some canonical ∧
            (pythonRules P).digest canonical = h) ∧
        ∀ bytes, supplied = some bytes → (pythonRules P).digest bytes = h := by
  have hChecks (h : Str) : (Python.payloadChecks P env supplied h).1.all id = true ↔
      (∀ payload, env.get? "payload" = some payload →
        ∃ canonical, (pythonRules P).canonical payload = some canonical ∧
          (pythonRules P).digest canonical = h) ∧
      ∀ bytes, supplied = some bytes → (pythonRules P).digest bytes = h := by
    unfold Python.payloadChecks
    rw [List.all_append, Bool.and_eq_true]
    apply and_congr
    · simp only [pythonRules, toOption_eq_some]
      cases env.get? "payload" with
      | none => simp
      | some payload =>
          simp only [Option.some.injEq, forall_eq']
          cases Python.canonicalJson P payload <;> simp
    · cases supplied <;> simp [pythonRules]
  unfold Python.checkPayload
  cases env.get "payload_hash" with
  | str h =>
      simp only [Json.str?, Json.str.injEq, exists_eq_left', ← hChecks]
      cases (Python.payloadChecks P env supplied h).1 <;> simp
  | _ => simp [Json.str?]

/-- A signature holds when the key and the signature are hex of the right lengths
and Ed25519 accepts them. -/
theorem verifySignature_iff {message : Bytes} {v w : Json} :
    Python.verifySignature P message v w = true ↔ ∃ s k sig key, v = .str s ∧ w = .str k ∧
      Hex.fromhex s = some sig ∧ Hex.fromhex k = some key ∧ sig.length = 64 ∧ key.length = 32 ∧
        P.crypto.ed25519Verify key sig message = true := by
  constructor
  · intro h
    by_cases hStrings : (∀ s, v ≠ .str s) ∨ ∀ k, w ≠ .str k
    · rw [verifySignature_eq_false message hStrings] at h
      cases h
    · push Not at hStrings
      obtain ⟨⟨s, rfl⟩, k, rfl⟩ := hStrings
      simp only [Python.verifySignature, Json.str?, Option.bind_some] at h
      cases hSig : Hex.fromhex s with
      | none => simp [hSig] at h
      | some sig =>
          cases hKey : Hex.fromhex k with
          | none => simp [hSig, hKey] at h
          | some key =>
              simp only [hSig, hKey, Bool.and_eq_true, decide_eq_true_eq] at h
              exact ⟨s, k, sig, key, rfl, rfl, hSig, hKey, h.1.1, h.1.2, h.2⟩
  · rintro ⟨s, k, sig, key, rfl, rfl, hSig, hKey, hSigLength, hKeyLength, hVerify⟩
    simp [Python.verifySignature, Json.str?, hSig, hKey, hSigLength, hKeyLength, hVerify]

/-- A missing member reads as the empty string, which decodes to nothing. -/
theorem get_of_decoded {env : Json} {key : String} {s : Str} {bytes : Bytes}
    (h : (env.get? key).getD (.str []) = .str s) (hDecode : Hex.fromhex s = some bytes)
    (hNe : bytes ≠ []) : env.get key = .str s := by
  cases hGet : env.get? key with
  | none =>
      rw [hGet, Option.getD_none, Json.str.injEq] at h
      subst h
      cases hDecode
      exact (hNe rfl).elim
  | some v =>
      rw [hGet, Option.getD_some] at h
      exact Json.get_of_get? (by rw [hGet, h])

theorem pythonSignature_iff {env : Json} :
    Python.checkSignature P env = true ↔ ∃ s k, (pythonRules P).Signed env s k := by
  rw [Python.checkSignature_iff]
  constructor
  · rintro ⟨message, hMessage, hVerify⟩
    obtain ⟨s, k, sig, key, hs, hk, hSig, hKey, hSigLength, hKeyLength, hHolds⟩ :=
      verifySignature_iff.mp hVerify
    refine ⟨s, k, get_of_decoded hs hSig ?_, get_of_decoded hk hKey ?_, sig, key, message, hSig,
      hKey, hSigLength, hKeyLength, toOption_eq_some.mpr hMessage, hHolds⟩
    · rintro rfl
      simp at hSigLength
    · rintro rfl
      simp at hKeyLength
  · rintro ⟨s, k, hs, hk, sig, key, message, hSig, hKey, hSigLength, hKeyLength, hMessage, hHolds⟩
    refine ⟨message, toOption_eq_some.mp hMessage, verifySignature_iff.mpr ⟨s, k, sig, key, ?_, ?_,
      hSig, hKey, hSigLength, hKeyLength, hHolds⟩⟩
    · rw [get_eq_str_iff.mp hs, Option.getD_some]
    · rw [get_eq_str_iff.mp hk, Option.getD_some]

/-- The checks of the Python kernel, which does without legacy envelopes here. -/
theorem verify_envelope_ok_iff {env : Json} {supplied : Option Bytes} {expected : Option Str} :
    (Python.verifyEnvelope P env supplied expected false).ok = true ↔
      (pythonRules P).Accepts env supplied := by
  have hVersion : (Python.checkSpecVersion P env false).1 = true ↔
      ∃ s, env.get "spec_version" = .str s ∧ (pythonRules P).supported s = true := by
    unfold Python.checkSpecVersion
    cases env.get "spec_version" <;> simp [pythonRules, Python.specVersionSupported]
  unfold Python.verifyEnvelope
  cases hObj : env.isObj with
  | false =>
      refine iff_of_false (by simp) fun h => ?_
      rw [h.isObj] at hObj
      cases hObj
  | true =>
      simp only [Bool.not_true, Bool.false_eq_true, if_false, Bool.and_eq_true, hVersion,
        pythonSignature_iff, pythonPayload_iff]
      constructor
      · rintro ⟨⟨hKnown, hSigned⟩, hPayload⟩
        exact ⟨hKnown, hPayload, hSigned⟩
      · rintro ⟨hKnown, hPayload, hSigned⟩
        exact ⟨⟨hKnown, hSigned⟩, hPayload⟩

end Python

section Laws

/-- Within the nesting bound and on text that has a UTF-8 form, the JCS
libraries of Go and of TypeScript produce the same bytes or both fail. -/
def GoJcsAgrees (G : Go.Runtime) (T : TypeScript.Runtime) : Prop :=
  ∀ v, v.depth ≤ maxCanonicalDepth → (∀ s ∈ TypeScript.strings v, TypeScript.WellFormed s) →
    (Go.canonicalJSON G v).toOption = ((T.canonicalize v).map utf8).toOption

/-- Neither the order of members nor the spelling of numbers shows. -/
def GoJcsNormal (G : Go.Runtime) : Prop :=
  ∀ v w, v.norm = w.norm → (Go.canonicalJSON G v).toOption = (Go.canonicalJSON G w).toOption

/-- Two Ed25519 checks agree on the signature and the key of an envelope. -/
def VerifiersAgree (first second : Crypto) (env : Json) : Prop :=
  ∀ s k signature key message, env.get "signature" = .str s → env.get "public_key" = .str k →
    Hex.fromhex s = some signature → Hex.fromhex k = some key →
      first.ed25519Verify key signature message = second.ed25519Verify key signature message

/-- What the parsers deliver of a JSON text that is an object: one value in two
kernels, and in Go, where only Unicode text gets as far as its parser, a value
that differs from it in nothing that a canonical form shows. The strings of the
value are those of the text. Nothing is assumed of texts whose members the parsers
tell apart, such as those with duplicate keys or with numbers beyond doubles: they
are not parsed alike, and results under this hypothesis do not speak of them. -/
structure ParsedAlike (G : Go.Runtime) (T : TypeScript.Runtime) (P : Python.Runtime)
    (d : Syntax.Document) (env : Json) : Prop where
  typeScript : T.jsonParse d.bytes = .ok env
  python : P.jsonLoads d.bytes = .ok env
  go : (∀ s ∈ d.literals, TypeScript.WellFormed s) → ∃ members, G.unmarshal d.bytes = .ok (some members) ∧
    (Json.obj members).norm = env.norm
  literals : ∀ s ∈ TypeScript.strings env, s ∈ d.literals

end Laws

end ArioProof.CrossKernel
