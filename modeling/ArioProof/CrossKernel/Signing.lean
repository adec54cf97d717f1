import ArioProof.CrossKernel.ThreeKernels
import ArioProof.Python.Signing

/-! Envelopes across producers and verifiers. What the Go producer or the Python
producer has signed is accepted by every kernel that knows its version, from
the bytes that are uploaded. -/
namespace ArioProof.CrossKernel

open Foundation
open TypeScript (strings WellFormed)

variable {G : Go.Runtime} {T : TypeScript.Runtime} {P : Python.Runtime}

section Laws

/-- A private key of 64 bytes signs with its first half, where the second half
is the public key of that. -/
def SignsFromSeed (G : Go.Runtime) : Prop :=
  ∀ seed message, seed.length = 32 →
    G.ed25519Sign (seed ++ G.crypto.ed25519PublicKey seed) message = G.crypto.ed25519Sign seed message

/-- The canonical bytes of a map of Unicode text are a JSON text of such text,
and are read as that map. -/
def GoJcsReads (G : Go.Runtime) : Prop :=
  ∀ members bytes, (∀ s ∈ strings (.obj members), WellFormed s) →
    Go.canonicalJSON G (.obj members) = .ok bytes →
      (∃ d : Syntax.Document, d.bytes = bytes ∧ ∀ s ∈ d.literals, WellFormed s) ∧
      ∃ read, G.unmarshal bytes = .ok (some read) ∧ (Json.obj read).norm = (Json.obj members).norm

end Laws

section Produce

variable {members : List (Str × Json)} {priv bytes : Bytes}

/-- The envelope that `SignEnvelope` writes: what it was given, the hash, the key
and the signature. -/
def goSigned (G : Go.Runtime) (envelope : Json) (priv payloadBytes scope : Bytes) : Json :=
  (Go.prepare G envelope priv payloadBytes).set "signature"
    (.str (Hex.encode (G.ed25519Sign priv scope)))

/-- What is signed is the scope that a verifier rebuilds. -/
theorem scopeMap_goSigned (envelope : Json) (priv payloadBytes scope : Bytes) :
    Go.scopeMap (goSigned G envelope priv payloadBytes scope) =
      (Go.prepare G envelope priv payloadBytes).restrict fun key => key ≠ utf16 "co_signatures" := by
  have hSigned : (unsignedFields.map utf16).contains (utf16 "signature") = true := by decide
  rw [Go.scopeMap, goSigned, Json.restrict_set (by rw [hSigned]; rfl), Go.prepare,
    Json.restrict_set_of_keep (by decide), Json.restrict_set_of_keep (by decide),
    Json.restrict_set_of_keep (by decide), Json.restrict_set_of_keep (by decide),
    Json.restrict_restrict, Json.restrict_restrict]
  congr 3
  funext key
  simp only [unsignedFields, List.map_cons, List.map_nil, List.contains_cons, List.contains_nil,
    Bool.or_false, Bool.not_or, decide_not, beq_eq_decide]
  cases decide (key = utf16 "signature") <;> cases decide (key = utf16 "co_signatures") <;> rfl

theorem signEnvelope_eq_ok (h : Go.signEnvelope G (some members) priv = .ok bytes) :
    priv.length = 64 ∧ ∃ payload payloadBytes scope,
      (Json.obj members).get? "payload" = some payload ∧
      Go.canonicalJSON G payload = .ok payloadBytes ∧
      Go.canonicalJSON G (Go.scopeMap (goSigned G (.obj members) priv payloadBytes scope)) =
        .ok scope ∧
      Go.canonicalJSON G (goSigned G (.obj members) priv payloadBytes scope) = .ok bytes := by
  unfold Go.signEnvelope at h
  simp only [bind_eq_ok, mapError_eq_ok, Go.require_eq_ok] at h
  obtain ⟨_, hLength, _, hPayload, payloadBytes, hPayloadBytes, scope, hScope, hBytes⟩ := h
  obtain ⟨payload, hPayload⟩ := Option.isSome_iff_exists.mp hPayload
  refine ⟨by simpa using hLength, payload, payloadBytes, scope, hPayload, ?_, ?_, hBytes⟩
  · rwa [Json.get_of_get? hPayload] at hPayloadBytes
  · rw [scopeMap_goSigned]
    exact hScope

/-- Members other than those that signing assigns are kept. -/
theorem get?_goSigned {envelope : Json} {payloadBytes scope : Bytes} {key : String}
    (hKey : key ≠ "signature" ∧ key ≠ "payload_hash" ∧ key ≠ "public_key") :
    (goSigned G envelope priv payloadBytes scope).get? key = envelope.get? key := by
  obtain ⟨hSignature, hHash, hPublic⟩ := hKey
  rw [goSigned, Json.get?_set_of_ne hSignature, Go.prepare, Json.get?_set_of_ne hPublic,
    Json.get?_set_of_ne hHash, Json.get?_eq_member?, Json.member?_restrict,
    if_pos (by simpa using hSignature), Json.get?_eq_member?]

theorem isObj_prepare (payloadBytes : Bytes) :
    (Go.prepare G (.obj members) priv payloadBytes).isObj = true := by
  rw [Go.prepare, Json.isObj_set, Json.isObj_set]
  rfl

theorem isObj_goSigned (members : List (Str × Json)) (priv payloadBytes scope : Bytes) :
    (goSigned G (.obj members) priv payloadBytes scope).isObj = true := by
  rw [goSigned, Json.isObj_set, isObj_prepare]

theorem get_signature_goSigned (members : List (Str × Json)) (priv payloadBytes scope : Bytes) :
    (goSigned G (.obj members) priv payloadBytes scope).get "signature" =
      .str (Hex.encode (G.ed25519Sign priv scope)) := by
  rw [goSigned, get_eq_str_iff, Json.get?_set (isObj_prepare payloadBytes)]

theorem get_publicKey_goSigned (members : List (Str × Json)) (priv payloadBytes scope : Bytes) :
    (goSigned G (.obj members) priv payloadBytes scope).get "public_key" =
      .str (Hex.encode (Go.publicKey priv)) := by
  rw [goSigned, Go.prepare, get_eq_str_iff, Json.get?_set_of_ne (by decide),
    Json.get?_set (by rw [Json.isObj_set]; rfl)]

theorem get_payloadHash_goSigned (members : List (Str × Json)) (priv payloadBytes scope : Bytes) :
    (goSigned G (.obj members) priv payloadBytes scope).get "payload_hash" =
      .str (Go.sha256Hex G payloadBytes) := by
  rw [goSigned, Go.prepare, get_eq_str_iff, Json.get?_set_of_ne (by decide),
    Json.get?_set_of_ne (by decide), Json.get?_set rfl]

/-- Assigning Unicode text keeps a map one of Unicode text. -/
theorem wellFormed_set {v value : Json} {key : String} (h : ∀ s ∈ strings v, WellFormed s)
    (hValue : ∀ s ∈ strings value, WellFormed s) : ∀ s ∈ strings (v.set key value), WellFormed s := by
  cases v with
  | obj members =>
      have own (entry : Str × Json) (hEntry : entry ∈ members) :
          WellFormed entry.1 ∧ ∀ s ∈ strings entry.2, WellFormed s :=
        ⟨h _ (TypeScript.mem_stringsMembers.mpr ⟨entry, hEntry, Or.inl rfl⟩), fun s hs =>
          h s (TypeScript.mem_stringsMembers.mpr ⟨entry, hEntry, Or.inr hs⟩)⟩
      intro s hs
      rw [Json.set] at hs
      obtain ⟨entry, hEntry, hOwn⟩ := TypeScript.mem_stringsMembers.mp hs
      split_ifs at hEntry
      · obtain ⟨old, hOld, rfl⟩ := List.mem_map.mp hEntry
        split_ifs at hOwn
        · rcases hOwn with rfl | hOwn
          · exact (own old hOld).1
          · exact hValue s hOwn
        · rcases hOwn with rfl | hOwn
          · exact (own old hOld).1
          · exact (own old hOld).2 s hOwn
      · rcases List.mem_append.mp hEntry with hOld | hNew
        · rcases hOwn with rfl | hOwn
          · exact (own entry hOld).1
          · exact (own entry hOld).2 s hOwn
        · rw [List.mem_singleton] at hNew
          subst hNew
          rcases hOwn with rfl | hOwn
          · exact TypeScript.wellFormed_utf16 key
          · exact hValue s hOwn
  | _ => exact h

theorem wellFormed_goSigned (priv payloadBytes scope : Bytes)
    (h : ∀ s ∈ strings (.obj members), WellFormed s) :
    ∀ s ∈ strings (goSigned G (.obj members) priv payloadBytes scope), WellFormed s := by
  have hex (bytes : Bytes) : ∀ s ∈ strings (.str (Hex.encode bytes)), WellFormed s := by
    intro s hs
    rw [strings, List.mem_singleton] at hs
    exact hs ▸ Reference.wellFormed_of_isAscii (Hex.isAscii_encode bytes)
  apply wellFormed_set _ (hex _)
  apply wellFormed_set _ (hex _)
  apply wellFormed_set _ (hex _)
  exact fun s hs => h s (mem_strings_restrict hs)

/-- The signed envelope is accepted by the producer's own rules, as far as its
version is known and supplied bytes are those of its payload. -/
theorem goAccepts_goSigned {seed payloadBytes scope : Bytes} {payload : Json}
    (hSeed : seed.length = 32) (hSign : G.crypto.Ed25519Correct) (hKey : SignsFromSeed G)
    (hPayload : (Json.obj members).get? "payload" = some payload)
    (hPayloadBytes : Go.canonicalJSON G payload = .ok payloadBytes)
    (hScope : Go.canonicalJSON G (Go.scopeMap (goSigned G (.obj members)
      (seed ++ G.crypto.ed25519PublicKey seed) payloadBytes scope)) = .ok scope)
    (supplied : Option Bytes) :
    (goRules G).Accepts (goSigned G (.obj members) (seed ++ G.crypto.ed25519PublicKey seed)
        payloadBytes scope) supplied ↔
      (∃ s, (Json.obj members).get "spec_version" = .str s ∧ Go.isSupportedSpec s = true) ∧
        ∀ data, supplied = some data → Go.sha256Hex G data = Go.sha256Hex G payloadBytes := by
  have hPublic : Go.publicKey (seed ++ G.crypto.ed25519PublicKey seed) =
      G.crypto.ed25519PublicKey seed := by
    rw [Go.publicKey, ← hSeed, List.drop_left]
  have hHash := get_payloadHash_goSigned (G := G) members
    (seed ++ G.crypto.ed25519PublicKey seed) payloadBytes scope
  have hSignature := get_signature_goSigned (G := G) members
    (seed ++ G.crypto.ed25519PublicKey seed) payloadBytes scope
  have hPublicKey := get_publicKey_goSigned (G := G) members
    (seed ++ G.crypto.ed25519PublicKey seed) payloadBytes scope
  rw [hKey seed scope hSeed] at hSignature
  rw [hPublic] at hPublicKey
  generalize hSigned : goSigned G (.obj members) (seed ++ G.crypto.ed25519PublicKey seed)
    payloadBytes scope = env at *
  have hVersion : env.get "spec_version" = (Json.obj members).get "spec_version" := by
    rw [← hSigned, Json.get, get?_goSigned (by decide), Json.get]
  constructor
  · intro h
    obtain ⟨own, hOwn, -, hSupplied⟩ := h.payload
    rw [hHash, Json.str.injEq] at hOwn
    subst hOwn
    rw [← hVersion]
    exact ⟨h.version, hSupplied⟩
  · rintro ⟨hKnown, hSupplied⟩
    rw [← hVersion] at hKnown
    refine ⟨hKnown, ⟨_, hHash, ?_, hSupplied⟩, _, _, hSignature, hPublicKey,
      G.crypto.ed25519Sign seed scope, G.crypto.ed25519PublicKey seed, scope,
      Hex.strictHex_encode _, Hex.strictHex_encode _, hSign.length_sign seed scope hSeed,
      hSign.length_publicKey seed hSeed, toOption_eq_some.mpr hScope,
      hSign.verify_sign seed scope hSeed⟩
    intro own hOwn
    rw [← hSigned, get?_goSigned (by decide), hPayload, Option.some.injEq] at hOwn
    subst hOwn
    exact ⟨payloadBytes, toOption_eq_some.mpr hPayloadBytes, rfl⟩

end Produce

section Texts

variable {members : List (Str × Json)} {seed bytes : Bytes}

/-- The scan sees nothing but the bytes, so two documents with the same bytes have
the same verdict on their literals. -/
theorem literals_wellFormed_congr {d d' : Syntax.Document} (h : d.bytes = d'.bytes) :
    (∀ s ∈ d.literals, WellFormed s) ↔ ∀ s ∈ d'.literals, WellFormed s := by
  rw [← Go.rejectMalformedText_document d, ← Go.rejectMalformedText_document d', h]

/-- What the Go producer has signed, its verifier reads back member by member,
and accepts under a known version with no other bytes than those of the payload.
The other kernels accept it too, as far as it does not nest too deep. -/
theorem go_signed_on_kernels (hSign : G.crypto.Ed25519Correct) (hKey : SignsFromSeed G)
    (hReads : GoJcsReads G) (hNormal : GoJcsNormal G) (hGo : GoJcsAgrees G T) (hJcs : JcsAgree P T)
    (hHash : G.crypto.sha256 = T.crypto.sha256) (hHash' : T.crypto.sha256 = P.crypto.sha256)
    (hSeed : seed.length = 32) (hStrings : ∀ s ∈ strings (.obj members), WellFormed s)
    (h : Go.signEnvelope G (some members) (seed ++ G.crypto.ed25519PublicKey seed) = .ok bytes) :
    (∃ payload payloadBytes, (Json.obj members).get? "payload" = some payload ∧
      Go.canonicalJSON G payload = .ok payloadBytes ∧
      ∀ supplied, GoAccepts G bytes supplied ↔
        (∃ s, (Json.obj members).get "spec_version" = .str s ∧ Go.isSupportedSpec s = true) ∧
          ∀ data, supplied = some data → Go.sha256Hex G data = Go.sha256Hex G payloadBytes) ∧
    (∀ supplied parsed, Go.verifyEnvelope G bytes supplied = .ok parsed →
      ∀ key : String, key ∉ ["signature", "payload_hash", "public_key"] →
        (parsed.get? key).map Json.norm = ((Json.obj members).get? key).map Json.norm) ∧
    ∀ (d : Syntax.Document) (env : Json), d.bytes = bytes → ParsedAlike G T P d env →
      VerifiersAgree G.crypto T.crypto env → VerifiersAgree T.crypto P.crypto env →
      ∀ supplied expected,
        ((TypeScript.verifyEnvelope T (some env) supplied expected).ok = true ↔
          GoAccepts G bytes supplied ∧ (Go.scopeMap env).depth ≤ maxCanonicalDepth) ∧
        ((TypeScript.verifyEnvelope T (some env) supplied expected).ok = true ↔
          (Python.verifyEnvelope P env supplied expected false).ok = true ∧ NotLegacy env) := by
  obtain ⟨-, payload, payloadBytes, scope, hPayload, hPayloadBytes, hScope, hBytes⟩ :=
    signEnvelope_eq_ok h
  have hAccepts := goAccepts_goSigned hSeed hSign hKey hPayload hPayloadBytes hScope
  have hSignature := get_signature_goSigned (G := G) members
    (seed ++ G.crypto.ed25519PublicKey seed) payloadBytes scope
  have hPublicKey := get_publicKey_goSigned (G := G) members
    (seed ++ G.crypto.ed25519PublicKey seed) payloadBytes scope
  have hUnicode := wellFormed_goSigned (G := G) (seed ++ G.crypto.ed25519PublicKey seed)
    payloadBytes scope hStrings
  have hOthers {key : String} (hKey : key ∉ ["signature", "payload_hash", "public_key"]) :
      (goSigned G (.obj members) (seed ++ G.crypto.ed25519PublicKey seed) payloadBytes scope).get? key =
        (Json.obj members).get? key :=
    get?_goSigned (by simpa using hKey)
  have hObj := isObj_goSigned (G := G) members (seed ++ G.crypto.ed25519PublicKey seed)
    payloadBytes scope
  generalize goSigned G (.obj members) (seed ++ G.crypto.ed25519PublicKey seed) payloadBytes scope =
    signed at *
  obtain ⟨own, rfl⟩ : ∃ own, signed = .obj own := by
    cases signed with
    | obj own => exact ⟨own, rfl⟩
    | _ => cases hObj
  obtain ⟨⟨d₀, rfl, hLiterals⟩, read, hRead, hNorm⟩ := hReads own bytes hUnicode hBytes
  have hVerify (supplied : Option Bytes) (parsed : Json) :
      Go.verifyEnvelope G d₀.bytes supplied = .ok parsed ↔
        parsed = .obj read ∧ (goRules G).Accepts (.obj read) supplied := by
    rw [goVerify_eq_ok_iff hRead, Go.rejectMalformedText_document]
    exact ⟨fun h => h.2, fun h => ⟨hLiterals, h⟩⟩
  have hGoAccepts (supplied : Option Bytes) :
      GoAccepts G d₀.bytes supplied ↔ (goRules G).Accepts (.obj own) supplied := by
    unfold GoAccepts
    simp only [hVerify, exists_eq_left]
    exact ⟨goAccepts_congr hNormal hNorm, goAccepts_congr hNormal hNorm.symm⟩
  refine ⟨⟨payload, payloadBytes, hPayload, hPayloadBytes, fun supplied =>
    (hGoAccepts supplied).trans (hAccepts supplied)⟩, ?_, ?_⟩
  · intro supplied parsed hParsed key hKey
    obtain ⟨rfl, -⟩ := (hVerify supplied parsed).mp hParsed
    rw [← hOthers hKey, ← Json.get?_norm, hNorm, Json.get?_norm]
  · intro d env hSame hParsed hGoVerify hPythonVerify supplied expected
    have hOwn := (literals_wellFormed_congr hSame).mpr hLiterals
    obtain ⟨members', hMembers, hEnv⟩ := hParsed.go hOwn
    rw [hSame, hRead] at hMembers
    cases hMembers
    have hEnvNorm : env.norm = (Json.obj own).norm := hEnv.symm.trans hNorm
    rw [verifyEnvelope_ok_iff, verify_envelope_ok_iff, hGoAccepts]
    constructor
    · rw [typeScript_iff_go hGo hHash hGoVerify]
      constructor
      · rintro ⟨hGo, hDepth, -⟩
        exact ⟨goAccepts_congr hNormal hEnvNorm hGo, hDepth⟩
      · rintro ⟨hGo, hDepth⟩
        exact ⟨goAccepts_congr hNormal hEnvNorm.symm hGo, hDepth, fun s hs =>
          hOwn s (hParsed.literals s (mem_strings_restrict hs))⟩
    · rw [typeScript_iff_python hJcs hHash' hPythonVerify]
      constructor
      · exact fun hAll => ⟨hAll.1, hAll.2.1⟩
      · exact fun hBoth => ⟨hBoth.1, hBoth.2,
          ⟨_, _, Json.get_str_of_norm_eq hEnvNorm hSignature, Hex.strictHex_encode _⟩,
          ⟨_, _, Json.get_str_of_norm_eq hEnvNorm hPublicKey, Hex.strictHex_encode _⟩⟩

/-- Values with one normal form are accepted alike by the Python kernel. -/
theorem pythonAccepts_congr (hNormal : P.JcsNormal) {env other : Json} {supplied : Option Bytes}
    (hNorm : env.norm = other.norm) (h : (pythonRules P).Accepts env supplied) :
    (pythonRules P).Accepts other supplied := by
  apply h.congr hNorm
  · intro v w bytes hSame hBytes
    exact toOption_eq_some.mpr (Python.canonicalJson_congr hNormal hSame (toOption_eq_some.mp hBytes))
  · have hSigned : Python.isSigned env = Python.isSigned other := by
      apply Python.isSigned_congr
      rw [← Json.get?_norm, hNorm, Json.get?_norm]
    change (Python.envelopeForSignature env).norm = (Python.envelopeForSignature other).norm
    rw [Python.envelopeForSignature_eq_restrict, Python.envelopeForSignature_eq_restrict,
      Json.norm_restrict, hNorm, ← Json.norm_restrict, hSigned]

/-- An envelope has a payload hash, which is that of supplied bytes. -/
def Binds (P : Python.Runtime) (env : Json) (supplied : Option Bytes) : Prop :=
  ∃ hash, env.get "payload_hash" = .str hash ∧
    ∀ data, supplied = some data → Python.sha256Hex P data = hash

/-- The Python producer's envelope is accepted by its own rules, as far as its
version is known and it binds what there is to bind. -/
theorem pythonAccepts_signed (hSign : P.crypto.Ed25519Correct) {key : Python.SigningKey} {s : Json}
    (h : Python.signEnvelope P (.obj members) key = .ok s) (supplied : Option Bytes) :
    ((pythonRules P).Accepts s supplied ↔
      Binds P s supplied ∧
        ∃ v, s.get "spec_version" = .str v ∧ Python.specVersionSupported (.str v) = true) ∧
    StrictHex s "signature" ∧ StrictHex s "public_key" := by
  obtain ⟨env, message, hCompleted, hMessage, rfl⟩ := Python.signEnvelope_eq_ok rfl h
  have hObj : env.isObj = true := hCompleted.extension.isObj rfl
  have hSignature := Python.checkSignature_set hSign hObj hCompleted.publicKey hMessage
  have hStored : (env.set "signature" (.str (Hex.encode (Python.sign P message key)))).get
      "signature" = .str (Hex.encode (Python.sign P message key)) := by
    rw [get_eq_str_iff, Json.get?_set hObj]
  have hKey : (env.set "signature" (.str (Hex.encode (Python.sign P message key)))).get
      "public_key" = .str (Python.publicKeyHex P key) := by
    rw [get_eq_str_iff, Json.get?_set_of_ne (by decide), hCompleted.publicKey]
  refine ⟨?_, ⟨_, _, hStored, Hex.strictHex_encode _⟩, _, _, hKey, Hex.strictHex_encode _⟩
  constructor
  · intro hAccepts
    obtain ⟨hash, hHash, -, hSupplied⟩ := hAccepts.payload
    exact ⟨⟨hash, hHash, hSupplied⟩, hAccepts.version⟩
  · rintro ⟨⟨hash, hHash, hSupplied⟩, hKnown⟩
    refine ⟨hKnown, ⟨hash, hHash, ?_, hSupplied⟩, pythonSignature_iff.mp hSignature⟩
    intro payload hPayload
    rw [Json.get?_set_of_ne (by decide)] at hPayload
    obtain ⟨canonical, hCanonical, hOwn⟩ := hCompleted.payload payload hPayload
    rw [get_eq_str_iff, Json.get?_set_of_ne (by decide), hOwn, Option.some.injEq,
      Json.str.injEq] at hHash
    exact ⟨canonical, toOption_eq_some.mpr hCanonical, hHash⟩

/-- What the Python producer has signed, every kernel accepts that knows its
version, whatever order and spelling it is uploaded in, and the Go kernel as far
as all of the text is Unicode. -/
theorem python_signed_on_kernels (hSign : P.crypto.Ed25519Correct) (hPython : P.JcsNormal)
    (hGo : GoJcsAgrees G T) (hNormal : GoJcsNormal G) (hJcs : JcsAgree P T)
    (hHash : G.crypto.sha256 = T.crypto.sha256) (hHash' : T.crypto.sha256 = P.crypto.sha256)
    {key : Python.SigningKey} {s : Json} (h : Python.signEnvelope P (.obj members) key = .ok s)
    {d : Syntax.Document} {env : Json} (hNorm : env.norm = s.norm) (hParsed : ParsedAlike G T P d env)
    (hGoVerify : VerifiersAgree G.crypto T.crypto env)
    (hPythonVerify : VerifiersAgree T.crypto P.crypto env) (supplied : Option Bytes)
    (expected : Option Str) :
    ((Python.verifyEnvelope P env supplied expected false).ok = true ↔ Binds P s supplied ∧
      ∃ v, s.get "spec_version" = .str v ∧ Python.specVersionSupported (.str v) = true) ∧
    ((TypeScript.verifyEnvelope T (some env) supplied expected).ok = true ↔ Binds P s supplied ∧
      ∃ v, s.get "spec_version" = .str v ∧ Go.isSupportedSpec v = true) ∧
    (GoAccepts G d.bytes supplied ↔ (∀ s ∈ d.literals, ∃ text : String, utf16 text = s) ∧
      Binds P s supplied ∧ ∃ v, s.get "spec_version" = .str v ∧ Go.isSupportedSpec v = true) := by
  obtain ⟨hOwn, ⟨signature, sig, hSig, hSigDecode⟩, publicKey, pub, hKey, hKeyDecode⟩ :=
    pythonAccepts_signed hSign h supplied
  have hDigest : Go.sha256Hex G = Python.sha256Hex P := by
    funext data
    simp only [Go.sha256Hex, Python.sha256Hex, Crypto.sha256Hex, hHash, hHash']
  have hBoth : (pythonRules P).Accepts env supplied ↔ (pythonRules P).Accepts s supplied :=
    ⟨pythonAccepts_congr hPython hNorm, pythonAccepts_congr hPython hNorm.symm⟩
  -- Whatever Go accepts has a known version and a hash.
  have known (hGoAccepts : (goRules G).Accepts env supplied) : Binds P s supplied ∧
      ∃ v, s.get "spec_version" = .str v ∧ Go.isSupportedSpec v = true := by
    obtain ⟨v, hVersion, hKnown⟩ := hGoAccepts.version
    obtain ⟨hash, hStored, -, hBound⟩ := hGoAccepts.payload
    refine ⟨⟨hash, Json.get_str_of_norm_eq hNorm.symm hStored, ?_⟩, v,
      Json.get_str_of_norm_eq hNorm.symm hVersion, hKnown⟩
    rwa [← hDigest]
  have accepted (hBinds : Binds P s supplied)
      (hVersion : ∃ v, s.get "spec_version" = .str v ∧ Go.isSupportedSpec v = true) :
      (typeScriptRules T).Accepts env supplied := by
    obtain ⟨v, hVersion, hKnown⟩ := hVersion
    have hPlain := not_legacy_of_supported ((isSupportedSpec_eq v).symm.trans hKnown)
    refine (typeScript_iff_python hJcs hHash' hPythonVerify).mpr ⟨hBoth.mpr (hOwn.mpr ⟨hBinds, v,
      hVersion, ?_⟩), ⟨v, Json.get_str_of_norm_eq hNorm hVersion, hPlain⟩,
      ⟨signature, sig, Json.get_str_of_norm_eq hNorm hSig, hSigDecode⟩, publicKey, pub,
      Json.get_str_of_norm_eq hNorm hKey, hKeyDecode⟩
    rw [specVersionSupported_python hPlain, ← isSupportedSpec_eq, hKnown]
  rw [verifyEnvelope_ok_iff, verify_envelope_ok_iff, goAccepts_iff hNormal hParsed]
  refine ⟨hBoth.trans hOwn, ⟨fun hAccepts => ?_, fun hKnown => accepted hKnown.1 hKnown.2⟩,
    and_congr (forall₂_congr fun text _ => TypeScript.wellFormed_iff_utf16 text)
      ⟨known, fun hKnown => ?_⟩⟩
  · exact known ((typeScript_iff_go hGo hHash hGoVerify).mp hAccepts).1
  · exact ((typeScript_iff_go hGo hHash hGoVerify).mp (accepted hKnown.1 hKnown.2)).1

end Texts

section Sample

open Reference

variable {S : Signatures}

theorem signsFromSeed (S : Signatures) : SignsFromSeed (go S) := by
  intro seed message hSeed
  have hDrop : (seed ++ publicKeyOf S seed).drop 32 = publicKeyOf S seed := List.drop_left' hSeed
  simp only [go, crypto]
  rw [hDrop]

theorem goJcsReads : GoJcsReads (go S) := by
  intro members bytes _ hBytes
  have hCanonical := canonicalJSON_go (S := S) (.obj members)
  rw [hBytes] at hCanonical
  obtain ⟨text, hText, rfl⟩ := Option.map_eq_some_iff.mp hCanonical.symm
  obtain ⟨d, hDocument, hLiterals⟩ := exists_document hText
  refine ⟨⟨d, hDocument, fun s hs => wellFormed_of_canonicalText hText (hLiterals ▸ hs)⟩,
    sortMembers (orderMembers members), ?_, norm_order (.obj members)⟩
  have hParse := goParse_text hText
  rw [order] at hParse
  simp [go, hParse]

abbrev signingTable : Signatures :=
  signedWith [(0x338806cc75949ecc78e9ed2a89ff4643ba603d5d1c630ab9a7faf5e7d70abb90,
    0x1f2f41a10a4329167fbf8769a1f306e422298c1ddedd2eaf9a7f2b73fdb2663017e2bc21539233712a3193369ccf915158bc1752f348d0de4e84b5c6dba8df05)]

abbrev signingGo : Go.Runtime := go signingTable

theorem go_signed_on_kernels_sample : ∃ bytes,
    Go.signEnvelope signingGo (some Python.sampleUnsigned)
      (Python.sampleKey.seed ++ signingGo.crypto.ed25519PublicKey Python.sampleKey.seed) = .ok bytes ∧
    GoAccepts signingGo bytes none := by
  obtain ⟨bytes, hSigned, -⟩ := exists_of_returns (show returns (Go.signEnvelope signingGo
    (some Python.sampleUnsigned) (Python.sampleKey.seed ++
      signingGo.crypto.ed25519PublicKey Python.sampleKey.seed)) (fun _ => true) = true
    by decide +kernel)
  have hStrings : ∀ s ∈ strings (.obj Python.sampleUnsigned), WellFormed s := by
    intro s hs
    apply wellFormed_of_isAscii
    revert s
    decide
  have hAll := go_signed_on_kernels (ed25519Correct _) (signsFromSeed _) goJcsReads goJcsNormal
    goJcsAgrees jcsAgree rfl rfl Python.sampleKey.length_seed hStrings hSigned
  obtain ⟨payload, payloadBytes, -, -, hAccepts⟩ := hAll.1
  exact ⟨bytes, hSigned, (hAccepts none).mpr ⟨⟨utf16 "ario.agent/v1", rfl, by decide⟩, by simp⟩⟩

theorem python_signed_on_kernels_sample : ∃ (s : Json) (d : Syntax.Document),
    Python.signEnvelope Python.signingRuntime (.obj Python.sampleUnsigned) Python.sampleKey = .ok s ∧
    GoAccepts signingGo d.bytes none := by
  obtain ⟨s, hSigned, hShape⟩ := exists_of_returns (show returns (Python.signEnvelope
    Python.signingRuntime (.obj Python.sampleUnsigned) Python.sampleKey)
    (fun s => s.isObj && (canonicalText s).isSome && (s.get "payload_hash").str?.isSome &&
      (s.get "spec_version").str? = some (utf16 "ario.agent/v1")) = true by decide +kernel)
  simp only [Bool.and_eq_true, decide_eq_true_eq] at hShape
  obtain ⟨⟨⟨hObj, hSome⟩, hHash⟩, hVersion⟩ := hShape
  obtain ⟨hash, hHash⟩ := Option.isSome_iff_exists.mp hHash
  obtain ⟨text, hText⟩ := Option.isSome_iff_exists.mp hSome
  obtain ⟨d, hBytes, hLiterals⟩ := exists_document hText
  have hParsed : ParsedAlike signingGo (typeScript signingTable) Python.signingRuntime d (order s) :=
    parsedAlike hObj hText hBytes hLiterals
  have hAll := python_signed_on_kernels (ed25519Correct _) jcsNormal goJcsAgrees goJcsNormal jcsAgree rfl
    rfl hSigned (norm_order s) hParsed (fun _ _ _ _ _ _ _ _ _ => rfl)
    (fun _ _ _ _ _ _ _ _ _ => rfl) none none
  refine ⟨s, d, hSigned, hAll.2.2.mpr ⟨fun literal hLiteral => ?_,
    ⟨hash, Json.str?_eq_some.mp hHash, by simp⟩, _, Json.str?_eq_some.mp hVersion, by decide⟩⟩
  rw [← TypeScript.wellFormed_iff_utf16]
  exact wellFormed_of_canonicalText hText (hLiterals ▸ hLiteral)

end Sample
end ArioProof.CrossKernel
