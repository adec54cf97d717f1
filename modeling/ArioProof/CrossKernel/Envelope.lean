import ArioProof.CrossKernel.Content
import ArioProof.Python.ProofBundle

/-! The envelope verifiers of the two kernels. They differ about a value that is
no object, and about an empty content hash that is asked for. -/
namespace ArioProof.CrossKernel

open Foundation

variable {P : Python.Runtime} {T : TypeScript.Runtime}

/-- Equal in every field that both kernels report. -/
structure SameVerdict (p : Python.VerificationResult) (t : TypeScript.VerificationResult) : Prop where
  ok : p.ok = t.ok
  specVersionOk : p.specVersionOk = t.specVersionOk
  payloadHashOk : p.payloadHashOk = t.payloadHashOk
  signatureOk : p.signatureOk = t.signatureOk
  contentHashOk : p.contentHashOk = t.contentHashOk
  contentRole : p.contentRole = t.contentRole

instance (p : Python.VerificationResult) (t : TypeScript.VerificationResult) :
    Decidable (SameVerdict p t) :=
  decidable_of_iff (p.ok = t.ok ∧ p.specVersionOk = t.specVersionOk ∧
      p.payloadHashOk = t.payloadHashOk ∧ p.signatureOk = t.signatureOk ∧
      p.contentHashOk = t.contentHashOk ∧ p.contentRole = t.contentRole)
    ⟨fun ⟨hOk, hSpec, hPayload, hSignature, hContent, hRole⟩ =>
      ⟨hOk, hSpec, hPayload, hSignature, hContent, hRole⟩,
    fun h => ⟨h.ok, h.specVersionOk, h.payloadHashOk, h.signatureOk, h.contentHashOk, h.contentRole⟩⟩

/-- The two Ed25519 checks agree on the strings of an object. -/
def SignatureAgrees (P : Python.Runtime) (T : TypeScript.Runtime) (holder : Json) : Prop :=
  ∀ message s k, holder.get "signature" = .str s → holder.get "public_key" = .str k →
    Python.verifySignature P message (.str s) (.str k) =
      TypeScript.ed25519Verify T (some (.str s)) message (some (.str k))

section Signature

/-- A signature or a key that is no string never verifies in TypeScript, whatever
it is converted to. -/
theorem ed25519Verify_eq_false {signature publicKey : Option Json} (message : Bytes)
    (h : (∀ s, signature ≠ some (.str s)) ∨ ∀ k, publicKey ≠ some (.str k)) :
    TypeScript.ed25519Verify T signature message publicKey = false := by
  have hShort : ∀ v : Option Json, (∀ s, v ≠ some (.str s)) → ∀ bytes,
      TypeScript.hexToBytes T v = .ok bytes → bytes = [] := by
    intro v hv bytes hBytes
    match v with
    | none => cases hBytes
    | some .null => cases hBytes
    | some (.str s) => exact (hv s rfl).elim
    | some (.arr []) =>
        simp [TypeScript.hexToBytes, TypeScript.oddLength, bind, Except.bind, pure, Except.pure] at hBytes
        exact hBytes
    | some (.arr (item :: items)) | some (.bool _) | some (.int _) | some (.float _)
    | some (.obj _) =>
        simp only [TypeScript.hexToBytes] at hBytes
        obtain ⟨odd, -, hBytes⟩ := bind_eq_ok.mp hBytes
        cases odd
        · obtain ⟨text, -, hBytes⟩ := bind_eq_ok.mp hBytes
          cases hBytes
        · cases hBytes
  unfold TypeScript.ed25519Verify
  cases hSignature : TypeScript.hexToBytes T signature with
  | error text => rfl
  | ok signatureBytes =>
      cases hKey : TypeScript.hexToBytes T publicKey with
      | error text => rfl
      | ok keyBytes =>
          rcases h with hNot | hNot
          · rw [hShort signature hNot signatureBytes hSignature]
            rfl
          · rw [hShort publicKey hNot keyBytes hKey]
            simp

theorem verifySignature_eq_false {signature publicKey : Json} (message : Bytes)
    (h : (∀ s, signature ≠ .str s) ∨ ∀ k, publicKey ≠ .str k) :
    Python.verifySignature P message signature publicKey = false := by
  have hNone : ∀ v : Json, (∀ s, v ≠ .str s) → v.str? = none := by
    intro v hv
    cases v with
    | str s => exact (hv s rfl).elim
    | _ => rfl
  unfold Python.verifySignature
  rcases h with hNot | hNot
  · rw [hNone signature hNot]
    rfl
  · rw [hNone publicKey hNot]
    cases signature.str?.bind Hex.fromhex <;> rfl

/-- A member is missing, a string, or something that does not verify. -/
theorem signature_agree {holder : Json} (hAgrees : SignatureAgrees P T holder) (message : Bytes) :
    Python.verifySignature P message ((holder.get? "signature").getD (.str []))
        ((holder.get? "public_key").getD (.str [])) =
      TypeScript.ed25519Verify T (holder.get? "signature") message (holder.get? "public_key") := by
  by_cases hStrings : (∃ s, holder.get? "signature" = some (.str s)) ∧
      ∃ k, holder.get? "public_key" = some (.str k)
  · obtain ⟨⟨s, hs⟩, k, hk⟩ := hStrings
    rw [hs, hk]
    exact hAgrees message s k (by rw [Json.get, hs]; rfl) (by rw [Json.get, hk]; rfl)
  · rw [not_and_or, not_exists, not_exists] at hStrings
    rw [ed25519Verify_eq_false message hStrings]
    -- A missing member reads as the empty string, which is too short.
    have hEmpty : ∀ v w : Json, (v = .str [] ∨ w = .str []) →
        Python.verifySignature P message v w = false := by
      rintro v w (rfl | rfl)
      · unfold Python.verifySignature
        cases w.str?.bind Hex.fromhex <;> rfl
      · unfold Python.verifySignature
        cases v.str?.bind Hex.fromhex with
        | none => rfl
        | some bytes => simp [Json.str?, Hex.fromhex]
    rcases hStrings with hNot | hNot
    · cases hSignature : holder.get? "signature" with
      | none => exact hEmpty _ _ (Or.inl rfl)
      | some v =>
          refine verifySignature_eq_false message (Or.inl fun s hs => hNot s ?_)
          rw [hSignature]
          exact congrArg some hs
    · cases hKey : holder.get? "public_key" with
      | none => exact hEmpty _ _ (Or.inr rfl)
      | some v =>
          refine verifySignature_eq_false message (Or.inr fun k hk => hNot k ?_)
          rw [hKey]
          exact congrArg some hk

/-- Where no legacy field is stripped, the signed scopes are one. -/
theorem envelopeForSignature_eq {env : Json} (hPlain : Python.stripsAnnotations env = false) :
    Python.envelopeForSignature env = TypeScript.envelopeForSig env := by
  cases env with
  | obj members => simp [Python.envelopeForSignature, TypeScript.envelopeForSig, hPlain]
  | _ => rfl

theorem checkSignature_agree {env : Json} (hJcs : JcsAgree P T)
    (hPlain : Python.stripsAnnotations env = false) (hAgrees : SignatureAgrees P T env) :
    Python.checkSignature P env = (TypeScript.checkSignature T env).1 := by
  have hSame := hJcs.canonical (Python.envelopeForSignature env)
  rw [envelopeForSignature_eq hPlain] at hSame
  unfold Python.checkSignature TypeScript.checkSignature
  rw [envelopeForSignature_eq hPlain]
  cases hP : Python.canonicalJson P (TypeScript.envelopeForSig env) with
  | error exc =>
      cases hT : TypeScript.jcs T (some (TypeScript.envelopeForSig env)) with
      | error text => rfl
      | ok canonical => simp [hP, hT, Except.map, Except.toOption] at hSame
  | ok message =>
      cases hT : TypeScript.jcs T (some (TypeScript.envelopeForSig env)) with
      | error text => simp [hP, hT, Except.map, Except.toOption] at hSame
      | ok canonical =>
          simp only [hP, hT, Except.map, Except.toOption, Option.some.injEq] at hSame
          simp only
          rw [← hSame]
          exact signature_agree hAgrees message

end Signature

section Payload

theorem payloadChecks_agree (env : Json) (payloadBytes : Option Bytes) (storedHash : Str)
    (hJcs : JcsAgree P T) (hHash : T.crypto.sha256 = P.crypto.sha256) :
    (Python.payloadChecks P env payloadBytes storedHash).1 =
      (TypeScript.checkInline T env storedHash).1 ++
        (TypeScript.checkExternal T payloadBytes storedHash).1 := by
  have hDigest : ∀ data, TypeScript.sha256Hex T data = Python.sha256Hex P data := fun data => by
    simp only [TypeScript.sha256Hex, Python.sha256Hex, Crypto.sha256Hex, hHash]
  have hSupplied : (TypeScript.checkExternal T payloadBytes storedHash).1 =
      (payloadBytes.map fun bytes => decide (Python.sha256Hex P bytes = storedHash)).toList := by
    unfold TypeScript.checkExternal
    cases payloadBytes <;> simp [hDigest]
  unfold Python.payloadChecks TypeScript.checkInline
  rw [hSupplied]
  cases env.get? "payload" with
  | none => cases payloadBytes <;> rfl
  | some payload =>
      have hSame := hJcs.canonical payload
      simp only
      cases hP : Python.canonicalJson P payload with
      | error exc =>
          cases hT : TypeScript.jcs T (some payload) with
          | error text => cases payloadBytes <;> rfl
          | ok canonical => simp [hP, hT, Except.map, Except.toOption] at hSame
      | ok bytes =>
          cases hT : TypeScript.jcs T (some payload) with
          | error text => simp [hP, hT, Except.map, Except.toOption] at hSame
          | ok canonical =>
              simp only [hP, hT, Except.map, Except.toOption, Option.some.injEq] at hSame
              simp only [hSame, hDigest]
              cases payloadBytes <;> rfl

theorem checkPayload_agree (env : Json) (payloadBytes : Option Bytes) (hJcs : JcsAgree P T)
    (hHash : T.crypto.sha256 = P.crypto.sha256) :
    (Python.checkPayload P env payloadBytes).1 = (TypeScript.checkPayload T env payloadBytes).1 := by
  unfold Python.checkPayload TypeScript.checkPayload
  cases env.get "payload_hash" with
  | str storedHash =>
      simp only [Json.str?, payloadChecks_agree env payloadBytes storedHash hJcs hHash]
  | _ => rfl

end Payload

section Content

/-- An empty content hash is asked for, and the envelope has one. -/
def AsksForEmpty (env : Json) (expected : Str) : Prop :=
  expected = [] ∧ [] ∈ (ownHashes env).map Prod.snd

/-- The two languages fold the hashes of an envelope and the expected one alike:
up to the first hash that is folded to the same text as the expected one, both
or neither do so. -/
def FoldedAlike (P : Python.Runtime) (T : TypeScript.Runtime) (env : Json) (expected : Str) : Prop :=
  ∀ before h after, (ownHashes env).map Prod.snd = before ++ h :: after →
    (∀ other ∈ before, Python.lower P other ≠ Python.lower P expected) →
    (Python.lower P h = Python.lower P expected ↔
      TypeScript.toLowerCase T h = TypeScript.toLowerCase T expected)

/-- ASCII text, hexadecimal digits above all, is folded alike. -/
theorem foldedAlike_of_isAscii {env : Json} {expected : Str} (hExpected : isAscii expected = true)
    (hHashes : ∀ h ∈ (ownHashes env).map Prod.snd, isAscii h = true) :
    FoldedAlike P T env expected := by
  intro before h after hSplit _
  have hAscii : isAscii h = true := by
    apply hHashes
    rw [hSplit]
    simp
  rw [Python.lower, Python.lower, TypeScript.toLowerCase, TypeScript.toLowerCase,
    P.folding.ascii h hAscii, P.folding.ascii expected hExpected, T.folding.ascii h hAscii,
    T.folding.ascii expected hExpected]

/-- An envelope holds no two hashes in one role. -/
theorem nodup_ownHashes (env : Json) : ((ownHashes env).map Prod.fst).Nodup := by
  have hHolders : ((hashHolders env).map Prod.fst).Nodup := by
    unfold hashHolders
    simp only
    split_ifs <;> simp
  have hSublist : List.Sublist ((ownHashes env).map Prod.fst) ((hashHolders env).map Prod.fst) := by
    unfold ownHashes
    induction hashHolders env with
    | nil => exact List.Sublist.refl _
    | cons entry rest ih =>
        obtain ⟨role, holder⟩ := entry
        rw [List.flatMap_cons, List.map_append, List.map_cons]
        cases hHash : (holder.get "hash").str? with
        | none => simpa [hHash] using ih.cons role
        | some h => simpa [hHash] using ih.cons_cons role
  exact hHolders.sublist hSublist

theorem find?_filter_of_imp {α : Type} {p q : α → Bool} {xs : List α}
    (h : ∀ x ∈ xs, p x = true → q x = true) : (xs.filter q).find? p = xs.find? p := by
  induction xs with
  | nil => rfl
  | cons x rest ih =>
      have hRest := ih fun y hy => h y (List.mem_cons_of_mem x hy)
      cases hp : p x with
      | true => simp [h x List.mem_cons_self hp, hp]
      | false => cases hq : q x <;> simp [hp, hq, hRest]

/-- The role whose hash TypeScript finds. It drops the empty hash, which only
the empty one could match. -/
theorem find?_typeScript {env : Json} {expected : Str} (hAsks : ¬AsksForEmpty env expected) :
    ((TypeScript.contentHashes env).find? fun c =>
      decide (TypeScript.toLowerCase T c.2 = TypeScript.toLowerCase T expected)) =
    (ownHashes env).find? fun c =>
      decide (TypeScript.toLowerCase T c.2 = TypeScript.toLowerCase T expected) := by
  rw [contentHashes_typeScript]
  refine find?_filter_of_imp fun c hc hSameCase => ?_
  cases hHash : c.2 with
  | cons unit rest => rfl
  | nil =>
      refine (hAsks ⟨?_, List.mem_map.mpr ⟨c, hc, hHash⟩⟩).elim
      rw [hHash] at hSameCase
      have hNil : T.folding.lower [] = [] := T.folding.lower_eq_nil_iff.mpr rfl
      have hFolds : T.folding.lower [] = T.folding.lower expected := of_decide_eq_true hSameCase
      exact T.folding.lower_eq_nil_iff.mp (hFolds.symm.trans hNil)

/-- An empty hash that is asked for is found by Python alone. -/
theorem checkContent_of_asksForEmpty {env : Json} {expected : Str} (hAsks : AsksForEmpty env expected) :
    (Python.checkContent P env (some expected)).1 = some true ∧
      (TypeScript.checkContent T env (some expected)).1 = some false := by
  obtain ⟨rfl, hMem⟩ := hAsks
  obtain ⟨entry, hEntry, hEmpty⟩ := List.mem_map.mp hMem
  have hFound : ((ownHashes env).find? fun entry =>
      decide (Python.lower P entry.2 = Python.lower P [])).isSome = true := by
    rw [List.find?_isSome]
    exact ⟨entry, hEntry, by rw [hEmpty]; simp⟩
  have hNone : (((ownHashes env).filter fun c => !c.2.isEmpty).find? fun c =>
      decide (TypeScript.toLowerCase T c.2 = TypeScript.toLowerCase T [])) = none := by
    rw [List.find?_eq_none]
    intro c hc hSameCase
    have hFolds : T.folding.lower c.2 = T.folding.lower [] := of_decide_eq_true hSameCase
    rw [T.folding.lower_eq_nil_iff.mpr rfl] at hFolds
    have hNe := (List.mem_filter.mp hc).2
    rw [T.folding.lower_eq_nil_iff.mp hFolds] at hNe
    cases hNe
  obtain ⟨found, hSome⟩ := Option.isSome_iff_exists.mp hFound
  unfold Python.checkContent TypeScript.checkContent
  rw [contentHashes_python, contentHashes_typeScript]
  simp only
  rw [hSome, hNone]
  exact ⟨rfl, rfl⟩

theorem checkContent_agree_iff (env : Json) (expected : Option Str) :
    ((Python.checkContent P env expected).1 = (TypeScript.checkContent T env expected).1 ∧
      (Python.checkContent P env expected).2.1 = (TypeScript.checkContent T env expected).2.1) ↔
    ∀ x, expected = some x → ¬AsksForEmpty env x ∧ FoldedAlike P T env x := by
  cases expected with
  | none => exact iff_of_true ⟨rfl, rfl⟩ fun x hx => by cases hx
  | some expected =>
      by_cases hAsks : AsksForEmpty env expected
      · obtain ⟨hPython, hTypeScript⟩ := checkContent_of_asksForEmpty (P := P) (T := T) hAsks
        refine iff_of_false ?_ fun h => (h expected rfl).1 hAsks
        rw [hPython, hTypeScript]
        rintro ⟨hSame, -⟩
        cases hSame
      · -- Both search one list, whose entries differ by their roles.
        have hSearch := AssocList.find?_agree_iff (nodup_ownHashes env)
          (p := fun c => decide (Python.lower P c.2 = Python.lower P expected))
          (q := fun c => decide (TypeScript.toLowerCase T c.2 = TypeScript.toLowerCase T expected))
        have hFolded : FoldedAlike P T env expected ↔ ∀ before entry after,
            ownHashes env = before ++ entry :: after →
            (∀ other ∈ before, decide (Python.lower P other.2 = Python.lower P expected) = false) →
            decide (Python.lower P entry.2 = Python.lower P expected) =
              decide (TypeScript.toLowerCase T entry.2 = TypeScript.toLowerCase T expected) := by
          constructor
          · intro h before entry after hSplit hBefore
            rw [decide_eq_decide]
            refine h (before.map Prod.snd) entry.2 (after.map Prod.snd) ?_ ?_
            · rw [hSplit, List.map_append, List.map_cons]
            · intro other hOther
              obtain ⟨own, hOwn, rfl⟩ := List.mem_map.mp hOther
              exact of_decide_eq_false (hBefore own hOwn)
          · intro h before entry after hSplit hBefore
            obtain ⟨ownBefore, ownRest, hOwn, rfl, hRest⟩ := List.map_eq_append_iff.mp hSplit
            obtain ⟨own, ownAfter, rfl, rfl, -⟩ := List.map_eq_cons_iff.mp hRest
            rw [← decide_eq_decide]
            refine h ownBefore own ownAfter hOwn fun other hOther => ?_
            exact decide_eq_false (hBefore other.2 (List.mem_map_of_mem hOther))
        rw [show (∀ x, some expected = some x → ¬AsksForEmpty env x ∧ FoldedAlike P T env x) ↔
          FoldedAlike P T env expected by simp [hAsks], hFolded, ← hSearch]
        unfold Python.checkContent TypeScript.checkContent
        simp only
        rw [contentHashes_python, find?_typeScript hAsks]
        cases (ownHashes env).find? fun c =>
            decide (Python.lower P c.2 = Python.lower P expected) with
        | none =>
            cases (ownHashes env).find? fun c =>
              decide (TypeScript.toLowerCase T c.2 = TypeScript.toLowerCase T expected) <;> simp
        | some entry =>
            cases (ownHashes env).find? fun c =>
              decide (TypeScript.toLowerCase T c.2 = TypeScript.toLowerCase T expected) <;> simp

end Content

/-- A string that names no legacy version is supported by both kernels or by
neither. -/
theorem specVersion_agree {env : Json} {s : Str} (hSpec : env.get "spec_version" = .str s)
    (hPlain : matchesMajor s "ario.mlflow/v1" = false) :
    (Python.checkSpecVersion P env false).1 =
      TypeScript.specVersionSupported (env.get "spec_version") := by
  have hEmpty : matchesMajor [] "ario.agent/v1" = false ∧ matchesMajor [] "ario.events/v1" = false := by
    decide
  unfold Python.checkSpecVersion
  rw [hSpec]
  simp only [Python.specVersionSupported, Python.acceptedSpecVersions,
    TypeScript.specVersionSupported, TypeScript.acceptedSpecMajors, List.any_cons, List.any_nil,
    hPlain, Bool.false_or, Bool.or_false]
  cases s with
  | nil => simp [hEmpty]
  | cons c rest => simp

/-- On an object that names no legacy version the kernels give one verdict,
unless an empty content hash is asked for, or the two languages fold the case
of a hash differently; on any other value they never do. -/
theorem envelopes_agree_iff (env : Json) (payloadBytes : Option Bytes) (expected : Option Str)
    (hJcs : JcsAgree P T) (hHash : T.crypto.sha256 = P.crypto.sha256)
    (hSignature : SignatureAgrees P T env)
    (hSpec : env.isObj = true →
      ∃ s, env.get "spec_version" = .str s ∧ matchesMajor s "ario.mlflow/v1" = false) :
    SameVerdict (Python.verifyEnvelope P env payloadBytes expected false)
        (TypeScript.verifyEnvelope T (some env) payloadBytes expected) ↔
      env.isObj = true ∧
        ∀ x, expected = some x → ¬AsksForEmpty env x ∧ FoldedAlike P T env x := by
  cases hObj : env.isObj with
  | false =>
      refine iff_of_false (fun hSame => ?_) (by simp)
      have hPayload := hSame.payloadHashOk
      simp [Python.verifyEnvelope, TypeScript.verifyEnvelope, hObj] at hPayload
  | true =>
      obtain ⟨s, hs, hPlain⟩ := hSpec hObj
      have hSpecOk := specVersion_agree (P := P) hs hPlain
      have hPayload := checkPayload_agree env payloadBytes hJcs hHash
      have hSigned := checkSignature_agree hJcs
        (by rw [Python.stripsAnnotations, hs]; exact hPlain) hSignature
      rw [← checkContent_agree_iff env expected]
      unfold Python.verifyEnvelope TypeScript.verifyEnvelope
      simp only [hObj, Option.getD_some, Bool.not_true, Bool.false_eq_true, if_false]
      constructor
      · intro hSame
        exact ⟨trivial, hSame.contentHashOk, hSame.contentRole⟩
      · rintro ⟨-, hOk, hRole⟩
        exact ⟨by simp only [hSpecOk, hPayload, hSigned], hSpecOk, hPayload, hSigned, hOk, hRole⟩

section Sample

open Reference

variable {S : Signatures}

/-- Encoded strings are decoded alike, so that signatures and keys that were
written as hex verify in both kernels or in neither. -/
theorem signatureAgrees_encode {holder : Json} {signature publicKey : Bytes}
    (hCrypto : T.crypto = P.crypto)
    (hSignature : holder.get "signature" = .str (Hex.encode signature))
    (hKey : holder.get "public_key" = .str (Hex.encode publicKey)) : SignatureAgrees P T holder := by
  intro message s k hs hk
  rw [hSignature, Json.str.injEq] at hs
  rw [hKey, Json.str.injEq] at hk
  subst hs hk
  have hBytes : ∀ bytes, TypeScript.hexToBytes T (some (.str (Hex.encode bytes))) = .ok bytes := by
    intro bytes
    simp [TypeScript.hexToBytes, TypeScript.oddLength, bind, Except.bind, pure, Except.pure]
  simp only [Python.verifySignature, TypeScript.ed25519Verify, hBytes, hCrypto, Json.str?,
    Option.bind_some, Hex.fromhex_encode]

def tamperedSigned : Nat × Nat :=
  (0x502f5b4a6fc212fd479113604600163a9964a5f3431a027911ae972adb25670d,
    0x5058b97d2e10983e0caa48523d8a01d9546e0d86bcf28779dfa18442ed7ee04903dbbdfdc0dbb7fccec31fb9f5e1399288f76dd2450c63d0a36a54fbfd66430f)

/-- A signed finding of tampering. Its two hashes are hexadecimal, the one of the
baseline in capitals. -/
def tamperedEnvelope : Json :=
  .object [("spec_version", .str "ario.agent/v1"), ("event_type", .str "tamper_detected"),
    ("payload", .object [
      ("baseline", .object [("hash",
        .str "CA978112CA1BBDCAFAC231B39A23DC4DA786EFF8147C4E72B9807785AFEE48BB")]),
      ("observed", .object [("hash",
        hexText 32 0x3e23e8160039594a33894f6564e1b1348bbd7a0088d42c4acb73eeaed59c009d)])]),
    ("payload_hash", hexText 32 0x16e51cff673ea6ffcec00e0a48a2beaa70199012b525ba3369e401d4c050abea),
    ("public_key", hexText 32 publicKey), ("signature", hexText 64 tamperedSigned.2)]

/-- The hash of its baseline as a caller writes it. -/
def baselineHash : Str :=
  Hex.encode (octets 32 0xca978112ca1bbdcafac231b39a23dc4da786eff8147c4e72b9807785afee48bb)

theorem envelopes_agree_sample :
    SameVerdict
      (Python.verifyEnvelope (python (signedWith [tamperedSigned])) tamperedEnvelope none
        (some baselineHash) false)
      (TypeScript.verifyEnvelope (typeScript (signedWith [tamperedSigned])) (some tamperedEnvelope)
        none (some baselineHash)) ∧
    (Python.verifyEnvelope (python (signedWith [tamperedSigned])) tamperedEnvelope none
      (some baselineHash) false).ok = true ∧
    (Python.verifyEnvelope (python (signedWith [tamperedSigned])) tamperedEnvelope none
      (some baselineHash) false).contentRole = some .baseline := by
  refine ⟨?_, by decide +kernel, by decide +kernel⟩
  refine (envelopes_agree_iff tamperedEnvelope none (some baselineHash) jcsAgree rfl
    (signatureAgrees_encode rfl (by rfl) (by rfl))
    (fun _ => ⟨"ario.agent/v1", by rfl, by decide⟩)).mpr ⟨rfl, ?_⟩
  rintro x ⟨⟩
  have hHashes : (ownHashes tamperedEnvelope).map Prod.snd = [
      Hex.encode (octets 32 0x3e23e8160039594a33894f6564e1b1348bbd7a0088d42c4acb73eeaed59c009d),
      "CA978112CA1BBDCAFAC231B39A23DC4DA786EFF8147C4E72B9807785AFEE48BB"] := by
    decide +kernel
  constructor
  · intro hAsks
    have hExpected : baselineHash = [] := hAsks.1
    revert hExpected
    decide +kernel
  · refine foldedAlike_of_isAscii (Hex.isAscii_encode _) ?_
    rw [hHashes]
    decide +kernel

/-- Null is no envelope, and the kernels report its payload differently. -/
theorem null_envelope_disagrees : ¬SameVerdict
    (Python.verifyEnvelope (python (signedWith [])) .null none none false)
    (TypeScript.verifyEnvelope (typeScript (signedWith [])) (some .null) none none) := by
  intro hSame
  have hPayload := hSame.payloadHashOk
  cases hPayload

end Sample
end ArioProof.CrossKernel
