import ArioProof.Python.AnchorTrace
import ArioProof.Python.SignedScope

/-! `bundle.py`: the inclusion proof of a single leaf under a signed checkpoint. -/
namespace ArioProof.Python

open Foundation MerkleTree

variable (R : Runtime)

def bundleSpecVersion : String := "ario.agent.proof/v1"

structure BundleVerificationResult where
  ok : Bool
  specVersionOk : Bool
  envelope : Option VerificationResult
  inclusionOk : Bool
  errors : List Str
  deriving DecidableEq, Repr

/-- `_fail`: a proof that is not accepted, with what was already known of its
version and its envelope. -/
def failBundle (errors : List Str) (specVersionOk : Bool) (envelope : Option VerificationResult) :
    BundleVerificationResult where
  ok := false
  specVersionOk := specVersionOk
  envelope := envelope
  inclusionOk := false
  errors := errors

/-- `bytes.fromhex` of any value, absent where it raises: on everything that is no
string, and on text that is not hex. -/
def fromhex? (v : Json) : Option Bytes := v.str?.bind Hex.fromhex

/-- The `try` block around the operands of the walk: the root, the siblings and
the index, absent where it raises. -/
def proofOperands (payload bundle : Json) : Option (Bytes × List Bytes × Int) := do
  let expectedRoot ← fromhex? (payload.get "merkle_root")
  let siblings ← (iterate (bundle.get "audit_path")).toOption
  let path ← siblings.mapM fromhex?
  if expectedRoot.length ≠ 32 ∨ path.any (fun h => h.length ≠ 32) then none
  else
    match bundle.get "leaf_index" with
    | .int leafIndex => some (expectedRoot, path, leafIndex)
    | _ => none

/-- Steps 2 to 4: the leaf, walked up to the root in the payload. -/
def checkProof (bundle : Json) (envResult : VerificationResult) : BundleVerificationResult :=
  let errors := envResult.errors ++
    (if envResult.ok then [] else [utf16 "checkpoint envelope verification failed"])
  let fail (error : Str) := failBundle (errors ++ [error]) true (some envResult)
  match canonicalJson R (bundle.get "leaf") with
  | .error _ => fail "leaf is not JCS-canonicalizable"
  | .ok canonical =>
      let payload := (bundle.get "checkpoint_envelope").get "payload"
      if !payload.isObj then fail "checkpoint envelope payload missing or wrong shape"
      else
        match payload.get "leaf_count" with
        | .int leafCount =>
            match proofOperands payload bundle with
            | none => fail "merkle_root / audit_path / leaf_index malformed"
            | some (expectedRoot, path, leafIndex) =>
                let inclusionOk :=
                  verifyInclusion R (leafHash R canonical) leafIndex leafCount path expectedRoot
                { ok := envResult.ok && inclusionOk
                  specVersionOk := true
                  envelope := some envResult
                  inclusionOk := inclusionOk
                  errors := errors ++ (if inclusionOk then [] else
                    [utf16 "audit_path does not reconstruct merkle_root"]) }
        | _ => fail "checkpoint payload.leaf_count missing or wrong type"

/-- `verify_proof_bundle`: nothing it is given makes it raise. Shape and version
come first, then the envelope and the walk. -/
def verifyProofBundle (bundle : Json) : BundleVerificationResult :=
  if !bundle.isObj then failBundle ["bundle is not a JSON object"] false none
  else if exceedsDepth bundle maxCanonicalDepth then
    failBundle ["bundle nesting exceeds the 128-level canonicalization depth bound"] false none
  else if (bundle.get "spec_version").str? ≠ some (utf16 bundleSpecVersion) then
    failBundle [fstring ["unsupported bundle spec_version: ", R.repr (bundle.get "spec_version")]]
      false none
  else if !(bundle.get "checkpoint_envelope").isObj then
    failBundle ["bundle missing checkpoint_envelope"] true none
  else if !(bundle.get "leaf").isObj then failBundle ["bundle missing leaf"] true none
  else if ((bundle.get "checkpoint_tx_id").str?.getD []).isEmpty then
    failBundle ["bundle missing checkpoint_tx_id"] true none
  else
    checkProof R bundle (verifyEnvelope R (bundle.get "checkpoint_envelope") none none false)

/-- The shape of a bundle that the walk is reached with. -/
structure ProofShape (bundle : Json) : Prop where
  isObj : bundle.isObj = true
  depth : bundle.depth ≤ maxCanonicalDepth
  specVersion : bundle.get "spec_version" = .str bundleSpecVersion
  envelope : (bundle.get "checkpoint_envelope").isObj = true
  leaf : (bundle.get "leaf").isObj = true
  txId : ∃ txId, bundle.get "checkpoint_tx_id" = .str txId ∧ txId ≠ []

/-- An accepted walk with everything it was computed from: the canonical leaf, the
committed count, and the operands as they were decoded. -/
structure ProofWalk (bundle : Json) (canonical root : Bytes) (path : List Bytes)
    (index count : Int) : Prop where
  leaf : canonicalJson R (bundle.get "leaf") = .ok canonical
  count_eq : ((bundle.get "checkpoint_envelope").get "payload").get "leaf_count" = .int count
  operands : proofOperands ((bundle.get "checkpoint_envelope").get "payload") bundle =
    some (root, path, index)
  walk : verifyInclusion R (leafHash R canonical) index count path root = true

section Spec

variable {R} {bundle : Json}

theorem checkProof_ok_iff {envResult : VerificationResult} :
    (checkProof R bundle envResult).ok = true ↔
      envResult.ok = true ∧ ∃ canonical root path index count,
        ProofWalk R bundle canonical root path index count := by
  unfold checkProof
  constructor
  · intro h
    cases hLeaf : canonicalJson R (bundle.get "leaf") with
    | error exc => simp [hLeaf, failBundle] at h
    | ok canonical =>
        simp only [hLeaf] at h
        split at h
        · simp [failBundle] at h
        · split at h
          · rename_i count hCount
            cases hOperands : proofOperands
                ((bundle.get "checkpoint_envelope").get "payload") bundle with
            | none => simp [hOperands, failBundle] at h
            | some operands =>
                obtain ⟨root, path, index⟩ := operands
                simp only [hOperands, Bool.and_eq_true] at h
                exact ⟨h.1, canonical, root, path, index, count, hLeaf, hCount, hOperands, h.2⟩
          · simp [failBundle] at h
  · rintro ⟨hOk, canonical, root, path, index, count, hWalk⟩
    have hPayload := Json.isObj_of_get hWalk.count_eq (by simp)
    simp [hWalk.leaf, hWalk.count_eq, hWalk.operands, hWalk.walk, hPayload, hOk]

/-- The exact set of bundles that are accepted. -/
theorem verifyProofBundle_ok_iff : (verifyProofBundle R bundle).ok = true ↔
    ProofShape bundle ∧
      (verifyEnvelope R (bundle.get "checkpoint_envelope") none none false).ok = true ∧
      ∃ canonical root path index count, ProofWalk R bundle canonical root path index count := by
  unfold verifyProofBundle
  constructor
  · intro h
    split_ifs at h with hObj hDeep hVersion hEnvelope hLeaf hTxId
    all_goals try simp [failBundle] at h
    simp only [ne_eq, not_not, Json.str?_eq_some] at hVersion
    refine ⟨⟨by simpa using hObj, ?_, hVersion, by simpa using hEnvelope, by simpa using hLeaf, ?_⟩,
      checkProof_ok_iff.mp h⟩
    · rw [exceedsDepth_iff] at hDeep
      omega
    · cases hText : bundle.get "checkpoint_tx_id" with
      | str txId => exact ⟨txId, rfl, by simpa [hText, Json.str?] using hTxId⟩
      | _ => simp [hText, Json.str?] at hTxId
  · rintro ⟨hShape, hOk, hWalk⟩
    obtain ⟨txId, hTxId, hNonempty⟩ := hShape.txId
    have hDepth : exceedsDepth bundle maxCanonicalDepth = false := by
      rw [exceedsDepth_eq_false_iff]
      exact hShape.depth
    have hVersion : (bundle.get "spec_version").str? = some (utf16 bundleSpecVersion) := by
      rw [hShape.specVersion]
      rfl
    have hPresent : ((bundle.get "checkpoint_tx_id").str?.getD []).isEmpty = false := by
      simpa [hTxId, Json.str?] using hNonempty
    rw [hShape.isObj, hDepth, hVersion, hShape.envelope, hShape.leaf, hPresent]
    exact checkProof_ok_iff.mpr ⟨hOk, hWalk⟩

/-- The operands that are walked with are the members, decoded. -/
theorem proofOperands_eq_some {payload : Json} {root : Bytes} {path : List Bytes} {index : Int}
    (h : proofOperands payload bundle = some (root, path, index)) :
    fromhex? (payload.get "merkle_root") = some root ∧ root.length = 32 ∧
      bundle.get "leaf_index" = .int index := by
  unfold proofOperands at h
  simp only [Option.bind_eq_bind, Option.bind_eq_some_iff] at h
  obtain ⟨expectedRoot, hRoot, siblings, -, path', -, h⟩ := h
  split_ifs at h with hLengths
  split at h
  · rename_i leafIndex hIndex
    cases h
    push Not at hLengths
    exact ⟨hRoot, hLengths.1, hIndex⟩
  · cases h

/-- What an accepted envelope says of an inline payload. -/
theorem payloadHashOk_of_ok {env : Json} (h : (verifyEnvelope R env none none false).ok = true)
    (hPayload : (env.get? "payload").isSome) :
    (verifyEnvelope R env none none false).payloadHashOk = some true := by
  obtain ⟨hObj, -⟩ := verifyEnvelope_ok h
  obtain ⟨payload, hPayload⟩ := Option.isSome_iff_exists.mp hPayload
  simp only [verifyEnvelope, hObj] at h ⊢
  simp only [Bool.not_true, Bool.false_eq_true, if_false, Bool.and_eq_true, bne_iff_ne, ne_eq] at h ⊢
  have hNotFalse := h.2
  revert hNotFalse
  unfold checkPayload payloadChecks
  rw [hPayload]
  cases (env.get "payload_hash").str? with
  | none => simp
  | some storedHash => cases hCanonical : canonicalJson R payload <;> simp [hCanonical]

/-- Soundness with the position, for every bundle: the leaf is the entry at its
index in the list that the signed checkpoint commits to. The collision would be
among the messages that the walk and the root over the data hash. -/
theorem verified_proof_sound (bundle : Json) (h : (verifyProofBundle R bundle).ok = true) :
    (verifyEnvelope R (bundle.get "checkpoint_envelope") none none false).ok = true ∧
    (verifyEnvelope R (bundle.get "checkpoint_envelope") none none false).payloadHashOk =
      some true ∧
    ∃ message payload rootText root canonical path, ∃ count index : Int,
      canonicalJson R (envelopeForSignature (bundle.get "checkpoint_envelope")) = .ok message ∧
      (envelopeForSignature (bundle.get "checkpoint_envelope")).get? "payload" = some payload ∧
      payload.get "merkle_root" = .str rootText ∧ Hex.fromhex rootText = some root ∧
      payload.get "leaf_count" = .int count ∧ bundle.get "leaf_index" = .int index ∧
      canonicalJson R (bundle.get "leaf") = .ok canonical ∧ 0 ≤ index ∧
      ∀ data : List Bytes, (data.length : Int) = count →
        merkleRoot R (data.map (leafHash R)) = root →
          data[index.toNat]? = some canonical ∨ R.crypto.sha256.CollisionIn
            (rootMessages R data canonical
              ((Rfc9162.counterSides index.toNat (count - 1).toNat).zip path)) := by
  obtain ⟨hShape, hOk, canonical, root, path, index, count, hWalk⟩ := verifyProofBundle_ok_iff.mp h
  obtain ⟨hRoot, -, hIndex⟩ := proofOperands_eq_some hWalk.operands
  generalize hPayload : (bundle.get "checkpoint_envelope").get "payload" = payload at *
  have hCount := hWalk.count_eq
  rw [hPayload] at hCount
  have hInline : (bundle.get "checkpoint_envelope").get? "payload" = some payload := by
    apply Json.get?_of_get hPayload
    rintro rfl
    simp [Json.get, Json.get?] at hCount
  have hScope : (envelopeForSignature (bundle.get "checkpoint_envelope")).get? "payload" =
      some payload := by
    rw [Json.get?_eq_member?, member?_envelopeForSignature, ← Json.get?_eq_member?, hInline]
    have hPlain : (utf16 "_").isPrefixOf (utf16 "payload") = false := by decide
    have hField : (unsignedFields.map utf16).contains (utf16 "payload") = false := by decide
    rw [isSigned, hField, hPlain, Bool.and_false]
    rfl
  obtain ⟨message, hMessage, -⟩ := checkSignature_iff.mp
    (verifyEnvelope_signatureOk (verifyEnvelope_ok hOk).2)
  obtain ⟨rootText, hRootText, hRootHex⟩ := Option.bind_eq_some_iff.mp hRoot
  rw [Json.str?_eq_some] at hRootText
  refine ⟨hOk, payloadHashOk_of_ok hOk (by rw [hInline]; rfl), message, payload, rootText, root,
    canonical, path, count, index, hMessage, hScope, hRootText, hRootHex, hCount, hIndex,
    hWalk.leaf, ?_, ?_⟩
  · exact ((verifyInclusion_iff R _ _ _ _ _).mp hWalk.walk).1
  · rintro data rfl hData
    exact getElem?_of_verifyInclusion hWalk.walk hData

end Spec

section Sample

open Reference

def sampleProofSigned : Nat × Nat :=
  (0xe75e146519d3c9423e67388ada8d7346adecb7b28204e44e69ed37b1f137e6ac,
    0x45e26beb0273d6f474d17d1a6fb41c3fc9d01fa74a6e5686c8d0af44d0096d52176a7c2df0c4e717e4b422285cf46e458cef8826c25c435ec8a1531abd97c60a)

/-- A checkpoint over two leaves. -/
def sampleProofEnvelope : Json :=
  .object [("spec_version", .str "ario.agent/v1"),
    ("payload", .object [("leaf_count", .int 2), ("merkle_root",
      hexText 32 0x4651f942024f3a9038856b04334d8445f72c79000e54f5f91ad23ff1c22d772d)]),
    ("payload_hash", hexText 32 0x1e77acbcea2f4bfd2374b22b327412ecc3088ad46909bb88ef4e46586ebc763c),
    ("public_key", hexText 32 publicKey), ("signature", hexText 64 sampleProofSigned.2)]

/-- A proof of its second leaf. -/
def sampleProof (specVersion : String) (auditPath : Json) : Json :=
  .object [("spec_version", .str specVersion), ("checkpoint_envelope", sampleProofEnvelope),
    ("checkpoint_tx_id", .str "tx1"), ("leaf", .object [("path", .str "b")]),
    ("leaf_index", .int 1), ("audit_path", auditPath)]

def sampleAuditPath : Json :=
  .arr [hexText 32 0x604d27386987daed48ef28b9500072fa53feb57ae6dd96fd0c5ece3d3f6c373a]

abbrev proofRuntime : Runtime := python (signedWith [sampleProofSigned])

/-- Of any two leaves under the committed root, the second is the one presented. -/
theorem verified_proof_sound_sample :
    (verifyProofBundle proofRuntime (sampleProof bundleSpecVersion sampleAuditPath)).ok = true ∧
    (verifyEnvelope proofRuntime sampleProofEnvelope none none false).payloadHashOk = some true ∧
    ∃ canonical path,
      canonicalJson proofRuntime (.object [("path", .str "b")]) = .ok canonical ∧
      ∀ data : List Bytes, data.length = 2 →
        merkleRoot proofRuntime (data.map (leafHash proofRuntime)) =
            octets 32 0x4651f942024f3a9038856b04334d8445f72c79000e54f5f91ad23ff1c22d772d →
          data[1]? = some canonical ∨ proofRuntime.crypto.sha256.CollisionIn
            (rootMessages proofRuntime data canonical ((Rfc9162.counterSides 1 1).zip path)) := by
  have hOk : (verifyProofBundle proofRuntime (sampleProof bundleSpecVersion sampleAuditPath)).ok =
      true := by decide +kernel
  have hBundle : (sampleProof bundleSpecVersion sampleAuditPath).get "checkpoint_envelope" =
        sampleProofEnvelope ∧
      (sampleProof bundleSpecVersion sampleAuditPath).get "leaf" = .object [("path", .str "b")] ∧
      (sampleProof bundleSpecVersion sampleAuditPath).get "leaf_index" = .int 1 := by
    simp [sampleProof, Json.get, List.lookup_cons]
  obtain ⟨-, hPayloadHash, message, payload, rootText, root, canonical, path, count, index, -, hScope,
    hRootText, hRoot, hCount, hIndex, hLeaf, -, hPosition⟩ := verified_proof_sound _ hOk
  rw [hBundle.1] at hPayloadHash hScope
  rw [hBundle.2.1] at hLeaf
  obtain rfl := Json.int.inj (hBundle.2.2.symm.trans hIndex)
  have hPayload : (envelopeForSignature sampleProofEnvelope).get? "payload" =
      some (.object [("leaf_count", .int 2), ("merkle_root",
        hexText 32 0x4651f942024f3a9038856b04334d8445f72c79000e54f5f91ad23ff1c22d772d)]) := rfl
  obtain rfl := Option.some.inj (hPayload.symm.trans hScope)
  obtain rfl : 2 = count := by simpa [Json.get, List.lookup_cons] using hCount
  obtain rfl : Hex.encode (octets 32
      0x4651f942024f3a9038856b04334d8445f72c79000e54f5f91ad23ff1c22d772d) = rootText := by
    simpa [Json.get, List.lookup_cons, hexText] using hRootText
  rw [Hex.fromhex_encode, Option.some.injEq] at hRoot
  subst hRoot
  exact ⟨hOk, hPayloadHash, canonical, path, hLeaf, fun data hLength hTree =>
    hPosition data (by rw [hLength]; rfl) hTree⟩

end Sample
end ArioProof.Python
