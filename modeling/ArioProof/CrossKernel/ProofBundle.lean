import ArioProof.CrossKernel.Envelope
import ArioProof.CrossKernel.Merkle
import ArioProof.TypeScript.AgentOnChain

/-! The inclusion proof of an agent in both kernels. Each one reads a proof in a
bundle by rules of its own: Python pins the types and the lengths of what it
walks with, TypeScript takes strict hex in an array and counts with numbers. A
proof that leads to its root in one reading need not have the form of the other. -/
namespace ArioProof.CrossKernel

open Foundation MerkleTree

/-- The payload of the checkpoint envelope, which commits to the root and to the
number of leaves. -/
def proofPayload (b : Json) : Json := (b.get "checkpoint_envelope").get "payload"

/-- What both kernels ask before they look at a proof. -/
structure Opened (P : Python.Runtime) (b : Json) : Prop where
  isObj : b.isObj = true
  depth : b.depth ≤ maxCanonicalDepth
  envelope : (Python.verifyEnvelope P (b.get "checkpoint_envelope") none none false).ok = true

section Readings

/-- The root, the siblings and their sides that Python reads in a bundle: exact
version, integers, hex of 32 bytes in anything that can be iterated over. -/
structure PythonReading (b : Json) (root : Bytes) (path : List Bytes) (sides : List Side) :
    Prop where
  specVersion : b.get "spec_version" = .str Python.bundleSpecVersion
  leaf : (b.get "leaf").isObj = true
  txId : ∃ txId, b.get "checkpoint_tx_id" = .str txId ∧ txId ≠ []
  root_eq : Python.fromhex? ((proofPayload b).get "merkle_root") = some root
  rootLength : root.length = 32
  path_eq : ∃ items, Python.iterate (b.get "audit_path") = .ok items ∧
    items.mapM Python.fromhex? = some path
  pathLengths : ∀ sibling ∈ path, sibling.length = 32
  sides_eq : ∃ index count : Int, b.get "leaf_index" = .int index ∧
    (proofPayload b).get "leaf_count" = .int count ∧ 0 ≤ index ∧ index < count ∧
    sides = Rfc9162.counterSides index.toNat (count - 1).toNat

/-- The same as TypeScript reads it: a dotted version, numbers of any kind,
strict hex of any length in an array, in which an empty array passes for no
bytes. The sides are those that the numbers spell as 32-bit integers. -/
structure TypeScriptReading (b : Json) (root : Bytes) (path : List Bytes) (sides : List Side) :
    Prop where
  specVersion : TypeScript.isAgentProofSpec (b.get "spec_version") = true
  leaf : TypeScript.isObjectLike (b.get "leaf") = true
  root_eq : ∃ s, (proofPayload b).get "merkle_root" = .str s ∧ Hex.strictHex s = some root
  path_eq : ∃ items, b.get "audit_path" = .arr items ∧ items.mapM TypeScript.hexBytes? = some path
  sides_eq : ∃ index count, TypeScript.number? (b.get "leaf_index") = some index ∧
    TypeScript.number? ((proofPayload b).get "leaf_count") = some count ∧
    TypeScript.InTree index count ∧
    TypeScript.wordSides index (count.sub (.finite 1)) path.length = some sides

/-- In one of the readings the leaf has a canonical form, and the siblings lead
from it to the root. -/
def GenuineIn (reading : Bytes → List Bytes → List Side → Prop) (P : Python.Runtime) (b : Json) :
    Prop :=
  ∃ canonical root path sides, Python.canonicalJson P (b.get "leaf") = .ok canonical ∧
    reading root path sides ∧
    Leads P.crypto.sha256 (Python.leafHash P canonical) sides path root

/-- The proof is genuine, read by the rules of either language. -/
def Genuine (P : Python.Runtime) (b : Json) : Prop :=
  GenuineIn (PythonReading b) P b ∨ GenuineIn (TypeScriptReading b) P b

/-- Rounded to doubles, the index and the count of a large tree are still those
of a leaf in it, and the sides that they spell lead from the leaf to the hash
that the exact integers lead to. The numbers alone do not decide this: next to a
sibling that equals the hash it is combined with, either side is the right one. -/
def RoundedAlike {width : Nat} (H : HashFunction width) (leaf : Bytes) (path : List Bytes)
    (index count : Int) : Prop :=
  TypeScript.InTree (.ofRat index) (.ofRat count) ∧
    path.length = (Rfc9162.counterSides index.toNat (count - 1).toNat).length ∧
    ∃ sides, TypeScript.wordSides (.ofRat index) ((Double.ofRat count).sub (.finite 1))
        path.length = some sides ∧
      climb H leaf (sides.zip path) =
        climb H leaf ((Rfc9162.counterSides index.toNat (count - 1).toNat).zip path)

/-- The form that both kernels ask for: what Python pins, encoded as TypeScript
insists, at a position where the two count alike. From `2 ^ 53` leaves on
TypeScript counts with rounded numbers. -/
structure CommonForm (P : Python.Runtime) (b : Json) : Prop where
  specVersion : b.get "spec_version" = .str Python.bundleSpecVersion
  leaf : (b.get "leaf").isObj = true
  txId : ∃ txId, b.get "checkpoint_tx_id" = .str txId ∧ txId ≠ []
  root : ∃ s root, (proofPayload b).get "merkle_root" = .str s ∧ Hex.strictHex s = some root ∧
    root.length = 32
  auditPath : ∃ items, b.get "audit_path" = .arr items ∧ ∀ item ∈ items, ∃ s sibling,
    item = .str s ∧ Hex.strictHex s = some sibling ∧ sibling.length = 32
  counts : ∃ index count : Int, b.get "leaf_index" = .int index ∧
    (proofPayload b).get "leaf_count" = .int count ∧ 0 ≤ index ∧ index < count ∧
    (count < 2 ^ 53 → CountsAlike index count) ∧
    (2 ^ 53 ≤ count → ∀ canonical items path, b.get "audit_path" = .arr items →
      items.mapM TypeScript.hexBytes? = some path →
      Python.canonicalJson P (b.get "leaf") = .ok canonical →
      RoundedAlike P.crypto.sha256 (Python.leafHash P canonical) path index count)

end Readings

variable {P : Python.Runtime} {T : TypeScript.Runtime} {b : Json}

section Accepted

theorem verifyInclusion_leads_iff {leaf : Bytes} {index count : Int} {path : List Bytes}
    {root : Bytes} : Python.verifyInclusion P leaf index count path root = true ↔
      0 ≤ index ∧ index < count ∧
        Leads P.crypto.sha256 leaf (Rfc9162.counterSides index.toNat (count - 1).toNat) path root := by
  rw [Python.verifyInclusion_iff]
  constructor
  · rintro ⟨hFrom, hTo, hLength, hClimb⟩
    exact ⟨hFrom, hTo, hLength, hClimb⟩
  · rintro ⟨hFrom, hTo, hLeads⟩
    exact ⟨hFrom, hTo, hLeads.length_eq, hLeads.climb_eq⟩

theorem proofOperands_iff {root : Bytes} {path : List Bytes} {index : Int} :
    Python.proofOperands (proofPayload b) b = some (root, path, index) ↔
      Python.fromhex? ((proofPayload b).get "merkle_root") = some root ∧
      (∃ items, Python.iterate (b.get "audit_path") = .ok items ∧
        items.mapM Python.fromhex? = some path) ∧
      root.length = 32 ∧ (∀ sibling ∈ path, sibling.length = 32) ∧
      b.get "leaf_index" = .int index := by
  have hLengths (r : Bytes) (p : List Bytes) :
      (r.length ≠ 32 ∨ p.any (fun h => h.length ≠ 32) = true) ↔
        ¬(r.length = 32 ∧ ∀ sibling ∈ p, sibling.length = 32) := by
    simp only [List.any_eq_true, decide_eq_true_eq, not_and_or, not_forall, exists_prop]
  unfold Python.proofOperands
  simp only [Option.bind_eq_bind, Option.bind_eq_some_iff, toOption_eq_some]
  constructor
  · rintro ⟨expectedRoot, hRoot, items, hItems, siblings, hSiblings, h⟩
    split_ifs at h with hSizes
    rw [hLengths, not_not] at hSizes
    cases hIndex : b.get "leaf_index" with
    | int own =>
        rw [hIndex] at h
        cases h
        exact ⟨hRoot, ⟨items, hItems, hSiblings⟩, hSizes.1, hSizes.2, rfl⟩
    | _ => simp [hIndex] at h
  · rintro ⟨hRoot, ⟨items, hItems, hSiblings⟩, hRootLength, hPathLengths, hIndex⟩
    refine ⟨root, hRoot, items, hItems, path, hSiblings, ?_⟩
    rw [if_neg fun hSizes => (hLengths root path).mp hSizes ⟨hRootLength, hPathLengths⟩, hIndex]

/-- Python accepts what is genuine as it reads it. -/
theorem python_ok_iff :
    (Python.verifyProofBundle P b).ok = true ↔ Opened P b ∧ GenuineIn (PythonReading b) P b := by
  rw [Python.verifyProofBundle_ok_iff]
  constructor
  · rintro ⟨hShape, hOk, canonical, root, path, index, count, hWalk⟩
    refine ⟨⟨hShape.isObj, hShape.depth, hOk⟩, canonical, root, path,
      Rfc9162.counterSides index.toNat (count - 1).toNat, hWalk.leaf, ?_, ?_⟩
    · obtain ⟨hRoot, hPath, hRootLength, hPathLengths, hIndex⟩ := proofOperands_iff.mp hWalk.operands
      obtain ⟨hFrom, hTo, -⟩ := verifyInclusion_leads_iff.mp hWalk.walk
      exact ⟨hShape.specVersion, hShape.leaf, hShape.txId, hRoot, hRootLength, hPath, hPathLengths,
        index, count, hIndex, hWalk.count_eq, hFrom, hTo, rfl⟩
    · exact (verifyInclusion_leads_iff.mp hWalk.walk).2.2
  · rintro ⟨hOpened, canonical, root, path, sides, hLeaf, hReading, hLeads⟩
    have hEnvelope : (b.get "checkpoint_envelope").isObj = true := by
      by_contra hNot
      have hOk := hOpened.envelope
      rw [Python.verifyEnvelope, Bool.eq_false_iff.mpr hNot] at hOk
      cases hOk
    obtain ⟨index, count, hIndex, hCount, hFrom, hTo, rfl⟩ := hReading.sides_eq
    refine ⟨⟨hOpened.isObj, hOpened.depth, hReading.specVersion, hEnvelope, hReading.leaf,
      hReading.txId⟩, hOpened.envelope, canonical, root, path, index, count, hLeaf, hCount, ?_, ?_⟩
    · exact proofOperands_iff.mpr ⟨hReading.root_eq, hReading.path_eq, hReading.rootLength,
        hReading.pathLengths, hIndex⟩
    · exact verifyInclusion_leads_iff.mpr ⟨hFrom, hTo, hLeads⟩

/-- An envelope that verifies and has a payload binds it. -/
theorem payloadHashOk_typeScript {env : Json}
    (h : (TypeScript.verifyEnvelope T (some env) none none).ok = true)
    (hPayload : (env.get? "payload").isSome) :
    (TypeScript.verifyEnvelope T (some env) none none).payloadHashOk = some true := by
  obtain ⟨payload, hPayload⟩ := Option.isSome_iff_exists.mp hPayload
  cases hObj : env.isObj with
  | false =>
      simp [TypeScript.verifyEnvelope, hObj] at h
  | true =>
      simp only [TypeScript.verifyEnvelope, Option.getD_some, hObj, Bool.not_true,
        Bool.false_eq_true, if_false, Bool.and_eq_true, bne_iff_ne, ne_eq] at h ⊢
      have hNotFalse := h.2
      revert hNotFalse
      unfold TypeScript.checkPayload TypeScript.checkInline TypeScript.checkExternal
      rw [hPayload]
      cases env.get "payload_hash" with
      | str storedHash =>
          cases hCanonical : TypeScript.jcs T (some payload) <;> simp [hCanonical]
      | _ => simp

theorem complaint_eq_none_iff : TypeScript.agentProofComplaint T b = none ↔
    b.isObj = true ∧ b.depth ≤ maxCanonicalDepth ∧
      TypeScript.isAgentProofSpec (b.get "spec_version") = true ∧
      TypeScript.isObjectLike (b.get "checkpoint_envelope") = true ∧
      TypeScript.isObjectLike (b.get "leaf") = true ∧ (b.get "audit_path").isArr = true := by
  unfold TypeScript.agentProofComplaint
  rw [← exceedsDepth_eq_false_iff]
  cases b.isObj <;> cases exceedsDepth b maxCanonicalDepth <;>
    cases TypeScript.isAgentProofSpec (b.get "spec_version") <;>
    cases TypeScript.isObjectLike (b.get "checkpoint_envelope") <;>
    cases TypeScript.isObjectLike (b.get "leaf") <;> cases (b.get "audit_path").isArr <;> simp

theorem checkLeaf_iff : (TypeScript.checkLeaf T b).1 = true ↔
    ∃ rootText, TypeScript.committedRoot b = some rootText ∧
      (TypeScript.committedCount b).isSome = true ∧ TypeScript.walkLeaf T b rootText = .ok true := by
  unfold TypeScript.checkLeaf
  cases TypeScript.committedRoot b with
  | none => simp
  | some rootText =>
      cases TypeScript.committedCount b with
      | none => simp
      | some count =>
          cases hWalk : TypeScript.walkLeaf T b rootText with
          | error text => simp [hWalk]
          | ok outcome => cases outcome <;> simp [hWalk]

/-- What TypeScript walks with, in the words of its run. -/
structure TypeScriptProof (T : TypeScript.Runtime) (b : Json) : Prop where
  specVersion : TypeScript.isAgentProofSpec (b.get "spec_version") = true
  leaf : TypeScript.isObjectLike (b.get "leaf") = true
  auditPath : (b.get "audit_path").isArr = true
  walk : ∃ rootText, TypeScript.committedRoot b = some rootText ∧
    (TypeScript.committedCount b).isSome = true ∧ TypeScript.walkLeaf T b rootText = .ok true

/-- The run of TypeScript without a gateway: it is verified exactly when the
shape, the envelope and the walk are. -/
theorem typeScript_verified_iff : (∃ result, TypeScript.verifyAgentProofBundle T b .offline =
      .ok result ∧ result.status = .verified) ↔
    (b.isObj = true ∧ b.depth ≤ maxCanonicalDepth ∧
      (TypeScript.verifyEnvelope T (b.get? "checkpoint_envelope") none none).ok = true) ∧
      TypeScriptProof T b := by
  cases hComplaint : TypeScript.agentProofComplaint T b with
  | some complaint =>
      refine iff_of_false ?_ ?_
      · rintro ⟨result, hRun, hStatus⟩
        simp only [TypeScript.verifyAgentProofBundle, hComplaint, Except.ok.injEq] at hRun
        rw [← hRun] at hStatus
        cases hStatus
      · rintro ⟨⟨hObj, hDepth, hOk⟩, hProof⟩
        have hEnvelope : TypeScript.isObjectLike (b.get "checkpoint_envelope") = true := by
          obtain ⟨rootText, hRoot, -⟩ := hProof.walk
          have hPayload := Json.isObj_of_get (Json.str?_eq_some.mp hRoot) (by simp)
          have hObject : (b.get "checkpoint_envelope").isObj = true := by
            by_contra hNot
            rw [Json.get_of_not_isObj (Bool.eq_false_iff.mpr hNot)] at hPayload
            cases hPayload
          rw [TypeScript.isObjectLike, hObject, Bool.true_or]
        have hNone := (complaint_eq_none_iff (T := T)).mpr
          ⟨hObj, hDepth, hProof.specVersion, hEnvelope, hProof.leaf, hProof.auditPath⟩
        rw [hComplaint] at hNone
        cases hNone
  | none =>
      obtain ⟨hObj, hDepth, hSpec, -, hLeaf, hPath⟩ := complaint_eq_none_iff.mp hComplaint
      have hRun : ∃ result, TypeScript.verifyAgentProofBundle T b .offline = .ok result := by
        unfold TypeScript.verifyAgentProofBundle
        rw [hComplaint]
        exact ⟨_, rfl⟩
      obtain ⟨result, hRun⟩ := hRun
      have hVerified := TypeScript.verified_offline_iff hComplaint hRun
      simp only [hRun, Except.ok.injEq, exists_eq_left', hVerified]
      rw [checkLeaf_iff, TypeScript.checkCheckpointEnvelope]
      simp only [Bool.and_eq_true, decide_eq_true_eq]
      constructor
      · rintro ⟨⟨hOk, -⟩, hWalk⟩
        exact ⟨⟨hObj, hDepth, hOk⟩, hSpec, hLeaf, hPath, hWalk⟩
      · rintro ⟨⟨-, -, hOk⟩, hProof⟩
        obtain ⟨rootText, hRoot, hWalk⟩ := hProof.walk
        refine ⟨⟨hOk, ?_⟩, rootText, hRoot, hWalk⟩
        have hPayload := Json.isObj_of_get (Json.str?_eq_some.mp hRoot) (by simp)
        have hEnvelope : b.get? "checkpoint_envelope" = some (b.get "checkpoint_envelope") := by
          refine Json.get?_of_get rfl fun hNull => ?_
          rw [hNull] at hPayload
          cases hPayload
        rw [hEnvelope] at hOk ⊢
        refine payloadHashOk_typeScript hOk ?_
        rw [Json.get?_of_get rfl fun hNull => by rw [hNull] at hPayload; cases hPayload]
        rfl

end Accepted

section Agreement

variable (hJcs : JcsAgree P T) (hHash : T.crypto.sha256 = P.crypto.sha256)
include hJcs hHash

/-- What TypeScript walks to the end is genuine as it reads it. -/
theorem typeScriptProof_iff :
    TypeScriptProof T b ↔ GenuineIn (TypeScriptReading b) P b := by
  have hLeafHash (canonical : Bytes) :
      TypeScript.leafHash T canonical = Python.leafHash P canonical := by
    rw [TypeScript.leafHash, Python.leafHash, hHash]
  have hSiblings {items : List Json} {path : List Bytes} :
      (items.mapM fun h => TypeScript.hexToBytes T (some h)) = .ok path ↔
        items.mapM TypeScript.hexBytes? = some path :=
    mapM_eq_ok_iff fun _ _ => TypeScript.hexToBytes_iff
  have hMember (hLeaf : TypeScript.isObjectLike (b.get "leaf") = true) :
      b.get? "leaf" = some (b.get "leaf") := by
    refine Json.get?_of_get rfl fun hNull => ?_
    rw [hNull] at hLeaf
    cases hLeaf
  constructor
  · intro h
    obtain ⟨rootText, hRoot, hCount, hWalk⟩ := h.walk
    obtain ⟨text, hText, hWalk⟩ := bind_eq_ok.mp hWalk
    obtain ⟨path, hPath, hWalk⟩ := bind_eq_ok.mp hWalk
    obtain ⟨root, hRootOk, hWalk⟩ := bind_eq_ok.mp hWalk
    obtain ⟨index, hIndex, total, sides, hTotal, hIn, hSides, hClimb⟩ :=
      TypeScript.verifyInclusion_iff.mp hWalk
    obtain ⟨count, hCount⟩ := Option.isSome_iff_exists.mp hCount
    obtain ⟨items, hItems⟩ : ∃ items, b.get "audit_path" = .arr items := by
      have hArr := h.auditPath
      cases hCase : b.get "audit_path" with
      | arr items => exact ⟨items, rfl⟩
      | _ => rw [hCase] at hArr; cases hArr
    rw [Json.listAt, hItems] at hPath
    rw [TypeScript.number?_get] at hIndex
    rw [TypeScript.toNumber_of_number? hCount, Except.ok.injEq] at hTotal
    subst hTotal
    refine ⟨utf8 text, root, path, sides, ?_, ⟨h.specVersion, h.leaf, ⟨rootText, ?_, ?_⟩,
      ⟨items, hItems, hSiblings.mp hPath⟩, index, count, hIndex, hCount, hIn, hSides⟩, ?_⟩
    · rw [hJcs.canonical_ok_iff, ← hMember h.leaf, hText]
      rfl
    · exact Json.str?_eq_some.mp hRoot
    · exact TypeScript.hexToBytes_eq_ok.mp hRootOk
    · rw [hHash, hLeafHash] at hClimb
      exact ⟨(TypeScript.length_wordSides hSides).symm, hClimb⟩
  · rintro ⟨canonical, root, path, sides, hCanonical, hReading, hLeads⟩
    obtain ⟨rootText, hRootText, hRoot⟩ := hReading.root_eq
    obtain ⟨items, hItems, hPath⟩ := hReading.path_eq
    obtain ⟨index, count, hIndex, hCount, hIn, hSides⟩ := hReading.sides_eq
    have hSame := (hJcs.canonical_ok_iff _ _).mp hCanonical
    rw [← hMember hReading.leaf] at hSame
    refine ⟨hReading.specVersion, hReading.leaf, by rw [hItems]; rfl, rootText,
      Json.str?_eq_some.mpr hRootText, Option.isSome_iff_exists.mpr ⟨count, hCount⟩, ?_⟩
    cases hText : TypeScript.jcs T (b.get? "leaf") with
    | error text =>
        rw [hText] at hSame
        cases hSame
    | ok text =>
        rw [hText] at hSame
        have hBytes : utf8 text = canonical := Except.ok.inj hSame
        refine bind_eq_ok.mpr ⟨text, hText, bind_eq_ok.mpr ⟨path, ?_, bind_eq_ok.mpr ⟨root, ?_, ?_⟩⟩⟩
        · rw [Json.listAt, hItems]
          exact hSiblings.mpr hPath
        · exact TypeScript.hexToBytes_eq_ok.mpr hRoot
        · rw [TypeScript.verifyInclusion_iff, TypeScript.number?_get, hBytes, hLeafHash, hHash]
          exact ⟨index, hIndex, count, sides, TypeScript.toNumber_of_number? hCount, hIn, hSides,
            hLeads.climb_eq⟩

omit hJcs hHash

/-- Strict hex of whole digests is decoded alike. -/
theorem siblings_common {items : List Json} (hItems : ∀ item ∈ items, ∃ s sibling,
    item = .str s ∧ Hex.strictHex s = some sibling ∧ sibling.length = 32) :
    ∃ path, items.mapM Python.fromhex? = some path ∧ items.mapM TypeScript.hexBytes? = some path ∧
      ∀ sibling ∈ path, sibling.length = 32 := by
  induction items with
  | nil => exact ⟨[], rfl, rfl, by simp⟩
  | cons item rest ih =>
      obtain ⟨s, sibling, rfl, hHex, hLength⟩ := hItems item List.mem_cons_self
      obtain ⟨path, hPython, hTypeScript, hLengths⟩ :=
        ih fun other hOther => hItems other (List.mem_cons_of_mem _ hOther)
      have hFrom : Python.fromhex? (.str s) = some sibling := Hex.fromhex_of_strictHex hHex
      have hStrict : TypeScript.hexBytes? (.str s) = some sibling := hHex
      refine ⟨sibling :: path, ?_, ?_, List.forall_mem_cons.mpr ⟨hLength, hLengths⟩⟩
      · rw [List.mapM_cons, hFrom, hPython]
        rfl
      · rw [List.mapM_cons, hStrict, hTypeScript]
        rfl

/-- Siblings that both languages read are strict hex of whole digests. -/
theorem siblings_of_both {items : List Json} {path other : List Bytes}
    (hPython : items.mapM Python.fromhex? = some path)
    (hTypeScript : items.mapM TypeScript.hexBytes? = some other)
    (hLengths : ∀ sibling ∈ path, sibling.length = 32) : path = other ∧ ∀ item ∈ items,
      ∃ s sibling, item = .str s ∧ Hex.strictHex s = some sibling ∧ sibling.length = 32 := by
  induction items generalizing path other with
  | nil =>
      cases hPython
      cases hTypeScript
      exact ⟨rfl, by simp⟩
  | cons item rest ih =>
      simp only [List.mapM_cons, Option.bind_eq_bind, Option.bind_eq_some_iff, pure,
        Option.some.injEq] at hPython hTypeScript
      obtain ⟨sibling, hSibling, more, hMore, rfl⟩ := hPython
      obtain ⟨own, hOwn, others, hOthers, rfl⟩ := hTypeScript
      obtain ⟨hSame, hItems⟩ :=
        ih hMore hOthers fun other hOther => hLengths other (List.mem_cons_of_mem _ hOther)
      obtain ⟨s, hs, hHex⟩ := Option.bind_eq_some_iff.mp hSibling
      rw [Json.str?_eq_some] at hs
      subst hs
      have hStrict : Hex.strictHex s = some own := hOwn
      have hBytes : sibling = own := by
        rw [Hex.fromhex_of_strictHex hStrict, Option.some.injEq] at hHex
        exact hHex.symm
      refine ⟨by rw [hBytes, hSame], List.forall_mem_cons.mpr ⟨⟨s, own, rfl, hStrict, ?_⟩, hItems⟩⟩
      rw [← hBytes]
      exact hLengths sibling List.mem_cons_self

/-- What Python reads in a bundle is determined by it. -/
theorem PythonReading.unique {root other : Bytes} {path siblings : List Bytes}
    {sides turns : List Side} (h : PythonReading b root path sides)
    (hOther : PythonReading b other siblings turns) :
    other = root ∧ siblings = path ∧ turns = sides := by
  obtain ⟨items, hItems, hPath⟩ := h.path_eq
  obtain ⟨others, hOthers, hSiblings⟩ := hOther.path_eq
  obtain ⟨index, count, hIndex, hCount, -, -, rfl⟩ := h.sides_eq
  obtain ⟨own, total, hOwn, hTotal, -, -, rfl⟩ := hOther.sides_eq
  have hRoot := hOther.root_eq
  rw [h.root_eq, Option.some.injEq] at hRoot
  rw [hItems, Except.ok.injEq] at hOthers
  subst hOthers
  rw [hPath, Option.some.injEq] at hSiblings
  rw [hIndex, Json.int.injEq] at hOwn
  rw [hCount, Json.int.injEq] at hTotal
  exact ⟨hRoot.symm, hSiblings.symm, by rw [hOwn, hTotal]⟩

/-- A bundle of the common form with the operands that both languages read. -/
structure CommonOperands (b : Json) (root : Bytes) (path : List Bytes) (index count : Int) :
    Prop where
  python : PythonReading b root path (Rfc9162.counterSides index.toNat (count - 1).toNat)
  typeScript : ∀ other siblings sides, TypeScriptReading b other siblings sides ↔
    other = root ∧ siblings = path ∧ TypeScript.InTree (.ofRat index) (.ofRat count) ∧
      TypeScript.wordSides (.ofRat index) ((Double.ofRat count).sub (.finite 1)) path.length =
        some sides

theorem operands_of_commonForm (h : CommonForm P b) {index count : Int} {items : List Json}
    (hIndex : b.get "leaf_index" = .int index)
    (hCount : (proofPayload b).get "leaf_count" = .int count) (hFrom : 0 ≤ index)
    (hTo : index < count) (hItems : b.get "audit_path" = .arr items) :
    ∃ root path, items.mapM TypeScript.hexBytes? = some path ∧
      CommonOperands b root path index count := by
  obtain ⟨rootText, root, hRootText, hRoot, hRootLength⟩ := h.root
  obtain ⟨own, hOwn, hSiblings⟩ := h.auditPath
  rw [hItems, Json.arr.injEq] at hOwn
  subst hOwn
  obtain ⟨path, hPython, hTypeScript, hLengths⟩ := siblings_common hSiblings
  refine ⟨root, path, hTypeScript, ⟨h.specVersion, h.leaf, h.txId, ?_, hRootLength,
    ⟨items, ?_, hPython⟩, hLengths, index, count, hIndex, hCount, hFrom, hTo, rfl⟩,
    fun other siblings sides => ⟨fun hReading => ?_, ?_⟩⟩
  · rw [hRootText]
    exact Hex.fromhex_of_strictHex hRoot
  · rw [hItems]
    rfl
  · obtain ⟨otherText, hOtherText, hOther⟩ := hReading.root_eq
    rw [hRootText, Json.str.injEq] at hOtherText
    rw [← hOtherText, hRoot, Option.some.injEq] at hOther
    obtain ⟨others, hOthers, hPath⟩ := hReading.path_eq
    rw [hItems, Json.arr.injEq] at hOthers
    rw [← hOthers, hTypeScript, Option.some.injEq] at hPath
    obtain ⟨first, total, hFirst, hTotal, hIn, hSides⟩ := hReading.sides_eq
    rw [hIndex] at hFirst
    rw [hCount] at hTotal
    obtain rfl := Option.some.inj hFirst
    obtain rfl := Option.some.inj hTotal
    subst hPath
    exact ⟨hOther.symm, rfl, hIn, hSides⟩
  · rintro ⟨rfl, rfl, hIn, hSides⟩
    refine ⟨?_, ?_, ⟨rootText, hRootText, hRoot⟩, ⟨items, hItems, hTypeScript⟩, .ofRat index,
      .ofRat count, by rw [hIndex]; rfl, by rw [hCount]; rfl, hIn, hSides⟩
    · rw [h.specVersion]
      decide
    · rw [TypeScript.isObjectLike, h.leaf, Bool.true_or]

/-- On integers the walk of TypeScript is a climb along the sides that they spell. -/
theorem verifyInclusion_int_iff {leaf root : Bytes} {path : List Bytes} {index count : Int} :
    TypeScript.verifyInclusion T leaf (some (.int index)) (some (.int count)) path root = .ok true ↔
      ∃ sides, TypeScript.InTree (.ofRat index) (.ofRat count) ∧
        TypeScript.wordSides (.ofRat index) ((Double.ofRat count).sub (.finite 1)) path.length =
          some sides ∧
        climb T.crypto.sha256 leaf (sides.zip path) = root := by
  rw [TypeScript.verifyInclusion_iff]
  constructor
  · rintro ⟨own, hOwn, total, sides, hTotal, hIn, hSides, hClimb⟩
    obtain rfl := Option.some.inj hOwn
    obtain rfl := Except.ok.inj hTotal
    exact ⟨sides, hIn, hSides, hClimb⟩
  · rintro ⟨sides, hIn, hSides, hClimb⟩
    exact ⟨_, rfl, _, sides, rfl, hIn, hSides, hClimb⟩

/-- On the operands of the common form either reading is a walk. -/
theorem genuineIn_python_iff {root : Bytes} {path : List Bytes} {index count : Int}
    (h : CommonOperands b root path index count) : GenuineIn (PythonReading b) P b ↔
      ∃ canonical, Python.canonicalJson P (b.get "leaf") = .ok canonical ∧
        Leads P.crypto.sha256 (Python.leafHash P canonical)
          (Rfc9162.counterSides index.toNat (count - 1).toNat) path root := by
  constructor
  · rintro ⟨canonical, other, siblings, sides, hCanonical, hReading, hLeads⟩
    obtain ⟨rfl, rfl, rfl⟩ := h.python.unique hReading
    exact ⟨canonical, hCanonical, hLeads⟩
  · rintro ⟨canonical, hCanonical, hLeads⟩
    exact ⟨canonical, root, path, _, hCanonical, h.python, hLeads⟩

theorem genuineIn_typeScript_iff {root : Bytes} {path : List Bytes} {index count : Int}
    (h : CommonOperands b root path index count) : GenuineIn (TypeScriptReading b) P b ↔
      ∃ canonical sides, Python.canonicalJson P (b.get "leaf") = .ok canonical ∧
        TypeScript.InTree (.ofRat index) (.ofRat count) ∧
        TypeScript.wordSides (.ofRat index) ((Double.ofRat count).sub (.finite 1)) path.length =
          some sides ∧
        Leads P.crypto.sha256 (Python.leafHash P canonical) sides path root := by
  constructor
  · rintro ⟨canonical, other, siblings, sides, hCanonical, hReading, hLeads⟩
    obtain ⟨rfl, rfl, hIn, hSides⟩ := (h.typeScript _ _ _).mp hReading
    exact ⟨canonical, sides, hCanonical, hIn, hSides, hLeads⟩
  · rintro ⟨canonical, sides, hCanonical, hIn, hSides, hLeads⟩
    exact ⟨canonical, root, path, sides, hCanonical,
      (h.typeScript _ _ _).mpr ⟨rfl, rfl, hIn, hSides⟩, hLeads⟩

/-- Of the common form a proof is genuine in both readings or in neither. -/
theorem genuine_iff_of_commonForm (hHash : T.crypto.sha256 = P.crypto.sha256)
    (h : CommonForm P b) : GenuineIn (PythonReading b) P b ↔ GenuineIn (TypeScriptReading b) P b := by
  obtain ⟨index, count, hIndex, hCount, hFrom, hTo, hSmall, hLarge⟩ := h.counts
  obtain ⟨items, hItems, -⟩ := h.auditPath
  obtain ⟨root, path, hPath, hOperands⟩ :=
    operands_of_commonForm h hIndex hCount hFrom hTo hItems
  rw [genuineIn_python_iff hOperands, genuineIn_typeScript_iff hOperands]
  refine exists_congr fun canonical => ?_
  rw [exists_and_left]
  refine and_congr_right fun hCanonical => ?_
  by_cases hSize : count < 2 ^ 53
  · -- Small enough to be exact: the walks agree where the counters do.
    lift index to ℕ using hFrom
    lift count to ℕ using by omega
    have hAlike := walks_agree_of_countsAlike (P := P) (T := T) hHash (by omega) (by omega)
      (hSmall hSize) (Python.leafHash P canonical) path root
    have hWalks : TypeScript.verifyInclusion T (Python.leafHash P canonical) (some (.int index))
        (some (.int count)) path root = .ok true ↔ _ := verifyInclusion_int_iff
    rw [hAlike, Except.ok.injEq, verifyInclusion_leads_iff, hHash] at hWalks
    constructor
    · intro hLeads
      obtain ⟨sides, hIn, hSides, hClimb⟩ := hWalks.mp ⟨by omega, hTo, hLeads⟩
      exact ⟨sides, hIn, hSides, (TypeScript.length_wordSides hSides).symm, hClimb⟩
    · rintro ⟨sides, hIn, hSides, hLeads⟩
      exact (hWalks.mpr ⟨sides, hIn, hSides, hLeads.climb_eq⟩).2.2
  · obtain ⟨hIn, hLength, sides, hSides, hClimb⟩ :=
      hLarge (not_lt.mp hSize) canonical items path hItems hPath hCanonical
    constructor
    · intro hLeads
      exact ⟨sides, hIn, hSides, (TypeScript.length_wordSides hSides).symm,
        hClimb.trans hLeads.climb_eq⟩
    · rintro ⟨others, -, hOthers, hLeads⟩
      rw [hSides, Option.some.injEq] at hOthers
      subst hOthers
      exact ⟨hLength, hClimb.symm.trans hLeads.climb_eq⟩

/-- What is genuine in both readings is of the common form. -/
theorem commonForm_of_genuine (hHash : T.crypto.sha256 = P.crypto.sha256)
    (hPython : GenuineIn (PythonReading b) P b)
    (hTypeScript : GenuineIn (TypeScriptReading b) P b) : CommonForm P b := by
  obtain ⟨canonical, root, path, sides, hCanonical, hReading, hLeads⟩ := hPython
  obtain ⟨again, other, siblings, turns, hAgain, hOther, hTurns⟩ := hTypeScript
  rw [hCanonical, Except.ok.injEq] at hAgain
  subst hAgain
  obtain ⟨rootText, hRootText, hRoot⟩ := hOther.root_eq
  obtain ⟨items, hItems, hSiblings⟩ := hOther.path_eq
  obtain ⟨others, hOthers, hPath⟩ := hReading.path_eq
  rw [hItems] at hOthers
  obtain rfl := Except.ok.inj hOthers
  obtain ⟨rfl, hForm⟩ := siblings_of_both hPath hSiblings hReading.pathLengths
  have hSame : root = other := by
    have hRead := hReading.root_eq
    rw [hRootText] at hRead
    have hFrom : Python.fromhex? (.str rootText) = some other := Hex.fromhex_of_strictHex hRoot
    rw [hFrom, Option.some.injEq] at hRead
    exact hRead.symm
  subst hSame
  obtain ⟨index, count, hIndex, hCount, hFrom, hTo, rfl⟩ := hReading.sides_eq
  obtain ⟨own, total, hOwn, hTotal, hIn, hSides⟩ := hOther.sides_eq
  rw [hIndex] at hOwn
  rw [hCount] at hTotal
  obtain rfl := Option.some.inj hOwn
  obtain rfl := Option.some.inj hTotal
  refine ⟨hReading.specVersion, hReading.leaf, hReading.txId,
    ⟨rootText, root, hRootText, hRoot, hReading.rootLength⟩, ⟨items, hItems, hForm⟩,
    index, count, hIndex, hCount, hFrom, hTo, fun hSize => ?_, ?_⟩
  · lift index to ℕ using hFrom
    lift count to ℕ using by omega
    refine countsAlike_of_both (P := P) (T := T) hHash (by omega) (by omega)
      (verifyInclusion_leads_iff.mpr ⟨by omega, hTo, hLeads⟩)
      (verifyInclusion_int_iff.mpr ⟨turns, hIn, hSides, ?_⟩)
    rw [hHash]
    exact hTurns.climb_eq
  · intro _ own list siblings hList hDecoded hOwn
    rw [hCanonical, Except.ok.injEq] at hOwn
    rw [hItems, Json.arr.injEq] at hList
    subst hOwn hList
    rw [hSiblings, Option.some.injEq] at hDecoded
    subst hDecoded
    exact ⟨hIn, hLeads.length_eq, turns, hSides, hTurns.climb_eq.trans hLeads.climb_eq.symm⟩

/-- The exact extent of the agreement on agent proofs: a proof that is genuine by
the rules of one language is of the form common to both. -/
theorem agentProofs_agree_iff (b : Json) (hEnvelope :
      (TypeScript.verifyEnvelope T (b.get? "checkpoint_envelope") none none).ok =
        (Python.verifyEnvelope P (b.get "checkpoint_envelope") none none false).ok)
    (hJcs : JcsAgree P T) (hHash : T.crypto.sha256 = P.crypto.sha256) :
    ((Python.verifyProofBundle P b).ok = true ↔
      ∃ result, TypeScript.verifyAgentProofBundle T b .offline = .ok result ∧
        result.status = .verified) ↔
      (Opened P b → Genuine P b → CommonForm P b) := by
  have hOpened : (b.isObj = true ∧ b.depth ≤ maxCanonicalDepth ∧
      (TypeScript.verifyEnvelope T (b.get? "checkpoint_envelope") none none).ok = true) ↔
      Opened P b := by
    rw [hEnvelope]
    exact ⟨fun h => ⟨h.1, h.2.1, h.2.2⟩, fun h => ⟨h.isObj, h.depth, h.envelope⟩⟩
  rw [python_ok_iff, typeScript_verified_iff, typeScriptProof_iff hJcs hHash, hOpened]
  constructor
  · intro hAgree hOpen hGenuine
    have hBoth := and_congr_right_iff.mp hAgree hOpen
    cases hGenuine with
    | inl hPython => exact commonForm_of_genuine hHash hPython (hBoth.mp hPython)
    | inr hTypeScript => exact commonForm_of_genuine hHash (hBoth.mpr hTypeScript) hTypeScript
  · intro hForm
    refine and_congr_right fun hOpen => ⟨fun hPython => ?_, fun hTypeScript => ?_⟩
    · exact (genuine_iff_of_commonForm hHash (hForm hOpen (Or.inl hPython))).mp hPython
    · exact (genuine_iff_of_commonForm hHash (hForm hOpen (Or.inr hTypeScript))).mpr hTypeScript

end Agreement

section Sample

open Reference Python

/-- A proof whose major version has a minor one behind it. -/
def minorSample : Json := sampleProof "ario.agent.proof/v1.1" sampleAuditPath

theorem sampleProof_commonForm : CommonForm proofRuntime TypeScript.agentSample where
  specVersion := rfl
  leaf := rfl
  txId := ⟨"tx1", rfl, by decide⟩
  root := ⟨_, _, rfl, Hex.strictHex_encode _, length_octets 32 _⟩
  auditPath := by
    refine ⟨_, rfl, fun item hItem => ?_⟩
    rw [List.mem_singleton.mp hItem]
    exact ⟨_, _, rfl, Hex.strictHex_encode _, length_octets 32 _⟩
  counts := ⟨1, 2, rfl, rfl, by decide, by decide, fun _ => Or.inr (Or.inl (by decide)),
    fun hLarge => absurd hLarge (by decide)⟩

theorem agentProofs_agree_sample :
    (verifyProofBundle proofRuntime TypeScript.agentSample).ok = true ↔
      ∃ result, TypeScript.verifyAgentProofBundle TypeScript.agentRuntime TypeScript.agentSample
        .offline = .ok result ∧ result.status = .verified :=
  (agentProofs_agree_iff TypeScript.agentSample (by decide +kernel) jcsAgree rfl).mpr
    fun _ _ => sampleProof_commonForm

/-- The minor version is accepted by one kernel only. -/
theorem minorVersion_disagrees : ¬((verifyProofBundle proofRuntime minorSample).ok = true ↔
    ∃ result, TypeScript.verifyAgentProofBundle TypeScript.agentRuntime minorSample .offline =
      .ok result ∧ result.status = .verified) := by
  intro hAgree
  obtain ⟨result, hRun, hStatus⟩ := exists_of_returns (p := fun result => result.status = .verified)
    (by decide +kernel : returns (TypeScript.verifyAgentProofBundle TypeScript.agentRuntime
      minorSample .offline) _ = true)
  have hPython := hAgree.mpr ⟨result, hRun, by simpa using hStatus⟩
  have hRejected : (verifyProofBundle proofRuntime minorSample).ok = false := by decide +kernel
  rw [hRejected] at hPython
  cases hPython

end Sample
end ArioProof.CrossKernel
