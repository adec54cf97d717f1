import ArioProof.Evidence.BundleRun
import ArioProof.Foundation.Outcome
import ArioProof.Reference.Bundle
import ArioProof.TypeScript.AttestationRun
import ArioProof.TypeScript.Surrogates

/-! `compose.ts`: the composer of an evidence export, and the verdict that
`evidence.ts` recomputes for it. A record is embedded with its signature in
lowercase hex, whichever of two encodings its issuer wrote it in; the text alone
has to tell which. -/
namespace ArioProof.TypeScript

open Foundation

variable (R : Runtime)

section Clone

/-- A number as the double it is; what is no number in JSON is written as null. -/
def cloneNumber (own : Json) : Double → Json
  | .finite q =>
      match own with
      | .int n => if q = n then own else .float (.finite q)
      | _ => own
  | _ => .null

mutual

/-- `JSON.parse(JSON.stringify(v))`, which rounds numbers and keeps texts and the
order of members. -/
def clone : Json → Json
  | .int n => cloneNumber (.int n) (Double.ofRat n)
  | .float d => cloneNumber (.float d) d
  | .arr items => .arr (cloneItems items)
  | .obj members => .obj (cloneMembers members)
  | v => v

def cloneItems : List Json → List Json
  | [] => []
  | v :: rest => clone v :: cloneItems rest

def cloneMembers : List (Str × Json) → List (Str × Json)
  | [] => []
  | (key, v) :: rest => (key, clone v) :: cloneMembers rest

end

end Clone

section Compose

/-- An even number of hex digits, of either case, and not none. -/
def looksLikeHex (s : Str) : Bool :=
  0 < s.length && s.length % 2 = 0 && s.all fun c => (Hex.digit? c).isSome

/-- The signature of a record as hex. Text that looks like hex is taken for it,
and any other for base64url. -/
def attestationSignatureToHex (signature : Str) : Except Str Str :=
  if looksLikeHex signature then .ok (toLowerCase R signature)
  else (base64UrlToBytes signature).map Hex.encode

/-- A record as it is embedded: a clone whose signature is hex. What has no text
for a signature is refused. -/
def normalizeAttestation (rec : Json) : Except Str Json :=
  match clone rec with
  | .null => .error (noMember (some .null) "signature")
  | cloned =>
      match cloned.get "signature" with
      | .str signature => do
          let hex ← attestationSignatureToHex R signature
          return cloned.set "signature" (.str hex)
      | _ => .error "attestation record missing a string `signature`"

/-- The verdict that a composer displays, beside the results it was computed
from. -/
structure ComposeVerdictResult where
  verdict : Json
  sourceStatus : Status
  status : Status
  attestations : List AttestationResult

/-- The loop over the records, which throws at the first malformed one. -/
def recomputeAttestations (sourceCheckpoints : List (Str × Json)) :
    List Json → Except Str (List AttestationResult)
  | [] => .ok []
  | rec :: rest =>
      match verifyAttestation R rec sourceCheckpoints with
      | (_, some message) => .error (fstring ["attestation record is malformed: ", message])
      | (result, none) => do
          let results ← recomputeAttestations sourceCheckpoints rest
          return result :: results

/-- The verdict over a source and records that are not yet in an export, which is
what the verifier recomputes later. -/
def recomputeExportVerdict (sourceBundle : Json) (attestationRecords : List Json)
    (generatedAt : Str) (options : Options) : Except Str ComposeVerdictResult := do
  let sourceResult ← verifyEvidenceBundle R sourceBundle options
  let attestations ← recomputeAttestations R (sourceCheckpoints sourceBundle) attestationRecords
  let verdict := (buildVerdictObject sourceResult attestations).set "as_of" (.str generatedAt)
  let anyAttestationFailed := attestations.any (!·.ok)
  let status : Status :=
    if sourceResult.status = .failed || sourceResult.status = .malformed || anyAttestationFailed then
      .failed
    else if sourceResult.status = .partly then .partly
    else .verified
  return {
    verdict := (verdict.set "status" (.str status.wire)).set "summary"
      (.str (summarizeExport status sourceResult attestations))
    sourceStatus := sourceResult.status
    status := status
    attestations := attestations }

/-- The key that an export is signed with: a private key, and a public key where
the caller has one. -/
structure ExporterKey where
  privateKey : Str
  publicKey : Option Str

/-- What a caller may set in the wrapper and the body, each with a default. -/
structure ComposeExportOptions where
  issuerId : Option Str
  gateway : Option Str
  previousHash : Option Str
  generatedAt : Option Str

/-- The signed export with what the caller is told about it: its status, the hash
of its source and how many records are bound. -/
structure ComposeExportResult where
  bundle : Json
  status : Status
  sourceBundleHash : Str
  boundAttestations : Nat

def genesis : String := "GENESIS"

def exportSchema : String := "ario.evidence.export/v1"

/-- Step (3): the body of an export, around the verdict, the source with its hash,
and the records. -/
def exportBody (verdict sourceBundle : Json) (sourceBundleHash : Str) (records : List Json) : Json :=
  .object [("kernel_verdict", verdict), ("source_bundle", sourceBundle),
    ("source_bundle_hash", .str sourceBundleHash), ("attestations", .arr records),
    ("export_schema", .str exportSchema)]

/-- A member that is there, for a spread into an object literal. -/
def spread (key : String) (v : Json) : List (String × Json) :=
  ((v.get? key).map fun value => (key, value)).toList

/-- The wrapper of step (4), without its signature. Its verdict takes over the
status, summary and counts of the recomputed one, with the time of the
composition. -/
def wrapperPre (options : ComposeExportOptions) (generatedAt publicKey : Str) (verdict body : Json)
    (bodyHash : Str) : Json :=
  .object [("spec_version", .str "ario.evidence/v1"), ("body_type", .str exportBodyType),
    ("issuer", .object [("kind", .str "issuer"),
      ("issuer_id", .str (options.issuerId.getD "ar-io-verify"))]),
    ("generated_at", .str generatedAt), ("gateway", (options.gateway.map Json.str).getD .null),
    ("verdict", .object ([("status", verdict.get "status")] ++ spread "summary" verdict ++
      spread "counts" verdict ++ [("as_of", .str generatedAt)])),
    ("body", body), ("body_hash", .str bodyHash),
    ("previous_hash", .str (options.previousHash.getD genesis)), ("signature_alg", .str "ed25519"),
    ("public_key", .str publicKey)]

/-- The public key of an exporter, which is derived from the private one where the
caller gave none. -/
def exporterPublicKey (exporterKey : ExporterKey) : Except Str Str :=
  match exporterKey.publicKey with
  | some publicKey => .ok publicKey
  | none => ed25519PublicKey R exporterKey.privateKey

/-- `composeExport` at the time `now`: it verifies the source and the records, and
signs what it found. -/
def composeExport (sourceBundle attestations : Json) (exporterKey : ExporterKey)
    (options : ComposeExportOptions) (now : Str) : Except Str ComposeExportResult := do
  if !sourceBundle.isObj then .error "composeExport: source bundle must be a JSON object"
  match attestations with
  | .arr items =>
      if exporterKey.privateKey.isEmpty then
        .error "composeExport: exporterKey.privateKey (32-byte hex seed) is required"
      let generatedAt := options.generatedAt.getD now
      let records ← items.mapM (normalizeAttestation R)
      let composed ← recomputeExportVerdict R sourceBundle records generatedAt .offline
      let sourceBundleHash := sha256Hex R (utf8 (← jcs R (some sourceBundle)))
      let body := exportBody composed.verdict sourceBundle sourceBundleHash records
      let publicKey ← exporterPublicKey R exporterKey
      let bodyHash := sha256Hex R (utf8 (← jcs R (some body)))
      let pre := wrapperPre options generatedAt publicKey composed.verdict body bodyHash
      let signature ← ed25519Sign R (utf8 (← jcs R (some pre))) exporterKey.privateKey
      return {
        bundle := pre.set "signature" (.str signature)
        status := composed.status
        sourceBundleHash := sourceBundleHash
        boundAttestations := composed.attestations.countP (·.ok) }
  | _ => .error "composeExport: attestations must be an array"

end Compose

section Transcode

variable {R}

/-- Two base64url characters never spell the byte that they are hex for. -/
theorem encode_ne_of_singleton (a : UInt8) :
    (Base64.encode [a]).map Hex.asciiLower ≠ Hex.encode [a] := by
  have hAll : ∀ n : Fin 256, (Base64.encode [UInt8.ofNat n]).map Hex.asciiLower ≠
      Hex.encode [UInt8.ofNat n] := by decide +kernel
  have hOwn := hAll ⟨a.toNat, a.toNat_lt⟩
  rwa [UInt8.ofNat_toNat] at hOwn

/-- The base64url text of some bytes is never their hex text. -/
theorem map_asciiLower_base64_ne {b : Bytes} (h : b ≠ []) :
    (Base64.encode b).map Hex.asciiLower ≠ Hex.encode b := by
  intro hSame
  have hLength := congrArg List.length hSame
  rw [List.length_map, Base64.length_encode, Hex.length_encode] at hLength
  cases b with
  | nil => exact h rfl
  | cons a rest =>
      cases rest with
      | nil => exact encode_ne_of_singleton a hSame
      | cons c rest =>
          simp only [List.length_cons] at hLength
          omega

/-- Text looks like hex when it has an even number of digits, in either case, and
is not empty. -/
theorem looksLikeHex_iff (s : Str) : looksLikeHex s = true ↔
    s ≠ [] ∧ s.length % 2 = 0 ∧ ∀ c ∈ s, Hex.IsDigit c := by
  simp [looksLikeHex, Hex.IsDigit, List.length_pos_iff, and_assoc]

/-- A text passes for hex that is an even number of hex digits. -/
theorem looksLikeHex_base64_iff {b : Bytes} (h : b ≠ []) : looksLikeHex (Base64.encode b) = true ↔
    (Base64.encode b).length % 2 = 0 ∧ ∀ c ∈ Base64.encode b, Hex.IsDigit c := by
  rw [looksLikeHex_iff, and_iff_right]
  intro hEmpty
  have hLength := Base64.length_encode b
  rw [hEmpty, List.length_nil] at hLength
  exact h (List.eq_nil_of_length_eq_zero (by omega))

/-- On hex digits the case mapping of the runtime is the ASCII one. -/
theorem toLowerCase_of_digits {s : Str} (h : ∀ c ∈ s, Hex.IsDigit c) :
    toLowerCase R s = s.map Hex.asciiLower :=
  R.folding.lower_of_digits h

/-- Hex of any case is recognized and put into lowercase. -/
theorem attestationSignatureToHex_of_hex {b : Bytes} (h : b ≠ []) {s : Str}
    (hs : s.map Hex.asciiLower = Hex.encode b) :
    attestationSignatureToHex R s = .ok (Hex.encode b) := by
  have hStrict : Hex.strictHex s = some b := by
    rw [← Hex.strictHex_map_asciiLower, hs, Hex.strictHex_encode]
  have hDigits := Hex.isDigit_of_strictHex hStrict
  have hLength := Hex.length_of_strictHex hStrict
  have hLooks : looksLikeHex s = true := by
    rw [looksLikeHex_iff]
    refine ⟨?_, by omega, hDigits⟩
    rintro rfl
    rw [List.length_nil] at hLength
    exact h (List.eq_nil_of_length_eq_zero (by omega))
  rw [attestationSignatureToHex, if_pos hLooks, toLowerCase_of_digits hDigits, hs]

/-- Base64url is decoded, unless it passes for hex. -/
theorem attestationSignatureToHex_of_base64 {b : Bytes} (h : b ≠ []) :
    attestationSignatureToHex R (Base64.encode b) = .ok (Hex.encode b) ↔
      looksLikeHex (Base64.encode b) = false := by
  rw [attestationSignatureToHex]
  constructor
  · intro hSame
    rw [← Bool.not_eq_true]
    intro hLooks
    have hDigits := ((looksLikeHex_iff _).mp hLooks).2.2
    rw [if_pos hLooks, toLowerCase_of_digits hDigits, Except.ok.injEq] at hSame
    exact map_asciiLower_base64_ne h hSame
  · intro hLooks
    have hAlphabet : (Base64.encode b).all Base64.isUrlsafe = true :=
      List.all_eq_true.mpr Base64.isUrlsafe_of_mem_encode
    rw [hLooks, if_neg Bool.false_ne_true, base64UrlToBytes, hAlphabet, Base64.decode_encode]
    rfl

end Transcode

section CloneLemmas

variable {R}

/-- A cloned number is null, the number itself, or the double that it is. -/
theorem cloneNumber_of {P : Json → Prop} (own : Json) (d : Double) (hNull : P .null)
    (hOwn : P own) (hDouble : ∀ q, P (.float (.finite q))) : P (cloneNumber own d) := by
  cases d with
  | finite q =>
      cases own with
      | int n =>
          rw [cloneNumber]
          split_ifs
          · exact hOwn
          · exact hDouble q
      | _ => exact hOwn
  | _ => exact hNull

/-- Cloning keeps the keys of members and clones what is under them, so a search
finds the clone of what it found before. -/
theorem lookup_cloneMembers (key : Str) (members : List (Str × Json)) :
    (cloneMembers members).lookup key = (members.lookup key).map clone := by
  induction members with
  | nil => rfl
  | cons entry rest ih =>
      obtain ⟨name, v⟩ := entry
      rw [cloneMembers, List.lookup_cons, List.lookup_cons, ih]
      cases key == name <;> rfl

@[simp] theorem get?_clone (v : Json) (key : String) :
    (clone v).get? key = (v.get? key).map clone := by
  cases v with
  | obj members => exact lookup_cloneMembers _ members
  | int n => exact cloneNumber_of (P := fun w => w.get? key = none) (.int n) _ rfl rfl fun _ => rfl
  | float d => exact cloneNumber_of (P := fun w => w.get? key = none) (.float d) d rfl rfl fun _ => rfl
  | _ => rfl

@[simp] theorem get_clone (v : Json) (key : String) : (clone v).get key = clone (v.get key) := by
  rw [Json.get, Json.get, get?_clone]
  cases v.get? key <;> rfl

@[simp] theorem str?_clone (v : Json) : (clone v).str? = v.str? := by
  cases v with
  | int n => exact cloneNumber_of (P := fun w => w.str? = none) (.int n) _ rfl rfl fun _ => rfl
  | float d => exact cloneNumber_of (P := fun w => w.str? = none) (.float d) d rfl rfl fun _ => rfl
  | _ => rfl

@[simp] theorem isObj_clone (v : Json) : (clone v).isObj = v.isObj := by
  cases v with
  | int n => exact cloneNumber_of (P := fun w => w.isObj = false) (.int n) _ rfl rfl fun _ => rfl
  | float d => exact cloneNumber_of (P := fun w => w.isObj = false) (.float d) d rfl rfl fun _ => rfl
  | _ => rfl

@[simp] theorem isStr_clone (v : Json) : (clone v).isStr = v.isStr := by
  have hSame (w : Json) : w.isStr = w.str?.isSome := by cases w <;> rfl
  rw [hSame, hSame, str?_clone]

theorem depth_cloneNumber (own : Json) (d : Double) (hOwn : own.depth = 0) :
    (cloneNumber own d).depth = 0 :=
  cloneNumber_of (P := fun w => w.depth = 0) own d rfl hOwn fun _ => rfl

mutual

/-- A clone is nested exactly as deeply, so that it passes the same depth
guards. -/
theorem depth_clone : ∀ v : Json, (clone v).depth = v.depth
  | .null | .bool _ | .str _ => rfl
  | .int n => depth_cloneNumber (.int n) _ rfl
  | .float d => depth_cloneNumber (.float d) _ rfl
  | .arr items => by rw [clone, Json.depth, Json.depth, depthItems_clone items]
  | .obj members => by rw [clone, Json.depth, Json.depth, depthMembers_clone members]

theorem depthItems_clone : ∀ items : List Json,
    Json.depthItems (cloneItems items) = Json.depthItems items
  | [] => rfl
  | v :: rest => by
      rw [cloneItems, Json.depthItems, Json.depthItems, depth_clone v, depthItems_clone rest]

theorem depthMembers_clone : ∀ members : List (Str × Json),
    Json.depthMembers (cloneMembers members) = Json.depthMembers members
  | [] => rfl
  | (key, v) :: rest => by
      rw [cloneMembers, Json.depthMembers, Json.depthMembers, depth_clone v,
        depthMembers_clone rest]

end

theorem strings_cloneNumber (own : Json) (d : Double) (hOwn : strings own = []) :
    strings (cloneNumber own d) = [] :=
  cloneNumber_of (P := fun w => strings w = []) own d rfl hOwn fun _ => rfl

mutual

/-- A clone has the same texts in the same places: only numbers are rounded, and
lone surrogates survive. -/
theorem strings_clone : ∀ v : Json, strings (clone v) = strings v
  | .null | .bool _ | .str _ => rfl
  | .int n => strings_cloneNumber (.int n) _ rfl
  | .float d => strings_cloneNumber (.float d) _ rfl
  | .arr items => by rw [clone, strings, strings, stringsItems_clone items]
  | .obj members => by rw [clone, strings, strings, stringsMembers_clone members]

theorem stringsItems_clone : ∀ items : List Json, stringsItems (cloneItems items) = stringsItems items
  | [] => rfl
  | v :: rest => by
      rw [cloneItems, stringsItems, stringsItems, strings_clone v, stringsItems_clone rest]

theorem stringsMembers_clone : ∀ members : List (Str × Json),
    stringsMembers (cloneMembers members) = stringsMembers members
  | [] => rfl
  | (key, v) :: rest => by
      rw [cloneMembers, stringsMembers, stringsMembers, strings_clone v, stringsMembers_clone rest]

end

/-- The canonicalizer sees numbers as doubles, so that a value it has a text for
has the same text after a round trip through JSON. -/
structure CanonicalizesClones (R : Runtime) : Prop where
  canonicalize : ∀ v text, R.canonicalize v = .ok text → R.canonicalize (clone v) = .ok text

/-- What a canonicalizer that does not tell a value from its clone makes of the
value, it makes of the clone. -/
theorem CanonicalizesClones.jcs (hClone : CanonicalizesClones R) {v : Json} {canonical : Str}
    (h : jcs R (some v) = .ok canonical) : TypeScript.jcs R (some (clone v)) = .ok canonical := by
  rw [jcs_eq_ok_iff] at h ⊢
  rw [depth_clone, strings_clone]
  exact ⟨h.1, h.2.1, hClone.canonicalize v canonical h.2.2⟩

end CloneLemmas

section Embedded

variable {R}

/-- The record with another text for its signature, which is all that normalizing
changes in a record. -/
def withSignature (rec : Json) (s : Str) : Json := rec.set "signature" (.str s)

/-- Only the signature of a record is replaced; each other member is still that of
the record. -/
theorem get_withSignature {key : String} (h : key ≠ "signature") (rec : Json) (s : Str) :
    (withSignature rec s).get key = rec.get key := by
  rw [Json.get, Json.get, withSignature, Json.get?_set_of_ne h]

theorem get_signature {rec : Json} (h : rec.isObj = true) (s : Str) :
    (withSignature rec s).get "signature" = .str s :=
  Json.get_of_get? (Json.get?_set h "signature" (.str s))

/-- A record is embedded as its clone, with the transcoded signature. -/
theorem normalizeAttestation_eq_ok {rec : Json} (hObj : rec.isObj = true) {s : Str} {embedded : Json}
    (h : normalizeAttestation R (withSignature rec s) = .ok embedded) :
    ∃ hex, attestationSignatureToHex R s = .ok hex ∧
      embedded = withSignature (clone (withSignature rec s)) hex := by
  have hSignature : (clone (withSignature rec s)).get "signature" = .str s := by
    rw [get_clone, get_signature hObj]
    rfl
  rw [normalizeAttestation] at h
  split at h
  · cases h
  · rw [hSignature] at h
    obtain ⟨hex, hHex, hEmbedded⟩ := bind_eq_ok.mp h
    cases hEmbedded
    exact ⟨hex, hHex, rfl⟩

/-- Outside its signature, an embedded record is a clone of the record it comes
from. -/
theorem get_embedded {key : String} (h : key ≠ "signature") (rec : Json) (s hex : Str) :
    (withSignature (clone (withSignature rec s)) hex).get key = clone (rec.get key) := by
  rw [get_withSignature h, get_clone, get_withSignature h]

/-- The key of a record is text, so embedding keeps it. -/
theorem recordKey_embedded (rec : Json) (text s hex : Str) :
    recordKey (withSignature (clone (withSignature rec s)) hex) =
      recordKey (withSignature rec text) := by
  rw [recordKey, recordKey, get_embedded (by decide), get_withSignature (by decide), get_clone,
    get_clone, str?_clone, str?_clone]

/-- The checkpoint that a record names is text, so embedding keeps it. -/
theorem recordTxId_embedded (rec : Json) (text s hex : Str) :
    recordTxId (withSignature (clone (withSignature rec s)) hex) =
      recordTxId (withSignature rec text) := by
  rw [recordTxId, recordTxId, get_embedded (by decide), get_withSignature (by decide), str?_clone]

/-- The operator of a record is text, so embedding keeps it. -/
theorem recordOperator_embedded (rec : Json) (text s hex : Str) :
    recordOperator (withSignature (clone (withSignature rec s)) hex) =
      recordOperator (withSignature rec text) := by
  rw [recordOperator, recordOperator, get_embedded (by decide), get_withSignature (by decide),
    get_clone, str?_clone]

/-- A record without a complaint is embedded as one without a complaint, since
cloning keeps every type that is looked at. -/
theorem complaint_embedded {rec : Json} {text : Str} (s hex : Str)
    (h : attestationComplaint (quote R) (withSignature rec text) = none) :
    attestationComplaint (quote R) (withSignature (clone (withSignature rec s)) hex) = none := by
  rw [attestationComplaint_eq_none_iff] at h ⊢
  obtain ⟨hObj, hPayload, hAlg, ⟨hPub, hKty, hn, he⟩, -⟩ := h
  rw [get_withSignature (by decide)] at hPayload hAlg hPub hKty hn he
  have hRec : rec.isObj = true := by rwa [withSignature, Json.isObj_set] at hObj
  have hCloned : (clone (withSignature rec s)).isObj = true := by
    rw [isObj_clone, withSignature, Json.isObj_set, hRec]
  simp only [get_embedded (show "payload" ≠ "signature" by decide),
    get_embedded (show "signature_alg" ≠ "signature" by decide),
    get_embedded (show "public_key" ≠ "signature" by decide), get_clone, isObj_clone, isStr_clone,
    str?_clone, hPayload, hAlg, hPub, hKty, hn, he, true_and, get_signature hCloned]
  refine ⟨?_, rfl⟩
  rw [withSignature, Json.isObj_set, hCloned]

/-- A verification reads its signature through the hex decoder alone. -/
theorem verifyRsaPssSha256_of_strict {message bytes : Bytes} {s t : Str} (key : RsaKey)
    (hs : Hex.strictHex s = some bytes) (ht : Hex.strictHex t = some bytes) :
    verifyRsaPssSha256 R message s key = verifyRsaPssSha256 R message t key := by
  rw [verifyRsaPssSha256, verifyRsaPssSha256, hexToBytes_eq_ok.mpr hs, hexToBytes_eq_ok.mpr ht]

/-- A signature that holds for a record still holds once it is embedded: the
signed payload has the same canonical bytes and the hex the same octets. -/
theorem signed_embedded (hClone : CanonicalizesClones R) {rec : Json} {text : Str} {b : Bytes}
    (hText : Hex.strictHex text = some b) (s : Str) (h : RecordSigned R (withSignature rec text)) :
    RecordSigned R (withSignature (clone (withSignature rec s)) (Hex.encode b)) := by
  obtain ⟨canonical, hPayload, hVerified⟩ := h.verified
  have hObj : rec.isObj = true := by
    have hShape := (attestationComplaint_eq_none_iff.mp h.complaint).1
    rwa [withSignature, Json.isObj_set] at hShape
  have hCloned : (clone (withSignature rec s)).isObj = true := by
    rw [isObj_clone, withSignature, Json.isObj_set, hObj]
  constructor
  · exact complaint_embedded s _ h.complaint
  · exists canonical
    constructor
    · rw [get_embedded (by decide)]
      rw [get_withSignature (by decide)] at hPayload
      exact hClone.jcs hPayload
    · rw [recordKey_embedded rec text, get_signature hCloned]
      rw [get_signature hObj] at hVerified
      rw [← hVerified]
      exact verifyRsaPssSha256_of_strict _ (Hex.strictHex_encode b) hText

/-- A data hash is compared in lower case, and a payload without one as the empty
text. -/
theorem payloadDataHash_eq (payload : Json) : payloadDataHash R payload =
    ((payload.get "data_hash").str?.map (toLowerCase R)).getD [] := by
  rw [payloadDataHash]
  cases payload.get "data_hash" <;> rfl

/-- Binding looks at texts of the payload only, which a clone keeps. -/
theorem bindDataHash_clone (payload : Json) (txId : Str) (cp : Option Json) :
    bindDataHash R (clone payload) txId cp = bindDataHash R payload txId cp := by
  have hSame : payloadDataHash R (clone payload) = payloadDataHash R payload := by
    rw [payloadDataHash_eq, payloadDataHash_eq, get_clone, str?_clone]
  simp only [bindDataHash, hSame]

/-- A record that binds to a checkpoint of the source is embedded as one that
binds to the same checkpoint. -/
theorem bound_embedded {rec : Json} {text : Str} {checkpoints : List (Str × Json)} (s hex : Str)
    (h : RecordBound R (withSignature rec text) checkpoints) :
    RecordBound R (withSignature (clone (withSignature rec s)) hex) checkpoints := by
  obtain ⟨hNamed, hAddress, hContent⟩ := h
  constructor
  · rw [recordOperator_embedded rec text]
    exact hNamed
  · rw [recordOperator_embedded rec text, recordKey_embedded rec text]
    exact hAddress
  · rw [recordTxId_embedded rec text, get_embedded (by decide), bindDataHash_clone]
    rw [get_withSignature (by decide)] at hContent
    exact hContent

end Embedded

section Run

variable {R}

/-- A composition that returned, step by step, with the value that each step
left. -/
structure ComposeRun (R : Runtime) (sourceBundle : Json) (items : List Json)
    (exporterKey : ExporterKey) (options : ComposeExportOptions) (now : Str)
    (composed : ComposeExportResult) (records : List Json) (recomputed : ComposeVerdictResult)
    (source publicKey body pre signature : Str) : Prop where
  isObj : sourceBundle.isObj = true
  records_eq : items.mapM (normalizeAttestation R) = .ok records
  recomputed_eq : recomputeExportVerdict R sourceBundle records (options.generatedAt.getD now)
    .offline = .ok recomputed
  source_eq : jcs R (some sourceBundle) = .ok source
  publicKey_eq : exporterPublicKey R exporterKey = .ok publicKey
  body_eq : jcs R (some (exportBody recomputed.verdict sourceBundle (sha256Hex R (utf8 source))
    records)) = .ok body
  pre_eq : jcs R (some (wrapperPre options (options.generatedAt.getD now) publicKey
    recomputed.verdict (exportBody recomputed.verdict sourceBundle (sha256Hex R (utf8 source))
      records) (sha256Hex R (utf8 body)))) = .ok pre
  signature_eq : ed25519Sign R (utf8 pre) exporterKey.privateKey = .ok signature
  composed_eq : composed = {
    bundle := (wrapperPre options (options.generatedAt.getD now) publicKey recomputed.verdict
      (exportBody recomputed.verdict sourceBundle (sha256Hex R (utf8 source)) records)
      (sha256Hex R (utf8 body))).set "signature" (.str signature)
    status := recomputed.status
    sourceBundleHash := sha256Hex R (utf8 source)
    boundAttestations := recomputed.attestations.countP (·.ok) }

variable {sourceBundle : Json} {items records : List Json} {exporterKey : ExporterKey}
  {options : ComposeExportOptions} {now : Str} {composed : ComposeExportResult}
  {recomputed : ComposeVerdictResult} {source publicKey body pre signature : Str}

/-- A composition that returns came through each of its steps, and each step left
the value that the next one took. -/
theorem composeExport_eq_ok
    (h : composeExport R sourceBundle (.arr items) exporterKey options now = .ok composed) :
    ∃ records recomputed source publicKey body pre signature,
      ComposeRun R sourceBundle items exporterKey options now composed records recomputed source
        publicKey body pre signature := by
  rw [composeExport] at h
  cases hObj : sourceBundle.isObj with
  | false =>
      rw [hObj] at h
      cases h
  | true =>
      rw [hObj] at h
      cases hKey : exporterKey.privateKey.isEmpty with
      | true =>
          simp only [hKey] at h
          cases h
      | false =>
          simp only [hKey, Bool.not_true, Bool.false_eq_true, if_false] at h
          obtain ⟨-, -, h⟩ := bind_eq_ok.mp h
          obtain ⟨-, -, h⟩ := bind_eq_ok.mp h
          obtain ⟨records, hRecords, h⟩ := bind_eq_ok.mp h
          obtain ⟨recomputed, hRecomputed, h⟩ := bind_eq_ok.mp h
          obtain ⟨source, hSource, h⟩ := bind_eq_ok.mp h
          obtain ⟨publicKey, hPublicKey, h⟩ := bind_eq_ok.mp h
          obtain ⟨body, hBody, h⟩ := bind_eq_ok.mp h
          obtain ⟨pre, hPre, h⟩ := bind_eq_ok.mp h
          obtain ⟨signature, hSignature, h⟩ := bind_eq_ok.mp h
          cases h
          exact ⟨records, recomputed, source, publicKey, body, pre, signature, hObj, hRecords,
            hRecomputed, hSource, hPublicKey, hBody, hPre, hSignature, rfl⟩

/-- The signature and the body hash are added outside the body, so a finished
export has the body that was hashed. -/
theorem ComposeRun.get_body (run : ComposeRun R sourceBundle items exporterKey options now composed
    records recomputed source publicKey body pre signature) : composed.bundle.get "body" =
      exportBody recomputed.verdict sourceBundle (sha256Hex R (utf8 source)) records := by
  rw [run.composed_eq]
  dsimp only
  rw [Json.get, Json.get?_set_of_ne (by decide), wrapperPre, Json.get?_object]
  rfl

/-- The embedded records are the normalized ones, in order. -/
theorem ComposeRun.embedded (run : ComposeRun R sourceBundle items exporterKey options now composed
    records recomputed source publicKey body pre signature) :
    (composed.bundle.get "body").listAt "attestations" = records := by
  rw [run.get_body, Json.listAt, Json.get, exportBody, Json.get?_object]
  rfl

end Run

section Signatures

variable {R}

/-- The transcoding of both texts of some bytes, and what it is for: a record
that verifies with one of its hex texts is embedded so that it verifies, from
whichever text it was composed. -/
structure Transcodes (R : Runtime) (b : Bytes) : Prop where
  hex : ∀ s, s.map Hex.asciiLower = Hex.encode b →
    attestationSignatureToHex R s = .ok (Hex.encode b)
  base64url : attestationSignatureToHex R (Base64.encode b) = .ok (Hex.encode b)
  composed : ∀ rec text s, text.map Hex.asciiLower = Hex.encode b →
    (s.map Hex.asciiLower = Hex.encode b ∨ s = Base64.encode b) →
    ∀ sourceBundle items exporterKey options now composed,
      composeExport R sourceBundle (.arr items) exporterKey options now = .ok composed →
    ∀ i : Nat, items[i]? = some (withSignature rec s) → ∀ checkpoints,
      (verifyAttestation R (withSignature rec text) checkpoints).1.signatureOk = true →
      ∃ embedded, ((composed.bundle.get "body").listAt "attestations")[i]? = some embedded ∧
        (verifyAttestation R embedded checkpoints).1.signatureOk = true ∧
        ((verifyAttestation R (withSignature rec text) checkpoints).1.ok = true →
          (verifyAttestation R embedded checkpoints).1.ok = true)

/-- The guess is right for hex always, and for base64url exactly when that text
is not an even number of hex digits itself. -/
theorem transcodes_iff (hClone : CanonicalizesClones R) (b : Bytes) (hBytes : b ≠ []) :
    Transcodes R b ↔
      ¬((Base64.encode b).length % 2 = 0 ∧ ∀ c ∈ Base64.encode b, Hex.IsDigit c) := by
  rw [← looksLikeHex_base64_iff hBytes, Bool.not_eq_true]
  constructor
  · intro h
    exact (attestationSignatureToHex_of_base64 hBytes).mp h.base64url
  · intro hLooks
    have hBase64 := (attestationSignatureToHex_of_base64 (R := R) hBytes).mpr hLooks
    constructor
    · intro s hs
      exact attestationSignatureToHex_of_hex hBytes hs
    · exact hBase64
    · intro rec text s hText hs sourceBundle items exporterKey options now composed hComposed i hItem
        checkpoints hSigned
      have hHex : attestationSignatureToHex R s = .ok (Hex.encode b) := by
        rcases hs with hs | rfl
        · exact attestationSignatureToHex_of_hex hBytes hs
        · exact hBase64
      have hStrict : Hex.strictHex text = some b := by
        rw [← Hex.strictHex_map_asciiLower, hText, Hex.strictHex_encode]
      obtain ⟨records, recomputed, source, publicKey, body, pre, signature, run⟩ :=
        composeExport_eq_ok hComposed
      obtain ⟨embedded, hEmbedded, hNormalized⟩ := getElem?_of_mapM_eq_ok run.records_eq hItem
      have signed := (signatureOk_iff _ _).mp hSigned
      have hObj : rec.isObj = true := by
        have hShape := (attestationComplaint_eq_none_iff.mp signed.complaint).1
        rwa [withSignature, Json.isObj_set] at hShape
      obtain ⟨hex, hOwn, rfl⟩ := normalizeAttestation_eq_ok hObj hNormalized
      rw [hHex, Except.ok.injEq] at hOwn
      subst hOwn
      have signedToo := signed_embedded hClone hStrict s signed
      refine ⟨_, by rw [run.embedded]; exact hEmbedded, (signatureOk_iff _ _).mpr signedToo, ?_⟩
      intro hOk
      obtain ⟨-, hBound⟩ := (ok_iff _ _).mp hOk
      exact (ok_iff _ _).mpr ⟨signedToo, bound_embedded s _ hBound⟩

end Signatures

section Reference

open Reference

/-- A number that has a text is the same number after a round trip. -/
theorem order_cloneNumber {own : Json} {d : Double} (hOwn : order own = integral d)
    (h : (emit (integral d) []).isSome = true) : order (cloneNumber own d) = integral d := by
  cases d with
  | finite q =>
      cases own with
      | int n =>
          rw [cloneNumber]
          split_ifs
          · exact hOwn
          · rfl
      | _ => exact hOwn
  | _ => cases h

mutual

/-- Rounding the numbers of a value changes nothing in its sorted form, which has
them rounded, provided that the form can be written at all. -/
theorem order_clone : ∀ v : Json, (emit (order v) []).isSome = true → order (clone v) = order v
  | .null, _ | .bool _, _ | .str _, _ => rfl
  | .int n, h => by
      rw [order_int] at h ⊢
      exact order_cloneNumber (order_int n) h
  | .float d, h => by
      rw [order] at h
      rw [clone, order_cloneNumber (by rw [order]) h, order]
  | .arr items, h => by
      rw [order, isSome_emit_arr] at h
      rw [clone, order, order, orderItems_clone items h]
  | .obj members, h => by
      rw [order, isSome_emit_obj, List.all_eq_true] at h
      rw [clone, order, order, orderMembers_clone members fun entry hEntry =>
        (Bool.and_eq_true_iff.mp (h entry (mem_sortMembers.mpr hEntry))).1]

theorem orderItems_clone : ∀ items : List Json,
    (orderItems items).all (fun v => (emit v []).isSome) = true →
    orderItems (cloneItems items) = orderItems items
  | [], _ => rfl
  | v :: rest, h => by
      rw [orderItems, List.all_cons, Bool.and_eq_true] at h
      rw [cloneItems, orderItems, orderItems, order_clone v h.1, orderItems_clone rest h.2]

theorem orderMembers_clone : ∀ members : List (Str × Json),
    (∀ entry ∈ orderMembers members, (emit entry.2 []).isSome = true) →
    orderMembers (cloneMembers members) = orderMembers members
  | [], _ => rfl
  | (key, v) :: rest, h => by
      rw [orderMembers] at h
      rw [cloneMembers, orderMembers, orderMembers, order_clone v (h _ List.mem_cons_self),
        orderMembers_clone rest fun entry hEntry => h entry (List.mem_cons_of_mem _ hEntry)]

end

/-- The reference canonicalizer rounds numbers by itself, so it does not tell a
value from its clone. -/
theorem canonicalizesClones (S : Signatures) : CanonicalizesClones (typeScript S) where
  canonicalize v text h := by
    have hText : canonicalText v = some text := by
      dsimp only [typeScript] at h
      split at h
      · next found hFound =>
        cases h
        exact hFound
      · cases h
    have hSame : canonicalText (clone v) = some text := by
      rw [canonicalText, order_clone v (Option.isSome_of_mem hText)]
      exact hText
    dsimp only [typeScript]
    rw [hSame]

/-- A signature of 256 bytes whose base64url text is no hex. -/
theorem transcodes_sample : Transcodes (typeScript (signedWith [])) (List.replicate 256 0xFF) := by
  apply (transcodes_iff (canonicalizesClones _) _ (by decide)).mpr
  rintro ⟨-, hDigits⟩
  exact absurd (hDigits 0x5F (by decide +kernel)) (by decide)

/-- A signature of 256 zero bytes: its 342 base64url characters are all `A`. -/
theorem zeroSignature_passes_for_hex :
    Base64.encode (List.replicate 256 0) = List.replicate 342 0x41 ∧
    attestationSignatureToHex (typeScript (signedWith [])) (List.replicate 342 0x41) =
      .ok (List.replicate 342 0x61) ∧
    Hex.encode (List.replicate 256 0) = List.replicate 512 0x30 ∧
    ¬Transcodes (typeScript (signedWith [])) (List.replicate 256 0) := by
  have hText : Base64.encode (List.replicate 256 0) = List.replicate 342 0x41 := by decide +kernel
  have hLooks : looksLikeHex (List.replicate 342 0x41) = true := by decide +kernel
  refine ⟨hText, ?_, by decide +kernel, ?_⟩
  · rw [attestationSignatureToHex, if_pos hLooks, toLowerCase_of_digits]
    · decide +kernel
    · exact ((looksLikeHex_iff _).mp hLooks).2.2
  · intro h
    have hNot := (attestationSignatureToHex_of_base64 (by decide)).mp h.base64url
    rw [hText, hLooks] at hNot
    cases hNot

end Reference
end ArioProof.TypeScript
