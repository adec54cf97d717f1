import ArioProof.Evidence.Bundle
import ArioProof.TypeScript.Merkle
import ArioProof.TypeScript.Verifier

/-! `evidence.ts`: the checks of a single record, and the kernel they make. A
`try` block of the source is where what is thrown turns into a note. -/
namespace ArioProof.TypeScript

open Foundation

variable (R : Runtime)

/-- The record bytes of a checkpoint or event, absent when they do not decode. -/
def decodeRecord (what : Str) (holder : Json) : Option Bytes × List Str :=
  match holder.get "record_bytes" with
  | .str s =>
      match hexToBytes R (some (.str s)) with
      | .ok bytes => (some bytes, [])
      | .error text => (none, [fstring [what, " record_bytes is not hex: ", text]])
  | _ => (none, [])

/-- `record.event?.<key>` of the committed record. A record that is `null` throws,
and any other value without the member reads as missing. -/
def committedField (key : String) (recordBytes : Bytes) : Except Str (Option Json) := do
  match ← R.jsonParse recordBytes with
  | .null => .error (noMember (some .null) "event")
  | record => return (record.get "event").get? key

section Checkpoint

/-- The `try` block around the committed root, message included. Only two strings
are ever equal here; everything else is a mismatch that is reported. -/
def readMerkleRoot (cp : Json) (bytes : Bytes) : Except Str (Bool × List Str) := do
  let committedRoot ← committedField R "merkle_root" bytes
  let committed := (committedRoot.getD .null).str?
  if committed.isSome && committed = (cp.get "merkle_root").str? then return (true, [])
  else
    let claimedText ← display R (cp.get? "merkle_root")
    let committedText ← display R committedRoot
    return (false, [fstring ["checkpoint merkle_root mismatch: claimed=", claimedText,
      " committed=", committedText]])

def checkMerkleRoot (cp : Json) (recordBytes : Option Bytes) : Bool × List Str :=
  match recordBytes with
  | none => (false, [])
  | some bytes =>
      match readMerkleRoot R cp bytes with
      | .ok outcome => outcome
      | .error text => (false, [fstring ["checkpoint record is not JSON: ", text]])

def checkpointEnvelope (cp : Json) : VerificationResult :=
  verifyEnvelope R (cp.get? "envelope") (decodeRecord R "checkpoint" cp).1 none

def checkCheckpoint (cp : Json) : Bool × Bool × List Str :=
  let (recordBytes, recordErrors) := decodeRecord R "checkpoint" cp
  let res := checkpointEnvelope R cp
  let (merkleRootOk, rootErrors) := checkMerkleRoot R cp recordBytes
  (res.ok && res.payloadHashOk = some true, merkleRootOk,
    recordErrors ++
      (if res.signatureOk then [] else [utf16 "checkpoint envelope signature failed"]) ++
      (if res.payloadHashOk = some false then
        [utf16 "checkpoint record does not bind to payload_hash"] else []) ++
      (if res.payloadHashOk = none then
        [utf16 "checkpoint record_bytes missing — root untrusted"] else []) ++ rootErrors)

/-- The bytes a gateway is expected to answer for a checkpoint. -/
def expectedBytes (cp : Json) : Option Bytes :=
  match jcs R (cp.get? "envelope") with
  | .ok canonical => some (utf8 canonical)
  | .error _ => none

end Checkpoint

section Event

def eventEnvelope (ev : Json) : VerificationResult :=
  verifyEnvelope R (ev.get? "envelope") (decodeRecord R "event" ev).1 none

def checkEvent (ev : Json) : Bool × Option Bool × List Str :=
  let res := eventEnvelope R ev
  (res.ok, res.payloadHashOk,
    (decodeRecord R "event" ev).2 ++
      (if res.signatureOk then [] else [utf16 "event envelope signature failed"]) ++
      (if res.payloadHashOk = some false then
        [utf16 "event record does not bind to payload_hash"] else []))

/-- `(incl.audit_path ?? []).map((h) => hexToBytes(h))`, which throws where the
path has no such method. -/
def inclusionPath (incl : Json) : Except Str (List Bytes) :=
  match incl.get "audit_path" with
  | .null => .ok []
  | .arr items => items.mapM fun h => hexToBytes R (some h)
  | _ => .error "(incl.audit_path ?? []).map is not a function"

/-- The walk of an event's proof, up to the comparison with its own leaf. -/
def walkInclusion (incl cp : Json) : Except Str Bool := do
  let leaf ← hexToBytes R (incl.get? "leaf_hash")
  let path ← inclusionPath R incl
  let expectedRoot ← hexToBytes R (cp.get? "merkle_root")
  verifyInclusion R leaf (incl.get? "leaf_index") (incl.get? "leaf_count") path expectedRoot

/-- What follows the walk inside its `try` block: the leaf that is named has to be
the hash of the envelope, in either case of its digits. -/
def compareLeaf (ev incl : Json) : Except Str Bool := do
  let canonical ← jcs R (ev.get? "envelope")
  let expectedLeafHex := Hex.encode (leafHash R (utf8 canonical))
  match incl.get "leaf_hash" with
  | .null => return expectedLeafHex = toLowerCase R []
  | .str s => return expectedLeafHex = toLowerCase R s
  | _ => .error "(incl.leaf_hash ?? \"\").toLowerCase is not a function"

/-- The `try` block of an event with a resolved checkpoint. Where the comparison
of the leaf throws, the outcome of the walk stays as it is. -/
def checkInclusion (ev incl cp : Json) : Bool × List Str :=
  match walkInclusion R incl cp with
  | .error text => (false, [fstring ["inclusion verify error: ", text]])
  | .ok inclusionOk =>
      let walkErrors : List Str :=
        if inclusionOk then []
        else ["RFC 9162 inclusion proof did not reconstruct the checkpoint root"]
      match compareLeaf R ev incl with
      | .error text => (inclusionOk, walkErrors ++ [fstring ["inclusion verify error: ", text]])
      | .ok true => (inclusionOk, walkErrors)
      | .ok false => (false, walkErrors ++
          [utf16 "inclusion leaf_hash does not match SHA-256(0x00 || JCS(event envelope))"])

/-- The committed hashes of an event, from its record first. Only where the record
is withheld or names none are those of the envelope compared. -/
def committedHashes (ev : Json) (recordBytes : Option Bytes) : List Str :=
  let recordContentHash : Option Str :=
    match recordBytes.map (committedField R "content_hash") with
    | some (.ok (some (.str ch))) => if ch.isEmpty then none else some (toLowerCase R ch)
    | _ => none
  match recordContentHash with
  | some h => [h]
  | none =>
      let envelope := ev.get "envelope"
      if envelope.isObj || envelope.isArr then
        (contentHashes envelope).map fun c => toLowerCase R c.2
      else []

def inBodyContent (ev : Json) : Option Bytes × List Str :=
  match ev.get "content" with
  | .str s =>
      match hexToBytes R (some (.str s)) with
      | .ok bytes => (some bytes, [])
      | .error text => (none, [fstring ["event content is not hex: ", text]])
  | _ => (none, [])

def sideContent (content : Str → Option SideContent) (eventId : Str) : Option Bytes × List Str :=
  match content eventId with
  | none => (none, [])
  | some (.raw bytes) => (some bytes, [])
  | some (.hex s) =>
      match hexToBytes R (some (.str s)) with
      | .ok bytes => (some bytes, [])
      | .error text =>
          (none, [fstring ["supplied content for ", eventId, " is not hex: ", text]])

/-- The content block of the event loop: in-body content and supplied content,
against the hashes that the event commits to. -/
def evaluateContent (ev : Json) (recordBytes : Option Bytes) (eventId : Str)
    (content : Str → Option SideContent) : Option Bool × List Str :=
  let (inBody, inBodyErrors) := inBodyContent R ev
  let (side, sideErrors) := sideContent R content eventId
  let (contentOk, errors) := bindContent R.crypto (committedHashes R ev recordBytes) inBody side
  (contentOk, inBodyErrors ++ sideErrors ++ errors)

end Event

section Attestation

/-- `/^[0-9a-f]{64}$/`, which has no newline to let through: without its flag the
`$` of JavaScript is the end. -/
def isSha256Hex (s : Str) : Bool :=
  s.length = 64 && s.all fun c => (0x30 ≤ c.toNat && c.toNat ≤ 0x39) || (0x61 ≤ c.toNat && c.toNat ≤ 0x66)

/-- The labels copied from the signed payload, as the result shows them. -/
def labelled (payload : Json) (result : AttestationResult) : AttestationResult :=
  { result with
    operator := (payload.get "operator").str?.getD []
    gateway := (payload.get "gateway").str?
    level := match payload.get "level" with
      | .int n => some (.int n)
      | .float d => some (.float d)
      | _ => none }

def payloadDataHash (payload : Json) : Str :=
  match payload.get "data_hash" with
  | .str s => toLowerCase R s
  | _ => []

/-- Step (c): what the record's transaction id resolves to, and whether the
signed data hash is that of its envelope. -/
def bindDataHash (payload : Json) (txId : Str) (cp : Option Json) : Bool × List Str :=
  match cp with
  | none => (false, [fstring ["attestation checkpoint_tx_id ", R.stringify (.str txId),
      " resolves to no source checkpoint"]])
  | some cp =>
      match jcs R (cp.get? "envelope") with
      | .error text => (false, [fstring ["cannot recompute checkpoint content hash: ", text]])
      | .ok canonical =>
          let committed := sha256Hex R (utf8 canonical)
          let dataHash := payloadDataHash R payload
          let bound := !dataHash.isEmpty && dataHash = committed
          (bound, if bound then [] else
            [fstring ["data_hash does not bind to the checkpoint's committed content hash: data_hash=",
              dataHash, " committed=", committed]])

/-- `verifyAttestation`: every throw inside it is caught, and shows as a note or
as a malformed record. -/
def verifyAttestation (rec : Json) (sourceCheckpoints : List (Str × Json)) :
    AttestationResult × Option Str :=
  match attestationComplaint (quote R) rec with
  | some complaint => (emptyAttestation rec, some complaint)
  | none =>
      let payload := rec.get "payload"
      let rsaKey : RsaKey := ⟨((rec.get "public_key").get "n").str?.getD [],
        ((rec.get "public_key").get "e").str?.getD []⟩
      let result := labelled payload (emptyAttestation rec)
      match jcs R (some payload) with
      | .error text =>
          (result, some (fstring ["attestation payload canonicalization failed: ", text]))
      | .ok canonical =>
          match verifyRsaPssSha256 R (utf8 canonical) ((rec.get "signature").str?.getD []) rsaKey with
          | .error text => (result, some (fstring ["attestation ", text]))
          | .ok signatureOk =>
              let result := { result with
                signatureOk := signatureOk
                errors := if signatureOk then [] else
                  [utf16 "attestation RSA-PSS signature verification failed"] }
              match deriveOperatorAddress R rsaKey.n with
              | .error text => (result, some (fstring ["attestation operator key: ", text]))
              | .ok derived =>
                  let operatorAddressBound := !result.operator.isEmpty && derived = result.operator
                  let cp := sourceCheckpoints.lookup result.checkpointTxId
                  let (dataHashBound, dataErrors) :=
                    bindDataHash R payload result.checkpointTxId cp
                  let (subjectRefOk, subjectErrors) :=
                    evaluateSubjectRef isSha256Hex (payload.get "subject_ref")
                  ({ result with
                    operatorAddressBound := operatorAddressBound
                    dataHashBound := dataHashBound
                    checkpointResolved := cp.isSome
                    subjectRefOk := subjectRefOk
                    ok := signatureOk && operatorAddressBound && dataHashBound && cp.isSome
                    errors := result.errors ++
                      (if operatorAddressBound then [] else
                        [fstring ["operator-address binding failed: derived=", derived,
                          " payload.operator=", result.operator]]) ++
                      dataErrors ++ subjectErrors }, none)

end Attestation

def kernel : Kernel Str where
  crypto := R.crypto
  canonical v := (jcs R (some v)).map utf8
  jsonParse := R.jsonParse
  verifySignature message signatureHex publicKeyHex :=
    ed25519Verify R (some signatureHex) message (some publicKeyHex)
  quote := quote R
  checkBody _ := .ok ()
  checkEntry member entry :=
    match entry with
    | .null => .error (noMember (some .null) member)
    | _ => .ok ()
  checkCheckpoint := checkCheckpoint R
  checkEvent := checkEvent R
  holdsInclusion v := v.isObj || v.isArr
  checkInclusion := checkInclusion R
  evaluateContent ev := evaluateContent R ev (decodeRecord R "event" ev).1
  expectedBytes := expectedBytes R
  verifyAttestation rec checkpoints := .ok (verifyAttestation R rec checkpoints)

def verifyEvidenceBundle (bundle : Json) (options : Options) : Except Str EvidenceBundleResult :=
  ArioProof.verifyEvidenceBundle (kernel R) bundle options

end ArioProof.TypeScript
