import ArioProof.Data.Depth
import ArioProof.Data.Primitives
import ArioProof.Data.Verdict

/-! The two kernels run one algorithm over an evidence bundle and differ in how
they canonicalize, read and check a single record. A kernel is what it brings
to that algorithm. Exceptions are values, so that a caller which does not catch
one is seen to raise it. -/
namespace ArioProof

open Foundation

structure Kernel (ε : Type) where
  crypto : Crypto
  /-- Canonical bytes, or the text of what canonicalization raises. -/
  canonical : Json → Except Str Bytes
  /-- The JSON value of fetched bytes, or the text of what the parser raises. -/
  jsonParse : Bytes → Except Str Json
  verifySignature : (message : Bytes) → (signatureHex publicKeyHex : Json) → Bool
  /-- How a message shows a member that may be missing. -/
  quote : Option Json → Str
  /-- What reading the members of a trace body raises. -/
  checkBody : Json → Except ε Unit
  /-- What reading the first member of a checkpoint or an event raises. -/
  checkEntry : (member : String) → Json → Except ε Unit
  /-- Whether a checkpoint's envelope holds and binds its record, whether the
  record commits to the claimed root, and notes. -/
  checkCheckpoint : (cp : Json) → Bool × Bool × List Str
  /-- Whether an event's envelope holds, how it binds its record, and notes. -/
  checkEvent : (ev : Json) → Bool × Option Bool × List Str
  /-- Whether a value passes for an object that may hold an inclusion proof. -/
  holdsInclusion : Json → Bool
  checkInclusion : (ev incl cp : Json) → Bool × List Str
  evaluateContent : (ev : Json) → (eventId : Str) → (content : Str → Option SideContent) →
    Option Bool × List Str
  /-- The bytes a gateway is expected to answer for a checkpoint. -/
  expectedBytes : (cp : Json) → Option Bytes
  /-- The result of a record, with a message when it is malformed. -/
  verifyAttestation : (rec : Json) → (sourceCheckpoints : List (Str × Json)) →
    Except ε (AttestationResult × Option Str)

def getEventId (env : Json) : Str :=
  match env.get "event_id" with
  | .str s => s
  | _ => "<unknown>"

section TxIds

/-- The first entry under a transaction id is the one events bind to. -/
def registerTxId (byTxId : List (Str × Json)) (cp : Json) : List (Str × Json) :=
  match cp.get "tx_id" with
  | .str txId => if (byTxId.lookup txId).isSome then byTxId else byTxId ++ [(txId, cp)]
  | _ => byTxId

def txIdErrors (byTxId : List (Str × Json)) (cp : Json) : List Str :=
  match cp.get "tx_id" with
  | .str txId =>
      if (byTxId.lookup txId).isSome then [fstring ["duplicate checkpoint tx_id ", txId]] else []
  | _ => ["checkpoint missing tx_id"]

/-- The id a row shows; an entry without a string id shows the empty one. -/
def rowTxId (cp : Json) : Str :=
  match cp.get "tx_id" with
  | .str txId => txId
  | _ => []

/-- The checkpoint an inclusion proof names, which is the first entry under that
transaction id. -/
def resolveCheckpoint (byTxId : List (Str × Json)) (incl : Json) : Option Json :=
  match incl.get "checkpoint_tx_id" with
  | .str txId => byTxId.lookup txId
  | _ => none

end TxIds

/-- The comparison of what was disclosed with what was committed. Two disclosures
of one event have to be equal before either is looked at; without a disclosure, or
with nothing to compare it to, the outcome is open. -/
def bindContent (C : Crypto) (committed : List Str) (inBody side : Option Bytes) :
    Option Bool × List Str :=
  if inBody.isSome && side.isSome && inBody ≠ side then
    (some false, ["disclosed content disagreement: in-body events[].content and the supplied content differ"])
  else
    match inBody.or side with
    | none => (none, [])
    | some disclosed =>
        if committed.isEmpty then
          (none, ["disclosed content present but no committed content_hash to bind to (record withheld or record has no event.content_hash) — undetermined"])
        else
          let got := C.sha256Hex disclosed
          if committed.contains got then (some true, [])
          else
            (some false, [fstring ["disclosed content does not match the committed content_hash: sha256(disclosed)=",
              got, " committed=", List.intercalate (utf16 "|") committed]])

section Attestation

/-- A `subject_ref` type token: a text, not empty, of digits, lower-case letters
and the marks `.`, `:` and `-`. -/
def isSubjectTypeToken (s : Str) : Bool :=
  !s.isEmpty && s.all fun c => (0x30 ≤ c.toNat && c.toNat ≤ 0x39) ||
    (0x61 ≤ c.toNat && c.toNat ≤ 0x7A) || c.toNat = 0x2E || c.toNat = 0x3A || c.toNat = 0x2D

/-- Always undetermined: the source says nothing about the subject itself. A
reference of the wrong shape only adds a note, which no status depends on. -/
def evaluateSubjectRef (isSha256Hex : Str → Bool) (subjectRef : Json) : Option Bool × List Str :=
  match subjectRef with
  | .null => (none, [])
  | .obj _ =>
      let hashOk := match subjectRef.get "hash" with
        | .str h => isSha256Hex h
        | _ => false
      let typeOk := match subjectRef.get "type" with
        | .str t => isSubjectTypeToken t
        | _ => false
      if !hashOk || !typeOk then
        (none, ["subject_ref is present but not well-formed (\x7bhash: sha256-hex, type: token\x7d)"])
      else (none, [])
  | _ => (none, ["subject_ref is present but is not an object"])

/-- What precedes any cryptography in the check of an attestation: the type of
every field that the checks read, in the order of the source. The first complaint
is the one reported. -/
def attestationComplaint (quote : Option Json → Str) (rec : Json) : Option Str :=
  let pub := rec.get "public_key"
  if !rec.isObj then some "attestation record is not a JSON object"
  else if !(rec.get "payload").isObj then some "attestation record missing payload"
  else if (rec.get "signature_alg").str? ≠ some (utf16 "rsa-pss-sha256") then
    some (fstring
      ["unsupported attestation signature_alg: ", quote (rec.get? "signature_alg")])
  else if !pub.isObj || (pub.get "kty").str? ≠ some (utf16 "RSA") || !(pub.get "n").isStr ||
      !(pub.get "e").isStr then
    some "attestation record missing/invalid RSA public_key JWK"
  else if !(rec.get "signature").isStr then some "attestation record missing signature"
  else none

/-- The record of an attestation before any check has run. The checkpoint it names
is shown even where nothing else of the record can be read. -/
def emptyAttestation (rec : Json) : AttestationResult where
  checkpointTxId := (rec.get "checkpoint_tx_id").str?.getD []
  operator := []
  gateway := none
  signatureOk := false
  operatorAddressBound := false
  dataHashBound := false
  checkpointResolved := false
  level := none
  subjectRefOk := none
  ok := false
  errors := []

end Attestation
end ArioProof
