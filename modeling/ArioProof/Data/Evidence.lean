import ArioProof.Data.Json
import ArioProof.Foundation.HashFunction

/-! What a kernel reports about an evidence bundle, and the options of a run.
Both kernels fill the same records, in their own spelling of the field names. -/
namespace ArioProof

open Foundation

/-- The status of a result. A malformed bundle could not be read, while a failed
one was read and did not hold. `partly` is spelled `partial` on the wire. -/
inductive Status where
  | verified
  | partly
  | failed
  | malformed
  deriving DecidableEq, Repr

/-- The name of a status in a verdict, in a report and in the result of a
command. -/
def Status.wire : Status → Str
  | verified => "verified"
  | partly => "partial"
  | failed => "failed"
  | malformed => "malformed"

/-- One gateway's answer about one checkpoint transaction, and their rollup. No
answer at all is told apart from one that contradicts. -/
inductive Outcome where
  | confirm
  | mismatch
  | unreachable
  deriving DecidableEq, Repr

/-- The name of an outcome in a verdict. -/
def Outcome.wire : Outcome → Str
  | confirm => "confirm"
  | mismatch => "mismatch"
  | unreachable => "unreachable"

/-- What one gateway answered for one checkpoint, once its answer was compared
with the expected bytes. -/
structure PerGatewayOutcome where
  gateway : Str
  outcome : Outcome
  deriving DecidableEq, Repr

/-- The outcomes of a re-fetch with their rollup, which the worst of them
decides. -/
structure OnChainResult where
  rollup : Outcome
  onChainOk : Option Bool
  perGateway : List PerGatewayOutcome
  deriving DecidableEq, Repr

/-- The row of a checkpoint entry. A check that was not made is neither passed nor
failed. -/
structure CheckpointResult where
  txId : Str
  envelopeOk : Bool
  merkleRootOk : Bool
  onChainOk : Option Bool
  onChain : Option OnChainResult
  ok : Bool
  errors : List Str
  deriving DecidableEq, Repr

/-- The row of an event entry. The payload binding is open where the record is
withheld, and the content where none is disclosed. -/
structure EventResult where
  eventId : Str
  envelopeOk : Bool
  payloadBindingOk : Option Bool
  inclusionOk : Bool
  checkpointBound : Bool
  contentOk : Option Bool
  ok : Bool
  errors : List Str
  deriving DecidableEq, Repr

/-- The result for one attestation record, beside the labels that are copied from
its payload. -/
structure AttestationResult where
  checkpointTxId : Str
  operator : Str
  gateway : Option Str
  signatureOk : Bool
  operatorAddressBound : Bool
  dataHashBound : Bool
  checkpointResolved : Bool
  /-- The JSON number, kept as it was read. -/
  level : Option Json
  subjectRefOk : Option Bool
  ok : Bool
  errors : List Str

/-- What a result has for an export only, with the verdict as it is displayed. -/
structure ExportResult where
  sourceLinkageOk : Bool
  sourceStatus : Status
  verdictAgreementOk : Bool
  attestations : List AttestationResult
  verdict : Json
  status : Status

/-- The result of a verification. A malformed bundle has one too, with no rows. -/
structure EvidenceBundleResult where
  status : Status
  specVersionOk : Bool
  bodyHashOk : Bool
  signatureOk : Bool
  bodyType : Option Str
  onChainChecked : Bool
  checkpoints : List CheckpointResult
  events : List EventResult
  assertedStatus : Option Str
  exported : Option ExportResult
  errors : List Str

/-- The helper of either kernel for a bundle that cannot be rendered. -/
def malformed (error : Str) (specVersionOk : Bool) : EvidenceBundleResult where
  status := .malformed
  specVersionOk := specVersionOk
  bodyHashOk := false
  signatureOk := false
  bodyType := none
  onChainChecked := false
  checkpoints := []
  events := []
  assertedStatus := none
  exported := none
  errors := [error]

def evidenceMajors : List String := ["ario.evidence/v1"]

def anchorTraceBodyType : String := "ario.anchor.trace/v1"

def exportBodyType : String := "ario.evidence.export/v1"

def verdictSchemaVersion : String := "ario.evidence.verdict/v1"

/-- The role of a hash that an envelope commits to: the asset itself, the baseline
it is compared with, or what was observed. -/
inductive ContentRole where
  | asset
  | baseline
  | observed
  deriving DecidableEq, Repr

/-- Members outside the signed scope of envelopes and wrappers, which hold the
signature and those of others over the same scope. -/
def unsignedFields : List String := ["signature", "co_signatures"]

/-- A side input for one event: bytes as they are, or hex text. -/
inductive SideContent where
  | raw (bytes : Bytes)
  | hex (text : Str)

/-- The answer to a request may depend on the requests made before it. An
exception and a missing transaction are both `none`. -/
abbrev Fetch := (requests : List Str) → (url : Str) → Option Bytes

/-- The options of a verification: the gateways to ask, how to ask them, and
content that is supplied beside the bundle. -/
structure Options where
  gateways : List Str
  content : Str → Option SideContent
  fetchImpl : Option Fetch

/-- A run without side inputs: no gateway is asked, and no content is supplied
beside the bundle. -/
def Options.offline : Options := ⟨[], fun _ => none, none⟩

/-- An object under literal keys. -/
def Json.object (members : List (String × Json)) : Json :=
  .obj (members.map fun (key, v) => (utf16 key, v))

/-- A check in a verdict: a truth value, or `null` where it was not made. -/
def Json.ofOption : Option Bool → Json
  | none => .null
  | some b => .bool b

/-- Members of an object literal are found by their names. -/
@[simp] theorem Json.get?_object (members : List (String × Json)) (key : String) :
    (Json.object members).get? key = members.lookup key := by
  induction members with
  | nil => rfl
  | cons entry rest ih =>
      obtain ⟨name, v⟩ := entry
      change List.lookup _ ((utf16 name, v) :: _) = _
      rw [List.lookup_cons, List.lookup_cons]
      have hKey : (utf16 key == utf16 name) = (key == name) := by
        rw [Bool.eq_iff_iff, beq_iff_eq, beq_iff_eq, utf16_inj]
      rw [hKey]
      split
      · rfl
      · exact ih

end ArioProof
