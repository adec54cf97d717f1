import ArioProof.Data.Evidence
import ArioProof.Data.Mapping

/-! The verdict object of an export, and the projection on which a cached copy
has to agree. The two kernels build the same wire object from the same
results, so it is defined once. -/
namespace ArioProof

/-- The entry of one attestation; an empty gateway label is left out. -/
def attestationEntry (a : AttestationResult) : Json :=
  .object ([("operator", .str a.operator)] ++
    (match a.gateway with
      | some gateway => if gateway.isEmpty then [] else [("gateway", .str gateway)]
      | none => []) ++
    [("signature_ok", .bool a.signatureOk),
      ("operator_address_bound", .bool a.operatorAddressBound),
      ("data_hash_bound", .bool a.dataHashBound)] ++
    (match a.level with
      | some level => [("level", level)]
      | none => []) ++
    [("subject_ref_ok", .ofOption a.subjectRefOk)])

/-- The status of an event in a verdict: failed, open where its record is
withheld, and else verified. -/
def eventVerdictStatus (e : EventResult) : Status :=
  if !e.ok then .failed
  else if e.payloadBindingOk = none then .partly
  else .verified

/-- An event in a verdict, with the outcome of each check. -/
def eventEntry (e : EventResult) : Json :=
  .object [("event_id", .str e.eventId), ("signature_ok", .bool e.envelopeOk),
    ("payload_bound", .ofOption e.payloadBindingOk), ("inclusion_ok", .bool e.inclusionOk),
    ("content_ok", .ofOption e.contentOk), ("status", .str (eventVerdictStatus e).wire)]

/-- The outcome of a re-fetch in a verdict: the rollup, whether it confirms, and
what each gateway answered, in the order they were asked. -/
def toVerdictOnChain (o : OnChainResult) : Json :=
  .object [("rollup", .str o.rollup.wire), ("on_chain_ok", .ofOption o.onChainOk),
    ("per_gateway", .arr (o.perGateway.map fun g =>
      .object [("gateway", .str g.gateway), ("outcome", .str g.outcome.wire)]))]

/-- A checkpoint in a verdict, with the attestations that name its transaction
id. -/
def checkpointEntry (attestations : List AttestationResult) (c : CheckpointResult) : Json :=
  .object [("checkpoint_tx_id", .str c.txId), ("merkle_root_ok", .bool c.merkleRootOk),
    ("on_chain", match c.onChain with
      | some onChain => toVerdictOnChain onChain
      | none => .null),
    ("attestations", .arr ((attestations.filter (·.checkpointTxId = c.txId)).map attestationEntry))]

/-- How many events and attestations passed, failed or are open. An attestation is
never open, so that only events are counted there. -/
def verdictCounts (events : List EventResult) (attestations : List AttestationResult) : Json :=
  let statuses := events.map eventVerdictStatus
  .object [
    ("verified", .int (statuses.count .verified + attestations.countP (·.ok) : Nat)),
    ("failed", .int (statuses.count .failed + attestations.countP (!·.ok) : Nat)),
    ("undetermined", .int
      (statuses.countP fun s => decide (s ≠ .failed ∧ s ≠ .verified) : Nat))]

/-- The verdict over a source result and its attestations, which bears the status
of the source until the rollup is known. -/
def buildVerdictObject (source : EvidenceBundleResult) (attestations : List AttestationResult) :
    Json :=
  .object [("schema_version", .str verdictSchemaVersion),
    ("status", .str (if source.status = .malformed then Status.failed else source.status).wire),
    ("counts", verdictCounts source.events attestations),
    ("events", .arr (source.events.map eventEntry)),
    ("checkpoints", .arr (source.checkpoints.map (checkpointEntry attestations))),
    ("custody_chain", .null)]

/-- A list under a key, empty when the value there is no list. -/
def Json.listAt (v : Json) (key : String) : List Json := (v.get key).arr?.getD []

/-- `{key: v.get(key) for key in keys}`, null where a key is missing. -/
def pick (keys : List String) (v : Json) : List (String × Json) :=
  keys.map fun key => (key, v.get key)

/-- The part of an event that two verdicts have to agree on. -/
def projectEvent (e : Json) : Json :=
  .object (pick ["event_id", "signature_ok", "payload_bound", "inclusion_ok", "content_ok"] e)

/-- The part of an attestation that two verdicts have to agree on. -/
def projectAttestation (a : Json) : Json :=
  .object (pick ["operator", "signature_ok", "operator_address_bound", "data_hash_bound",
    "subject_ref_ok"] a)

/-- The part of a checkpoint that two verdicts have to agree on. -/
def projectCheckpoint (c : Json) : Json :=
  .object (pick ["checkpoint_tx_id", "merkle_root_ok"] c ++
    [("attestations", .arr ((c.listAt "attestations").map projectAttestation))])

/-- The agreement projection. It reads a garbled verdict as an empty one. -/
def projectVerdictForAgreement (v : Json) : Json :=
  .object [("schema_version", if (v.get "schema_version").isStr then v.get "schema_version" else .null),
    ("events", .arr ((v.listAt "events").map projectEvent)),
    ("checkpoints", .arr ((v.listAt "checkpoints").map projectCheckpoint))]

/-- The one-line summary of a verdict, with the counts of its events and of its
attestations. -/
def summarizeExport (status : Status) (source : EvidenceBundleResult)
    (attestations : List AttestationResult) : Str :=
  fstring ["Export ", status.wire, ": source bundle ", source.status.wire, " (",
    decimal source.events.length, " event(s) across ", decimal source.checkpoints.length,
    " checkpoint(s)); ", decimal (attestations.countP (·.ok)), "/", decimal attestations.length,
    " operator attestation(s) valid."]

/-- The rollup of an export: failed for a link, an agreement or a record that does
not hold, and else the status of its source. -/
def exportStatus (sourceLinkageOk verdictAgreementOk : Bool) (source : Status)
    (attestations : List AttestationResult) : Status :=
  if !sourceLinkageOk || !verdictAgreementOk || source = .failed || source = .malformed ||
      attestations.any (!·.ok) then .failed
  else if source = .partly then .partly
  else .verified

end ArioProof
