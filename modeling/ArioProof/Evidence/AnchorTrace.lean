import ArioProof.Evidence.Kernel

/-! The `ario.anchor.trace/v1` body: one loop over the checkpoints, one over the
events, the optional re-fetch from gateways, and the rollup. -/
namespace ArioProof

open Foundation

variable {ε : Type} (K : Kernel ε)

/-- One turn of the checkpoint loop: the entry by itself, with a note where its
transaction id was seen before. -/
def checkpointRow (byTxId : List (Str × Json)) (cp : Json) : CheckpointResult :=
  let (envelopeOk, merkleRootOk, notes) := K.checkCheckpoint cp
  { txId := rowTxId cp
    envelopeOk := envelopeOk
    merkleRootOk := merkleRootOk
    onChainOk := none
    onChain := none
    ok := envelopeOk && merkleRootOk
    errors := txIdErrors byTxId cp ++ notes }

/-- The checkpoint loop: the map of transaction ids and the rows. -/
def verifyCheckpoints (byTxId : List (Str × Json)) :
    List Json → Except ε (List (Str × Json) × List CheckpointResult)
  | [] => .ok (byTxId, [])
  | cp :: rest => do
      K.checkEntry "tx_id" cp
      let (final, rows) ← verifyCheckpoints (registerTxId byTxId cp) rest
      return (final, checkpointRow K byTxId cp :: rows)

/-- One turn of the event loop: the envelope, the inclusion under the checkpoint
that the proof names, and the content. -/
def eventRow (byTxId : List (Str × Json)) (content : Str → Option SideContent) (ev : Json) :
    EventResult :=
  let eventId := getEventId (ev.get "envelope")
  let (envelopeOk, payloadBindingOk, notes) := K.checkEvent ev
  let incl := ev.get "inclusion"
  let cp := resolveCheckpoint byTxId incl
  let (inclusionOk, inclusionErrors) :=
    match cp with
    | some cp => K.checkInclusion ev incl cp
    | none => (false, [])
  let (contentOk, contentErrors) := K.evaluateContent ev eventId content
  { eventId := eventId
    envelopeOk := envelopeOk
    payloadBindingOk := payloadBindingOk
    inclusionOk := inclusionOk
    checkpointBound := cp.isSome
    contentOk := contentOk
    ok := envelopeOk && inclusionOk && cp.isSome && contentOk != some false
    errors := notes ++
      (if !K.holdsInclusion incl then [utf16 "event missing inclusion proof"]
      else if cp.isNone then
        [fstring ["event inclusion.checkpoint_tx_id ", K.quote (incl.get? "checkpoint_tx_id"),
          " resolves to no checkpoint"]]
      else []) ++ inclusionErrors ++ contentErrors }

/-- The event loop, which stops at the first entry that cannot be read. -/
def verifyEvents (byTxId : List (Str × Json)) (content : Str → Option SideContent) :
    List Json → Except ε (List EventResult)
  | [] => .ok []
  | ev :: rest => do
      K.checkEntry "envelope" ev
      let rows ← verifyEvents byTxId content rest
      return eventRow K byTxId content ev :: rows

section OnChain

def slash : UInt16 := 0x2F

def rstripSlash (gateway : Str) : Str := (gateway.reverse.dropWhile (· = slash)).reverse

/-- Only an entry that was found under its id is fetched, so it has one. -/
def gatewayUrl (cp : Json) (gateway : Str) : Str := fstring [rstripSlash gateway, "/", rowTxId cp]

/-- What an answer says about the expected bytes. Bytes that differ may still be
another spelling of the same value, which is looked at in canonical form; an
answer that cannot be parsed contradicts. -/
def classifyAnswer (expected : Option Bytes) (answer : Option Bytes) : Outcome :=
  match answer with
  | none => .unreachable
  | some onChainBytes =>
      match expected with
      | none => .mismatch
      | some expected =>
          if onChainBytes = expected then .confirm
          else
            match K.jsonParse onChainBytes with
            | .error _ => .mismatch
            | .ok parsed =>
                match K.canonical parsed with
                | .ok canonical => if canonical = expected then .confirm else .mismatch
                | .error _ => .mismatch

/-- One probe for each gateway in turn, with the requests made so far. -/
def probeGateways (cp : Json) (expected : Option Bytes) (fetch : Fetch) :
    List Str → List Str → List PerGatewayOutcome × List Str
  | requests, [] => ([], requests)
  | requests, gateway :: rest =>
      let url := gatewayUrl cp gateway
      let outcome := classifyAnswer K expected (fetch requests url)
      let (outcomes, requests) := probeGateways cp expected fetch (requests ++ [url]) rest
      (⟨gateway, outcome⟩ :: outcomes, requests)

/-- The worst finding wins: one gateway with other bytes outweighs any number that
confirm. -/
def rollupOnChain (perGateway : List PerGatewayOutcome) : OnChainResult :=
  let rollup : Outcome :=
    if perGateway.any (·.outcome = .mismatch) then .mismatch
    else if perGateway.any (·.outcome = .confirm) then .confirm
    else .unreachable
  { rollup := rollup
    onChainOk := match rollup with
      | .mismatch => some false
      | .confirm => some true
      | .unreachable => none
    perGateway := perGateway }

def refetchError (cp : Json) (rollup : Outcome) : List Str :=
  match rollup with
  | .mismatch =>
      [fstring ["on-chain bytes at ", rowTxId cp, " do not match the bundle's checkpoint envelope"]]
  | .unreachable => [fstring ["checkpoint ", rowTxId cp, " unreachable on all gateways"]]
  | .confirm => []

/-- A row after the re-fetch of its checkpoint, and the requests made so far. -/
def refetchRow (byTxId : List (Str × Json)) (gateways : List Str) (fetch : Fetch)
    (requests : List Str) (row : CheckpointResult) : CheckpointResult × List Str :=
  match byTxId.lookup row.txId with
  | none => (row, requests)
  | some cp =>
      let (perGateway, requests) :=
        probeGateways K cp (K.expectedBytes cp) fetch requests gateways
      let onChain := rollupOnChain perGateway
      ({ row with
          onChain := some onChain
          onChainOk := onChain.onChainOk
          errors := row.errors ++ refetchError cp onChain.rollup
          ok := row.envelopeOk && row.merkleRootOk && onChain.onChainOk != some false },
        requests)

def refetchRows (byTxId : List (Str × Json)) (gateways : List Str) (fetch : Fetch) :
    List Str → List CheckpointResult → List CheckpointResult
  | _, [] => []
  | requests, row :: rest =>
      let (row, requests) := refetchRow K byTxId gateways fetch requests row
      row :: refetchRows byTxId gateways fetch requests rest

/-- A fetched row that no gateway answered for. Such a row neither confirms nor
contradicts what was claimed. -/
def isUnavailable (row : CheckpointResult) : Bool :=
  match row.onChain with
  | some onChain => onChain.rollup = .unreachable
  | none => false

/-- The optional re-fetch: rows, whether a gateway was unavailable, and notes. -/
def refetch (byTxId : List (Str × Json)) (options : Options) (rows : List CheckpointResult) :
    List CheckpointResult × Bool × List Str :=
  if options.gateways.isEmpty then (rows, false, [])
  else
    match options.fetchImpl with
    | none =>
        (rows, true, ["on-chain re-fetch requested but no fetch implementation is available"])
    | some fetch =>
        let rows := refetchRows K byTxId options.gateways fetch [] rows
        (rows, rows.any isUnavailable, [])

end OnChain

section Rollup

def anyHardFailure (rows : List CheckpointResult) (events : List EventResult) : Bool :=
  rows.any (!·.ok) || events.any (!·.ok)

def rollupStatus (rows : List CheckpointResult) (events : List EventResult)
    (gatewayUnavailable : Bool) : Status :=
  let allCheckpointsOk := !rows.isEmpty && rows.all (·.ok)
  let allEventsOk := events.all (·.ok)
  let anyWithheldRecord := events.any (·.payloadBindingOk = none)
  if anyHardFailure rows events then .failed
  else if gatewayUnavailable then .partly
  else if anyWithheldRecord then .partly
  else if allCheckpointsOk && allEventsOk then .verified
  else .partly

end Rollup

def verifyAnchorTrace (b : Json) (bodyType : Str) (specVersionOk : Bool)
    (assertedStatus : Option Str) (errors : List Str) (options : Options) :
    Except ε EvidenceBundleResult := do
  let body := b.get "body"
  K.checkBody body
  match body.get "checkpoints", body.get "events" with
  | .arr checkpoints, .arr events =>
      let (byTxId, rows) ← verifyCheckpoints K [] checkpoints
      let eventResults ← verifyEvents K byTxId options.content events
      let (rows, gatewayUnavailable, notes) := refetch K byTxId options rows
      return {
        status := rollupStatus rows eventResults gatewayUnavailable
        specVersionOk := specVersionOk
        bodyHashOk := true
        signatureOk := true
        bodyType := some bodyType
        onChainChecked := !options.gateways.isEmpty
        checkpoints := rows
        events := eventResults
        assertedStatus := assertedStatus
        exported := none
        errors := errors ++ notes ++
          (if !anyHardFailure rows eventResults && gatewayUnavailable then
            [utf16 "one or more checkpoints could not be re-fetched from the supplied gateways"]
          else []) }
  | _, _ =>
      return malformed "ario.anchor.trace/v1 body must have checkpoints[] and events[]" true

end ArioProof
