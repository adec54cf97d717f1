import ArioProof.Evidence.Kernel
import ArioProof.TypeScript.Evidence

/-! `agent-proof.ts`: the inclusion proof of an agent, and the optional re-fetch
of its checkpoint. -/
namespace ArioProof.TypeScript

open Foundation

/-- What a request comes back with. The body of a response that is `ok` may
still fail to be read. -/
inductive Response where
  | rejected
  | notOk
  | unreadable
  | body (bytes : Bytes)
  deriving DecidableEq, Repr

/-- The response to a request may depend on the requests made before it. -/
abbrev FetchImpl := (requests : List Str) → (url : Str) → Response

structure VerifyAgentProofOptions where
  gateways : List Str
  fetchImpl : Option FetchImpl

def VerifyAgentProofOptions.offline : VerifyAgentProofOptions := ⟨[], none⟩

structure AgentProofResult where
  status : Status
  checkpointOk : Bool
  inclusionOk : Bool
  onChainOk : Option Bool
  onChainChecked : Bool
  leafIndex : Double
  leafCount : Option Double
  checkpointTxId : Option Str
  errors : List Str
  deriving DecidableEq

variable (R : Runtime)

section Shape

def agentProofSpecPrefix : String := "ario.agent.proof/v1"

/-- The major version of an agent proof. Anything may follow the dot. -/
def isAgentProofSpec (specVersion : Json) : Bool :=
  match specVersion with
  | .str s => s = agentProofSpecPrefix || List.isPrefixOf (utf16 (agentProofSpecPrefix ++ ".")) s
  | _ => false

/-- A value for which `typeof` says `"object"`, null apart. Arrays are among them,
which Python tells from objects. -/
def isObjectLike (v : Json) : Bool := v.isObj || v.isArr

/-- What makes a bundle malformed, in the order in which it is looked for. -/
def agentProofComplaint (bundle : Json) : Option Str :=
  if !bundle.isObj then some "agent proof bundle is not a JSON object"
  else if exceedsDepth bundle maxCanonicalDepth then
    some "agent proof bundle nesting exceeds the 128-level canonicalization depth bound"
  else if !isAgentProofSpec (bundle.get "spec_version") then
    some (fstring ["unsupported agent-proof spec_version: ",
      quote R (bundle.get? "spec_version")])
  else if !isObjectLike (bundle.get "checkpoint_envelope") then
    some "agent proof bundle missing checkpoint_envelope"
  else if !isObjectLike (bundle.get "leaf") then some "agent proof bundle missing leaf"
  else if !(bundle.get "audit_path").isArr then some "agent proof bundle missing audit_path[]"
  else none

def malformedAgentProof (error : Str) : AgentProofResult where
  status := .malformed
  checkpointOk := false
  inclusionOk := false
  onChainOk := none
  onChainChecked := false
  leafIndex := .finite (-1)
  leafCount := none
  checkpointTxId := none
  errors := [error]

end Shape

section Proof

/-- The root that the payload of a checkpoint commits to, where it is text. -/
def committedRoot (b : Json) : Option Str :=
  (((b.get "checkpoint_envelope").get "payload").get "merkle_root").str?

def committedCount (b : Json) : Option Double :=
  number? (((b.get "checkpoint_envelope").get "payload").get "leaf_count")

/-- Step 1, the envelope of the checkpoint and what its payload has to name.
Nothing inside its `try` block throws. -/
def checkCheckpointEnvelope (b : Json) : Bool × List Str :=
  let res := verifyEnvelope R (b.get? "checkpoint_envelope") none none
  (res.ok && res.payloadHashOk = some true,
    (if res.signatureOk then [] else [utf16 "checkpoint envelope signature failed"]) ++
      (if res.payloadHashOk = some true then []
        else [utf16 "checkpoint envelope payload binding failed"]) ++
      (if (committedRoot b).isSome then []
        else [utf16 "checkpoint payload missing merkle_root"]) ++
      (if (committedCount b).isSome then []
        else [utf16 "checkpoint payload missing leaf_count"]))

/-- The `try` block of steps 2 to 4: the leaf hash, the decoded siblings and root,
and the walk. Any exception ends as an inclusion that does not hold. -/
def walkLeaf (b : Json) (merkleRoot : Str) : Except Str Bool := do
  let canonical ← jcs R (b.get? "leaf")
  let path ← (b.listAt "audit_path").mapM fun h => hexToBytes R (some h)
  let root ← hexToBytes R (some (.str merkleRoot))
  verifyInclusion R (leafHash R (utf8 canonical)) (b.get? "leaf_index")
    (((b.get "checkpoint_envelope").get "payload").get? "leaf_count") path root

/-- Steps 2 to 4, which need a root and a count. -/
def checkLeaf (b : Json) : Bool × List Str :=
  match committedRoot b, committedCount b with
  | some merkleRoot, some _ =>
      match walkLeaf R b merkleRoot with
      | .error text => (false, [fstring ["inclusion verify error: ", text]])
      | .ok true => (true, [])
      | .ok false =>
          (false, [utf16 "RFC 9162 inclusion proof did not reconstruct merkle_root"])
  | _, _ => (false, [])

end Proof

section OnChain

structure RefetchResult where
  ok : Option Bool
  unavailable : Bool
  error : Option Str

/-- Bytes that are the expected ones, or are parsed and canonicalized to them
inside the inner `try` block. -/
def matchesEnvelope (expected onChain : Bytes) : Bool :=
  onChain = expected ||
    match (do
      let parsed ← R.jsonParse onChain
      let canonical ← jcs R (some parsed)
      return utf8 canonical : Except Str Bytes) with
    | .ok canonical => canonical = expected
    | .error _ => false

/-- The loop over the gateways. The first body that is read decides; a response
that is `ok` counts as reachable before its body is. -/
def refetchLoop (expected : Bytes) (txId : Option Json) (fetchImpl : FetchImpl)
    (anyReachable : Bool) (requests : List Str) : List Str → Except Str RefetchResult
  | [] => do
      let shown ← display R txId
      if anyReachable then
        return ⟨some false, false,
          some (fstring ["checkpoint ", shown, " mismatched on every gateway"])⟩
      else
        return ⟨none, true, some (fstring ["checkpoint ", shown, " unreachable on all gateways"])⟩
  | gateway :: rest => do
      let shown ← display R txId
      let url := fstring [rstripSlash gateway, "/", shown]
      match fetchImpl requests url with
      | .rejected | .notOk =>
          refetchLoop expected txId fetchImpl anyReachable (requests ++ [url]) rest
      | .unreadable => refetchLoop expected txId fetchImpl true (requests ++ [url]) rest
      | .body onChain =>
          if matchesEnvelope R expected onChain then return ⟨some true, false, none⟩
          else
            return ⟨some false, false, some (fstring
              ["on-chain bytes at ", shown, " do not match the checkpoint envelope"])⟩

def refetch (envelope txId : Option Json) (gateways : List Str) (fetchImpl : FetchImpl) :
    Except Str RefetchResult :=
  match jcs R envelope with
  | .error text => .ok ⟨some false, false,
      some (fstring ["cannot canonicalize checkpoint envelope: ", text])⟩
  | .ok canonical => refetchLoop R (utf8 canonical) txId fetchImpl false [] gateways

/-- Step 5: the optional re-fetch of the checkpoint envelope. Without a gateway
nothing is asked for, and without a fetch implementation the question stays
open. -/
def checkOnChain (b : Json) (options : VerifyAgentProofOptions) : Except Str RefetchResult :=
  if options.gateways.isEmpty then .ok ⟨none, false, none⟩
  else
    match options.fetchImpl with
    | none => .ok ⟨none, true,
        some "on-chain re-fetch requested but no fetch implementation is available"⟩
    | some fetchImpl =>
        refetch R (b.get? "checkpoint_envelope") (b.get? "checkpoint_tx_id") options.gateways
          fetchImpl

end OnChain

def agentProofStatus (checkpointOk inclusionOk : Bool) (outcome : RefetchResult) : Status :=
  if !checkpointOk || !inclusionOk || outcome.ok = some false then .failed
  else if outcome.unavailable then .partly
  else .verified

/-- What step 5 throws is thrown by the verifier: a transaction id that has no
text makes no URL. -/
def verifyAgentProofBundle (bundle : Json) (options : VerifyAgentProofOptions) :
    Except Str AgentProofResult :=
  match agentProofComplaint R bundle with
  | some complaint => .ok (malformedAgentProof complaint)
  | none => do
      let (checkpointOk, checkpointErrors) := checkCheckpointEnvelope R bundle
      let (inclusionOk, inclusionErrors) := checkLeaf R bundle
      let outcome ← checkOnChain R bundle options
      return {
        status := agentProofStatus checkpointOk inclusionOk outcome
        checkpointOk := checkpointOk
        inclusionOk := inclusionOk
        onChainOk := outcome.ok
        onChainChecked := !options.gateways.isEmpty
        leafIndex := (number? (bundle.get "leaf_index")).getD (.finite (-1))
        leafCount := committedCount bundle
        checkpointTxId := (bundle.get "checkpoint_tx_id").str?
        errors := checkpointErrors ++ inclusionErrors ++ outcome.error.toList }

end ArioProof.TypeScript
