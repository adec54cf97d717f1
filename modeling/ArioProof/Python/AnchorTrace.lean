import ArioProof.Evidence.Kernel
import ArioProof.Python.Envelope
import ArioProof.Python.Merkle
import ArioProof.Python.RsaPss

/-! `evidence.py`, the records of an `ario.anchor.trace/v1` body. Operations on JSON values
of the wrong type raise as Python raises; a `try` block of the source is where
the exception turns into a note. -/
namespace ArioProof.Python

open Foundation

variable (R : Runtime)

/-- `_hex_to_bytes`, which is `bytes.fromhex` behind a check of the type and of
the length. The whitespace that `fromhex` skips counts into the length. -/
def hexToBytes (h : Json) : Except Exc Bytes :=
  match h with
  | .str s =>
      if len s % 2 ≠ 0 then .error (.valueError "not even-length hex")
      else
        match Hex.fromhex s with
        | some bytes => .ok bytes
        | none => .error (.valueError (R.fromhexError s))
  | _ => .error (.valueError "not even-length hex")

/-- The record bytes of a checkpoint or event, absent when they do not decode. -/
def decodeRecord (what : Str) (holder : Json) : Option Bytes × List Str :=
  match holder.get "record_bytes" with
  | .str s =>
      match hexToBytes R (.str s) with
      | .ok bytes => (some bytes, [])
      | .error exc => (none, [fstring [what, " record_bytes is not hex: ", exc.text]])
  | _ => (none, [])

/-- `record.event.<key>` of the committed record, null when the record has no
such shape. -/
def committedField (key : String) (recordBytes : Bytes) : Except Str Json :=
  (R.jsonLoads recordBytes).map fun record => (record.get "event").get key

section Checkpoints

def checkMerkleRoot (cp : Json) (recordBytes : Option Bytes) : Bool × List Str :=
  match recordBytes with
  | none => (false, [])
  | some bytes =>
      match committedField R "merkle_root" bytes with
      | .error text => (false, [fstring ["checkpoint record is not JSON: ", text]])
      | .ok committedRoot =>
          let merkleRootOk :=
            committedRoot.isStr && committedRoot.str? = (cp.get "merkle_root").str?
          (merkleRootOk,
            if merkleRootOk then []
            else [fstring ["checkpoint merkle_root mismatch: claimed=",
              format R (cp.get "merkle_root"), " committed=", format R committedRoot]])

def checkpointEnvelope (cp : Json) : VerificationResult :=
  verifyEnvelope R (cp.get "envelope") (decodeRecord R "checkpoint" cp).1 none false

def checkCheckpoint (cp : Json) : Bool × Bool × List Str :=
  let (recordBytes, recordErrors) := decodeRecord R "checkpoint" cp
  let res := checkpointEnvelope R cp
  let (merkleRootOk, rootErrors) := checkMerkleRoot R cp recordBytes
  (res.ok && res.payloadHashOk = some true, merkleRootOk,
    recordErrors ++
      (if res.signatureOk then [] else [utf16 "checkpoint envelope signature failed"]) ++
      (if res.payloadHashOk = some false then
        [utf16 "checkpoint record does not bind to payload_hash"] else []) ++
      (if res.payloadHashOk = none then
        [utf16 "checkpoint record_bytes missing — root untrusted"] else []) ++ rootErrors)

end Checkpoints

section Inclusion

/-- `bool(v)`: empty containers, empty texts, zeros, `False` and `None` are
false. -/
def truthy : Json → Bool
  | .null => false
  | .bool b => b
  | .int n => n ≠ 0
  | .float (.finite q) => q ≠ 0
  | .float _ => true
  | .str s => !s.isEmpty
  | .arr items => !items.isEmpty
  | .obj members => !members.isEmpty

/-- `for x in v`: the entries of a list, the keys of a mapping, or the characters
of a text. -/
def iterate : Json → Except Exc (List Json)
  | .arr items => .ok items
  | .obj members => .ok (members.map fun entry => .str entry.1)
  | .str s => .ok ((chars s).map .str)
  | v => .error (.typeError (fstring ["'", typeName v, "' object is not iterable"]))

/-- An operand of integer arithmetic; `bool` is a subtype of `int`. -/
def integer? : Json → Option Int
  | .bool b => some (if b then 1 else 0)
  | .int n => some n
  | _ => none

/-- An operand of a comparison. Python compares `int` with `float` exactly. -/
def number? : Json → Option Double
  | .float d => some d
  | v => (integer? v).map fun n => .finite n

/-- `verify_inclusion` on operands of any type. A `float` passes the first
comparisons and fails at the first bit operation, so that it gets through only
where the walk is empty. -/
def verifyInclusionRaw (leaf : Bytes) (leafIndex totalLeaves : Json) (path : List Bytes)
    (expectedRoot : Bytes) : Except Exc Bool :=
  match number? leafIndex with
  | none => .error (.typeError (fstring
      ["'<' not supported between instances of '", typeName leafIndex, "' and 'int'"]))
  | some index =>
      if index.lt (.finite 0) then .ok false
      else
        match number? totalLeaves with
        | none => .error (.typeError (fstring ["'>=' not supported between instances of '",
            typeName leafIndex, "' and '", typeName totalLeaves, "'"]))
        | some total =>
            if total.le index || total.eq (.finite 0) then .ok false
            else
              match integer? leafIndex, integer? totalLeaves with
              | some index, some total => .ok (verifyInclusion R leaf index total path expectedRoot)
              | index?, _ =>
                  if total.eq (.finite 1) then .ok (path.isEmpty && leaf = expectedRoot)
                  else if path.isEmpty then .ok false
                  else if index?.isNone then .error (.typeError
                    "unsupported operand type(s) for &: 'float' and 'int'")
                  else .error (.typeError
                    "unsupported operand type(s) for >>=: 'float' and 'int'")

/-- The siblings of a proof: whatever `audit_path` iterates over, as hex. -/
def inclusionPath (incl : Json) : Except Exc (List Bytes) := do
  let siblings ← if truthy (incl.get "audit_path") then iterate (incl.get "audit_path") else .ok []
  siblings.mapM (hexToBytes R)

/-- The walk of an event's proof, up to the comparison with its own leaf. -/
def walkInclusion (incl cp : Json) : Except Exc Bool := do
  let leaf ← hexToBytes R (incl.get "leaf_hash")
  let path ← inclusionPath R incl
  let expectedRoot ← hexToBytes R (cp.get "merkle_root")
  verifyInclusionRaw R leaf (incl.get "leaf_index") (incl.get "leaf_count") path expectedRoot

/-- The `try` block of an event with a resolved checkpoint. An envelope that
cannot be canonicalized leaves the outcome of the walk as it is. -/
def checkInclusion (ev incl cp : Json) : Bool × List Str :=
  match walkInclusion R incl cp with
  | .error exc => (false, [fstring ["inclusion verify error: ", exc.text]])
  | .ok inclusionOk =>
      let walkErrors : List Str :=
        if inclusionOk then []
        else ["RFC 9162 inclusion proof did not reconstruct the checkpoint root"]
      match canonicalJson R (ev.get "envelope") with
      | .error exc => (inclusionOk, walkErrors ++ [fstring ["inclusion verify error: ", exc.text]])
      | .ok canonical =>
          let expectedLeafHex := Hex.encode (leafHash R canonical)
          -- The walk has decoded `leaf_hash`, so it is a string here.
          if expectedLeafHex ≠ lower R ((incl.get "leaf_hash").str?.getD []) then
            (false, walkErrors ++
              [utf16 "inclusion leaf_hash does not match SHA-256(0x00 || JCS(event envelope))"])
          else (inclusionOk, walkErrors)

end Inclusion

section Content

/-- The committed hashes of an event, from its record first. Only where the record
is withheld or names none are those of the envelope compared. -/
def committedHashes (ev : Json) (recordBytes : Option Bytes) : List Str :=
  let recordContentHash : Option Str :=
    match recordBytes.map (committedField R "content_hash") with
    | some (.ok (.str ch)) => if ch.isEmpty then none else some (lower R ch)
    | _ => none
  match recordContentHash with
  | some h => [h]
  | none =>
      if (ev.get "envelope").isObj then
        (contentHashes (ev.get "envelope")).map fun entry => lower R entry.2
      else []

def inBodyContent (ev : Json) : Option Bytes × List Str :=
  match ev.get "content" with
  | .str s =>
      match hexToBytes R (.str s) with
      | .ok bytes => (some bytes, [])
      | .error exc => (none, [fstring ["event content is not hex: ", exc.text]])
  | _ => (none, [])

def sideContent (content : Str → Option SideContent) (eventId : Str) : Option Bytes × List Str :=
  match content eventId with
  | none => (none, [])
  | some (.raw bytes) => (some bytes, [])
  | some (.hex s) =>
      match hexToBytes R (.str s) with
      | .ok bytes => (some bytes, [])
      | .error exc =>
          (none, [fstring ["supplied content for ", eventId, " is not hex: ", exc.text]])

/-- `_evaluate_content`: in-body content and supplied content, against the hashes
that the event commits to. -/
def evaluateContent (ev : Json) (recordBytes : Option Bytes) (eventId : Str)
    (content : Str → Option SideContent) : Option Bool × List Str :=
  let (inBody, inBodyErrors) := inBodyContent R ev
  let (side, sideErrors) := sideContent R content eventId
  let (contentOk, errors) := bindContent R.crypto (committedHashes R ev recordBytes) inBody side
  (contentOk, inBodyErrors ++ sideErrors ++ errors)

end Content

section Events

def eventEnvelope (ev : Json) : VerificationResult :=
  verifyEnvelope R (ev.get "envelope") (decodeRecord R "event" ev).1 none false

def checkEvent (ev : Json) : Bool × Option Bool × List Str :=
  let res := eventEnvelope R ev
  (res.ok, res.payloadHashOk,
    (decodeRecord R "event" ev).2 ++
      (if res.signatureOk then [] else [utf16 "event envelope signature failed"]) ++
      (if res.payloadHashOk = some false then
        [utf16 "event record does not bind to payload_hash"] else []))

end Events

/-- The bytes a gateway is expected to answer for a checkpoint. -/
def expectedBytes (cp : Json) : Option Bytes :=
  match canonicalJson R (cp.get "envelope") with
  | .ok bytes => some bytes
  | .error _ => none

end ArioProof.Python
