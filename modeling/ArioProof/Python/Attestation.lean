import ArioProof.Evidence.Bundle
import ArioProof.Python.AnchorTrace

/-! `evidence.py`: one embedded operator attestation, and the whole as an
instance of the shared algorithm. -/
namespace ArioProof.Python

open Foundation

variable (R : Runtime)

/-- `_is_sha256_hex`: 64 hex digits in lower case. -/
def isSha256Hex (s : Str) : Bool :=
  len s = 64 && s.all fun c => (0x30 ≤ c.toNat && c.toNat ≤ 0x39) || (0x61 ≤ c.toNat && c.toNat ≤ 0x66)

/-- The labels copied from the signed payload, as the result shows them. -/
def labelled (payload : Json) (result : AttestationResult) : AttestationResult :=
  { result with
    operator := (payload.get "operator").str?.getD []
    gateway := (payload.get "gateway").str?
    level := match payload.get "level" with
      | .int n => some (.int n)
      | _ => none }

/-- The lower-cased commitment of a payload, empty when there is none. -/
def payloadDataHash (payload : Json) : Str :=
  match payload.get "data_hash" with
  | .str s => lower R s
  | _ => []

/-- Step (c): what the record's transaction id resolves to, and whether the
signed data hash is that of its envelope. -/
def bindDataHash (payload : Json) (txId : Str) (cp : Option Json) : Bool × List Str :=
  match cp with
  | none => (false, [fstring ["attestation checkpoint_tx_id ", R.repr (.str txId),
      " resolves to no source checkpoint"]])
  | some cp =>
      match canonicalJson R (cp.get "envelope") with
      | .error exc => (false, [fstring ["cannot recompute checkpoint content hash: ", exc.text]])
      | .ok canonical =>
          let committed := sha256Hex R canonical
          let dataHash := payloadDataHash R payload
          let bound := !dataHash.isEmpty && dataHash = committed
          (bound, if bound then [] else
            [fstring ["data_hash does not bind to the checkpoint's committed content hash: data_hash=",
              dataHash, " committed=", committed]])

/-- `_verify_attestation`: the result, with a message when the record is
malformed rather than failed. -/
def verifyAttestation (rec : Json) (sourceCheckpoints : List (Str × Json)) :
    Except Exc (AttestationResult × Option Str) :=
  match attestationComplaint (quote R) rec with
  | some complaint => .ok (emptyAttestation rec, some complaint)
  | none =>
      let payload := rec.get "payload"
      let pub := rec.get "public_key"
      let result := labelled payload (emptyAttestation rec)
      match canonicalJson R payload with
      | .error exc =>
          .ok (result, some (fstring ["attestation payload canonicalization failed: ", exc.text]))
      | .ok payloadBytes =>
          match verifyRsaPssSha256 R payloadBytes (rec.get "signature") pub with
          | .error (.malformedRsaError text) => .ok (result, some (fstring ["attestation ", text]))
          | .error exc => .error exc
          | .ok signatureOk =>
              let result := { result with
                signatureOk := signatureOk
                errors := if signatureOk then [] else
                  [utf16 "attestation RSA-PSS signature verification failed"] }
              match deriveOperatorAddress R (pub.get "n") with
              | .error (.malformedRsaError text) =>
                  .ok (result, some (fstring ["attestation operator key: ", text]))
              | .error exc => .error exc
              | .ok derived =>
                  let operatorAddressBound := !result.operator.isEmpty && derived = result.operator
                  let cp := sourceCheckpoints.lookup result.checkpointTxId
                  let (dataHashBound, dataErrors) :=
                    bindDataHash R payload result.checkpointTxId cp
                  let (subjectRefOk, subjectErrors) :=
                    evaluateSubjectRef isSha256Hex (payload.get "subject_ref")
                  .ok ({ result with
                    operatorAddressBound := operatorAddressBound
                    dataHashBound := dataHashBound
                    checkpointResolved := cp.isSome
                    subjectRefOk := subjectRefOk
                    ok := signatureOk && operatorAddressBound && dataHashBound && cp.isSome
                    errors := result.errors ++
                      (if operatorAddressBound then [] else
                        [fstring ["operator-address binding failed: derived=", derived,
                          " payload.operator=", result.operator]]) ++
                      dataErrors ++ subjectErrors }, none)

def kernel : Kernel Exc where
  crypto := R.crypto
  canonical v := (canonicalJson R v).mapError Exc.text
  jsonParse := R.jsonLoads
  verifySignature := verifySignature R
  quote := quote R
  checkBody body := if body.isObj then .ok () else .error (noGet body)
  checkEntry _ entry := if entry.isObj then .ok () else .error (noGet entry)
  checkCheckpoint := checkCheckpoint R
  checkEvent := checkEvent R
  holdsInclusion := Json.isObj
  checkInclusion := checkInclusion R
  evaluateContent ev := evaluateContent R ev (decodeRecord R "event" ev).1
  expectedBytes := expectedBytes R
  verifyAttestation := verifyAttestation R

def verifyEvidenceBundle (bundle : Json) (options : Options) : Except Exc EvidenceBundleResult :=
  ArioProof.verifyEvidenceBundle (kernel R) bundle options

end ArioProof.Python
