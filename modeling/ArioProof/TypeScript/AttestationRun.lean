import ArioProof.TypeScript.Evidence

/-! What an attestation record of TypeScript has come through: everything up to
its signature, and then its two bindings. -/
namespace ArioProof.TypeScript

open Foundation

variable {R : Runtime}

/-- The key of a record, whose texts are there once its shape is. -/
def recordKey (rec : Json) : RsaKey :=
  ⟨((rec.get "public_key").get "n").str?.getD [], ((rec.get "public_key").get "e").str?.getD []⟩

def recordTxId (rec : Json) : Str := (rec.get "checkpoint_tx_id").str?.getD []

def recordOperator (rec : Json) : Str := ((rec.get "payload").get "operator").str?.getD []

/-- The shape that the checks of a record ask for. -/
theorem attestationComplaint_eq_none_iff {quote : Option Json → Str} {rec : Json} :
    attestationComplaint quote rec = none ↔ rec.isObj = true ∧ (rec.get "payload").isObj = true ∧
      (rec.get "signature_alg").str? = some (utf16 "rsa-pss-sha256") ∧
      ((rec.get "public_key").isObj = true ∧
        ((rec.get "public_key").get "kty").str? = some (utf16 "RSA") ∧
        ((rec.get "public_key").get "n").isStr = true ∧
        ((rec.get "public_key").get "e").isStr = true) ∧
      (rec.get "signature").isStr = true := by
  dsimp only [attestationComplaint]
  split_ifs with hRec hPayload hAlg hPub hSignature
  · simp_all
  · simp_all
  · simp_all
  · -- a key that is no JWK lacks one of the four
    simp only [Bool.or_eq_true, Bool.not_eq_true', decide_eq_true_eq] at hPub
    rcases hPub with ((hPub | hPub) | hPub) | hPub <;> simp [hPub]
  · simp_all
  · simp_all

/-- A record in which nothing is malformed: its shape, its payload, its signature
text and its key can all be read. -/
structure RecordReads (R : Runtime) (rec : Json) : Prop where
  complaint : attestationComplaint (quote R) rec = none
  signature : ∃ canonical signatureOk, jcs R (some (rec.get "payload")) = .ok canonical ∧
    verifyRsaPssSha256 R (utf8 canonical) ((rec.get "signature").str?.getD []) (recordKey rec) =
      .ok signatureOk
  address : ∃ derived, deriveOperatorAddress R (recordKey rec).n = .ok derived

/-- Exactly such a record is not reported as malformed. -/
theorem verifyAttestation_reads_iff {rec : Json} {checkpoints : List (Str × Json)} :
    (verifyAttestation R rec checkpoints).2 = none ↔ RecordReads R rec := by
  constructor
  · intro h
    unfold verifyAttestation at h
    cases hComplaint : attestationComplaint (quote R) rec with
    | some complaint => simp [hComplaint] at h
    | none =>
        simp only [hComplaint] at h
        cases hPayload : jcs R (some (rec.get "payload")) with
        | error text => simp [hPayload] at h
        | ok canonical =>
            simp only [hPayload] at h
            cases hSignature : verifyRsaPssSha256 R (utf8 canonical)
                ((rec.get "signature").str?.getD []) (recordKey rec) with
            | error text =>
                rw [recordKey] at hSignature
                simp [hSignature] at h
            | ok signatureOk =>
                cases hDerived : deriveOperatorAddress R (recordKey rec).n with
                | error text =>
                    rw [recordKey] at hSignature hDerived
                    simp [hSignature, hDerived] at h
                | ok derived =>
                    exact ⟨hComplaint, ⟨canonical, signatureOk, hPayload, hSignature⟩, derived,
                      hDerived⟩
  · rintro ⟨hComplaint, ⟨canonical, signatureOk, hPayload, hSignature⟩, derived, hDerived⟩
    rw [recordKey] at hSignature hDerived
    unfold verifyAttestation
    simp only [hComplaint, hPayload, hSignature, hDerived]

/-- The signature of the record holds over its payload. -/
structure RecordSigned (R : Runtime) (rec : Json) : Prop where
  complaint : attestationComplaint (quote R) rec = none
  verified : ∃ canonical, jcs R (some (rec.get "payload")) = .ok canonical ∧
    verifyRsaPssSha256 R (utf8 canonical) ((rec.get "signature").str?.getD []) (recordKey rec) =
      .ok true

/-- Its operator is the address of its key, and its content that of its checkpoint. -/
structure RecordBound (R : Runtime) (rec : Json) (checkpoints : List (Str × Json)) : Prop where
  named : recordOperator rec ≠ []
  address : deriveOperatorAddress R (recordKey rec).n = .ok (recordOperator rec)
  content : (bindDataHash R (rec.get "payload") (recordTxId rec)
    (checkpoints.lookup (recordTxId rec))).1 = true

/-- A transaction id that names nothing binds nothing. -/
theorem isSome_of_bindDataHash {payload : Json} {txId : Str} {cp : Option Json}
    (h : (bindDataHash R payload txId cp).1 = true) : cp.isSome = true := by
  cases cp with
  | none => simp [bindDataHash] at h
  | some cp => rfl

theorem signatureOk_iff (rec : Json) (checkpoints : List (Str × Json)) :
    (verifyAttestation R rec checkpoints).1.signatureOk = true ↔ RecordSigned R rec := by
  have hParts : RecordSigned R rec ↔ attestationComplaint (quote R) rec = none ∧
      ∃ canonical, jcs R (some (rec.get "payload")) = .ok canonical ∧
        verifyRsaPssSha256 R (utf8 canonical) ((rec.get "signature").str?.getD [])
          (recordKey rec) = .ok true :=
    ⟨fun h => ⟨h.complaint, h.verified⟩, fun h => ⟨h.1, h.2⟩⟩
  rw [hParts, verifyAttestation, recordKey]
  cases attestationComplaint (quote R) rec with
  | some complaint => simp [emptyAttestation]
  | none =>
      cases hPayload : jcs R (some (rec.get "payload")) with
      | error text => simp [labelled, emptyAttestation, hPayload]
      | ok canonical =>
          cases hSignature : verifyRsaPssSha256 R (utf8 canonical)
              ((rec.get "signature").str?.getD [])
              ⟨((rec.get "public_key").get "n").str?.getD [],
                ((rec.get "public_key").get "e").str?.getD []⟩ with
          | error text => simp [labelled, emptyAttestation, hPayload, hSignature]
          | ok signatureOk =>
              cases hDerived : deriveOperatorAddress R
                  (((rec.get "public_key").get "n").str?.getD []) <;>
                simp [hPayload, hSignature, hDerived]

theorem ok_iff (rec : Json) (checkpoints : List (Str × Json)) :
    (verifyAttestation R rec checkpoints).1.ok = true ↔
      RecordSigned R rec ∧ RecordBound R rec checkpoints := by
  rw [← signatureOk_iff rec checkpoints]
  have hParts : RecordBound R rec checkpoints ↔ recordOperator rec ≠ [] ∧
      deriveOperatorAddress R (recordKey rec).n = .ok (recordOperator rec) ∧
      (bindDataHash R (rec.get "payload") (recordTxId rec)
        (checkpoints.lookup (recordTxId rec))).1 = true :=
    ⟨fun h => ⟨h.named, h.address, h.content⟩, fun h => ⟨h.1, h.2.1, h.2.2⟩⟩
  rw [hParts, verifyAttestation, recordKey, recordOperator, recordTxId]
  cases attestationComplaint (quote R) rec with
  | some complaint => simp [emptyAttestation]
  | none =>
      cases hPayload : jcs R (some (rec.get "payload")) with
      | error text => simp [labelled, emptyAttestation, hPayload]
      | ok canonical =>
          cases hSignature : verifyRsaPssSha256 R (utf8 canonical)
              ((rec.get "signature").str?.getD [])
              ⟨((rec.get "public_key").get "n").str?.getD [],
                ((rec.get "public_key").get "e").str?.getD []⟩ with
          | error text => simp [labelled, emptyAttestation, hPayload, hSignature]
          | ok signatureOk =>
              cases hDerived : deriveOperatorAddress R
                  (((rec.get "public_key").get "n").str?.getD []) with
              | error text => simp [labelled, emptyAttestation, hPayload, hSignature, hDerived]
              | ok derived =>
                  simp only [hPayload, hSignature, hDerived, labelled, emptyAttestation,
                    Bool.and_eq_true, Bool.not_eq_true', List.isEmpty_eq_false_iff,
                    Except.ok.injEq]
                  constructor
                  · rintro ⟨⟨⟨hSigned, hNamed, hSame⟩, hContent⟩, -⟩
                    exact ⟨hSigned, hNamed, of_decide_eq_true hSame, hContent⟩
                  · rintro ⟨hSigned, hNamed, hSame, hContent⟩
                    exact ⟨⟨⟨hSigned, hNamed, decide_eq_true hSame⟩, hContent⟩,
                      isSome_of_bindDataHash hContent⟩

/-- The operator of a record that has its shape is the one it names. -/
theorem operator_of_complaint {rec : Json} (h : attestationComplaint (quote R) rec = none)
    (checkpoints : List (Str × Json)) :
    (verifyAttestation R rec checkpoints).1.operator = recordOperator rec := by
  rw [verifyAttestation, h]
  dsimp only
  split
  · rfl
  · split
    · rfl
    · split <;> rfl

end ArioProof.TypeScript
