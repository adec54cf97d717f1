import ArioProof.Data.Verdict
import ArioProof.Reference.Runtime

/-! Bundles for concrete runs, with their hashes as numbers. What was signed is
a pair: the digest of the message and the signature. -/
namespace ArioProof.Reference

open Foundation

/-- A number as hex text, in as many octets as it is given. -/
def hexText (width value : Nat) : Json := .str (Hex.encode (octets width value))

/-- The canonical bytes of a record as hex text. -/
def recordHex (record : Json) : Json :=
  .str (Hex.encode (((canonicalText record).getD []).map UInt16.toUInt8))

/-- The one Ed25519 key of these bundles, by its seed. -/
def seed : Nat := 0x9d61b19deffd5a60ba844af492ec2cc44449c5697b326919703bac031cae7f60

/-- The Ed25519 key that every sample is signed with. -/
def publicKey : Nat := 0xd75a980182b10ab7d54bfed3c964073a0ee172f3daa62325af021a68f707511a

/-- The signatures made with this key, by the digests of the messages. -/
def signedWith (table : List (Nat × Nat)) : Signatures where
  publicKeys := [(seed, publicKey)]
  ed25519 := table.map fun (digest, signature) => ⟨publicKey, digest, signature⟩
  rsa := []

/-- A signed envelope over the hash of a record. -/
def envelope (eventId : String) (payloadHash : Nat) (signed : Nat × Nat) : Json :=
  .object [("spec_version", .str "ario.events/v1"), ("event_id", .str eventId),
    ("payload_hash", hexText 32 payloadHash), ("public_key", hexText 32 publicKey),
    ("signature", hexText 64 signed.2)]

/-- The record of a checkpoint: a root and the number of its leaves. -/
def rootRecord (root count : Nat) : Json :=
  .object [("event", .object [("leaf_count", .int count), ("merkle_root", hexText 32 root)])]

/-- A checkpoint entry with its record. -/
def checkpoint (txId : String) (root count payloadHash : Nat) (signed : Nat × Nat) : Json :=
  .object [("tx_id", .str txId), ("merkle_root", hexText 32 root),
    ("envelope", envelope txId payloadHash signed),
    ("record_bytes", recordHex (rootRecord root count))]

/-- An inclusion proof of a leaf, in the form that entries carry. -/
def inclusion (txId : String) (index count leaf : Nat) (path : List Nat) : Json :=
  .object [("checkpoint_tx_id", .str txId), ("leaf_index", .int index), ("leaf_count", .int count),
    ("leaf_hash", hexText 32 leaf), ("audit_path", .arr (path.map (hexText 32)))]

/-- The record of an event that commits to content by a hash. -/
def contentRecord (contentHash : Nat) : Json :=
  .object [("event", .object [("content_hash", hexText 32 contentHash)])]

/-- An event entry with its record and its inclusion proof. -/
def event (envelope record inclusion : Json) : Json :=
  .object [("envelope", envelope), ("record_bytes", recordHex record), ("inclusion", inclusion)]

/-- A signed wrapper around a body. -/
def wrapper (bodyType : String) (body : Json) (bodyHash : Nat) (signed : Nat × Nat) : Json :=
  .object [("spec_version", .str "ario.evidence/v1"), ("body_type", .str bodyType), ("body", body),
    ("body_hash", hexText 32 bodyHash), ("public_key", hexText 32 publicKey),
    ("signature", hexText 64 signed.2)]

/-- A signed trace of entries. -/
def trace (checkpoints events : List Json) (bodyHash : Nat) (signed : Nat × Nat) : Json :=
  wrapper anchorTraceBodyType
    (.object [("checkpoints", .arr checkpoints), ("events", .arr events)]) bodyHash signed

/-- An export of an inline source, with the parts of its verdict that are
compared. -/
def exporting (source : Json) (sourceHash : Nat) (attestations : List Json)
    (eventEntries checkpointEntries : List Json) (bodyHash : Nat) (signed : Nat × Nat) : Json :=
  wrapper exportBodyType
    (.object [("source_bundle", source), ("source_bundle_hash", hexText 32 sourceHash),
      ("attestations", .arr attestations),
      ("kernel_verdict", .object [("schema_version", .str verdictSchemaVersion),
        ("events", .arr eventEntries), ("checkpoints", .arr checkpointEntries)])]) bodyHash signed

/-- A record an operator signed for a transaction, filed under another one. -/
def attestation (checkpointTxId txId : String) (dataHash operator modulus signature : Nat) : Json :=
  .object [("checkpoint_tx_id", .str checkpointTxId),
    ("payload", .object [("tx_id", .str txId), ("data_hash", hexText 32 dataHash),
      ("operator", .str (Base64.encode (octets 32 operator)))]),
    ("signature_alg", .str "rsa-pss-sha256"),
    ("public_key", .object [("kty", .str "RSA"), ("n", .str (Base64.encode (octets 128 modulus))),
      ("e", .str "AQAB")]),
    ("signature", hexText 128 signature)]

theorem listAt_trace (checkpoints events : List Json) (bodyHash : Nat) (signed : Nat × Nat) :
    ((trace checkpoints events bodyHash signed).get "body").listAt "checkpoints" = checkpoints ∧
      ((trace checkpoints events bodyHash signed).get "body").listAt "events" = events := by
  simp [trace, wrapper, Json.listAt, Json.get, Json.arr?, List.lookup_cons]

/-- The outcome of a run is a result with a property. -/
def returns {ε α : Type} (outcome : Except ε α) (p : α → Bool) : Bool :=
  match outcome with
  | .ok a => p a
  | .error _ => false

/-- A run that was evaluated has a result with what was asked of it. -/
theorem exists_of_returns {ε α : Type} {outcome : Except ε α} {p : α → Bool}
    (h : returns outcome p = true) : ∃ a, outcome = .ok a ∧ p a = true := by
  cases outcome with
  | ok a => exact ⟨a, rfl, h⟩
  | error exc => cases h

/-- The outcome of a run is an exception with a property. -/
def raises {ε α : Type} (outcome : Except ε α) (p : ε → Bool) : Bool :=
  match outcome with
  | .ok _ => false
  | .error exc => p exc

/-- A run that was evaluated raises an exception with what was asked of it. -/
theorem exists_of_raises {ε α : Type} {outcome : Except ε α} {p : ε → Bool}
    (h : raises outcome p = true) : ∃ exc, outcome = .error exc ∧ p exc = true := by
  cases outcome with
  | ok a => cases h
  | error exc => exact ⟨exc, rfl, h⟩

end ArioProof.Reference
