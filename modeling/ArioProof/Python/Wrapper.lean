import ArioProof.Python.EvidenceRun
import ArioProof.Python.Signing

/-! The wrapper as its issuer makes it, and what the verifier makes of it. -/
namespace ArioProof.Python

open Foundation

variable (R : Runtime)

/-- The wrapper commits to its body, and carries a signature over the rest of
it next to the key it was made with. -/
structure WrapperSigned (b : Json) (key : SigningKey) : Prop where
  bodyHash : ∃ canonical, canonicalJson R (b.get "body") = .ok canonical ∧
    b.get "body_hash" = .str (sha256Hex R canonical)
  publicKey : b.get "public_key" = .str (publicKeyHex R key)
  signature : ∃ message, canonicalJson R (bundleForSig b) = .ok message ∧
    b.get "signature" = .str (Hex.encode (sign R message key))

variable {R} {b : Json} {key : SigningKey}

/-- A signed wrapper that can be read holds. -/
theorem wrapped_of_signed (hSign : R.crypto.Ed25519Correct) (h : WrapperSigned R b key)
    (hObj : b.isObj = true) (hDepth : b.depth ≤ maxCanonicalDepth)
    (hSpec : matchesEvidenceMajor (b.get "spec_version") = true)
    (hAlg : (b.get "signature_alg").isStr = true →
      (b.get "signature_alg").str? = some (utf16 "ed25519"))
    (hBody : b.get "body" ≠ .null) : Wrapped (kernel R) b := by
  obtain ⟨canonical, hCanonical, hHash⟩ := h.bodyHash
  obtain ⟨message, hMessage, hSignature⟩ := h.signature
  refine ⟨?_, ?_, ?_⟩
  · apply wrapperComplaint_eq_none_iff.mpr
    rw [h.publicKey, hSignature, hHash]
    exact ⟨hObj, hDepth, hSpec, hAlg, rfl, rfl, rfl, hBody⟩
  · exact checkHash_of_committed (kernel_canonical_eq_ok.mpr hCanonical) hHash
  · unfold checkWrapperSignature
    rw [kernel_canonical_eq_ok.mpr hMessage, hSignature, h.publicKey]
    exact verifySignature_sign hSign message

end ArioProof.Python
