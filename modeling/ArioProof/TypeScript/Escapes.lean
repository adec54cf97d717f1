import ArioProof.Evidence.Totality
import ArioProof.TypeScript.Evidence

/-! The inputs on which `verifyEvidenceBundle` of this kernel rejects. A member
of anything but `null` can be read, and every attestation is checked inside a
handler that catches all. -/
namespace ArioProof.TypeScript

open Foundation

variable {R : Runtime}

/-- A trace body of two arrays with a `null` among their entries. -/
def BodyEscapes (body : Json) : Prop :=
  ∃ checkpoints events, body.get "checkpoints" = .arr checkpoints ∧
    body.get "events" = .arr events ∧ .null ∈ checkpoints ++ events

theorem kernel_checkEntry_eq_ok {member : String} {entry : Json} :
    (kernel R).checkEntry member entry = .ok () ↔ entry ≠ .null := by
  cases entry <;> simp [kernel]

theorem verifyAnchorTrace_returns_iff {b : Json} {bodyType : Str} {specVersionOk : Bool}
    {asserted : Option Str} {errors : List Str} {options : Options} :
    (∃ result, verifyAnchorTrace (kernel R) b bodyType specVersionOk asserted errors options =
      .ok result) ↔ ¬BodyEscapes (b.get "body") := by
  have hAll (entries : List Json) : (∀ entry ∈ entries, entry ≠ .null) ↔ .null ∉ entries :=
    ⟨fun h hMem => h _ hMem rfl, fun h entry hMem hNull => h (hNull ▸ hMem)⟩
  rw [ArioProof.verifyAnchorTrace_returns_iff]
  simp only [kernel_checkEntry_eq_ok, hAll, show (kernel R).checkBody (b.get "body") = .ok () from rfl,
    true_and, BodyEscapes, not_exists, not_and, List.mem_append, not_or]

/-- No record of this kernel raises: what is thrown over a record makes it
malformed. -/
theorem verifyAttestations_returns {checkpoints : List (Str × Json)} {records : List Json} :
    ∃ outcome, verifyAttestations (kernel R) checkpoints records = .ok outcome := by
  rw [verifyAttestations_returns_iff]
  rintro ⟨before, rec, after, -, -, exc, hRaises⟩
  cases hRaises

/-- The bundles on which the verifier returns a result. On all others its promise
rejects. -/
theorem verifyEvidenceBundle_returns_iff (b : Json) (options : Options) :
    (∃ result, verifyEvidenceBundle R b options = .ok result) ↔
      ¬Escapes (kernel R) BodyEscapes (fun _ => False) b :=
  ArioProof.verifyEvidenceBundle_returns_iff (fun _ => verifyAnchorTrace_returns_iff)
    (fun _ _ => iff_of_true verifyAttestations_returns not_false) b

end ArioProof.TypeScript
