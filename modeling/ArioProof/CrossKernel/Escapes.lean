import ArioProof.Python.Escapes
import ArioProof.Reference.Bundle
import ArioProof.TypeScript.Escapes

/-! Where the verifier of either kernel does not return. Anyone can sign a
wrapper, so that the bodies and the records below it are hostile. -/
namespace ArioProof.CrossKernel

open Foundation Reference

/-- Both verifiers return on a bundle, for every pair of runtimes, unless an
exception escapes from a body or a record under a wrapper that holds. -/
theorem both_kernels_return_iff (P : Python.Runtime) (T : TypeScript.Runtime) (b : Json) :
    ((∃ result, Python.verifyEvidenceBundle P b .offline = .ok result) ∧
      ∃ result, TypeScript.verifyEvidenceBundle T b .offline = .ok result) ↔
    ¬Escapes (Python.kernel P) Python.BodyEscapes (Python.RecordsEscape P) b ∧
      ¬Escapes (TypeScript.kernel T) TypeScript.BodyEscapes (fun _ => False) b :=
  and_congr (Python.verifyEvidenceBundle_returns_iff b .offline)
    (TypeScript.verifyEvidenceBundle_returns_iff b .offline)

section NullCheckpoint

/-- The signature of the wrapper below. -/
def nullSignature : Nat × Nat :=
  (0x2bf216b4c96d6f957f31d26db53707ec485de40b173b6896684e1a6aa21633d5,
    0x308831c420381d747344a1b94d84cfa942e072d2e7d952f8559f0d59169fd62d9229f7d6ee09f1bf62e2962a60ab8fad3f473753ec4dd786bbdab4a5ee64c608)

/-- A signed trace whose one checkpoint is null. -/
def nullCheckpoint : Json :=
  trace [.null] [] 0x9ecd3016c63e924ce159a5aa254e1410eaa051a46fabb38220374531914395f0
    nullSignature

/-- Both kernels raise on it, since the loop over the checkpoints reads a member
of an entry before it looks at its type. -/
theorem nullCheckpoint_raises :
    Python.verifyEvidenceBundle (python (signedWith [nullSignature])) nullCheckpoint .offline =
      .error (.attributeError "'NoneType' object has no attribute 'get'") ∧
    TypeScript.verifyEvidenceBundle (typeScript (signedWith [nullSignature])) nullCheckpoint .offline =
      .error "Cannot read properties of null (reading 'tx_id')" := by
  obtain ⟨exc, hRaises, hExc⟩ := exists_of_raises (show raises (Python.verifyEvidenceBundle
    (python (signedWith [nullSignature])) nullCheckpoint .offline)
    (· = .attributeError "'NoneType' object has no attribute 'get'") = true by decide +kernel)
  obtain ⟨text, hThrows, hText⟩ := exists_of_raises (show raises (TypeScript.verifyEvidenceBundle
    (typeScript (signedWith [nullSignature])) nullCheckpoint .offline)
    (· = "Cannot read properties of null (reading 'tx_id')") = true by decide +kernel)
  rw [decide_eq_true_eq] at hExc hText
  exact ⟨hExc ▸ hRaises, hText ▸ hThrows⟩

end NullCheckpoint
end ArioProof.CrossKernel
