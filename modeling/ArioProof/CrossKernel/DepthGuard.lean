import ArioProof.CrossKernel.DepthRun
import ArioProof.Python.Canonicalizer
import ArioProof.TypeScript.Canonicalizer

/-! The nesting guard, in front of the canonicalizers and at the four entry
points. What a verifier canonicalizes is part of the bundle it has let in, or
rebuilt from such parts without nesting them any deeper, so that the guard in
front of the canonicalizers decides about no bundle that was let in: the
verifiers run the same without it. -/
namespace ArioProof.CrossKernel

open Foundation

section Guard

variable {P : Python.Runtime} {T : TypeScript.Runtime}

theorem canonicalJson_of_deep {v : Json} (h : maxCanonicalDepth < v.depth) :
    Python.canonicalJson P v = .error (.canonicalDepthError
      "input nesting exceeds the 128-level canonicalization depth bound") := by
  rw [Python.canonicalJson, (exceedsDepth_iff v maxCanonicalDepth).mpr h]
  rfl

theorem jcs_of_deep {v : Json} (h : maxCanonicalDepth < v.depth) :
    TypeScript.jcs T (some v) =
      .error "jcs: input nesting exceeds the 128-level canonicalization depth bound" := by
  rw [TypeScript.jcs, (exceedsDepth_iff v maxCanonicalDepth).mpr h]
  rfl

/-- The kernel of Python asks its canonicalizer only about parts of its arguments. -/
theorem sameWithin_python {first second : Json → Except Python.Exc Bytes}
    (hSame : ∀ v, v.depth ≤ maxCanonicalDepth → first v = second v) :
    SameWithin maxCanonicalDepth (Python.Over.kernel P first) (Python.Over.kernel P second) where
  crypto := rfl
  jsonParse := rfl
  verifySignature := rfl
  quote := rfl
  checkBody := rfl
  checkEntry := rfl
  holdsInclusion := rfl
  evaluateContent := rfl
  canonical v h := congrArg (Except.mapError Python.Exc.text) (hSame v h)
  checkCheckpoint _ h := Python.Over.checkCheckpoint_within hSame h
  checkEvent _ h := Python.Over.checkEvent_within hSame h
  checkInclusion _ incl cp h := Python.Over.checkInclusion_within hSame h incl cp
  expectedBytes _ h := Python.Over.expectedBytes_within hSame h
  verifyAttestation _ _ h hCheckpoints := Python.Over.verifyAttestation_within hSame h hCheckpoints

theorem sameWithin_typeScript {first second : Option Json → Except Str Str}
    (hNone : first none = second none)
    (hSame : ∀ v, v.depth ≤ maxCanonicalDepth → first (some v) = second (some v)) :
    SameWithin maxCanonicalDepth (TypeScript.Over.kernel T first)
      (TypeScript.Over.kernel T second) where
  crypto := rfl
  jsonParse := rfl
  verifySignature := rfl
  quote := rfl
  checkBody := rfl
  checkEntry := rfl
  holdsInclusion := rfl
  evaluateContent := rfl
  canonical v h := congrArg (Except.map utf8) (hSame v h)
  checkCheckpoint _ h := TypeScript.Over.checkCheckpoint_within hSame h
  checkEvent _ h := TypeScript.Over.checkEvent_within hSame h
  checkInclusion _ incl cp h := TypeScript.Over.checkInclusion_within hNone hSame h incl cp
  expectedBytes _ h := TypeScript.Over.expectedBytes_within hNone hSame h
  verifyAttestation _ _ h hCheckpoints := congrArg Except.ok
    (TypeScript.Over.verifyAttestation_within hNone hSame h hCheckpoints)

end Guard

section Unguarded

variable {P : Python.Runtime} {T : TypeScript.Runtime} {b : Json}

theorem evidence_python_unguarded (h : b.depth ≤ maxCanonicalDepth) {options : Options}
    (hAnswers : AnswersWithin maxCanonicalDepth (Python.kernel P) options) :
    Python.verifyEvidenceBundle P b options =
      Python.Over.verifyEvidenceBundle P (Python.unguardedJson P) b options := by
  rw [← Python.Over.verifyEvidenceBundle_canonicalJson]
  exact verifyEvidenceBundle_within
    (sameWithin_python fun _ => Python.canonicalJson_of_depth P) (by decide) h hAnswers

theorem evidence_typeScript_unguarded (h : b.depth ≤ maxCanonicalDepth) {options : Options}
    (hAnswers : AnswersWithin maxCanonicalDepth (TypeScript.kernel T) options) :
    TypeScript.verifyEvidenceBundle T b options =
      TypeScript.Over.verifyEvidenceBundle T (TypeScript.unguardedJcs T) b options := by
  rw [← TypeScript.Over.verifyEvidenceBundle_jcs]
  have hNone : TypeScript.jcs T none = TypeScript.unguardedJcs T none := rfl
  exact verifyEvidenceBundle_within
    (sameWithin_typeScript hNone fun _ => TypeScript.jcs_of_depth T) (by decide) h hAnswers

theorem proof_python_unguarded (h : b.depth ≤ maxCanonicalDepth) :
    Python.verifyProofBundle P b =
      Python.Over.verifyProofBundle P (Python.unguardedJson P) b := by
  rw [← Python.Over.verifyProofBundle_canonicalJson]
  exact Python.Over.verifyProofBundle_within (fun _ => Python.canonicalJson_of_depth P) h

theorem proof_typeScript_unguarded (h : b.depth ≤ maxCanonicalDepth)
    {options : TypeScript.VerifyAgentProofOptions}
    (hAnswers : ∀ fetchImpl, options.fetchImpl = some fetchImpl → ∀ requests url data v,
      fetchImpl requests url = .body data → T.jsonParse data = .ok v →
        v.depth ≤ maxCanonicalDepth) :
    TypeScript.verifyAgentProofBundle T b options =
      TypeScript.Over.verifyAgentProofBundle T (TypeScript.unguardedJcs T) b options := by
  rw [← TypeScript.Over.verifyAgentProofBundle_jcs]
  have hNone : TypeScript.jcs T none = TypeScript.unguardedJcs T none := rfl
  exact TypeScript.Over.verifyAgentProofBundle_within hNone (fun _ => TypeScript.jcs_of_depth T) h
    hAnswers

end Unguarded

section Entry

variable {P : Python.Runtime} {T : TypeScript.Runtime}

/-- A bundle beyond the bound is malformed, whichever kernel reads it. -/
theorem verifyEvidenceBundle_of_deep {ε : Type} (K : Kernel ε) {b : Json}
    (h : maxCanonicalDepth < b.depth) (options : Options) :
    ∃ result, verifyEvidenceBundle K b options = .ok result ∧ result.status = .malformed := by
  have hDeep := (exceedsDepth_iff b maxCanonicalDepth).mpr h
  have hComplaint : ∃ result, wrapperComplaint K b = some result ∧ result.status = .malformed := by
    rw [wrapperComplaint]
    split_ifs
    · exact ⟨_, rfl, rfl⟩
    · exact ⟨_, rfl, rfl⟩
  obtain ⟨result, hSome, hStatus⟩ := hComplaint
  exists result
  rw [verifyEvidenceBundle_eq, verifyBundle, hSome]
  exact ⟨rfl, hStatus⟩

theorem verifyProofBundle_of_deep {bundle : Json} (h : maxCanonicalDepth < bundle.depth) :
    (Python.verifyProofBundle P bundle).ok = false := by
  have hDeep := (exceedsDepth_iff bundle maxCanonicalDepth).mpr h
  rw [Python.verifyProofBundle]
  split_ifs
  · rfl
  · rfl

theorem verifyAgentProofBundle_of_deep {bundle : Json} (h : maxCanonicalDepth < bundle.depth)
    (options : TypeScript.VerifyAgentProofOptions) :
    ∃ result, TypeScript.verifyAgentProofBundle T bundle options = .ok result ∧
      result.status = .malformed := by
  have hDeep := (exceedsDepth_iff bundle maxCanonicalDepth).mpr h
  have hComplaint : ∃ complaint, TypeScript.agentProofComplaint T bundle = some complaint := by
    rw [TypeScript.agentProofComplaint]
    split_ifs
    · exact ⟨_, rfl⟩
    · exact ⟨_, rfl⟩
  obtain ⟨complaint, hSome⟩ := hComplaint
  exists TypeScript.malformedAgentProof complaint
  rw [TypeScript.verifyAgentProofBundle, hSome]
  exact ⟨rfl, rfl⟩

end Entry

section Exact

/-- The guard at its three places: the traversal, the canonicalizers, and the
verifiers, where it comes first and leaves nothing to the canonicalizers. A bundle
that was let in is verified as it is without the guard in front of them, whatever
side inputs there are, unless a gateway answers with a deeper value. -/
structure DepthGuardExact (P : Python.Runtime) (T : TypeScript.Runtime) : Prop where
  traversal : ∀ v bound, exceedsDepth v bound = true ↔ bound < v.depth
  handedOn : ∀ v, v.depth ≤ maxCanonicalDepth →
    Python.canonicalJson P v = (P.jcs v).mapError .library ∧
    TypeScript.jcs T (some v) = (do
      TypeScript.rejectLoneSurrogates v
      T.canonicalize v)
  turnedAway : ∀ v, maxCanonicalDepth < v.depth →
    Python.canonicalJson P v = .error (.canonicalDepthError
      "input nesting exceeds the 128-level canonicalization depth bound") ∧
    TypeScript.jcs T (some v) =
      .error "jcs: input nesting exceeds the 128-level canonicalization depth bound"
  evidence : ∀ b options, maxCanonicalDepth < b.depth →
    (∃ result, Python.verifyEvidenceBundle P b options = .ok result ∧
      result.status = .malformed) ∧
    ∃ result, TypeScript.verifyEvidenceBundle T b options = .ok result ∧
      result.status = .malformed
  proof : ∀ bundle options, maxCanonicalDepth < bundle.depth →
    (Python.verifyProofBundle P bundle).ok = false ∧
    ∃ result, TypeScript.verifyAgentProofBundle T bundle options = .ok result ∧
      result.status = .malformed
  evidenceUnguarded : ∀ b options, b.depth ≤ maxCanonicalDepth →
    (AnswersWithin maxCanonicalDepth (Python.kernel P) options →
      Python.verifyEvidenceBundle P b options =
        Python.Over.verifyEvidenceBundle P (Python.unguardedJson P) b options) ∧
    (AnswersWithin maxCanonicalDepth (TypeScript.kernel T) options →
      TypeScript.verifyEvidenceBundle T b options =
        TypeScript.Over.verifyEvidenceBundle T (TypeScript.unguardedJcs T) b options)
  proofUnguarded : ∀ bundle, bundle.depth ≤ maxCanonicalDepth →
    Python.verifyProofBundle P bundle =
      Python.Over.verifyProofBundle P (Python.unguardedJson P) bundle ∧
    ∀ options : TypeScript.VerifyAgentProofOptions,
      (∀ fetchImpl, options.fetchImpl = some fetchImpl → ∀ requests url data v,
        fetchImpl requests url = .body data → T.jsonParse data = .ok v →
          v.depth ≤ maxCanonicalDepth) →
      TypeScript.verifyAgentProofBundle T bundle options =
        TypeScript.Over.verifyAgentProofBundle T (TypeScript.unguardedJcs T) bundle options

/-- The guard on nesting is exact in both languages. What it turns away is what is
nested more deeply than the bound; below the bound a verifier without a guard in
front of its canonicalizer gives the same result; and past the bound every
verifier turns a bundle away. -/
theorem depth_guard_exact (P : Python.Runtime) (T : TypeScript.Runtime) : DepthGuardExact P T where
  traversal := exceedsDepth_iff
  handedOn _ h := ⟨Python.canonicalJson_of_depth P h, TypeScript.jcs_of_depth T h⟩
  turnedAway _ h := ⟨canonicalJson_of_deep h, jcs_of_deep h⟩
  evidence _ options h :=
    ⟨verifyEvidenceBundle_of_deep (Python.kernel P) h options,
      verifyEvidenceBundle_of_deep (TypeScript.kernel T) h options⟩
  proof _ options h := ⟨verifyProofBundle_of_deep h, verifyAgentProofBundle_of_deep h options⟩
  evidenceUnguarded _ _ h := ⟨evidence_python_unguarded h, evidence_typeScript_unguarded h⟩
  proofUnguarded _ h := ⟨proof_python_unguarded h, fun _ => proof_typeScript_unguarded h⟩

end Exact
end ArioProof.CrossKernel
