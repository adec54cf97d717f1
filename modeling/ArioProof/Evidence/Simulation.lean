import ArioProof.Evidence.Totality
import ArioProof.Foundation.Outcome

/-! Two kernels over one bundle. They share the algorithm, so that their results
are alike as soon as the primitives agree on the records of the trace whose rows
are shown. Notes are left out of the comparison. -/
namespace ArioProof

open Foundation

section Alike

def CheckpointResult.bare (row : CheckpointResult) : CheckpointResult := { row with errors := [] }

def EventResult.bare (row : EventResult) : EventResult := { row with errors := [] }

def AttestationResult.bare (a : AttestationResult) : AttestationResult := { a with errors := [] }

end Alike

variable {ε δ : Type} {K : Kernel ε} {L : Kernel δ}

section Primitives

/-- Both kernels hash alike, and give the same values the same canonical bytes. -/
structure PrimitivesAgree (K : Kernel ε) (L : Kernel δ) : Prop where
  hash : K.crypto.sha256 = L.crypto.sha256
  canonical : ∀ v, (K.canonical v).toOption = (L.canonical v).toOption

theorem PrimitivesAgree.symm (h : PrimitivesAgree K L) : PrimitivesAgree L K :=
  ⟨h.hash.symm, fun v => (h.canonical v).symm⟩

end Primitives

section Levels

/-- A bundle and the inline sources below it. -/
inductive Level : Json → Json → Prop where
  | here (b : Json) : Level b b
  | source {b inner : Json} (hType : isExport b = true) (h : Level (sourceOf b) inner) :
      Level b inner

/-- Below a bundle that is no export there is nothing. -/
theorem eq_of_level {b inner : Json} (hType : isExport b = false) (h : Level b inner) : inner = b := by
  cases h with
  | here => rfl
  | source hExport h =>
      rw [hType] at hExport
      cases hExport

/-- Two checks of a record have one outcome, malformed or a result. -/
def SameOutcome (first : Except ε (AttestationResult × Option Str))
    (second : Except δ (AttestationResult × Option Str)) : Prop :=
  ∃ p t complaint objection, first = .ok (p, complaint) ∧ second = .ok (t, objection) ∧
    (complaint.isSome = true ∧ objection.isSome = true ∨
      complaint = none ∧ objection = none ∧ p.bare = t.bare)

/-- What the kernels agree on at one level, besides the rows of a trace. -/
structure LevelAgrees (K : Kernel ε) (L : Kernel δ) (b : Json) : Prop where
  signature : ∀ message s k, b.get "signature" = .str s → b.get "public_key" = .str k →
    K.verifySignature message (.str s) (.str k) = L.verifySignature message (.str s) (.str k)
  body : isTrace b = true →
    K.checkBody (b.get "body") = .ok () ∧ L.checkBody (b.get "body") = .ok ()
  checkpoints : isTrace b = true → ∀ cp ∈ (b.get "body").listAt "checkpoints",
    K.checkEntry "tx_id" cp = .ok () ∧ L.checkEntry "tx_id" cp = .ok ()
  events : isTrace b = true → ∀ ev ∈ (b.get "body").listAt "events",
    K.checkEntry "envelope" ev = .ok () ∧ L.checkEntry "envelope" ev = .ok ()
  attestations : isExport b = true → ∀ rec ∈ (b.get "body").listAt "attestations",
    SameOutcome (K.verifyAttestation rec (sourceCheckpoints (sourceOf b)))
      (L.verifyAttestation rec (sourceCheckpoints (sourceOf b)))

theorem SameOutcome.symm {first : Except ε (AttestationResult × Option Str)}
    {second : Except δ (AttestationResult × Option Str)} (h : SameOutcome first second) :
    SameOutcome second first := by
  obtain ⟨p, t, complaint, objection, hFirst, hSecond, ⟨hSome, hToo⟩ | ⟨hNone, hToo, hBare⟩⟩ := h
  · exact ⟨t, p, objection, complaint, hSecond, hFirst, Or.inl ⟨hToo, hSome⟩⟩
  · exact ⟨t, p, objection, complaint, hSecond, hFirst, Or.inr ⟨hToo, hNone, hBare.symm⟩⟩

theorem LevelAgrees.symm {b : Json} (h : LevelAgrees K L b) : LevelAgrees L K b where
  signature message s k hs hk := (h.signature message s k hs hk).symm
  body hType := (h.body hType).symm
  checkpoints hType cp hCp := (h.checkpoints hType cp hCp).symm
  events hType ev hEv := (h.events hType ev hEv).symm
  attestations hType rec hRec := (h.attestations hType rec hRec).symm

end Levels

section Body

end Body

section Bundle

end Bundle
end ArioProof
