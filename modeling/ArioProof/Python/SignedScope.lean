import ArioProof.Data.Mapping
import ArioProof.Python.Envelope
import ArioProof.Python.Jcs
import ArioProof.Reference.Bundle

/-! The signed scope of an envelope. Which members it leaves out is decided by
a member of the envelope itself; that member is always inside the scope, so
that two envelopes with the same signed bytes were stripped by one rule. -/
namespace ArioProof.Python

open Foundation

variable {R : Runtime}

/-- A key inside the signed scope of an envelope. -/
def isSigned (envelope : Json) (key : Str) : Bool :=
  !(unsignedFields.map utf16).contains key &&
    !(stripsAnnotations envelope && (utf16 "_").isPrefixOf key)

/-- The same specification version, and the same value under every key that is
signed under it. -/
structure SameScope (a b : Json) : Prop where
  specVersion : (a.get? "spec_version").map Json.norm = (b.get? "spec_version").map Json.norm
  members : ∀ key, isSigned a key = true →
    (a.member? key).map Json.norm = (b.member? key).map Json.norm

section Scope

variable {a b : Json}

theorem envelopeForSignature_eq_restrict (envelope : Json) :
    envelopeForSignature envelope = envelope.restrict (isSigned envelope) := by
  cases envelope <;> rfl

theorem member?_envelopeForSignature (envelope : Json) (key : Str) :
    (envelopeForSignature envelope).member? key =
      if isSigned envelope key then envelope.member? key else none := by
  rw [envelopeForSignature_eq_restrict, Json.member?_restrict]

/-- The rule of an envelope is read from the normal form of its version. -/
theorem stripsAnnotations_congr
    (h : (a.get? "spec_version").map Json.norm = (b.get? "spec_version").map Json.norm) :
    stripsAnnotations a = stripsAnnotations b := by
  have hNorm : (a.get "spec_version").norm = (b.get "spec_version").norm := by
    unfold Json.get
    revert h
    cases a.get? "spec_version" <;> cases b.get? "spec_version" <;> simp
  have read (v : Json) : stripsAnnotations v = stripsAnnotations v.norm := by
    unfold stripsAnnotations
    rw [Json.get_norm]
    cases v.get "spec_version" <;> rfl
  rw [read a, read b]
  unfold stripsAnnotations
  rw [Json.get_norm, Json.get_norm, hNorm]

theorem isSigned_congr
    (h : (a.get? "spec_version").map Json.norm = (b.get? "spec_version").map Json.norm) :
    isSigned a = isSigned b := by
  funext key
  unfold isSigned
  rw [stripsAnnotations_congr h]

/-- The member that decides the rule is signed under every rule. -/
theorem isSigned_spec_version (envelope : Json) : isSigned envelope (utf16 "spec_version") = true := by
  have hField : (unsignedFields.map utf16).contains (utf16 "spec_version") = false := by decide
  have hPlain : (utf16 "_").isPrefixOf (utf16 "spec_version") = false := by decide
  rw [isSigned, hField, hPlain, Bool.and_false]
  rfl

/-- Scopes with one normal form come from one rule. -/
theorem sameScope_of_norm_eq
    (h : (envelopeForSignature a).norm = (envelopeForSignature b).norm) : SameScope a b := by
  have hMembers (key : Str) :
      (if isSigned a key then a.member? key else none).map Json.norm =
        (if isSigned b key then b.member? key else none).map Json.norm := by
    rw [← member?_envelopeForSignature, ← member?_envelopeForSignature, ← Json.member?_norm, h,
      Json.member?_norm]
  have hVersion : (a.get? "spec_version").map Json.norm = (b.get? "spec_version").map Json.norm := by
    have hKey := hMembers (utf16 "spec_version")
    rw [isSigned_spec_version, isSigned_spec_version, if_pos rfl, if_pos rfl] at hKey
    rwa [Json.get?_eq_member?, Json.get?_eq_member?]
  refine ⟨hVersion, fun key hKey => ?_⟩
  have hSame := hMembers key
  rwa [← isSigned_congr hVersion, if_pos hKey, if_pos hKey] at hSame

theorem SameScope.symm (h : SameScope a b) : SameScope b a where
  specVersion := h.specVersion.symm
  members key hKey := (h.members key (by rwa [isSigned_congr h.specVersion])).symm

/-- Envelopes that agree on what is signed have scopes with one normal form. -/
theorem SameScope.norm_eq {first second : List (Str × Json)}
    (h : SameScope (.obj first) (.obj second)) (hFirst : (Json.obj first).DistinctKeys)
    (hSecond : (Json.obj second).DistinctKeys) :
    (envelopeForSignature (.obj first)).norm = (envelopeForSignature (.obj second)).norm := by
  have hDistinct (keep : Str → Bool) (members : List (Str × Json))
      (hKeys : (members.map Prod.fst).Nodup) :
      ((members.filter fun entry => keep entry.1).map Prod.fst).Nodup :=
    hKeys.sublist (List.filter_sublist.map Prod.fst)
  rw [envelopeForSignature_eq_restrict, envelopeForSignature_eq_restrict]
  apply Json.norm_eq_of_member?_eq (hDistinct _ _ hFirst) (hDistinct _ _ hSecond)
  intro key
  change (((Json.obj first).restrict (isSigned (.obj first))).member? key).map Json.norm =
    (((Json.obj second).restrict (isSigned (.obj second))).member? key).map Json.norm
  rw [Json.member?_restrict, Json.member?_restrict, ← isSigned_congr h.specVersion]
  cases hKey : isSigned (.obj first) key with
  | true => exact h.members key hKey
  | false => rfl

/-- Assigning outside the signed scope does not show in it. -/
theorem envelopeForSignature_set {name : String} (hName : name ∈ unsignedFields)
    (envelope value : Json) :
    envelopeForSignature (envelope.set name value) = envelopeForSignature envelope := by
  have hOther : "spec_version" ≠ name := by
    rintro rfl
    revert hName
    decide
  have hDropped : isSigned envelope (utf16 name) = false := by
    simp [isSigned, hName]
  have hSame : isSigned (envelope.set name value) = isSigned envelope :=
    isSigned_congr (by rw [Json.get?_set_of_ne hOther])
  rw [envelopeForSignature_eq_restrict, envelopeForSignature_eq_restrict, hSame,
    Json.restrict_set hDropped]

end Scope

/-- No transplant and no relabelling. Two envelopes have the same signed bytes
exactly when they agree on what is signed, the rule that says so included. A
difference under a key that no rule leaves out always shows in the message. -/
theorem same_signed_bytes (hInjective : R.JcsInjective) (hNormal : R.JcsNormal)
    (first second : List (Str × Json)) (hFirst : (Json.obj first).DistinctKeys)
    (hSecond : (Json.obj second).DistinctKeys) :
    (∀ bytes, canonicalJson R (envelopeForSignature (.obj first)) = .ok bytes →
      canonicalJson R (envelopeForSignature (.obj second)) = .ok bytes →
        SameScope (.obj first) (.obj second)) ∧
    (SameScope (.obj first) (.obj second) →
      ∀ bytes, canonicalJson R (envelopeForSignature (.obj first)) = .ok bytes ↔
        canonicalJson R (envelopeForSignature (.obj second)) = .ok bytes) ∧
    ∀ key, (unsignedFields.map utf16).contains key = false → (utf16 "_").isPrefixOf key = false →
      ((Json.obj first).member? key).map Json.norm ≠ ((Json.obj second).member? key).map Json.norm →
        ∀ bytes, canonicalJson R (envelopeForSignature (.obj first)) = .ok bytes →
          canonicalJson R (envelopeForSignature (.obj second)) ≠ .ok bytes := by
  have hScope (bytes : Bytes)
      (ha : canonicalJson R (envelopeForSignature (.obj first)) = .ok bytes)
      (hb : canonicalJson R (envelopeForSignature (.obj second)) = .ok bytes) :
      SameScope (.obj first) (.obj second) :=
    sameScope_of_norm_eq (norm_eq_of_canonicalJson hInjective ha hb)
  refine ⟨hScope, ?_, ?_⟩
  · intro hSame bytes
    have hNorm := hSame.norm_eq hFirst hSecond
    exact ⟨canonicalJson_congr hNormal hNorm, canonicalJson_congr hNormal hNorm.symm⟩
  · intro key hField hPlain hDiffer bytes ha hb
    apply hDiffer
    apply (hScope bytes ha hb).members key
    rw [isSigned, hField, hPlain, Bool.and_false]
    rfl

section Sample

open Reference

/-- Members that commit to a payload by its hash, with more of them. -/
def committing (more : List (String × Json)) : List (Str × Json) :=
  (("spec_version", Json.str "ario.agent/v1") :: ("payload_hash", Json.str "00") :: more).map
    fun (key, v) => (utf16 key, v)

theorem same_signed_bytes_sample : ∃ bytes,
    canonicalJson (python (signedWith [])) (envelopeForSignature (.obj (committing []))) =
      .ok bytes ∧
    canonicalJson (python (signedWith []))
      (envelopeForSignature (.obj (committing [("payload", .null)]))) ≠ .ok bytes := by
  obtain ⟨-, -, hDiffer⟩ := same_signed_bytes (R := python (signedWith [])) jcsInjective jcsNormal
    (committing []) (committing [("payload", .null)]) (by decide) (by decide)
  obtain ⟨bytes, hBytes, -⟩ := exists_of_returns (show returns (canonicalJson
    (python (signedWith [])) (envelopeForSignature (.obj (committing [])))) (fun _ => true) = true
    by decide +kernel)
  refine ⟨bytes, hBytes, hDiffer (utf16 "payload") (by decide) (by decide) ?_ bytes hBytes⟩
  rw [← Json.get?_eq_member?, ← Json.get?_eq_member?]
  change ((Json.object _).get? "payload").map Json.norm ≠
    ((Json.object _).get? "payload").map Json.norm
  rw [Json.get?_object, Json.get?_object]
  simp [List.lookup_cons]

end Sample

end ArioProof.Python
