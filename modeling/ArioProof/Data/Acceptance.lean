import ArioProof.Data.Canonical
import ArioProof.Data.Mapping

/-! What it means that an envelope is accepted, whichever kernel looks at it. A
kernel brings its own rules: how it canonicalizes, decodes and hashes, which
versions it knows and what it takes for the signed scope. -/
namespace ArioProof

open Foundation

structure EnvelopeRules where
  canonical : Json → Option Bytes
  digest : Bytes → Str
  supported : Str → Bool
  decode : Str → Option Bytes
  scope : Json → Json
  verify : (publicKey signature message : Bytes) → Bool

/-- The signature of an envelope holds over its signed scope. -/
structure EnvelopeRules.Signed (rules : EnvelopeRules) (env : Json) (s k : Str) : Prop where
  signature : env.get "signature" = .str s
  publicKey : env.get "public_key" = .str k
  holds : ∃ signature key message, rules.decode s = some signature ∧ rules.decode k = some key ∧
    signature.length = 64 ∧ key.length = 32 ∧ rules.canonical (rules.scope env) = some message ∧
      rules.verify key signature message = true

/-- A known version, a payload hash that binds whatever there is to bind, and a
signature that holds. -/
structure EnvelopeRules.Accepts (rules : EnvelopeRules) (env : Json) (supplied : Option Bytes) :
    Prop where
  version : ∃ s, env.get "spec_version" = .str s ∧ rules.supported s = true
  payload : ∃ h, env.get "payload_hash" = .str h ∧
    (∀ payload, env.get? "payload" = some payload →
      ∃ canonical, rules.canonical payload = some canonical ∧ rules.digest canonical = h) ∧
    ∀ bytes, supplied = some bytes → rules.digest bytes = h
  signed : ∃ s k, rules.Signed env s k

section Compare

variable {rules other : EnvelopeRules} {env : Json} {supplied : Option Bytes}

theorem EnvelopeRules.Accepts.isObj (h : rules.Accepts env supplied) : env.isObj = true := by
  obtain ⟨s, hs, -⟩ := h.version
  exact Json.isObj_of_get hs (by simp)

/-- Supplied bytes are one more thing to bind. -/
theorem EnvelopeRules.accepts_some_iff {bytes : Bytes} : rules.Accepts env (some bytes) ↔
    rules.Accepts env none ∧ env.get "payload_hash" = .str (rules.digest bytes) := by
  constructor
  · rintro ⟨hVersion, ⟨hash, hHash, hInline, hSupplied⟩, hSigned⟩
    refine ⟨⟨hVersion, ⟨hash, hHash, hInline, fun _ hNone => by cases hNone⟩, hSigned⟩, ?_⟩
    rw [hHash, hSupplied bytes rfl]
  · rintro ⟨⟨hVersion, ⟨hash, hHash, hInline, -⟩, hSigned⟩, hBound⟩
    refine ⟨hVersion, ⟨hash, hHash, hInline, fun other hOther => ?_⟩, hSigned⟩
    rw [← Option.some.inj hOther]
    exact (Json.str.inj (hHash.symm.trans hBound)).symm

/-- Rules that are no stricter about an envelope accept it as well. -/
theorem EnvelopeRules.Accepts.imp (h : rules.Accepts env supplied)
    (hDigest : other.digest = rules.digest)
    (hVersion : ∀ s, env.get "spec_version" = .str s → rules.supported s = true →
      other.supported s = true)
    (hPayload : ∀ payload canonical, env.get? "payload" = some payload →
      rules.canonical payload = some canonical → other.canonical payload = some canonical)
    (hScope : ∀ message, rules.canonical (rules.scope env) = some message →
      other.canonical (other.scope env) = some message)
    (hDecode : ∀ s, env.get "signature" = .str s ∨ env.get "public_key" = .str s →
      ∀ bytes, rules.decode s = some bytes → other.decode s = some bytes)
    (hVerify : ∀ s k signature key message, env.get "signature" = .str s →
      env.get "public_key" = .str k → rules.decode s = some signature → rules.decode k = some key →
      rules.verify key signature message = true → other.verify key signature message = true) :
    other.Accepts env supplied := by
  obtain ⟨⟨version, hGet, hKnown⟩, ⟨hash, hHash, hInline, hSupplied⟩, s, k, hs, hk, hHolds⟩ := h
  obtain ⟨signature, key, message, hSig, hKey, hSigLength, hKeyLength, hMessage, hVerified⟩ := hHolds
  refine ⟨⟨version, hGet, hVersion version hGet hKnown⟩, ⟨hash, hHash, ?_, ?_⟩, s, k, hs, hk, ?_⟩
  · intro payload hPresent
    obtain ⟨canonical, hCanonical, hSame⟩ := hInline payload hPresent
    exact ⟨canonical, hPayload payload canonical hPresent hCanonical, by rw [hDigest, hSame]⟩
  · intro bytes hBytes
    rw [hDigest, hSupplied bytes hBytes]
  · exact ⟨signature, key, message, hDecode s (Or.inl hs) _ hSig, hDecode k (Or.inr hk) _ hKey,
      hSigLength, hKeyLength, hScope message hMessage,
      hVerify s k signature key message hs hk hSig hKey hVerified⟩

end Compare

section Norm

/-- An entry that is left out leaves no trace in the order. -/
theorem filter_orderedInsert (keep : Str → Bool) (entry : Str × Json) {members : List (Str × Json)}
    (hSorted : members.Pairwise fun a b => a.1 ≤ b.1) :
    (members.orderedInsert (fun a b => a.1 ≤ b.1) entry).filter (fun e => keep e.1) =
      if keep entry.1 then
        (members.filter fun e => keep e.1).orderedInsert (fun a b => a.1 ≤ b.1) entry
      else members.filter fun e => keep e.1 := by
  induction members with
  | nil => cases hKeep : keep entry.1 <;> simp [hKeep]
  | cons head rest ih =>
      rw [List.pairwise_cons] at hSorted
      rw [List.orderedInsert_cons]
      by_cases hLe : entry.1 ≤ head.1
      · rw [if_pos hLe]
        cases hKeep : keep entry.1 with
        | false => simp [List.filter_cons, hKeep]
        | true =>
            rw [List.filter_cons, if_pos (by simpa using hKeep), if_pos rfl]
            -- Whatever is left is no smaller than the entry.
            cases hRest : (head :: rest).filter (fun e => keep e.1) with
            | nil => rfl
            | cons first more =>
                have hMem : first ∈ head :: rest :=
                  List.mem_of_mem_filter (hRest ▸ List.mem_cons_self)
                have hFirst : entry.1 ≤ first.1 := by
                  rcases List.mem_cons.mp hMem with rfl | hMem
                  · exact hLe
                  · exact List.le_trans hLe (hSorted.1 first hMem)
                rw [List.orderedInsert_cons, if_pos hFirst]
      · rw [if_neg hLe, List.filter_cons, ih hSorted.2]
        cases hHead : keep head.1 with
        | false => cases keep entry.1 <;> simp [hHead]
        | true => cases keep entry.1 <;> simp [hHead, hLe]

/-- Leaving out members and sorting them commute, because a sort keeps the order
of what stays. -/
theorem sortMembers_filter (keep : Str → Bool) (members : List (Str × Json)) :
    sortMembers (members.filter fun e => keep e.1) = (sortMembers members).filter fun e => keep e.1 := by
  have : Std.Total fun a b : Str × Json => a.1 ≤ b.1 := ⟨fun a b => List.le_total a.1 b.1⟩
  have : IsTrans (Str × Json) fun a b => a.1 ≤ b.1 := ⟨fun _ _ _ => List.le_trans⟩
  unfold sortMembers
  induction members with
  | nil => rfl
  | cons entry rest ih =>
      rw [List.insertionSort_cons, filter_orderedInsert keep entry (List.pairwise_insertionSort _ rest),
        ← ih, List.filter_cons]
      cases keep entry.1 <;> simp [List.insertionSort_cons]

theorem Json.norm_restrict (keep : Str → Bool) (v : Json) :
    (v.restrict keep).norm = v.norm.restrict keep := by
  cases v with
  | obj members =>
      rw [norm_obj, restrict, norm_obj, restrict, ← sortMembers_filter, List.filter_map]
      rfl
  | _ => rfl

/-- Strings are read alike from values with one normal form. -/
theorem Json.get_str_of_norm_eq {v w : Json} (h : v.norm = w.norm) {key : String} {s : Str}
    (hGet : w.get key = .str s) : v.get key = .str s := by
  have hSame : (v.get key).norm = (w.get key).norm := by
    rw [← Json.get_norm, ← Json.get_norm, h]
  rw [hGet] at hSame
  exact Json.norm_eq_str.mp hSame

variable {rules : EnvelopeRules} {env other : Json} {supplied : Option Bytes}

/-- Rules that see no more than a canonical form accept values with one normal
form alike. -/
theorem EnvelopeRules.Accepts.congr (h : rules.Accepts env supplied) (hNorm : env.norm = other.norm)
    (hNormal : ∀ v w bytes, v.norm = w.norm → rules.canonical v = some bytes →
      rules.canonical w = some bytes)
    (hScope : (rules.scope env).norm = (rules.scope other).norm) : rules.Accepts other supplied := by
  have str {key : String} {s : Str} (hGet : env.get key = .str s) : other.get key = .str s :=
    Json.get_str_of_norm_eq hNorm.symm hGet
  obtain ⟨⟨version, hGet, hKnown⟩, ⟨hash, hHash, hInline, hSupplied⟩, s, k, hs, hk, hHolds⟩ := h
  obtain ⟨signature, key, message, hSig, hKey, hSigLength, hKeyLength, hMessage, hVerified⟩ := hHolds
  refine ⟨⟨version, str hGet, hKnown⟩, ⟨hash, str hHash, ?_, hSupplied⟩, s, k, str hs, str hk,
    signature, key, message, hSig, hKey, hSigLength, hKeyLength, hNormal _ _ _ hScope hMessage,
    hVerified⟩
  intro payload hPayload
  have hBoth : (env.get? "payload").map Json.norm = (other.get? "payload").map Json.norm := by
    rw [← Json.get?_norm, ← Json.get?_norm, hNorm]
  rw [hPayload, Option.map_some, Option.map_eq_some_iff] at hBoth
  obtain ⟨own, hOwn, hSame⟩ := hBoth
  obtain ⟨canonical, hCanonical, hDigest⟩ := hInline own hOwn
  exact ⟨canonical, hNormal own payload canonical hSame hCanonical, hDigest⟩

end Norm
end ArioProof
