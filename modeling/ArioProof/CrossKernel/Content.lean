import ArioProof.CrossKernel.Agreement
import ArioProof.Reference.Bundle

/-! The content tri-state in both kernels. What an envelope commits to by itself
is a string at a place its event type names; the kernels differ about an empty
one, which Python keeps and TypeScript drops. -/
namespace ArioProof.CrossKernel

open Foundation

section Committed

/-- The places where an envelope holds a content hash, by its event type. -/
def hashHolders (envelope : Json) : List (ContentRole × Json) :=
  let payload := envelope.get "payload"
  let eventType := (envelope.get "event_type").str?
  if eventType = some (utf16 "asset_registered") then [(.asset, payload)]
  else if eventType = some (utf16 "asset_missing") then [(.baseline, payload.get "baseline")]
  else if eventType = some (utf16 "tamper_detected") then
    [(.observed, payload.get "observed"), (.baseline, payload.get "baseline")]
  else []

/-- The content hashes of an envelope, empty strings included. -/
def ownHashes (envelope : Json) : List (ContentRole × Str) :=
  (hashHolders envelope).flatMap fun (role, holder) =>
    ((holder.get "hash").str?.toList).map fun h => (role, h)

/-- What is committed to: the record's content hash if it is a string that is
not empty, and otherwise the envelope's own. -/
def committedStrings (record : Option Json) (envelope : Json) : List Str :=
  match (((record.getD .null).get "event").get "content_hash").str? with
  | some (c :: rest) => [c :: rest]
  | _ => (ownHashes envelope).map Prod.snd

theorem hashOf_python (role : ContentRole) (holder : Json) :
    Python.hashOf role holder = ((holder.get "hash").str?.toList).map fun h => (role, h) := by
  unfold Python.hashOf
  cases (holder.get "hash").str? <;> rfl

theorem hashOf_typeScript (role : ContentRole) (holder : Json) :
    TypeScript.hashOf role holder =
      (((holder.get "hash").str?.toList).map fun h => (role, h)).filter fun c => !c.2.isEmpty := by
  unfold TypeScript.hashOf
  cases holder.get "hash" with
  | str h => cases h <;> rfl
  | _ => rfl

/-- Python keeps every string that an envelope commits to, the empty one
included. -/
theorem contentHashes_python (envelope : Json) :
    Python.contentHashes envelope = ownHashes envelope := by
  unfold Python.contentHashes ownHashes hashHolders
  simp only
  cases hPayload : (envelope.get "payload").isObj with
  | false =>
      -- A payload that is no object holds no hash anywhere.
      simp only [Bool.not_false, if_true, Json.get_of_not_isObj hPayload]
      split_ifs
      · simp [Json.get_of_not_isObj hPayload, Json.str?]
      · rfl
      · rfl
      · rfl
  | true =>
      simp only [Bool.not_true, Bool.false_eq_true, if_false, hashOf_python]
      split_ifs <;> simp

/-- TypeScript keeps the strings that are not empty. -/
theorem contentHashes_typeScript (envelope : Json) :
    TypeScript.contentHashes envelope =
      (ownHashes envelope).filter fun c => !c.2.isEmpty := by
  unfold TypeScript.contentHashes ownHashes hashHolders
  simp only [hashOf_typeScript]
  split_ifs <;> simp

end Committed

section Binding

variable {C : Crypto} {committed : List Str} {inBody side : Option Bytes}

/-- Two disclosures that differ: the content in the body and the one supplied
beside it. -/
def Disagree (inBody side : Option Bytes) : Prop :=
  ∃ own other, inBody = some own ∧ side = some other ∧ own ≠ other

theorem bindContent_of_disagree (h : Disagree inBody side) :
    (bindContent C committed inBody side).1 = some false := by
  obtain ⟨own, other, rfl, rfl, hNe⟩ := h
  simp [bindContent, hNe]

/-- Disclosures that do not differ are bound as one. -/
theorem bindContent_of_agree (h : ¬Disagree inBody side) :
    (bindContent C committed inBody side).1 =
      (inBody.or side).bind fun disclosed =>
        if committed.isEmpty then none else some (committed.contains (C.sha256Hex disclosed)) := by
  have hGuard : ¬(inBody.isSome && side.isSome && inBody ≠ side) = true := by
    intro hDiffer
    cases inBody with
    | none => simp at hDiffer
    | some own =>
        cases side with
        | none => simp at hDiffer
        | some other => exact h ⟨own, other, rfl, rfl, by simpa using hDiffer⟩
  unfold bindContent
  rw [if_neg hGuard]
  cases inBody.or side with
  | none => rfl
  | some disclosed =>
      simp only [Option.bind_some]
      split_ifs with hEmpty hFound
      · rfl
      · rw [hFound]
      · rw [Bool.eq_false_iff.mpr hFound]

end Binding

variable {P : Python.Runtime} {T : TypeScript.Runtime}

/-- The two hex decoders agree on a string. -/
def HexAgree (P : Python.Runtime) (T : TypeScript.Runtime) (s : Str) : Prop :=
  (Python.hexToBytes P (.str s)).toOption = (TypeScript.hexToBytes T (some (.str s))).toOption

section Sources

variable {ev : Json} {recordBytes : Option Bytes} {content : Str → Option SideContent}
  {eventId : Str}

theorem inBodyContent_agree (hHex : ∀ s, ev.get "content" = .str s → HexAgree P T s) :
    (Python.inBodyContent P ev).1 = (TypeScript.inBodyContent T ev).1 := by
  unfold Python.inBodyContent TypeScript.inBodyContent
  cases hContent : ev.get "content" with
  | str s =>
      have hSame := hHex s hContent
      unfold HexAgree at hSame
      simp only
      cases hP : Python.hexToBytes P (.str s) <;>
        cases hT : TypeScript.hexToBytes T (some (.str s)) <;>
        simp [hP, hT, Except.toOption] at hSame ⊢
      exact hSame
  | _ => rfl

theorem sideContent_agree (hHex : ∀ s, content eventId = some (.hex s) → HexAgree P T s) :
    (Python.sideContent P content eventId).1 = (TypeScript.sideContent T content eventId).1 := by
  unfold Python.sideContent TypeScript.sideContent
  cases hContent : content eventId with
  | none => rfl
  | some given =>
      cases given with
      | raw bytes => rfl
      | hex s =>
          have hSame := hHex s hContent
          unfold HexAgree at hSame
          simp only
          cases hP : Python.hexToBytes P (.str s) <;>
            cases hT : TypeScript.hexToBytes T (some (.str s)) <;>
            simp [hP, hT, Except.toOption] at hSame ⊢
          exact hSame

/-- The value both kernels read in a record, if it is JSON in both. -/
def recordValue (P : Python.Runtime) (recordBytes : Option Bytes) : Option Json :=
  recordBytes.bind fun bytes => (P.jsonLoads bytes).toOption

/-- A record is read alike: as one value, or as no JSON. -/
def ReadAlike (P : Python.Runtime) (T : TypeScript.Runtime) (recordBytes : Option Bytes) : Prop :=
  ∀ bytes, recordBytes = some bytes → (P.jsonLoads bytes).toOption = (T.jsonParse bytes).toOption

theorem committedHashes_python : Python.committedHashes P ev recordBytes =
    (committedStrings (recordValue P recordBytes) (ev.get "envelope")).map (Python.lower P) := by
  have hOwn : (if (ev.get "envelope").isObj then
      (Python.contentHashes (ev.get "envelope")).map fun entry => Python.lower P entry.2 else []) =
        ((ownHashes (ev.get "envelope")).map Prod.snd).map (Python.lower P) := by
    rw [List.map_map]
    split_ifs with hObj
    · rw [contentHashes_python]
      rfl
    · have hNull := Json.get_of_not_isObj (Bool.eq_false_iff.mpr hObj)
      simp [ownHashes, hashHolders, hNull, Json.str?]
  unfold Python.committedHashes committedStrings recordValue
  simp only
  rw [hOwn]
  cases recordBytes with
  | none => rfl
  | some bytes =>
      simp only [Option.map_some, Option.bind_some, Python.committedField]
      cases hLoads : P.jsonLoads bytes with
      | error text => rfl
      | ok record =>
          simp only [Except.map, Except.toOption, Option.getD_some]
          cases hHash : (record.get "event").get "content_hash" with
          | str h => cases h <;> rfl
          | _ => rfl

theorem committedHashes_typeScript (hRecord : ReadAlike P T recordBytes) :
    TypeScript.committedHashes T ev recordBytes =
      ((committedStrings (recordValue P recordBytes) (ev.get "envelope")).filter
        fun h => !h.isEmpty).map (TypeScript.toLowerCase T) := by
  have hOwn : (if (ev.get "envelope").isObj || (ev.get "envelope").isArr then
      (TypeScript.contentHashes (ev.get "envelope")).map fun c => TypeScript.toLowerCase T c.2
        else []) =
      (((ownHashes (ev.get "envelope")).map Prod.snd).filter fun h => !h.isEmpty).map
        (TypeScript.toLowerCase T) := by
    rw [List.filter_map, List.map_map]
    split_ifs with hObj
    · rw [contentHashes_typeScript]
      rfl
    · simp only [Bool.or_eq_true, not_or] at hObj
      have hNull := Json.get_of_not_isObj (Bool.eq_false_iff.mpr hObj.1)
      simp [ownHashes, hashHolders, hNull, Json.str?]
  unfold TypeScript.committedHashes committedStrings recordValue
  simp only
  rw [hOwn]
  cases recordBytes with
  | none => rfl
  | some bytes =>
      have hSame := hRecord bytes rfl
      simp only [Option.map_some, Option.bind_some, TypeScript.committedField]
      cases hLoads : P.jsonLoads bytes with
      | error text =>
          rw [hLoads] at hSame
          cases hParse : T.jsonParse bytes with
          | error other => rfl
          | ok record => simp [hParse, Except.toOption] at hSame
      | ok record =>
          rw [hLoads] at hSame
          have hParse : T.jsonParse bytes = .ok record := toOption_eq_some.mp hSame.symm
          rw [hParse]
          simp only [bind, Except.bind, Except.toOption, Option.getD_some]
          cases record with
          | obj members =>
              simp only [pure, Except.pure, Json.get]
              cases hHash : (((Json.obj members).get? "event").getD .null).get? "content_hash" with
              | none => rfl
              | some v =>
                  cases v with
                  | str h => cases h <;> rfl
                  | _ => rfl
          | _ => rfl

end Sources

/-- The empty string is not a digest, and a digest is folded alike. -/
theorem contains_committed (strings : List Str) (disclosed : Bytes) :
    ((strings.filter fun h => !h.isEmpty).map (TypeScript.toLowerCase T)).contains
        (P.crypto.sha256Hex disclosed) =
      (strings.map (Python.lower P)).contains (P.crypto.sha256Hex disclosed) := by
  rw [Bool.eq_iff_iff, List.contains_iff_mem, List.contains_iff_mem, List.mem_map, List.mem_map]
  constructor
  · rintro ⟨h, hMem, hFolds⟩
    exact ⟨h, (List.mem_filter.mp hMem).1,
      P.folding.lower_eq_encode_iff.mpr (T.folding.lower_eq_encode_iff.mp hFolds)⟩
  · rintro ⟨h, hMem, hFolds⟩
    refine ⟨h, List.mem_filter.mpr ⟨hMem, ?_⟩,
      T.folding.lower_eq_encode_iff.mpr (P.folding.lower_eq_encode_iff.mp hFolds)⟩
    cases h with
    | nil =>
        have hNil : Python.lower P [] = [] := P.folding.lower_eq_nil_iff.mpr rfl
        have hLength := congrArg List.length (hNil.symm.trans hFolds)
        rw [Crypto.sha256Hex, Hex.length_encode, HashFunction.length_digest] at hLength
        cases hLength
    | cons c rest => rfl

/-- The result of both kernels, which is false only for a reason. -/
structure ContentAgrees (P : Python.Runtime) (T : TypeScript.Runtime) (ev : Json)
    (recordBytes : Option Bytes) (eventId : Str) (content : Str → Option SideContent) : Prop where
  same : (Python.evaluateContent P ev recordBytes eventId content).1 =
    (TypeScript.evaluateContent T ev recordBytes eventId content).1
  justified : (Python.evaluateContent P ev recordBytes eventId content).1 = some false →
    Disagree (Python.inBodyContent P ev).1 (Python.sideContent P content eventId).1 ∨
    ∃ disclosed, (Python.inBodyContent P ev).1.or (Python.sideContent P content eventId).1 =
        some disclosed ∧
      ((committedStrings (recordValue P recordBytes) (ev.get "envelope")).filter
        fun h => !h.isEmpty) ≠ [] ∧
      ∀ h ∈ committedStrings (recordValue P recordBytes) (ev.get "envelope"),
        Python.lower P h ≠ P.crypto.sha256Hex disclosed

/-- Something is disclosed, and all it could be bound to is empty strings. -/
structure OnlyEmptyHashes (P : Python.Runtime) (ev : Json) (recordBytes : Option Bytes)
    (eventId : Str) (content : Str → Option SideContent) : Prop where
  disclosed : ((Python.inBodyContent P ev).1.or (Python.sideContent P content eventId).1).isSome = true
  agree : ¬Disagree (Python.inBodyContent P ev).1 (Python.sideContent P content eventId).1
  some : committedStrings (recordValue P recordBytes) (ev.get "envelope") ≠ []
  empty : ∀ h ∈ committedStrings (recordValue P recordBytes) (ev.get "envelope"), h = []

/-- The two kernels agree on the content of an event, and fail it for a reason,
exactly unless it commits to empty strings only. -/
theorem contentAgrees_iff (ev : Json) (recordBytes : Option Bytes) (eventId : Str)
    (content : Str → Option SideContent) (hHash : T.crypto.sha256 = P.crypto.sha256)
    (hRecord : ReadAlike P T recordBytes)
    (hInBody : ∀ s, ev.get "content" = .str s → HexAgree P T s)
    (hSide : ∀ s, content eventId = some (.hex s) → HexAgree P T s) :
    ContentAgrees P T ev recordBytes eventId content ↔
      ¬OnlyEmptyHashes P ev recordBytes eventId content := by
  have hPython : (Python.evaluateContent P ev recordBytes eventId content).1 =
      (bindContent P.crypto (Python.committedHashes P ev recordBytes) (Python.inBodyContent P ev).1
        (Python.sideContent P content eventId).1).1 := rfl
  have hTypeScript : (TypeScript.evaluateContent T ev recordBytes eventId content).1 =
      (bindContent T.crypto (TypeScript.committedHashes T ev recordBytes)
        (Python.inBodyContent P ev).1 (Python.sideContent P content eventId).1).1 := by
    rw [inBodyContent_agree hInBody, sideContent_agree hSide]
    rfl
  rw [committedHashes_python] at hPython
  rw [committedHashes_typeScript hRecord] at hTypeScript
  by_cases hDisagree :
      Disagree (Python.inBodyContent P ev).1 (Python.sideContent P content eventId).1
  · rw [bindContent_of_disagree hDisagree] at hPython hTypeScript
    exact iff_of_true ⟨hPython.trans hTypeScript.symm, fun _ => Or.inl hDisagree⟩
      fun hOnly => hOnly.agree hDisagree
  rw [bindContent_of_agree hDisagree] at hPython hTypeScript
  cases hDisclosed :
      (Python.inBodyContent P ev).1.or (Python.sideContent P content eventId).1 with
  | none =>
      rw [hDisclosed] at hPython hTypeScript
      refine iff_of_true ⟨hPython.trans hTypeScript.symm, fun hFalse => ?_⟩ fun hOnly => ?_
      · rw [hPython] at hFalse
        cases hFalse
      · have hSome := hOnly.disclosed
        rw [hDisclosed] at hSome
        cases hSome
  | some disclosed =>
      rw [hDisclosed, Option.bind_some] at hPython hTypeScript
      generalize hStrings :
        committedStrings (recordValue P recordBytes) (ev.get "envelope") = strings
        at hPython hTypeScript
      have hDigest : T.crypto.sha256Hex disclosed = P.crypto.sha256Hex disclosed := by
        rw [Crypto.sha256Hex, Crypto.sha256Hex, hHash]
      rw [hDigest] at hTypeScript
      rw [contains_committed] at hTypeScript
      by_cases hNone : strings = []
      · subst hNone
        refine iff_of_true ⟨hPython.trans hTypeScript.symm, fun hFalse => ?_⟩ fun hOnly =>
          hOnly.some hStrings
        rw [hPython] at hFalse
        cases hFalse
      by_cases hNamed : (strings.filter fun h => !h.isEmpty) = []
      · have hAll : ∀ h ∈ strings, h = [] := by
          simpa [List.filter_eq_nil_iff] using hNamed
        refine iff_of_false (fun hAgrees => ?_) fun hNot => hNot
          ⟨by rw [hDisclosed]; rfl, hDisagree, by rw [hStrings]; exact hNone,
            by rw [hStrings]; exact hAll⟩
        have hSame := hAgrees.same
        rw [hPython, hTypeScript, hNamed, if_neg (by simpa using hNone)] at hSame
        cases hSame
      · rw [if_neg (by simpa using hNone)] at hPython
        rw [if_neg (by simpa using hNamed)] at hTypeScript
        refine iff_of_true ⟨hPython.trans hTypeScript.symm, fun hFalse => Or.inr
          ⟨disclosed, hDisclosed, by rw [hStrings]; exact hNamed, fun h hMem hSame => ?_⟩⟩
          fun hOnly => ?_
        · rw [hStrings] at hMem
          rw [hPython, Option.some.injEq, ← Bool.not_eq_true, List.contains_iff_mem] at hFalse
          exact hFalse (hSame ▸ List.mem_map_of_mem hMem)
        · refine hNamed (List.filter_eq_nil_iff.mpr fun h hMem => ?_)
          have hNil := hOnly.empty h (hStrings ▸ hMem)
          simp [hNil]

section Sample

open Reference

/-- An event that discloses no bytes and commits to one content hash of its
own. -/
def registered (hash : String) : Json :=
  .object [("content", .str ""), ("envelope", .object [("event_type", .str "asset_registered"),
    ("payload", .object [("hash", .str hash)])])]

theorem hexAgree_empty : HexAgree (python (signedWith [])) (typeScript (signedWith [])) [] := by
  rfl

theorem contentAgrees_sample : ContentAgrees (python (signedWith [])) (typeScript (signedWith []))
    (registered "00") none "event" (fun _ => none) := by
  refine (contentAgrees_iff (registered "00") none "event" (fun _ => none) rfl
    (fun bytes hBytes => by cases hBytes) (fun s hs => ?_) (fun s hs => by cases hs)).mpr
    fun hOnly => ?_
  · have hEmpty : s = [] := Json.str.inj (hs.symm.trans (by rfl))
    rw [hEmpty]
    exact hexAgree_empty
  · have hZeros := hOnly.empty (utf16 "00") (by decide)
    revert hZeros
    decide

/-- An empty hash fails the event for Python and leaves it undetermined for
TypeScript. -/
theorem emptyHash_disagrees : ¬ContentAgrees (python (signedWith []))
    (typeScript (signedWith [])) (registered "") none "event" (fun _ => none) := by
  rintro ⟨hSame, -⟩
  have hPython : (Python.evaluateContent (python (signedWith [])) (registered "") none "event"
      (fun _ => none)).1 = some false := by decide +kernel
  have hTypeScript : (TypeScript.evaluateContent (typeScript (signedWith [])) (registered "") none
      "event" (fun _ => none)).1 = none := by decide +kernel
  rw [hPython, hTypeScript] at hSame
  cases hSame

end Sample
end ArioProof.CrossKernel
