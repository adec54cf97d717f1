import ArioProof.CrossKernel.Acceptance
import ArioProof.Reference.Syntax

/-! The concrete runtime of the Go kernel, next to those of the other two. -/
namespace ArioProof.Reference

open Foundation
open TypeScript (strings WellFormed)

variable (S : Signatures)

def goParse (raw : Bytes) : Option Json := parse (raw.map UInt8.toUInt16)

def goText (v : Json) : Except Str Bytes :=
  match canonicalText v with
  | some text => .ok (toBytes text)
  | none => .error noText

def go : Go.Runtime where
  crypto := crypto S
  ed25519Sign privateKey message := signUnder S (privateKey.drop 32) message
  marshal := goText
  transform raw :=
    match goParse raw with
    | some v => goText v
    | none => .error notJson
  unmarshal raw :=
    match goParse raw with
    | some (.obj members) => .ok (some members)
    | some .null => .ok none
    | _ => .error notJson
  quote s := s
  decodeStringError _ := "encoding/hex: invalid byte"

variable {S}

theorem goParse_text {v : Json} {text : Str} (h : canonicalText v = some text) :
    goParse (toBytes text) = some (order v) := by
  rw [goParse, toBytes, map_toUInt16_toUInt8 (isAscii_canonicalText h)]
  exact parse_canonicalText h

/-- What is marshalled is canonical already. -/
theorem canonicalJSON_go (v : Json) : (Go.canonicalJSON (go S) v).toOption = (canonicalText v).map toBytes := by
  unfold Go.canonicalJSON
  simp only [go, goText]
  cases hText : canonicalText v with
  | none => rfl
  | some text =>
      have hAgain : canonicalText (order v) = some text := by
        rw [canonicalText, order_order]
        exact hText
      simp [Except.mapError, bind, Except.bind, goParse_text hText, hAgain, Except.toOption]

theorem goJcsAgrees : CrossKernel.GoJcsAgrees (go S) (typeScript S) := by
  intro v _ _
  rw [canonicalJSON_go]
  simp only [typeScript]
  cases hText : canonicalText v with
  | none => rfl
  | some text =>
      simp [Except.map, Except.toOption, CrossKernel.utf8_of_isAscii (isAscii_canonicalText hText),
        toBytes]

theorem goJcsNormal : CrossKernel.GoJcsNormal (go S) := by
  intro v w hNorm
  rw [canonicalJSON_go, canonicalJSON_go, canonicalText, order_eq_of_norm_eq hNorm, canonicalText]

theorem wellFormed_of_isAscii {s : Str} (h : isAscii s = true) : WellFormed s :=
  (TypeScript.rejectString_eq_ok_iff s).mp (CrossKernel.rejectString_of_isAscii h)

theorem wellFormed_of_canonicalText {v : Json} {text : Str} (h : canonicalText v = some text) {s : Str}
    (hs : s ∈ strings (order v)) : WellFormed s := by
  have hAgain : canonicalText (order v) = some text := by
    rw [canonicalText, order_order]
    exact h
  have hReject := CrossKernel.rejectLoneSurrogates_of_isSome (order v) (by rw [hAgain]; rfl)
  exact (TypeScript.rejectLoneSurrogates_eq_ok_iff _).mp hReject s hs

/-- Canonical text is read as one value by the three parsers. -/
theorem parsedAlike {v : Json} {text : Str} {d : Syntax.Document} (hObj : v.isObj = true)
    (hText : canonicalText v = some text) (hBytes : d.bytes = toBytes text)
    (hLiterals : d.literals = strings (order v)) :
    CrossKernel.ParsedAlike (go S) (typeScript S) (python S) d (order v) := by
  have hParse := goParse_text hText
  refine ⟨?_, ?_, fun _ => ?_, fun s hs => hLiterals ▸ hs⟩
  · rw [goParse] at hParse
    simp [typeScript, hBytes, hParse]
  · rw [goParse] at hParse
    simp [python, hBytes, hParse]
  · cases v with
    | obj members =>
        refine ⟨sortMembers (orderMembers members), ?_, rfl⟩
        rw [order] at hParse
        simp [go, hBytes, hParse]
    | _ => cases hObj

end ArioProof.Reference
