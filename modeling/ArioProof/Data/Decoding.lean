import ArioProof.Data.Text
import ArioProof.Foundation.HashFunction
import ArioProof.Foundation.Utf8Decoder

/-! How bytes become text before they are parsed as JSON. `json.loads` looks at
the first bytes for an encoding and lets surrogates through; `TextDecoder`
always reads UTF-8 and replaces what is ill-formed. -/
namespace ArioProof

open Foundation

def byteOrderMark : Bytes := [0xEF, 0xBB, 0xBF]

def hasByteOrderMark (data : Bytes) : Bool := byteOrderMark.isPrefixOf data

/-- The text behind an initial byte order mark. Only one mark is dropped; a second
one is part of the text. -/
def dropByteOrderMark (data : Bytes) : Bytes :=
  if hasByteOrderMark data then data.drop byteOrderMark.length else data

/-- Well-formed UTF-8, an initial byte order mark allowed. Once it is taken for
UTF-8 such text is decoded alike in both languages. -/
def utf8Text (data : Bytes) : Option (List Nat) := decodeUtf8 (dropByteOrderMark data)

section TextDecoder

/-- A code point as JavaScript stores it, in one code unit or two. -/
def codeUnit (c : Nat) : Str :=
  if c < 0x10000 then [UInt16.ofNat c]
  else [UInt16.ofNat (0xD800 + (c - 0x10000) / 0x400), UInt16.ofNat (0xDC00 + (c - 0x10000) % 0x400)]

def codeUnits (text : List Nat) : Str := text.flatMap codeUnit

/-- `new TextDecoder().decode(data)`, which drops a byte order mark and repairs
what is ill-formed. -/
def textDecode (data : Bytes) : Str := codeUnits (repairUtf8 (dropByteOrderMark data))

theorem textDecode_of_utf8Text {data : Bytes} {text : List Nat} (h : utf8Text data = some text) :
    textDecode data = codeUnits text := by
  rw [textDecode, repairUtf8_of_decode h]

theorem zero_mem_codeUnits {text : List Nat} (h : 0 ∈ text) : 0 ∈ codeUnits text :=
  List.mem_flatMap.mpr ⟨0, h, by simp [codeUnit]⟩

end TextDecoder

section DetectEncoding

inductive Encoding where
  | utf8
  | utf8Sig
  /-- With a byte order mark. -/
  | utf16
  | utf16be
  | utf16le
  /-- With a byte order mark. -/
  | utf32
  | utf32be
  | utf32le
  deriving DecidableEq, Repr

/-- `json.detect_encoding`: the byte order mark, where there is one, and otherwise
the pattern of zeros among the first four bytes. -/
def detectEncoding (data : Bytes) : Encoding :=
  if [0x00, 0x00, 0xFE, 0xFF].isPrefixOf data || [0xFF, 0xFE, 0x00, 0x00].isPrefixOf data then .utf32
  else if [0xFE, 0xFF].isPrefixOf data || [0xFF, 0xFE].isPrefixOf data then .utf16
  else if hasByteOrderMark data then .utf8Sig
  else
    match data with
    | a :: b :: c :: d :: _ =>
        if a = 0 then if b = 0 then .utf32be else .utf16be
        else if b = 0 then if c = 0 ∧ d = 0 then .utf32le else .utf16le
        else .utf8
    | [a, b] => if a = 0 then .utf16be else if b = 0 then .utf16le else .utf8
    | _ => .utf8

def utf16Units (bigEndian : Bool) : Bytes → Option (List Nat)
  | [] => some []
  | a :: b :: rest =>
      (utf16Units bigEndian rest).map
        ((if bigEndian then 0x100 * a.toNat + b.toNat else 0x100 * b.toNat + a.toNat) :: ·)
  | [_] => none

/-- The code points behind 16-bit units: a pair becomes one code point, and
surrogates without a partner are let through. -/
def joinSurrogates : List Nat → List Nat
  | [] => []
  | [c] => [c]
  | c :: d :: rest =>
      if (0xD800 ≤ c ∧ c ≤ 0xDBFF) ∧ 0xDC00 ≤ d ∧ d ≤ 0xDFFF then
        (0x10000 + (c - 0xD800) * 0x400 + (d - 0xDC00)) :: joinSurrogates rest
      else c :: joinSurrogates (d :: rest)

def decodeUtf16 (bigEndian : Bool) (data : Bytes) : Option (List Nat) :=
  (utf16Units bigEndian data).map joinSurrogates

def decodeUtf32 (bigEndian : Bool) : Bytes → Option (List Nat)
  | [] => some []
  | a :: b :: c :: d :: rest =>
      let ordered := if bigEndian then [a, b, c, d] else [d, c, b, a]
      let value := ordered.foldl (fun value byte => 0x100 * value + byte.toNat) 0
      if value < 0x110000 then (decodeUtf32 bigEndian rest).map (value :: ·) else none
  | _ => none

/-- `data.decode(detect_encoding(data), "surrogatepass")`, the first step of
`json.loads` on bytes. A mark that named the encoding is no part of the text. -/
def decodeJson (data : Bytes) : Option (List Nat) :=
  match detectEncoding data with
  | .utf8 => decodeUtf8Surrogates data
  | .utf8Sig => decodeUtf8Surrogates (data.drop byteOrderMark.length)
  | .utf16 => decodeUtf16 (data.head? = some 0xFE) (data.drop 2)
  | .utf16be => decodeUtf16 true data
  | .utf16le => decodeUtf16 false data
  | .utf32 => decodeUtf32 (data.head? = some 0x00) (data.drop 4)
  | .utf32be => decodeUtf32 true data
  | .utf32le => decodeUtf32 false data

/-- Read as UTF-8, with or without its byte order mark. Any other encoding is
known to Python alone. -/
def isUtf8 : Encoding → Bool
  | .utf8 | .utf8Sig => true
  | _ => false

theorem decodeJson_of_isUtf8 {data : Bytes} (h : isUtf8 (detectEncoding data) = true) :
    decodeJson data = decodeUtf8Surrogates (dropByteOrderMark data) := by
  unfold decodeJson dropByteOrderMark
  cases hEncoding : detectEncoding data with
  | utf8 =>
      have hMark : hasByteOrderMark data = false := by
        unfold detectEncoding at hEncoding
        split_ifs at hEncoding with _ _ hMark
        exact Bool.eq_false_iff.mpr hMark
      simp [hMark]
  | utf8Sig =>
      have hMark : hasByteOrderMark data = true := by
        unfold detectEncoding at hEncoding
        split_ifs at hEncoding with _ _ hMark
        · exact hMark
        · -- The remaining encodings have no byte order mark.
          exfalso
          split at hEncoding
          · split_ifs at hEncoding
          · split_ifs at hEncoding
          · cases hEncoding
      simp [hMark]
  | _ => simp [hEncoding, isUtf8] at h

/-- Well-formed UTF-8 without a zero is not taken for anything else. -/
theorem isUtf8_of_utf8Text {data : Bytes} {text : List Nat} (h : utf8Text data = some text)
    (hZero : 0 ∉ text) : isUtf8 (detectEncoding data) = true := by
  cases hMark : hasByteOrderMark data with
  | true =>
      obtain ⟨rest, rfl⟩ := List.isPrefixOf_iff_prefix.mp hMark
      rfl
  | false =>
      rw [utf8Text, dropByteOrderMark, hMark, if_neg (by simp)] at h
      have hBytes : (0 : UInt8) ∉ data := fun hMem => hZero (zero_mem_of_decodeUtf8 h hMem)
      unfold detectEncoding
      rw [hMark]
      cases data with
      | nil => rfl
      | cons a rest =>
          have ha : a ≠ 0 := fun h0 => hBytes (h0 ▸ List.mem_cons_self)
          have hFF : a ≠ 0xFF := by
            rintro rfl
            cases h
          have hFE : a ≠ 0xFE := by
            rintro rfl
            cases h
          cases rest with
          | nil => simp [List.isPrefixOf, isUtf8]
          | cons b rest =>
              have hb : b ≠ 0 := fun h0 => hBytes (h0 ▸ List.mem_cons_of_mem a List.mem_cons_self)
              rcases rest with - | ⟨c, - | ⟨d, rest⟩⟩ <;>
                simp [List.isPrefixOf, ha, hb, Ne.symm hFF, Ne.symm hFE, Ne.symm ha, isUtf8]

/-- On well-formed UTF-8 without a zero the two runtimes read one text. -/
theorem decodeJson_of_utf8Text {data : Bytes} {text : List Nat} (h : utf8Text data = some text)
    (hZero : 0 ∉ text) : decodeJson data = some text := by
  rw [decodeJson_of_isUtf8 (isUtf8_of_utf8Text h hZero)]
  exact decodeUtf8Surrogates_of_decode h

end DetectEncoding
end ArioProof
