import ArioProof.Data.Primitives

/-! UTF-8 of a JSON string. -/
namespace ArioProof

open Foundation

def utf8Char (codePoint : Nat) : Bytes :=
  if codePoint < 0x80 then [UInt8.ofNat codePoint]
  else if codePoint < 0x800 then
    [UInt8.ofNat (0xC0 + codePoint / 0x40), UInt8.ofNat (0x80 + codePoint % 0x40)]
  else if codePoint < 0x10000 then
    [UInt8.ofNat (0xE0 + codePoint / 0x1000), UInt8.ofNat (0x80 + codePoint / 0x40 % 0x40),
      UInt8.ofNat (0x80 + codePoint % 0x40)]
  else
    [UInt8.ofNat (0xF0 + codePoint / 0x40000), UInt8.ofNat (0x80 + codePoint / 0x1000 % 0x40),
      UInt8.ofNat (0x80 + codePoint / 0x40 % 0x40), UInt8.ofNat (0x80 + codePoint % 0x40)]

/-- A unit outside a pair; a surrogate there is replaced by U+FFFD. -/
def loneCodePoint (c : UInt16) : Nat :=
  if Case.isHighSurrogate c || Case.isLowSurrogate c then 0xFFFD else c.toNat

/-- `TextEncoder.encode`: the UTF-8 bytes of a text, with a replacement character
for each lone surrogate. -/
def utf8 : Str → Bytes
  | [] => []
  | [c] => utf8Char (loneCodePoint c)
  | c :: d :: rest =>
      if Case.isHighSurrogate c && Case.isLowSurrogate d then
        utf8Char (0x10000 + (c.toNat - 0xD800) * 0x400 + (d.toNat - 0xDC00)) ++ utf8 rest
      else utf8Char (loneCodePoint c) ++ utf8 (d :: rest)

end ArioProof
