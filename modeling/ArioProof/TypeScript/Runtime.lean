import ArioProof.Data.Json
import ArioProof.Data.Primitives

/-! What the TypeScript kernel calls outside its own source. What is thrown is
kept by its message alone, since every handler of the kernel catches all. A
member that is missing is `undefined`, which is `none`. -/
namespace ArioProof.TypeScript

open Foundation

structure Runtime where
  crypto : Crypto
  /-- The `canonicalize` package: the RFC 8785 text, or the message it throws. -/
  canonicalize : Json → Except Str Str
  /-- `JSON.parse(new TextDecoder().decode(bytes))`. -/
  jsonParse : Bytes → Except Str Json
  /-- WebCrypto's import of an RSA key with its `n` and `e`. -/
  importKey : (n e : Str) → Except Str Unit
  /-- RSA-PSS with SHA-256 and a salt of 32 bytes, false where the engine throws. -/
  rsaPssVerify : (n e : Str) → (signature message : Bytes) → Bool
  /-- `toLowerCase`, by the Unicode tables of the engine. -/
  folding : Case.Folding
  /-- `JSON.stringify`, read only by messages. -/
  stringify : Json → Str
  /-- The text of a value in a template. -/
  text : Json → Except Str Str

variable (R : Runtime)

/-- `s.toLowerCase()`. -/
def toLowerCase (s : Str) : Str := R.folding.lower s

abbrev sha256Hex (data : Bytes) : Str := R.crypto.sha256Hex data

/-- `JSON.stringify` of a member, inside a template, where a missing one reads
`undefined`. -/
def quote : Option Json → Str
  | none => "undefined"
  | some v => R.stringify v

/-- A member, inside a template, which throws for what has no text. -/
def display : Option Json → Except Str Str
  | none => .ok "undefined"
  | some v => R.text v

/-- The message of a member read off `null` or `undefined`. -/
def noMember (holder : Option Json) (key : String) : Str :=
  fstring ["Cannot read properties of ", if holder.isSome then "null" else "undefined",
    " (reading '", key, "')"]

end ArioProof.TypeScript
