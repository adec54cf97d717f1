import ArioProof.Data.Depth
import ArioProof.Data.Json
import ArioProof.Data.Primitives

/-! What the Python kernel calls outside its own source: the third-party
packages, and the parts of the standard library whose exact output the kernel
only passes on. Exceptions are values, so that a caller which does not catch
one is seen to raise it. -/
namespace ArioProof.Python

open Foundation

/-- Exceptions that a caller tells apart, each with the text `str(exc)`. -/
inductive Exc where
  | attributeError (text : Str)
  | typeError (text : Str)
  /-- `ValueError`, and `binascii.Error`, which is one. -/
  | valueError (text : Str)
  | canonicalDepthError (text : Str)
  | malformedRsaError (text : Str)
  /-- Whatever a third-party package raises. -/
  | library (text : Str)
  deriving DecidableEq, Repr

def Exc.text : Exc → Str
  | attributeError text | typeError text | valueError text | canonicalDepthError text
  | malformedRsaError text | library text => text

structure Runtime where
  crypto : Crypto
  /-- `jcs.canonicalize`: the RFC 8785 bytes, or the text of the exception. -/
  jcs : Json → Except Str Bytes
  /-- `json.loads` on bytes. -/
  jsonLoads : Bytes → Except Str Json
  /-- `RSAPublicNumbers(e, n).public_key()`: whether the numbers make a key. -/
  rsaPublicKey : (n e : Nat) → Except Str Unit
  /-- RSA-PSS-SHA-256 with the pinned salt, false when the backend raises. -/
  rsaPssVerify : (n e : Nat) → (signature message : Bytes) → Bool
  /-- `str.lower`, by the Unicode tables of the interpreter. -/
  folding : Case.Folding
  /-- `repr`, read only by messages. -/
  repr : Json → Str
  /-- The message of `bytes.fromhex` about a text it does not accept. -/
  fromhexError : Str → Str

variable (R : Runtime)

/-- `str.lower`. -/
def lower (s : Str) : Str := R.folding.lower s

/-- `hashlib.sha256(data).digest()`. -/
abbrev sha256 (data : Bytes) : Bytes := R.crypto.sha256.digest data

abbrev sha256Hex (data : Bytes) : Str := R.crypto.sha256Hex data

/-- The characters of a `str`, each as a string of its own. -/
def chars : Str → List Str
  | [] => []
  | [c] => [[c]]
  | c :: d :: rest =>
      if Case.isHighSurrogate c && Case.isLowSurrogate d then [c, d] :: chars rest
      else [c] :: chars (d :: rest)

/-- `len` of a `str`, which counts code points and not code units. -/
def len (s : Str) : Nat := (chars s).length

def typeName : Json → Str
  | .null => "NoneType"
  | .bool _ => "bool"
  | .int _ => "int"
  | .float _ => "float"
  | .str _ => "str"
  | .arr _ => "list"
  | .obj _ => "dict"

/-- `repr(d.get(key))` of a member that may be missing. -/
def quote (v : Option Json) : Str := R.repr (v.getD .null)

/-- What an f-string shows of a value: texts as they are, and all else by its
representation. -/
def format : Json → Str
  | .str s => s
  | v => R.repr v

/-- The exception of `v.get(...)` on anything but a `dict`. -/
def noGet (v : Json) : Exc :=
  .attributeError (fstring ["'", typeName v, "' object has no attribute 'get'"])

/-- `canonicalize.py`: the package behind the nesting guard, with the exceptions
of either. -/
def canonicalJson (obj : Json) : Except Exc Bytes :=
  if exceedsDepth obj maxCanonicalDepth then
    .error (.canonicalDepthError
      "input nesting exceeds the 128-level canonicalization depth bound")
  else (R.jcs obj).mapError .library

end ArioProof.Python
