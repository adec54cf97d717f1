import ArioProof.Data.Evidence
import ArioProof.Data.Mapping
import ArioProof.Data.Primitives
import ArioProof.Foundation.Utf8Decoder

/-! `proof.go`, over what it calls outside its own source. Errors are kept by
their texts. A map that is nil reads as one without members, so it is `none`
where a call can return one. -/
namespace ArioProof.Go

open Foundation

structure Runtime where
  crypto : Crypto
  /-- `ed25519.Sign` under a key of 64 bytes. -/
  ed25519Sign : (privateKey message : Bytes) → Bytes
  /-- `json.Marshal`. -/
  marshal : Json → Except Str Bytes
  /-- `jcs.Transform`. -/
  transform : Bytes → Except Str Bytes
  /-- `json.Unmarshal` into a map: `null` leaves it nil, and a repeated key keeps
  its last value. -/
  unmarshal : Bytes → Except Str (Option (List (Str × Json)))
  /-- `%q`. -/
  quote : Str → Str
  /-- The message of `hex.DecodeString` about a text it does not accept. -/
  decodeStringError : Str → Str

variable (G : Runtime)

/-- An error; the one about the version is told apart from every other. -/
structure Error where
  text : Str
  unsupportedSpecVersion : Bool
  deriving DecidableEq, Repr

def errorf (text : Str) : Error := ⟨text, false⟩

/-- `if !ok { return nil, err }`, the one form of check in the source. -/
def require {ε : Type} (ok : Bool) (err : ε) : Except ε Unit :=
  if ok then .ok () else .error err

@[simp] theorem require_eq_ok {ε : Type} {ok : Bool} {err : ε} {done : Unit} :
    require ok err = .ok done ↔ ok = true := by
  cases ok <;> simp [require]

section Canonical

def canonicalJSON (v : Json) : Except Str Bytes := do
  let raw ← (G.marshal v).mapError fun text => fstring ["proof: marshal: ", text]
  (G.transform raw).mapError fun text => fstring ["proof: jcs transform: ", text]

abbrev sha256Hex (data : Bytes) : Str := G.crypto.sha256Hex data

end Canonical

section SpecVersion

def supportedSpecMajor : List String := ["ario.agent/v1", "ario.events/v1"]

/-- `strings.CutPrefix`: what stands behind the prefix, where the text has it. -/
def cutPrefix (s lead : Str) : Option Str :=
  if lead.isPrefixOf s then some (s.drop lead.length) else none

def isDigits (s : Str) : Bool := s.all fun c => !(c.toNat < 0x30 || 0x39 < c.toNat)

/-- One turn of the loop in `isSupportedSpec`: the version itself, or the version
and a dotted minor one. -/
def matchesSup (v : Str) (sup : String) : Bool :=
  v = utf16 sup ||
    match cutPrefix v (utf16 (sup ++ ".")) with
    | some minor => !minor.isEmpty && isDigits minor
    | none => false

def isSupportedSpec (v : Str) : Bool :=
  if v.isEmpty then false else supportedSpecMajor.any (matchesSup v)

end SpecVersion

section MalformedText

def hexDigit? (c : UInt8) : Option Nat :=
  let n := c.toNat
  if 0x30 ≤ n ∧ n ≤ 0x39 then some (n - 0x30)
  else if 0x61 ≤ n ∧ n ≤ 0x66 then some (n - 0x61 + 10)
  else if 0x41 ≤ n ∧ n ≤ 0x46 then some (n - 0x41 + 10)
  else none

/-- The value of hexadecimal digits, absent if one of them is none. -/
def hex4 (digits : Bytes) : Option Nat :=
  digits.foldlM (fun v c => (hexDigit? c).map (0x10 * v + ·)) 0

def isLowSurrogate (cp : Nat) : Bool := 0xDC00 ≤ cp && cp ≤ 0xDFFF

def isHighSurrogate (cp : Nat) : Bool := 0xD800 ≤ cp && cp ≤ 0xDBFF

/-- The loop of `rejectMalformedText` over the bytes that are left. It keeps one
bit, whether the byte stands inside a string literal, and looks at escapes of four
digits only. -/
def scanText : (inString : Bool) → Bytes → Except Str Unit
  | _, [] => .ok ()
  | false, c :: rest => scanText (c = 0x22) rest
  | true, c :: rest =>
      if c = 0x22 then scanText false rest
      else if c ≠ 0x5C then scanText true rest
      else
        match rest with
        | [] => .error "proof: truncated escape in JSON string"
        | e :: rest =>
            if e ≠ 0x75 then scanText true rest
            else
              match rest with
              | d0 :: d1 :: d2 :: d3 :: rest =>
                  match hex4 [d0, d1, d2, d3] with
                  | none => .error "proof: malformed \\u escape in JSON string"
                  | some cp =>
                      if isLowSurrogate cp then
                        .error "proof: lone low surrogate escape in JSON string"
                      else if isHighSurrogate cp then
                        match rest with
                        | c :: e :: d0 :: d1 :: d2 :: d3 :: rest =>
                            if c = 0x5C ∧ e = 0x75 ∧ (hex4 [d0, d1, d2, d3]).any isLowSurrogate then
                              scanText true rest
                            else .error "proof: lone high surrogate escape in JSON string"
                        | _ => .error "proof: lone high surrogate escape in JSON string"
                      else scanText true rest
              | _ => .error "proof: malformed \\u escape in JSON string"

/-- Outside a literal only the quotation mark counts. -/
theorem scanText_outside (c : UInt8) (rest : Bytes) :
    scanText false (c :: rest) = scanText (c = 0x22) rest := by
  conv_lhs => unfold scanText

def rejectMalformedText (raw : Bytes) : Except Str Unit :=
  if (decodeUtf8 raw).isNone then .error "proof: envelope JSON is not valid UTF-8"
  else scanText false raw

end MalformedText

section Verify

/-- The signed scope of an envelope: its members without the signature and the
co-signatures. -/
def scopeMap (envelope : Json) : Json :=
  envelope.restrict fun key => !(unsignedFields.map utf16).contains key

/-- The inline payload against the stored hash, in the canonical form of the
kernel. -/
def checkInline (envelope : Json) (want : Str) : Except Error Unit :=
  match envelope.get? "payload" with
  | none => .ok ()
  | some payload => do
      let payloadBytes ← (canonicalJSON G payload).mapError fun text =>
        errorf (fstring ["proof: canonicalize payload: ", text])
      let got := sha256Hex G payloadBytes
      require (got = want)
        (errorf (fstring ["proof: payload_hash mismatch: have=", got, " want=", want]))

/-- The supplied bytes against the stored hash, as they are. Nothing is
canonicalized here, and a nil slice is not compared. -/
def checkExternal (externalPayload : Option Bytes) (want : Str) : Except Error Unit :=
  match externalPayload with
  | none => .ok ()
  | some bytes =>
      let got := sha256Hex G bytes
      require (got = want) (errorf (fstring
        ["proof: payload_hash does not match the committed bytes: have=", got, " want=", want]))

/-- Step 2 of `verifyEnvelope`: a stored hash there has to be, and it is compared
with the inline payload and with the bytes supplied. -/
def checkPayload (envelope : Json) (externalPayload : Option Bytes) : Except Error Unit :=
  match envelope.get "payload_hash" with
  | .str want => do
      checkInline G envelope want
      checkExternal G externalPayload want
  | _ => .error (errorf "proof: missing payload_hash (required in every profile)")

/-- `hex.DecodeString`, which takes digits of either case and nothing else. The
text of its error is that of the library. -/
def decodeString (s : Str) : Except Str Bytes :=
  match Hex.strictHex s with
  | some bytes => .ok bytes
  | none => .error (G.decodeStringError s)

/-- `ed25519.Verify` under a key of the right length. A signature of any other
length than 64 bytes does not verify. -/
def ed25519Verify (publicKey message signature : Bytes) : Bool :=
  signature.length = 64 && G.crypto.ed25519Verify publicKey signature message

/-- Step 3 of `verifyEnvelope`: the signature over the canonical bytes of the
signed scope. -/
def checkSignature (envelope : Json) : Except Error Unit := do
  let sigHex := (envelope.get "signature").str?.getD []
  let pubHex := (envelope.get "public_key").str?.getD []
  require (!(sigHex.isEmpty || pubHex.isEmpty)) (errorf "proof: missing signature or public_key")
  let sig ← (decodeString G sigHex).mapError fun text =>
    errorf (fstring ["proof: decode signature: ", text])
  let pub ← (decodeString G pubHex).mapError fun text =>
    errorf (fstring ["proof: decode public_key: ", text])
  require (pub.length = 32) (errorf (fstring
    ["proof: public_key wrong length: got ", decimal pub.length, ", want ", decimal 32]))
  let scope ← (canonicalJSON G (scopeMap envelope)).mapError fun text =>
    errorf (fstring ["proof: canonicalize envelope-for-sig: ", text])
  require (ed25519Verify G pub scope sig) (errorf "proof: signature invalid")

/-- What `verifyEnvelope` checks of a parsed envelope, with the first failure for
its error. -/
def checkEnvelope (envelope : Json) (externalPayload : Option Bytes) : Except Error Unit := do
  let specV := (envelope.get "spec_version").str?.getD []
  require (isSupportedSpec specV)
    ⟨fstring ["proof: unsupported spec_version", ": ", G.quote specV], true⟩
  checkPayload G envelope externalPayload
  checkSignature G envelope

def verifyEnvelope (envelopeJSON : Bytes) (externalPayload : Option Bytes) : Except Error Json := do
  (rejectMalformedText envelopeJSON).mapError errorf
  let parsed ← (G.unmarshal envelopeJSON).mapError fun text =>
    errorf (fstring ["proof: parse envelope: ", text])
  let envelope := (parsed.map .obj).getD .null
  checkEnvelope G envelope externalPayload
  return envelope

/-- `VerifyEnvelopeWithPayload`, of a slice that may be nil. Bytes are required
here, where `VerifyEnvelope` does without. -/
def verifyEnvelopeWithPayload (envelopeJSON : Bytes) (payloadBytes : Option Bytes) :
    Except Error Json :=
  match payloadBytes with
  | none => .error (errorf "proof: payloadBytes required (use VerifyEnvelope for signature-only)")
  | some bytes => verifyEnvelope G envelopeJSON (some bytes)

end Verify

section Sign

/-- The public half of a private key, which is its last 32 bytes; the first 32 are
the seed. -/
def publicKey (priv : Bytes) : Bytes := priv.drop 32

/-- What `SignEnvelope` signs, up to the fields it drops from the scope. -/
def prepare (envelope : Json) (priv payloadBytes : Bytes) : Json :=
  ((envelope.restrict fun key => key ≠ utf16 "signature").set "payload_hash"
    (.str (sha256Hex G payloadBytes))).set "public_key" (.str (Hex.encode (publicKey priv)))

/-- `SignEnvelope`, of a map that may be nil. It returns the canonical bytes of
the signed envelope, or the first error on the way. -/
def signEnvelope (envelope : Option (List (Str × Json))) (priv : Bytes) : Except Str Bytes :=
  match envelope with
  | none => .error "proof: nil envelope"
  | some members => do
      let envelope := Json.obj members
      require (priv.length = 64) (fstring
        ["proof: bad private key length: got ", decimal priv.length, ", want ", decimal 64])
      require (envelope.get? "payload").isSome "proof: envelope missing 'payload'"
      let payloadBytes ← (canonicalJSON G (envelope.get "payload")).mapError fun text =>
        fstring ["proof: canonicalize payload: ", text]
      let work := prepare G envelope priv payloadBytes
      let scope ← (canonicalJSON G (work.restrict fun key => key ≠ utf16 "co_signatures")).mapError
        fun text => fstring ["proof: canonicalize envelope-for-sig: ", text]
      let sig := G.ed25519Sign priv scope
      (canonicalJSON G (work.set "signature" (.str (Hex.encode sig)))).mapError fun text =>
        fstring ["proof: canonicalize signed envelope: ", text]

end Sign
end ArioProof.Go
