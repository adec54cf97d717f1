import ArioProof.Python.Jcs
import ArioProof.Reference.JsonText
import ArioProof.Reference.Sha256
import ArioProof.TypeScript.Crypto

/-! Concrete runtimes. Hashing and JSON text are computed. Signatures are read
from a table of signed messages, so that a run sees the signatures of the real
schemes on the messages it is about; on every other message the table stands
for a scheme that is correct and nothing more. -/
namespace ArioProof.Reference

open Foundation

/-- A message by its digest, the key it was signed with, and the signature. -/
structure Signed where
  key : Nat
  digest : Nat
  signature : Nat

/-- The signatures of a run: Ed25519 keys by their seeds, and what Ed25519 and
RSA keys have signed. -/
structure Signatures where
  publicKeys : List (Nat × Nat)
  ed25519 : List Signed
  rsa : List Signed

variable (S : Signatures)

/-- The signature of a message under a key, as far as it is in the table. -/
def signatureOf (table : List Signed) (key : Nat) (message : Bytes) : Option Nat :=
  eager (ofOctets 0 (sha256.digest message)) fun digest =>
    (table.find? fun entry => entry.key = key && entry.digest = digest).map (·.signature)

def publicKeyOf (seed : Bytes) : Bytes :=
  octets 32 ((S.publicKeys.lookup (ofOctets 0 seed)).getD (ofOctets 0 seed))

def signUnder (publicKey message : Bytes) : Bytes :=
  octets 64 ((signatureOf S.ed25519 (ofOctets 0 publicKey) message).getD 0)

/-- The primitives of a sample: SHA-256 as it is, and a table of Ed25519
signatures that were made by a real implementation. -/
def crypto : Crypto where
  sha256 := sha256
  ed25519PublicKey := publicKeyOf S
  ed25519Sign seed message := signUnder S (publicKeyOf S seed) message
  ed25519Verify publicKey signature message := signature = signUnder S publicKey message

/-- Signatures of the table verify under the key that made them. -/
theorem ed25519Correct : (crypto S).Ed25519Correct where
  length_publicKey seed _ := length_octets 32 _
  length_sign seed message _ := length_octets 64 _
  verify_sign seed message _ := by simp [crypto]

/-- An RSA signature over a message under a modulus. -/
def rsaVerify (n : Nat) (signature message : Bytes) : Bool :=
  signatureOf S.rsa n message = some (ofOctets 0 signature)

def noText : Str := "no canonical text"

def notJson : Str := "Expecting value"

section Python

/-- What the Python kernel is run with: the reference JSON, and a table of
signatures. -/
def python : Python.Runtime where
  crypto := crypto S
  jcs v := match canonicalText v with
    | some text => .ok (text.map UInt16.toUInt8)
    | none => .error noText
  jsonLoads bytes := match parse (bytes.map UInt8.toUInt16) with
    | some v => .ok v
    | none => .error notJson
  rsaPublicKey _ _ := .ok ()
  rsaPssVerify n _ signature message := rsaVerify S n signature message
  folding := Case.asciiFolding
  repr v := (canonicalText v).getD []
  fromhexError _ := "non-hexadecimal number found in fromhex() arg"

variable {S}

theorem toUInt16_toUInt8 {c : UInt16} (h : c.toNat < 0x80) : c.toUInt8.toUInt16 = c := by
  obtain ⟨n, hn, rfl⟩ : ∃ n, n < 128 ∧ c = UInt16.ofNat n := ⟨c.toNat, h, by simp⟩
  interval_cases n <;> rfl

theorem map_toUInt16_toUInt8 {text : Str} (h : isAscii text = true) :
    (text.map UInt16.toUInt8).map UInt8.toUInt16 = text := by
  simp only [isAscii, List.all_eq_true, decide_eq_true_eq] at h
  rw [List.map_map]
  exact (List.map_congr_left fun c hc => toUInt16_toUInt8 (h c hc)).trans (List.map_id text)

/-- The reference canonicalizer writes canonical texts, which are ASCII. -/
theorem jcs_eq_ok {v : Json} {bytes : Bytes} :
    (python S).jcs v = .ok bytes ↔
      ∃ text, canonicalText v = some text ∧ bytes = text.map UInt16.toUInt8 := by
  change (match canonicalText v with
    | some text => Except.ok (text.map UInt16.toUInt8)
    | none => Except.error noText) = Except.ok bytes ↔ _
  cases canonicalText v <;> simp [eq_comm]

theorem isOk_jcs (v : Json) : ((python S).jcs v).isOk = (canonicalText v).isSome := by
  change (match canonicalText v with
    | some text => Except.ok (text.map UInt16.toUInt8)
    | none => Except.error noText : Except Str Bytes).isOk = _
  cases canonicalText v <;> rfl

theorem jsonLoads_of_text {text : Str} (h : isAscii text = true) {v : Json}
    (hParse : parse text = some v) : (python S).jsonLoads (text.map UInt16.toUInt8) = .ok v := by
  change (match parse ((text.map UInt16.toUInt8).map UInt8.toUInt16) with
    | some v => Except.ok v
    | none => Except.error notJson) = _
  rw [map_toUInt16_toUInt8 h, hParse]

/-- A value has canonical bytes when its parts have. -/
theorem jcsCompositional : (python S).JcsCompositional where
  null := rfl
  bool value := by cases value <;> rfl
  ascii s h := by
    rw [isOk_jcs, isSome_canonicalText_str]
    simpa [isAscii] using h
  arr items _ := by
    simp only [isOk_jcs]
    exact isSome_canonicalText_arr items
  obj members _ := by
    simp only [isOk_jcs, isSome_canonicalText_str]
    exact isSome_canonicalText_obj members

/-- Canonical bytes tell values apart, up to the order of members and the kind of
numbers. -/
theorem jcsInjective : (python S).JcsInjective := by
  intro v w bytes hv hw
  obtain ⟨text, hText, rfl⟩ := jcs_eq_ok.mp hv
  obtain ⟨other, hOther, hSame⟩ := jcs_eq_ok.mp hw
  have hTexts : text = other := by
    rw [← map_toUInt16_toUInt8 (isAscii_canonicalText hText), hSame,
      map_toUInt16_toUInt8 (isAscii_canonicalText hOther)]
  exact norm_eq_of_canonicalText hText (hTexts ▸ hOther)

/-- Values that a canonical form does not tell apart have the same canonical
bytes. -/
theorem jcsNormal : (python S).JcsNormal := by
  intro v w bytes hNorm hv
  obtain ⟨text, hText, rfl⟩ := jcs_eq_ok.mp hv
  refine jcs_eq_ok.mpr ⟨text, ?_, rfl⟩
  rw [canonicalText, ← order_eq_of_norm_eq hNorm]
  exact hText

/-- Canonical bytes are read back as a value with the same canonical form. -/
theorem jcsRoundTrip : (python S).JcsRoundTrip := by
  intro v bytes hv
  obtain ⟨text, hText, rfl⟩ := jcs_eq_ok.mp hv
  exact ⟨order v, jsonLoads_of_text (isAscii_canonicalText hText) (parse_canonicalText hText),
    norm_order v⟩

/-- What is read back from canonical bytes has these bytes as its canonical
form. -/
theorem jcsReparse : (python S).JcsReparse := by
  intro v bytes parsed other hv hParsed hOther
  obtain ⟨text, hText, rfl⟩ := jcs_eq_ok.mp hv
  rw [jsonLoads_of_text (isAscii_canonicalText hText) (parse_canonicalText hText)] at hParsed
  cases hParsed
  obtain ⟨again, hAgain, rfl⟩ := jcs_eq_ok.mp hOther
  rw [canonicalText_parse hText (parse_canonicalText hText)] at hAgain
  cases hAgain
  rfl

end Python

section TypeScript

/-- What the TypeScript kernel is run with: the reference JSON, and a table of
signatures. -/
def typeScript : TypeScript.Runtime where
  crypto := crypto S
  canonicalize v := match canonicalText v with
    | some text => .ok text
    | none => .error noText
  jsonParse bytes := match parse (bytes.map UInt8.toUInt16) with
    | some v => .ok v
    | none => .error notJson
  importKey _ _ := .ok ()
  rsaPssVerify n _ signature message :=
    match Base64.decode n with
    | some modulus => rsaVerify S (ofOctets 0 modulus) signature message
    | none => false
  folding := Case.asciiFolding
  stringify v := (canonicalText v).getD []
  text v := .ok (v.str?.getD ((canonicalText v).getD []))

end TypeScript
end ArioProof.Reference
