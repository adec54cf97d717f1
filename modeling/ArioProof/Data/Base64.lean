import ArioProof.Data.Text
import ArioProof.Foundation.HashFunction

/-! Base64. `a2b` is the state machine of Python's lenient decoder, which skips
characters outside the alphabet and stops at a completed pad sequence. The
encoder writes the unpadded url-safe form. -/
namespace ArioProof.Base64

open Foundation

/-- The six bits of a character of the standard alphabet. Python decodes this one,
after a translation of the two characters that differ. -/
def value? (c : UInt16) : Option Nat :=
  if 0x41 ≤ c.toNat ∧ c.toNat ≤ 0x5A then some (c.toNat - 0x41)
  else if 0x61 ≤ c.toNat ∧ c.toNat ≤ 0x7A then some (c.toNat - 0x47)
  else if 0x30 ≤ c.toNat ∧ c.toNat ≤ 0x39 then some (c.toNat + 4)
  else if c.toNat = 0x2B then some 62
  else if c.toNat = 0x2F then some 63
  else none

/-- Python's `urlsafe_b64decode` first translates its two own characters, and
decodes the standard alphabet from then on. -/
def fromUrlsafe (c : UInt16) : UInt16 :=
  if c.toNat = 0x2D then 0x2B else if c.toNat = 0x5F then 0x2F else c

/-- The character class `[A-Za-z0-9_-]`, by which both kernels check a text before
they decode it. -/
def isUrlsafe (c : UInt16) : Bool :=
  (0x41 ≤ c.toNat && c.toNat ≤ 0x5A) || (0x61 ≤ c.toNat && c.toNat ≤ 0x7A) ||
    (0x30 ≤ c.toNat && c.toNat ≤ 0x39) || c.toNat = 0x5F || c.toNat = 0x2D

def pad : UInt16 := 0x3D

/-- `binascii.a2b_base64`: `quadPos` characters of the current quad were read,
`left` holds the bits of the last one that are not written yet. -/
def a2bFrom (quadPos left pads : Nat) (out : Bytes) : Str → Except String Bytes
  | [] =>
      if quadPos = 0 then .ok out
      else if quadPos = 1 then
        .error ("Invalid base64-encoded string: number of data characters (" ++
          toString (out.length / 3 * 4 + 1) ++ ") cannot be 1 more than a multiple of 4")
      else .error "Incorrect padding"
  | c :: rest =>
      if c = pad then
        if 2 ≤ quadPos then
          if 4 ≤ quadPos + (pads + 1) then .ok out
          else a2bFrom quadPos left (pads + 1) out rest
        else a2bFrom quadPos left pads out rest
      else
        match value? c with
        | none => a2bFrom quadPos left pads out rest
        | some v =>
            match quadPos with
            | 0 => a2bFrom 1 v 0 out rest
            | 1 => a2bFrom 2 (v % 16) 0 (out ++ [UInt8.ofNat (4 * left + v / 16)]) rest
            | 2 => a2bFrom 3 (v % 4) 0 (out ++ [UInt8.ofNat (16 * left + v / 4)]) rest
            | _ => a2bFrom 0 0 0 (out ++ [UInt8.ofNat (64 * left + v)]) rest

def urlsafeB64decode (s : Str) : Except String Bytes := a2bFrom 0 0 0 [] (s.map fromUrlsafe)

def urlsafeValue? (c : UInt16) : Option Nat := if isUrlsafe c then value? (fromUrlsafe c) else none

/-- The strict decoder of unpadded url-safe text. Bits left over from the last
character are dropped. -/
def decode : Str → Option Bytes
  | [] => some []
  | [_] => none
  | [a, b] => do
      let u ← urlsafeValue? a
      let v ← urlsafeValue? b
      return [UInt8.ofNat (4 * u + v / 16)]
  | [a, b, c] => do
      let u ← urlsafeValue? a
      let v ← urlsafeValue? b
      let w ← urlsafeValue? c
      return [UInt8.ofNat (4 * u + v / 16), UInt8.ofNat (16 * (v % 16) + w / 4)]
  | a :: b :: c :: d :: rest => do
      let u ← urlsafeValue? a
      let v ← urlsafeValue? b
      let w ← urlsafeValue? c
      let x ← urlsafeValue? d
      let tail ← decode rest
      return UInt8.ofNat (4 * u + v / 16) :: UInt8.ofNat (16 * (v % 16) + w / 4) ::
        UInt8.ofNat (64 * (w % 4) + x) :: tail

/-- The character of a six-bit value in the url-safe alphabet, where `-` and `_`
stand for 62 and 63. -/
def urlsafeChar (n : Nat) : UInt16 :=
  UInt16.ofNat (if n < 26 then 0x41 + n else if n < 52 then 0x47 + n else if n < 62 then n - 4
    else if n = 62 then 0x2D else 0x5F)

/-- `urlsafe_b64encode` with its padding stripped: four characters for three
bytes, and as few as are needed for the rest. -/
def encode : Bytes → Str
  | [] => []
  | [a] => [urlsafeChar (a.toNat / 4), urlsafeChar (a.toNat % 4 * 16)]
  | [a, b] =>
      [urlsafeChar (a.toNat / 4), urlsafeChar (a.toNat % 4 * 16 + b.toNat / 16),
        urlsafeChar (b.toNat % 16 * 4)]
  | a :: b :: c :: rest =>
      urlsafeChar (a.toNat / 4) :: urlsafeChar (a.toNat % 4 * 16 + b.toNat / 16) ::
        urlsafeChar (b.toNat % 16 * 4 + c.toNat / 64) :: urlsafeChar (c.toNat % 64) :: encode rest

theorem value?_fromUrlsafe {c : UInt16} (h : isUrlsafe c = true) :
    fromUrlsafe c ≠ pad ∧ (value? (fromUrlsafe c)).isSome = true := by
  have hPad : pad.toNat = 0x3D := rfl
  have ne_pad (d : UInt16) (hd : d.toNat ≠ 0x3D) : d ≠ pad := fun he => hd (he ▸ hPad)
  simp only [isUrlsafe, Bool.or_eq_true, Bool.and_eq_true, decide_eq_true_eq] at h
  unfold fromUrlsafe
  split_ifs with hDash hUnder
  · exact ⟨by decide, by decide⟩
  · exact ⟨by decide, by decide⟩
  · refine ⟨ne_pad c (by omega), ?_⟩
    unfold value?
    split_ifs <;> first | rfl | omega

/-- Characters of the alphabet advance the quad by their number, whatever
bytes they write; the first of them forgets earlier pads. -/
theorem a2bFrom_alphabet (cs : Str) (hs : ∀ c ∈ cs, isUrlsafe c = true) (quadPos left : Nat)
    (hQuad : quadPos < 4) (out : Bytes) :
    ∃ left' out', ∀ tail, a2bFrom quadPos left 0 out (cs.map fromUrlsafe ++ tail) =
      a2bFrom ((quadPos + cs.length) % 4) left' 0 out' tail := by
  induction cs generalizing quadPos left out with
  | nil => exact ⟨left, out, fun tail => by simp [Nat.mod_eq_of_lt hQuad]⟩
  | cons c rest ih =>
      obtain ⟨hPad, hValue⟩ := value?_fromUrlsafe (hs c List.mem_cons_self)
      obtain ⟨v, hv⟩ := Option.isSome_iff_exists.mp hValue
      have hRest := ih fun d hd => hs d (List.mem_cons_of_mem c hd)
      have next {q q' : Nat} (left' : Nat) (out' : Bytes) {tail : Str} (hq : q = q') :
          a2bFrom q left' 0 out' tail = a2bFrom q' left' 0 out' tail := by rw [hq]
      simp only [List.map_cons, List.cons_append, a2bFrom, if_neg hPad, hv, List.length_cons]
      rcases quadPos with _ | _ | _ | _ | quadPos
      · obtain ⟨left', out', h⟩ := hRest 1 v (by omega) out
        exact ⟨left', out', fun tail => (h tail).trans (next _ _ (by omega))⟩
      · obtain ⟨left', out', h⟩ := hRest 2 (v % 16) (by omega)
          (out ++ [UInt8.ofNat (4 * left + v / 16)])
        exact ⟨left', out', fun tail => (h tail).trans (next _ _ (by omega))⟩
      · obtain ⟨left', out', h⟩ := hRest 3 (v % 4) (by omega)
          (out ++ [UInt8.ofNat (16 * left + v / 4)])
        exact ⟨left', out', fun tail => (h tail).trans (next _ _ (by omega))⟩
      · obtain ⟨left', out', h⟩ := hRest 0 0 (by omega)
          (out ++ [UInt8.ofNat (64 * left + v)])
        exact ⟨left', out', fun tail => (h tail).trans (next _ _ (by omega))⟩
      · omega

theorem urlsafeValue?_of_isUrlsafe {c : UInt16} (h : isUrlsafe c = true) :
    fromUrlsafe c ≠ pad ∧ ∃ v, value? (fromUrlsafe c) = some v ∧ urlsafeValue? c = some v := by
  obtain ⟨hPad, hValue⟩ := value?_fromUrlsafe h
  obtain ⟨v, hv⟩ := Option.isSome_iff_exists.mp hValue
  exact ⟨hPad, v, hv, by rw [urlsafeValue?, if_pos h, hv]⟩

/-- From the start of a quad on, alphabet text and its pads are read by the
lenient decoder as by the strict one. -/
theorem a2bFrom_padded (cs : Str) (hs : ∀ c ∈ cs, isUrlsafe c = true) (hLen : cs.length % 4 ≠ 1)
    (out : Bytes) :
    ∃ bytes, decode cs = some bytes ∧
      a2bFrom 0 0 0 out (cs.map fromUrlsafe ++ List.replicate ((4 - cs.length % 4) % 4) pad) =
        .ok (out ++ bytes) := by
  induction cs using decode.induct generalizing out with
  | case1 => exact ⟨[], rfl, by simp [a2bFrom]⟩
  | case2 a => simp at hLen
  | case3 a b =>
      obtain ⟨ha, u, hu, hu'⟩ := urlsafeValue?_of_isUrlsafe (hs a (by simp))
      obtain ⟨hb, v, hv, hv'⟩ := urlsafeValue?_of_isUrlsafe (hs b (by simp))
      refine ⟨_, by simp only [decode, hu', hv', bind, Option.bind, pure]; rfl, ?_⟩
      simp [a2bFrom, ha, hb, hu, hv, List.replicate]
  | case4 a b c =>
      obtain ⟨ha, u, hu, hu'⟩ := urlsafeValue?_of_isUrlsafe (hs a (by simp))
      obtain ⟨hb, v, hv, hv'⟩ := urlsafeValue?_of_isUrlsafe (hs b (by simp))
      obtain ⟨hc, w, hw, hw'⟩ := urlsafeValue?_of_isUrlsafe (hs c (by simp))
      refine ⟨_, by simp only [decode, hu', hv', hw', bind, Option.bind, pure]; rfl, ?_⟩
      simp [a2bFrom, ha, hb, hc, hu, hv, hw]
  | case5 a b c d rest ih =>
      obtain ⟨ha, u, hu, hu'⟩ := urlsafeValue?_of_isUrlsafe (hs a (by simp))
      obtain ⟨hb, v, hv, hv'⟩ := urlsafeValue?_of_isUrlsafe (hs b (by simp))
      obtain ⟨hc, w, hw, hw'⟩ := urlsafeValue?_of_isUrlsafe (hs c (by simp))
      obtain ⟨hd, x, hx, hx'⟩ := urlsafeValue?_of_isUrlsafe (hs d (by simp))
      have hQuads : (a :: b :: c :: d :: rest).length % 4 = rest.length % 4 := by
        simp only [List.length_cons]
        omega
      rw [hQuads] at hLen ⊢
      obtain ⟨tail, hTail, hRest⟩ := ih (fun e he => hs e (by simp [he])) hLen
        (out ++ [UInt8.ofNat (4 * u + v / 16)] ++ [UInt8.ofNat (16 * (v % 16) + w / 4)] ++
          [UInt8.ofNat (64 * (w % 4) + x)])
      refine ⟨_, by simp only [decode, hu', hv', hw', hx', hTail, bind, Option.bind, pure]; rfl, ?_⟩
      simp only [List.map_cons, List.cons_append, a2bFrom, ha, hb, hc, hd, hu, hv, hw, hx, if_false]
      rw [hRest]
      simp

/-- Pads up to a multiple of four complete every alphabet string that is not
one character too long. -/
theorem urlsafeB64decode_padded (cs : Str) (hs : ∀ c ∈ cs, isUrlsafe c = true)
    (hLen : cs.length % 4 ≠ 1) :
    ∃ bytes, decode cs = some bytes ∧
      urlsafeB64decode (cs ++ List.replicate ((4 - cs.length % 4) % 4) pad) = .ok bytes := by
  obtain ⟨bytes, hDecode, h⟩ := a2bFrom_padded cs hs hLen []
  have hPad : (List.replicate ((4 - cs.length % 4) % 4) pad).map fromUrlsafe =
      List.replicate ((4 - cs.length % 4) % 4) pad := by
    rw [List.map_replicate]
    rfl
  refine ⟨bytes, hDecode, ?_⟩
  rw [urlsafeB64decode, List.map_append, hPad, h, List.nil_append]

/-- No byte has a single character: a text that decodes has a length other than
one more than a multiple of four. -/
theorem length_of_decode {s : Str} {bytes : Bytes} (h : decode s = some bytes) :
    s.length % 4 ≠ 1 := by
  induction s using decode.induct generalizing bytes with
  | case1 | case3 | case4 => simp
  | case2 a => cases h
  | case5 a b c d rest ih =>
      simp only [decode, Option.bind_eq_bind, Option.bind_eq_some_iff] at h
      obtain ⟨-, -, -, -, -, -, -, -, tail, hTail, -⟩ := h
      have hRest := ih hTail
      simp only [List.length_cons]
      omega

/-- A newline behind the alphabet counts towards the padding but carries no
bits, so that no number of pads completes the last quad. -/
theorem urlsafeB64decode_newline (cs : Str) (hs : ∀ c ∈ cs, isUrlsafe c = true)
    (hLen : cs.length % 4 ≠ 0) :
    ∃ text, urlsafeB64decode (cs ++ 0x0A :: List.replicate ((4 - (cs.length + 1) % 4) % 4) pad) =
      .error text := by
  obtain ⟨left, out, h⟩ := a2bFrom_alphabet cs hs 0 0 (by omega) []
  have hTail : (0x0A :: List.replicate ((4 - (cs.length + 1) % 4) % 4) pad).map fromUrlsafe =
      0x0A :: List.replicate ((4 - (cs.length + 1) % 4) % 4) pad := by
    rw [List.map_cons, List.map_replicate]
    rfl
  rw [urlsafeB64decode, List.map_append, hTail, h, Nat.zero_add]
  rcases (by omega : cs.length % 4 = 1 ∨ cs.length % 4 = 2 ∨ cs.length % 4 = 3) with hm | hm | hm
  · rw [hm, show (4 - (cs.length + 1) % 4) % 4 = 2 by omega]
    exact ⟨_, rfl⟩
  · rw [hm, show (4 - (cs.length + 1) % 4) % 4 = 1 by omega]
    exact ⟨_, rfl⟩
  · rw [hm, show (4 - (cs.length + 1) % 4) % 4 = 0 by omega]
    exact ⟨_, rfl⟩

section Encode

/-- The alphabet is read as it is written. -/
theorem urlsafeValue?_urlsafeChar {n : Nat} (h : n < 64) :
    urlsafeValue? (urlsafeChar n) = some n := by
  have hAll : ∀ k : Fin 64, urlsafeValue? (urlsafeChar k) = some k.val := by decide
  exact hAll ⟨n, h⟩

theorem isUrlsafe_urlsafeChar {n : Nat} (h : n < 64) : isUrlsafe (urlsafeChar n) = true := by
  have hValue := urlsafeValue?_urlsafeChar h
  rw [urlsafeValue?] at hValue
  split_ifs at hValue with hUrlsafe
  exact hUrlsafe

theorem length_encode (bytes : Bytes) : (encode bytes).length = (4 * bytes.length + 2) / 3 := by
  induction bytes using encode.induct with
  | case1 => rfl
  | case2 a => simp [encode]
  | case3 a b => simp [encode]
  | case4 a b c rest ih =>
      simp only [encode, List.length_cons, ih]
      omega

theorem isUrlsafe_of_mem_encode {bytes : Bytes} : ∀ c ∈ encode bytes, isUrlsafe c = true := by
  induction bytes using encode.induct with
  | case1 => simp [encode]
  | case2 a =>
      have ha := a.toNat_lt
      simp only [encode, List.forall_mem_cons]
      exact ⟨isUrlsafe_urlsafeChar (by omega), isUrlsafe_urlsafeChar (by omega), by simp⟩
  | case3 a b =>
      have ha := a.toNat_lt
      have hb := b.toNat_lt
      simp only [encode, List.forall_mem_cons]
      exact ⟨isUrlsafe_urlsafeChar (by omega), isUrlsafe_urlsafeChar (by omega),
        isUrlsafe_urlsafeChar (by omega), by simp⟩
  | case4 a b c rest ih =>
      have ha := a.toNat_lt
      have hb := b.toNat_lt
      have hc := c.toNat_lt
      simp only [encode, List.forall_mem_cons]
      exact ⟨isUrlsafe_urlsafeChar (by omega), isUrlsafe_urlsafeChar (by omega),
        isUrlsafe_urlsafeChar (by omega), isUrlsafe_urlsafeChar (by omega), ih⟩

theorem ofNat_eq_of_mod {a : UInt8} {n : Nat} (h : n % 256 = a.toNat) : UInt8.ofNat n = a := by
  rw [← UInt8.toNat_inj, UInt8.toNat_ofNat']
  exact h

/-- What is encoded is decoded again, without the padding that was stripped. -/
@[simp] theorem decode_encode (bytes : Bytes) : decode (encode bytes) = some bytes := by
  induction bytes using encode.induct with
  | case1 => rfl
  | case2 a =>
      have ha := a.toNat_lt
      have hFirst : UInt8.ofNat (4 * (a.toNat / 4) + a.toNat % 4 * 16 / 16) = a :=
        ofNat_eq_of_mod (by omega)
      simp only [encode, decode, Option.bind_eq_bind, Option.bind_some, Option.pure_def,
        urlsafeValue?_urlsafeChar (show a.toNat / 4 < 64 by omega),
        urlsafeValue?_urlsafeChar (show a.toNat % 4 * 16 < 64 by omega), hFirst]
  | case3 a b =>
      have ha := a.toNat_lt
      have hb := b.toNat_lt
      have hFirst : UInt8.ofNat (4 * (a.toNat / 4) + (a.toNat % 4 * 16 + b.toNat / 16) / 16) = a :=
        ofNat_eq_of_mod (by omega)
      have hSecond : UInt8.ofNat (16 * ((a.toNat % 4 * 16 + b.toNat / 16) % 16) +
          b.toNat % 16 * 4 / 4) = b := ofNat_eq_of_mod (by omega)
      simp only [encode, decode, Option.bind_eq_bind, Option.bind_some, Option.pure_def,
        urlsafeValue?_urlsafeChar (show a.toNat / 4 < 64 by omega),
        urlsafeValue?_urlsafeChar (show a.toNat % 4 * 16 + b.toNat / 16 < 64 by omega),
        urlsafeValue?_urlsafeChar (show b.toNat % 16 * 4 < 64 by omega), hFirst, hSecond]
  | case4 a b c rest ih =>
      have ha := a.toNat_lt
      have hb := b.toNat_lt
      have hc := c.toNat_lt
      have hFirst : UInt8.ofNat (4 * (a.toNat / 4) + (a.toNat % 4 * 16 + b.toNat / 16) / 16) = a :=
        ofNat_eq_of_mod (by omega)
      have hSecond : UInt8.ofNat (16 * ((a.toNat % 4 * 16 + b.toNat / 16) % 16) +
          (b.toNat % 16 * 4 + c.toNat / 64) / 4) = b := ofNat_eq_of_mod (by omega)
      have hThird : UInt8.ofNat (64 * ((b.toNat % 16 * 4 + c.toNat / 64) % 4) +
          c.toNat % 64) = c := ofNat_eq_of_mod (by omega)
      simp only [encode, decode, Option.bind_eq_bind, Option.bind_some, Option.pure_def,
        urlsafeValue?_urlsafeChar (show a.toNat / 4 < 64 by omega),
        urlsafeValue?_urlsafeChar (show a.toNat % 4 * 16 + b.toNat / 16 < 64 by omega),
        urlsafeValue?_urlsafeChar (show b.toNat % 16 * 4 + c.toNat / 64 < 64 by omega),
        urlsafeValue?_urlsafeChar (show c.toNat % 64 < 64 by omega), ih, hFirst, hSecond, hThird]

theorem encode_inj {first second : Bytes} (h : encode first = encode second) : first = second := by
  have hDecoded := congrArg decode h
  rwa [decode_encode, decode_encode, Option.some.injEq] at hDecoded

end Encode
end ArioProof.Base64
