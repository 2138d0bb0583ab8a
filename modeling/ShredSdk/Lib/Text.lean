/-
# Searching and trimming encoded text

Text as its UTF-8 bytes: the first place of a pattern, the text without the
white space around it, and the Base64 decoding of RFC 4648. A decoder that
works four characters at a time reads the same first bytes from a prefix as
from the whole text (`base64Decode_prefix`).

Key definitions: `findSub`, `trim`, `base64Decode`.
Key theorems: `base64Decode_prefix`.
-/
import ShredSdk.Lib.Bytes

namespace ShredSdk

/-- The UTF-8 bytes of a string. -/
def utf8 (s : String) : Bytes := s.toUTF8.data.toList

/-! ### Searching -/

/-- The first place where `pat` starts. -/
def findSub (pat : Bytes) : Bytes → Option ℕ
  | [] => if pat = [] then some 0 else none
  | b :: s => if pat.isPrefixOf (b :: s) then some 0 else (findSub pat s).map (· + 1)

/-! ### Trimming -/

/-- The encodings of the characters with the property `White_Space`. -/
def whiteSpaces : List Bytes :=
  [[9], [10], [11], [12], [13], [32], [0xc2, 0x85], [0xc2, 0xa0], [0xe1, 0x9a, 0x80],
   [0xe2, 0x80, 0x80], [0xe2, 0x80, 0x81], [0xe2, 0x80, 0x82], [0xe2, 0x80, 0x83],
   [0xe2, 0x80, 0x84], [0xe2, 0x80, 0x85], [0xe2, 0x80, 0x86], [0xe2, 0x80, 0x87],
   [0xe2, 0x80, 0x88], [0xe2, 0x80, 0x89], [0xe2, 0x80, 0x8a], [0xe2, 0x80, 0xa8],
   [0xe2, 0x80, 0xa9], [0xe2, 0x80, 0xaf], [0xe2, 0x81, 0x9f], [0xe3, 0x80, 0x80]]

/-- Drops at most `n` encodings of `spaces` from the front. -/
def dropSpaces (spaces : List Bytes) : ℕ → Bytes → Bytes
  | 0, s => s
  | n + 1, s =>
    match spaces.find? (·.isPrefixOf s) with
    | some w => dropSpaces spaces n (s.drop w.length)
    | none => s

def trimStart (s : Bytes) : Bytes := dropSpaces whiteSpaces s.length s

def trimEnd (s : Bytes) : Bytes :=
  (dropSpaces (whiteSpaces.map List.reverse) s.length s.reverse).reverse

def trim (s : Bytes) : Bytes := trimEnd (trimStart s)

/-! ### Base64 -/

/-- The six bits a character of the standard alphabet stands for. -/
def base64Value (c : UInt8) : Option ℕ :=
  if 65 ≤ c.toNat ∧ c.toNat ≤ 90 then some (c.toNat - 65)
  else if 97 ≤ c.toNat ∧ c.toNat ≤ 122 then some (c.toNat - 71)
  else if 48 ≤ c.toNat ∧ c.toNat ≤ 57 then some (c.toNat + 4)
  else if c.toNat = 43 then some 62
  else if c.toNat = 47 then some 63
  else none

/-- Four characters to three bytes. -/
def base64Quantum (a b c d : UInt8) : Option Bytes := do
  let a ← base64Value a
  let b ← base64Value b
  let c ← base64Value c
  let d ← base64Value d
  return [UInt8.ofNat (4 * a + b / 16), UInt8.ofNat (16 * (b % 16) + c / 4),
    UInt8.ofNat (64 * (c % 4) + d)]

/-- The last four characters, the last one or two of which may be padding. The
bits that padding leaves over are zero. -/
def base64Last (a b c d : UInt8) : Option Bytes :=
  if d = 61 then
    if c = 61 then do
      let a ← base64Value a
      let b ← base64Value b
      if b % 16 = 0 then some [UInt8.ofNat (4 * a + b / 16)] else none
    else do
      let a ← base64Value a
      let b ← base64Value b
      let c ← base64Value c
      if c % 4 = 0 then
        some [UInt8.ofNat (4 * a + b / 16), UInt8.ofNat (16 * (b % 16) + c / 4)]
      else none
  else base64Quantum a b c d

def base64Decode : Bytes → Option Bytes
  | [] => some []
  | a :: b :: c :: d :: s =>
    if s.isEmpty then base64Last a b c d
    else do
      let q ← base64Quantum a b c d
      let r ← base64Decode s
      return q ++ r
  | _ => none

theorem base64Quantum_length {a b c d : UInt8} {q : Bytes} (h : base64Quantum a b c d = some q) :
    q.length = 3 := by
  unfold base64Quantum at h
  obtain ⟨_, -, h⟩ := Option.bind_eq_some_iff.mp h
  obtain ⟨_, -, h⟩ := Option.bind_eq_some_iff.mp h
  obtain ⟨_, -, h⟩ := Option.bind_eq_some_iff.mp h
  obtain ⟨_, -, h⟩ := Option.bind_eq_some_iff.mp h
  cases h
  rfl

/-- Four characters with no padding decode the same wherever they stand. -/
theorem base64Last_of_quantum {a b c d : UInt8} {q : Bytes} (h : base64Quantum a b c d = some q) :
    base64Last a b c d = some q := by
  have hd : d ≠ 61 := by
    rintro rfl
    have hpad : base64Value 61 = none := rfl
    simp [base64Quantum, hpad] at h
  rw [base64Last, if_neg hd, h]

theorem base64Decode_cons {a b c d : UInt8} {s : Bytes} (hs : s ≠ []) :
    base64Decode (a :: b :: c :: d :: s) =
      (base64Quantum a b c d).bind fun q => (base64Decode s).map (q ++ ·) := by
  have : s.isEmpty = false := by simpa using hs
  rw [base64Decode, this]
  cases base64Quantum a b c d with
  | none => rfl
  | some q => cases base64Decode s <;> simp

/-- The first characters decode to the first bytes of what the whole text
decodes to. -/
theorem base64Decode_prefix {s head whole : Bytes} (hlen : 12 ≤ s.length)
    (hhead : base64Decode (s.take 12) = some head) (hwhole : base64Decode s = some whole)
    (h8 : 8 ≤ head.length) : whole.take 8 = head.take 8 := by
  match s, hlen with
  | a :: b :: c :: d :: e :: f :: g :: h :: i :: j :: k :: l :: t, _ =>
    by_cases ht : t = []
    · subst ht
      rw [List.take_of_length_le (by simp)] at hhead
      rw [hhead] at hwhole
      cases hwhole
      rfl
    · rw [base64Decode_cons (by simp), base64Decode_cons (by simp), base64Decode_cons ht] at hwhole
      obtain ⟨q, hq, hwhole⟩ := Option.bind_eq_some_iff.mp hwhole
      obtain ⟨r, hr, rfl⟩ := Option.map_eq_some_iff.mp hwhole
      obtain ⟨q', hq', hr⟩ := Option.bind_eq_some_iff.mp hr
      obtain ⟨r', hr', rfl⟩ := Option.map_eq_some_iff.mp hr
      obtain ⟨q'', hq'', hr'⟩ := Option.bind_eq_some_iff.mp hr'
      obtain ⟨r'', -, rfl⟩ := Option.map_eq_some_iff.mp hr'
      have hlast : base64Decode [i, j, k, l] = some q'' := by
        simpa [base64Decode] using base64Last_of_quantum hq''
      have : base64Decode [a, b, c, d, e, f, g, h, i, j, k, l] = some (q ++ (q' ++ q'')) := by
        rw [base64Decode_cons (by simp), hq, base64Decode_cons (by simp), hq', hlast]
        rfl
      rw [List.take_succ_cons] at hhead
      simp only [List.take_succ_cons, List.take_zero] at hhead
      rw [this] at hhead
      cases hhead
      have h1 := base64Quantum_length hq
      have h2 := base64Quantum_length hq'
      have h3 := base64Quantum_length hq''
      rw [show q ++ (q' ++ (q'' ++ r'')) = (q ++ (q' ++ q'')) ++ r'' by simp, List.take_append_of_le_length]
      simp
      omega

end ShredSdk
