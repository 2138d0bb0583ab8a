/-
# Lines of text

What the recognisers of a line are made of: a front or an end that is cut off, the
first place of a pattern, decimal numbers, and when a piece of encoded text is
encoded text itself. A pattern that is found is found at its first place only
(`findSub_eq_some`), and a run of digits is the decimal form of one number exactly if
it does not begin with a zero it could do without (`decimal_digitsValue`).

Key definitions: `stripPrefix`, `stripSuffix`, `splitOnce`, `isDigit`, `digitsValue`, `decimal`, `PlainDigits`,
`ValidUtf8`.
Key theorems: `stripPrefix_eq_some`, `stripSuffix_eq_some`, `findSub_eq_some`, `decimal_digitsValue`,
`digitsValue_decimal`, `validUtf8_front`.
-/
import Mathlib.Data.List.Infix
import ShredSdk.Lib.Text

namespace ShredSdk

/-! ### Fronts and ends -/

/-- `str::strip_prefix` -/
def stripPrefix (front s : Bytes) : Option Bytes := if front.isPrefixOf s then some (s.drop front.length) else none

/-- `str::strip_suffix` -/
def stripSuffix (back s : Bytes) : Option Bytes :=
  if back.isSuffixOf s then some (s.take (s.length - back.length)) else none

/-- `str::split_once` -/
def splitOnce (pat s : Bytes) : Option (Bytes × Bytes) :=
  (findSub pat s).map fun i => (s.take i, s.drop (i + pat.length))

theorem stripPrefix_eq_some {front s t : Bytes} : stripPrefix front s = some t ↔ s = front ++ t := by
  unfold stripPrefix
  split
  · rename_i h
    obtain ⟨u, rfl⟩ := List.isPrefixOf_iff_prefix.mp h
    rw [List.drop_left, Option.some_inj, List.append_cancel_left_eq]
  · rename_i h
    refine iff_of_false (by simp) ?_
    rintro rfl
    exact h (List.isPrefixOf_iff_prefix.mpr (List.prefix_append front t))

theorem stripSuffix_eq_some {back s t : Bytes} : stripSuffix back s = some t ↔ s = t ++ back := by
  unfold stripSuffix
  split
  · rename_i h
    obtain ⟨u, rfl⟩ := List.isSuffixOf_iff_suffix.mp h
    rw [List.length_append, Nat.add_sub_cancel, List.take_left, Option.some_inj, List.append_cancel_right_eq]
  · rename_i h
    refine iff_of_false (by simp) ?_
    rintro rfl
    exact h (List.isSuffixOf_iff_suffix.mpr (List.suffix_append t back))

/-! ### Places -/

/-- A pattern is found at the first place it stands. -/
theorem findSub_eq_some {pat : Bytes} : ∀ {s : Bytes} {i : ℕ},
    findSub pat s = some i ↔ i ≤ s.length ∧ pat <+: s.drop i ∧ ∀ j < i, ¬pat <+: s.drop j
  | [], i => by
    unfold findSub
    by_cases hpat : pat = []
    · simp only [hpat, if_true, Option.some_inj, List.drop_nil, List.length_nil, Nat.le_zero, List.nil_prefix, true_and,
        not_true]
      constructor
      · rintro rfl
        exact ⟨rfl, fun j hj => absurd hj (Nat.not_lt_zero j)⟩
      · exact fun h => h.1.symm
    · simp [hpat]
  | b :: s, i => by
    unfold findSub
    by_cases hpat : pat.isPrefixOf (b :: s) = true
    · have hpre : pat <+: b :: s := List.isPrefixOf_iff_prefix.mp hpat
      rw [if_pos hpat, Option.some_inj]
      constructor
      · rintro rfl
        exact ⟨Nat.zero_le _, hpre, fun j hj => absurd hj (Nat.not_lt_zero j)⟩
      · rintro ⟨-, -, hfirst⟩
        by_contra hne
        exact hfirst 0 (by omega) hpre
    · have hpre : ¬pat <+: b :: s := fun h => hpat (List.isPrefixOf_iff_prefix.mpr h)
      rw [if_neg hpat, Option.map_eq_some_iff]
      constructor
      · rintro ⟨k, hk, rfl⟩
        obtain ⟨hle, hhere, hfirst⟩ := findSub_eq_some.mp hk
        refine ⟨Nat.succ_le_succ hle, hhere, fun j hj => ?_⟩
        cases j with
        | zero => exact hpre
        | succ j => exact hfirst j (by omega)
      · rintro ⟨hle, hhere, hfirst⟩
        cases i with
        | zero => exact absurd hhere hpre
        | succ k =>
          exact ⟨k, findSub_eq_some.mpr ⟨Nat.le_of_succ_le_succ hle, hhere, fun j hj => hfirst (j + 1) (by omega)⟩, rfl⟩

theorem findSub_eq_none {pat s : Bytes} : findSub pat s = none ↔ ∀ i ≤ s.length, ¬pat <+: s.drop i := by
  constructor
  · intro h i hi hhere
    classical
    have hex : ∃ k, k ≤ s.length ∧ pat <+: s.drop k := ⟨i, hi, hhere⟩
    have hsome : findSub pat s = some (Nat.find hex) := by
      refine findSub_eq_some.mpr ⟨(Nat.find_spec hex).1, (Nat.find_spec hex).2, fun j hj hj' => ?_⟩
      exact Nat.find_min hex hj ⟨(Nat.le_of_lt hj).trans (Nat.find_spec hex).1, hj'⟩
    rw [h] at hsome
    cases hsome
  · intro h
    cases hfind : findSub pat s with
    | none => rfl
    | some i =>
      obtain ⟨hle, hhere, -⟩ := findSub_eq_some.mp hfind
      exact absurd hhere (h i hle)

/-! ### Decimal numbers -/

def isDigit (b : UInt8) : Bool := 48 ≤ b.toNat && b.toNat ≤ 57

/-- The number a run of digits spells. -/
def digitsValue (ds : Bytes) : ℕ := ds.foldl (fun n b => n * 10 + (b.toNat - 48)) 0

/-- The decimal form of a number. -/
def decimal (n : ℕ) : Bytes := (Nat.toDigits 10 n).map fun c => UInt8.ofNat c.toNat

/-- No zero in front but that of zero. -/
def PlainDigits (ds : Bytes) : Prop := ds ≠ [] ∧ (∀ b ∈ ds, isDigit b = true) ∧ (ds.head? = some 48 → ds = [48])

theorem digitsValue_snoc (ds : Bytes) (b : UInt8) : digitsValue (ds ++ [b]) = digitsValue ds * 10 + (b.toNat - 48) := by
  rw [digitsValue, List.foldl_append]
  rfl

theorem decimal_lt {n : ℕ} (h : n < 10) : decimal n = [UInt8.ofNat (48 + n)] := by
  rw [decimal, Nat.toDigits_of_lt_base h, List.map_singleton, Nat.toNat_digitChar_of_lt_ten h]

theorem decimal_step {n : ℕ} (h : 10 ≤ n) : decimal n = decimal (n / 10) ++ [UInt8.ofNat (48 + n % 10)] := by
  rw [decimal, Nat.toDigits_of_base_le (by decide) h, List.map_append, List.map_singleton,
    Nat.toNat_digitChar_of_lt_ten (Nat.mod_lt n (by decide))]
  rfl

theorem toNat_digit {d : ℕ} (h : d < 10) : (UInt8.ofNat (48 + d)).toNat = 48 + d := by
  rw [UInt8.toNat_ofNat']
  omega

theorem digitsValue_decimal (n : ℕ) : digitsValue (decimal n) = n := by
  induction n using Nat.strong_induction_on with
  | _ n ih =>
    by_cases h : n < 10
    · rw [decimal_lt h, ← List.nil_append [UInt8.ofNat (48 + n)], digitsValue_snoc, toNat_digit h]
      simp [digitsValue]
    · have hmod : n % 10 < 10 := Nat.mod_lt n (by decide)
      rw [decimal_step (by omega), digitsValue_snoc, ih (n / 10) (by omega), toNat_digit hmod]
      omega

theorem isDigit_digit {d : ℕ} (h : d < 10) : isDigit (UInt8.ofNat (48 + d)) = true := by
  unfold isDigit
  rw [toNat_digit h, Bool.and_eq_true, decide_eq_true_eq, decide_eq_true_eq]
  omega

theorem decimal_plain (n : ℕ) : PlainDigits (decimal n) := by
  induction n using Nat.strong_induction_on with
  | _ n ih =>
    by_cases h : n < 10
    · rw [decimal_lt h]
      refine ⟨by simp, fun b hb => ?_, fun h => by simpa using h⟩
      rw [List.mem_singleton.mp hb]
      exact isDigit_digit h
    · obtain ⟨hne, hdigits, hhead⟩ := ih (n / 10) (by omega)
      rw [decimal_step (by omega)]
      refine ⟨by simp, fun b hb => ?_, fun h48 => ?_⟩
      · rcases List.mem_append.mp hb with hb | hb
        · exact hdigits b hb
        · rw [List.mem_singleton.mp hb]
          exact isDigit_digit (Nat.mod_lt n (by decide))
      · rw [List.head?_append_of_ne_nil _ hne] at h48
        -- a number with a digit more is not zero in front
        have hzero : digitsValue (decimal (n / 10)) = 0 := by rw [hhead h48]; rfl
        rw [digitsValue_decimal] at hzero
        omega

theorem isDigit_toNat {b : UInt8} (h : isDigit b = true) : 48 ≤ b.toNat ∧ b.toNat ≤ 57 := by
  simpa [isDigit] using h

theorem digit_sub {b : UInt8} (h : isDigit b = true) : UInt8.ofNat (48 + (b.toNat - 48)) = b := by
  obtain ⟨hlo, -⟩ := isDigit_toNat h
  rw [show 48 + (b.toNat - 48) = b.toNat by omega, UInt8.ofNat_toNat]

/-- A run of digits without zeros in front is the decimal form of what it spells. -/
theorem decimal_digitsValue {ds : Bytes} (h : PlainDigits ds) : decimal (digitsValue ds) = ds := by
  induction ds using List.reverseRecOn with
  | nil => exact absurd rfl h.1
  | append_singleton ds b ih =>
    obtain ⟨-, hdigits, hhead⟩ := h
    have hb : isDigit b = true := hdigits b (by simp)
    obtain ⟨hlo, hhi⟩ := isDigit_toNat hb
    rw [digitsValue_snoc]
    by_cases hds : ds = []
    · subst hds
      rw [decimal_lt (by simp [digitsValue]; omega)]
      simpa [digitsValue] using digit_sub hb
    · have hhead' : ds.head? ≠ some 48 := by
        intro h48
        have hwhole := hhead (by rw [List.head?_append_of_ne_nil _ hds, h48])
        have hlen := congrArg List.length hwhole
        simp [hds] at hlen
      have hdec := ih ⟨hds, fun c hc => hdigits c (by simp [hc]), fun h48 => absurd h48 hhead'⟩
      have hpos : digitsValue ds ≠ 0 := by
        intro hzero
        rw [hzero] at hdec
        exact hhead' (by rw [← hdec]; rfl)
      rw [decimal_step (by omega), show (digitsValue ds * 10 + (b.toNat - 48)) / 10 = digitsValue ds by omega,
        show (digitsValue ds * 10 + (b.toNat - 48)) % 10 = b.toNat - 48 by omega, hdec, digit_sub hb]

/-! ### Pieces of encoded text -/

/-- The bytes are those of a text. -/
def ValidUtf8 (bs : Bytes) : Prop := ∃ t : String, utf8 t = bs

theorem utf8_toByteArray (t : String) : (⟨(utf8 t).toArray⟩ : ByteArray) = t.toByteArray := by
  simp [utf8]

theorem utf8_of_isValid {bs : ByteArray} (h : bs.IsValidUTF8) : utf8 ⟨bs, h⟩ = bs.data.toList := rfl

theorem utf8_inj {s t : String} (h : utf8 s = utf8 t) : s = t := by
  have hbytes : s.toByteArray = t.toByteArray := by rw [← utf8_toByteArray, ← utf8_toByteArray, h]
  exact String.toByteArray_inj.mp hbytes

/-- In front of a byte that begins a character, text ends. -/
theorem validUtf8_front {as bs : Bytes} {c : UInt8} (h : ValidUtf8 (as ++ c :: bs)) (hc : c.IsUTF8FirstByte) :
    ValidUtf8 as := by
  obtain ⟨t, ht⟩ := h
  have hsize : t.utf8ByteSize = as.length + (bs.length + 1) := by
    have hlen := congrArg List.length ht
    simpa [utf8, ← String.size_toByteArray] using hlen
  have hlt : (⟨as.length⟩ : String.Pos.Raw) < t.rawEndPos := by
    rw [String.Pos.Raw.lt_iff]
    show as.length < t.utf8ByteSize
    omega
  have hbyte : t.getUTF8Byte ⟨as.length⟩ hlt = c := by
    have hget : (utf8 t)[as.length]? = some c := by rw [ht]; simp
    obtain ⟨_, hget⟩ := List.getElem?_eq_some_iff.mp hget
    exact hget
  have hvalid := String.Pos.Raw.isValid_iff_isUTF8FirstByte.mpr (.inr ⟨hlt, hbyte.symm ▸ hc⟩)
  refine ⟨⟨_, hvalid.isValidUTF8_extract_zero⟩, ?_⟩
  have htake : (utf8 t).take as.length = as := by rw [ht, List.take_left]
  rw [utf8_of_isValid, ← htake]
  simp [utf8]

/-- Behind a text, text begins. -/
theorem validUtf8_behind {t : String} {bs : Bytes} (h : ValidUtf8 (utf8 t ++ bs)) : ValidUtf8 bs := by
  obtain ⟨s, hs⟩ := h
  have hsize : s.utf8ByteSize = (utf8 t).length + bs.length := by
    have hlen := congrArg List.length hs
    simpa [utf8, ← String.size_toByteArray] using hlen
  have hfront : s.toByteArray.extract 0 (utf8 t).length = t.toByteArray := by
    have htake : (utf8 s).take (utf8 t).length = utf8 t := by rw [hs, List.take_left]
    apply ByteArray.ext
    rw [← Array.toList_inj]
    refine Eq.trans ?_ htake
    simp [utf8]
  have hvalid : (⟨(utf8 t).length⟩ : String.Pos.Raw).IsValid s := by
    refine String.Pos.Raw.isValid_iff_isValidUTF8_extract_zero.mpr ⟨?_, hfront.symm ▸ t.isValidUTF8⟩
    show (utf8 t).length ≤ s.utf8ByteSize
    omega
  refine ⟨⟨_, hvalid.isValidUTF8_extract_utf8ByteSize⟩, ?_⟩
  have hdrop : (utf8 s).drop (utf8 t).length = bs := by rw [hs, List.drop_left]
  rw [utf8_of_isValid, ← hdrop]
  simp [utf8, hsize]

/-- `str::from_utf8` takes it. -/
def isValidUtf8 (bs : Bytes) : Bool := (String.fromUTF8? ⟨bs.toArray⟩).isSome

theorem isValidUtf8_iff {bs : Bytes} : isValidUtf8 bs = true ↔ ValidUtf8 bs := by
  unfold isValidUtf8 String.fromUTF8?
  split
  · rename_i h
    exact iff_of_true rfl ⟨⟨_, h⟩, rfl⟩
  · rename_i h
    refine iff_of_false (by simp) ?_
    rintro ⟨t, rfl⟩
    exact h ((utf8_toByteArray t).symm ▸ t.isValidUTF8)

/-! ### First words -/

/-- Two texts that are the same up to their first blanks and beyond. -/
theorem front_inj {bs xs ys : Bytes} {c : UInt8} : ∀ {as : Bytes}, c ∉ as → c ∉ bs →
    (as ++ c :: xs = bs ++ c :: ys ↔ as = bs ∧ xs = ys) := by
  intro as has hbs
  constructor
  · intro h
    induction as generalizing bs with
    | nil =>
      cases bs with
      | nil => exact ⟨rfl, (List.cons.inj h).2⟩
      | cons b bs =>
        obtain ⟨rfl, -⟩ := List.cons.inj h
        exact absurd (.head _) hbs
    | cons a as ih =>
      cases bs with
      | nil =>
        obtain ⟨rfl, -⟩ := List.cons.inj h
        exact absurd (.head _) has
      | cons b bs =>
        obtain ⟨rfl, htail⟩ := List.cons.inj h
        obtain ⟨rfl, hback⟩ := ih (fun hc => has (.tail _ hc)) (fun hc => hbs (.tail _ hc)) htail
        exact ⟨rfl, hback⟩
  · rintro ⟨rfl, rfl⟩
    rfl

end ShredSdk
