/-
# Writing Base64

The encoding of RFC 4648 that `base64Decode` reads. Three bytes are four
characters, so a text can be cut behind whole quanta, and nothing in it is white
space.

Key definitions: `base64Char`, `base64Encode`.
Key theorems: `base64Decode_encode`, `base64Decode_head`, `base64Encode_take`, `length_base64Encode`,
`trim_base64Encode`.
-/
import ShredSdk.Lib.Text

namespace ShredSdk

/-- The character of the standard alphabet that stands for six bits. -/
def base64Char (n : ℕ) : UInt8 :=
  UInt8.ofNat (if n < 26 then n + 65 else if n < 52 then n + 71 else if n < 62 then n - 4 else if n = 62 then 43 else 47)

def base64Encode : Bytes → Bytes
  | [] => []
  | [a] => [base64Char (a.toNat / 4), base64Char (16 * (a.toNat % 4)), 61, 61]
  | [a, b] =>
    [base64Char (a.toNat / 4), base64Char (16 * (a.toNat % 4) + b.toNat / 16), base64Char (4 * (b.toNat % 16)), 61]
  | a :: b :: c :: s =>
    base64Char (a.toNat / 4) :: base64Char (16 * (a.toNat % 4) + b.toNat / 16) ::
      base64Char (4 * (b.toNat % 16) + c.toNat / 64) :: base64Char (c.toNat % 64) :: base64Encode s

/-! ### Characters -/

theorem base64Value_char : ∀ n < 64, base64Value (base64Char n) = some n := by decide

/-- A character that is no padding. -/
theorem base64Char_ne_pad : ∀ n < 64, base64Char n ≠ 61 := by decide

/-- Characters are printable. -/
theorem base64Char_printable : ∀ n < 64, 33 ≤ (base64Char n).toNat ∧ (base64Char n).toNat < 127 := by decide

/-! ### Reading what is written -/

theorem ofNat_toNat_eq (a : UInt8) {n : ℕ} (h : n % 256 = a.toNat) : UInt8.ofNat n = a := by
  apply UInt8.toNat_inj.mp
  rw [UInt8.toNat_ofNat']
  exact h

theorem base64Quantum_encode (a b c : UInt8) :
    base64Quantum (base64Char (a.toNat / 4)) (base64Char (16 * (a.toNat % 4) + b.toNat / 16))
      (base64Char (4 * (b.toNat % 16) + c.toNat / 64)) (base64Char (c.toNat % 64)) = some [a, b, c] := by
  have ha := a.toNat_lt
  have hb := b.toNat_lt
  have hc := c.toNat_lt
  unfold base64Quantum
  rw [base64Value_char _ (by omega), base64Value_char _ (by omega), base64Value_char _ (by omega),
    base64Value_char _ (by omega)]
  simp only [Option.bind_eq_bind, Option.bind_some, Option.pure_def, Option.some.injEq, List.cons.injEq, and_true]
  exact ⟨ofNat_toNat_eq a (by omega), ofNat_toNat_eq b (by omega), ofNat_toNat_eq c (by omega)⟩

/-- **What is written is read.** -/
theorem base64Decode_encode : ∀ s : Bytes, base64Decode (base64Encode s) = some s
  | [] => rfl
  | [a] => by
    have ha := a.toNat_lt
    show base64Last _ _ 61 61 = _
    unfold base64Last
    rw [if_pos rfl, if_pos rfl, base64Value_char _ (by omega), base64Value_char _ (by omega)]
    simp only [Option.bind_eq_bind, Option.bind_some]
    rw [if_pos (by omega), ofNat_toNat_eq a (by omega)]
  | [a, b] => by
    have ha := a.toNat_lt
    have hb := b.toNat_lt
    show base64Last _ _ _ 61 = _
    unfold base64Last
    rw [if_pos rfl, if_neg (base64Char_ne_pad _ (by omega)), base64Value_char _ (by omega),
      base64Value_char _ (by omega), base64Value_char _ (by omega)]
    simp only [Option.bind_eq_bind, Option.bind_some]
    rw [if_pos (by omega), ofNat_toNat_eq a (by omega), ofNat_toNat_eq b (by omega)]
  | a :: b :: c :: s => by
    have hread := base64Decode_encode s
    unfold base64Encode
    by_cases hs : base64Encode s = []
    · rw [hs] at hread ⊢
      cases hread
      show base64Last _ _ _ _ = _
      exact base64Last_of_quantum (base64Quantum_encode a b c)
    · rw [base64Decode_cons hs, base64Quantum_encode, hread]
      rfl

/-! ### The head of a text -/

theorem base64Last_length {a b c d : UInt8} {q : Bytes} (h : base64Last a b c d = some q) : q.length ≤ 3 := by
  unfold base64Last at h
  split_ifs at h with hd hc
  · obtain ⟨_, -, h⟩ := Option.bind_eq_some_iff.mp h
    obtain ⟨_, -, h⟩ := Option.bind_eq_some_iff.mp h
    split at h <;> cases h
    simp
  · obtain ⟨_, -, h⟩ := Option.bind_eq_some_iff.mp h
    obtain ⟨_, -, h⟩ := Option.bind_eq_some_iff.mp h
    obtain ⟨_, -, h⟩ := Option.bind_eq_some_iff.mp h
    split at h <;> cases h
    simp
  · exact (base64Quantum_length h).le

/-- Whole quanta, and no more than three bytes to each. -/
theorem base64Decode_length : ∀ {s whole : Bytes}, base64Decode s = some whole →
    4 ∣ s.length ∧ 4 * whole.length ≤ 3 * s.length
  | [], whole, h => by
    cases h
    decide
  | a :: b :: c :: d :: s, whole, h => by
    by_cases hs : s = []
    · subst hs
      have hlast : base64Last a b c d = some whole := h
      have := base64Last_length hlast
      simp only [List.length_cons, List.length_nil]
      omega
    · rw [base64Decode_cons hs] at h
      obtain ⟨q, hq, h⟩ := Option.bind_eq_some_iff.mp h
      obtain ⟨r, hr, rfl⟩ := Option.map_eq_some_iff.mp h
      obtain ⟨hdvd, hle⟩ := base64Decode_length hr
      have := base64Quantum_length hq
      simp only [List.length_cons, List.length_append]
      omega
  | [_], _, h => by cases h
  | [_, _], _, h => by cases h
  | [_, _, _], _, h => by cases h

/-- **Twelve characters** are enough for the first eight bytes. -/
theorem base64Decode_head {s whole : Bytes} (h : base64Decode s = some whole) (h8 : 8 ≤ whole.length) :
    ∃ head, 12 ≤ s.length ∧ base64Decode (s.take 12) = some head ∧ 8 ≤ head.length := by
  obtain ⟨hdvd, hle⟩ := base64Decode_length h
  have h12 : 12 ≤ s.length := by omega
  match s, h12 with
  | a :: b :: c :: d :: e :: f :: g :: h' :: i :: j :: k :: l :: t, h12 =>
    by_cases ht : t = []
    · subst ht
      exact ⟨whole, h12, h, h8⟩
    · rw [base64Decode_cons (by simp), base64Decode_cons (by simp), base64Decode_cons ht] at h
      obtain ⟨q, hq, h⟩ := Option.bind_eq_some_iff.mp h
      obtain ⟨r, hr, rfl⟩ := Option.map_eq_some_iff.mp h
      obtain ⟨q', hq', hr⟩ := Option.bind_eq_some_iff.mp hr
      obtain ⟨r', hr', rfl⟩ := Option.map_eq_some_iff.mp hr
      obtain ⟨q'', hq'', -⟩ := Option.bind_eq_some_iff.mp hr'
      have hlast : base64Decode [i, j, k, l] = some q'' := base64Last_of_quantum hq''
      refine ⟨q ++ (q' ++ q''), h12, ?_, ?_⟩
      · simp only [List.take_succ_cons, List.take_zero]
        rw [base64Decode_cons (by simp), hq, base64Decode_cons (by simp), hq', hlast]
        rfl
      · have h1 := base64Quantum_length hq
        have h2 := base64Quantum_length hq'
        have h3 := base64Quantum_length hq''
        simp only [List.length_append]
        omega

/-! ### The text -/

theorem length_base64Encode : ∀ s : Bytes, (base64Encode s).length = 4 * ((s.length + 2) / 3)
  | [] => rfl
  | [_] => by simp [base64Encode]
  | [_, _] => by simp [base64Encode]
  | a :: b :: c :: s => by
    have ih := length_base64Encode s
    simp only [base64Encode, List.length_cons, ih]
    omega

/-- A text cut behind whole quanta. -/
theorem base64Encode_take : ∀ (n : ℕ) (s : Bytes), 3 * n ≤ s.length →
    (base64Encode s).take (4 * n) = base64Encode (s.take (3 * n))
  | 0, _, _ => rfl
  | n + 1, a :: b :: c :: s, h => by
    have hlen : 3 * n ≤ s.length := by
      simp only [List.length_cons] at h
      omega
    have ih := base64Encode_take n s hlen
    simp only [Nat.mul_add, Nat.mul_one, base64Encode, List.take_succ_cons, ih]
  | n + 1, [], h => by simp at h
  | n + 1, [_], h => by simp at h; omega
  | n + 1, [_, _], h => by simp at h; omega

theorem base64Encode_printable : ∀ (s : Bytes), ∀ c ∈ base64Encode s, 33 ≤ c.toNat ∧ c.toNat < 127
  | [], _, h => by cases h
  | [a], c, h => by
    have ha := a.toNat_lt
    simp only [base64Encode, List.mem_cons, List.not_mem_nil, or_false] at h
    rcases h with rfl | rfl | rfl | rfl
    · exact base64Char_printable _ (by omega)
    · exact base64Char_printable _ (by omega)
    · decide
    · decide
  | [a, b], c, h => by
    have ha := a.toNat_lt
    have hb := b.toNat_lt
    simp only [base64Encode, List.mem_cons, List.not_mem_nil, or_false] at h
    rcases h with rfl | rfl | rfl | rfl
    · exact base64Char_printable _ (by omega)
    · exact base64Char_printable _ (by omega)
    · exact base64Char_printable _ (by omega)
    · decide
  | a :: b :: d :: s, c, h => by
    have ha := a.toNat_lt
    have hb := b.toNat_lt
    have hd := d.toNat_lt
    simp only [base64Encode, List.mem_cons] at h
    rcases h with rfl | rfl | rfl | rfl | h
    · exact base64Char_printable _ (by omega)
    · exact base64Char_printable _ (by omega)
    · exact base64Char_printable _ (by omega)
    · exact base64Char_printable _ (by omega)
    · exact base64Encode_printable s c h

/-! ### Text without white space -/

set_option maxRecDepth 4000 in
/-- No encoding of white space starts or ends in a printable character. -/
theorem whiteSpaces_not_printable : ∀ w ∈ whiteSpaces ++ whiteSpaces.map List.reverse,
    w ≠ [] ∧ ∀ c ∈ w.head?, ¬ (33 ≤ c.toNat ∧ c.toNat < 127) := by
  decide

theorem dropSpaces_printable {spaces : List Bytes} (hspaces : spaces ⊆ whiteSpaces ++ whiteSpaces.map List.reverse)
    {s : Bytes} (h : ∀ c ∈ s, 33 ≤ c.toNat ∧ c.toNat < 127) : ∀ n, dropSpaces spaces n s = s
  | 0 => rfl
  | n + 1 => by
    have hnone : spaces.find? (·.isPrefixOf s) = none := by
      refine List.find?_eq_none.mpr fun w hw hbegin => ?_
      obtain ⟨hne, hhead⟩ := whiteSpaces_not_printable w (hspaces hw)
      obtain ⟨rest, rfl⟩ := List.isPrefixOf_iff_prefix.mp hbegin
      obtain ⟨c, w', rfl⟩ := List.exists_cons_of_ne_nil hne
      exact hhead c rfl (h c (by simp))
    unfold dropSpaces
    rw [hnone]

theorem trim_printable {s : Bytes} (h : ∀ c ∈ s, 33 ≤ c.toNat ∧ c.toNat < 127) : trim s = s := by
  have hstart : trimStart s = s := dropSpaces_printable (List.subset_append_left _ _) h _
  have hend : trimEnd s = s := by
    unfold trimEnd
    rw [dropSpaces_printable (List.subset_append_right _ _) (fun c hc => h c (List.mem_reverse.mp hc)),
      List.reverse_reverse]
  unfold trim
  rw [hstart, hend]

theorem trim_base64Encode (s : Bytes) : trim (base64Encode s) = base64Encode s :=
  trim_printable (base64Encode_printable s)

/-- A text that starts with the pattern. -/
theorem findSub_append {pat : Bytes} (h : pat ≠ []) (s : Bytes) : findSub pat (pat ++ s) = some 0 := by
  obtain ⟨b, pat, rfl⟩ := List.exists_cons_of_ne_nil h
  unfold findSub
  exact if_pos (List.isPrefixOf_iff_prefix.mpr (List.prefix_append _ _))

end ShredSdk
