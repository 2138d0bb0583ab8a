/-
# Records of fixed-width fields

Fields written one behind the other, each by bytes of its own width. A field
that has an offset is found there, whatever stands behind the record; and what
is read within the first `n` bytes is read from any `n` bytes or more of it.

Numbers are little-endian; a negative one is written as its two's complement.

Key definitions: `beBytes`, `twosComplement`, `encodeFields`, `fieldsWidth`,
`fieldOffset`.
Key theorems: `leNat_leBytes`, `leBytes_leNat`, `beNat_beBytes`, `fieldOffset_bound`,
`read_field`.
-/
import ShredSdk.Lib.Bytes

namespace ShredSdk

/-! ### Numbers -/

@[simp] theorem length_leBytes : ∀ n x, (leBytes n x).length = n
  | 0, _ => rfl
  | n + 1, x => by simp [leBytes, length_leBytes n]

/-- A number that fits is read back. -/
theorem leNat_leBytes : ∀ {n x : ℕ}, x < 256 ^ n → leNat (leBytes n x) = x
  | 0, x, h => by
    have : x = 0 := by simpa using h
    simp [leBytes, leNat, this]
  | n + 1, x, h => by
    have hdiv : x / 256 < 256 ^ n := by
      apply Nat.div_lt_of_lt_mul
      rw [pow_succ] at h
      omega
    have ih := leNat_leBytes hdiv
    have hbyte : (UInt8.ofNat (x % 256)).toNat = x % 256 := by
      simp [UInt8.toNat_ofNat']
    simp only [leBytes, leNat, ih, hbyte]
    omega

theorem leNat_lt : ∀ bs : Bytes, leNat bs < 256 ^ bs.length
  | [] => by simp [leNat]
  | b :: bs => by
    have ih := leNat_lt bs
    have hb : b.toNat < 256 := b.toNat_lt
    rw [leNat, List.length_cons, pow_succ]
    omega

/-- The bytes of the number they spell. -/
theorem leBytes_leNat : ∀ bs : Bytes, leBytes bs.length (leNat bs) = bs
  | [] => rfl
  | b :: bs => by
    have hb : b.toNat < 256 := b.toNat_lt
    rw [leNat, List.length_cons, leBytes, Nat.add_mul_mod_self_left, Nat.mod_eq_of_lt hb,
      Nat.add_mul_div_left _ _ (by decide), Nat.div_eq_of_lt hb, Nat.zero_add, leBytes_leNat bs, UInt8.ofNat_toNat]

theorem leNat_eq_zero : ∀ {bs : Bytes}, leNat bs = 0 ↔ ∀ b ∈ bs, b = 0
  | [] => by simp [leNat]
  | b :: bs => by
    have hb : b.toNat = 0 ↔ b = 0 := by
      constructor
      · exact fun h => UInt8.toNat.inj h
      · rintro rfl
        rfl
    have ih : leNat bs = 0 ↔ ∀ b ∈ bs, b = 0 := leNat_eq_zero
    simp only [leNat, List.forall_mem_cons, ← ih, ← hb]
    omega

/-- The number big-endian bytes spell. -/
def beNat (bs : Bytes) : ℕ := bs.foldl (fun n b => 256 * n + b.toNat) 0

def beBytes (n x : ℕ) : Bytes := (leBytes n x).reverse

@[simp] theorem length_beBytes (n x : ℕ) : (beBytes n x).length = n := by simp [beBytes]

theorem beNat_reverse : ∀ bs : Bytes, beNat bs.reverse = leNat bs
  | [] => rfl
  | b :: bs => by
    have ih := beNat_reverse bs
    unfold beNat at ih ⊢
    rw [List.reverse_cons, List.foldl_append, ih]
    simp only [List.foldl_cons, List.foldl_nil, leNat]
    omega

theorem beNat_beBytes {n x : ℕ} (h : x < 256 ^ n) : beNat (beBytes n x) = x := by
  rw [beBytes, beNat_reverse, leNat_leBytes h]

/-- A signed number of `bits` bits, as the unsigned one of the same bytes. -/
def twosComplement (bits : ℕ) (x : ℤ) : ℕ := (x % 2 ^ bits).toNat

/-- The signed number of `bits` bits an unsigned one stands for. -/
def signed (bits n : ℕ) : ℤ := if n < 2 ^ (bits - 1) then n else n - 2 ^ bits

theorem signed_twosComplement {bits : ℕ} {x : ℤ} (hbits : 0 < bits) (hlow : -2 ^ (bits - 1) ≤ x)
    (hhigh : x < 2 ^ (bits - 1)) : signed bits (twosComplement bits x) = x := by
  obtain ⟨m, rfl⟩ := Nat.exists_eq_succ_of_ne_zero hbits.ne'
  have hpow : (2 : ℤ) ^ (m + 1) = 2 * 2 ^ m := by ring
  have hcast : ((2 ^ m : ℕ) : ℤ) = 2 ^ m := by push_cast; rfl
  simp only [Nat.succ_eq_add_one, Nat.add_sub_cancel] at hlow hhigh ⊢
  unfold signed twosComplement
  simp only [Nat.add_sub_cancel]
  by_cases hx : 0 ≤ x
  · have hmod : x % 2 ^ (m + 1) = x := Int.emod_eq_of_lt hx (by omega)
    rw [hmod, if_pos (by omega)]
    omega
  · have hmod : x % 2 ^ (m + 1) = x + 2 ^ (m + 1) := by
      rw [← Int.add_emod_right, Int.emod_eq_of_lt (by omega) (by omega)]
    rw [hmod, if_neg (by omega)]
    omega

theorem twosComplement_lt (bits : ℕ) (x : ℤ) : twosComplement bits x < 2 ^ bits := by
  have hpos : (0 : ℤ) < 2 ^ bits := by positivity
  have hnonneg := Int.emod_nonneg x hpos.ne'
  have hlt := Int.emod_lt_of_pos x hpos
  have hcast : ((2 ^ bits : ℕ) : ℤ) = 2 ^ bits := by push_cast; rfl
  unfold twosComplement
  omega

/-- The other way round: every number of that many bits stands for one in range. -/
theorem twosComplement_signed {bits n : ℕ} (hbits : 0 < bits) (hn : n < 2 ^ bits) :
    twosComplement bits (signed bits n) = n ∧ -2 ^ (bits - 1) ≤ signed bits n ∧ signed bits n < 2 ^ (bits - 1) := by
  obtain ⟨m, rfl⟩ := Nat.exists_eq_succ_of_ne_zero hbits.ne'
  have hpow : (2 : ℤ) ^ (m + 1) = 2 * 2 ^ m := by ring
  have hcast : ((2 ^ m : ℕ) : ℤ) = 2 ^ m := by push_cast; rfl
  have hcast' : ((2 ^ (m + 1) : ℕ) : ℤ) = 2 ^ (m + 1) := by push_cast; rfl
  simp only [Nat.succ_eq_add_one, Nat.add_sub_cancel] at hn ⊢
  unfold signed twosComplement
  simp only [Nat.add_sub_cancel]
  by_cases hlow : n < 2 ^ m
  · rw [if_pos hlow, Int.emod_eq_of_lt (by omega) (by omega)]
    refine ⟨Int.toNat_natCast n, ?_, ?_⟩ <;> omega
  · have hmod : ((n : ℤ) - 2 ^ (m + 1)) % 2 ^ (m + 1) = n := by
      rw [Int.sub_emod_right, Int.emod_eq_of_lt (by omega) (by omega)]
    rw [if_neg hlow, hmod]
    refine ⟨Int.toNat_natCast n, ?_, ?_⟩ <;> omega

/-! ### Fields -/

section Fields

variable {F : Type} {width : F → ℕ} {bytes : F → Bytes}

/-- A record: its fields, one behind the other. -/
def encodeFields (bytes : F → Bytes) (layout : List F) : Bytes := layout.flatMap bytes

def fieldsWidth (width : F → ℕ) (layout : List F) : ℕ := (layout.map width).sum

/-- Where a field stands. -/
def fieldOffset [DecidableEq F] (width : F → ℕ) (f : F) : List F → Option ℕ
  | [] => none
  | g :: layout => if g = f then some 0 else (fieldOffset width f layout).map (width g + ·)

theorem length_encodeFields (hwidth : ∀ f, (bytes f).length = width f) (layout : List F) :
    (encodeFields bytes layout).length = fieldsWidth width layout := by
  simp [encodeFields, fieldsWidth, List.length_flatMap, hwidth]

variable [DecidableEq F]

theorem fieldOffset_mem {f : F} : ∀ {layout : List F} {o : ℕ}, fieldOffset width f layout = some o → f ∈ layout
  | [], _, h => by simp [fieldOffset] at h
  | g :: layout, o, h => by
    unfold fieldOffset at h
    by_cases hg : g = f
    · exact hg ▸ List.mem_cons_self ..
    · rw [if_neg hg] at h
      obtain ⟨o', ho', -⟩ := Option.map_eq_some_iff.mp h
      exact List.mem_cons_of_mem _ (fieldOffset_mem ho')

theorem fieldOffset_isSome {f : F} : ∀ {layout : List F}, f ∈ layout →
    ∃ o, fieldOffset width f layout = some o
  | g :: layout, h => by
    unfold fieldOffset
    by_cases hg : g = f
    · exact ⟨0, if_pos hg⟩
    · obtain ⟨o, ho⟩ := fieldOffset_isSome ((List.mem_cons.mp h).resolve_left fun heq => hg heq.symm)
      exact ⟨width g + o, by rw [if_neg hg, ho]; rfl⟩

theorem not_mem_of_fieldOffset {f : F} {layout : List F} (h : fieldOffset width f layout = none) : f ∉ layout := by
  intro hmem
  obtain ⟨o, ho⟩ : ∃ o, fieldOffset width f layout = some o := fieldOffset_isSome hmem
  rw [ho] at h
  cases h

/-- A field ends within the record. -/
theorem fieldOffset_bound {f : F} : ∀ {layout : List F} {o : ℕ}, fieldOffset width f layout = some o →
    o + width f ≤ fieldsWidth width layout
  | [], _, h => by simp [fieldOffset] at h
  | g :: layout, o, h => by
    unfold fieldOffset at h
    have hsum : fieldsWidth width (g :: layout) = width g + fieldsWidth width layout := by
      simp [fieldsWidth]
    by_cases hg : g = f
    · rw [if_pos hg] at h
      obtain rfl := Option.some.inj h
      rw [hsum, hg]
      omega
    · rw [if_neg hg] at h
      obtain ⟨o', ho', rfl⟩ := Option.map_eq_some_iff.mp h
      have ih := fieldOffset_bound ho'
      omega

/-- **A field is found at its offset.** -/
theorem read_field (hwidth : ∀ f, (bytes f).length = width f) {f : F} : ∀ {layout : List F} {o : ℕ}
    (rest : Bytes), fieldOffset width f layout = some o →
      ((encodeFields bytes layout ++ rest).drop o).take (width f) = bytes f
  | [], _, _, h => by simp [fieldOffset] at h
  | g :: layout, o, rest, h => by
    have hcons : encodeFields bytes (g :: layout) ++ rest = bytes g ++ (encodeFields bytes layout ++ rest) := by
      simp [encodeFields]
    unfold fieldOffset at h
    rw [hcons]
    by_cases hg : g = f
    · rw [if_pos hg] at h
      obtain rfl := Option.some.inj h
      rw [List.drop_zero, hg, List.take_append_of_le_length (hwidth f).ge,
        List.take_of_length_le (hwidth f).le]
    · rw [if_neg hg] at h
      obtain ⟨o', ho', rfl⟩ := Option.map_eq_some_iff.mp h
      rw [← hwidth g, List.drop_append, List.drop_of_length_le (by omega), List.nil_append,
        Nat.add_sub_cancel_left]
      exact read_field hwidth rest ho'

end Fields

/-! ### Cut short -/

/-- What is read within the first `n` bytes does not depend on the rest. -/
theorem take_drop_take {bs : Bytes} {o w n : ℕ} (h : o + w ≤ n) :
    ((bs.take n).drop o).take w = (bs.drop o).take w := by
  rw [List.drop_take, List.take_take]
  congr 1
  omega

end ShredSdk
