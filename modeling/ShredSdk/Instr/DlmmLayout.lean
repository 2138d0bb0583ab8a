/-
# What a DLMM swap is

A swap is one of six forms: eight bytes of discriminator, its arguments and, for the
three with hook accounts, a vector of slices that say how many accounts each hook
takes. This grammar is stated by what is written; the check of the layout reads it
back. It accepts exactly the data that begin with a swap whose accounts are all
there, and gives the number of them; the bin arrays are the accounts from there on.

Key definitions: `AccountsSlice`, `DlmmSwap`, `DlmmSwap.encode`, `DlmmSwap.accounts`.
Key theorems: `validateSlices_iff`, `validateSwapLayout_sound`,
`validateSwapLayout_complete`, `swap_layout_grammar`.
-/
import Mathlib.Data.List.TakeWhile
import ShredSdk.Instr.MeteoraDlmm

namespace ShredSdk
namespace Instr

open Routes (validateSwapLayout validateSlices dlmmKind dlmmArgsEnd)

/-! ### Slices -/

/-- What the accounts of a slice are for; those of a reward name its index. -/
inductive AccountsType where
  | zero | one | two | multiReward (index : UInt8) | four
deriving DecidableEq

def AccountsType.encode : AccountsType → Bytes
  | .zero => [0]
  | .one => [1]
  | .two => [2]
  | .multiReward index => [3, index]
  | .four => [4]

structure AccountsSlice where
  accountsType : AccountsType
  length : UInt8
deriving DecidableEq

def AccountsSlice.encode (slice : AccountsSlice) : Bytes := slice.accountsType.encode ++ [slice.length]

/-- How many accounts the slices take. -/
def sliceAccounts (slices : List AccountsSlice) : ℕ := (slices.map fun slice => slice.length.toNat).sum

/-! ### Swaps -/

inductive SwapForm where
  | swap | swap2 | swapExactOut | swapExactOut2 | swapWithPriceImpact | swapWithPriceImpact2
deriving DecidableEq

namespace SwapForm

def discriminator : SwapForm → Bytes
  | .swap => [248, 198, 158, 145, 225, 117, 135, 200]
  | .swap2 => [65, 75, 63, 76, 235, 91, 91, 136]
  | .swapExactOut => [250, 73, 101, 33, 38, 207, 75, 184]
  | .swapExactOut2 => [43, 215, 247, 132, 137, 60, 243, 81]
  | .swapWithPriceImpact => [56, 173, 230, 208, 173, 228, 156, 205]
  | .swapWithPriceImpact2 => [74, 98, 192, 214, 177, 51, 75, 51]

/-- The forms with slices. -/
def hasSlices : SwapForm → Bool
  | .swap2 | .swapExactOut2 | .swapWithPriceImpact2 => true
  | _ => false

def hasPriceImpact : SwapForm → Bool
  | .swapWithPriceImpact | .swapWithPriceImpact2 => true
  | _ => false

def fixedAccounts (form : SwapForm) : ℕ := if form.hasSlices then 16 else 15

end SwapForm

/-- Two amounts; or an amount, an active bin that may be left out, and the impact. -/
inductive IsSwapArgs : Bool → Bytes → Prop where
  | amounts {first second : Bytes} (hfirst : first.length = 8) (hsecond : second.length = 8) :
    IsSwapArgs false (first ++ second)
  | noActiveId {amount impact : Bytes} (hamount : amount.length = 8) (himpact : impact.length = 2) :
    IsSwapArgs true (amount ++ ([0] ++ impact))
  | activeId {amount activeId impact : Bytes} (hamount : amount.length = 8) (hid : activeId.length = 4)
    (himpact : impact.length = 2) : IsSwapArgs true (amount ++ ([1] ++ (activeId ++ impact)))

/-- A swap as it is written. -/
structure DlmmSwap where
  form : SwapForm
  args : Bytes
  isArgs : IsSwapArgs form.hasPriceImpact args
  slices : List AccountsSlice
  slices_lt : slices.length < 2 ^ 32
  noSlices : form.hasSlices = false → slices = []

namespace DlmmSwap

def encodeSlices (slices : List AccountsSlice) : Bytes :=
  leBytes 4 slices.length ++ slices.flatMap AccountsSlice.encode

def encode (s : DlmmSwap) : Bytes :=
  s.form.discriminator ++ (s.args ++ if s.form.hasSlices then encodeSlices s.slices else [])

/-- The fixed accounts and those of the slices. -/
def accounts (s : DlmmSwap) : ℕ := s.form.fixedAccounts + sliceAccounts s.slices

end DlmmSwap

/-! ### Reading slices -/

section Slices

variable {remaining used index : ℕ}

theorem sliceAccounts_cons {slice : AccountsSlice} {slices : List AccountsSlice} :
    sliceAccounts (slice :: slices) = slice.length.toNat + sliceAccounts slices := by
  rw [sliceAccounts, List.map_cons, List.sum_cons, sliceAccounts]

/-- What one step of the loop needs of the bytes is a slice in front of them. -/
theorem validateSlices_cons (slice : AccountsSlice) (count : ℕ) (bytes : Bytes) :
    validateSlices remaining (count + 1) used (slice.encode ++ bytes) =
      if remaining < used + slice.length.toNat then none
      else validateSlices remaining count (used + slice.length.toNat) bytes := by
  obtain ⟨accountsType, length⟩ := slice
  cases accountsType <;> rfl

/-- Bytes that begin with no slice are refused. -/
theorem validateSlices_none (count : ℕ) {bytes : Bytes} (h : ∀ slice : AccountsSlice, ¬ slice.encode <+: bytes) :
    validateSlices remaining (count + 1) used bytes = none := by
  match bytes with
  | [] => rfl
  | tag :: rest =>
    have hplain (accountsType : AccountsType) (htype : accountsType.encode = [tag]) : rest = [] := by
      cases rest with
      | nil => rfl
      | cons length rest => exact absurd ⟨rest, by rw [AccountsSlice.encode, htype]; rfl⟩ (h ⟨accountsType, length⟩)
    unfold validateSlices
    simp only [List.getElem?_cons_zero, Option.bind_eq_bind, Option.bind_some]
    by_cases hone : tag = 0 ∨ tag = 1 ∨ tag = 2 ∨ tag = 4
    · have hrest : rest = [] := by
        rcases hone with rfl | rfl | rfl | rfl
        · exact hplain .zero rfl
        · exact hplain .one rfl
        · exact hplain .two rfl
        · exact hplain .four rfl
      rw [if_pos hone, hrest]
      rfl
    · rw [if_neg hone]
      by_cases hthree : tag = 3
      · rw [if_pos hthree]
        subst hthree
        match rest with
        | [] => rfl
        | [_] => rfl
        | i :: length :: rest => exact absurd ⟨rest, rfl⟩ (h ⟨.multiReward i, length⟩)
      · rw [if_neg hthree]
        rfl

/-- No slice begins another. -/
theorem encode_append_inj {slice slice' : AccountsSlice} {a b : Bytes}
    (h : slice.encode ++ a = slice'.encode ++ b) : slice = slice' ∧ a = b := by
  obtain ⟨accountsType, length⟩ := slice
  obtain ⟨accountsType', length'⟩ := slice'
  cases accountsType <;> cases accountsType' <;>
    simp_all [AccountsSlice.encode, AccountsType.encode]

/-- **The loop reads slices.** -/
theorem validateSlices_iff : ∀ {count used : ℕ} {bytes : Bytes}, used ≤ remaining →
    (validateSlices remaining count used bytes = some index ↔
      ∃ slices : List AccountsSlice, slices.length = count ∧ slices.flatMap AccountsSlice.encode <+: bytes ∧
        used + sliceAccounts slices ≤ remaining ∧ index = used + sliceAccounts slices)
  | 0, used, bytes, hused => by
    constructor
    · intro h
      exact ⟨[], rfl, List.nil_prefix, hused, (Option.some.inj h).symm⟩
    · rintro ⟨slices, hlen, -, -, rfl⟩
      rw [List.length_eq_zero_iff.mp hlen]
      rfl
  | count + 1, used, bytes, hused => by
    by_cases hslice : ∃ slice : AccountsSlice, slice.encode <+: bytes
    · obtain ⟨slice, rest, rfl⟩ := hslice
      rw [validateSlices_cons]
      split
      case isTrue hlong =>
        refine iff_of_false (by simp) ?_
        rintro ⟨slices, hlen, ⟨more, hmore⟩, hle, -⟩
        obtain ⟨slice', slices, rfl⟩ := List.exists_cons_of_length_eq_add_one hlen
        rw [List.flatMap_cons, List.append_assoc] at hmore
        obtain ⟨rfl, -⟩ := encode_append_inj hmore
        rw [sliceAccounts_cons] at hle
        omega
      case isFalse hle =>
        rw [validateSlices_iff (by omega)]
        constructor
        · rintro ⟨slices, rfl, hhead, hsum, rfl⟩
          refine ⟨slice :: slices, rfl, ?_, ?_, ?_⟩
          · rw [List.flatMap_cons]
            exact (List.prefix_append_right_inj _).mpr hhead
          · rw [sliceAccounts_cons]
            omega
          · rw [sliceAccounts_cons]
            omega
        · rintro ⟨slices, hlen, ⟨more, hmore⟩, hsum, rfl⟩
          obtain ⟨slice', slices, rfl⟩ := List.exists_cons_of_length_eq_add_one hlen
          rw [List.flatMap_cons, List.append_assoc] at hmore
          obtain ⟨rfl, hrest⟩ := encode_append_inj hmore
          rw [sliceAccounts_cons] at hsum ⊢
          exact ⟨slices, by simpa using hlen, ⟨more, hrest⟩, by omega, by omega⟩
    · rw [validateSlices_none count fun slice h => hslice ⟨slice, h⟩]
      refine iff_of_false (by simp) ?_
      rintro ⟨slices, hlen, hhead, -, -⟩
      obtain ⟨slice, slices, rfl⟩ := List.exists_cons_of_length_eq_add_one hlen
      rw [List.flatMap_cons] at hhead
      exact hslice ⟨slice, (List.prefix_append _ _).trans hhead⟩

end Slices

/-! ### Reading arguments -/

section Args

variable {data args rest : Bytes} {priceImpact : Bool} {n : ℕ}

theorem dlmmKind_iff {disc : Bytes} {v2 : Bool} : dlmmKind disc = some (v2, priceImpact) ↔
    ∃ form : SwapForm, form.discriminator = disc ∧ form.hasSlices = v2 ∧ form.hasPriceImpact = priceImpact := by
  constructor
  · intro h
    unfold dlmmKind at h
    split at h
    case isTrue hdisc =>
      obtain ⟨rfl, rfl⟩ := Prod.mk.inj (Option.some.inj h)
      rcases hdisc with rfl | rfl
      · exact ⟨.swap, rfl, rfl, rfl⟩
      · exact ⟨.swapExactOut, rfl, rfl, rfl⟩
    case isFalse =>
      split at h
      case isTrue hdisc =>
        obtain ⟨rfl, rfl⟩ := Prod.mk.inj (Option.some.inj h)
        rcases hdisc with rfl | rfl
        · exact ⟨.swap2, rfl, rfl, rfl⟩
        · exact ⟨.swapExactOut2, rfl, rfl, rfl⟩
      case isFalse =>
        split at h
        case isTrue hdisc =>
          obtain ⟨rfl, rfl⟩ := Prod.mk.inj (Option.some.inj h)
          exact ⟨.swapWithPriceImpact, hdisc.symm, rfl, rfl⟩
        case isFalse =>
          split at h
          case isTrue hdisc =>
            obtain ⟨rfl, rfl⟩ := Prod.mk.inj (Option.some.inj h)
            exact ⟨.swapWithPriceImpact2, hdisc.symm, rfl, rfl⟩
          case isFalse => cases h
  · rintro ⟨form, rfl, rfl, rfl⟩
    cases form <;> rfl

theorem length_discriminator (form : SwapForm) : form.discriminator.length = 8 := by cases form <;> rfl

/-- With a price impact, the byte behind the amount says whether the active bin is given. -/
theorem dlmmArgsEnd_tag {head tail : Bytes} {tag : UInt8} (hhead : head.length = 16) :
    dlmmArgsEnd (head ++ tag :: tail) true = if tag = 0 then some 19 else if tag = 1 then some 23 else none := by
  have htag : (head ++ tag :: tail)[16]? = some tag := by
    rw [List.getElem?_append_right (by omega), hhead]
    rfl
  rw [dlmmArgsEnd, if_pos rfl, htag]

/-- Where the arguments end is found from them alone. -/
theorem dlmmArgsEnd_complete {disc : Bytes} (hdisc : disc.length = 8) (h : IsSwapArgs priceImpact args) :
    dlmmArgsEnd (disc ++ (args ++ rest)) priceImpact = some (8 + args.length) := by
  cases h with
  | amounts hfirst hsecond => rw [dlmmArgsEnd, if_neg Bool.false_ne_true, List.length_append, hfirst, hsecond]
  | @noActiveId amount impact hamount himpact =>
    have hdata : disc ++ (amount ++ ([0] ++ impact) ++ rest) = (disc ++ amount) ++ 0 :: (impact ++ rest) := by simp
    rw [hdata, dlmmArgsEnd_tag (by rw [List.length_append, hdisc, hamount]), if_pos rfl]
    simp only [List.length_append, hamount, himpact, List.length_singleton]
  | @activeId amount activeId impact hamount hid himpact =>
    have hdata : disc ++ (amount ++ ([1] ++ (activeId ++ impact)) ++ rest) =
        (disc ++ amount) ++ 1 :: (activeId ++ impact ++ rest) := by simp
    rw [hdata, dlmmArgsEnd_tag (by rw [List.length_append, hdisc, hamount]), if_neg (by decide), if_pos rfl]
    simp only [List.length_append, hamount, hid, himpact, List.length_singleton]

/-- A list is its first `n` elements and the others. -/
theorem cut {l : Bytes} (h : n ≤ l.length) : ∃ front back : Bytes, l = front ++ back ∧ front.length = n :=
  ⟨l.take n, l.drop n, (List.take_append_drop n l).symm, by rw [List.length_take]; omega⟩

theorem dlmmArgsEnd_sound {disc body : Bytes} (hdisc : disc.length = 8)
    (h : dlmmArgsEnd (disc ++ body) priceImpact = some n) (hlen : n ≤ (disc ++ body).length) :
    ∃ args rest, body = args ++ rest ∧ IsSwapArgs priceImpact args ∧ n = 8 + args.length := by
  rw [List.length_append, hdisc] at hlen
  cases priceImpact with
  | false =>
    rw [dlmmArgsEnd, if_neg Bool.false_ne_true] at h
    obtain rfl := Option.some.inj h
    obtain ⟨first, tail, rfl, hfirst⟩ := cut (show 8 ≤ body.length by omega)
    rw [List.length_append] at hlen
    obtain ⟨second, rest, rfl, hsecond⟩ := cut (show 8 ≤ tail.length by omega)
    refine ⟨first ++ second, rest, (List.append_assoc _ _ _).symm, .amounts hfirst hsecond, ?_⟩
    rw [List.length_append, hfirst, hsecond]
  | true =>
    have hlong : 8 < body.length := by
      by_contra hshort
      rw [dlmmArgsEnd, if_pos rfl, List.getElem?_eq_none (by rw [List.length_append]; omega)] at h
      cases h
    obtain ⟨amount, tail, rfl, hamount⟩ := cut (show 8 ≤ body.length by omega)
    rw [List.length_append] at hlen hlong
    obtain ⟨tag, tail, rfl⟩ := List.exists_cons_of_length_pos (show 0 < tail.length by omega)
    rw [← List.append_assoc, dlmmArgsEnd_tag (by rw [List.length_append, hdisc, hamount])] at h
    rw [List.length_cons] at hlen
    split at h
    case isTrue htag =>
      obtain rfl := Option.some.inj h
      obtain ⟨impact, rest, rfl, himpact⟩ := cut (show 2 ≤ tail.length by omega)
      refine ⟨amount ++ ([0] ++ impact), rest, by simp [htag], .noActiveId hamount himpact, ?_⟩
      simp only [List.length_append, hamount, himpact, List.length_singleton]
    case isFalse =>
      split at h
      case isTrue htag =>
        obtain rfl := Option.some.inj h
        obtain ⟨activeId, tail, rfl, hid⟩ := cut (show 4 ≤ tail.length by omega)
        rw [List.length_append] at hlen
        obtain ⟨impact, rest, rfl, himpact⟩ := cut (show 2 ≤ tail.length by omega)
        refine ⟨amount ++ ([1] ++ (activeId ++ impact)), rest, by simp [htag], .activeId hamount hid himpact, ?_⟩
        simp only [List.length_append, hamount, hid, himpact, List.length_singleton]
      case isFalse => cases h

end Args

/-! ### The layout -/

section Layout

variable {data args rest : Bytes} {form : SwapForm} {count remaining used index : ℕ}

/-- The vector of slices behind the arguments. -/
def vectorAccounts (remaining : ℕ) (rest : Bytes) : Option ℕ := do
  let n ← leNatAt 4 rest 0
  if (rest.drop 4).length / 2 < n then none else validateSlices remaining n 0 (rest.drop 4)

theorem two_mul_length_le (slices : List AccountsSlice) :
    2 * slices.length ≤ (slices.flatMap AccountsSlice.encode).length := by
  induction slices with
  | nil => exact Nat.le_refl _
  | cons slice slices ih =>
    have hslice : 2 ≤ slice.encode.length := by
      obtain ⟨accountsType, length⟩ := slice
      cases accountsType <;> exact Nat.le_of_ble_eq_true rfl
    rw [List.flatMap_cons, List.length_append, List.length_cons]
    omega

theorem vectorAccounts_iff : vectorAccounts remaining rest = some used ↔
    ∃ slices : List AccountsSlice, slices.length < 2 ^ 32 ∧ DlmmSwap.encodeSlices slices <+: rest ∧
      sliceAccounts slices ≤ remaining ∧ used = sliceAccounts slices := by
  unfold vectorAccounts
  simp only [Option.bind_eq_bind, Option.bind_eq_some_iff]
  constructor
  · rintro ⟨n, hn, h⟩
    split at h
    case isTrue => cases h
    case isFalse =>
      obtain ⟨slices, rfl, ⟨more, hmore⟩, hle, rfl⟩ := (validateSlices_iff (Nat.zero_le _)).mp h
      rw [Nat.zero_add] at hle ⊢
      obtain ⟨four, hfour, hcount⟩ := Option.map_eq_some_iff.mp hn
      have hlen : four.length = 4 := length_slice? hfour
      have hrest : rest = four ++ rest.drop 4 := by
        have htake := take_slice? hfour
        rw [List.take_zero, List.nil_append] at htake
        rw [← htake, List.take_append_drop]
      have hbytes := leBytes_leNat four
      have hbound := leNat_lt four
      rw [hlen, hcount] at hbytes hbound
      refine ⟨slices, hbound, ⟨more, ?_⟩, hle, rfl⟩
      rw [DlmmSwap.encodeSlices, hbytes, List.append_assoc, hmore, ← hrest]
  · rintro ⟨slices, hlt, ⟨more, rfl⟩, hle, rfl⟩
    have hdrop : (DlmmSwap.encodeSlices slices ++ more).drop 4 = slices.flatMap AccountsSlice.encode ++ more := by
      rw [DlmmSwap.encodeSlices, List.append_assoc]
      exact List.drop_left' (length_leBytes 4 _)
    have hcount : leNatAt 4 (DlmmSwap.encodeSlices slices ++ more) 0 = some slices.length := by
      have hbound : slices.length < 256 ^ 4 := hlt
      rw [leNatAt, slice?_of_le (by omega) (by simp [DlmmSwap.encodeSlices]), DlmmSwap.encodeSlices, List.append_assoc]
      simp [List.take_left', leNat_leBytes hbound]
    refine ⟨slices.length, hcount, ?_⟩
    rw [hdrop, if_neg]
    · exact (validateSlices_iff (Nat.zero_le _)).mpr ⟨slices, rfl, List.prefix_append _ _, by omega, by omega⟩
    · have htwo := two_mul_length_le slices
      rw [List.length_append]
      omega

/-- The check, with the form and the arguments in front. -/
theorem validateSwapLayout_eq (hargs : IsSwapArgs form.hasPriceImpact args) :
    validateSwapLayout (form.discriminator ++ (args ++ rest)) count =
      if count < form.fixedAccounts then none
      else if form.hasSlices then (vectorAccounts (count - form.fixedAccounts) rest).map (form.fixedAccounts + ·)
      else some form.fixedAccounts := by
  have hdisc := length_discriminator form
  have hslice : slice? (form.discriminator ++ (args ++ rest)) 0 8 = some form.discriminator := by
    rw [slice?_of_le (by omega) (by rw [List.length_append]; omega)]
    simp [List.take_left' hdisc]
  have hkind : dlmmKind form.discriminator = some (form.hasSlices, form.hasPriceImpact) := by cases form <;> rfl
  have hlong : ¬ (form.discriminator ++ (args ++ rest)).length < 8 + args.length := by
    rw [List.length_append, List.length_append]
    omega
  have hrest : (form.discriminator ++ (args ++ rest)).drop (8 + args.length) = rest := by
    rw [← List.append_assoc]
    exact List.drop_left' (by rw [List.length_append, hdisc])
  have hrest4 : (form.discriminator ++ (args ++ rest)).drop (8 + args.length + 4) = rest.drop 4 := by
    rw [← List.drop_drop, hrest]
  unfold validateSwapLayout vectorAccounts
  simp only [hslice, hkind, dlmmArgsEnd_complete hdisc hargs, Option.bind_eq_bind, Option.bind_some, if_neg hlong, hrest,
    hrest4]
  show (if count < form.fixedAccounts then none else _) = _
  split
  case isTrue => rfl
  case isFalse =>
    cases hslices : form.hasSlices with
    | false => simp [SwapForm.fixedAccounts, hslices]
    | true =>
      simp only [Bool.not_true, Bool.false_eq_true, if_false, if_true, Option.map_bind, SwapForm.fixedAccounts, hslices]
      congr 1
      funext n
      simp only [Function.comp_apply]
      split <;> rfl

/-- What is accepted begins with a form and its arguments. -/
theorem form_of_accepted (h : validateSwapLayout data count = some index) :
    ∃ (form : SwapForm) (args rest : Bytes), IsSwapArgs form.hasPriceImpact args ∧
      data = form.discriminator ++ (args ++ rest) := by
  unfold validateSwapLayout at h
  simp only [Option.bind_eq_bind, Option.bind_eq_some_iff] at h
  obtain ⟨disc, hdisc, ⟨v2, priceImpact⟩, hkind, h⟩ := h
  obtain ⟨form, rfl, rfl, rfl⟩ := dlmmKind_iff.mp hkind
  have hdata : data = form.discriminator ++ data.drop 8 := by
    have htake := take_slice? hdisc
    rw [List.take_zero, List.nil_append] at htake
    rw [← htake, List.take_append_drop]
  change (if count < form.fixedAccounts then none else _) = some index at h
  split at h
  case isTrue => cases h
  case isFalse =>
    obtain ⟨argsEnd, hend, h⟩ := Option.bind_eq_some_iff.mp h
    split at h
    case isTrue => cases h
    case isFalse hlen =>
      rw [hdata] at hend hlen
      obtain ⟨args, rest, hbody, hargs, -⟩ :=
        dlmmArgsEnd_sound (length_discriminator form) hend (Nat.not_lt.mp hlen)
      exact ⟨form, args, rest, hargs, by rw [← hbody]; exact hdata⟩

/-- **Accepted data begin with a swap**, all of whose accounts are there. -/
theorem validateSwapLayout_sound (h : validateSwapLayout data count = some index) :
    ∃ s : DlmmSwap, s.encode <+: data ∧ s.accounts ≤ count ∧ index = s.accounts := by
  obtain ⟨form, args, rest, hargs, rfl⟩ := form_of_accepted h
  rw [validateSwapLayout_eq hargs] at h
  split at h
  case isTrue => cases h
  case isFalse hcount =>
    cases hslices : form.hasSlices with
    | false =>
      rw [hslices, if_neg Bool.false_ne_true] at h
      refine ⟨⟨form, args, hargs, [], by decide, fun _ => rfl⟩, ?_, ?_, ?_⟩
      · simp [DlmmSwap.encode, hslices]
      · simp only [DlmmSwap.accounts, sliceAccounts, List.map_nil, List.sum_nil]
        omega
      · simpa [DlmmSwap.accounts, sliceAccounts] using (Option.some.inj h).symm
    | true =>
      rw [hslices, if_pos rfl] at h
      obtain ⟨used, hused, rfl⟩ := Option.map_eq_some_iff.mp h
      obtain ⟨slices, hlt, hhead, hle, rfl⟩ := vectorAccounts_iff.mp hused
      refine ⟨⟨form, args, hargs, slices, hlt, fun hno => by rw [hslices] at hno; cases hno⟩, ?_, ?_, rfl⟩
      · show form.discriminator ++ (args ++ if form.hasSlices then DlmmSwap.encodeSlices slices else []) <+: _
        rw [hslices, if_pos rfl, List.prefix_append_right_inj, List.prefix_append_right_inj]
        exact hhead
      · show form.fixedAccounts + sliceAccounts slices ≤ count
        omega

/-- **Data that begin with a swap are accepted**, and its accounts counted. -/
theorem validateSwapLayout_complete {s : DlmmSwap} (hhead : s.encode <+: data) (hcount : s.accounts ≤ count) :
    validateSwapLayout data count = some s.accounts := by
  obtain ⟨more, rfl⟩ := hhead
  have hfixed : ¬ count < s.form.fixedAccounts := by
    unfold DlmmSwap.accounts at hcount
    omega
  rw [DlmmSwap.encode, List.append_assoc, List.append_assoc, validateSwapLayout_eq s.isArgs, if_neg hfixed]
  cases hslices : s.form.hasSlices with
  | false =>
    rw [if_neg Bool.false_ne_true, DlmmSwap.accounts, s.noSlices hslices]
    rfl
  | true =>
    have hvector : vectorAccounts (count - s.form.fixedAccounts)
        ((if true = true then DlmmSwap.encodeSlices s.slices else []) ++ more) = some (sliceAccounts s.slices) := by
      rw [if_pos rfl]
      refine vectorAccounts_iff.mpr ⟨s.slices, s.slices_lt, List.prefix_append _ _, ?_, rfl⟩
      unfold DlmmSwap.accounts at hcount
      omega
    rw [if_pos rfl, hvector]
    rfl

end Layout

/-! ### Bin arrays -/

section Bins

variable {data args rest : Bytes} {accounts : List Pubkey} {metadata : EventMetadata} {form : SwapForm} {index : ℕ}

theorem takeKnown_eq : ∀ {left idx : ℕ}, idx + left = accounts.length →
    takeKnown (getOf accounts) left idx = (accounts.drop idx).takeWhile (· ≠ 0)
  | 0, idx, h => by rw [takeKnown, List.drop_of_length_le (by omega), List.takeWhile_nil]
  | left + 1, idx, h => by
    have hlt : idx < accounts.length := by omega
    have hget : getOf accounts idx = accounts[idx] := by rw [getOf, List.getElem?_eq_getElem hlt]; rfl
    rw [takeKnown, hget, List.drop_eq_getElem_cons hlt, List.takeWhile_cons]
    by_cases hzero : accounts[idx] = 0
    · simp [hzero]
    · rw [if_neg hzero, if_pos (decide_eq_true hzero), takeKnown_eq (by omega)]

/-- The bin arrays of an event without any: those up to the first unknown one. -/
theorem fillDlmm_binArrays {body : EventBody} (hbody : body.keys .binArrays = []) {isSwap2 : Bool}
    (hindex : index ≤ accounts.length) :
    (fillDlmmSwapAccountsWithLayout (getOf accounts) index accounts.length isSwap2 body).keys .binArrays =
      (accounts.drop index).takeWhile (· ≠ 0) := by
  have hbins : takeKnown (getOf accounts) (accounts.length - index) index = _ :=
    takeKnown_eq (show index + (accounts.length - index) = accounts.length by omega)
  simp only [fillDlmmSwapAccountsWithLayout, fillGet, hbody, ne_eq, not_true_eq_false, if_false]
  rw [hbins]
  split
  case isTrue h =>
    rcases h with hle | hzero
    · rw [List.drop_of_length_le hle, List.takeWhile_nil]
    · by_cases hlt : index < accounts.length
      · rw [getOf, List.getElem?_eq_getElem hlt, Option.getD_some] at hzero
        rw [List.drop_eq_getElem_cons hlt, List.takeWhile_cons]
        simp [hzero]
      · rw [List.drop_of_length_le (by omega), List.takeWhile_nil]
  case isFalse => simp

/-- The instruction of a form. -/
def SwapForm.instruction : SwapForm → DlmmInstruction
  | .swap => .swap
  | .swap2 => .swap2
  | .swapExactOut => .swapExactOut
  | .swapExactOut2 => .swapExactOut2
  | .swapWithPriceImpact => .swapWithPriceImpact
  | .swapWithPriceImpact2 => .swapWithPriceImpact2

theorem readU64Le_isSome {bytes : Bytes} {offset : ℕ} (h : offset + 8 ≤ bytes.length) :
    ∃ n, Logs.readU64Le bytes offset = some n := by
  rw [Logs.readU64Le, leNatAt, slice?_of_le (by omega) h]
  exact ⟨_, rfl⟩

theorem length_amounts (h : IsSwapArgs false args) : args.length = 16 := by
  cases h with
  | amounts hfirst hsecond => rw [List.length_append, hfirst, hsecond]

theorem priceOptionSize_append (h : IsSwapArgs true args) :
    ∃ size, MeteoraDlmm.priceOptionSize (args ++ rest) = some size ∧ args.length = 8 + size + 2 := by
  have htag {amount tail : Bytes} {tag : UInt8} (hamount : amount.length = 8) :
      ((amount ++ ([tag] ++ tail)) ++ rest)[8]? = some tag := by
    rw [List.append_assoc, List.getElem?_append_right (by omega), hamount]
    rfl
  cases h with
  | noActiveId hamount himpact =>
    refine ⟨1, by rw [MeteoraDlmm.priceOptionSize, htag hamount]; rfl, ?_⟩
    simp only [List.length_append, hamount, himpact, List.length_singleton]
  | activeId hamount hid himpact =>
    refine ⟨5, by rw [MeteoraDlmm.priceOptionSize, htag hamount]; rfl, ?_⟩
    simp only [List.length_append, hamount, hid, himpact, List.length_singleton]

/-- Whole arguments are decoded. -/
theorem parseOuter_swap (hargs : IsSwapArgs form.hasPriceImpact args) (haccounts : 0 < accounts.length) :
    ∃ nums, MeteoraDlmm.parseOuter (args ++ rest) accounts metadata form.instruction =
      some (MeteoraDlmm.swapEvent accounts metadata nums) := by
  have hpool : accounts[0]? = some accounts[0] := List.getElem?_eq_getElem haccounts
  have hlen : (args ++ rest).length = args.length + rest.length := List.length_append
  have hswap (h : IsSwapArgs false args) : ∃ nums, MeteoraDlmm.parseSwapInstruction (args ++ rest) accounts metadata =
      some (MeteoraDlmm.swapEvent accounts metadata nums) := by
    have hsixteen := length_amounts h
    obtain ⟨first, hfirst⟩ := readU64Le_isSome (show 0 + 8 ≤ (args ++ rest).length by omega)
    obtain ⟨second, hsecond⟩ := readU64Le_isSome (show 8 + 8 ≤ (args ++ rest).length by omega)
    refine ⟨[(.amountIn, first), (.minAmountOut, second)], ?_⟩
    rw [MeteoraDlmm.parseSwapInstruction, if_neg (by omega), hfirst, hsecond, hpool]
    rfl
  have hexactOut (h : IsSwapArgs false args) : ∃ nums,
      MeteoraDlmm.parseSwapExactOutInstruction (args ++ rest) accounts metadata =
        some (MeteoraDlmm.swapEvent accounts metadata nums) := by
    have hsixteen := length_amounts h
    obtain ⟨first, hfirst⟩ := readU64Le_isSome (show 0 + 8 ≤ (args ++ rest).length by omega)
    obtain ⟨second, hsecond⟩ := readU64Le_isSome (show 8 + 8 ≤ (args ++ rest).length by omega)
    refine ⟨[(.amountIn, first), (.amountOut, second)], ?_⟩
    rw [MeteoraDlmm.parseSwapExactOutInstruction, hfirst, hsecond, hpool]
    rfl
  have himpact (h : IsSwapArgs true args) : ∃ nums,
      MeteoraDlmm.parseSwapWithPriceImpactInstruction (args ++ rest) accounts metadata =
        some (MeteoraDlmm.swapEvent accounts metadata nums) := by
    obtain ⟨size, hsize, hargsLen⟩ : ∃ size, MeteoraDlmm.priceOptionSize (args ++ rest) = some size ∧ _ :=
      priceOptionSize_append h
    obtain ⟨first, hfirst⟩ := readU64Le_isSome (show 0 + 8 ≤ (args ++ rest).length by omega)
    refine ⟨[(.amountIn, first)], ?_⟩
    rw [MeteoraDlmm.parseSwapWithPriceImpactInstruction, hsize, hfirst, hpool]
    exact if_neg (by omega)
  cases form with
  | swap => exact hswap hargs
  | swap2 => exact hswap hargs
  | swapExactOut => exact hexactOut hargs
  | swapExactOut2 => exact hexactOut hargs
  | swapWithPriceImpact => exact himpact hargs
  | swapWithPriceImpact2 => exact himpact hargs

/-- An accepted swap is decoded, and its bin arrays are the accounts behind those
counted, up to the first unknown one. -/
theorem parse_accepted (h : validateSwapLayout data accounts.length = some index) :
    ∃ event, MeteoraDlmm.parseInstruction data accounts metadata = some event ∧ event.kind = .meteoraDlmmSwap ∧
      event.body.keys .binArrays = (accounts.drop index).takeWhile (· ≠ 0) := by
  obtain ⟨s, -, hcount, hindex⟩ := validateSwapLayout_sound h
  obtain ⟨form, args, rest, hargs, rfl⟩ := form_of_accepted h
  have hfixed : 0 < accounts.length := by
    have hpos : 0 < s.form.fixedAccounts := by
      unfold SwapForm.fixedAccounts
      split <;> decide
    unfold DlmmSwap.accounts at hcount
    omega
  have htake : (form.discriminator ++ (args ++ rest)).take 8 = form.discriminator :=
    List.take_left' (length_discriminator form)
  have hdrop : (form.discriminator ++ (args ++ rest)).drop 8 = args ++ rest :=
    List.drop_left' (length_discriminator form)
  have hlookup : MeteoraDlmm.discriminators.lookup form.discriminator = some form.instruction := by cases form <;> rfl
  have hswap : form.instruction.isSwap = true := by cases form <;> rfl
  obtain ⟨nums, hparse⟩ : ∃ nums, MeteoraDlmm.parseOuter (args ++ rest) accounts metadata form.instruction =
      some (MeteoraDlmm.swapEvent accounts metadata nums) := parseOuter_swap hargs hfixed
  have hlong : ¬ (form.discriminator ++ (args ++ rest)).length < 8 := by
    rw [List.length_append, length_discriminator]
    omega
  have hparsed : MeteoraDlmm.parseInstruction (form.discriminator ++ (args ++ rest)) accounts metadata =
      some { MeteoraDlmm.swapEvent accounts metadata nums with
        body := fillDlmmSwapAccountsWithLayout (getOf accounts) index accounts.length form.instruction.isSwap2
          (MeteoraDlmm.swapEvent accounts metadata nums).body } := by
    unfold MeteoraDlmm.parseInstruction
    rw [if_neg hlong, htake, hlookup]
    simp only [Option.bind_eq_bind, Option.bind_some, hswap, if_true, h, hdrop, hparse]
  exact ⟨_, hparsed, rfl, fillDlmm_binArrays rfl (by omega)⟩

end Bins

/-- **The grammar of DLMM swaps.** The check accepts exactly the data that begin with
a swap whose fixed and hook accounts are all there, and counts them. Of an accepted
swap with known accounts, the bin arrays are all accounts from there on, in order. -/
theorem swap_layout_grammar :
    (∀ (data : Bytes) (count index : ℕ), validateSwapLayout data count = some index ↔
        ∃ s : DlmmSwap, s.encode <+: data ∧ s.accounts ≤ count ∧ index = s.accounts) ∧
      ∀ (data : Bytes) (accounts : List Pubkey) (metadata : EventMetadata) (index : ℕ),
        validateSwapLayout data accounts.length = some index → (∀ key ∈ accounts, key ≠ 0) →
          ∃ event, MeteoraDlmm.parseInstruction data accounts metadata = some event ∧
            event.kind = .meteoraDlmmSwap ∧ event.body.keys .binArrays = accounts.drop index := by
  constructor
  · intro data count index
    constructor
    · exact validateSwapLayout_sound
    · rintro ⟨s, hhead, hcount, rfl⟩
      exact validateSwapLayout_complete hhead hcount
  · intro data accounts metadata index h hresolved
    obtain ⟨event, hparse, hkind, hbins⟩ : ∃ event, MeteoraDlmm.parseInstruction data accounts metadata = some event ∧ _ :=
      parse_accepted h
    refine ⟨event, hparse, hkind, ?_⟩
    rw [hbins, List.takeWhile_eq_self_iff]
    exact fun key hkey => decide_eq_true (hresolved key (List.mem_of_mem_drop hkey))

/-- A swap with two hook accounts and one bin array behind them. -/
theorem swap_layout_grammar_swap2 : ∃ event,
    MeteoraDlmm.parseInstruction (SwapForm.swap2.discriminator ++ List.replicate 16 1 ++ [1, 0, 0, 0] ++ [3, 9, 2])
        (List.replicate 19 7) (createMetadata [] 0 0 0 0) = some event ∧
      event.kind = .meteoraDlmmSwap ∧ event.body.keys .binArrays = (List.replicate 19 7).drop 18 :=
  swap_layout_grammar.2 _ (List.replicate 19 7) _ 18 rfl (by simp)

end Instr
end ShredSdk
