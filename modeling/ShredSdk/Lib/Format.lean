/-
# Formats

A reader takes bytes and an offset and gives a value and the offset behind it. A
format is a reader with what it reads: the values it is for and the bytes of each.
A value is read back wherever its bytes stand, and not from a proper prefix of them.
A format is canonical if its reader takes nothing but the bytes of a value.

Formats are composed: one behind the other, under a bijection, behind a tag that may
say that there is none, a number of entries behind their count, and the fields of a
record in the order of a layout.

Key definitions: `Reader`, `Format`, `Format.Canonical`, `Format.pair`, `Format.map`,
`Format.option`, `Format.counted`, `Format.record`.
Key theorems: `Format.read_of_write`, `Canonical.pair`, `Canonical.map`,
`Canonical.option`, `Canonical.counted`, `Canonical.record`.
-/
import ShredSdk.Lib.Codec

namespace ShredSdk

/-- A value and the offset behind it. -/
abbrev Reader (α : Type) := Bytes → ℕ → Option (α × ℕ)

structure Format (α : Type) where
  valid : α → Prop
  write : α → Bytes
  read : Reader α
  read_write : ∀ {x : α} {data rest : Bytes} {o : ℕ}, valid x → data.drop o = write x ++ rest →
    read data o = some (x, o + (write x).length)
  read_cut : ∀ {x : α} {data missing : Bytes} {o : ℕ}, valid x → write x = data.drop o ++ missing →
    missing ≠ [] → read data o = none

namespace Format

variable {α β : Type}

/-- The reader takes nothing but the bytes of a value. -/
def Canonical (φ : Format α) : Prop :=
  ∀ ⦃data : Bytes⦄ ⦃o o' : ℕ⦄ ⦃x : α⦄, φ.read data o = some (x, o') →
    φ.valid x ∧ o' = o + (φ.write x).length ∧ data.drop o = φ.write x ++ data.drop o'

/-- A value is read back from its bytes, whatever stands behind them. -/
theorem read_of_write (φ : Format α) {x : α} (hvalid : φ.valid x) (rest : Bytes) :
    φ.read (φ.write x ++ rest) 0 = some (x, (φ.write x).length) := by
  have hdata : (φ.write x ++ rest).drop 0 = φ.write x ++ rest := List.drop_zero
  have h := φ.read_write hvalid hdata
  rwa [Nat.zero_add] at h

/-- What a proper prefix of a value's bytes leaves out is missed. -/
theorem read_take (φ : Format α) {x : α} (hvalid : φ.valid x) {c : ℕ} (hc : c < (φ.write x).length) :
    φ.read ((φ.write x).take c) 0 = none := by
  apply φ.read_cut hvalid
  · rw [List.drop_zero, List.take_append_drop]
  · intro hnil
    have hlen := congrArg List.length hnil
    rw [List.length_drop, List.length_nil] at hlen
    omega

/-- Bytes that are a prefix of two strings, one behind the other, end in the first
or in the second. -/
theorem cut_cases {as bs front missing : Bytes} (h : as ++ bs = front ++ missing) :
    (∃ m, m ≠ [] ∧ as = front ++ m) ∨ ∃ l, front = as ++ l ∧ bs = l ++ missing := by
  rcases List.append_eq_append_iff.mp h with ⟨l, hfront, hbs⟩ | ⟨m, has, hmissing⟩
  · exact .inr ⟨l, hfront, hbs⟩
  · by_cases hm : m = []
    · subst hm
      rw [List.append_nil] at has
      exact .inr ⟨[], by rw [has, List.append_nil], by rw [hmissing, List.nil_append, List.nil_append]⟩
    · exact .inl ⟨m, hm, has⟩

/-- What stands behind the bytes of a value. -/
theorem drop_behind {data bytes rest : Bytes} {o : ℕ} (h : data.drop o = bytes ++ rest) :
    data.drop (o + bytes.length) = rest := by
  rw [← List.drop_drop, h, List.drop_left]

/-! ### One behind the other -/

def readPair (readFst : Reader α) (readSnd : Reader β) : Reader (α × β) := fun data o => do
  let (x, o) ← readFst data o
  let (y, o) ← readSnd data o
  some ((x, y), o)

def pair (φ : Format α) (ψ : Format β) : Format (α × β) where
  valid p := φ.valid p.1 ∧ ψ.valid p.2
  write p := φ.write p.1 ++ ψ.write p.2
  read := readPair φ.read ψ.read
  read_write := by
    intro p data rest o hvalid hdata
    rw [List.append_assoc] at hdata
    have hfst := φ.read_write hvalid.1 hdata
    have hsnd := ψ.read_write hvalid.2 (drop_behind hdata)
    simp only [readPair, hfst, hsnd, Option.bind_eq_bind, Option.bind_some, List.length_append, Nat.add_assoc]
  read_cut := by
    intro p data missing o hvalid hwrite hmissing
    rcases cut_cases hwrite with ⟨m, hm, hfst⟩ | ⟨l, hfront, hsnd⟩
    · simp only [readPair, φ.read_cut hvalid.1 hfst hm, Option.bind_eq_bind, Option.bind_none]
    · have hread := φ.read_write hvalid.1 hfront
      have hcut := ψ.read_cut (o := o + (φ.write p.1).length) hvalid.2
        (by rw [drop_behind hfront]; exact hsnd) hmissing
      simp only [readPair, hread, hcut, Option.bind_eq_bind, Option.bind_some, Option.bind_none]

theorem Canonical.pair {φ : Format α} {ψ : Format β} (hφ : φ.Canonical) (hψ : ψ.Canonical) :
    (φ.pair ψ).Canonical := by
  intro data o o' p h
  obtain ⟨⟨x, o₁⟩, hfst, h⟩ := Option.bind_eq_some_iff.mp h
  obtain ⟨⟨y, o₂⟩, hsnd, h⟩ := Option.bind_eq_some_iff.mp h
  obtain ⟨rfl, rfl⟩ := Prod.mk.inj (Option.some.inj h)
  obtain ⟨hx, rfl, hdata⟩ := hφ hfst
  obtain ⟨hy, rfl, hdata'⟩ := hψ hsnd
  refine ⟨⟨hx, hy⟩, ?_, ?_⟩
  · show _ = o + (φ.write x ++ ψ.write y).length
    rw [List.length_append, Nat.add_assoc]
  · show _ = φ.write x ++ ψ.write y ++ _
    rw [hdata, hdata', List.append_assoc]

/-! ### Under a bijection -/

def map (φ : Format α) (e : α ≃ β) : Format β where
  valid y := φ.valid (e.symm y)
  write y := φ.write (e.symm y)
  read data o := (φ.read data o).map fun p => (e p.1, p.2)
  read_write := by
    intro y data rest o hvalid hdata
    rw [φ.read_write hvalid hdata, Option.map_some, e.apply_symm_apply]
  read_cut := by
    intro y data missing o hvalid hwrite hmissing
    rw [φ.read_cut hvalid hwrite hmissing, Option.map_none]

theorem Canonical.map {φ : Format α} (hφ : φ.Canonical) (e : α ≃ β) : (φ.map e).Canonical := by
  intro data o o' y h
  obtain ⟨⟨x, o₁⟩, hread, h⟩ := Option.map_eq_some_iff.mp h
  obtain ⟨rfl, rfl⟩ := Prod.mk.inj h
  obtain ⟨hx, hlen, hdata⟩ := hφ hread
  have hsymm : e.symm (e x) = x := e.symm_apply_apply x
  exact ⟨by rwa [← hsymm] at hx, by rw [hlen]; exact congrArg (fun z => o + (φ.write z).length) hsymm.symm,
    by rw [hdata]; exact congrArg (fun z => φ.write z ++ data.drop o₁) hsymm.symm⟩

/-! ### A value that may be missing -/

def readOption (read : Reader α) : Reader (Option α) := fun data o => do
  let tag ← data[o]?
  match tag with
  | 0 => some (none, o + 1)
  | 1 => do
    let (x, o) ← read data (o + 1)
    some (some x, o)
  | _ => none

theorem getElem?_of_drop {data rest : Bytes} {b : UInt8} {o : ℕ} (h : data.drop o = b :: rest) : data[o]? = some b := by
  have hhead := congrArg List.head? h
  rwa [List.head?_drop, List.head?_cons] at hhead

theorem behind_tag {data rest : Bytes} {b : UInt8} {o : ℕ} (h : data.drop o = b :: rest) : data.drop (o + 1) = rest := by
  rw [← List.drop_drop, h, List.drop_one, List.tail_cons]

theorem getElem?_cut {data : Bytes} {o : ℕ} (h : data.drop o = []) : data[o]? = none :=
  List.getElem?_eq_none (List.drop_eq_nil_iff.mp h)

theorem drop_of_getElem? {data : Bytes} {b : UInt8} {o : ℕ} (h : data[o]? = some b) :
    data.drop o = b :: data.drop (o + 1) := by
  obtain ⟨hlt, rfl⟩ := List.getElem?_eq_some_iff.mp h
  exact List.drop_eq_getElem_cons hlt

/-- A tag, 0 or 1, and behind the 1 a value. -/
def option (φ : Format α) : Format (Option α) where
  valid x? := ∀ x, x? = some x → φ.valid x
  write
    | none => [0]
    | some x => 1 :: φ.write x
  read := readOption φ.read
  read_write := by
    intro x? data rest o hvalid hdata
    cases x? with
    | none => simp [readOption, getElem?_of_drop hdata]
    | some x =>
      have hread := φ.read_write (hvalid x rfl) (behind_tag hdata)
      simp [readOption, getElem?_of_drop hdata, hread, Nat.add_assoc, Nat.add_comm 1]
  read_cut := by
    intro x? data missing o hvalid hwrite hmissing
    by_cases hnil : data.drop o = []
    · simp [readOption, getElem?_cut hnil]
    obtain ⟨b, tail, hdata⟩ := List.exists_cons_of_ne_nil hnil
    rw [hdata] at hwrite
    cases x? with
    | none =>
      obtain ⟨-, htail⟩ := List.cons.inj hwrite
      exact absurd (List.append_eq_nil_iff.mp htail.symm).2 hmissing
    | some x =>
      obtain ⟨rfl, htail⟩ := List.cons.inj hwrite
      have hbehind : data.drop (o + 1) = tail := behind_tag hdata
      rw [← hbehind] at htail
      simp [readOption, getElem?_of_drop hdata, φ.read_cut (hvalid x rfl) htail hmissing]

theorem Canonical.option {φ : Format α} (hφ : φ.Canonical) : φ.option.Canonical := by
  intro data o o' x? h
  obtain ⟨tag, htag, h⟩ := Option.bind_eq_some_iff.mp h
  have hdata := drop_of_getElem? htag
  split at h
  · obtain ⟨rfl, rfl⟩ := Prod.mk.inj (Option.some.inj h)
    exact ⟨nofun, rfl, hdata⟩
  · obtain ⟨⟨x, o₁⟩, hread, h⟩ := Option.bind_eq_some_iff.mp h
    obtain ⟨rfl, rfl⟩ := Prod.mk.inj (Option.some.inj h)
    obtain ⟨hx, rfl, hrest⟩ := hφ hread
    refine ⟨by rintro y ⟨rfl⟩; exact hx, ?_, ?_⟩
    · show _ = o + (1 :: φ.write x).length
      rw [List.length_cons]
      omega
    · show _ = 1 :: φ.write x ++ _
      rw [hdata, hrest, List.cons_append]
  · cases h

/-! ### Numbers -/

theorem leNatAt_of_drop {data bs rest : Bytes} {o w : ℕ} (hlen : bs.length = w) (hw : 0 < w)
    (h : data.drop o = bs ++ rest) : leNatAt w data o = some (leNat bs) := by
  have hroom := congrArg List.length h
  rw [List.length_drop, List.length_append, hlen] at hroom
  rw [leNatAt, slice?_of_le (Nat.le_add_right o w) (by omega), Nat.add_sub_cancel_left, h, List.take_left' hlen,
    Option.map_some]

theorem leNatAt_cut {data : Bytes} {o w : ℕ} (h : (data.drop o).length < w) : leNatAt w data o = none := by
  rw [List.length_drop] at h
  unfold leNatAt slice?
  rw [if_neg (by omega), Option.map_none]

theorem leNatAt_sound {data : Bytes} {o w n : ℕ} (h : leNatAt w data o = some n) :
    n < 256 ^ w ∧ data.drop o = leBytes w n ++ data.drop (o + w) := by
  obtain ⟨bs, hslice, rfl⟩ := Option.map_eq_some_iff.mp h
  have hlen := length_slice? hslice
  rw [Nat.add_sub_cancel_left] at hlen
  obtain ⟨-, -, hbs⟩ := slice?_eq_some hslice
  rw [Nat.add_sub_cancel_left] at hbs
  constructor
  · exact hlen ▸ leNat_lt bs
  · have hbytes := leBytes_leNat bs
    rw [hlen] at hbytes
    rw [hbytes, ← List.drop_drop, hbs, List.take_append_drop]

/-! ### Entries behind their count -/

def readList (read : Reader α) : ℕ → Reader (List α)
  | 0, _, o => some ([], o)
  | n + 1, data, o => do
    let (x, o) ← read data o
    let (xs, o) ← readList read n data o
    some (x :: xs, o)

/-- A count of four bytes, refused above `max`, and that many entries. -/
def readCounted (max : ℕ) (read : Reader α) : Reader (List α) := fun data o => do
  let n ← leNatAt 4 data o
  if max < n then none else readList read n data (o + 4)

section Lists

variable {φ : Format α}

theorem readList_write : ∀ {xs : List α} {data rest : Bytes} {o : ℕ}, (∀ x ∈ xs, φ.valid x) →
    data.drop o = xs.flatMap φ.write ++ rest →
    readList φ.read xs.length data o = some (xs, o + (xs.flatMap φ.write).length)
  | [], _, _, _, _, _ => rfl
  | x :: xs, data, rest, o, hvalid, hdata => by
    rw [List.flatMap_cons, List.append_assoc] at hdata
    have hhead := φ.read_write (hvalid x List.mem_cons_self) hdata
    have htail := readList_write (fun y hy => hvalid y (List.mem_cons_of_mem x hy)) (drop_behind hdata)
    simp only [readList, List.length_cons, hhead, htail, Option.bind_eq_bind, Option.bind_some,
      List.flatMap_cons, List.length_append, Nat.add_assoc]

theorem readList_cut : ∀ {xs : List α} {data missing : Bytes} {o : ℕ}, (∀ x ∈ xs, φ.valid x) →
    xs.flatMap φ.write = data.drop o ++ missing → missing ≠ [] → readList φ.read xs.length data o = none
  | [], _, _, _, _, hdata, hmissing => absurd (List.append_eq_nil_iff.mp hdata.symm).2 hmissing
  | x :: xs, data, missing, o, hvalid, hdata, hmissing => by
    rw [List.flatMap_cons] at hdata
    have hx := hvalid x List.mem_cons_self
    rcases cut_cases hdata with ⟨m, hm, hhead⟩ | ⟨l, hfront, htail⟩
    · simp only [List.length_cons, readList, φ.read_cut hx hhead hm, Option.bind_eq_bind, Option.bind_none]
    · have hread := φ.read_write hx hfront
      have hcut := readList_cut (o := o + (φ.write x).length)
        (fun y hy => hvalid y (List.mem_cons_of_mem x hy)) (by rw [drop_behind hfront]; exact htail) hmissing
      simp only [List.length_cons, readList, hread, hcut, Option.bind_eq_bind, Option.bind_some, Option.bind_none]

theorem readList_sound (hφ : φ.Canonical) : ∀ {n : ℕ} {data : Bytes} {o o' : ℕ} {xs : List α},
    readList φ.read n data o = some (xs, o') →
    xs.length = n ∧ (∀ x ∈ xs, φ.valid x) ∧ o' = o + (xs.flatMap φ.write).length ∧
      data.drop o = xs.flatMap φ.write ++ data.drop o'
  | 0, data, o, o', xs, h => by
    obtain ⟨rfl, rfl⟩ := Prod.mk.inj (Option.some.inj h)
    simp
  | n + 1, data, o, o', xs, h => by
    obtain ⟨⟨x, o₁⟩, hhead, h⟩ := Option.bind_eq_some_iff.mp h
    obtain ⟨⟨ys, o₂⟩, htail, h⟩ := Option.bind_eq_some_iff.mp h
    obtain ⟨rfl, rfl⟩ := Prod.mk.inj (Option.some.inj h)
    obtain ⟨hx, rfl, hdata⟩ := hφ hhead
    obtain ⟨hlen, hys, rfl, hdata'⟩ := readList_sound hφ htail
    refine ⟨by rw [List.length_cons, hlen], List.forall_mem_cons.mpr ⟨hx, hys⟩, ?_, ?_⟩
    · rw [List.flatMap_cons, List.length_append, Nat.add_assoc]
    · rw [hdata, hdata', List.flatMap_cons, List.append_assoc]

end Lists

/-- At most `max` entries behind their count. -/
def counted (max : ℕ) (hmax : max < 256 ^ 4) (φ : Format α) : Format (List α) where
  valid xs := xs.length ≤ max ∧ ∀ x ∈ xs, φ.valid x
  write xs := leBytes 4 xs.length ++ xs.flatMap φ.write
  read := readCounted max φ.read
  read_write := by
    intro xs data rest o hvalid hdata
    rw [List.append_assoc] at hdata
    have hcount : leNatAt 4 data o = some xs.length := by
      rw [leNatAt_of_drop (length_leBytes 4 _) (by decide) hdata, leNat_leBytes (by omega)]
    have hrest := drop_behind hdata
    rw [length_leBytes] at hrest
    have hlist := readList_write hvalid.2 hrest
    simp only [readCounted, hcount, hlist, Option.bind_eq_bind, Option.bind_some, if_neg (Nat.not_lt.mpr hvalid.1),
      List.length_append, length_leBytes, Nat.add_assoc]
  read_cut := by
    intro xs data missing o hvalid hwrite hmissing
    rcases cut_cases hwrite with ⟨m, hm, hcount⟩ | ⟨l, hfront, hlist⟩
    · have hlen := congrArg List.length hcount
      have hpos := List.length_pos_iff.mpr hm
      rw [length_leBytes, List.length_append] at hlen
      have hcut : leNatAt 4 data o = none := leNatAt_cut (by omega)
      simp only [readCounted, hcut, Option.bind_eq_bind, Option.bind_none]
    · have hcount : leNatAt 4 data o = some xs.length := by
        rw [leNatAt_of_drop (length_leBytes 4 _) (by decide) hfront, leNat_leBytes (by omega)]
      have hdrop := drop_behind hfront
      rw [length_leBytes] at hdrop
      have hcut := readList_cut (o := o + 4) hvalid.2 (by rw [hdrop]; exact hlist) hmissing
      simp only [readCounted, hcount, hcut, Option.bind_eq_bind, Option.bind_some, ite_self]

theorem Canonical.counted {φ : Format α} (hφ : φ.Canonical) {max : ℕ} (hmax : max < 256 ^ 4) :
    (φ.counted max hmax).Canonical := by
  intro data o o' xs h
  obtain ⟨n, hcount, h⟩ := Option.bind_eq_some_iff.mp h
  by_cases hmany : max < n
  · rw [if_pos hmany] at h
    cases h
  · rw [if_neg hmany] at h
    obtain ⟨-, hdata⟩ := leNatAt_sound hcount
    obtain ⟨rfl, hvalid, rfl, hdata'⟩ := readList_sound hφ h
    refine ⟨⟨Nat.not_lt.mp hmany, hvalid⟩, ?_, ?_⟩
    · show _ = o + (leBytes 4 xs.length ++ xs.flatMap φ.write).length
      rw [List.length_append, length_leBytes, Nat.add_assoc]
    · show _ = leBytes 4 xs.length ++ xs.flatMap φ.write ++ _
      rw [hdata, hdata', List.append_assoc]

/-! ### Fields of a record -/

section Records

variable {F : Type} [DecidableEq F] {T : F → Type}

/-- The fields of a layout, in order; `absent` has the others. -/
def readFields (read : ∀ f, Reader (T f)) (absent : ∀ f, T f) : List F → Reader (∀ f, T f)
  | [], _, o => some (absent, o)
  | f :: layout, data, o => do
    let (x, o) ← read f data o
    let (r, o) ← readFields read absent layout data o
    some (Function.update r f x, o)

/-- The fields of a layout as `v` has them. -/
def within (absent : ∀ f, T f) (layout : List F) (v : ∀ f, T f) : ∀ f, T f :=
  fun f => if f ∈ layout then v f else absent f

theorem update_within (absent v : ∀ f, T f) (f : F) (layout : List F) :
    Function.update (within absent layout v) f (v f) = within absent (f :: layout) v := by
  funext g
  by_cases hg : g = f
  · subst hg
    simp [within]
  · simp [within, hg]

theorem within_eq {absent v : ∀ f, T f} {layout : List F} (h : ∀ f, f ∉ layout → v f = absent f) :
    within absent layout v = v := by
  funext f
  by_cases hf : f ∈ layout
  · exact if_pos hf
  · rw [h f hf]
    exact if_neg hf

variable {φ : ∀ f, Format (T f)} (absent : ∀ f, T f)

theorem readFields_write {v : ∀ f, T f} : ∀ {layout : List F} {data rest : Bytes} {o : ℕ},
    (∀ f ∈ layout, (φ f).valid (v f)) → data.drop o = encodeFields (fun f => (φ f).write (v f)) layout ++ rest →
    readFields (fun f => (φ f).read) absent layout data o =
      some (within absent layout v, o + (encodeFields (fun f => (φ f).write (v f)) layout).length)
  | [], _, _, o, _, _ => by
    have hnone : within absent [] v = absent := funext fun f => if_neg List.not_mem_nil
    rw [hnone]
    rfl
  | f :: layout, data, rest, o, hvalid, hdata => by
    rw [encodeFields, List.flatMap_cons, List.append_assoc] at hdata
    have hhead := (φ f).read_write (hvalid f List.mem_cons_self) hdata
    have htail := readFields_write (fun g hg => hvalid g (List.mem_cons_of_mem f hg)) (drop_behind hdata)
    simp only [readFields, hhead, htail, Option.bind_eq_bind, Option.bind_some, update_within, encodeFields,
      List.flatMap_cons, List.length_append, Nat.add_assoc]

theorem readFields_cut {v : ∀ f, T f} : ∀ {layout : List F} {data missing : Bytes} {o : ℕ},
    (∀ f ∈ layout, (φ f).valid (v f)) → encodeFields (fun f => (φ f).write (v f)) layout = data.drop o ++ missing →
    missing ≠ [] → readFields (fun f => (φ f).read) absent layout data o = none
  | [], _, _, _, _, hdata, hmissing => absurd (List.append_eq_nil_iff.mp hdata.symm).2 hmissing
  | f :: layout, data, missing, o, hvalid, hdata, hmissing => by
    rw [encodeFields, List.flatMap_cons] at hdata
    have hf := hvalid f List.mem_cons_self
    rcases cut_cases hdata with ⟨m, hm, hhead⟩ | ⟨l, hfront, htail⟩
    · simp only [readFields, (φ f).read_cut hf hhead hm, Option.bind_eq_bind, Option.bind_none]
    · have hread := (φ f).read_write hf hfront
      have hcut := readFields_cut (v := v) (o := o + ((φ f).write (v f)).length)
        (fun g hg => hvalid g (List.mem_cons_of_mem f hg)) (by rwa [drop_behind hfront]) hmissing
      simp only [readFields, hread, hcut, Option.bind_eq_bind, Option.bind_some, Option.bind_none]

variable {absent}

theorem readFields_sound (hφ : ∀ f, (φ f).Canonical) : ∀ {layout : List F} {data : Bytes} {o o' : ℕ} {r : ∀ f, T f},
    layout.Nodup → readFields (fun f => (φ f).read) absent layout data o = some (r, o') →
    ((∀ f ∈ layout, (φ f).valid (r f)) ∧ ∀ f, f ∉ layout → r f = absent f) ∧
      o' = o + (encodeFields (fun f => (φ f).write (r f)) layout).length ∧
      data.drop o = encodeFields (fun f => (φ f).write (r f)) layout ++ data.drop o'
  | [], data, o, o', r, _, h => by
    obtain ⟨rfl, rfl⟩ := Prod.mk.inj (Option.some.inj h)
    simp [encodeFields]
  | f :: layout, data, o, o', r, hnodup, h => by
    obtain ⟨⟨x, o₁⟩, hhead, h⟩ := Option.bind_eq_some_iff.mp h
    obtain ⟨⟨r', o₂⟩, htail, h⟩ := Option.bind_eq_some_iff.mp h
    obtain ⟨rfl, rfl⟩ := Prod.mk.inj (Option.some.inj h)
    obtain ⟨hf, hlayout⟩ := List.nodup_cons.mp hnodup
    obtain ⟨hx, rfl, hdata⟩ := hφ f hhead
    obtain ⟨⟨hvalid, habsent⟩, rfl, hdata'⟩ := readFields_sound hφ hlayout htail
    have hsame : ∀ g ∈ layout, Function.update r' f x g = r' g := by
      intro g hg
      apply Function.update_of_ne
      rintro rfl
      exact hf hg
    have hwrite : encodeFields (fun g => (φ g).write (Function.update r' f x g)) (f :: layout) =
        (φ f).write x ++ encodeFields (fun g => (φ g).write (r' g)) layout := by
      unfold encodeFields
      rw [List.flatMap_cons, Function.update_self]
      congr 1
      exact List.flatMap_congr fun g hg => by rw [hsame g hg]
    refine ⟨⟨?_, ?_⟩, ?_, ?_⟩
    · intro g hg
      rcases List.mem_cons.mp hg with rfl | hg
      · rwa [Function.update_self]
      · rw [hsame g hg]
        exact hvalid g hg
    · intro g hg
      rw [List.mem_cons, not_or] at hg
      rw [Function.update_of_ne hg.1]
      exact habsent g hg.2
    · rw [hwrite, List.length_append, Nat.add_assoc]
    · rw [hwrite, hdata, hdata', List.append_assoc]

/-- The records that have no fields but those of the layout. -/
def record (φ : ∀ f, Format (T f)) (absent : ∀ f, T f) (layout : List F) : Format (∀ f, T f) where
  valid v := (∀ f ∈ layout, (φ f).valid (v f)) ∧ ∀ f, f ∉ layout → v f = absent f
  write v := encodeFields (fun f => (φ f).write (v f)) layout
  read := readFields (fun f => (φ f).read) absent layout
  read_write := by
    intro v data rest o hvalid hdata
    rw [readFields_write absent hvalid.1 hdata, within_eq hvalid.2]
  read_cut := by
    intro v data missing o hvalid hwrite hmissing
    exact readFields_cut absent hvalid.1 hwrite hmissing

theorem Canonical.record (hφ : ∀ f, (φ f).Canonical) {layout : List F} (hlayout : layout.Nodup) :
    (record φ absent layout).Canonical :=
  fun _ _ _ _ h => readFields_sound hφ hlayout h

end Records

end Format
end ShredSdk
