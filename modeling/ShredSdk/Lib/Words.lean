/-
# Words, raw bytes and tags

Formats of a fixed width all of whose values can be written: the numbers of `w` bytes,
single bytes, `n` raw bytes, flags and small enumerations. Read at an offset they give
their value and move the offset on by their width.

A tag is a byte that a format refuses above a bound, whatever stands behind it. Where the
parts of a format have their tags the whole has them, as far behind its start as the part
stands.

Key definitions: `Word`, `wordCodec`, `byteCodec`, `rawCodec`, `enumCodec`, `boolCodec`, `FixedCodec.readAt`,
`Format.Refuses`.
Key theorems: `FixedCodec.read_bind`, `leNatAt_bind`, `Refuses.fst`, `Refuses.snd`, `option_refuses`,
`enum_refuses`, `bool_refuses`.
-/
import ShredSdk.Lib.Growing

namespace ShredSdk

/-- The numbers of `w` bytes. -/
abbrev Word (w : ℕ) := Fin (256 ^ w)

/-- Strings of `n` bytes. -/
abbrev Raw (n : ℕ) := {bytes : Bytes // bytes.length = n}

theorem word_pos (w : ℕ) : 0 < 256 ^ w := Nat.pow_pos (by decide)

/-! ### Codecs -/

def wordCodec (w : ℕ) : FixedCodec (Word w) where
  width := w
  encode x := leBytes w x.val
  decode bytes := if h : leNat bytes < 256 ^ w then some ⟨leNat bytes, h⟩ else none
  absent := ⟨0, word_pos w⟩
  valid _ := True
  length_encode x := length_leBytes w x.val
  decode_encode := by
    intro x _
    have hback : leNat (leBytes w x.val) = x.val := leNat_leBytes x.isLt
    rw [dif_pos (by rw [hback]; exact x.isLt)]
    exact congrArg some (Fin.ext hback)

def byteCodec : FixedCodec UInt8 where
  width := 1
  encode b := [b]
  decode := List.head?
  absent := 0
  valid _ := True
  length_encode _ := rfl
  decode_encode _ := rfl

def rawCodec (n : ℕ) : FixedCodec (Raw n) where
  width := n
  encode bytes := bytes.val
  decode bytes := if h : bytes.length = n then some ⟨bytes, h⟩ else none
  absent := ⟨List.replicate n 0, List.length_replicate⟩
  valid _ := True
  length_encode bytes := bytes.property
  decode_encode := by
    intro bytes _
    rw [dif_pos bytes.property]

/-- The values of an enumeration up to `max`, a byte each. -/
def enumCodec (max : ℕ) (hmax : max < 256) : FixedCodec (Fin (max + 1)) where
  width := 1
  encode x := [UInt8.ofNat x.val]
  decode bytes := if h : (bytes.headD 0).toNat < max + 1 then some ⟨(bytes.headD 0).toNat, h⟩ else none
  absent := 0
  valid _ := True
  length_encode _ := rfl
  decode_encode := by
    intro x _
    have hback : (UInt8.ofNat x.val).toNat = x.val := by
      rw [UInt8.toNat_ofNat']
      exact Nat.mod_eq_of_lt (by omega)
    rw [List.headD_cons, dif_pos (by rw [hback]; exact x.isLt)]
    exact congrArg some (Fin.ext hback)

/-- A flag, `0` or `1`. -/
def boolCodec : FixedCodec Bool where
  width := 1
  encode b := [if b then 1 else 0]
  decode bytes :=
    match bytes.headD 0 with
    | 0 => some false
    | 1 => some true
    | _ => none
  absent := false
  valid _ := True
  length_encode _ := List.length_singleton
  decode_encode := by
    intro b _
    cases b <;> rfl

/-! ### Values at an offset -/

namespace FixedCodec

variable {α β : Type} (c : FixedCodec α)

def readAt (data : Bytes) (o : ℕ) : Option α := (slice? data o (o + c.width)).bind c.decode

/-- Reading moves the offset on by the width. -/
theorem read_bind (hpos : 0 < c.width) (data : Bytes) (o : ℕ) (f : α × ℕ → Option β) :
    ((c.format hpos).read data o).bind f = (c.readAt data o).bind fun x => f (x, o + c.width) := by
  show ((slice? data o (o + c.width)).bind fun bytes => (c.decode bytes).bind fun x => some (x, o + c.width)).bind f = _
  rw [readAt, Option.bind_assoc, Option.bind_assoc]
  congr 1
  funext bytes
  rw [Option.bind_assoc]
  rfl

end FixedCodec

section Reads

variable {β : Type} (data : Bytes) (o : ℕ)

/-- What is read as a number is a word. -/
theorem leNatAt_bind (w : ℕ) (f : ℕ → Option β) :
    (leNatAt w data o).bind f = ((wordCodec w).readAt data o).bind fun x => f x.val := by
  have hread : leNatAt w data o = ((wordCodec w).readAt data o).map Fin.val := by
    show (slice? data o (o + w)).map leNat = ((slice? data o (o + w)).bind _).map _
    cases hslice : slice? data o (o + w) with
    | none => rfl
    | some bytes =>
      have hlen := length_slice? hslice
      rw [Nat.add_sub_cancel_left] at hlen
      have hlt : leNat bytes < 256 ^ w := hlen ▸ leNat_lt bytes
      rw [Option.bind_some, Option.map_some]
      show _ = (if h : leNat bytes < 256 ^ w then some (⟨leNat bytes, h⟩ : Word w) else none).map Fin.val
      rw [dif_pos hlt, Option.map_some]
  rw [hread, Option.bind_map]
  rfl

theorem slice?_byte : slice? data o (o + 1) = (data[o]?).map fun b => [b] := by
  by_cases h : o < data.length
  · rw [slice?_of_le (Nat.le_add_right o 1) h, Nat.add_sub_cancel_left, List.getElem?_eq_getElem h, Option.map_some,
      List.drop_eq_getElem_cons h, List.take_succ_cons, List.take_zero]
  · rw [List.getElem?_eq_none (Nat.not_lt.mp h)]
    exact if_neg fun hc => h hc.2

theorem byteCodec_readAt : byteCodec.readAt data o = data[o]? := by
  show (slice? data o (o + 1)).bind List.head? = data[o]?
  rw [slice?_byte, Option.bind_map]
  exact Option.bind_fun_some data[o]?

theorem rawCodec_bind (n : ℕ) (f : Bytes → Option β) :
    (slice? data o (o + n)).bind f = ((rawCodec n).readAt data o).bind fun bytes => f bytes.val := by
  show _ = ((slice? data o (o + n)).bind _).bind _
  cases hslice : slice? data o (o + n) with
  | none => rfl
  | some bytes =>
    have hlen := length_slice? hslice
    rw [Nat.add_sub_cancel_left] at hlen
    rw [Option.bind_some, Option.bind_some]
    show _ = (if h : bytes.length = n then some (⟨bytes, h⟩ : Raw n) else none).bind _
    rw [dif_pos hlen, Option.bind_some]

end Reads

namespace Format

variable {α β γ : Type}

theorem pair_bind (φ : Format α) (ψ : Format β) (data : Bytes) (o : ℕ) (f : (α × β) × ℕ → Option γ) :
    ((φ.pair ψ).read data o).bind f =
      (φ.read data o).bind fun p => (ψ.read data p.2).bind fun q => f ((p.1, q.1), q.2) := by
  show (readPair φ.read ψ.read data o).bind f = _
  simp only [readPair, Option.bind_eq_bind, Option.bind_assoc, Option.bind_some]

theorem map_bind (φ : Format α) (e : α ≃ β) (data : Bytes) (o : ℕ) (f : β × ℕ → Option γ) :
    ((φ.map e).read data o).bind f = (φ.read data o).bind fun p => f (e p.1, p.2) := by
  show ((φ.read data o).map _).bind f = _
  rw [Option.bind_map]
  rfl

/-! ### Tags -/

/-- Behind the first `p` bytes of `x` no byte above `max` is taken, whatever follows it. -/
structure Refuses (φ : Format α) (x : α) (p : ℕ) (max : UInt8) : Prop where
  inside : p < (φ.write x).length
  refused : ∀ {data rest : Bytes} {b : UInt8} {o : ℕ}, max < b → data.drop o = (φ.write x).take p ++ b :: rest →
    φ.read data o = none

section Refuses

variable {φ : Format α} {ψ : Format β} {x : α} {y : β} {p : ℕ} {max : UInt8}

theorem Refuses.fst (h : φ.Refuses x p max) : (φ.pair ψ).Refuses (x, y) p max where
  inside := by
    show p < (φ.write x ++ ψ.write y).length
    have hinside := h.inside
    rw [List.length_append]
    omega
  refused := by
    intro data rest b o hb hdata
    have hfront : (φ.write x ++ ψ.write y).take p = (φ.write x).take p := List.take_append_of_le_length h.inside.le
    have hnone : φ.read data o = none := h.refused hb (by rw [← hfront]; exact hdata)
    show readPair φ.read ψ.read data o = none
    simp only [readPair, hnone, Option.bind_eq_bind, Option.bind_none]

theorem Refuses.snd {n : ℕ} (hvalid : φ.valid x) (hlen : (φ.write x).length = n) (h : ψ.Refuses y p max) :
    (φ.pair ψ).Refuses (x, y) (n + p) max where
  inside := by
    show _ < (φ.write x ++ ψ.write y).length
    have hinside := h.inside
    rw [List.length_append, hlen]
    omega
  refused := by
    intro data rest b o hb hdata
    have hfront : (φ.write x ++ ψ.write y).take (n + p) = φ.write x ++ (ψ.write y).take p := by
      rw [← hlen]
      exact List.take_length_add_append p
    have hdata' : data.drop o = φ.write x ++ ((ψ.write y).take p ++ b :: rest) := by
      rw [← List.append_assoc, ← hfront]
      exact hdata
    have hfst := φ.read_write hvalid hdata'
    have hsnd := h.refused hb (drop_behind hdata')
    show readPair φ.read ψ.read data o = none
    simp only [readPair, hfst, hsnd, Option.bind_eq_bind, Option.bind_some, Option.bind_none]

theorem Refuses.map {e : α ≃ β} (h : φ.Refuses (e.symm y) p max) : (φ.map e).Refuses y p max where
  inside := h.inside
  refused := by
    intro data rest b o hb hdata
    have hnone : φ.read data o = none := h.refused hb hdata
    show (φ.read data o).map _ = none
    rw [hnone, Option.map_none]

/-- What is behind the tag has its own. -/
theorem Refuses.some (h : φ.Refuses x p max) : φ.option.Refuses (some x) (p + 1) max where
  inside := by
    have hinside := h.inside
    show p + 1 < (1 :: φ.write x).length
    rw [List.length_cons]
    omega
  refused := by
    intro data rest b o hb hdata
    have hfront : (1 :: φ.write x).take (p + 1) = 1 :: (φ.write x).take p := List.take_succ_cons
    have hdata' : data.drop o = 1 :: ((φ.write x).take p ++ b :: rest) := by
      rw [← List.cons_append, ← hfront]
      exact hdata
    have hnone := h.refused hb (behind_tag hdata')
    show readOption φ.read data o = none
    simp [readOption, getElem?_of_drop hdata', hnone]

/-- A value is there or not. -/
theorem option_refuses (x? : Option α) : φ.option.Refuses x? 0 1 where
  inside := by
    cases x? with
    | none => exact Nat.zero_lt_one
    | some x => exact Nat.zero_lt_succ _
  refused := by
    intro data rest b o hb hdata
    rw [List.take_zero, List.nil_append] at hdata
    show readOption φ.read data o = none
    rw [readOption, getElem?_of_drop hdata, Option.bind_eq_bind, Option.bind_some]
    split
    · exact absurd hb (by decide)
    · exact absurd hb (by decide)
    · rfl

end Refuses

/-- A byte that does not decode is refused. -/
theorem fixed_refuses {c : FixedCodec α} {hpos : 0 < c.width} {max : UInt8} (hwidth : c.width = 1)
    (hdecode : ∀ b, max < b → c.decode [b] = none) (x : α) : (c.format hpos).Refuses x 0 max where
  inside := by
    show 0 < (c.encode x).length
    rw [c.length_encode]
    exact hpos
  refused := by
    intro data rest b o hb hdata
    rw [List.take_zero, List.nil_append] at hdata
    show ((slice? data o (o + c.width)).bind fun bytes => (c.decode bytes).bind _) = none
    rw [hwidth, slice?_byte, getElem?_of_drop hdata, Option.map_some, Option.bind_some, hdecode b hb, Option.bind_none]

theorem enum_refuses {max : ℕ} (hmax : max < 256) {hpos : 0 < (enumCodec max hmax).width} (x : Fin (max + 1)) :
    ((enumCodec max hmax).format hpos).Refuses x 0 (UInt8.ofNat max) := by
  apply fixed_refuses rfl
  intro b hb
  have hlt : max < b.toNat := by
    have h := UInt8.lt_iff_toNat_lt.mp hb
    rwa [UInt8.toNat_ofNat', Nat.mod_eq_of_lt hmax] at h
  exact dif_neg (by rw [List.headD_cons]; omega)

theorem bool_refuses {hpos : 0 < boolCodec.width} (x : Bool) : (boolCodec.format hpos).Refuses x 0 1 := by
  apply fixed_refuses rfl
  intro b hb
  unfold boolCodec
  dsimp only [List.headD_cons]
  split
  · exact absurd hb (by decide)
  · exact absurd hb (by decide)
  · rfl

end Format
end ShredSdk
