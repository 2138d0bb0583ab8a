/-
# Records that grow at the end

A record of fixed-width fields whose layout has grown: the fields of the oldest
layout must be there, and a later one that is not is left absent. Read so, the first
`n` bytes of a record give each field that ends within them and no other.

Key definitions: `FixedCodec`, `FixedCodec.format`, `FixedCodec.readOr`, `fieldEnd`,
`kept`, `readTail`, `readGrowing`, `DecodesAcross`.
Key theorems: `FixedCodec.canonical`, `readTail_take`, `readGrowing_take`,
`decodesAcross`.
-/
import ShredSdk.Lib.Format

namespace ShredSdk

/-- A type whose values are written by so many bytes. -/
structure FixedCodec (α : Type) where
  width : ℕ
  encode : α → Bytes
  decode : Bytes → Option α
  absent : α
  valid : α → Prop
  length_encode : ∀ x, (encode x).length = width
  decode_encode : ∀ {x}, valid x → decode (encode x) = some x

namespace FixedCodec

variable {α : Type} (c : FixedCodec α)

def read : Reader α := fun data o => do
  let bytes ← slice? data o (o + c.width)
  let x ← c.decode bytes
  some (x, o + c.width)

/-- A field that may not be there yet. -/
def readOr (data : Bytes) (o : ℕ) : Option α :=
  match slice? data o (o + c.width) with
  | some bytes => c.decode bytes
  | none => some c.absent

theorem slice?_of_drop {data bytes rest : Bytes} {o w : ℕ} (hlen : bytes.length = w) (hpos : 0 < w)
    (h : data.drop o = bytes ++ rest) : slice? data o (o + w) = some bytes := by
  have hroom := congrArg List.length h
  rw [List.length_drop, List.length_append, hlen] at hroom
  rw [slice?_of_le (Nat.le_add_right o w) (by omega), Nat.add_sub_cancel_left, h, List.take_left' hlen]

/-- The format of a fixed-width type. -/
def format (hpos : 0 < c.width) : Format α where
  valid := c.valid
  write := c.encode
  read := c.read
  read_write := by
    intro x data rest o hvalid hdata
    have hslice := slice?_of_drop (c.length_encode x) hpos hdata
    simp only [read, hslice, c.decode_encode hvalid, Option.bind_eq_bind, Option.bind_some, c.length_encode]
  read_cut := by
    intro x data missing o hvalid hwrite hmissing
    have hlen := congrArg List.length hwrite
    have hmore := List.length_pos_iff.mpr hmissing
    rw [c.length_encode, List.length_append, List.length_drop] at hlen
    have hnone : slice? data o (o + c.width) = none := if_neg (by omega)
    simp only [read, hnone, Option.bind_eq_bind, Option.bind_none]

/-- The bytes of a value are the only ones it is read from. -/
theorem canonical (hpos : 0 < c.width)
    (hdecode : ∀ {bytes x}, bytes.length = c.width → c.decode bytes = some x → c.valid x ∧ c.encode x = bytes) :
    (c.format hpos).Canonical := by
  intro data o o' x h
  obtain ⟨bytes, hslice, h⟩ := Option.bind_eq_some_iff.mp h
  obtain ⟨y, hy, h⟩ := Option.bind_eq_some_iff.mp h
  obtain ⟨rfl, rfl⟩ := Prod.mk.inj (Option.some.inj h)
  have hlen := length_slice? hslice
  obtain ⟨-, -, hbytes⟩ := slice?_eq_some hslice
  rw [Nat.add_sub_cancel_left] at hlen hbytes
  obtain ⟨hvalid, hencode⟩ := hdecode hlen hy
  refine ⟨hvalid, ?_, ?_⟩
  · show _ = o + (c.encode y).length
    rw [c.length_encode]
  · show _ = c.encode y ++ _
    rw [hencode, ← List.drop_drop, hbytes, List.take_append_drop]

end FixedCodec

/-! ### Growing records -/

section Growing

variable {F : Type} [DecidableEq F] {T : F → Type} (codec : ∀ f, FixedCodec (T f))

abbrev widths : F → ℕ := fun f => (codec f).width

abbrev encodeRecord (v : ∀ f, T f) (layout : List F) : Bytes := encodeFields (fun f => (codec f).encode (v f)) layout

/-- Where a field ends. -/
def fieldEnd (width : F → ℕ) (layout : List F) (f : F) : ℕ := (fieldOffset width f layout).getD 0 + width f

/-- Each field that ends within the first `n` bytes, and no other. -/
def kept (layout : List F) (n : ℕ) (v : ∀ f, T f) : ∀ f, T f :=
  fun f => if fieldEnd (widths codec) layout f ≤ n then v f else (codec f).absent

/-- The fields and where they stand, from an offset on. -/
def placed (width : F → ℕ) : ℕ → List F → List (F × ℕ)
  | _, [] => []
  | o, f :: layout => (f, o) :: placed width (o + width f) layout

/-- Fields that may not be there yet, each at its offset. -/
def readTail (data : Bytes) : List (F × ℕ) → (∀ f, T f) → Option (∀ f, T f)
  | [], r => some r
  | (f, o) :: tail, r => do
    let x ← (codec f).readOr data o
    readTail data tail (Function.update r f x)

/-- The fields of the oldest layout and those that have come since. -/
def readGrowing (data : Bytes) (layout : List F) (tail : List (F × ℕ)) : Option (∀ f, T f) := do
  let (r, _) ← Format.readFields (fun f => (codec f).read) (fun f => (codec f).absent) layout data 0
  readTail codec data tail r

/-! ### Cut short -/

variable {codec} {v : ∀ f, T f}

theorem fieldOffset_behind {width : F → ℕ} {f : F} (back : List F) : ∀ {front : List F}, f ∉ front →
    fieldOffset width f (front ++ f :: back) = some (fieldsWidth width front)
  | [], _ => by simp [fieldOffset, fieldsWidth]
  | g :: front, h => by
    rw [List.mem_cons, not_or] at h
    have ih : fieldOffset width f (front ++ f :: back) = some (fieldsWidth width front) := fieldOffset_behind back h.2
    rw [List.cons_append, fieldOffset, if_neg (Ne.symm h.1), ih]
    simp [fieldsWidth]

/-- A field of the oldest layout ends within it. -/
theorem fieldEnd_front {width : F → ℕ} {f : F} : ∀ {front back : List F}, f ∈ front →
    fieldEnd width (front ++ back) f ≤ fieldsWidth width front
  | g :: front, back, h => by
    have hsum : fieldsWidth width (g :: front) = width g + fieldsWidth width front := by simp [fieldsWidth]
    unfold fieldEnd
    rw [List.cons_append, fieldOffset]
    by_cases hg : g = f
    · rw [if_pos hg, Option.getD_some, hsum, hg]
      omega
    · have hmem : f ∈ front := (List.mem_cons.mp h).resolve_left fun heq => hg heq.symm
      have ih : fieldEnd width (front ++ back) f ≤ fieldsWidth width front := fieldEnd_front hmem
      obtain ⟨o, ho⟩ : ∃ o, fieldOffset width f (front ++ back) = some o :=
        fieldOffset_isSome (List.mem_append_left back hmem)
      unfold fieldEnd at ih
      rw [ho, Option.getD_some] at ih
      rw [if_neg hg, ho, Option.map_some, Option.getD_some, hsum]
      omega

/-- A field that may be missing is read if it ends within the first `n` bytes. -/
theorem readOr_take {layout : List F} {f : F} {o : ℕ} (rest : Bytes) (n : ℕ) (hvalid : (codec f).valid (v f))
    (ho : fieldOffset (widths codec) f layout = some o) :
    (codec f).readOr ((encodeRecord codec v layout ++ rest).take n) o =
      some (kept codec layout n v f) := by
  have hlen : (encodeRecord codec v layout).length =
      fieldsWidth (widths codec) layout := length_encodeFields (fun f => (codec f).length_encode (v f)) layout
  have hbound : o + (codec f).width ≤ fieldsWidth (widths codec) layout := fieldOffset_bound ho
  have hend : fieldEnd (widths codec) layout f = o + (codec f).width := by
    rw [fieldEnd, ho, Option.getD_some]
  have htotal : (encodeRecord codec v layout ++ rest).length =
      fieldsWidth (widths codec) layout + rest.length := by rw [List.length_append, hlen]
  unfold FixedCodec.readOr kept
  rw [hend]
  by_cases hn : o + (codec f).width ≤ n
  · have hread := read_field (fun f => (codec f).length_encode (v f)) rest ho
    have hslice : slice? ((encodeRecord codec v layout ++ rest).take n) o
        (o + (codec f).width) = some ((codec f).encode (v f)) := by
      rw [slice?_of_le (Nat.le_add_right _ _) (by rw [List.length_take, htotal]; omega), Nat.add_sub_cancel_left,
        take_drop_take hn, hread]
    rw [hslice, if_pos hn]
    exact (codec f).decode_encode hvalid
  · have hnone : slice? ((encodeRecord codec v layout ++ rest).take n) o
        (o + (codec f).width) = none := by
      apply if_neg
      rw [List.length_take]
      omega
    rw [hnone, if_neg hn]

/-- The fields of a tail, one after the other. -/
theorem readTail_take (rest : Bytes) (n : ℕ) : ∀ (tail front : List F) {r : ∀ f, T f}, (front ++ tail).Nodup →
    (∀ f ∈ tail, (codec f).valid (v f)) → (∀ f ∉ tail, r f = kept codec (front ++ tail) n v f) →
    readTail codec ((encodeRecord codec v (front ++ tail) ++ rest).take n)
      (placed (widths codec) (fieldsWidth (widths codec) front) tail) r =
        some (kept codec (front ++ tail) n v)
  | [], front, r, _, _, hr => by
    rw [placed, readTail]
    exact congrArg some (funext fun f => hr f List.not_mem_nil)
  | f :: tail, front, r, hnodup, hvalid, hr => by
    have hf : f ∉ front := fun hmem =>
      (List.disjoint_of_nodup_append hnodup) hmem List.mem_cons_self
    have hread := readOr_take rest n (hvalid f List.mem_cons_self) (fieldOffset_behind tail hf)
    have hfront : fieldsWidth (widths codec) front + (codec f).width =
        fieldsWidth (widths codec) (front ++ [f]) := by simp [fieldsWidth]
    have hsplit : front ++ f :: tail = front ++ [f] ++ tail := by simp
    rw [placed, readTail, hread, Option.bind_eq_bind, Option.bind_some, hfront]
    have ih := readTail_take rest n tail (front ++ [f])
      (r := Function.update r f (kept codec (front ++ f :: tail) n v f)) (by rwa [← hsplit])
      (fun g hg => hvalid g (List.mem_cons_of_mem f hg))
    rw [← hsplit] at ih
    apply ih
    intro g hg
    by_cases hgf : g = f
    · subst hgf
      exact Function.update_self ..
    · rw [Function.update_of_ne hgf]
      exact hr g fun hmem => (List.mem_cons.mp hmem).elim hgf hg

/-- **The first `n` bytes of a record.** If the oldest layout is there, each field that
ends within them is read, and no other. -/
theorem readGrowing_take {layout tail : List F} (rest : Bytes) (n : ℕ) (hpos : ∀ f, 0 < (codec f).width)
    (hnodup : (layout ++ tail).Nodup) (hall : ∀ f, f ∈ layout ++ tail) (hvalid : ∀ f, (codec f).valid (v f)) :
    readGrowing codec ((encodeRecord codec v (layout ++ tail) ++ rest).take n) layout
        (placed (widths codec) (fieldsWidth (widths codec) layout) tail) =
      if fieldsWidth (widths codec) layout ≤ n then some (kept codec (layout ++ tail) n v) else none := by
  have hlen : (encodeRecord codec v layout).length =
      fieldsWidth (widths codec) layout := length_encodeFields (fun f => (codec f).length_encode (v f)) layout
  have hsplit : encodeRecord codec v (layout ++ tail) ++ rest =
      encodeRecord codec v layout ++
        (encodeRecord codec v tail ++ rest) := by
    simp [encodeFields, List.flatMap_append]
  unfold readGrowing
  by_cases hn : fieldsWidth (widths codec) layout ≤ n
  · have htake : (encodeRecord codec v (layout ++ tail) ++ rest).take n =
        encodeRecord codec v layout ++
          (encodeRecord codec v tail ++ rest).take
            (n - fieldsWidth (widths codec) layout) := by
      rw [hsplit, List.take_append, hlen, List.take_of_length_le (by omega)]
    have hhead := Format.readFields_write (fun f => (codec f).absent) (φ := fun f => (codec f).format (hpos f))
      (v := v) (o := 0) (fun f _ => hvalid f) htake
    rw [if_pos hn]
    show (Format.readFields (fun f => (codec f).read) (fun f => (codec f).absent) layout _ 0).bind _ = _
    rw [show Format.readFields (fun f => (codec f).read) (fun f => (codec f).absent) layout _ 0 = _ from hhead,
      Option.bind_some]
    apply readTail_take rest n tail layout hnodup fun f _ => hvalid f
    intro f hf
    have hmem : f ∈ layout := (List.mem_append.mp (hall f)).resolve_right hf
    have hwithin : Format.within (fun f => (codec f).absent) layout v f = v f := if_pos hmem
    rw [hwithin, kept, if_pos ((fieldEnd_front hmem).trans hn)]
  · have hcut : encodeRecord codec v layout =
        (encodeRecord codec v (layout ++ tail) ++ rest).take n ++ (encodeRecord codec v layout).drop n := by
      rw [hsplit, List.take_append_of_le_length (by omega), List.take_append_drop]
    have hnone := Format.readFields_cut (fun f => (codec f).absent) (φ := fun f => (codec f).format (hpos f))
      (v := v) (o := 0) (fun f _ => hvalid f) hcut (by
        intro hnil
        have hdrop := congrArg List.length hnil
        rw [List.length_drop, List.length_nil] at hdrop
        omega)
    rw [if_neg hn, show Format.readFields (fun f => (codec f).read) (fun f => (codec f).absent) layout _ 0 = _ from hnone,
      Option.bind_eq_bind, Option.bind_none]

/-! ### Decoders -/

/-- A decoder of records behind a discriminator of eight bytes. A whole record is
decoded whatever stands behind it, and of a proper prefix of one, if anything, each field
that ends within the prefix and no other. -/
def DecodesAcross {E : Type} (codec : ∀ f, FixedCodec (T f)) (discriminator : Bytes) (layout : List F)
    (parse : Bytes → Option E) (event : (∀ f, T f) → E) : Prop :=
  ∀ v : ∀ f, T f, (∀ f, (codec f).valid (v f)) →
    (∀ trailing, parse (discriminator ++ encodeRecord codec v layout ++ trailing) = some (event v)) ∧
    ∀ n < (discriminator ++ encodeRecord codec v layout).length,
      parse ((discriminator ++ encodeRecord codec v layout).take n) = none ∨
        ∃ r, parse ((discriminator ++ encodeRecord codec v layout).take n) = some (event r) ∧
          ∀ f, r f = if 8 + fieldEnd (widths codec) layout f ≤ n then v f else (codec f).absent

/-- A decoder that reads a growing record where the number of its bytes passes a gate. -/
theorem decodesAcross {E : Type} {discriminator : Bytes} {head tail : List F} {parse : Bytes → Option E}
    {event : (∀ f, T f) → E} (gate : ℕ → Prop) [DecidablePred gate] (hpos : ∀ f, 0 < (codec f).width)
    (hnodup : (head ++ tail).Nodup) (hall : ∀ f, f ∈ head ++ tail) (hdisc : discriminator.length = 8)
    (hshort : ∀ data : Bytes, data.length < 8 → parse data = none)
    (hparse : ∀ body : Bytes, parse (discriminator ++ body) =
      if gate body.length then
        (readGrowing codec body head (placed (widths codec) (fieldsWidth (widths codec) head) tail)).map event
      else none)
    (hgate : ∀ len, fieldsWidth (widths codec) (head ++ tail) ≤ len → gate len) :
    DecodesAcross codec discriminator (head ++ tail) parse event := by
  intro v hvalid
  have hlen : (encodeRecord codec v (head ++ tail)).length = fieldsWidth (widths codec) (head ++ tail) :=
    length_encodeFields (fun f => (codec f).length_encode (v f)) (head ++ tail)
  have hhead : fieldsWidth (widths codec) head ≤ fieldsWidth (widths codec) (head ++ tail) := by
    simp [fieldsWidth]
  constructor
  · intro trailing
    have hread := readGrowing_take trailing (encodeRecord codec v (head ++ tail) ++ trailing).length
      hpos hnodup hall hvalid
    have htotal : (encodeRecord codec v (head ++ tail) ++ trailing).length =
        fieldsWidth (widths codec) (head ++ tail) + trailing.length := by rw [List.length_append, hlen]
    have hkept : kept codec (head ++ tail) (encodeRecord codec v (head ++ tail) ++ trailing).length v = v := by
      funext f
      obtain ⟨o, ho⟩ : ∃ o, fieldOffset (widths codec) f (head ++ tail) = some o := fieldOffset_isSome (hall f)
      have hbound := fieldOffset_bound ho
      refine if_pos ?_
      rw [fieldEnd, ho, Option.getD_some, htotal]
      omega
    rw [List.take_length, if_pos (by omega), hkept] at hread
    rw [List.append_assoc, hparse, if_pos (hgate _ (by omega)), hread, Option.map_some]
  · intro n hn
    by_cases h8 : n < 8
    · exact .inl (hshort _ (by rw [List.length_take]; omega))
    · have hbody : (discriminator ++ encodeRecord codec v (head ++ tail)).take n =
          discriminator ++ (encodeRecord codec v (head ++ tail)).take (n - 8) := by
        rw [List.take_append, hdisc, List.take_of_length_le (by omega)]
      have hread := readGrowing_take [] (n - 8) hpos hnodup hall hvalid
      rw [List.append_nil] at hread
      rw [hbody, hparse, hread]
      by_cases hg : gate ((encodeRecord codec v (head ++ tail)).take (n - 8)).length
      · rw [if_pos hg]
        by_cases hw : fieldsWidth (widths codec) head ≤ n - 8
        · refine .inr ⟨kept codec (head ++ tail) (n - 8) v, by rw [if_pos hw, Option.map_some], fun f => ?_⟩
          have hiff : fieldEnd (widths codec) (head ++ tail) f ≤ n - 8 ↔
              8 + fieldEnd (widths codec) (head ++ tail) f ≤ n := by omega
          simp only [kept, hiff]
        · exact .inl (by rw [if_neg hw, Option.map_none])
      · exact .inl (if_neg hg)

end Growing
end ShredSdk
