/-
# Runs of related elements, and checked sums over them

A list in which every element opens a run: the elements behind it that are
related to it, up to the first that is not. Where the relation is transitive,
a scan for the end of a run may jump over the runs of the elements it passes.

Sums in `w`-bit arithmetic: a sum of parts, some of which may be missing, is
there exactly when every part is and the total fits.

Key definitions: `between`, `RelatedTo`, `RunEnd`, `checkedAdd`, `checkedSub`,
`checkedSum`.
Key theorems: `RelatedTo.jump`, `RunEnd.takeWhile_eq`, `checkedSum_eq_some`.
-/
import Mathlib.Tactic

namespace ShredSdk

/-! ### Runs -/

section Runs

variable {α : Type*} (r : α → α → Prop) (xs : List α)

/-- The elements behind place `i` and before `stop`. -/
def between (xs : List α) (i stop : ℕ) : List α := (xs.drop (i + 1)).take (stop - (i + 1))

/-- The elements at places `i` and `k` are related. -/
def RelatedAt (i k : ℕ) : Prop := ∃ a b, xs[i]? = some a ∧ xs[k]? = some b ∧ r a b

/-- The elements behind place `i` and before `stop` are all related to it. -/
structure RelatedTo (i stop : ℕ) : Prop where
  lt : i < stop
  le : stop ≤ xs.length
  inside : ∀ k, i < k → k < stop → RelatedAt r xs i k

/-- The run of place `i` ends at `stop`. -/
structure RunEnd (i stop : ℕ) : Prop extends RelatedTo r xs i stop where
  next : ¬ RelatedAt r xs i stop

variable {r : α → α → Prop} {xs : List α} {i j stop : ℕ}

theorem between_succ (xs : List α) (i : ℕ) : between xs i (i + 1) = [] := by simp [between]

/-- What lies before `stop` is what lies before `j`, the element there, and what lies behind it. -/
theorem between_jump {a : α} (hi : i < j) (ha : xs[j]? = some a) (hj : j < stop) :
    between xs i stop = between xs i j ++ a :: between xs j stop := by
  unfold between
  have hsplit : (xs.drop (i + 1)).take (j - (i + 1) + (stop - j)) =
      (xs.drop (i + 1)).take (j - (i + 1)) ++ ((xs.drop (i + 1)).drop (j - (i + 1))).take (stop - j) :=
    List.take_add
  rw [show j - (i + 1) + (stop - j) = stop - (i + 1) by omega, List.drop_drop,
    show i + 1 + (j - (i + 1)) = j by omega] at hsplit
  have hlen := (List.getElem?_eq_some_iff.mp ha).1
  rw [hsplit, List.drop_eq_getElem_cons hlen, show stop - j = stop - (j + 1) + 1 by omega,
    List.take_succ_cons, (List.getElem?_eq_some_iff.mp ha).2]

theorem map_between {β : Type*} (f : α → β) (xs : List α) (i stop : ℕ) :
    (between xs i stop).map f = between (xs.map f) i stop := by
  simp [between, List.map_take, List.map_drop]

theorem RelatedAt.lt_length (h : RelatedAt r xs i j) : j < xs.length := by
  obtain ⟨_, _, _, hj, _⟩ := h
  exact (List.getElem?_eq_some_iff.mp hj).1

theorem RelatedAt.trans [IsTrans α r] {k : ℕ} (h : RelatedAt r xs i j) (hk : RelatedAt r xs j k) :
    RelatedAt r xs i k := by
  obtain ⟨a, b, ha, hb, hab⟩ := h
  obtain ⟨b', c, hb', hc, hbc⟩ := hk
  obtain rfl : b = b' := Option.some.inj (hb.symm.trans hb')
  exact ⟨a, c, ha, hc, IsTrans.trans _ _ _ hab hbc⟩

/-- The next element alone. -/
theorem RelatedTo.start (h : i < xs.length) : RelatedTo r xs i (i + 1) :=
  ⟨Nat.lt_succ_self i, h, fun k hk hk' => by omega⟩

/-- **A scan may jump over the run of a related element.** -/
theorem RelatedTo.jump [IsTrans α r] (h : RelatedTo r xs i j) (hj : RelatedAt r xs i j)
    (hs : RelatedTo r xs j stop) : RelatedTo r xs i stop := by
  refine ⟨lt_trans h.lt hs.lt, hs.le, fun k hk hk' => ?_⟩
  rcases Nat.lt_trichotomy k j with hkj | rfl | hkj
  · exact h.inside k hk hkj
  · exact hj
  · exact hj.trans (hs.inside k hkj hk')

/-- **The run is the longest stretch of elements related to the first.** -/
theorem RunEnd.takeWhile_eq [DecidableRel r] {a : α} (h : RunEnd r xs i stop) (ha : xs[i]? = some a) :
    (xs.drop (i + 1)).takeWhile (fun b => r a b) = between xs i stop := by
  have hlt := h.lt
  unfold between
  -- the list behind `i` is the run and what follows it
  conv_lhs => rw [← List.take_append_drop (stop - (i + 1)) (xs.drop (i + 1))]
  rw [List.takeWhile_append_of_pos]
  · have hnil : ((xs.drop (i + 1)).drop (stop - (i + 1))).takeWhile (fun b => r a b) = [] := by
      rw [List.drop_drop, show i + 1 + (stop - (i + 1)) = stop by omega]
      cases hd : xs.drop stop with
      | nil => rfl
      | cons b rest =>
        have hb : xs[stop]? = some b := by
          rw [← Nat.add_zero stop, ← List.getElem?_drop, hd]
          rfl
        have hr : ¬ r a b := fun hr => h.next ⟨a, b, ha, hb, hr⟩
        simp [hr]
    rw [hnil, List.append_nil]
  · intro b hb
    obtain ⟨k, hk⟩ := List.mem_iff_getElem?.mp hb
    rw [List.getElem?_take] at hk
    split_ifs at hk with hks
    rw [List.getElem?_drop] at hk
    obtain ⟨a', b', ha', hb', hr⟩ := h.inside (i + 1 + k) (by omega) (by omega)
    obtain rfl := Option.some.inj (ha.symm.trans ha')
    obtain rfl := Option.some.inj (hk.symm.trans hb')
    simpa using hr

/-- Tests that agree on the elements take the same ones. -/
theorem takeWhile_congr {p q : α → Bool} : ∀ {xs : List α}, (∀ a ∈ xs, p a = q a) →
    xs.takeWhile p = xs.takeWhile q
  | [], _ => rfl
  | a :: xs, h => by
    have ha : p a = q a := h a (List.mem_cons_self ..)
    rw [List.takeWhile_cons, List.takeWhile_cons, ha,
      takeWhile_congr fun b hb => h b (List.mem_cons_of_mem a hb)]

end Runs

/-! ### Checked arithmetic -/

/-- `checked_add` at `w` bits. -/
def checkedAdd (w a b : ℕ) : Option ℕ := if a + b < 2 ^ w then some (a + b) else none

def checkedSub (a b : ℕ) : Option ℕ := if b ≤ a then some (a - b) else none

/-- One part added to a sum; both may be missing. -/
def addPart (w : ℕ) (sum part : Option ℕ) : Option ℕ := sum.bind fun s => part.bind (checkedAdd w s)

def checkedSum (w : ℕ) (parts : List (Option ℕ)) : Option ℕ := parts.foldl (addPart w) (some 0)

theorem checkedSub_eq_some {a b v : ℕ} : checkedSub a b = some v ↔ b ≤ a ∧ v = a - b := by
  unfold checkedSub
  split_ifs with h <;> simp [h, eq_comm]

@[simp] theorem foldl_addPart_none (w : ℕ) : ∀ parts : List (Option ℕ),
    parts.foldl (addPart w) none = none
  | [] => rfl
  | _ :: parts => foldl_addPart_none w parts

theorem foldl_addPart {w : ℕ} : ∀ {parts : List (Option ℕ)} {s v : ℕ}, s < 2 ^ w →
    (parts.foldl (addPart w) (some s) = some v ↔
      ∃ ns : List ℕ, parts = ns.map some ∧ s + ns.sum < 2 ^ w ∧ v = s + ns.sum)
  | [], s, v, hs => by
    constructor
    · intro h
      exact ⟨[], rfl, hs, (Option.some.inj h).symm⟩
    · rintro ⟨ns, hns, -, rfl⟩
      obtain rfl : ns = [] := List.map_eq_nil_iff.mp hns.symm
      rfl
  | none :: parts, s, v, _ => by
    simp only [List.foldl_cons, addPart, Option.bind_some, Option.bind_none, foldl_addPart_none]
    constructor
    · intro h
      cases h
    · rintro ⟨ns, hns, -⟩
      cases ns <;> simp at hns
  | some n :: parts, s, v, _ => by
    simp only [List.foldl_cons, addPart, Option.bind_some, checkedAdd]
    by_cases hn : s + n < 2 ^ w
    · rw [if_pos hn, foldl_addPart hn]
      constructor
      · rintro ⟨ns, rfl, hlt, rfl⟩
        exact ⟨n :: ns, rfl, by simpa [add_assoc] using hlt, by simp [add_assoc]⟩
      · rintro ⟨ns, hns, hlt, rfl⟩
        obtain ⟨n', ns, rfl⟩ : ∃ n' ns', ns = n' :: ns' := by
          cases ns with
          | nil => simp at hns
          | cons n' ns' => exact ⟨n', ns', rfl⟩
        obtain ⟨rfl, rfl⟩ : n = n' ∧ parts = ns.map some := by simpa using hns
        exact ⟨ns, rfl, by simpa [add_assoc] using hlt, by simp [add_assoc]⟩
    · rw [if_neg hn, foldl_addPart_none]
      constructor
      · intro h
        cases h
      · rintro ⟨ns, hns, hlt, -⟩
        cases ns with
        | nil => simp at hns
        | cons n' ns' =>
          obtain ⟨rfl, -⟩ : n = n' ∧ parts = ns'.map some := by simpa using hns
          simp only [List.sum_cons] at hlt
          omega

/-- **A checked sum is the total of its parts, and is there exactly when every
part is and the total fits.** -/
theorem checkedSum_eq_some {w v : ℕ} {parts : List (Option ℕ)} : checkedSum w parts = some v ↔
    ∃ ns : List ℕ, parts = ns.map some ∧ ns.sum < 2 ^ w ∧ v = ns.sum := by
  unfold checkedSum
  rw [foldl_addPart (Nat.two_pow_pos w)]
  simp

/-- Parts that are there exactly when `P` holds, and then are `g`. -/
theorem checkedSum_map {α : Type*} {w v : ℕ} {f : α → Option ℕ} {P : α → Prop} {g : α → ℕ}
    (hf : ∀ a n, f a = some n ↔ P a ∧ n = g a) (xs : List α) : checkedSum w (xs.map f) = some v ↔
      (∀ a ∈ xs, P a) ∧ (xs.map g).sum < 2 ^ w ∧ v = (xs.map g).sum := by
  have hmap : ∀ (xs : List α) (ns : List ℕ), xs.map f = ns.map some ↔ (∀ a ∈ xs, P a) ∧ ns = xs.map g := by
    intro xs
    induction xs with
    | nil => intro ns; cases ns <;> simp
    | cons a xs ih =>
      intro ns
      cases ns with
      | nil => simp
      | cons n ns =>
        simp only [List.map_cons, List.cons.injEq, hf, ih ns, List.forall_mem_cons]
        tauto
  rw [checkedSum_eq_some]
  constructor
  · rintro ⟨ns, hns, hlt, rfl⟩
    obtain ⟨hP, rfl⟩ := (hmap xs ns).mp hns
    exact ⟨hP, hlt, rfl⟩
  · rintro ⟨hP, hlt, rfl⟩
    exact ⟨xs.map g, (hmap xs _).mpr ⟨hP, rfl⟩, hlt, rfl⟩

end ShredSdk
