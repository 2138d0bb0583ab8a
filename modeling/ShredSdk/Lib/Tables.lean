/-
# Dispatch tables

A key picks an entry of a table. Two tables, whose keys may be written differently, pick
related entries for a key if their entries are related one by one (`lookup_rel`), or if
what one picks is matched in the other (`lookup_matched`).

Key theorems: `lookup_rel`, `lookup_matched`, `lookup_map_snd`.
-/
import ShredSdk.Lib.Overlay

namespace ShredSdk

section

variable {K L V W : Type} [BEq K] [BEq L] {R : V → W → Prop} {k : K} {l : L}

/-- Tables that go hand in hand. -/
theorem lookup_rel [LawfulBEq K] [LawfulBEq L] : ∀ {t : List (K × V)} {u : List (L × W)},
    List.Forall₂ (fun e e' => (k = e.1 ↔ l = e'.1) ∧ R e.2 e'.2) t u → Option.Rel R (t.lookup k) (u.lookup l)
  | _, _, .nil => .none
  | e :: t, e' :: u, .cons ⟨hkey, hval⟩ h => by
    by_cases he : k = e.1
    · rw [List.lookup_cons, List.lookup_cons, beq_iff_eq.mpr he, beq_iff_eq.mpr (hkey.mp he)]
      exact .some hval
    · rw [List.lookup_cons, List.lookup_cons, beq_eq_false_iff_ne.mpr he,
        beq_eq_false_iff_ne.mpr fun hl => he (hkey.mpr hl)]
      exact lookup_rel h

/-- Tables in any order. -/
theorem lookup_matched [LawfulBEq K] {t : List (K × V)} {u : List (L × W)}
    (hsome : ∀ v, (k, v) ∈ t → ∃ w, u.lookup l = some w ∧ R v w)
    (hnone : (∀ v, (k, v) ∉ t) → u.lookup l = none) : Option.Rel R (t.lookup k) (u.lookup l) := by
  cases hv : t.lookup k with
  | none =>
    have hmissing : ∀ v, (k, v) ∉ t := fun v hmem => by
      have := List.lookup_eq_none_iff.mp hv (k, v) hmem
      simp at this
    rw [hnone hmissing]
    exact .none
  | some v =>
    obtain ⟨w, hw, hrel⟩ := hsome v (mem_of_lookup hv)
    rw [hw]
    exact .some hrel

/-- A table whose values are mapped. -/
theorem lookup_map_snd {V' : Type} (f : V → V') (t : List (K × V)) (k : K) :
    (t.map fun e => (e.1, f e.2)).lookup k = (t.lookup k).map f := by
  induction t with
  | nil => rfl
  | cons e t ih =>
    rw [List.map_cons, List.lookup_cons, List.lookup_cons, ih]
    cases k == e.1 <;> rfl

end

end ShredSdk
