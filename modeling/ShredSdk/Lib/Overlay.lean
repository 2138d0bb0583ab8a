/-
# Merging records field by field

A record is a family of values, one value of each type standing for *unknown*.
What a field becomes when another record is merged in is a rule: it is kept, it
is filled where it is unknown, it gives way to what is known, or it is taken
over. A merge says for each field which rule it goes by, some of them by
whether a condition on the other record holds.

Key definitions: `MergeRule.apply`, `FieldRules.rule`, `FieldRules.merge`,
`MergeRule.Accord`, `FilledFrom`.
Key theorems: `MergeRule.apply_apply`, `MergeRule.apply_eq_iff`,
`FieldRules.merge_merge`, `FieldRules.filledFrom`.
-/
import Mathlib.Tactic

/-- What a field becomes when another record is merged in. -/
inductive MergeRule where
  | keep | fill | put | take
deriving DecidableEq

namespace MergeRule

variable {V : Type} [DecidableEq V] {unknown a b : V} {r s : MergeRule}

/-- What is left of `old` after `new` is merged in. -/
def apply (unknown : V) (rule : MergeRule) (old new : V) : V :=
  match rule with
  | .keep => old
  | .fill => if old = unknown ∧ new ≠ unknown then new else old
  | .put => if new ≠ unknown then new else old
  | .take => new

theorem apply_cases (unknown a b : V) (r : MergeRule) :
    r.apply unknown a b = a ∨ r.apply unknown a b = b := by
  cases r with
  | keep => exact .inl rfl
  | take => exact .inr rfl
  | fill => exact (ite_eq_or_eq _ _ _).symm
  | put => exact (ite_eq_or_eq _ _ _).symm

theorem apply_self (unknown a : V) (r : MergeRule) : r.apply unknown a a = a := by
  rcases apply_cases unknown a a r with h | h <;> exact h

/-- Merging the same record in again changes nothing. -/
theorem apply_apply (unknown a b : V) (r : MergeRule) :
    r.apply unknown (r.apply unknown a b) b = r.apply unknown a b := by
  rcases apply_cases unknown a b r with h | h
  · rw [h, h]
  · rw [h, apply_self]

/-! ### Two records, merged either way -/

/-- When a field of two records comes out the same, the second merged into the
first or the first into the second. A record *is silent* on a field where it
has the unknown value. -/
inductive Accord where
  | always | equal | firstSilent | secondSilent | eitherSilent | firstSpeaks | secondSpeaks
deriving DecidableEq

def Accord.Holds (accord : Accord) (unknown first second : V) : Prop :=
  match accord with
  | .always => True
  | .equal => first = second
  | .firstSilent => first = unknown ∨ first = second
  | .secondSilent => second = unknown ∨ first = second
  | .eitherSilent => first = unknown ∨ second = unknown ∨ first = second
  | .firstSpeaks => first ≠ unknown ∨ second = unknown
  | .secondSpeaks => second ≠ unknown ∨ first = unknown

/-- The second is merged into the first by the one rule, the first into the
second by the other. -/
def accord : MergeRule → MergeRule → Accord
  | .keep, .keep | .take, .take => .equal
  | .keep, .take | .take, .keep | .put, .fill | .fill, .put => .always
  | .keep, .fill | .put, .take => .secondSilent
  | .fill, .keep | .take, .put => .firstSilent
  | .fill, .fill | .put, .put => .eitherSilent
  | .keep, .put | .fill, .take => .firstSpeaks
  | .put, .keep | .take, .fill => .secondSpeaks

/-- **When it does not matter which of two records is merged into the other.** -/
theorem apply_eq_iff (r s : MergeRule) (unknown a b : V) :
    r.apply unknown a b = s.apply unknown b a ↔ (accord r s).Holds unknown a b := by
  by_cases ha : a = unknown
  · by_cases hb : b = unknown
    · cases r <;> cases s <;> simp [apply, accord, Accord.Holds, ha, hb]
    · have hba : unknown ≠ b := fun h => hb h.symm
      cases r <;> cases s <;> simp [apply, accord, Accord.Holds, ha, hb, hba]
  · by_cases hb : b = unknown
    · have hab : unknown ≠ a := fun h => ha h.symm
      cases r <;> cases s <;> simp [apply, accord, Accord.Holds, ha, hb, hab]
    · cases r <;> cases s <;> simp [apply, accord, Accord.Holds, ha, hb, eq_comm]

/-- Filling flags is the same either way. -/
theorem fill_comm_bool (a b : Bool) : fill.apply false a b = fill.apply false b a := by
  cases a <;> cases b <;> rfl

end MergeRule

/-- `merged` is `old`, or what `new` says where `old` is unknown. -/
def FilledFrom {V : Type} (unknown old new merged : V) : Prop :=
  merged = old ∨ old = unknown ∧ merged = new

/-- The rules of the fields `F`: those a merge fills, puts, takes over, and
takes over under its condition. It keeps the others. -/
structure FieldRules (F : Type) where
  fill : List F := []
  put : List F := []
  take : List F := []
  takeIf : List F := []

namespace FieldRules

variable {F V : Type} [DecidableEq F] [DecidableEq V] {rules : FieldRules F} {cond : Bool} {f : F}
variable {unknown : V} {old new : F → V}

def rule (rules : FieldRules F) (cond : Bool) (f : F) : MergeRule :=
  if f ∈ rules.take then .take
  else if f ∈ rules.takeIf then if cond then .take else .keep
  else if f ∈ rules.put then .put
  else if f ∈ rules.fill then .fill
  else .keep

def merge (rules : FieldRules F) (cond : Bool) (unknown : V) (old new : F → V) (f : F) : V :=
  (rules.rule cond f).apply unknown (old f) (new f)

theorem merge_cases (rules : FieldRules F) (cond : Bool) (unknown : V) (old new : F → V) (f : F) :
    rules.merge cond unknown old new f = old f ∨ rules.merge cond unknown old new f = new f :=
  MergeRule.apply_cases _ _ _ _

theorem merge_merge (rules : FieldRules F) (cond : Bool) (unknown : V) (old new : F → V) :
    rules.merge cond unknown (rules.merge cond unknown old new) new =
      rules.merge cond unknown old new :=
  funext fun _ => MergeRule.apply_apply _ _ _ _

/-- A merge without rules. -/
theorem merge_nil (cond : Bool) (unknown : V) (old new : F → V) :
    merge {} cond unknown old new = old := rfl

/-- A field that is neither put nor taken over is kept, or filled. -/
theorem merge_of_fill (hput : f ∉ rules.put) (htake : f ∉ rules.take) (htakeIf : f ∉ rules.takeIf) :
    rules.merge cond unknown old new f = old f ∨
      f ∈ rules.fill ∧ old f = unknown ∧ rules.merge cond unknown old new f = new f := by
  unfold merge rule
  rw [if_neg htake, if_neg htakeIf, if_neg hput]
  by_cases hfill : f ∈ rules.fill
  · rw [if_pos hfill]
    unfold MergeRule.apply
    by_cases hold : old f = unknown ∧ new f ≠ unknown
    · exact .inr ⟨hfill, hold.1, if_pos hold⟩
    · exact .inl (if_neg hold)
  · rw [if_neg hfill]
    exact .inl rfl

theorem filledFrom (hput : f ∉ rules.put) (htake : f ∉ rules.take) (htakeIf : f ∉ rules.takeIf) :
    FilledFrom unknown (old f) (new f) (rules.merge cond unknown old new f) := by
  have h : rules.merge cond unknown old new f = old f ∨
      f ∈ rules.fill ∧ old f = unknown ∧ rules.merge cond unknown old new f = new f :=
    merge_of_fill hput htake htakeIf
  exact h.imp_right And.right

/-- A merge that only fills. -/
theorem filledFrom_of_nil (hput : rules.put = []) (htake : rules.take = []) (htakeIf : rules.takeIf = []) (f : F) :
    FilledFrom unknown (old f) (new f) (rules.merge cond unknown old new f) := by
  refine filledFrom ?_ ?_ ?_
  · rw [hput]
    exact List.not_mem_nil
  · rw [htake]
    exact List.not_mem_nil
  · rw [htakeIf]
    exact List.not_mem_nil

/-- A field that is neither filled nor taken over is kept, or the other record's where that speaks. -/
theorem merge_of_put (hfill : f ∉ rules.fill) (htake : f ∉ rules.take) (htakeIf : f ∉ rules.takeIf) :
    rules.merge cond unknown old new f = old f ∨
      new f ≠ unknown ∧ rules.merge cond unknown old new f = new f := by
  unfold merge rule
  rw [if_neg htake, if_neg htakeIf, if_neg hfill]
  by_cases hput : f ∈ rules.put
  · rw [if_pos hput]
    unfold MergeRule.apply
    by_cases hnew : new f ≠ unknown
    · exact .inr ⟨hnew, if_pos hnew⟩
    · exact .inl (if_neg hnew)
  · rw [if_neg hput]
    exact .inl rfl

/-- A merge that only fills changes nothing where there is nothing to fill, or to fill it from. -/
theorem merge_fixed (hput : rules.put = []) (htake : rules.take = []) (htakeIf : rules.takeIf = [])
    (h : ∀ f ∈ rules.fill, old f ≠ unknown ∨ new f = unknown) : rules.merge cond unknown old new = old := by
  funext f
  have hnone : f ∉ rules.put ∧ f ∉ rules.take ∧ f ∉ rules.takeIf := by
    rw [hput, htake, htakeIf]
    exact ⟨List.not_mem_nil, List.not_mem_nil, List.not_mem_nil⟩
  have hcases : rules.merge cond unknown old new f = old f ∨
      f ∈ rules.fill ∧ old f = unknown ∧ rules.merge cond unknown old new f = new f :=
    merge_of_fill hnone.1 hnone.2.1 hnone.2.2
  rcases hcases with hkeep | ⟨hmem, hold, hfilled⟩
  · exact hkeep
  · rw [hfilled, hold]
    exact (h f hmem).resolve_left (not_not.mpr hold)

/-- What is left to fill after a merge that only fills. -/
theorem merge_filled (hput : rules.put = []) (htake : rules.take = []) (htakeIf : rules.takeIf = [])
    (hf : f ∈ rules.fill) : rules.merge cond unknown old new f ≠ unknown ∨ new f = unknown := by
  unfold merge rule
  rw [htake, htakeIf, hput, if_neg List.not_mem_nil, if_neg List.not_mem_nil, if_neg List.not_mem_nil, if_pos hf]
  unfold MergeRule.apply
  by_cases hnew : new f = unknown
  · exact .inr hnew
  · left
    by_cases hold : old f = unknown
    · rw [if_pos ⟨hold, hnew⟩]
      exact hnew
    · rw [if_neg fun h => hold h.1]
      exact hold

theorem merge_eq_iff {rules' : FieldRules F} {cond' : Bool} :
    rules.merge cond unknown old new f = rules'.merge cond' unknown new old f ↔
      (MergeRule.accord (rules.rule cond f) (rules'.rule cond' f)).Holds unknown (old f) (new f) :=
  MergeRule.apply_eq_iff _ _ _ _ _

end FieldRules

/-- What a table has for a key stands in the table. -/
theorem mem_of_lookup {K V : Type} [BEq K] [LawfulBEq K] {k : K} {v : V} {table : List (K × V)}
    (h : table.lookup k = some v) : (k, v) ∈ table := by
  obtain ⟨l₁, l₂, rfl, -⟩ := List.lookup_eq_some_iff.mp h
  simp
