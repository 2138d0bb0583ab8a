/-
# Steps that only append

A vector handed from step to step, where each step appends to it what does not
depend on what is in it. A run of such steps leaves what was there in front and
appends what it appends to nothing.

Key definitions: `Appends`.
Key theorems: `Appends.foldl`.
-/
import Mathlib.Tactic

namespace ShredSdk

variable {α β : Type*}

/-- `f` appends to a list what it makes of the empty one. -/
def Appends (f : List α → List α) : Prop := ∀ l, f l = l ++ f []

theorem appends_id : Appends fun l : List α => l := fun l => (List.append_nil l).symm

theorem appends_push (added : List α) : Appends fun l => l ++ added := by
  intro l
  show l ++ added = l ++ ([] ++ added)
  rw [List.nil_append]

theorem Appends.comp {f g : List α → List α} (hf : Appends f) (hg : Appends g) : Appends fun l => f (g l) := by
  intro l
  show f (g l) = l ++ f (g [])
  rw [hf (g l), hg l, hf (g []), List.append_assoc]

theorem Appends.ite {p : Prop} [Decidable p] {f g : List α → List α} (hf : Appends f) (hg : Appends g) :
    Appends fun l => if p then f l else g l := by
  intro l
  by_cases hp : p
  · simp only [if_pos hp]
    exact hf l
  · simp only [if_neg hp]
    exact hg l

/-- **A run of steps that append appends.** -/
theorem Appends.foldl {step : List α → β → List α} (h : ∀ b, Appends fun l => step l b) (bs : List β) :
    Appends fun l => bs.foldl step l := by
  induction bs with
  | nil => exact appends_id
  | cons b bs ih => exact ih.comp (h b)

end ShredSdk
