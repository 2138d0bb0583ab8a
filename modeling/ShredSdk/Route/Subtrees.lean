/-
# Subtrees and unknown depths

The cached ends of the backward pass against the scans they stand for
(`descendants` of `src/transaction_route.rs`), for any list of invocations.

Key definitions: `descendantsEnd`, `descendants`.
Key theorems: `cached_rows_eq_scans`.
-/
import ShredSdk.Route.Amounts

namespace ShredSdk
namespace Routes

/-! ### Exhaustive scans -/

/-- `invocations[k]` is no descendant of the parent. -/
def leaves (invocations : List Invocation) (parent : InstructionPosition) (k : ℕ) : Bool :=
  (invocations[k]?.map fun child => !descendant parent child.position).getD true

/-- The first place behind `index` that is no descendant of it. -/
def descendantsEnd (index : ℕ) (invocations : List Invocation) : ℕ :=
  match invocations[index]? with
  | none => invocations.length
  | some parent =>
    ((List.range' (index + 1) (invocations.length - (index + 1))).find?
      (leaves invocations parent.position)).getD invocations.length

def descendants (index : ℕ) (invocations : List Invocation) : List Invocation :=
  between invocations index (descendantsEnd index invocations)

section Scans

variable {keys : List Pubkey} {mints : Mints} {graduated : List Pubkey} {invocations : List Invocation}

/-- **The scan finds the end of the run.** -/
theorem descendantsEnd_eq {i stop : ℕ} (h : RunEnd Below invocations i stop) :
    descendantsEnd i invocations = stop := by
  have hlt := h.lt
  have hle := h.le
  obtain ⟨parent, hparent⟩ : ∃ parent, invocations[i]? = some parent :=
    ⟨_, List.getElem?_eq_getElem (by omega)⟩
  unfold descendantsEnd
  rw [hparent]
  simp only
  -- the places before the end, and those from it on
  have hsplit : List.range' (i + 1) (invocations.length - (i + 1)) =
      List.range' (i + 1) (stop - (i + 1)) ++ List.range' stop (invocations.length - stop) := by
    rw [show invocations.length - (i + 1) = stop - (i + 1) + (invocations.length - stop) by omega,
      ← List.range'_append_1, show i + 1 + (stop - (i + 1)) = stop by omega]
  have hinside : (List.range' (i + 1) (stop - (i + 1))).find? (leaves invocations parent.position) = none := by
    rw [List.find?_eq_none]
    intro k hk
    obtain ⟨hik, hks⟩ := List.mem_range'_1.mp hk
    obtain ⟨a, b, ha, hb, hab⟩ := h.inside k (by omega) (by omega)
    obtain rfl := Option.some.inj (hparent.symm.trans ha)
    simp only [leaves, hb, Option.map_some, Option.getD_some, Bool.not_eq_true', Bool.not_eq_false]
    exact hab
  rw [hsplit, List.find?_append, hinside, Option.none_or]
  rcases Nat.lt_or_ge stop invocations.length with hs | hs
  · obtain ⟨child, hchild⟩ : ∃ child, invocations[stop]? = some child := ⟨_, List.getElem?_eq_getElem hs⟩
    have hleaves : leaves invocations parent.position stop = true := by
      simp only [leaves, hchild, Option.map_some, Option.getD_some, Bool.not_eq_true']
      rw [← Bool.not_eq_true]
      exact fun hd => h.next ⟨parent, child, hparent, hchild, hd⟩
    rw [show invocations.length - stop = invocations.length - stop - 1 + 1 by omega, List.range'_succ,
      List.find?_cons_of_pos hleaves, Option.getD_some]
  · rw [show invocations.length - stop = 0 by omega]
    show invocations.length = stop
    omega

/-- No infrastructure program is a swap program. -/
theorem swap_of_skipRoute {ix : Invocation} (h : skipRoute ix = true) : swap ix keys mints graduated = none := by
  have hargs : swapArgs ix keys = none := by
    simp only [skipRoute, tokenProgram, decide_eq_true_eq] at h
    unfold swapArgs
    rcases h.2 with (hp | hp) | hp | hp | hp | hp <;> rw [hp] <;> rfl
  unfold swap
  rw [hargs]
  simp

theorem routeLeg_eq_swap (ix : Invocation) :
    routeLeg keys mints graduated ix = swap ix keys mints graduated := by
  unfold routeLeg
  split_ifs with h
  · exact (swap_of_skipRoute h).symm
  · rfl

/-- **The caches are the scans.** Of every list of invocations, each row holds
the end the scan finds and whether there is a transfer or a swap before it; the
jumped range of a leg is the scanned one. -/
theorem cached_rows_eq_scans (keys : List Pubkey) (mints : Mints) (graduated : List Pubkey)
    (invocations : List Invocation) :
    let rows := (invocationAnalysis keys mints graduated invocations).1
    rows.length = invocations.length ∧
      ∀ i row, rows[i]? = some row →
        row.descendantEnd = i + 1 + (descendants i invocations).length ∧
        row.hasTokenTransfers =
          (descendants i invocations).any (fun ix => (transfer ix keys mints).isSome) ∧
        row.hasKnownSwapDescendants =
          (descendants i invocations).any (fun ix => (swap ix keys mints graduated).isSome) ∧
        between invocations i row.descendantEnd = descendants i invocations ∧
        transfersBelow rows i row.descendantEnd =
          (descendants i invocations).filterMap fun ix => transfer ix keys mints := by
  intro rows
  have hrows : Decoded keys mints graduated invocations rows ∧ ∀ k row, rows[k]? = some row →
      FilledRow keys mints graduated invocations k row := invocationAnalysis_rows invocations
  obtain ⟨hd, hf⟩ := hrows
  refine ⟨hd.length, fun i row hrow => ?_⟩
  have hlt : i < invocations.length := hd.length ▸ (List.getElem?_eq_some_iff.mp hrow).1
  have hix : invocations[i]? = some invocations[i] := List.getElem?_eq_getElem hlt
  have hfill := hf i row hrow
  have hend := descendantsEnd_eq hfill.runEnd
  have hbetween : descendants i invocations = between invocations i row.descendantEnd := by
    unfold descendants
    rw [hend]
  have hstart := hfill.runEnd.lt
  have hstop := hfill.runEnd.le
  have hlen : (descendants i invocations).length = row.descendantEnd - (i + 1) := by
    rw [hbetween, between, List.length_take, List.length_drop]
    omega
  refine ⟨by omega, ?_, ?_, hbetween.symm, ?_⟩
  · rw [hbetween]
    exact hfill.transfers
  · rw [hbetween, hfill.swaps]
    simp only [routeLeg_eq_swap]
  · rw [transfersBelow_eq hd hix hfill, hfill.runBelow_eq hix, hbetween]

end Scans

end Routes
end ShredSdk
