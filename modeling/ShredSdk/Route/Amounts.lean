/-
# Actual amounts are exact or absent

What the route analysis reports of each leg. The calls below an invocation are
the invocations behind it that are nested in it, up to the first that is not
(`callSubtree`); the backward pass finds their end, and the amounts of a leg
are the checked sums of the matching transfers among them.

Key definitions: `Nested`, `callSubtree`, `callTransfers`, `ExactAmounts`.
Key theorems: `invocationAnalysis_rows`, `legs_eq`, `unknownInvocations_eq`,
`withAmounts_exact`, `route_amounts_exact`.
-/
import ShredSdk.Route.Analysis

namespace ShredSdk
namespace Routes

/-! ### Calls below an invocation -/

def depth (position : InstructionPosition) : ℕ := position.stackHeight.getD 0

/-- The inner instructions of an outer one are nested in it; a later, deeper
inner instruction is nested in an earlier one. -/
def Nested (parent child : InstructionPosition) : Prop :=
  parent.outerIndex = child.outerIndex ∧ child.innerIndex.isSome ∧
    ∀ p ∈ parent.innerIndex, (∀ c ∈ child.innerIndex, p < c) ∧ depth parent < depth child

instance (parent child : InstructionPosition) : Decidable (Nested parent child) :=
  inferInstanceAs (Decidable (_ ∧ _ ∧ _))

/-- The calls below the invocation at place `i`: it has returned when one
follows that is not nested in it. -/
def callSubtree (invocations : List Invocation) (i : ℕ) : List Invocation :=
  match invocations[i]? with
  | none => []
  | some parent =>
    (invocations.drop (i + 1)).takeWhile fun child => Nested parent.position child.position

/-- The token transfers below the invocation at place `i`. -/
def callTransfers (keys : List Pubkey) (mints : Mints) (invocations : List Invocation) (i : ℕ) :
    List RouteTokenTransfer :=
  (callSubtree invocations i).filterMap fun ix => transfer ix keys mints

/-- With known heights the code's test is nesting. -/
theorem descendant_iff {parent child : InstructionPosition} (hp : parent.stackHeight.isSome)
    (hc : child.stackHeight.isSome) : descendant parent child = true ↔ Nested parent child := by
  obtain ⟨p, hp⟩ := Option.isSome_iff_exists.mp hp
  obtain ⟨c, hc⟩ := Option.isSome_iff_exists.mp hc
  unfold descendant Nested depth
  rw [hp, hc]
  by_cases ho : parent.outerIndex = child.outerIndex
  · rcases hpi : parent.innerIndex with _ | a <;> rcases hci : child.innerIndex with _ | b <;>
      simp [ho]
  · simp [ho]

/-- `descendant` between invocations. -/
def Below (parent child : Invocation) : Prop := descendant parent.position child.position = true

instance : DecidableRel Below := fun _ _ => inferInstanceAs (Decidable (_ = _))

theorem descendant_some {parent child : InstructionPosition} : descendant parent child = true ↔
    parent.outerIndex = child.outerIndex ∧ ∃ c, child.innerIndex = some c ∧
      ∀ p, parent.innerIndex = some p → p < c ∧
        ∃ a b, parent.stackHeight = some a ∧ child.stackHeight = some b ∧ a < b := by
  unfold descendant
  by_cases ho : parent.outerIndex = child.outerIndex
  · rw [if_neg (not_not.mpr ho)]
    rcases parent.innerIndex with _ | p <;> rcases child.innerIndex with _ | c
    · simp
    · simp [ho]
    · simp
    · rcases parent.stackHeight with _ | a <;> rcases child.stackHeight with _ | b <;> simp [ho]
  · simp [ho]

instance : IsTrans Invocation Below := by
  refine ⟨fun x y z hxy hyz => ?_⟩
  obtain ⟨ho, y', hy, hx⟩ := descendant_some.mp hxy
  obtain ⟨ho', z', hz, hy'⟩ := descendant_some.mp hyz
  refine descendant_some.mpr ⟨ho.trans ho', z', hz, fun p hp => ?_⟩
  obtain ⟨hlt, a, b, ha, hb, hab⟩ := hx p hp
  obtain ⟨hlt', b', c, hb', hc, hbc⟩ := hy' y' hy
  obtain rfl : b = b' := Option.some.inj (hb.symm.trans hb')
  exact ⟨lt_trans hlt hlt', a, c, ha, hc, lt_trans hab hbc⟩

/-! ### The rows -/

section Rows

variable {keys : List Pubkey} {mints : Mints} {graduated : List Pubkey} {invocations : List Invocation}

/-- What the forward pass writes in the row of an invocation, `legs` legs being before it. -/
structure DecodedRow (keys : List Pubkey) (mints : Mints) (graduated : List Pubkey) (legs : ℕ)
    (ix : Invocation) (row : InvocationAnalysis) : Prop where
  transfer : row.transfer = Routes.transfer ix keys mints
  swapIndex : row.swapIndex = (routeLeg keys mints graduated ix).map fun _ => legs
  skipRoute : row.skipRoute = Routes.skipRoute ix

/-- The legs of the first `i` invocations. -/
def legsBefore (keys : List Pubkey) (mints : Mints) (graduated : List Pubkey)
    (invocations : List Invocation) (i : ℕ) : List RouteSwapLeg :=
  (invocations.take i).filterMap (routeLeg keys mints graduated)

/-- The rows are those of the invocations. -/
structure Decoded (keys : List Pubkey) (mints : Mints) (graduated : List Pubkey)
    (invocations : List Invocation) (rows : List InvocationAnalysis) : Prop where
  length : rows.length = invocations.length
  row : ∀ k ix row, invocations[k]? = some ix → rows[k]? = some row →
    DecodedRow keys mints graduated (legsBefore keys mints graduated invocations k).length ix row

/-- What the backward pass writes: where the calls below end, and whether
there is a transfer or a swap among them. -/
structure FilledRow (keys : List Pubkey) (mints : Mints) (graduated : List Pubkey)
    (invocations : List Invocation) (k : ℕ) (row : InvocationAnalysis) : Prop where
  runEnd : RunEnd Below invocations k row.descendantEnd
  transfers : row.hasTokenTransfers =
    (between invocations k row.descendantEnd).any fun ix => (Routes.transfer ix keys mints).isSome
  swaps : row.hasKnownSwapDescendants =
    (between invocations k row.descendantEnd).any fun ix => (routeLeg keys mints graduated ix).isSome

theorem firstRows_legs : ∀ (i : ℕ) (ixs : List Invocation) (legs : List RouteSwapLeg),
    (firstRows keys mints graduated i ixs legs).2 = legs ++ ixs.filterMap (routeLeg keys mints graduated)
  | _, [], legs => by simp [firstRows]
  | i, ix :: ixs, legs => by
    simp only [firstRows, firstRows_legs (i + 1) ixs]
    rcases h : routeLeg keys mints graduated ix with _ | leg <;> simp [h]

theorem firstRows_length : ∀ (i : ℕ) (ixs : List Invocation) (legs : List RouteSwapLeg),
    (firstRows keys mints graduated i ixs legs).1.length = ixs.length
  | _, [], _ => rfl
  | i, _ :: ixs, _ => by simp [firstRows, firstRows_length (i + 1) ixs]

theorem firstRows_row : ∀ (i : ℕ) (ixs : List Invocation) (legs : List RouteSwapLeg) (k : ℕ)
    (ix : Invocation) (row : InvocationAnalysis), ixs[k]? = some ix →
    (firstRows keys mints graduated i ixs legs).1[k]? = some row →
      DecodedRow keys mints graduated (legs.length + (legsBefore keys mints graduated ixs k).length) ix row
  | _, [], _, _, _, _, h, _ => by simp at h
  | _, ix :: ixs, legs, 0, ix', row, h, hrow => by
    obtain rfl : ix = ix' := by simpa using h
    simp only [firstRows, List.getElem?_cons_zero, Option.some.injEq] at hrow
    subst hrow
    exact ⟨rfl, by simp [legsBefore], rfl⟩
  | i, ix :: ixs, legs, k + 1, ix', row, h, hrow => by
    simp only [firstRows, List.getElem?_cons_succ] at h hrow
    have ih := firstRows_row (i + 1) ixs _ k ix' row h hrow
    have hlen : (legs ++ (routeLeg keys mints graduated ix).toList).length +
        (legsBefore keys mints graduated ixs k).length =
          legs.length + (legsBefore keys mints graduated (ix :: ixs) (k + 1)).length := by
      rcases hl : routeLeg keys mints graduated ix with _ | leg
      · simp [legsBefore, hl]
      · simp only [legsBefore, List.take_succ_cons, List.filterMap_cons_some hl, List.length_append,
          Option.toList_some, List.length_cons, List.length_nil]
        omega
    rwa [hlen] at ih

theorem firstRows_decoded (invocations : List Invocation) :
    Decoded keys mints graduated invocations (firstRows keys mints graduated 0 invocations []).1 := by
  refine ⟨firstRows_length 0 invocations [], fun k ix row hix hrow => ?_⟩
  have h := firstRows_row 0 invocations [] k ix row hix hrow
  rwa [List.length_nil, Nat.zero_add] at h

theorem Decoded.exists_row {rows : List InvocationAnalysis}
    (h : Decoded keys mints graduated invocations rows) {k : ℕ} {ix : Invocation}
    (hix : invocations[k]? = some ix) : ∃ row, rows[k]? = some row := by
  have hlt := (List.getElem?_eq_some_iff.mp hix).1
  exact ⟨_, List.getElem?_eq_getElem (h.length ▸ hlt)⟩

/-- **A scan that starts within the calls below an invocation finds their
end**, when the rows of all later invocations are filled. -/
theorem descend_spec {rows : List InvocationAnalysis} (hd : Decoded keys mints graduated invocations rows)
    {i : ℕ} {ix : Invocation} (hix : invocations[i]? = some ix)
    (hfilled : ∀ k row, i < k → rows[k]? = some row → FilledRow keys mints graduated invocations k row) :
    ∀ (fuel : ℕ) (scan : Scan), invocations.length < fuel + scan.stop →
      RelatedTo Below invocations i scan.stop →
      scan.hasTransfers =
        (between invocations i scan.stop).any (fun ix => (transfer ix keys mints).isSome) →
      scan.hasSwaps =
        (between invocations i scan.stop).any (fun ix => (routeLeg keys mints graduated ix).isSome) →
      ∀ result, result = descend invocations rows ix.position fuel scan →
        RunEnd Below invocations i result.stop ∧
          result.hasTransfers =
            (between invocations i result.stop).any (fun ix => (transfer ix keys mints).isSome) ∧
          result.hasSwaps =
            (between invocations i result.stop).any (fun ix => (routeLeg keys mints graduated ix).isSome)
  | 0, scan, hfuel, hrel, _, _, _, _ => by
    have hle := hrel.le
    omega
  | fuel + 1, scan, hfuel, hrel, ht, hs, result, hresult => by
    unfold descend at hresult
    rcases hstop : invocations[scan.stop]? with _ | child
    · -- the end of the list
      rw [hstop] at hresult
      subst hresult
      refine ⟨⟨hrel, fun hr => ?_⟩, ht, hs⟩
      have hlt := hr.lt_length
      have hge := List.getElem?_eq_none_iff.mp hstop
      omega
    · obtain ⟨row, hrow⟩ := hd.exists_row hstop
      rw [hstop, hrow] at hresult
      simp only at hresult
      have hrowD := hd.row _ _ _ hstop hrow
      by_cases hbelow : descendant ix.position child.position = true
      · -- the scan passes the child
        rw [if_pos hbelow] at hresult
        have hf := hfilled _ _ hrel.lt hrow
        have hat : RelatedAt Below invocations i scan.stop := ⟨ix, child, hix, hstop, hbelow⟩
        have hlt := hf.runEnd.lt
        have hjump : between invocations i row.descendantEnd =
            between invocations i scan.stop ++ child :: between invocations scan.stop row.descendantEnd :=
          between_jump hrel.lt hstop hlt
        refine descend_spec hd hix hfilled fuel (scan.pass row) ?_ (hrel.jump hat hf.runEnd.toRelatedTo)
          ?_ ?_ result hresult
        · simp only [Scan.pass]
          omega
        · simp only [Scan.pass, hjump, List.any_append, List.any_cons, ht, hf.transfers, hrowD.transfer]
        · simp only [Scan.pass, hjump, List.any_append, List.any_cons, hs, hf.swaps, hrowD.swapIndex,
            Option.isSome_map]
      · rw [if_neg hbelow] at hresult
        subst hresult
        refine ⟨⟨hrel, ?_⟩, ht, hs⟩
        rintro ⟨a, b, ha, hb, hab⟩
        obtain rfl := Option.some.inj (hix.symm.trans ha)
        obtain rfl := Option.some.inj (hstop.symm.trans hb)
        exact hbelow hab

theorem fillRow_filled {rows : List InvocationAnalysis} (hd : Decoded keys mints graduated invocations rows)
    {i : ℕ} {ix : Invocation} (hix : invocations[i]? = some ix)
    (hfilled : ∀ k row, i < k → rows[k]? = some row → FilledRow keys mints graduated invocations k row)
    (row : InvocationAnalysis) :
    FilledRow keys mints graduated invocations i (fillRow invocations rows i ix row) := by
  have hlt := (List.getElem?_eq_some_iff.mp hix).1
  have hstart : RelatedTo Below invocations i (i + 1) := RelatedTo.start hlt
  obtain ⟨hend, ht, hs⟩ := descend_spec hd hix hfilled invocations.length ⟨i + 1, false, false⟩
    (by simp only; omega) hstart (by simp [between_succ]) (by simp [between_succ]) _ rfl
  exact ⟨hend, ht, hs⟩

/-- **The backward pass fills every row.** -/
theorem fillRows_spec : ∀ (i : ℕ) (rows : List InvocationAnalysis),
    Decoded keys mints graduated invocations rows →
    (∀ k row, i ≤ k → rows[k]? = some row → FilledRow keys mints graduated invocations k row) →
      Decoded keys mints graduated invocations (fillRows invocations i rows) ∧
        ∀ k row, (fillRows invocations i rows)[k]? = some row →
          FilledRow keys mints graduated invocations k row
  | 0, rows, hd, hf => ⟨hd, fun k row hrow => hf k row (Nat.zero_le k) hrow⟩
  | i + 1, rows, hd, hf => by
    unfold fillRows
    rcases hix : invocations[i]? with _ | ix
    · -- no such invocation, and so no row
      refine fillRows_spec i rows hd fun k row hk hrow => ?_
      have hge := List.getElem?_eq_none_iff.mp hix
      have hlt := (List.getElem?_eq_some_iff.mp hrow).1
      have hlen := hd.length
      exact hf k row (by omega) hrow
    · obtain ⟨row, hrow⟩ := hd.exists_row hix
      simp only [hrow]
      have hlt := (List.getElem?_eq_some_iff.mp hrow).1
      have hrowD := hd.row i ix row hix hrow
      refine fillRows_spec i _ ⟨by rw [List.length_set]; exact hd.length, ?_⟩ ?_
      · intro k ix' row' hix' hrow'
        by_cases hk : i = k
        · subst hk
          obtain rfl := Option.some.inj (hix.symm.trans hix')
          rw [List.getElem?_set_self hlt] at hrow'
          obtain rfl := Option.some.inj hrow'
          exact ⟨hrowD.transfer, hrowD.swapIndex, hrowD.skipRoute⟩
        · rw [List.getElem?_set_ne hk] at hrow'
          exact hd.row k ix' row' hix' hrow'
      · intro k row' hk hrow'
        by_cases hki : i = k
        · subst hki
          rw [List.getElem?_set_self hlt] at hrow'
          obtain rfl := Option.some.inj hrow'
          exact fillRow_filled hd hix (fun k row hk hrow => hf k row hk hrow) row
        · rw [List.getElem?_set_ne hki] at hrow'
          exact hf k row' (by omega) hrow'

/-- **The rows of the analysis are decoded and filled.** -/
theorem invocationAnalysis_rows (invocations : List Invocation) :
    Decoded keys mints graduated invocations (invocationAnalysis keys mints graduated invocations).1 ∧
      ∀ k row, (invocationAnalysis keys mints graduated invocations).1[k]? = some row →
        FilledRow keys mints graduated invocations k row := by
  refine fillRows_spec invocations.length _ (firstRows_decoded invocations) fun k row hk hrow => ?_
  have hlt := (List.getElem?_eq_some_iff.mp hrow).1
  rw [firstRows_length] at hlt
  omega

theorem invocationAnalysis_legs (invocations : List Invocation) :
    (invocationAnalysis keys mints graduated invocations).2 =
      invocations.filterMap (routeLeg keys mints graduated) := firstRows_legs 0 invocations []

theorem Decoded.transfers {rows : List InvocationAnalysis}
    (hd : Decoded keys mints graduated invocations rows) :
    rows.map (·.transfer) = invocations.map fun ix => transfer ix keys mints := by
  apply List.ext_getElem?
  intro k
  rw [List.getElem?_map, List.getElem?_map]
  rcases hix : invocations[k]? with _ | ix
  · have hge := List.getElem?_eq_none_iff.mp hix
    rw [List.getElem?_eq_none (hd.length ▸ hge)]
    rfl
  · obtain ⟨row, hrow⟩ := hd.exists_row hix
    rw [hrow]
    exact congrArg some (hd.row k ix row hix hrow).transfer

/-- The invocations of the run behind place `i`. -/
def runBelow (invocations : List Invocation) (i : ℕ) : List Invocation :=
  match invocations[i]? with
  | none => []
  | some parent => (invocations.drop (i + 1)).takeWhile fun child => Below parent child

theorem FilledRow.runBelow_eq {k : ℕ} {row : InvocationAnalysis} {ix : Invocation}
    (h : FilledRow keys mints graduated invocations k row) (hix : invocations[k]? = some ix) :
    runBelow invocations k = between invocations k row.descendantEnd := by
  unfold runBelow
  rw [hix]
  exact h.runEnd.takeWhile_eq hix

theorem filterMap_eq_of_map {α β γ : Type*} {f : α → Option γ} {g : β → Option γ} {xs : List α} {ys : List β}
    (h : xs.map f = ys.map g) : xs.filterMap f = ys.filterMap g := by
  have := congrArg (List.filterMap id) h
  simpa [List.filterMap_map] using this

/-- The transfers of the cached range are those of the run. -/
theorem transfersBelow_eq {rows : List InvocationAnalysis} (hd : Decoded keys mints graduated invocations rows)
    {k : ℕ} {row : InvocationAnalysis} {ix : Invocation} (hix : invocations[k]? = some ix)
    (hf : FilledRow keys mints graduated invocations k row) :
    transfersBelow rows k row.descendantEnd =
      (runBelow invocations k).filterMap fun ix => transfer ix keys mints := by
  unfold transfersBelow
  rw [hf.runBelow_eq hix]
  apply filterMap_eq_of_map
  rw [map_between, map_between, hd.transfers]

/-! ### Legs and unknown invocations -/

/-- The leg of the invocation at a place, its amounts taken from the run behind it. -/
def placedLeg (succeeded : Bool) (keys : List Pubkey) (mints : Mints) (graduated : List Pubkey)
    (invocations : List Invocation) (p : Invocation × ℕ) : Option RouteSwapLeg :=
  (routeLeg keys mints graduated p.1).map fun leg =>
    if succeeded then
      withAmounts leg ((runBelow invocations p.2).filterMap fun ix => transfer ix keys mints)
    else leg

/-- What is kept of an invocation that is neither infrastructure nor a leg. -/
def placedUnknown (keys : List Pubkey) (mints : Mints) (graduated : List Pubkey)
    (invocations : List Invocation) (p : Invocation × ℕ) : Option RouteUnknownInvocation :=
  if skipRoute p.1 ∨ (routeLeg keys mints graduated p.1).isSome then none
  else
    some
      { position := p.1.position
        program := p.1.program
        hasTokenTransfers := (runBelow invocations p.2).any fun ix => (transfer ix keys mints).isSome
        hasKnownSwapDescendants :=
          (runBelow invocations p.2).any fun ix => (routeLeg keys mints graduated ix).isSome }

theorem routeLeg_skip {ix : Invocation} (h : skipRoute ix = true) : routeLeg keys mints graduated ix = none := by
  simp [routeLeg, h]

theorem modify_length {α : Type*} (f : α → α) (a : α) (todo : List α) : ∀ done : List α,
    (done ++ a :: todo).modify done.length f = done ++ f a :: todo
  | [] => rfl
  | b :: done => congrArg (b :: ·) (modify_length f a todo done)

/-- One round turns the next leg into the reported one, or adds the unknown
invocation. -/
theorem attributeOne_spec {succeeded : Bool} {rows : List InvocationAnalysis}
    (hd : Decoded keys mints graduated invocations rows)
    (hf : ∀ k row, rows[k]? = some row → FilledRow keys mints graduated invocations k row) {i : ℕ}
    {ix : Invocation} {row : InvocationAnalysis} (hix : invocations[i]? = some ix) (hrow : rows[i]? = some row)
    {done todo : List RouteSwapLeg} (hdone : done.length = (legsBefore keys mints graduated invocations i).length)
    (unknown : List RouteUnknownInvocation) :
    attributeOne succeeded rows i ix row (done ++ ((routeLeg keys mints graduated ix).toList ++ todo)) unknown =
      ((done ++ (placedLeg succeeded keys mints graduated invocations (ix, i)).toList) ++ todo,
        unknown ++ (placedUnknown keys mints graduated invocations (ix, i)).toList) := by
  have hrowD := hd.row i ix row hix hrow
  have hrowF := hf i row hrow
  unfold attributeOne placedLeg placedUnknown
  rw [hrowD.skipRoute, hrowD.swapIndex]
  by_cases hskip : skipRoute ix = true
  · simp [hskip, routeLeg_skip hskip]
  · rw [if_neg hskip]
    rcases hleg : routeLeg keys mints graduated ix with _ | leg
    · simp [hskip, hrowF.transfers, hrowF.swaps, hrowF.runBelow_eq hix]
    · simp only [Option.map_some, Option.isSome_some, or_true, if_true, Option.toList_none, List.append_nil,
        Option.toList_some, Prod.mk.injEq, and_true, transfersBelow_eq hd hix hrowF, ← hdone]
      rcases succeeded with _ | _
      · simp
      · simp [modify_length]

theorem attributeFrom_spec {succeeded : Bool} {rows : List InvocationAnalysis}
    (hd : Decoded keys mints graduated invocations rows)
    (hf : ∀ k row, rows[k]? = some row → FilledRow keys mints graduated invocations k row) :
    ∀ (i : ℕ) (rest : List Invocation) (done : List RouteSwapLeg) (unknown : List RouteUnknownInvocation),
      invocations.drop i = rest →
      done.length = (legsBefore keys mints graduated invocations i).length →
      attributeFrom succeeded rows i rest (done ++ rest.filterMap (routeLeg keys mints graduated)) unknown =
        (done ++ (rest.zipIdx i).filterMap (placedLeg succeeded keys mints graduated invocations),
          unknown ++ (rest.zipIdx i).filterMap (placedUnknown keys mints graduated invocations))
  | i, [], done, unknown, _, _ => by simp [attributeFrom]
  | i, ix :: rest, done, unknown, hrest, hdone => by
    have hix : invocations[i]? = some ix := by
      rw [← Nat.add_zero i, ← List.getElem?_drop, hrest]
      rfl
    have hnext : invocations.drop (i + 1) = rest := by
      rw [← List.drop_drop, hrest]
      rfl
    obtain ⟨row, hrow⟩ := hd.exists_row hix
    have hlegs : (ix :: rest).filterMap (routeLeg keys mints graduated) =
        (routeLeg keys mints graduated ix).toList ++ rest.filterMap (routeLeg keys mints graduated) := by
      rcases hleg : routeLeg keys mints graduated ix with _ | leg <;> simp [hleg]
    have hlen : (done ++ (placedLeg succeeded keys mints graduated invocations (ix, i)).toList).length =
        (legsBefore keys mints graduated invocations (i + 1)).length := by
      unfold legsBefore at hdone ⊢
      rw [List.take_add_one, hix, List.filterMap_append, List.length_append, List.length_append, hdone]
      rcases hleg : routeLeg keys mints graduated ix with _ | leg <;> simp [placedLeg, hleg]
    unfold attributeFrom
    rw [hrow, hlegs]
    simp only [attributeOne_spec hd hf hix hrow hdone]
    rw [attributeFrom_spec hd hf (i + 1) rest _ _ hnext hlen, List.zipIdx_cons]
    rcases hp : placedLeg succeeded keys mints graduated invocations (ix, i) with _ | leg <;>
      rcases hu : placedUnknown keys mints graduated invocations (ix, i) with _ | u <;> simp [hp, hu]

/-- The reported legs, and the unknown invocations, place by place. -/
theorem attribute_eq (succeeded : Bool) (invocations : List Invocation) :
    attributeFrom succeeded (invocationAnalysis keys mints graduated invocations).1 0 invocations
        (invocationAnalysis keys mints graduated invocations).2 [] =
      (invocations.zipIdx.filterMap (placedLeg succeeded keys mints graduated invocations),
        invocations.zipIdx.filterMap (placedUnknown keys mints graduated invocations)) := by
  have hrows : Decoded keys mints graduated invocations _ ∧ _ := invocationAnalysis_rows invocations
  obtain ⟨hd, hf⟩ := hrows
  rw [invocationAnalysis_legs]
  exact attributeFrom_spec hd hf 0 invocations [] [] rfl rfl

/-- With known heights the run behind an invocation is its call subtree. -/
theorem runBelow_eq_callSubtree (known : ∀ ix ∈ invocations, ix.position.stackHeight.isSome) (i : ℕ) :
    runBelow invocations i = callSubtree invocations i := by
  unfold runBelow callSubtree
  rcases hix : invocations[i]? with _ | parent
  · rfl
  · have hp := known parent (List.mem_of_getElem? hix)
    refine takeWhile_congr fun child hmem => ?_
    have hc := known child (List.mem_of_mem_drop hmem)
    exact decide_eq_decide.mpr (descendant_iff hp hc)

end Rows

/-! ### Amounts -/

/-- The transfers out of the leg's input account. -/
def spent (leg : RouteSwapLeg) (below : List RouteTokenTransfer) : List RouteTokenTransfer :=
  below.filter fun transfer => transfer.source = leg.inputAccount

/-- The transfers into the leg's output account. -/
def received (leg : RouteSwapLeg) (below : List RouteTokenTransfer) : List RouteTokenTransfer :=
  below.filter fun transfer => transfer.destination = leg.outputAccount

def FeeCovered (transfer : RouteTokenTransfer) : Prop :=
  ∃ fee, transfer.withheldFee = some fee ∧ fee ≤ transfer.amount

def netAmount (transfer : RouteTokenTransfer) : ℕ := transfer.amount - transfer.withheldFee.getD 0

/-- The amounts of a leg are those of the transfers below it, or absent. -/
structure ExactAmounts (succeeded : Prop) (below : List RouteTokenTransfer) (leg : RouteSwapLeg) : Prop where
  input : ∀ v, leg.actualInputAmount = some v ↔
    succeeded ∧ spent leg below ≠ [] ∧ ((spent leg below).map (·.amount)).sum < 2 ^ 64 ∧
      v = ((spent leg below).map (·.amount)).sum
  output : ∀ v, leg.actualOutputAmount = some v ↔
    succeeded ∧ received leg below ≠ [] ∧ (∀ transfer ∈ received leg below, FeeCovered transfer) ∧
      ((received leg below).map netAmount).sum < 2 ^ 64 ∧
      v = ((received leg below).map netAmount).sum

theorem credit_eq_some {transfer : RouteTokenTransfer} {n : ℕ} : credit transfer = some n ↔
    FeeCovered transfer ∧ n = netAmount transfer := by
  unfold credit FeeCovered netAmount
  rcases transfer.withheldFee with _ | fee
  · simp
  · simp [checkedSub_eq_some]

theorem foldl_add (leg : RouteSwapLeg) : ∀ (below : List RouteTokenTransfer) (sums : Sums),
    below.foldl (Sums.add leg) sums =
      { inputSum := ((spent leg below).map fun t => some t.amount).foldl (addPart 64) sums.inputSum
        outputSum := ((received leg below).map credit).foldl (addPart 64) sums.outputSum
        hasInput := sums.hasInput || !(spent leg below).isEmpty
        hasOutput := sums.hasOutput || !(received leg below).isEmpty }
  | [], sums => by simp [spent, received]
  | t :: below, sums => by
    rw [List.foldl_cons, foldl_add leg below]
    unfold spent received Sums.add Sums.addInput Sums.addOutput
    by_cases hs : t.source = leg.inputAccount <;> by_cases hd : t.destination = leg.outputAccount <;>
      simp [hs, hd]

/-- A sum that is reported only when something was added. -/
theorem reported_iff {sum : Option ℕ} {ts : List RouteTokenTransfer} {v : ℕ} :
    (if (false || !ts.isEmpty) = true then sum else none) = some v ↔ ts ≠ [] ∧ sum = some v := by
  cases ts with
  | nil => simp
  | cons t ts => simp

theorem withAmounts_input (leg : RouteSwapLeg) (below : List RouteTokenTransfer) (v : ℕ) :
    (withAmounts leg below).actualInputAmount = some v ↔
      spent leg below ≠ [] ∧ ((spent leg below).map (·.amount)).sum < 2 ^ 64 ∧
        v = ((spent leg below).map (·.amount)).sum := by
  have hamount : ∀ (t : RouteTokenTransfer) (n : ℕ), some t.amount = some n ↔ True ∧ n = t.amount :=
    fun t n => by simp [eq_comm]
  have hadd := checkedSum_map (w := 64) (v := v) hamount (spent leg below)
  unfold withAmounts
  rw [foldl_add]
  simp only [reported_iff]
  apply and_congr_right
  intro _
  rw [checkedSum] at hadd
  rw [hadd]
  exact and_iff_right fun _ _ => trivial

theorem withAmounts_output (leg : RouteSwapLeg) (below : List RouteTokenTransfer) (v : ℕ) :
    (withAmounts leg below).actualOutputAmount = some v ↔
      received leg below ≠ [] ∧ (∀ transfer ∈ received leg below, FeeCovered transfer) ∧
        ((received leg below).map netAmount).sum < 2 ^ 64 ∧
        v = ((received leg below).map netAmount).sum := by
  have hcredit : ∀ t n, credit t = some n ↔ FeeCovered t ∧ n = netAmount t := fun _ _ => credit_eq_some
  have hadd := checkedSum_map (w := 64) (v := v) hcredit (received leg below)
  unfold withAmounts
  rw [foldl_add]
  simp only [reported_iff]
  apply and_congr_right
  intro _
  rw [checkedSum] at hadd
  exact hadd

/-- **The loop of a leg adds up what was spent and what was received.** -/
theorem withAmounts_exact (leg : RouteSwapLeg) (below : List RouteTokenTransfer) :
    ExactAmounts True below (withAmounts leg below) :=
  ⟨fun v => (withAmounts_input leg below v).trans (iff_of_eq (true_and _)).symm,
    fun v => (withAmounts_output leg below v).trans (iff_of_eq (true_and _)).symm⟩

/-- The leg without its actual amounts. -/
def clearAmounts (leg : RouteSwapLeg) : RouteSwapLeg :=
  { leg with actualInputAmount := none, actualOutputAmount := none }

theorem swap_clearAmounts {ix : Invocation} {keys : List Pubkey} {mints : Mints} {graduated : List Pubkey}
    {leg : RouteSwapLeg} (h : swap ix keys mints graduated = some leg) : clearAmounts leg = leg := by
  unfold swap at h
  split_ifs at h
  obtain ⟨args, -, rfl⟩ := Option.map_eq_some_iff.mp h
  rfl

/-- Without success nothing is reported. -/
theorem clearAmounts_exact (leg : RouteSwapLeg) (below : List RouteTokenTransfer) :
    ExactAmounts False below (clearAmounts leg) := by
  constructor <;> intro v <;> simp [clearAmounts]

/-! ### Routes -/

section Routed

variable (parsePubkey : String → Option Pubkey) (transaction : Transaction) (meta' : TransactionStatusMeta)
  (graduated : List Pubkey)

/-- The invocations of a transaction, under its own keys. -/
def invocationsOf : List Invocation := transactionInvocations transaction meta' (transactionKeys transaction meta')

def mintsOf : Mints :=
  tokenMintsFromInvocations parsePubkey meta' (transactionKeys transaction meta') (invocationsOf transaction meta')

/-- The invocations that are not infrastructure, with their places. -/
def routed : List (Invocation × ℕ) :=
  (invocationsOf transaction meta').zipIdx.filter fun p => !skipRoute p.1

/-- What `swap` decodes the invocation to. -/
def decodedLeg (ix : Invocation) : Option RouteSwapLeg :=
  swap ix (transactionKeys transaction meta') (mintsOf parsePubkey transaction meta') graduated

/-- **What a route says of a transaction.** Each invocation that is not
infrastructure is a leg or an unknown invocation, in execution order; the legs
are what was decoded, with exact amounts or none. -/
structure ExactRoute (route : TransactionRoute) : Prop where
  legs : List.Forall₂
    (fun p leg => decodedLeg parsePubkey transaction meta' graduated p.1 = some (clearAmounts leg) ∧
      ExactAmounts (meta'.err = none)
        (callTransfers (transactionKeys transaction meta') (mintsOf parsePubkey transaction meta')
          (invocationsOf transaction meta') p.2) leg)
    ((routed transaction meta').filter fun p =>
      (decodedLeg parsePubkey transaction meta' graduated p.1).isSome)
    route.legs
  unknown : List.Forall₂ (fun p u => u.position = p.1.position ∧ u.program = p.1.program)
    ((routed transaction meta').filter fun p =>
      !(decodedLeg parsePubkey transaction meta' graduated p.1).isSome)
    route.unknownInvocations

variable {parsePubkey transaction meta' graduated}

theorem forall₂_filterMap {α β : Type*} {f : α → Option β} {p : α → Bool} {R : α → β → Prop} :
    ∀ {xs : List α}, (∀ x ∈ xs, (f x).isSome = p x) → (∀ x ∈ xs, ∀ y, f x = some y → R x y) →
      List.Forall₂ R (xs.filter p) (xs.filterMap f)
  | [], _, _ => List.Forall₂.nil
  | x :: xs, hp, hR => by
    have ih : List.Forall₂ R (xs.filter p) (xs.filterMap f) :=
      forall₂_filterMap (fun y hy => hp y (List.mem_cons_of_mem x hy))
        fun y hy => hR y (List.mem_cons_of_mem x hy)
    have hx := hp x (List.mem_cons_self ..)
    rcases hf : f x with _ | y
    · rw [hf] at hx
      rwa [List.filterMap_cons_none hf, List.filter_cons_of_neg (by simp [← hx])]
    · rw [hf] at hx
      rw [List.filterMap_cons_some hf, List.filter_cons_of_pos (by simp [← hx])]
      exact List.Forall₂.cons (hR x (List.mem_cons_self ..) y hf) ih

theorem routeLeg_eq (ix : Invocation) :
    routeLeg (transactionKeys transaction meta') (mintsOf parsePubkey transaction meta') graduated ix =
      if skipRoute ix then none else decodedLeg parsePubkey transaction meta' graduated ix := rfl

theorem analyze_legs :
    (analyzeYellowstoneTransactionRoutes parsePubkey transaction meta' graduated).legs =
      (invocationsOf transaction meta').zipIdx.filterMap
        (placedLeg meta'.err.isNone (transactionKeys transaction meta')
          (mintsOf parsePubkey transaction meta') graduated (invocationsOf transaction meta')) :=
  congrArg Prod.fst (attribute_eq _ _)

theorem analyze_unknown :
    (analyzeYellowstoneTransactionRoutes parsePubkey transaction meta' graduated).unknownInvocations =
      (invocationsOf transaction meta').zipIdx.filterMap
        (placedUnknown (transactionKeys transaction meta')
          (mintsOf parsePubkey transaction meta') graduated (invocationsOf transaction meta')) :=
  congrArg Prod.snd (attribute_eq _ _)

/-- A reported leg is the decoded one with exact amounts. -/
theorem placedLeg_exact {p : Invocation × ℕ} {leg : RouteSwapLeg} {keys : List Pubkey} {mints : Mints}
    {invocations : List Invocation} (known : ∀ ix ∈ invocations, ix.position.stackHeight.isSome)
    (h : placedLeg meta'.err.isNone keys mints graduated invocations p = some leg) :
    swap p.1 keys mints graduated = some (clearAmounts leg) ∧
      ExactAmounts (meta'.err = none) (callTransfers keys mints invocations p.2) leg := by
  obtain ⟨decoded, hleg, rfl⟩ := Option.map_eq_some_iff.mp h
  unfold routeLeg at hleg
  split_ifs at hleg
  have hclear := swap_clearAmounts hleg
  have hbelow : callTransfers keys mints invocations p.2 =
      (runBelow invocations p.2).filterMap fun ix => transfer ix keys mints := by
    unfold callTransfers
    rw [runBelow_eq_callSubtree known]
  rw [hbelow]
  rcases herr : meta'.err with _ | err
  · simp only [Option.isNone_none, if_true]
    exact ⟨hleg.trans (congrArg some hclear.symm), by simpa using withAmounts_exact decoded _⟩
  · simp only [Option.isNone_some, Bool.false_eq_true, if_false, reduceCtorEq]
    rw [hclear]
    refine ⟨hleg, ?_⟩
    rw [← hclear]
    exact clearAmounts_exact decoded _

/-- **A failed transaction has the same legs, without amounts.** -/
theorem failed_legs (err : Bytes) :
    (analyzeYellowstoneTransactionRoutes parsePubkey transaction { meta' with err := some err } graduated).legs =
      (analyzeYellowstoneTransactionRoutes parsePubkey transaction
        { meta' with err := none } graduated).legs.map clearAmounts := by
  rw [analyze_legs, analyze_legs, List.map_filterMap]
  apply congrArg (fun f => List.filterMap f _)
  funext p
  unfold placedLeg
  rw [Option.map_map]
  rcases hleg : routeLeg (transactionKeys transaction { meta' with err := some err })
      (mintsOf parsePubkey transaction { meta' with err := some err }) graduated p.1 with _ | decoded
  · have hleg' : routeLeg (transactionKeys transaction { meta' with err := none })
        (mintsOf parsePubkey transaction { meta' with err := none }) graduated p.1 = none := hleg
    rw [hleg']
    rfl
  · have hleg' : routeLeg (transactionKeys transaction { meta' with err := none })
        (mintsOf parsePubkey transaction { meta' with err := none }) graduated p.1 = some decoded := hleg
    rw [hleg']
    unfold routeLeg at hleg
    split_ifs at hleg
    exact congrArg some (swap_clearAmounts hleg).symm

/-- **Actual amounts are exact or absent**, in every transaction whose stack
heights are all known; every invocation that is not infrastructure appears
once, in execution order; and a failed transaction has the same legs without
amounts. -/
theorem route_amounts_exact (parsePubkey : String → Option Pubkey) (transaction : Transaction)
    (meta' : TransactionStatusMeta) (graduated : List Pubkey)
    (known : ∀ ix ∈ invocationsOf transaction meta', ix.position.stackHeight.isSome) :
    ExactRoute parsePubkey transaction meta' graduated
        (analyzeYellowstoneTransactionRoutes parsePubkey transaction meta' graduated) ∧
      ∀ err, (analyzeYellowstoneTransactionRoutes parsePubkey transaction
          { meta' with err := some err } graduated).legs =
        (analyzeYellowstoneTransactionRoutes parsePubkey transaction
          { meta' with err := none } graduated).legs.map clearAmounts := by
  refine ⟨⟨?_, ?_⟩, failed_legs⟩
  · rw [analyze_legs, routed, List.filter_filter]
    apply forall₂_filterMap
    · intro p _
      unfold placedLeg
      rw [Option.isSome_map, routeLeg_eq]
      by_cases hskip : skipRoute p.1 = true <;> simp [hskip]
    · intro p _ leg hleg
      exact placedLeg_exact known hleg
  · rw [analyze_unknown, routed, List.filter_filter]
    apply forall₂_filterMap
    · intro p _
      unfold placedUnknown
      rw [routeLeg_eq]
      by_cases hskip : skipRoute p.1 = true
      · simp [hskip]
      · rcases hleg : decodedLeg parsePubkey transaction meta' graduated p.1 with _ | leg <;> simp [hskip]
    · intro p _ u hu
      unfold placedUnknown at hu
      split_ifs at hu
      obtain rfl := Option.some.inj hu
      exact ⟨rfl, rfl⟩

end Routed

/-! ### A CPMM swap -/

/-- The bytes of a key, first byte in front. -/
def keyBytes (k : ℕ) : Bytes := (leBytes 32 k).reverse

/-- A CPMM swap between the keys 1 to 13; the last two keys are the programs. -/
def cpmmTransaction : Transaction where
  signatures := []
  message := some
    { accountKeys := ((List.range 13).map fun k => keyBytes (k + 1)) ++
        [keyBytes raydiumCpmmProgramId.val, keyBytes token2022.val]
      instructions :=
        [{ programIdIndex := 13
           accounts := (List.range 13).map UInt8.ofNat
           data := RaydiumCpmm.swapBaseIn ++ leBytes 8 100 ++ leBytes 8 50 }] }

/-- 90 are spent; 80 are paid out with a transfer fee of 3. -/
def cpmmMeta : TransactionStatusMeta where
  err := none
  innerInstructions :=
    [{ index := 0
       instructions :=
        [{ programIdIndex := 14
           accounts := [4, 6, 0]
           data := [3] ++ leBytes 8 90
           stackHeight := some 2 },
         { programIdIndex := 14
           accounts := [7, 11, 5, 1]
           data := [26, 1] ++ leBytes 8 80 ++ [6] ++ leBytes 8 3
           stackHeight := some 2 }] }]
  preTokenBalances := []
  postTokenBalances := []
  loadedWritableAddresses := []
  loadedReadonlyAddresses := []

theorem route_amounts_exact_cpmm :
    ExactRoute (fun _ => none) cpmmTransaction cpmmMeta []
        (analyzeYellowstoneTransactionRoutes (fun _ => none) cpmmTransaction cpmmMeta []) ∧
      (analyzeYellowstoneTransactionRoutes (fun _ => none) cpmmTransaction cpmmMeta []).legs.map
        (fun leg => (leg.actualInputAmount, leg.actualOutputAmount)) = [(some 90, some 77)] :=
  ⟨(route_amounts_exact (fun _ => none) cpmmTransaction cpmmMeta [] (by decide)).1, by decide⟩

end Routes
end ShredSdk
