/-
# Unknown depths cut amounts short

Two runs of the route analysis over one transaction: one with all stack
heights, one with some of them missing. Below an inner leg the backward pass
stops at the first call of unknown depth, and the leg reports the sum of what
lies before it as if it were the whole.

Key definitions: `HidesHeights`, `shownCalls`, `cutCalls`, `CutSafe`,
`NeverFabricates`, `CallTree`.
Key theorems: `shownCalls_hides`, `neverFabricates_iff`,
`hidden_depth_fabricates`.
-/
import ShredSdk.Route.Subtrees

namespace ShredSdk
namespace Routes

/-! ### Hidden heights -/

/-- The same instruction, its height known or not. -/
def HidesInstruction (shown hidden : InnerInstruction) : Prop :=
  hidden = shown ∨ hidden = { shown with stackHeight := none }

def HidesGroup (shown hidden : InnerInstructions) : Prop :=
  hidden.index = shown.index ∧ List.Forall₂ HidesInstruction shown.instructions hidden.instructions

/-- The same metadata, some heights of inner instructions hidden. -/
def HidesHeights (shown hidden : TransactionStatusMeta) : Prop :=
  ∃ groups, hidden = { shown with innerInstructions := groups } ∧
    List.Forall₂ HidesGroup shown.innerInstructions groups

/-- The same position, the height of an inner one known or not. -/
def HidesPosition (shown hidden : InstructionPosition) : Prop :=
  hidden = shown ∨ (shown.innerIndex.isSome ∧ hidden = { shown with stackHeight := none })

def HidesInvocation (shown hidden : Invocation) : Prop :=
  ∃ position, HidesPosition shown.position position ∧ hidden = { shown with position }

section Hides

theorem hides_groupInvocations (resolve : ℕ → Option Pubkey) (i : ℕ) : ∀ (j : ℕ)
    {shown hidden : List InnerInstruction}, List.Forall₂ HidesInstruction shown hidden →
      List.Forall₂ HidesInvocation (groupInvocations resolve i j shown) (groupInvocations resolve i j hidden)
  | _, [], [], _ => List.Forall₂.nil
  | j, ix :: shown, ix' :: hidden, List.Forall₂.cons hix hrest => by
    refine List.Forall₂.cons ?_ (hides_groupInvocations resolve i (j + 1) hrest)
    rcases hix with rfl | rfl
    · exact ⟨_, Or.inl rfl, rfl⟩
    · exact ⟨_, Or.inr ⟨rfl, rfl⟩, rfl⟩

theorem hides_innerInvocations (resolve : ℕ → Option Pubkey) (i : ℕ) :
    ∀ {shown hidden : List InnerInstructions}, List.Forall₂ HidesGroup shown hidden →
      List.Forall₂ HidesInvocation (innerInvocations resolve i shown).1 (innerInvocations resolve i hidden).1 ∧
        List.Forall₂ HidesGroup (innerInvocations resolve i shown).2 (innerInvocations resolve i hidden).2
  | [], [], _ => ⟨List.Forall₂.nil, List.Forall₂.nil⟩
  | g :: shown, g' :: hidden, List.Forall₂.cons hg hrest => by
    obtain ⟨hix, hgroups⟩ := hides_innerInvocations resolve i hrest
    unfold innerInvocations
    rw [hg.1]
    by_cases hlt : i < g.index
    · rw [if_pos hlt, if_pos hlt]
      exact ⟨List.Forall₂.nil, List.Forall₂.cons hg hrest⟩
    · rw [if_neg hlt, if_neg hlt]
      by_cases hne : g.index = i
      · simp only [hne, ne_eq, not_true_eq_false, if_false]
        exact ⟨List.rel_append (hides_groupInvocations resolve i 0 hg.2) hix, hgroups⟩
      · simp only [ne_eq, hne, not_false_eq_true, if_true]
        exact ⟨hix, hgroups⟩

theorem hides_outerInvocations (resolve : ℕ → Option Pubkey) : ∀ (i : ℕ) (ixs : List CompiledInstruction)
    {shown hidden : List InnerInstructions}, List.Forall₂ HidesGroup shown hidden →
      List.Forall₂ HidesInvocation (outerInvocations resolve i ixs shown) (outerInvocations resolve i ixs hidden)
  | _, [], _, _, _ => List.Forall₂.nil
  | i, ix :: ixs, shown, hidden, h => by
    obtain ⟨hinner, hgroups⟩ := hides_innerInvocations resolve (i % 2 ^ 32) h
    unfold outerInvocations
    refine List.Forall₂.cons ⟨_, Or.inl rfl, rfl⟩ ?_
    exact List.rel_append hinner (hides_outerInvocations resolve (i + 1) ixs hgroups)

/-- Sorting by index keeps lists of related groups in step. -/
theorem hides_orderedGroups {shown hidden : List InnerInstructions} (h : List.Forall₂ HidesGroup shown hidden) :
    List.Forall₂ HidesGroup (orderedGroups shown) (orderedGroups hidden) := by
  -- both are the projections of one sorted list of pairs
  obtain ⟨pairs, rfl, rfl, hpairs⟩ : ∃ pairs : List (InnerInstructions × InnerInstructions),
      shown = pairs.map Prod.fst ∧ hidden = pairs.map Prod.snd ∧ ∀ p ∈ pairs, HidesGroup p.1 p.2 := by
    induction h with
    | nil => exact ⟨[], rfl, rfl, by simp⟩
    | @cons g g' shown hidden hg _ ih =>
      obtain ⟨pairs, rfl, rfl, hp⟩ := ih
      exact ⟨(g, g') :: pairs, rfl, rfl, List.forall_mem_cons.mpr ⟨hg, hp⟩⟩
  unfold orderedGroups
  rw [← List.map_insertionSort (fun p q : InnerInstructions × InnerInstructions => p.1.index ≤ q.1.index) _
      Prod.fst pairs fun _ _ _ _ => Iff.rfl,
    ← List.map_insertionSort (fun p q : InnerInstructions × InnerInstructions => p.1.index ≤ q.1.index) _
      Prod.snd pairs fun p hp q hq => by rw [(hpairs p hp).1, (hpairs q hq).1]]
  rw [List.forall₂_map_left_iff, List.forall₂_map_right_iff, List.forall₂_same]
  intro p hp
  exact hpairs p ((List.mem_insertionSort _).mp hp)

theorem hides_invocationsOf {transaction : Transaction} {meta' hidden : TransactionStatusMeta}
    (h : HidesHeights meta' hidden) :
    List.Forall₂ HidesInvocation (invocationsOf transaction meta') (invocationsOf transaction hidden) := by
  obtain ⟨groups, rfl, hgroups⟩ := h
  unfold invocationsOf transactionInvocations
  rcases transaction.message with _ | message
  · exact List.Forall₂.nil
  · exact hides_outerInvocations _ 0 message.instructions (hides_orderedGroups hgroups)

/-- What does not look at positions folds alike. -/
theorem foldl_hides {α : Type*} {f : α → Invocation → α} (hf : ∀ a ix position, f a { ix with position } = f a ix)
    {shown hidden : List Invocation} (h : List.Forall₂ HidesInvocation shown hidden) :
    ∀ a, hidden.foldl f a = shown.foldl f a := by
  induction h with
  | nil => exact fun _ => rfl
  | cons hix _ ih =>
    obtain ⟨position, -, rfl⟩ := hix
    intro a
    rw [List.foldl_cons, List.foldl_cons, hf, ih]

/-- Hidden heights leave the mints as they are. -/
theorem hides_mintsOf {parsePubkey : String → Option Pubkey} {transaction : Transaction}
    {meta' hidden : TransactionStatusMeta} (h : HidesHeights meta' hidden) :
    mintsOf parsePubkey transaction hidden = mintsOf parsePubkey transaction meta' := by
  have hixs : List.Forall₂ HidesInvocation (invocationsOf transaction meta') (invocationsOf transaction hidden) :=
    hides_invocationsOf h
  obtain ⟨groups, rfl, -⟩ := h
  unfold mintsOf tokenMintsFromInvocations
  simp only [foldl_hides (f := recordInvocation _) (fun _ _ _ => rfl) hixs,
    foldl_hides (f := joinNeighbours _ _) (fun _ _ _ => rfl) hixs]
  rfl

theorem swap_position (ix : Invocation) (position : InstructionPosition) (keys : List Pubkey) (mints : Mints)
    (graduated : List Pubkey) :
    swap { ix with position } keys mints graduated =
      (swap ix keys mints graduated).map fun leg => { leg with position } := by
  unfold swap
  have hargs : swapArgs { ix with position } keys = swapArgs ix keys := rfl
  have hmissing : hasMissingAccount { ix with position } keys = hasMissingAccount ix keys := rfl
  rw [hargs, hmissing]
  split_ifs
  · rfl
  · rw [Option.map_map]
    rfl

theorem transfer_position (ix : Invocation) (position : InstructionPosition) (keys : List Pubkey)
    (mints : Mints) :
    transfer { ix with position } keys mints =
      (transfer ix keys mints).map fun transfer => { transfer with position } := by
  have hlayout : transferLayout { ix with position } = transferLayout ix := rfl
  have haccount : ∀ k, account { ix with position } keys k = account ix keys k := fun _ => rfl
  unfold transfer
  simp only [hlayout, haccount]
  split_ifs
  · rfl
  · rcases transferLayout ix with _ | ⟨destinationIndex, amountOffset, fee⟩
    · rfl
    · simp only
      split_ifs
      · rfl
      · rw [Option.map_map]
        rfl

/-- A transfer without its place. -/
def unplaced (transfer : RouteTokenTransfer) : RouteTokenTransfer :=
  { transfer with position := ⟨0, none, none⟩ }

theorem hides_transfers {keys : List Pubkey} {mints : Mints} {shown hidden : List Invocation}
    (h : List.Forall₂ HidesInvocation shown hidden) :
    (hidden.filterMap fun ix => transfer ix keys mints).map unplaced =
      (shown.filterMap fun ix => transfer ix keys mints).map unplaced := by
  induction h with
  | nil => rfl
  | @cons ix ix' shown hidden hix _ ih =>
    obtain ⟨position, -, rfl⟩ := hix
    simp only [List.filterMap_cons, transfer_position]
    rcases transfer ix keys mints with _ | t
    · exact ih
    · exact congrArg (unplaced t :: ·) ih

/-- The sums of a leg do not look at places. -/
theorem withAmounts_unplaced (leg : RouteSwapLeg) (below : List RouteTokenTransfer) :
    withAmounts leg below = withAmounts leg (below.map unplaced) := by
  unfold withAmounts
  rw [List.foldl_map]
  rfl

end Hides

/-! ### Where a subtree is cut -/

/-- The test below a parent does not fail for want of a depth. -/
def DepthsKnown (parent child : InstructionPosition) : Bool :=
  parent.innerIndex.isNone || (parent.stackHeight.isSome && child.stackHeight.isSome)

/-- The calls below the invocation at place `i` that come before the first of
unknown depth. -/
def shownCalls (invocations hidden : List Invocation) (i : ℕ) : List Invocation :=
  match hidden[i]? with
  | none => []
  | some parent =>
    (callSubtree invocations i).take
      ((hidden.drop (i + 1)).takeWhile fun child => DepthsKnown parent.position child.position).length

/-- The calls below the invocation at place `i` from the first of unknown depth on. -/
def cutCalls (invocations hidden : List Invocation) (i : ℕ) : List Invocation :=
  (callSubtree invocations i).drop (shownCalls invocations hidden i).length

theorem shownCalls_append (invocations hidden : List Invocation) (i : ℕ) :
    shownCalls invocations hidden i ++ cutCalls invocations hidden i = callSubtree invocations i := by
  unfold cutCalls shownCalls
  rcases hidden[i]? with _ | parent
  · rfl
  · simp only [List.length_take]
    rw [List.take_eq_take_min]
    exact List.take_append_drop _ _

theorem HidesPosition.fields {shown hidden : InstructionPosition} (h : HidesPosition shown hidden) :
    hidden.outerIndex = shown.outerIndex ∧ hidden.innerIndex = shown.innerIndex ∧
      (hidden.stackHeight = shown.stackHeight ∨ hidden.stackHeight = none) := by
  rcases h with rfl | ⟨-, rfl⟩
  · exact ⟨rfl, rfl, Or.inl rfl⟩
  · exact ⟨rfl, rfl, Or.inr rfl⟩

/-- With hidden depths the code's test is nesting where the depths are known. -/
theorem descendant_hides {parent child parent' child' : InstructionPosition}
    (hp : parent.stackHeight.isSome) (hc : child.stackHeight.isSome) (hparent : HidesPosition parent parent')
    (hchild : HidesPosition child child') :
    descendant parent' child' = (DepthsKnown parent' child' && decide (Nested parent child)) := by
  obtain ⟨a, ha⟩ := Option.isSome_iff_exists.mp hp
  obtain ⟨b, hb⟩ := Option.isSome_iff_exists.mp hc
  obtain ⟨hpo, hpi, hph⟩ := hparent.fields
  obtain ⟨hco, hci, hch⟩ := hchild.fields
  rw [Bool.eq_iff_iff, Bool.and_eq_true, decide_eq_true_eq, descendant_some]
  unfold DepthsKnown Nested depth
  rw [hpo, hpi, hco, hci]
  by_cases ho : parent.outerIndex = child.outerIndex
  · rcases hp' : parent.innerIndex with _ | p
    · -- below an outer instruction no depth is asked for
      rcases hc' : child.innerIndex with _ | c <;> simp [ho]
    · rcases hc' : child.innerIndex with _ | c
      · simp [ho]
      · rcases hph with hph | hph <;> rcases hch with hch | hch <;> simp [ho, hph, hch, ha, hb]
  · simp [ho]

theorem forall₂_takeWhile {α β : Type*} {R : α → β → Prop} {p : β → Bool} {q : α → Bool} {t : β → Bool}
    {xs : List α} {ys : List β} (h : List.Forall₂ R xs ys) (ht : ∀ x ∈ xs, ∀ y, R x y → t y = (p y && q x)) :
    List.Forall₂ R ((xs.takeWhile q).take (ys.takeWhile p).length) (ys.takeWhile t) := by
  induction h with
  | nil => simp
  | @cons x y xs ys hxy _ ih =>
    have hy := ht x (List.mem_cons_self ..) y hxy
    have hrest := ih fun x' hx' => ht x' (List.mem_cons_of_mem x hx')
    rw [List.takeWhile_cons, List.takeWhile_cons, List.takeWhile_cons, hy]
    by_cases hp : p y = true
    · by_cases hq : q x = true
      · simp only [hp, hq, Bool.and_self, if_true, List.length_cons, List.take_succ_cons]
        exact List.Forall₂.cons hxy hrest
      · simp [hp, hq]
    · simp [hp]

/-- **The backward pass sees the shown calls.** -/
theorem shownCalls_hides {invocations hidden : List Invocation}
    (known : ∀ ix ∈ invocations, ix.position.stackHeight.isSome)
    (h : List.Forall₂ HidesInvocation invocations hidden) (i : ℕ) :
    List.Forall₂ HidesInvocation (shownCalls invocations hidden i) (runBelow hidden i) := by
  unfold shownCalls runBelow callSubtree
  rcases hi : invocations[i]? with _ | parent
  · have hlen := List.getElem?_eq_none_iff.mp hi
    rw [h.length_eq] at hlen
    rw [List.getElem?_eq_none_iff.mpr hlen]
    exact List.Forall₂.nil
  · obtain ⟨parent', hi', position, hpos, rfl⟩ : ∃ parent', hidden[i]? = some parent' ∧
        HidesInvocation parent parent' := by
      have hlt := (List.getElem?_eq_some_iff.mp hi).1
      have hlt' : i < hidden.length := h.length_eq ▸ hlt
      refine ⟨hidden[i], List.getElem?_eq_getElem hlt', ?_⟩
      rw [← (List.getElem?_eq_some_iff.mp hi).2]
      exact h.get hlt hlt'
    rw [hi']
    simp only
    apply forall₂_takeWhile (List.forall₂_drop (i + 1) h)
    rintro x hx _ ⟨cpos, hcpos, rfl⟩
    have hp := known parent (List.mem_of_getElem? hi)
    have hc := known x (List.mem_of_mem_drop hx)
    show decide (descendant position cpos = true) = _
    rw [Bool.decide_eq_true]
    exact descendant_hides hp hc hpos hcpos

/-! ### What a cut subtree reports -/

/-- Cutting the transfers `rest` off changes no reported amount of the leg: what
is left is not reportable, or what is cut off carries nothing. -/
structure CutSafe (leg : RouteSwapLeg) (shown rest : List RouteTokenTransfer) : Prop where
  input : spent leg shown = [] ∨ 2 ^ 64 ≤ ((spent leg shown).map (·.amount)).sum ∨
    ((spent leg rest).map (·.amount)).sum = 0
  output : received leg shown = [] ∨ (∃ transfer ∈ received leg shown, ¬ FeeCovered transfer) ∨
    2 ^ 64 ≤ ((received leg shown).map netAmount).sum ∨
    ((∀ transfer ∈ received leg rest, FeeCovered transfer) ∧ ((received leg rest).map netAmount).sum = 0)

/-- An amount reported of one leg is that of the other. -/
structure AmountsKept (full cut : RouteSwapLeg) : Prop where
  input : ∀ v, cut.actualInputAmount = some v → full.actualInputAmount = some v
  output : ∀ v, cut.actualOutputAmount = some v → full.actualOutputAmount = some v

theorem amountsKept_iff (leg : RouteSwapLeg) (shown rest : List RouteTokenTransfer) :
    AmountsKept (withAmounts leg (shown ++ rest)) (withAmounts leg shown) ↔ CutSafe leg shown rest := by
  have hspent : spent leg (shown ++ rest) = spent leg shown ++ spent leg rest := List.filter_append ..
  have hreceived : received leg (shown ++ rest) = received leg shown ++ received leg rest :=
    List.filter_append ..
  constructor
  · rintro ⟨hin, hout⟩
    constructor
    · by_cases hne : spent leg shown = []
      · exact Or.inl hne
      · by_cases hlt : ((spent leg shown).map (·.amount)).sum < 2 ^ 64
        · have hfull := hin _ ((withAmounts_input leg shown _).mpr ⟨hne, hlt, rfl⟩)
          obtain ⟨-, -, hsum⟩ := (withAmounts_input leg (shown ++ rest) _).mp hfull
          rw [hspent, List.map_append, List.sum_append] at hsum
          exact Or.inr (Or.inr (by omega))
        · exact Or.inr (Or.inl (by omega))
    · by_cases hne : received leg shown = []
      · exact Or.inl hne
      · by_cases hfee : ∃ transfer ∈ received leg shown, ¬ FeeCovered transfer
        · exact Or.inr (Or.inl hfee)
        · by_cases hlt : ((received leg shown).map netAmount).sum < 2 ^ 64
          · have hfees : ∀ transfer ∈ received leg shown, FeeCovered transfer := fun t ht =>
              by_contra fun hn => hfee ⟨t, ht, hn⟩
            have hfull := hout _ ((withAmounts_output leg shown _).mpr ⟨hne, hfees, hlt, rfl⟩)
            obtain ⟨-, hcovered, -, hsum⟩ := (withAmounts_output leg (shown ++ rest) _).mp hfull
            rw [hreceived, List.map_append, List.sum_append] at hsum
            rw [hreceived] at hcovered
            exact Or.inr (Or.inr (Or.inr ⟨fun t ht => hcovered t (List.mem_append_right _ ht), by omega⟩))
          · exact Or.inr (Or.inr (Or.inl (by omega)))
  · rintro ⟨hin, hout⟩
    constructor
    · intro v hv
      obtain ⟨hne, hlt, rfl⟩ := (withAmounts_input leg shown _).mp hv
      have hrest : ((spent leg rest).map (·.amount)).sum = 0 := by
        rcases hin with h | h | h
        · exact absurd h hne
        · omega
        · exact h
      rw [withAmounts_input, hspent, List.map_append, List.sum_append, hrest]
      exact ⟨by simp [hne], hlt, rfl⟩
    · intro v hv
      obtain ⟨hne, hfees, hlt, rfl⟩ := (withAmounts_output leg shown _).mp hv
      have hrest : (∀ transfer ∈ received leg rest, FeeCovered transfer) ∧
          ((received leg rest).map netAmount).sum = 0 := by
        rcases hout with h | ⟨t, ht, hn⟩ | h | h
        · exact absurd h hne
        · exact absurd (hfees t ht) hn
        · omega
        · exact h
      rw [withAmounts_output, hreceived, List.map_append, List.sum_append, hrest.2]
      refine ⟨by simp [hne], fun t ht => ?_, hlt, rfl⟩
      rcases List.mem_append.mp ht with ht | ht
      · exact hfees t ht
      · exact hrest.1 t ht

/-! ### Two runs -/

/-- Every amount the second route reports of a leg is that of the first. -/
def NeverFabricates (full hidden : TransactionRoute) : Prop :=
  List.Forall₂ AmountsKept full.legs hidden.legs

/-- What is kept of two lists in step is related exactly when it is at every place. -/
theorem forall₂_filterMap_iff {α β γ : Type*} {R : β → γ → Prop} {P : α → α → Prop} {Q : α → Prop}
    {f : α → Option β} {g : α → Option γ} {xs ys : List α} (h : List.Forall₂ P xs ys)
    (hsome : ∀ x y, P x y → (f x).isSome = (g y).isSome)
    (hQ : ∀ x y, P x y → ((∀ b c, f x = some b → g y = some c → R b c) ↔ Q x)) :
    List.Forall₂ R (xs.filterMap f) (ys.filterMap g) ↔ ∀ x ∈ xs, Q x := by
  induction h with
  | nil => simp
  | @cons x y xs ys hxy _ ih =>
    have hs := hsome x y hxy
    rw [List.forall_mem_cons, ← ih, ← hQ x y hxy]
    rcases hf : f x with _ | b <;> rcases hg : g y with _ | c
    · rw [List.filterMap_cons_none hf, List.filterMap_cons_none hg]
      simp
    · simp [hf, hg] at hs
    · simp [hf, hg] at hs
    · rw [List.filterMap_cons_some hf, List.filterMap_cons_some hg, List.forall₂_cons]
      simp

theorem hides_zipIdx {shown hidden : List Invocation} (h : List.Forall₂ HidesInvocation shown hidden) :
    ∀ i, List.Forall₂ (fun p q => HidesInvocation p.1 q.1 ∧ q.2 = p.2) (shown.zipIdx i) (hidden.zipIdx i) := by
  induction h with
  | nil => exact fun _ => List.Forall₂.nil
  | cons hix _ ih => exact fun i => List.Forall₂.cons ⟨hix, rfl⟩ (ih (i + 1))

section TwoRuns

variable {keys : List Pubkey} {mints : Mints} {graduated : List Pubkey} {invocations hidden : List Invocation}

/-- The transfers of the shown calls. -/
def shownTransfers (keys : List Pubkey) (mints : Mints) (invocations hidden : List Invocation) (i : ℕ) :
    List RouteTokenTransfer :=
  (shownCalls invocations hidden i).filterMap fun ix => transfer ix keys mints

def cutTransfers (keys : List Pubkey) (mints : Mints) (invocations hidden : List Invocation) (i : ℕ) :
    List RouteTokenTransfer :=
  (cutCalls invocations hidden i).filterMap fun ix => transfer ix keys mints

theorem routeLeg_position (ix : Invocation) (position : InstructionPosition) :
    routeLeg keys mints graduated { ix with position } =
      (routeLeg keys mints graduated ix).map fun leg => { leg with position } := by
  rw [routeLeg_eq_swap, routeLeg_eq_swap, swap_position]

/-- A leg keeps its amounts exactly when the cut is safe for it. -/
theorem placedLeg_kept (known : ∀ ix ∈ invocations, ix.position.stackHeight.isSome)
    (h : List.Forall₂ HidesInvocation invocations hidden) (succeeded : Bool) {ix ix' : Invocation}
    (hix : HidesInvocation ix ix') (i : ℕ) :
    (∀ full cut, placedLeg succeeded keys mints graduated invocations (ix, i) = some full →
        placedLeg succeeded keys mints graduated hidden (ix', i) = some cut → AmountsKept full cut) ↔
      (succeeded = false ∨ ∀ leg, routeLeg keys mints graduated ix = some leg →
        CutSafe leg (shownTransfers keys mints invocations hidden i)
          (cutTransfers keys mints invocations hidden i)) := by
  obtain ⟨position, -, rfl⟩ := hix
  unfold placedLeg
  simp only [routeLeg_position]
  rcases hleg : routeLeg keys mints graduated ix with _ | leg
  · simp
  · rcases succeeded with _ | _
    · simp only [Option.map_some, Bool.false_eq_true, if_false, true_or, iff_true, Option.some.injEq]
      rintro full cut rfl rfl
      exact ⟨fun _ hv => hv, fun _ hv => hv⟩
    · have hfull : (runBelow invocations i).filterMap (fun ix => transfer ix keys mints) =
          shownTransfers keys mints invocations hidden i ++ cutTransfers keys mints invocations hidden i := by
        rw [runBelow_eq_callSubtree known, ← shownCalls_append invocations hidden i, List.filterMap_append]
        rfl
      have hcut : withAmounts leg ((runBelow hidden i).filterMap fun ix => transfer ix keys mints) =
          withAmounts leg (shownTransfers keys mints invocations hidden i) := by
        rw [withAmounts_unplaced, hides_transfers (shownCalls_hides known h i), ← withAmounts_unplaced]
        rfl
      simp only [Option.map_some, if_true, Option.some.injEq, Bool.true_eq_false, false_or, hfull,
        forall_eq', ← amountsKept_iff, ← hcut]
      constructor
      · intro hk
        have hk := hk _ _ rfl rfl
        exact ⟨hk.input, hk.output⟩
      · rintro hk _ _ rfl rfl
        exact ⟨hk.input, hk.output⟩

end TwoRuns

/-- **Hidden depths never change an amount exactly when every cut is safe.**
Of two runs over one transaction, the second with some heights of inner
instructions missing, the second reports only amounts of the first if and only
if the transaction failed or, for every leg, the transfers before the first
call of unknown depth below it are not reportable or those from it on carry
nothing. -/
theorem neverFabricates_iff (parsePubkey : String → Option Pubkey) (transaction : Transaction)
    (meta' hidden : TransactionStatusMeta) (graduated : List Pubkey)
    (known : ∀ ix ∈ invocationsOf transaction meta', ix.position.stackHeight.isSome)
    (hides : HidesHeights meta' hidden) :
    NeverFabricates (analyzeYellowstoneTransactionRoutes parsePubkey transaction meta' graduated)
        (analyzeYellowstoneTransactionRoutes parsePubkey transaction hidden graduated) ↔
      meta'.err ≠ none ∨
        ∀ i ix leg, (invocationsOf transaction meta')[i]? = some ix →
          decodedLeg parsePubkey transaction meta' graduated ix = some leg →
          CutSafe leg
            (shownTransfers (transactionKeys transaction meta') (mintsOf parsePubkey transaction meta')
              (invocationsOf transaction meta') (invocationsOf transaction hidden) i)
            (cutTransfers (transactionKeys transaction meta') (mintsOf parsePubkey transaction meta')
              (invocationsOf transaction meta') (invocationsOf transaction hidden) i) := by
  have hixs : List.Forall₂ HidesInvocation (invocationsOf transaction meta') (invocationsOf transaction hidden) :=
    hides_invocationsOf hides
  have hmints : mintsOf parsePubkey transaction hidden = mintsOf parsePubkey transaction meta' :=
    hides_mintsOf hides
  have hkeys : transactionKeys transaction hidden = transactionKeys transaction meta' := by
    obtain ⟨groups, rfl, -⟩ := hides
    rfl
  have herr : hidden.err = meta'.err := by
    obtain ⟨groups, rfl, -⟩ := hides
    rfl
  unfold NeverFabricates
  rw [analyze_legs, analyze_legs, hmints, hkeys, herr,
    forall₂_filterMap_iff (hides_zipIdx hixs 0)
      (Q := fun p => meta'.err.isNone = false ∨ ∀ leg, decodedLeg parsePubkey transaction meta' graduated p.1 = some leg →
        CutSafe leg (shownTransfers _ _ _ (invocationsOf transaction hidden) p.2)
          (cutTransfers _ _ _ (invocationsOf transaction hidden) p.2))]
  · constructor
    · intro hall
      by_cases hfail : meta'.err = none
      · refine Or.inr fun i ix leg hix hleg => ?_
        have hp := hall (ix, i) (List.mem_zipIdx_iff_getElem?.mpr hix)
        rw [hfail] at hp
        exact (hp.resolve_left (by simp)) leg hleg
      · exact Or.inl hfail
    · rintro hall ⟨ix, i⟩ hp
      have hix := List.mem_zipIdx_iff_getElem?.mp hp
      rcases hall with hfail | hall
      · exact Or.inl (by simp [Option.isSome_iff_ne_none, hfail])
      · exact Or.inr fun leg hleg => hall i ix leg hix hleg
  · rintro ⟨ix, i⟩ ⟨ix', _⟩ ⟨⟨position, -, rfl⟩, -⟩
    simp [placedLeg, routeLeg_position]
  · rintro ⟨ix, i⟩ ⟨ix', i'⟩ ⟨hix, hi⟩
    obtain rfl : i' = i := hi
    rw [placedLeg_kept known hixs _ hix]
    simp only [routeLeg_eq_swap]
    rfl

/-! ### A cut that shows -/

/-- `b` may follow `a` in a call tree: an outer instruction is the next one, at
depth 1; an inner one is the next of its outer instruction, at most one deeper. -/
def Follows (a b : InstructionPosition) : Prop :=
  match b.innerIndex with
  | none => b.outerIndex = a.outerIndex + 1 ∧ depth b = 1
  | some j => b.outerIndex = a.outerIndex ∧ j = (a.innerIndex.map (· + 1)).getD 0 ∧
      2 ≤ depth b ∧ depth b ≤ depth a + 1

instance : DecidableRel Follows := fun a b =>
  match h : b.innerIndex with
  | none => decidable_of_iff (b.outerIndex = a.outerIndex + 1 ∧ depth b = 1) (by simp [Follows, h])
  | some j => decidable_of_iff (b.outerIndex = a.outerIndex ∧ j = (a.innerIndex.map (· + 1)).getD 0 ∧
      2 ≤ depth b ∧ depth b ≤ depth a + 1) (by simp [Follows, h])

/-- The invocations are a preorder of calls, every depth known. -/
structure CallTree (invocations : List Invocation) : Prop where
  known : ∀ ix ∈ invocations, ix.position.stackHeight.isSome
  follows : (invocations.map (·.position)).IsChain Follows

/-- A router that calls a CPMM swap between the keys 1 to 13. -/
def routedTransaction : Transaction where
  signatures := []
  message := some
    { accountKeys := ((List.range 13).map fun k => keyBytes (k + 1)) ++
        [keyBytes raydiumCpmmProgramId.val, keyBytes token2022.val, keyBytes 99]
      instructions := [{ programIdIndex := 15, accounts := [], data := [] }] }

/-- The swap spends 40 and then 50; the depth of the second transfer is `last`. -/
def routedMeta (last : Option ℕ) : TransactionStatusMeta where
  err := none
  innerInstructions :=
    [{ index := 0
       instructions :=
        [{ programIdIndex := 13
           accounts := (List.range 13).map UInt8.ofNat
           data := RaydiumCpmm.swapBaseIn ++ leBytes 8 100 ++ leBytes 8 50
           stackHeight := some 2 },
         { programIdIndex := 14
           accounts := [4, 6, 0]
           data := [3] ++ leBytes 8 40
           stackHeight := some 3 },
         { programIdIndex := 14
           accounts := [4, 6, 0]
           data := [3] ++ leBytes 8 50
           stackHeight := last }] }]
  preTokenBalances := []
  postTokenBalances := []
  loadedWritableAddresses := []
  loadedReadonlyAddresses := []

theorem routedMeta_hides : HidesHeights (routedMeta (some 3)) (routedMeta none) := by
  refine ⟨(routedMeta none).innerInstructions, rfl, List.Forall₂.cons ⟨rfl, ?_⟩ List.Forall₂.nil⟩
  exact List.Forall₂.cons (Or.inl rfl) (List.Forall₂.cons (Or.inl rfl)
    (List.Forall₂.cons (Or.inr rfl) List.Forall₂.nil))

/-- **A hidden depth turns 90 into 40.** -/
theorem hidden_depth_fabricates :
    ¬ ∀ (parsePubkey : String → Option Pubkey) (transaction : Transaction)
      (meta' hidden : TransactionStatusMeta) (graduated : List Pubkey),
      CallTree (invocationsOf transaction meta') → HidesHeights meta' hidden →
        NeverFabricates (analyzeYellowstoneTransactionRoutes parsePubkey transaction meta' graduated)
          (analyzeYellowstoneTransactionRoutes parsePubkey transaction hidden graduated) := by
  intro h
  have hkept := h (fun _ => none) routedTransaction (routedMeta (some 3)) (routedMeta none) []
    ⟨by decide, by decide⟩ routedMeta_hides
  have hfull : (analyzeYellowstoneTransactionRoutes (fun _ => none) routedTransaction
      (routedMeta (some 3)) []).legs.map (·.actualInputAmount) = [some 90] := by decide
  have hcut : (analyzeYellowstoneTransactionRoutes (fun _ => none) routedTransaction
      (routedMeta none) []).legs.map (·.actualInputAmount) = [some 40] := by decide
  have hmap : List.Forall₂ (fun a b : Option ℕ => ∀ v, b = some v → a = some v) [some 90] [some 40] := by
    rw [← hfull, ← hcut, List.forall₂_map_left_iff, List.forall₂_map_right_iff]
    exact hkept.imp fun _ _ hk => hk.input
  simp at hmap

theorem neverFabricates_iff_routed :
    NeverFabricates (analyzeYellowstoneTransactionRoutes (fun _ => none) routedTransaction (routedMeta (some 3)) [])
        (analyzeYellowstoneTransactionRoutes (fun _ => none) routedTransaction (routedMeta none) []) ↔
      (routedMeta (some 3)).err ≠ none ∨
        ∀ i ix leg, (invocationsOf routedTransaction (routedMeta (some 3)))[i]? = some ix →
          decodedLeg (fun _ => none) routedTransaction (routedMeta (some 3)) [] ix = some leg →
          CutSafe leg
            (shownTransfers (transactionKeys routedTransaction (routedMeta (some 3)))
              (mintsOf (fun _ => none) routedTransaction (routedMeta (some 3)))
              (invocationsOf routedTransaction (routedMeta (some 3)))
              (invocationsOf routedTransaction (routedMeta none)) i)
            (cutTransfers (transactionKeys routedTransaction (routedMeta (some 3)))
              (mintsOf (fun _ => none) routedTransaction (routedMeta (some 3)))
              (invocationsOf routedTransaction (routedMeta (some 3)))
              (invocationsOf routedTransaction (routedMeta none)) i) :=
  neverFabricates_iff (fun _ => none) routedTransaction (routedMeta (some 3)) (routedMeta none) []
    (by decide) routedMeta_hides

end Routes
end ShredSdk
