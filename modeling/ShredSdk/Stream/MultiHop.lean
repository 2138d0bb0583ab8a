/-
# Routes over bonding curves, and the same routes the other way

A multi-hop swap lists sixteen fixed accounts and then five accounts for each hop.
Which way the route goes is not said: it is read off the mints that neighbouring
hops share. A trade is emitted for a hop only if its bonding curve is the one
derived from its mint, so every trade belongs to a hop of the list and the trades
stand in the order of their hops. If the hop groups are listed the other way
round, a hop's first mint meets the next one's second mint exactly where the two
met before, so a route that was read as bought is read as sold, and nothing else
about its venues changes.

Key definitions: `hopCount`, `reverseHops`, `TradeOfHop`, `venueOf`, `turned`.
Key theorems: `routeDirection_reversed`, `parseCurveHops_sound`, `multi_hop`.
-/
import ShredSdk.Lib.Groups
import ShredSdk.Stream.Transaction

namespace ShredSdk
namespace Stream

open Groups (reverseGroups getElem?_reverseGroups length_reverseGroups)

/-! ### Hops -/

def hopCount (ix : CompiledInstruction) : ℕ := (ix.accounts.length - 16) / 5

def routeKey (keys : List Pubkey) (ix : CompiledInstruction) (i : ℕ) : Option Pubkey := ix.accounts[i]?.bind (keyAt keys)

/-- The route with its hop groups in reverse order. -/
def reverseHops (ix : CompiledInstruction) : CompiledInstruction :=
  { ix with accounts := ix.accounts.take 16 ++ reverseGroups 5 (hopCount ix) (ix.accounts.drop 16) }

/-- A trade on the bonding curve of a hop. -/
structure TradeOfHop (X : Outside) (keys : List Pubkey) (ix : CompiledInstruction) (hop : ℕ) (e : DexEvent) :
    Prop where
  kind : e.kind = .pumpFunTrade
  hop_lt : hop < hopCount ix
  mint : routeKey keys ix (16 + hop * 5) = some (e.body.key .mint)
  quoteMint : routeKey keys ix (16 + hop * 5 + 1) = some (e.body.key .quoteMint)
  bondingCurve : routeKey keys ix (16 + hop * 5 + 2) = some (e.body.key .bondingCurve)
  derived : e.body.key .bondingCurve =
    X.findProgramAddress ["bonding-curve".toUTF8.toList, beBytes 32 (e.body.key .mint).val] pumpfunProgramId

/-- The trade without the copy of the instruction. -/
def venueOf (e : DexEvent) : DexEvent := mapBody (fun body => { body with thirdProgram := none }) e

/-- The trade the other way. -/
def turned (e : DexEvent) : DexEvent :=
  mapBody (fun body => { body with flag := Function.update body.flag .isBuy (!body.flag .isBuy) }) e

/-! ### The accounts of the reversed route -/

section Reversed

variable {keys : List Pubkey} {ix : CompiledInstruction} {i j : ℕ}

theorem length_reverseHops : (reverseHops ix).accounts.length = ix.accounts.length := by
  have hlen : (reverseGroups 5 (hopCount ix) (ix.accounts.drop 16)).length = (ix.accounts.drop 16).length :=
    length_reverseGroups (by simp only [hopCount, List.length_drop]; omega)
  simp only [reverseHops, List.length_append, List.length_take, hlen, List.length_drop]
  omega

theorem hopCount_reverseHops : hopCount (reverseHops ix) = hopCount ix := by
  rw [hopCount, length_reverseHops, hopCount]

/-- The fixed accounts stay. -/
theorem routeKey_fixed (h : 16 ≤ ix.accounts.length) (hi : i < 16) :
    routeKey keys (reverseHops ix) i = routeKey keys ix i := by
  have htake : i < (ix.accounts.take 16).length := by rw [List.length_take]; omega
  rw [routeKey, routeKey, reverseHops, List.getElem?_append_left htake, List.getElem?_take_of_lt hi]

/-- Hop `i` of the reversed route is hop `n - 1 - i`. -/
theorem routeKey_hop (hi : i < hopCount ix) (hj : j < 5) :
    routeKey keys (reverseHops ix) (16 + i * 5 + j) = routeKey keys ix (16 + (hopCount ix - 1 - i) * 5 + j) := by
  have hlong : hopCount ix * 5 ≤ (ix.accounts.drop 16).length := by
    simp only [hopCount, List.length_drop]
    omega
  have hfixed : (ix.accounts.take 16).length = 16 := by
    rw [List.length_take]
    rw [List.length_drop] at hlong
    omega
  rw [routeKey, routeKey, reverseHops, List.getElem?_append_right (by omega), hfixed,
    show 16 + i * 5 + j - 16 = i * 5 + j by omega, getElem?_reverseGroups hlong hi hj, List.getElem?_drop,
    Nat.add_assoc]

end Reversed

/-! ### The direction -/

section Direction

variable {get get' : ℕ → Option Pubkey} {n : ℕ}

/-- Hop `i` gives what the next one takes, in the direction `buy`. -/
def Meets (get : ℕ → Option Pubkey) (buy : Bool) (i : ℕ) : Prop :=
  ∃ mint : Pubkey, mint ≠ 0 ∧ get (16 + i * 5 + (if buy then 0 else 1)) = some mint ∧
    get (16 + (i + 1) * 5 + (if buy then 1 else 0)) = some mint

theorem connected_iff {buy : Bool} : connected get n buy ↔ 1 < n ∧ ∀ i < n - 1, Meets get buy i := by
  simp only [connected, Bool.and_eq_true, decide_eq_true_eq, List.all_eq_true, List.mem_range]
  refine and_congr_right fun _ => forall₂_congr fun i _ => ?_
  cases hget : get (16 + i * 5 + if buy then 0 else 1) with
  | none => simp [Meets, hget]
  | some mint =>
    simp only [Meets, hget, Bool.and_eq_true, decide_eq_true_eq, Option.some.injEq]
    constructor
    · rintro ⟨hne, hnext⟩
      exact ⟨mint, hne, rfl, hnext.symm⟩
    · rintro ⟨_, hne, rfl, hnext⟩
      exact ⟨hne, hnext.symm⟩

/-- The hops of `get'` are those of `get` in reverse order. -/
def HopsReversed (n : ℕ) (get get' : ℕ → Option Pubkey) : Prop :=
  ∀ i < n, ∀ j < 5, get' (16 + i * 5 + j) = get (16 + (n - 1 - i) * 5 + j)

/-- Two neighbours meet one way exactly where they met the other way. -/
theorem meets_reversed (h : HopsReversed n get get') {buy : Bool} {i : ℕ} (hi : i < n - 1) :
    Meets get' buy i ↔ Meets get (!buy) (n - 2 - i) := by
  have hfrom := h i (by omega) (if buy then 0 else 1) (by split <;> omega)
  have hto := h (i + 1) (by omega) (if buy then 1 else 0) (by split <;> omega)
  rw [show n - 1 - i = n - 2 - i + 1 by omega] at hfrom
  rw [show n - 1 - (i + 1) = n - 2 - i by omega] at hto
  unfold Meets
  rw [hfrom, hto]
  cases buy
  · exact exists_congr fun mint => and_congr_right fun _ => and_comm
  · exact exists_congr fun mint => and_congr_right fun _ => and_comm

theorem connected_reversed (h : HopsReversed n get get') (buy : Bool) :
    connected get' n buy = connected get n (!buy) := by
  rw [Bool.eq_iff_iff, connected_iff, connected_iff]
  refine and_congr_right fun _ => ⟨fun hall i hi => ?_, fun hall i hi => ?_⟩
  · have hmeets := (meets_reversed h (i := n - 2 - i) (by omega)).mp (hall _ (by omega))
    rwa [show n - 2 - (n - 2 - i) = i by omega] at hmeets
  · exact (meets_reversed h hi).mpr (hall _ (by omega))

/-- **A route read the other way has the other direction.** -/
theorem routeDirection_reversed (h : HopsReversed n get get') :
    routeDirection get' n = (routeDirection get n).map not := by
  simp only [routeDirection, connected_reversed h, Bool.not_true, Bool.not_false]
  cases connected get n true <;> cases connected get n false <;> rfl

/-- One hop has no direction. -/
theorem routeDirection_single (h : n ≤ 1) : routeDirection get n = none := by
  have hcount : ¬ 1 < n := by omega
  simp [routeDirection, connected, hcount]

end Direction

/-! ### One hop -/

section Hop

variable {X : Outside} {get get' : ℕ → Option Pubkey} {isBuy : Bool} {payload payload' : RawInstructionPayload}
  {metadata : EventMetadata} {start start' : ℕ} {e : DexEvent}

/-- What a trade of a hop says. -/
theorem curveHop_eq_some (h : curveHop X get isBuy payload metadata start = some e) :
    e.kind = .pumpFunTrade ∧ e.body.flag .isBuy = isBuy ∧ get start = some (e.body.key .mint) ∧
      get (start + 1) = some (e.body.key .quoteMint) ∧ get (start + 2) = some (e.body.key .bondingCurve) ∧
      e.body.key .bondingCurve =
        X.findProgramAddress ["bonding-curve".toUTF8.toList, beBytes 32 (e.body.key .mint).val] pumpfunProgramId := by
  unfold curveHop at h
  split at h
  case h_1 mint quoteMint bondingCurve hmint hquote hcurve =>
    by_cases hmints : mint = 0 ∨ quoteMint = 0 ∨ mint = quoteMint
    · rw [if_pos hmints] at h
      cases h
    · rw [if_neg hmints] at h
      split at h
      case isTrue => cases h
      case isFalse hderived =>
        obtain rfl := Option.some.inj h
        exact ⟨rfl, rfl, hmint, hquote, hcurve, not_not.mp hderived⟩
  case h_2 => cases h

/-- A hop says the same wherever it stands, but for the direction. -/
theorem curveHop_turned (hfixed : ∀ i < 16, get' i = get i) (hhop : ∀ j < 5, get' (start' + j) = get (start + j)) :
    (curveHop X get' (!isBuy) payload' metadata start').map venueOf =
      (curveHop X get isBuy payload metadata start).map fun e => turned (venueOf e) := by
  have h0 : get' start' = get start := hhop 0 (by omega)
  unfold curveHop
  rw [h0, hhop 1 (by omega), hhop 2 (by omega), hhop 3 (by omega), hhop 4 (by omega), hfixed 0 (by omega),
    hfixed 9 (by omega), hfixed 13 (by omega), hfixed 14 (by omega), hfixed 15 (by omega)]
  split
  · split
    · rfl
    · split
      · rfl
      · simp only [Option.map_some, venueOf, turned, mapBody, Option.some.injEq, DexEvent.mk.injEq, true_and]
        congr 1
        funext f
        cases f with
        | isBuy => simp
        | _ => rfl
  · rfl

end Hop

/-! ### A whole route -/

/-- What a `filterMap` keeps comes from a sublist, in its order. -/
theorem filterMap_forall₂ {α β : Type} {f : α → Option β} : ∀ l : List α,
    ∃ kept : List α, kept.Sublist l ∧ List.Forall₂ (fun a b => f a = some b) kept (l.filterMap f)
  | [] => ⟨[], .slnil, .nil⟩
  | a :: l => by
    obtain ⟨kept, hsub, hkept⟩ := filterMap_forall₂ (f := f) l
    cases h : f a with
    | none => exact ⟨kept, hsub.cons a, by rwa [List.filterMap_cons_none h]⟩
    | some b => exact ⟨a :: kept, hsub.cons_cons a, by rw [List.filterMap_cons_some h]; exact .cons h hkept⟩

/-- What an instruction must be to be read as a route. -/
def IsRoute (keys : List Pubkey) (ix : CompiledInstruction) : Prop :=
  ¬ (ix.data.length ≠ 24 ∨ ¬ multiHopSwap <+: ix.data ∨ ix.accounts.length < 21 ∨
      (ix.accounts.length - 16) % 5 ≠ 0 ∨ (ix.data.drop 8).take 8 = List.replicate 8 0 ∨
      (ix.data.drop 16).take 8 = List.replicate 8 0) ∧
    ¬ (routeKey keys ix 11 ≠ some pumpswapProgramId ∨ routeKey keys ix 12 ≠ some pumpfunProgramId ∨
      routeKey keys ix 0 = none)

instance (keys : List Pubkey) (ix : CompiledInstruction) : Decidable (IsRoute keys ix) :=
  inferInstanceAs (Decidable (_ ∧ _))

section Route

variable (X : Outside) (keys : List Pubkey) (index : ℕ) (ix : CompiledInstruction) (metadata : EventMetadata)

/-- The trade of hop `hop`. -/
def hopTrade (hop : ℕ) : Option DexEvent :=
  curveHop X (routeKey keys ix) ((routeDirection (routeKey keys ix) (hopCount ix)).getD false)
    (rawPayload keys pumpswapProgramId index ix) metadata (16 + hop * 5)

theorem parseCurveHops_eq : parseCurveHops X keys index ix metadata =
    if IsRoute keys ix then (List.range (hopCount ix)).filterMap (hopTrade X keys index ix metadata) else [] := by
  unfold parseCurveHops
  by_cases hroute : IsRoute keys ix
  · rw [if_pos hroute, if_neg hroute.1]
    exact if_neg hroute.2
  · rw [if_neg hroute]
    split
    case isTrue => rfl
    case isFalse h => exact if_pos (not_not.mp fun h' => hroute ⟨h, h'⟩)

/-- Every trade belongs to a hop, and the hops are taken in order. -/
theorem parseCurveHops_sound : ∃ hops : List ℕ, hops.Pairwise (· < ·) ∧
    List.Forall₂ (TradeOfHop X keys ix) hops (parseCurveHops X keys index ix metadata) := by
  rw [parseCurveHops_eq]
  by_cases hroute : IsRoute keys ix
  · rw [if_pos hroute]
    obtain ⟨hops, hsub, hhops⟩ := filterMap_forall₂ (f := hopTrade X keys index ix metadata) (List.range (hopCount ix))
    refine ⟨hops, List.pairwise_lt_range.sublist hsub, ?_⟩
    have hlt : ∀ hop ∈ hops, hop < hopCount ix := fun hop hhop => List.mem_range.mp (hsub.subset hhop)
    refine ((List.forall₂_and_left hops _).mpr ⟨hlt, hhops⟩).imp fun hop e he => ?_
    obtain ⟨hkind, -, hmint, hquote, hcurve, hderived⟩ := curveHop_eq_some he.2
    exact ⟨hkind, he.1, hmint, hquote, hcurve, hderived⟩
  · rw [if_neg hroute]
    exact ⟨[], .nil, .nil⟩

/-- A route without a direction is not bought. -/
theorem parseCurveHops_undirected (h : routeDirection (routeKey keys ix) (hopCount ix) = none) :
    ∀ e ∈ parseCurveHops X keys index ix metadata, e.body.flag .isBuy = false := by
  intro e he
  rw [parseCurveHops_eq] at he
  split at he
  case isTrue =>
    obtain ⟨hop, -, hhop⟩ := List.mem_filterMap.mp he
    rw [hopTrade, h] at hhop
    exact (curveHop_eq_some hhop).2.1
  case isFalse => cases he

variable {X keys index ix metadata}

theorem isRoute_reverseHops : IsRoute keys (reverseHops ix) ↔ IsRoute keys ix := by
  by_cases hlong : 16 ≤ ix.accounts.length
  · rw [IsRoute, IsRoute, length_reverseHops, routeKey_fixed hlong (by omega), routeKey_fixed hlong (by omega),
      routeKey_fixed hlong (by omega)]
    rfl
  · have hshort : ix.accounts.length < 21 := by omega
    refine iff_of_false (fun h => h.1 ?_) fun h => h.1 (.inr (.inr (.inl hshort)))
    exact .inr (.inr (.inl (by rw [length_reverseHops]; exact hshort)))

theorem hopTrade_reverseHops (h : IsRoute keys ix) {d : Bool}
    (hd : routeDirection (routeKey keys ix) (hopCount ix) = some d) {hop : ℕ} (hhop : hop < hopCount ix) :
    (hopTrade X keys index (reverseHops ix) metadata hop).map venueOf =
      (hopTrade X keys index ix metadata (hopCount ix - 1 - hop)).map fun e => turned (venueOf e) := by
  have hlong : 16 ≤ ix.accounts.length := by
    have hlen := h.1
    rw [not_or, not_or, not_or] at hlen
    omega
  have hdirection : routeDirection (routeKey keys (reverseHops ix)) (hopCount ix) = some !d := by
    rw [routeDirection_reversed fun i hi j hj => routeKey_hop hi hj, hd]
    rfl
  rw [hopTrade, hopTrade, hopCount_reverseHops, hd, hdirection]
  exact curveHop_turned (fun i hi => routeKey_fixed hlong hi) fun j hj => routeKey_hop hhop hj

/-- **A route with a direction, read the other way, is the same venues in reverse
order with the other direction.** -/
theorem parseCurveHops_reversed {d : Bool} (hd : routeDirection (routeKey keys ix) (hopCount ix) = some d) :
    (parseCurveHops X keys index (reverseHops ix) metadata).map venueOf =
      ((parseCurveHops X keys index ix metadata).map fun e => turned (venueOf e)).reverse := by
  rw [parseCurveHops_eq, parseCurveHops_eq]
  by_cases hroute : IsRoute keys ix
  · rw [if_pos hroute, if_pos (isRoute_reverseHops.mpr hroute), hopCount_reverseHops]
    have hreverse : (List.range (hopCount ix)).map (hopCount ix - 1 - ·) = (List.range (hopCount ix)).reverse := by
      rw [List.range_eq_range', List.reverse_range', Nat.zero_add, List.range_eq_range']
    calc ((List.range (hopCount ix)).filterMap (hopTrade X keys index (reverseHops ix) metadata)).map venueOf
        = (List.range (hopCount ix)).filterMap fun hop =>
            (hopTrade X keys index (reverseHops ix) metadata hop).map venueOf := List.map_filterMap
      _ = (List.range (hopCount ix)).filterMap fun hop =>
            (hopTrade X keys index ix metadata (hopCount ix - 1 - hop)).map fun e => turned (venueOf e) :=
          List.filterMap_congr fun hop hhop => hopTrade_reverseHops hroute hd (List.mem_range.mp hhop)
      _ = (List.range (hopCount ix)).reverse.filterMap fun hop =>
            (hopTrade X keys index ix metadata hop).map fun e => turned (venueOf e) := by
          rw [← hreverse, List.filterMap_map]
          rfl
      _ = _ := by rw [List.filterMap_reverse, ← List.map_filterMap]
  · rw [if_neg hroute, if_neg fun h => hroute (isRoute_reverseHops.mp h)]
    rfl

end Route

/-- **Routes over bonding curves.** Every trade belongs to a hop whose bonding curve
is derived from its mint, in the order of the hops. With the hop groups of a route
that has a direction reversed, the same venues come in reverse order with the other
direction. A route of one hop, or one without a direction, is not bought. -/
theorem multi_hop (X : Outside) (keys : List Pubkey) (index : ℕ) (ix : CompiledInstruction) (metadata : EventMetadata) :
    (∃ hops : List ℕ, hops.Pairwise (· < ·) ∧
        List.Forall₂ (TradeOfHop X keys ix) hops (parseCurveHops X keys index ix metadata)) ∧
      ((routeDirection (routeKey keys ix) (hopCount ix)).isSome →
        (parseCurveHops X keys index (reverseHops ix) metadata).map venueOf =
          ((parseCurveHops X keys index ix metadata).map fun e => turned (venueOf e)).reverse) ∧
      (hopCount ix ≤ 1 ∨ routeDirection (routeKey keys ix) (hopCount ix) = none →
        ∀ e ∈ parseCurveHops X keys index ix metadata, e.body.flag .isBuy = false) := by
  refine ⟨parseCurveHops_sound X keys index ix metadata, fun hd => ?_, fun h => ?_⟩
  · obtain ⟨d, hd⟩ := Option.isSome_iff_exists.mp hd
    exact parseCurveHops_reversed hd
  · refine parseCurveHops_undirected X keys index ix metadata ?_
    rcases h with hsingle | hnone
    · exact routeDirection_single hsingle
    · exact hnone

/-! ### A route of two hops -/

/-- Every program address is `3`. -/
def oneCurve : Outside := ⟨fun _ _ => 3, fun _ _ _ _ _ => none, fun _ _ => false⟩

def twoHopKeys : List Pubkey := [9, pumpswapProgramId, pumpfunProgramId, 3, 4, 5, 6]

/-- From the mint `4` over `5` to `6`; the program's keys stand at 11 and 12. -/
def twoHops : CompiledInstruction :=
  ⟨1, List.replicate 11 0 ++ [1, 2, 0, 0, 0] ++ [5, 4, 3, 0, 0] ++ [4, 6, 3, 0, 0],
    multiHopSwap ++ List.replicate 16 1⟩

theorem multi_hop_twoHops :
    (parseCurveHops oneCurve twoHopKeys 0 (reverseHops twoHops) ⟨[], 0, 0, 0, 0, none⟩).map venueOf =
      ((parseCurveHops oneCurve twoHopKeys 0 twoHops ⟨[], 0, 0, 0, 0, none⟩).map fun e => turned (venueOf e)).reverse :=
  (multi_hop oneCurve twoHopKeys 0 twoHops ⟨[], 0, 0, 0, 0, none⟩).2.1 (by decide)

end Stream
end ShredSdk
