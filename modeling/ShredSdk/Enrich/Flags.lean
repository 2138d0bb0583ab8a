/-
# The flags a trade gets from its create

A trade gets the flags of the first create of its mint in the list, and a create
of the second kind those of the first create event of its mint. The module's
comment has the flags of the creates merged into the trades of their mint
(`FlagsJoined`): this holds of a list exactly if the first create of a mint has
every flag that a trade lacks and a create has (`same_tx_flags_iff`), and so it
fails where a later create has a flag the first one lacks
(`first_create_decides`).

Key definitions: `createsOf`, `completedFlag`, `carriedFlag`, `FlagsCarried`,
`FlagsJoined`, `FlagsReach`.
Key theorems: `flags_eq`, `flags_carried`, `same_tx_flags_iff`,
`first_create_decides`.
-/
import ShredSdk.Enrich.PostMerge

namespace ShredSdk
namespace FeeEnrich

open Merger

variable (events : List DexEvent)

/-- The creates of a mint. -/
def createsOf (mint : Pubkey) : List DexEvent :=
  events.filter fun e => isCreateKind e.kind && e.body.key .mint = mint && mint ≠ 0

/-- A flag of a create, the first create event's filled in. -/
def completedFlag (c : DexEvent) (f : FlagField) : Bool :=
  c.body.flag f || (c.kind = .pumpFunCreateV2 &&
    ((createsOf events (c.body.key .mint)).find? fun c => c.kind = .pumpFunCreate).any (·.body.flag f))

/-- A flag of the first create of a mint. -/
def carriedFlag (mint : Pubkey) (f : FlagField) : Bool :=
  (createsOf events mint).head?.any fun c => completedFlag events c f

/-- What enriching does to the flags of an event. -/
structure FlagsCarried (old new : DexEvent) : Prop where
  kind : new.kind = old.kind
  /-- A trade gets those of the first create of its mint. -/
  trade : isTradeKind old.kind = true →
    new.body.flag .mayhemMode =
        (old.body.flag .mayhemMode || carriedFlag events (old.body.key .mint) .isMayhemMode) ∧
      new.body.flag .isCashbackCoin =
        (old.body.flag .isCashbackCoin || carriedFlag events (old.body.key .mint) .isCashbackEnabled)
  /-- A trade whose mint has no create keeps its flags. -/
  alone : isTradeKind old.kind = true → createsOf events (old.body.key .mint) = [] → new.body.flag = old.body.flag
  /-- A create of the second kind gets those of the first create event of its mint. -/
  createV2 : old.kind = .pumpFunCreateV2 → ∀ f, new.body.flag f =
    if f ∈ fillCreateV2FromCreate.flag.fill then completedFlag events old f else old.body.flag f
  others : ¬ isTradeKind old.kind = true → old.kind ≠ .pumpFunCreateV2 → new.body.flag = old.body.flag

/-- Some create of the mint has the flag. -/
def createHas (mint : Pubkey) (f : FlagField) : Bool :=
  events.any fun e => isCreateKind e.kind && e.body.key .mint = mint && e.body.flag f

/-- The flags as the module's comment has them: those of all creates of a mint merged into its trades,
and the flags of all other events kept. -/
structure FlagsJoined (old new : DexEvent) : Prop where
  mayhem : isTradeKind old.kind = true → new.body.flag .mayhemMode =
    (old.body.flag .mayhemMode || createHas events (old.body.key .mint) .isMayhemMode)
  cashback : isTradeKind old.kind = true → new.body.flag .isCashbackCoin =
    (old.body.flag .isCashbackCoin || createHas events (old.body.key .mint) .isCashbackEnabled)
  alone : isTradeKind old.kind = true →
    (∀ c ∈ events, isCreateKind c.kind = true → c.body.key .mint ≠ old.body.key .mint) →
      new.body.flag = old.body.flag
  others : ¬ isTradeKind old.kind = true → new.body.flag = old.body.flag

/-- The first create of the event's mint has what the event lacks. -/
structure FlagsReach (e : DexEvent) : Prop where
  mayhem : isTradeKind e.kind = true → createHas events (e.body.key .mint) .isMayhemMode = true →
    e.body.flag .mayhemMode = true ∨ carriedFlag events (e.body.key .mint) .isMayhemMode = true
  cashback : isTradeKind e.kind = true → createHas events (e.body.key .mint) .isCashbackEnabled = true →
    e.body.flag .isCashbackCoin = true ∨ carriedFlag events (e.body.key .mint) .isCashbackEnabled = true
  /-- A create of the second kind lacks no flag of the first create event of its mint. -/
  createV2 : e.kind = .pumpFunCreateV2 → ∀ f ∈ fillCreateV2FromCreate.flag.fill,
    ((createsOf events (e.body.key .mint)).find? fun c => c.kind = .pumpFunCreate).any (·.body.flag f) = true →
      e.body.flag f = true

section Creates

variable {events} {mint : Pubkey} {e : DexEvent}

theorem createsOf_zero : createsOf events 0 = [] := by
  unfold createsOf
  rw [List.filter_eq_nil_iff]
  intro e _
  simp

theorem mem_createsOf {c : DexEvent} : c ∈ createsOf events mint ↔
    c ∈ events ∧ isCreateKind c.kind = true ∧ c.body.key .mint = mint ∧ mint ≠ 0 := by
  unfold createsOf
  rw [List.mem_filter, Bool.and_eq_true, Bool.and_eq_true, decide_eq_true_eq, decide_eq_true_eq, and_assoc]

/-- The first create event. -/
theorem creates_eq (hmint : mint ≠ 0) : (evidenceOf events).creates mint =
    ((createsOf events mint).find? fun c => c.kind = .pumpFunCreate).map (·.body) := by
  have hpred : (fun e : DexEvent => decide ((e.kind = .pumpFunCreate ∧ e.body.key .mint ≠ 0) ∧ e.body.key .mint = mint)) =
      fun e => decide ((isCreateKind e.kind && e.body.key .mint = mint && mint ≠ 0) = true ∧
        decide (e.kind = .pumpFunCreate) = true) := by
    funext e
    refine decide_eq_decide.mpr ⟨?_, ?_⟩
    · rintro ⟨⟨hkind, hne⟩, rfl⟩
      simp [hkind, hne, isCreateKind]
    · rintro ⟨h, hkind⟩
      simp only [Bool.and_eq_true, decide_eq_true_eq] at h hkind
      exact ⟨⟨hkind, h.1.2 ▸ hmint⟩, h.1.2⟩
  unfold createsOf
  rw [List.find?_filter, ← hpred]
  exact firstOf_ite _ _ _ events mint

/-- The first pass completes the flags of the creates. -/
theorem updateCreateV2_flag (hmint : e.body.key .mint ≠ 0) {f : FlagField}
    (hf : f ∈ fillCreateV2FromCreate.flag.fill) :
    (updateCreateV2 (evidenceOf events).creates e).body.flag f = completedFlag events e f := by
  unfold completedFlag
  by_cases hkind : e.kind = .pumpFunCreateV2
  · unfold updateCreateV2
    rw [if_pos ⟨hkind, hmint⟩, creates_eq hmint, hkind]
    cases (createsOf events (e.body.key .mint)).find? fun c => c.kind = .pumpFunCreate with
    | none => simp
    | some c =>
      show fillCreateV2FromCreate.flag.merge (isNamed c.body) false e.body.flag c.body.flag f = _
      have hfill : ∀ old new : Bool, MergeRule.fill.apply false old new = (old || new) := by decide
      have hrule : fillCreateV2FromCreate.flag.rule (isNamed c.body) f = .fill := by
        have hnone : f ∉ fillCreateV2FromCreate.flag.take ∧ f ∉ fillCreateV2FromCreate.flag.takeIf ∧
            f ∉ fillCreateV2FromCreate.flag.put := ⟨List.not_mem_nil, List.not_mem_nil, List.not_mem_nil⟩
        unfold FieldRules.rule
        rw [if_neg hnone.1, if_neg hnone.2.1, if_neg hnone.2.2, if_pos hf]
      unfold FieldRules.merge
      rw [hrule, hfill]
      simp
  · rw [updateCreateV2_of_ne hkind]
    simp [hkind]

/-- The flags of the first create. -/
theorem flags_eq (hmint : mint ≠ 0) : (evidenceOf events).flags mint =
    (createsOf events mint).head?.map fun c =>
      (completedFlag events c .isCashbackEnabled, completedFlag events c .isMayhemMode) := by
  have hpred : (fun e : DexEvent => decide ((isCreateKind e.kind = true ∧ e.body.key .mint ≠ 0) ∧
      e.body.key .mint = mint)) ∘ updateCreateV2 (evidenceOf events).creates =
        fun e => isCreateKind e.kind && e.body.key .mint = mint && mint ≠ 0 := by
    funext e
    show decide ((isCreateKind (updateCreateV2 _ e).kind = true ∧ (updateCreateV2 _ e).body.key .mint ≠ 0) ∧
      (updateCreateV2 _ e).body.key .mint = mint) = _
    rw [updateCreateV2_kind, updateCreateV2_key (k := .mint) (by decide)]
    by_cases hsame : e.body.key .mint = mint
    · simp [hsame, hmint]
    · simp [hsame]
  have hfirst : (evidenceOf events).flags mint = (((events.map (updateCreateV2 (evidenceOf events).creates)).find?
      fun e => (isCreateKind e.kind = true ∧ e.body.key .mint ≠ 0) ∧ e.body.key .mint = mint).map fun e =>
        (e.body.flag .isCashbackEnabled, e.body.flag .isMayhemMode)) := firstOf_ite _ _ _ _ mint
  rw [hfirst, List.find?_map, hpred, Option.map_map]
  unfold createsOf
  rw [List.head?_filter]
  refine Option.map_congr fun c hc => ?_
  have hcreate := List.find?_some hc
  simp only [Bool.and_eq_true, decide_eq_true_eq] at hcreate
  have hne : c.body.key .mint ≠ 0 := hcreate.1.2 ▸ hmint
  show ((updateCreateV2 _ c).body.flag .isCashbackEnabled, (updateCreateV2 _ c).body.flag .isMayhemMode) = _
  rw [updateCreateV2_flag hne (by decide), updateCreateV2_flag hne (by decide)]

/-- What a create of the second kind gets. -/
theorem completed_eq (hv2 : e.kind = .pumpFunCreateV2) (f : FlagField) :
    ((evidenceOf events).update e).body.flag f =
      if f ∈ fillCreateV2FromCreate.flag.fill then completedFlag events e f else e.body.flag f := by
  have hcreate : isCreateKind e.kind = true := by
    rw [hv2]
    rfl
  rw [(update_rest hcreate).2.1]
  by_cases hmint : e.body.key .mint = 0
  · have hsame : updateCreateV2 (evidenceOf events).creates e = e := if_neg fun h => h.2 hmint
    have hcompleted : completedFlag events e f = e.body.flag f := by
      unfold completedFlag
      rw [hmint, createsOf_zero]
      simp
    rw [hsame, hcompleted, ite_self]
  · by_cases hf : f ∈ fillCreateV2FromCreate.flag.fill
    · rw [if_pos hf]
      exact updateCreateV2_flag hmint hf
    · rw [if_neg hf]
      unfold updateCreateV2
      rw [if_pos ⟨hv2, hmint⟩]
      cases (evidenceOf events).creates (e.body.key .mint) with
      | none => rfl
      | some c =>
        exact (FieldRules.merge_of_fill List.not_mem_nil List.not_mem_nil List.not_mem_nil).resolve_right
          fun h => hf h.1

/-- What a trade gets. -/
theorem carried_eq (htrade : isTradeKind e.kind = true) :
    ((evidenceOf events).update e).body.flag .mayhemMode =
        (e.body.flag .mayhemMode || carriedFlag events (e.body.key .mint) .isMayhemMode) ∧
      ((evidenceOf events).update e).body.flag .isCashbackCoin =
        (e.body.flag .isCashbackCoin || carriedFlag events (e.body.key .mint) .isCashbackEnabled) := by
  rw [update_trade htrade]
  unfold carriedFlag
  by_cases hmint : e.body.key .mint = 0
  · have hsame : updateTradeFlags (evidenceOf events).flags e = e := if_neg fun h => h.2 hmint
    rw [hsame, hmint, createsOf_zero]
    simp
  · have hflags := @flags_eq events _ hmint
    cases hhead : (createsOf events (e.body.key .mint)).head? with
    | none =>
      rw [hhead] at hflags
      rw [updateTradeFlags_none hflags]
      simp
    | some c =>
      rw [hhead] at hflags
      rw [updateTradeFlags_some ⟨htrade, hmint⟩ hflags]
      exact ⟨rfl, rfl⟩

/-- A trade whose mint has no create keeps its flags. -/
theorem carried_alone (htrade : isTradeKind e.kind = true) (hnone : createsOf events (e.body.key .mint) = []) :
    ((evidenceOf events).update e).body.flag = e.body.flag := by
  rw [update_trade htrade]
  by_cases hmint : e.body.key .mint = 0
  · rw [show updateTradeFlags (evidenceOf events).flags e = e from if_neg fun h => h.2 hmint]
  · have hflags := @flags_eq events _ hmint
    rw [hnone] at hflags
    rw [updateTradeFlags_none hflags]

/-- A completed flag is one of a create of the mint. -/
theorem any_completed {f : FlagField} : (createsOf events mint).any (fun c => completedFlag events c f) =
    (createsOf events mint).any (·.body.flag f) := by
  rw [Bool.eq_iff_iff, List.any_eq_true, List.any_eq_true]
  constructor
  · rintro ⟨c, hc, hflag⟩
    unfold completedFlag at hflag
    rcases Bool.or_eq_true_iff.mp hflag with hown | hfirst
    · exact ⟨c, hc, hown⟩
    · have hfound := (Bool.and_eq_true_iff.mp hfirst).2
      rw [(mem_createsOf.mp hc).2.2.1, Option.any_eq_true] at hfound
      obtain ⟨c', hc', hflag'⟩ := hfound
      exact ⟨c', List.mem_of_find?_eq_some hc', hflag'⟩
  · rintro ⟨c, hc, hflag⟩
    exact ⟨c, hc, by rw [completedFlag, hflag, Bool.true_or]⟩

/-- What is carried is a flag of some create of the mint. -/
theorem createHas_of_carried {f : FlagField} (h : carriedFlag events mint f = true) :
    createHas events mint f = true := by
  obtain ⟨c, hc, hflag⟩ := (Option.any_eq_true _ _).mp h
  have hany : (createsOf events mint).any (·.body.flag f) = true := by
    rw [← any_completed, List.any_eq_true]
    exact ⟨c, List.mem_of_mem_head? (Option.mem_def.mpr hc), hflag⟩
  obtain ⟨c', hc', hflag'⟩ := List.any_eq_true.mp hany
  obtain ⟨hmem, hkind, hmint, -⟩ := mem_createsOf.mp hc'
  exact List.any_eq_true.mpr ⟨c', hmem, by simp [hkind, hmint, hflag']⟩

/-- Of two flags or-ed with the same, the same comes if the smaller reaches where the greater is set. -/
theorem or_eq_or_iff {own carried any : Bool} (hle : carried = true → any = true) :
    (own || carried) = (own || any) ↔ (any = true → own = true ∨ carried = true) := by
  cases own <;> cases carried <;> cases any <;> simp_all

end Creates

/-- **The flags of one transaction**: trades get those of the first create of their mint. -/
theorem flags_carried : List.Forall₂ (FlagsCarried events) events (enrichPumpfunSameTxPostMerge events) := by
  rw [postMerge_eq_map, List.forall₂_map_right_iff]
  refine List.forall₂_same.mpr fun e _ =>
    ⟨update_kind, carried_eq, carried_alone, completed_eq, fun htrade hv2 => ?_⟩
  by_cases hcreate : isCreateKind e.kind = true
  · rw [(update_rest hcreate).2.1, updateCreateV2_of_ne hv2]
  · rw [update_other htrade hcreate]

/-- An event's flags are joined exactly if they reach it. -/
theorem FlagsCarried.joined_iff {events : List DexEvent} {old new : DexEvent} (h : FlagsCarried events old new) :
    FlagsJoined events old new ↔ FlagsReach events old := by
  constructor
  · intro hj
    refine ⟨fun htrade => ?_, fun htrade => ?_, fun hv2 f hf hfirst => ?_⟩
    · exact (or_eq_or_iff createHas_of_carried).mp ((h.trade htrade).1.symm.trans (hj.mayhem htrade))
    · exact (or_eq_or_iff createHas_of_carried).mp ((h.trade htrade).2.symm.trans (hj.cashback htrade))
    · have hnot : ¬ isTradeKind old.kind = true := by rw [hv2]; decide
      have hflag := congrFun (hj.others hnot) f
      rw [h.createV2 hv2, if_pos hf, completedFlag, hfirst] at hflag
      rw [← hflag]
      simp [hv2]
  · intro hr
    refine ⟨fun htrade => ?_, fun htrade => ?_, fun htrade hnone => h.alone htrade ?_, fun htrade => ?_⟩
    · exact (h.trade htrade).1.trans ((or_eq_or_iff createHas_of_carried).mpr (hr.mayhem htrade))
    · exact (h.trade htrade).2.trans ((or_eq_or_iff createHas_of_carried).mpr (hr.cashback htrade))
    · refine List.eq_nil_iff_forall_not_mem.mpr fun c hc => ?_
      obtain ⟨hmem, hkind, hmint, -⟩ := mem_createsOf.mp hc
      exact hnone c hmem hkind hmint
    · by_cases hv2 : old.kind = .pumpFunCreateV2
      · funext f
        rw [h.createV2 hv2 f]
        split_ifs with hf
        · have hreach := hr.createV2 hv2 f hf
          unfold completedFlag
          cases hfirst : ((createsOf events (old.body.key .mint)).find? fun c => c.kind = .pumpFunCreate).any
              (·.body.flag f) with
          | false => rw [Bool.and_false, Bool.or_false]
          | true => rw [hreach hfirst, Bool.true_or]
        · rfl
      · exact h.others htrade hv2

/-- **The flags of one transaction** are joined exactly if the first create of each mint has every flag
that a trade of the mint lacks and a create has, and no create of the second kind lacks one of the first
create event of its mint. -/
theorem same_tx_flags_iff : List.Forall₂ (FlagsJoined events) events (enrichPumpfunSameTxPostMerge events) ↔
    ∀ e ∈ events, FlagsReach events e := by
  have hcarried := flags_carried events
  rw [postMerge_eq_map, List.forall₂_map_right_iff, List.forall₂_same] at hcarried ⊢
  exact forall₂_congr fun e he => (hcarried e he).joined_iff

/-- A create of the second kind in mayhem mode, the create event it was logged with, and a trade. -/
def lateCreateV2 : List DexEvent :=
  [{ kind := .pumpFunCreate
     body := { metadata := ⟨[], 0, 0, 0, 0, none⟩, key := fun k => if k = .mint then 7 else 0 } },
   { kind := .pumpFunCreateV2
     body := {
      metadata := ⟨[], 0, 0, 0, 0, none⟩
      key := fun k => if k = .mint then 7 else 0
      flag := fun f => f = .isMayhemMode } },
   { kind := .pumpFunTrade
     body := { metadata := ⟨[], 0, 0, 0, 0, none⟩, key := fun k => if k = .mint then 7 else 0 } }]

/-- The first create decides: the trade does not get the flag of the later one. -/
theorem first_create_decides :
    ¬ List.Forall₂ (FlagsJoined lateCreateV2) lateCreateV2 (enrichPumpfunSameTxPostMerge lateCreateV2) := by
  intro hall
  have hnew : ∃ new, (enrichPumpfunSameTxPostMerge lateCreateV2)[2]? = some new ∧
      new.body.flag .mayhemMode = false := ⟨_, rfl, by decide⟩
  obtain ⟨new, hget, hflag⟩ := hnew
  obtain ⟨hlt, rfl⟩ := List.getElem?_eq_some_iff.mp hget
  have hjoined := (List.forall₂_iff_get.mp hall).2 2 (by decide) hlt
  exact absurd (hflag.symm.trans (hjoined.mayhem rfl)) (by decide)

/-- A trade in front of its create gets the create's flags. -/
example : carriedFlag (lateCreateV2.drop 1).reverse 7 .isMayhemMode = true := by decide

end FeeEnrich
end ShredSdk
