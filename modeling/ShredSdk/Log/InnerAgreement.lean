/-
# Inner instructions against logs

What a parser of inner instructions that ends in the readers of logs (`InnerModule`) reads
is what the log matcher reads of the same payload. It misses the events it does not have
in their form, and reads a few of those it has otherwise: a sale of PumpSwap, a swap of
DLMM with a bad flag where Borsh reads it, and a new pair of DLMM that breaks off before
its mints.

Key theorems: `pumpFees_agrees`, `pumpSwap_agrees`, `cpmm_agrees`, `dlmm_agrees`, `inner_agrees`.
-/
import ShredSdk.Log.InnerTables

namespace ShredSdk
namespace Logs

open InnerDiscriminators

section

variable {feature : ParseFeature} {form : InnerForm} {disc data : Bytes} {metadata metadata' : EventMetadata}
  {isCreatedBuy : Bool} (hdisc : disc.length = 8)

/-! ### Tables in both forms -/

/-- Neither marker is an event. -/
theorem markers_unknown : ∀ program ∈ programs.map Prod.snd,
    (scopedParsers program).lookup (leNat eventPrefix) = none ∧ leNat eventPrefix ∉ program.discriminators := by
  decide +kernel

theorem parserFn_eventPrefix (program : Program) : program.parserFn (leNat eventPrefix) = none := by
  have hunknown := (markers_unknown program (mem_programs program)).2
  cases h : program.parserFn (leNat eventPrefix) with
  | none => rfl
  | some fn => exact absurd (parserFn_isSome.mp (by rw [h]; rfl)) hunknown

include hdisc

theorem pumpFees_agrees : SameUpToMetadata (InnerModule.parse feature (form.key disc) data metadata .pumpFees)
    ((Program.pumpFees.parserFn (leNat disc)).bind (ParserFn.run data metadata' isCreatedBuy)) := by
  have htable : AllInner.pumpFees = (scopedParsers .pumpFees).map fun e => (id (leBytes 8 e.1), e.2) := by decide
  show SameUpToMetadata ((eventDiscriminator (form.key disc)).bind _) _
  have hform : eventDiscriminator (form.key disc) = some disc ∨ form = .historical ∧ disc = eventPrefix :=
    eventDiscriminator_key hdisc
  rcases hform with h | ⟨rfl, rfl⟩
  · rw [h, Option.bind_some, parserFn_table (by decide) List.not_mem_nil (.inl (by decide))]
    unfold parseInnerTable
    have hlookup : AllInner.pumpFees.lookup disc = (scopedParsers .pumpFees).lookup (leNat disc) := by
      rw [htable]
      exact lookup_carried Function.injective_id (scopedParsers_lt .pumpFees (by decide)) hdisc
    rw [hlookup]
    cases (scopedParsers .pumpFees).lookup (leNat disc) with
    | none => rfl
    | some parser => exact decode_same parser
  · rw [parserFn_eventPrefix]
    rfl

/-! ### PumpSwap -/

omit hdisc in
/-- A sale always comes out with the flag, which no log sets. -/
theorem parseSellInner_same : SameUpToMetadata (parseSellInner data metadata)
    (LogParser.decode .pumpAmmParseSellFromData data metadata') ↔
      LogParser.decode .pumpAmmParseSellFromData data metadata' = none := by
  unfold parseSellInner
  show SameUpToMetadata ((parseSellFromData data metadata).map setPumpPool) (parseSellFromData data metadata') ↔
    parseSellFromData data metadata' = none
  unfold parseSellFromData
  by_cases hlen : data.length < 352
  · rw [if_pos hlen, if_pos hlen]
    exact iff_of_true rfl rfl
  · rw [if_neg hlen, if_neg hlen]
    cases parseTradeTail (data.drop 352) with
    | none => exact iff_of_true rfl rfl
    | some tail =>
      refine iff_of_false (fun h => ?_) (Option.some_ne_none _)
      have hevent := Option.some.inj h
      have hflag := congrArg (fun e : DexEvent => e.body.flag .isPumpPool) hevent
      cases hflag

omit hdisc in
theorem scopedSell : ∀ e ∈ scopedParsers .pumpswap,
    (e.2 = .pumpAmmParseSellFromData ↔ e.1 = Discriminators.pumpswapSell) := by
  decide

omit hdisc in
theorem pumpSwapUpgrade_isSome (event : ℕ) :
    (pumpUpgradeEventType event (some pumpswapProgramId)).isSome = true ↔ event = PumpUpgrade.sweepPoolFee := by
  have hprogram : programOf pumpswapProgramId = some .pumpswap := rfl
  rw [upgrade_isSome hprogram]
  exact List.mem_singleton

omit hdisc in
theorem pumpSwapInner_unknown {key : Bytes} (h : key.take 8 ≠ eventPrefix ∨ key.drop 8 = eventSuffix) :
    parsePumpSwapInner key data metadata = none := by
  have hopening : ∀ e ∈ AllInner.pumpSwap, e.1.take 8 = eventPrefix ∧ e.1.drop 8 ≠ eventSuffix := by decide
  have hnone : AllInner.pumpSwap.lookup key = none := by
    refine List.lookup_eq_none_iff.mpr fun e he => ?_
    rw [bne_iff_ne]
    rintro rfl
    exact h.elim (· (hopening e he).1) fun hs => (hopening e he).2 hs
  unfold parsePumpSwapInner
  rw [hnone, Option.bind_none]

/-- The events of PumpSwap's own table. -/
theorem pumpSwapInner_anchor (hup : leNat disc ≠ PumpUpgrade.sweepPoolFee) :
    SameUpToMetadata (parsePumpSwapInner (InnerForm.anchor.key disc) data metadata)
        ((Program.pumpswap.parserFn (leNat disc)).bind (ParserFn.run data metadata' isCreatedBuy)) ↔
      (Program.pumpswap.parserFn (leNat disc)).bind (ParserFn.run data metadata' isCreatedBuy) = none ∨
        leNat disc ≠ Discriminators.pumpswapSell := by
  have htable : AllInner.pumpSwap =
      (scopedParsers .pumpswap).map fun e => (InnerForm.anchor.key (leBytes 8 e.1), e.2) := by decide
  have hlookup : AllInner.pumpSwap.lookup (InnerForm.anchor.key disc) = (scopedParsers .pumpswap).lookup (leNat disc) := by
    rw [htable]
    exact lookup_carried (key_inj .anchor) (scopedParsers_lt .pumpswap (by decide)) hdisc
  rw [parserFn_table (by decide) (fun h => hup (List.mem_singleton.mp h)) (.inl (by decide))]
  unfold parsePumpSwapInner
  rw [hlookup]
  cases h : (scopedParsers .pumpswap).lookup (leNat disc) with
  | none => exact iff_of_true rfl (.inl rfl)
  | some parser =>
    have hsell := scopedSell _ (mem_of_lookup h)
    show SameUpToMetadata (if parser = _ then parseSellInner data metadata else parser.decode data metadata)
      (parser.decode data metadata') ↔ parser.decode data metadata' = none ∨ _
    by_cases hparser : parser = .pumpAmmParseSellFromData
    · rw [if_pos hparser, hparser, parseSellInner_same]
      constructor
      · exact .inl
      · rintro (hnone | hne)
        · exact hnone
        · exact absurd (hsell.mp hparser) hne
    · rw [if_neg hparser]
      exact iff_of_true (decode_same parser) (.inr fun heq => hparser (hsell.mpr heq))

theorem pumpSwap_agrees :
    SameUpToMetadata (parsePumpSwapInnerInstruction (form.key disc) data metadata)
        ((Program.pumpswap.parserFn (leNat disc)).bind (ParserFn.run data metadata' isCreatedBuy)) ↔
      (Program.pumpswap.parserFn (leNat disc)).bind (ParserFn.run data metadata' isCreatedBuy) = none ∨
        ((form = .anchor ∨ leNat disc = PumpUpgrade.sweepPoolFee) ∧ leNat disc ≠ Discriminators.pumpswapSell) := by
  by_cases hmarker : form = .historical ∧ disc = eventPrefix
  · obtain ⟨rfl, rfl⟩ := hmarker
    rw [parserFn_eventPrefix]
    have hevent : innerEventDiscriminator (InnerForm.historical.key eventPrefix) = some (leNat eventSuffix) := rfl
    unfold parsePumpSwapInnerInstruction
    rw [hevent]
    simp only [pumpSwapUpgrade_isSome]
    rw [if_neg (by decide), pumpSwapInner_unknown (.inr rfl)]
    exact iff_of_true rfl (.inl rfl)
  · have hevent : innerEventDiscriminator (form.key disc) = some (leNat disc) := by
      cases form with
      | anchor => exact if_pos rfl
      | historical =>
        have hne : disc ≠ eventPrefix := fun h => hmarker ⟨rfl, h⟩
        unfold innerEventDiscriminator InnerForm.key
        rw [List.take_left' hdisc, List.drop_left' hdisc, if_neg hne, if_pos rfl]
    unfold parsePumpSwapInnerInstruction
    rw [hevent]
    simp only [pumpSwapUpgrade_isSome]
    by_cases hup : leNat disc = PumpUpgrade.sweepPoolFee
    · have hparser : Program.pumpswap.parserFn (leNat disc) = some (.upgrade (leNat disc)) := by
        rw [hup]
        rfl
      rw [if_pos hup, hparser, upgrade_parse ((pumpSwapUpgrade_isSome _).mpr hup)]
      exact iff_of_true pumpUpgradeParse_same (.inr ⟨.inr hup, by rw [hup]; decide⟩)
    · rw [if_neg hup]
      cases form with
      | anchor =>
        rw [pumpSwapInner_anchor hdisc hup]
        simp only [true_or, true_and]
      | historical =>
        have hne : disc ≠ eventPrefix := fun h => hmarker ⟨rfl, h⟩
        have hkey : (InnerForm.historical.key disc).take 8 ≠ eventPrefix := by
          unfold InnerForm.key
          rwa [List.take_left' hdisc]
        rw [pumpSwapInner_unknown (.inl hkey)]
        refine same_nothing fun h => ?_
        rcases h.1 with h | h
        · cases h
        · exact hup h

/-! ### CPMM -/

theorem cpmm_agrees :
    SameUpToMetadata (InnerModule.parse feature (form.key disc) data metadata .raydiumCpmm)
        ((Program.raydiumCpmm.parserFn (leNat disc)).bind (ParserFn.run data metadata' isCreatedBuy)) ↔
      (Program.raydiumCpmm.parserFn (leNat disc)).bind (ParserFn.run data metadata' isCreatedBuy) = none ∨
        (leNat disc ≠ Discriminators.raydiumCpmmSwapEvent ∧
          (form = .anchor ↔ leNat disc = Discriminators.raydiumCpmmLpChangeEvent)) := by
  have hchange : leNat disc = Discriminators.raydiumCpmmLpChangeEvent ↔ disc = [121, 163, 205, 201, 57, 218, 117, 60] :=
    leNat_inj hdisc
  have hlpChange : Program.raydiumCpmm.parserFn Discriminators.raydiumCpmmLpChangeEvent = some .lpChange := by decide
  show SameUpToMetadata (if _ then _ else parseInnerTable _ _ _ _) _ ↔ _
  cases form with
  | anchor =>
    by_cases hlp : disc = [121, 163, 205, 201, 57, 218, 117, 60]
    · rw [hchange.mpr hlp, hlpChange, if_pos (by rw [hlp]; rfl)]
      exact iff_of_true parseLpChangeFromData_same (.inr ⟨by decide, by simp⟩)
    · have hkey : InnerForm.anchor.key disc ≠ cpmmLpChangeInner := fun h => hlp (key_inj .anchor h)
      have hopening : ∀ e ∈ AllInner.raydiumCpmm, e.1.take 8 ≠ eventPrefix := by decide
      have hnone : AllInner.raydiumCpmm.lookup (InnerForm.anchor.key disc) = none := by
        refine List.lookup_eq_none_iff.mpr fun e he => ?_
        rw [bne_iff_ne]
        intro h
        exact hopening e he (by rw [← h]; rfl)
      unfold parseInnerTable
      rw [if_neg hkey, hnone, Option.bind_none]
      exact same_nothing fun h => hlp (hchange.mp (h.2.mp rfl))
  | historical =>
    have hkey : InnerForm.historical.key disc ≠ cpmmLpChangeInner := by
      intro h
      have hsuffix := congrArg (List.drop 8) h
      unfold InnerForm.key at hsuffix
      rw [List.drop_left' hdisc] at hsuffix
      revert hsuffix
      decide
    have htable : AllInner.raydiumCpmm =
        (scopedParsers .raydiumCpmm).tail.map fun e => (InnerForm.historical.key (leBytes 8 e.1), e.2) := by decide
    have hlookup : AllInner.raydiumCpmm.lookup (InnerForm.historical.key disc) =
        (scopedParsers .raydiumCpmm).tail.lookup (leNat disc) := by
      rw [htable]
      exact lookup_carried (key_inj .historical)
        (fun e he => scopedParsers_lt .raydiumCpmm (by decide) e (List.mem_of_mem_tail he)) hdisc
    have hfirst : ∀ e ∈ (scopedParsers .raydiumCpmm).tail, e.1 ≠ Discriminators.raydiumCpmmSwapEvent ∧
        e.1 ≠ Discriminators.raydiumCpmmLpChangeEvent := by decide
    unfold parseInnerTable
    rw [if_neg hkey, hlookup]
    by_cases hmissed : leNat disc = Discriminators.raydiumCpmmSwapEvent ∨
        leNat disc = Discriminators.raydiumCpmmLpChangeEvent
    · have hnone : (scopedParsers .raydiumCpmm).tail.lookup (leNat disc) = none := by
        refine List.lookup_eq_none_iff.mpr fun e he => ?_
        rw [bne_iff_ne]
        rintro h
        exact hmissed.elim (fun hs => (hfirst e he).1 (h.symm.trans hs)) fun hc => (hfirst e he).2 (h.symm.trans hc)
      rw [hnone, Option.bind_none]
      refine same_nothing fun h => ?_
      rcases hmissed with hs | hc
      · exact h.1 hs
      · cases h.2.mpr hc
    · have hs : leNat disc ≠ Discriminators.raydiumCpmmSwapEvent := fun h => hmissed (.inl h)
      have hc : leNat disc ≠ Discriminators.raydiumCpmmLpChangeEvent := fun h => hmissed (.inr h)
      have hrest : (scopedParsers .raydiumCpmm).lookup (leNat disc) =
          (scopedParsers .raydiumCpmm).tail.lookup (leNat disc) := by
        show List.lookup (leNat disc) ((Discriminators.raydiumCpmmSwapEvent, _) :: _) = _
        rw [List.lookup_cons, beq_eq_false_iff_ne.mpr hs]
        rfl
      rw [parserFn_table (by decide) List.not_mem_nil (.inr hc), hrest]
      refine iff_of_true ?_ (.inr ⟨hs, iff_of_false (fun h => nomatch h) hc⟩)
      cases (scopedParsers .raydiumCpmm).tail.lookup (leNat disc) with
      | none => rfl
      | some parser => exact decode_same parser

/-! ### DLMM -/

omit hdisc in
theorem dlmmReaders_keys : (InnerDlmm.readers feature).map Prod.fst =
    [[81, 108, 227, 190, 205, 208, 10, 196], [46, 116, 82, 215, 148, 27, 84, 77], [31, 94, 125, 90, 227, 52, 61, 186],
     [116, 244, 97, 232, 103, 31, 152, 58], [185, 74, 252, 125, 27, 215, 188, 111],
     [11, 18, 155, 194, 33, 115, 238, 119], [144, 142, 252, 84, 157, 53, 37, 121],
     [255, 196, 16, 107, 28, 202, 53, 128], [75, 122, 154, 48, 140, 74, 123, 163],
     [232, 171, 242, 97, 58, 77, 35, 45]] := rfl

/-- What one reader of DLMM is to the parser of logs. -/
def DlmmRead (feature : ParseFeature) (disc : Bytes) (read : EventReader) (parser : LogParser) : Prop :=
  ∀ data metadata metadata', SameUpToMetadata (read data metadata) (parser.decode data metadata') ↔
    parser.decode data metadata' = none ∨ ¬InnerModule.Differs feature (leNat disc) data .meteoraDlmm

omit hdisc in
/-- A reader that is the parser of logs. -/
theorem dlmmRead_same {read : EventReader} {parser : LogParser} (hswap : leNat disc ≠ Discriminators.meteoraDlmmSwap)
    (hpair : leNat disc ≠ Discriminators.meteoraDlmmInitializePool)
    (hread : ∀ data metadata, read data metadata = parser.decode data metadata) :
    DlmmRead feature disc read parser := fun data metadata metadata' =>
  iff_of_true (by rw [hread]; exact decode_same parser) (.inr fun h => h.elim (fun h => hswap h.1) fun h => hpair h.1)

omit hdisc in
theorem dlmmRead_swap : DlmmRead feature [81, 108, 227, 190, 205, 208, 10, 196] (InnerDlmm.parseSwap feature)
    .meteoraDlmmParseSwapFromData := by
  intro data metadata metadata'
  have hsame : SameUpToMetadata (MeteoraDlmm.parseSwapFromData data metadata)
      (MeteoraDlmm.parseSwapFromData data metadata') := same_logEvent
  have hpair : leNat [81, 108, 227, 190, 205, 208, 10, 196] ≠ Discriminators.meteoraDlmmInitializePool := by decide
  cases feature with
  | zeroCopy =>
    refine iff_of_true ?_ (.inr ?_)
    · show SameUpToMetadata (InnerDlmm.parseSwapZeroCopy data metadata) _
      rw [InnerDlmm.parseSwapZeroCopy_eq]
      exact hsame
    · rintro (⟨-, h, -⟩ | ⟨h, -⟩)
      · cases h
      · exact hpair h
  | borsh =>
    show SameUpToMetadata (InnerDlmm.parseSwapBorsh data metadata) (MeteoraDlmm.parseSwapFromData data metadata') ↔ _
    rw [InnerDlmm.parseSwapBorsh_eq]
    by_cases hswitch : Switch data 88
    · rw [if_pos hswitch]
      refine iff_of_true hsame (.inr ?_)
      rintro (⟨-, -, h⟩ | ⟨h, -⟩)
      · exact h hswitch
      · exact hpair h
    · rw [if_neg hswitch]
      exact same_nothing fun h => h (.inl ⟨rfl, rfl, hswitch⟩)

omit hdisc in
theorem dlmmRead_pair : DlmmRead feature [185, 74, 252, 125, 27, 215, 188, 111] InnerDlmm.parseLbPairCreate
    .meteoraDlmmParseLbPairCreateFromData := by
  intro data metadata metadata'
  have hswap : leNat [185, 74, 252, 125, 27, 215, 188, 111] ≠ Discriminators.meteoraDlmmSwap := by decide
  rw [InnerDlmm.parseLbPairCreate_eq]
  by_cases hshort : data.length < 98
  · rw [if_pos hshort]
    exact same_nothing fun h => h (.inr ⟨rfl, hshort⟩)
  · rw [if_neg hshort]
    refine iff_of_true same_logEvent (.inr ?_)
    rintro (⟨h, -⟩ | ⟨-, h⟩)
    · exact hswap h
    · exact hshort h

theorem dlmmReaders_rel : Option.Rel (DlmmRead feature disc) ((InnerDlmm.readers feature).lookup disc)
    ((scopedParsers .meteoraDlmm).lookup (leNat disc)) := by
  refine lookup_matched (fun read hmem => ?_) fun hmissing => List.lookup_eq_none_iff.mpr fun entry hentry => ?_
  · simp only [InnerDlmm.readers, List.mem_cons, Prod.mk.injEq, List.not_mem_nil, or_false] at hmem
    rcases hmem with ⟨rfl, rfl⟩ | ⟨rfl, rfl⟩ | ⟨rfl, rfl⟩ | ⟨rfl, rfl⟩ | ⟨rfl, rfl⟩ | ⟨rfl, rfl⟩ | ⟨rfl, rfl⟩ |
      ⟨rfl, rfl⟩ | ⟨rfl, rfl⟩ | ⟨rfl, rfl⟩
    · exact ⟨.meteoraDlmmParseSwapFromData, by decide, dlmmRead_swap⟩
    · exact ⟨.meteoraDlmmParseSwap2FromData, by decide, dlmmRead_same (by decide) (by decide) fun _ _ => rfl⟩
    · exact ⟨.meteoraDlmmParseAddLiquidityFromData, by decide,
        dlmmRead_same (by decide) (by decide) fun _ _ => InnerDlmm.parseAddLiquidity_eq⟩
    · exact ⟨.meteoraDlmmParseRemoveLiquidityFromData, by decide,
        dlmmRead_same (by decide) (by decide) fun _ _ => InnerDlmm.parseRemoveLiquidity_eq⟩
    · exact ⟨.meteoraDlmmParseLbPairCreateFromData, by decide, dlmmRead_pair⟩
    · exact ⟨.meteoraDlmmParseInitializeBinArrayFromData, by decide,
        dlmmRead_same (by decide) (by decide) fun _ _ => InnerDlmm.parseInitializeBinArray_eq⟩
    · exact ⟨.meteoraDlmmParsePositionCreateFromData, by decide,
        dlmmRead_same (by decide) (by decide) fun _ _ => InnerDlmm.parsePositionCreate_eq⟩
    · exact ⟨.meteoraDlmmParsePositionCloseFromData, by decide,
        dlmmRead_same (by decide) (by decide) fun _ _ => InnerDlmm.parsePositionClose_eq⟩
    · exact ⟨.meteoraDlmmParseClaimFeeFromData, by decide,
        dlmmRead_same (by decide) (by decide) fun _ _ => InnerDlmm.parseClaimFee_eq⟩
    · exact ⟨.meteoraDlmmParseClaimFee2FromData, by decide,
        dlmmRead_same (by decide) (by decide) fun _ _ => InnerDlmm.parseClaimFee2_eq⟩
  · have hcovered : ∀ entry ∈ scopedParsers .meteoraDlmm, leBytes 8 entry.1 ∈
        (InnerDlmm.readers feature).map Prod.fst := by
      rw [dlmmReaders_keys]
      decide
    rw [bne_iff_ne]
    intro heq
    obtain ⟨e, he, hkey⟩ := List.mem_map.mp (hcovered entry hentry)
    rw [← heq, ← hdisc, leBytes_leNat] at hkey
    exact hmissing e.2 (by rw [← hkey]; exact he)

theorem dlmm_agrees :
    SameUpToMetadata (InnerDlmm.parse feature (form.key disc) data metadata)
        ((Program.meteoraDlmm.parserFn (leNat disc)).bind (ParserFn.run data metadata' isCreatedBuy)) ↔
      (Program.meteoraDlmm.parserFn (leNat disc)).bind (ParserFn.run data metadata' isCreatedBuy) = none ∨
        ¬InnerModule.Differs feature (leNat disc) data .meteoraDlmm := by
  unfold InnerDlmm.parse
  have hform : eventDiscriminator (form.key disc) = some disc ∨ form = .historical ∧ disc = eventPrefix :=
    eventDiscriminator_key hdisc
  rcases hform with h | ⟨rfl, rfl⟩
  · rw [h, Option.bind_some, parserFn_table (by decide) List.not_mem_nil (.inl (by decide))]
    have hrel : Option.Rel (DlmmRead feature disc) ((InnerDlmm.readers feature).lookup disc)
        ((scopedParsers .meteoraDlmm).lookup (leNat disc)) := dlmmReaders_rel hdisc
    revert hrel
    cases (InnerDlmm.readers feature).lookup disc with
    | none =>
      cases (scopedParsers .meteoraDlmm).lookup (leNat disc) with
      | none => exact fun _ => iff_of_true rfl (.inl rfl)
      | some parser => exact fun hrel => nomatch hrel
    | some read =>
      cases (scopedParsers .meteoraDlmm).lookup (leNat disc) with
      | none => exact fun hrel => nomatch hrel
      | some parser =>
        intro hrel
        cases hrel with
        | some hread => exact hread data metadata metadata'
  · rw [parserFn_eventPrefix]
    exact iff_of_true rfl (.inl rfl)

/-! ### All of them -/

/-- **Inner instructions and logs**, for the nine modules of `InnerModule`. Where a payload is
handed over in a form its program's parser knows (`Carries`), both read the same event of
it, unless it is one of those that differ (`Differs`); in any other form nothing is read. -/
theorem inner_agrees (X : Externals) (line : LogLine) (m : InnerModule) {programId : Pubkey}
    (hprogram : programOf programId = some m.program) :
    SameUpToMetadata (m.parse feature (form.key disc) data metadata)
        (parsePayload (withDecoders X) line none (some programId) (leNat disc) data) ↔
      parsePayload (withDecoders X) line none (some programId) (leNat disc) data = none ∨
        (m.Carries form (leNat disc) ∧ ¬m.Differs feature (leNat disc) data) := by
  rw [programPayload_eq X line hprogram]
  cases m with
  | pumpFees => exact iff_of_true (pumpFees_agrees hdisc) (.inr ⟨trivial, id⟩)
  | pumpSwap => exact pumpSwap_agrees hdisc
  | raydiumCpmm =>
    refine (cpmm_agrees hdisc).trans (or_congr_right ?_)
    exact (and_iff_left id).symm
  | meteoraDlmm =>
    refine (dlmm_agrees hdisc).trans (or_congr_right ?_)
    exact (and_iff_right trivial).symm
  | raydiumLaunchlab =>
    refine (inner_table (by decide) (by decide) (by decide) (by decide) rfl hdisc).trans (or_congr_right ?_)
    exact (and_iff_left id).symm
  | raydiumClmm =>
    refine (inner_table (by decide) (by decide) (by decide) (by decide) rfl hdisc).trans (or_congr_right ?_)
    exact (and_iff_left id).symm
  | raydiumAmm =>
    refine (inner_table (by decide) (by decide) (by decide) (by decide) rfl hdisc).trans (or_congr_right ?_)
    exact (and_iff_left id).symm
  | orca =>
    refine (inner_table (by decide) (by decide) (by decide) (by decide) rfl hdisc).trans (or_congr_right ?_)
    exact (and_iff_left id).symm
  | meteoraAmm =>
    refine (inner_table (by decide) (by decide) (by decide) (by decide) rfl hdisc).trans (or_congr_right ?_)
    exact (and_iff_left id).symm

end

/-- A swap of DLMM whose flag is neither set nor clear. -/
theorem inner_agrees_badFlag : ¬SameUpToMetadata
    (InnerModule.parse .borsh (InnerForm.anchor.key [81, 108, 227, 190, 205, 208, 10, 196]) (List.replicate 129 2)
      (emptyLine.metadata pumpfunOnly) .meteoraDlmm)
    (parsePayload (withDecoders pumpfunOnly) emptyLine none (some meteoraDlmmProgramId)
      (leNat [81, 108, 227, 190, 205, 208, 10, 196]) (List.replicate 129 2)) := by
  have hparser : Program.meteoraDlmm.parserFn (leNat [81, 108, 227, 190, 205, 208, 10, 196]) =
      some (.table .meteoraDlmmParseSwapFromData) := by decide
  rw [inner_agrees rfl pumpfunOnly emptyLine .meteoraDlmm rfl, programPayload_eq pumpfunOnly emptyLine rfl, hparser]
  rintro (h | ⟨-, h⟩)
  · simp only [Option.bind_some, ParserFn.run, LogParser.decode, MeteoraDlmm.parseSwapFromData, logEvent_none,
      List.length_replicate] at h
    revert h
    decide
  · exact h (.inl ⟨rfl, rfl, by decide⟩)

end Logs
end ShredSdk
