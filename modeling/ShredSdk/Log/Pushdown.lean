/-
# Asking the filter early changes nothing

The matcher asks the filter before it decodes a line, and for most events not
again. That is the filter applied to the event of the unfiltered parse: for a
program's lines by `acceptsScoped`, which is
`shouldIncludeDexEvent` except that an include list is read by family for the
variants of a Pump.fun trade, and without a program by `shouldIncludeDexEvent`,
except for the trade discriminator Pump.fun and LaunchLab share.

Key definitions: `acceptsScoped`, `Base64Prefix`.
Key theorems: `parseProgramScopedEvent_filter`, `parseUnscopedEvent_filter`,
`parseUnscopedTrade_filter`, `log_filter_pushdown`.
-/
import ShredSdk.Lib.Overlay
import ShredSdk.Log.Matcher

namespace ShredSdk
namespace Logs

/-! ### Gates -/

section

variable {α : Type} {m : Option α} {p q : α → Bool} {g : Bool}

/-- A gate in front of a filtered result is a filter, if on the result the gate
and the filter behind it say what the filter says. -/
theorem gate_filter (h : ∀ a ∈ m, p a = (g && q a)) :
    (if g then m.filter q else none) = m.filter p := by
  cases m with
  | none => simp
  | some a =>
    have ha := h a rfl
    cases hg : g <;> simp [hg, Option.filter, ha]

/-- A gate that says what the filter says is the filter. -/
theorem gate_exact (h : ∀ a ∈ m, p a = g) : (if g then m else none) = m.filter p := by
  have hq : m.filter (fun _ => true) = m := by
    cases m <;> rfl
  rw [← gate_filter (g := g) (q := fun _ => true) fun a ha => by rw [h a ha, Bool.and_true], hq]

/-- A gate behind a narrower one can be left out. -/
theorem gate_gate {g' : Bool} (h : g = true → g' = true) :
    (if g then (if g' then m else none) else none) = if g then m else none := by
  cases g with
  | false => rfl
  | true => rw [if_pos rfl, if_pos rfl, if_pos (h rfl)]

/-- A gate that is open for whatever the filter lets through can be left out. -/
theorem gate_filter_of_imp (h : ∀ a ∈ m, p a = true → g = true) :
    (if g then m.filter p else none) = m.filter p := by
  refine gate_filter fun a ha => ?_
  cases hp : p a with
  | false => simp
  | true => simp [h a ha hp]

theorem bind_guard (m : Option α) (p : α → Bool) :
    (m.bind fun a => if p a then some a else none) = m.filter p := by
  cases m <;> simp [Option.filter]

end

theorem apply_none (m : Option DexEvent) : m.bind (applyEventTypeFilter none) = m := by
  cases m <;> rfl

theorem apply_some (m : Option DexEvent) (filter : EventTypeFilter) :
    m.bind (applyEventTypeFilter (some filter)) = m.filter filter.shouldIncludeDexEvent := by
  rw [← bind_guard]
  rfl

/-! ### Programs -/

theorem wantsSupportedLogs_of_program {filter : EventTypeFilter} (program : Program)
    (h : filter.includesAny program.eventTypes = true) : filterWantsSupportedLogs filter = true := by
  unfold filterWantsSupportedLogs
  cases program <;>
    simp only [Program.eventTypes] at h <;>
    simp [EventTypeFilter.includesPumpfun, EventTypeFilter.includesPumpFees,
      EventTypeFilter.includesPumpswap, EventTypeFilter.includesRaydiumLaunchlab,
      EventTypeFilter.includesRaydiumClmm, EventTypeFilter.includesRaydiumCpmm,
      EventTypeFilter.includesRaydiumAmmV4, EventTypeFilter.includesOrcaWhirlpool,
      EventTypeFilter.includesMeteoraPools, EventTypeFilter.includesMeteoraDammV2,
      EventTypeFilter.includesMeteoraDlmm, EventTypeFilter.includesMeteoraDbc, h]

/-! ### What the parsers return -/

/-- The types a program's parsers return are what its tables say, and among the
ones the filter asks about for the program. -/
theorem scopedParsers_type (program : Program) : ∀ e ∈ scopedParsers program,
    isTradeKind e.2.kind = false ∧ e.2.kind ≠ .raydiumCpmmLpChange ∧
      (scopedEventTypes program).lookup e.1 = kindType e.2.kind ∧
      (kindType e.2.kind).any (fun t => program.eventTypes.contains t) = true := by
  cases program <;> decide

theorem hotParsers_type : ∀ e ∈ hotParsers,
    isTradeKind e.2.kind = false ∧ e.2.kind ≠ .raydiumCpmmLpChange ∧
      discriminatorEventTypes.lookup e.1 = kindType e.2.kind ∧ (kindType e.2.kind).isSome = true := by
  decide

theorem unscopedParsers_type : ∀ e ∈ unscopedParsers,
    isTradeKind e.2.kind = false ∧ e.2.kind ≠ .raydiumCpmmLpChange ∧
      discriminatorEventTypes.lookup e.1 = kindType e.2.kind ∧ (kindType e.2.kind).isSome = true := by
  decide

/-- What `meteora_dlmm::parse_log` returns is of DLMM, and its discriminators
are none of those the unscoped table has a type but no parser for. -/
theorem meteoraDlmmParsers_type : ∀ e ∈ meteoraDlmmParsers,
    isTradeKind e.2.kind = false ∧ e.2.kind ≠ .raydiumCpmmLpChange ∧
      leNat e.1 ≠ Discriminators.raydiumLaunchlabPoolCreate ∧
      (kindType e.2.kind).any (fun t => meteoraDlmmTypes.contains t) = true := by
  decide

/-- A discriminator with a type has a parser, but for LaunchLab's pool creation. -/
theorem discriminatorEventTypes_parsed : ∀ e ∈ discriminatorEventTypes,
    e.1 = Discriminators.pumpfunTrade ∨ (hotParsers.lookup e.1).isSome = true ∨
      (unscopedParsers.lookup e.1).isSome = true ∨
      e.1 = Discriminators.raydiumLaunchlabPoolCreate := by
  decide

variable {X : Externals} {data : Bytes} {metadata : EventMetadata} {event : DexEvent}

theorem mem_runParser {parser : LogParser} (h : event ∈ runParser X parser data metadata) :
    event.kind = parser.kind := by
  obtain ⟨body, -, rfl⟩ := Option.map_eq_some_iff.mp h
  rfl

/-- A parser whose variant has a type returns events of that type. -/
theorem parser_shouldInclude {parser : LogParser} {eventType : EventType} (filter : EventTypeFilter)
    (h : event ∈ runParser X parser data metadata) (htrade : isTradeKind parser.kind = false)
    (hlp : parser.kind ≠ .raydiumCpmmLpChange) (htype : kindType parser.kind = some eventType) :
    filter.shouldIncludeDexEvent event = filter.shouldInclude eventType := by
  have hkind := mem_runParser h
  refine shouldInclude_of_type filter (hkind ▸ htrade) ?_
  calc eventTypeFromDexEvent event
      = kindType event.kind := eventType_of_kind (hkind ▸ hlp) event.body
    _ = some eventType := by rw [hkind, htype]

theorem parseTradeFromData_kind {isCreatedBuy : Bool}
    (h : event ∈ parseTradeFromData data metadata isCreatedBuy) :
    isTradeKind event.kind = true ∧ event.body.thirdProgram = none := by
  unfold parseTradeFromData at h
  split at h
  · cases h
  obtain ⟨ext, -, rfl⟩ := Option.map_eq_some_iff.mp h
  refine ⟨?_, rfl⟩
  simp only [tradeKind]
  split_ifs <;> rfl

theorem parseLpChangeFromData_type (h : event ∈ parseLpChangeFromData data metadata) :
    isTradeKind event.kind = false ∧
      (eventTypeFromDexEvent event = some .raydiumCpmmDeposit ∨
        eventTypeFromDexEvent event = some .raydiumCpmmWithdraw) := by
  unfold parseLpChangeFromData at h
  simp only [Option.mem_def] at h
  split at h
  · cases h
  obtain ⟨changeType, -, h⟩ := Option.bind_eq_some_iff.mp h
  split at h
  · cases h
  cases h
  refine ⟨rfl, ?_⟩
  have : changeType.toNat = 0 ∨ changeType.toNat = 1 := by omega
  rcases this with h0 | h1
  · left
    simp [eventTypeFromDexEvent, h0]
  · right
    simp [eventTypeFromDexEvent, h1]

theorem pumpUpgradeParse_type {disc : ℕ} {program : Option Pubkey}
    (h : event ∈ pumpUpgradeParse disc data metadata program) :
    isTradeKind event.kind = false ∧
      eventTypeFromDexEvent event = pumpUpgradeEventType disc program := by
  unfold pumpUpgradeParse at h
  split at h
  · rename_i heq
    rw [heq]
    unfold parsePostCompleteBuy at h
    split at h <;> cases h
    exact ⟨rfl, rfl⟩
  · rename_i heq
    rw [heq]
    unfold parseSweepBondingCurveFee at h
    split at h <;> cases h
    exact ⟨rfl, rfl⟩
  · rename_i heq
    rw [heq]
    unfold parseComplete at h
    split at h <;> cases h
    exact ⟨rfl, rfl⟩
  · rename_i heq
    rw [heq]
    unfold parseSweepPoolFee at h
    split at h <;> cases h
    exact ⟨rfl, rfl⟩
  · cases h

/-! ### How an include list is read for a program's lines -/

/-- What the filter accepts of a program's lines. Where there is no exclude
list, an include list that names the Pump.fun trade means all its variants,
whatever else it names, and one that names `PumpFunBuyExactSolIn` means
`PumpFunBuy` too. -/
def acceptsScoped (filter : EventTypeFilter) (event : DexEvent) : Bool :=
  filter.shouldIncludeDexEvent event ||
    (filter.excludeTypes.isNone && filter.includeOnly.any fun includeOnly =>
      (includeOnly.contains .pumpFunTrade && event.kind != .pumpFunTrade && isTradeKind event.kind) ||
        (includeOnly.contains .pumpFunBuyExactSolIn && event.kind = .pumpFunBuy))

theorem acceptsScoped_of_not_trade {filter : EventTypeFilter} (h : isTradeKind event.kind = false) :
    acceptsScoped filter event = filter.shouldIncludeDexEvent event := by
  have hbuy : event.kind ≠ .pumpFunBuy := by
    intro hk
    simp [isTradeKind, hk] at h
  simp [acceptsScoped, h, hbuy]

theorem any_or_eq (l : List EventType) (p q : EventType → Bool) :
    (l.any fun t => p t || q t) = (l.any p || l.any q) := by
  induction l with
  | nil => rfl
  | cons t l ih =>
    simp only [List.any_cons, ih]
    cases p t <;> cases q t <;> simp

theorem any_eq_contains (l : List EventType) (a : EventType) :
    (l.any fun t => t = a) = l.contains a := by
  rw [List.contains_eq_any_beq]
  refine congrArg _ (funext fun t => ?_)
  by_cases h : t = a
  · simp [h]
  · simp [h, Ne.symm h]

/-- Whether the filter passes a variant of a trade. -/
def passesTradeVariant (filter : EventTypeFilter) (event : DexEvent) : Bool :=
  !(filter.includeOnly.any fun includeOnly =>
      hasSpecificFilter includeOnly && !namesTradeVariant includeOnly event) &&
    !(filter.excludeTypes.isSome && !filter.shouldIncludeDexEvent event)

theorem variant_none (m : Option DexEvent) : m.bind (filterPumpfunTradeVariant none) = m := by
  cases m <;> rfl

theorem variant_some (m : Option DexEvent) (filter : EventTypeFilter) :
    m.bind (filterPumpfunTradeVariant (some filter)) = m.filter (passesTradeVariant filter) := by
  rw [← bind_guard]
  refine congrArg _ (funext fun event => ?_)
  simp only [filterPumpfunTradeVariant, passesTradeVariant]
  split_ifs <;> simp_all

/-- What an include list says of the types of a trade. -/
theorem shouldInclude_trade_includeOnly (l : List EventType) (excludeTypes : Option (List EventType)) :
    let filter : EventTypeFilter := ⟨some l, excludeTypes⟩
    let t := l.contains .pumpFunTrade
    let b := l.contains .pumpFunBuy
    let s := l.contains .pumpFunSell
    let x := l.contains .pumpFunBuyExactSolIn
    filter.shouldInclude .pumpFunTrade = t ∧
      filter.shouldInclude .pumpFunBuy = (b || (t && !(b || s || x))) ∧
      filter.shouldInclude .pumpFunSell = (s || (t && !(b || s || x))) ∧
      filter.shouldInclude .pumpFunBuyExactSolIn = (x || (t && !(b || s || x)) || (b && !x)) := by
  have hvar : l.any isPumpfunTradeVariant = (l.contains .pumpFunBuy || l.contains .pumpFunSell ||
      l.contains .pumpFunBuyExactSolIn) := by
    unfold isPumpfunTradeVariant
    rw [any_or_eq, any_or_eq, any_eq_contains, any_eq_contains, any_eq_contains]
  simp only [EventTypeFilter.shouldInclude, pumpfunTradeFilterIsGeneric, pumpfunBuyFilterIsGeneric, hvar]
  cases l.contains .pumpFunTrade <;> cases l.contains .pumpFunBuy <;>
    cases l.contains .pumpFunSell <;> cases l.contains .pumpFunBuyExactSolIn <;>
    simp [isPumpfunTradeVariant, isPumpfunCreateFamily]

/-- The types of the variants of a trade. -/
def tradeType : EventKind → EventType
  | .pumpFunBuy => .pumpFunBuy
  | .pumpFunSell => .pumpFunSell
  | .pumpFunBuyExactSolIn => .pumpFunBuyExactSolIn
  | _ => .pumpFunTrade

theorem tradeKind_cases {kind : EventKind} (h : isTradeKind kind = true) :
    kind = .pumpFunTrade ∨ kind = .pumpFunBuy ∨ kind = .pumpFunSell ∨ kind = .pumpFunBuyExactSolIn := by
  simpa [isTradeKind, or_assoc] using h

theorem shouldInclude_of_trade (filter : EventTypeFilter) (hkind : isTradeKind event.kind = true)
    (hthird : event.body.thirdProgram = none) :
    filter.shouldIncludeDexEvent event = filter.shouldInclude (tradeType event.kind) := by
  have hun : event.isUnresolvedPumpfun = false := by
    simp [DexEvent.isUnresolvedPumpfun, hthird]
  rcases tradeKind_cases hkind with h | h | h | h <;>
    simp [EventTypeFilter.shouldIncludeDexEvent, hun, eventTypeFromDexEvent, tradeType, h]

/-- A filter that includes a variant of the trade wants the trade. -/
theorem wantsTrade_of_type {filter : EventTypeFilter} {kind : EventKind}
    (h : filter.shouldInclude (tradeType kind) = true) : filterWantsPumpfunTradeEvent filter = true := by
  unfold tradeType at h
  unfold filterWantsPumpfunTradeEvent
  split at h <;> simp [h]

theorem includesPumpfun_of_wantsTrade {filter : EventTypeFilter}
    (h : filterWantsPumpfunTradeEvent filter = true) :
    filter.includesAny Program.pumpfun.eventTypes = true := by
  simp only [filterWantsPumpfunTradeEvent, Bool.or_eq_true] at h
  rcases h with ((h | h) | h) | h
  all_goals exact includesAny_of_mem (by decide) h

/-- The gates a trade passes and the variant filter behind them are
`acceptsScoped`. -/
theorem acceptsScoped_trade (filter : EventTypeFilter) (hkind : isTradeKind event.kind = true)
    (hthird : event.body.thirdProgram = none) :
    acceptsScoped filter event =
      (filterWantsPumpfunTradeEvent filter && passesTradeVariant filter event) := by
  have hshould := shouldInclude_of_trade filter hkind hthird
  obtain ⟨includeOnly, excludeTypes⟩ := filter
  cases includeOnly with
  | none =>
    cases excludeTypes with
    | none => simp [acceptsScoped, passesTradeVariant, hshould, EventTypeFilter.shouldInclude,
        filterWantsPumpfunTradeEvent]
    | some excluded =>
      -- without an include list the variant filter asks `shouldIncludeDexEvent`
      cases hs : (EventTypeFilter.mk none (some excluded)).shouldInclude (tradeType event.kind) with
      | false => simp [acceptsScoped, passesTradeVariant, hshould, hs]
      | true => simp [acceptsScoped, passesTradeVariant, hshould, hs, wantsTrade_of_type hs]
  | some l =>
    obtain ⟨ht, hb, hs, hx⟩ := shouldInclude_trade_includeOnly l excludeTypes
    have hspecific : hasSpecificFilter l = (!l.contains .pumpFunTrade && (l.contains .pumpFunBuy ||
        l.contains .pumpFunSell || l.contains .pumpFunBuyExactSolIn || l.contains .pumpFunCreate ||
        l.contains .pumpFunCreateV2)) := by
      simp only [hasSpecificFilter, any_or_eq, any_eq_contains]
    simp only [acceptsScoped, passesTradeVariant, filterWantsPumpfunTradeEvent, hshould, ht, hb, hs, hx,
      Option.any_some, hspecific]
    rcases tradeKind_cases hkind with h | h | h | h <;>
      simp only [tradeType, namesTradeVariant, isTradeKind, h, ht, hb, hs, hx, any_or_eq,
        any_eq_contains] <;>
      cases l.contains .pumpFunTrade <;> cases l.contains .pumpFunBuy <;>
      cases l.contains .pumpFunSell <;> cases l.contains .pumpFunBuyExactSolIn <;>
      cases excludeTypes <;> simp

/-! ### A program's lines -/

theorem programOf_pumpfun : programOf pumpfunProgramId = some .pumpfun := List.lookup_cons_self

theorem programOf_eq_pumpfun {programId : Pubkey} (h : programOf programId = some .pumpfun) :
    programId = pumpfunProgramId := by
  have hmem : (programId, Program.pumpfun) ∈ programs := mem_of_lookup h
  simpa [programs] using hmem

theorem scopedType_eq {programId : Pubkey} {program : Program} {disc : ℕ}
    (hup : pumpUpgradeEventType disc (some programId) = none)
    (hprogram : programOf programId = some program) :
    programScopedDiscriminatorToEventType programId disc = (scopedEventTypes program).lookup disc := by
  simp [programScopedDiscriminatorToEventType, hup, hprogram]

/-- Pump.fun's trades: the filter is asked for the trade, for the program and
for the variant. -/
theorem trade_filter (filter : EventTypeFilter) (isCreatedBuy : Bool) :
    (if filterWantsPumpfunTradeEvent filter then
      if filter.includesAny Program.pumpfun.eventTypes then
        (parseTradeFromData data metadata isCreatedBuy).bind (filterPumpfunTradeVariant (some filter))
      else none
    else none) =
      ((parseTradeFromData data metadata isCreatedBuy).bind (filterPumpfunTradeVariant none)).filter
        (acceptsScoped filter) := by
  rw [variant_none, variant_some]
  rw [gate_gate fun hwants => includesPumpfun_of_wantsTrade hwants]
  refine gate_filter fun event hevent => ?_
  obtain ⟨hkind, hthird⟩ := parseTradeFromData_kind hevent
  exact acceptsScoped_trade filter hkind hthird

/-- CPMM's liquidity changes: the filter is asked for the program and for the event. -/
theorem lpChange_filter (filter : EventTypeFilter) :
    (if filter.includesAny Program.raydiumCpmm.eventTypes then
      (parseLpChangeFromData data metadata).bind (applyEventTypeFilter (some filter))
    else none) =
      ((parseLpChangeFromData data metadata).bind (applyEventTypeFilter none)).filter
        (acceptsScoped filter) := by
  rw [apply_none, apply_some]
  refine gate_filter fun event hevent => ?_
  obtain ⟨hkind, htype⟩ := parseLpChangeFromData_type hevent
  rw [acceptsScoped_of_not_trade hkind]
  cases hs : filter.shouldIncludeDexEvent event with
  | false => simp
  | true =>
    rcases htype with htype | htype
    · rw [shouldInclude_of_type filter hkind htype] at hs
      have hmem : EventType.raydiumCpmmDeposit ∈ Program.raydiumCpmm.eventTypes := by decide
      rw [includesAny_of_mem hmem hs, Bool.and_self]
    · rw [shouldInclude_of_type filter hkind htype] at hs
      have hmem : EventType.raydiumCpmmWithdraw ∈ Program.raydiumCpmm.eventTypes := by decide
      rw [includesAny_of_mem hmem hs, Bool.and_self]

/-- **A program's events.** Behind the gates of `parse_program_scoped_event`
stand the events of the unfiltered parse that the filter accepts. -/
theorem parseProgramScopedEvent_filter {programId : Pubkey} {disc : ℕ} (filter : EventTypeFilter)
    (isCreatedBuy : Bool) (hup : pumpUpgradeEventType disc (some programId) = none) :
    parseProgramScopedEvent X programId disc data metadata (some filter) isCreatedBuy =
      (parseProgramScopedEvent X programId disc data metadata none isCreatedBuy).filter
        (acceptsScoped filter) := by
  unfold parseProgramScopedEvent
  cases hprogram : programOf programId with
  | none => simp
  | some program =>
    simp only [Option.all_some, Option.all_none, if_true, Option.bind_some, parseScoped]
    have htype := scopedType_eq hup hprogram
    by_cases htrade : program = .pumpfun ∧ disc = Discriminators.pumpfunTrade
    · obtain ⟨rfl, rfl⟩ := htrade
      have hid := programOf_eq_pumpfun hprogram
      have hallows : scopedFilterAllows programId Discriminators.pumpfunTrade filter =
          filterWantsPumpfunTradeEvent filter := if_pos ⟨hid, rfl⟩
      simp only [hallows, and_self, if_true]
      exact trade_filter filter isCreatedBuy
    have hid : ¬(programId = pumpfunProgramId ∧ disc = Discriminators.pumpfunTrade) := by
      rintro ⟨rfl, hdisc⟩
      rw [programOf_pumpfun, Option.some.injEq] at hprogram
      exact htrade ⟨hprogram.symm, hdisc⟩
    rw [if_neg htrade, if_neg htrade]
    by_cases hlp : program = .raydiumCpmm ∧ disc = Discriminators.raydiumCpmmLpChangeEvent
    · obtain ⟨rfl, rfl⟩ := hlp
      have hnone : (scopedEventTypes .raydiumCpmm).lookup Discriminators.raydiumCpmmLpChangeEvent =
          none := by decide
      have hallows : scopedFilterAllows programId Discriminators.raydiumCpmmLpChangeEvent filter =
          true := by
        unfold scopedFilterAllows
        rw [if_neg hid, htype, hnone]
      simp only [hallows, and_self, if_true]
      exact lpChange_filter filter
    simp only [if_neg hlp, runTable]
    cases hparser : (scopedParsers program).lookup disc with
    | none => simp
    | some parser =>
      obtain ⟨hk, hlpk, hlookup, hmem⟩ := scopedParsers_type program _ (mem_of_lookup hparser)
      obtain ⟨eventType, hkt, hmem⟩ := (Option.any_eq_true _ _).mp hmem
      have hallows : scopedFilterAllows programId disc filter = filter.shouldInclude eventType := by
        unfold scopedFilterAllows
        rw [if_neg hid, htype, hlookup, hkt]
      rw [hallows, Option.bind_some]
      have hincl : filter.shouldInclude eventType = true → filter.includesAny program.eventTypes = true :=
        includesAny_of_mem (List.contains_iff_mem.mp hmem)
      rw [gate_gate hincl]
      refine gate_exact fun event hevent => ?_
      rw [acceptsScoped_of_not_trade (mem_runParser hevent ▸ hk),
        parser_shouldInclude filter hevent hk hlpk hkt]

/-! ### Lines without a program -/

/-- Reading the first twelve characters gives the first bytes of what the whole
text decodes to. -/
def Base64Prefix (X : Externals) : Prop :=
  ∀ s head whole : Bytes, 12 ≤ s.length → X.base64Simd (s.take 12) = some head → 8 ≤ head.length →
    X.base64 s = some whole → whole.take 8 = head.take 8

theorem lineDiscriminator_cases {log trimmed : Bytes} {disc : ℕ}
    (h : lineDiscriminator X log = some (trimmed, disc)) :
    ∃ dataPart head, programDataText log = some dataPart ∧ trimmed = trim dataPart ∧
      12 ≤ trimmed.length ∧ X.base64Simd (trimmed.take 12) = some head ∧ 8 ≤ head.length ∧
      disc = leNat (head.take 8) := by
  unfold lineDiscriminator at h
  obtain ⟨dataPart, hdata, h⟩ := Option.bind_eq_some_iff.mp h
  split at h
  · cases h
  obtain ⟨d, hdisc, h⟩ := Option.bind_eq_some_iff.mp h
  cases h
  unfold decodeBase64Discriminator at hdisc
  split at hdisc
  · cases hdisc
  rename_i hlen
  obtain ⟨head, hhead, hdisc⟩ := Option.bind_eq_some_iff.mp hdisc
  split at hdisc
  · cases hdisc
  rename_i hhlen
  cases hdisc
  exact ⟨dataPart, head, hdata, rfl, by omega, hhead, by omega, rfl⟩

/-- What DLMM's own parser makes of a line is of DLMM, and of no line with
LaunchLab's pool creation. -/
theorem parseMeteoraDlmmLog_type {line : LogLine} {trimmed : Bytes} {disc : ℕ} (hshort : Base64Prefix X)
    (hline : lineDiscriminator X line.log = some (trimmed, disc))
    (h : event ∈ parseMeteoraDlmmLog X line) :
    disc ≠ Discriminators.raydiumLaunchlabPoolCreate ∧
      ∃ eventType ∈ meteoraDlmmTypes, ∀ filter : EventTypeFilter,
        filter.shouldIncludeDexEvent event = filter.shouldInclude eventType := by
  obtain ⟨dataPart, head, hdata, rfl, hlen, hhead, hhlen, rfl⟩ := lineDiscriminator_cases hline
  unfold parseMeteoraDlmmLog at h
  simp only [Option.mem_def, hdata, Option.bind_eq_bind, Option.bind_some] at h
  obtain ⟨whole, hwhole, h⟩ := Option.bind_eq_some_iff.mp h
  split at h
  · cases h
  obtain ⟨parser, hparser, hrun⟩ := Option.bind_eq_some_iff.mp h
  obtain ⟨hk, hlpk, hdisc, hmem⟩ := meteoraDlmmParsers_type _ (mem_of_lookup hparser)
  obtain ⟨eventType, hkt, hmem⟩ := (Option.any_eq_true _ _).mp hmem
  refine ⟨?_, eventType, List.contains_iff_mem.mp hmem, fun filter => ?_⟩
  · rw [← hshort _ _ _ hlen hhead hhlen hwhole]
    exact hdisc
  · exact parser_shouldInclude filter hrun hk hlpk hkt

/-- The filter lets a discriminator through that has a type it includes. -/
theorem unscopedAllows_of_type {disc : ℕ} {eventType : EventType} {filter : EventTypeFilter}
    (hup : pumpUpgradeEventType disc none = none)
    (hlookup : discriminatorEventTypes.lookup disc = some eventType)
    (hbase : disc = Discriminators.raydiumCpmmSwapBaseIn → eventType = .raydiumCpmmSwap)
    (hdisc : disc ≠ Discriminators.pumpfunTrade) (h : filter.shouldInclude eventType = true) :
    unscopedFilterAllowsDiscriminator disc filter = true := by
  unfold unscopedFilterAllowsDiscriminator
  rw [if_neg hdisc]
  by_cases hin : disc = Discriminators.raydiumCpmmSwapBaseIn
  · rw [hbase hin] at h
    rw [if_pos hin, h, Bool.true_or]
  · rw [if_neg hin]
    simp [discriminatorToEventType, hup, hlookup, h]

/-- A discriminator no table knows is let through by a filter that wants any
program's logs. -/
theorem unscopedAllows_of_program {disc : ℕ} {filter : EventTypeFilter} (program : Program)
    (hup : pumpUpgradeEventType disc none = none)
    (hlookup : discriminatorEventTypes.lookup disc = none)
    (hdisc : disc ≠ Discriminators.pumpfunTrade) (hin : disc ≠ Discriminators.raydiumCpmmSwapBaseIn)
    (h : filter.includesAny program.eventTypes = true) :
    unscopedFilterAllowsDiscriminator disc filter = true := by
  unfold unscopedFilterAllowsDiscriminator
  rw [if_neg hdisc, if_neg hin]
  simp [discriminatorToEventType, hup, hlookup, wantsSupportedLogs_of_program program h]

theorem parser_filter {disc : ℕ} {parser : LogParser} (filter : EventTypeFilter)
    (hup : pumpUpgradeEventType disc none = none) (hdisc : disc ≠ Discriminators.pumpfunTrade)
    (hk : isTradeKind parser.kind = false) (hlpk : parser.kind ≠ .raydiumCpmmLpChange)
    (hlookup : discriminatorEventTypes.lookup disc = kindType parser.kind)
    (hsome : (kindType parser.kind).isSome = true) :
    (if unscopedFilterAllowsDiscriminator disc filter then
      (runParser X parser data metadata).bind (applyEventTypeFilter (some filter)) else none) =
      ((runParser X parser data metadata).bind (applyEventTypeFilter none)).filter
        filter.shouldIncludeDexEvent := by
  obtain ⟨eventType, hkt⟩ := Option.isSome_iff_exists.mp hsome
  rw [hkt] at hlookup
  have hbase : disc = Discriminators.raydiumCpmmSwapBaseIn → eventType = .raydiumCpmmSwap := by
    rintro rfl
    have : discriminatorEventTypes.lookup Discriminators.raydiumCpmmSwapBaseIn =
        some .raydiumCpmmSwap := by decide
    rw [this] at hlookup
    exact (Option.some.inj hlookup).symm
  rw [apply_none, apply_some]
  refine gate_filter_of_imp fun event hevent hincl => ?_
  rw [parser_shouldInclude filter hevent hk hlpk hkt] at hincl
  exact unscopedAllows_of_type hup hlookup hbase hdisc hincl

theorem unscopedLpChange_filter (filter : EventTypeFilter) :
    (if unscopedFilterAllowsDiscriminator Discriminators.raydiumCpmmLpChangeEvent filter then
      ((parseLpChangeFromData data metadata).bind (applyEventTypeFilter (some filter))).bind
        (applyEventTypeFilter (some filter)) else none) =
      (((parseLpChangeFromData data metadata).bind (applyEventTypeFilter none)).bind
        (applyEventTypeFilter none)).filter filter.shouldIncludeDexEvent := by
  rw [apply_none, apply_none, apply_some, apply_some, Option.filter_filter]
  simp only [Bool.and_self]
  refine gate_filter_of_imp fun event hevent hincl => ?_
  obtain ⟨hkind, htype⟩ := parseLpChangeFromData_type hevent
  have hany : filter.includesAny Program.raydiumCpmm.eventTypes = true := by
    rcases htype with htype | htype
    all_goals
      rw [shouldInclude_of_type filter hkind htype] at hincl
      exact includesAny_of_mem (by decide) hincl
  exact unscopedAllows_of_program .raydiumCpmm (by decide) (by decide)
    (by decide) (by decide) hany

/-- **Events of lines without a program.** What the discriminator alone lets
through, and the filter behind the parser, are the filter. -/
theorem parseUnscopedEvent_filter {line : LogLine} {trimmed : Bytes} {disc : ℕ}
    (filter : EventTypeFilter) (hshort : Base64Prefix X)
    (hline : lineDiscriminator X line.log = some (trimmed, disc))
    (hup : pumpUpgradeEventType disc none = none) (hdisc : disc ≠ Discriminators.pumpfunTrade) :
    (if unscopedFilterAllowsDiscriminator disc filter then
      parseUnscopedEvent X line disc data metadata (some filter) else none) =
      (parseUnscopedEvent X line disc data metadata none).filter filter.shouldIncludeDexEvent := by
  simp only [parseUnscopedEvent, if_neg hdisc]
  cases hhot : hotParsers.lookup disc with
  | some parser =>
    obtain ⟨hk, hlpk, hlookup, hsome⟩ := hotParsers_type _ (mem_of_lookup hhot)
    exact parser_filter filter hup hdisc hk hlpk hlookup hsome
  | none =>
    simp only
    by_cases hlp : disc = Discriminators.raydiumCpmmLpChangeEvent
    · subst hlp
      simp only [if_true]
      exact unscopedLpChange_filter filter
    simp only [if_neg hlp]
    cases hparser : unscopedParsers.lookup disc with
    | some parser =>
      obtain ⟨hk, hlpk, hlookup, hsome⟩ := unscopedParsers_type _ (mem_of_lookup hparser)
      exact parser_filter filter hup hdisc hk hlpk hlookup hsome
    | none =>
      simp only
      rw [apply_none, apply_some]
      refine gate_filter_of_imp fun event hevent hincl => ?_
      obtain ⟨hcreate, eventType, hmem, hshould⟩ := parseMeteoraDlmmLog_type hshort hline hevent
      rw [hshould] at hincl
      have hlookup : discriminatorEventTypes.lookup disc = none := by
        cases hl : discriminatorEventTypes.lookup disc with
        | none => rfl
        | some t =>
          have := discriminatorEventTypes_parsed _ (mem_of_lookup hl)
          simp [hdisc, hhot, hparser, hcreate] at this
      have hin : disc ≠ Discriminators.raydiumCpmmSwapBaseIn := by
        rintro rfl
        have : (unscopedParsers.lookup Discriminators.raydiumCpmmSwapBaseIn).isSome = true := by
          decide
        simp [hparser] at this
      exact unscopedAllows_of_program .meteoraDlmm hup hlookup hdisc hin (includesAny_of_mem hmem hincl)

/-! ### The trade discriminator without a program -/

theorem launchlabTrade_type (h : event ∈ runParser X .raydiumLaunchlabParseTradeFromData data metadata)
    (filter : EventTypeFilter) :
    filter.shouldIncludeDexEvent event = filter.shouldInclude .raydiumLaunchlabTrade :=
  parser_shouldInclude filter h rfl (by decide) rfl

/-- The shared trade discriminator: the event is the one of Pump.fun if the
filter accepts that, else the one of LaunchLab if it accepts that. -/
theorem parseUnscopedTrade_filter (filter : EventTypeFilter) (isCreatedBuy : Bool) :
    (if unscopedFilterAllowsDiscriminator Discriminators.pumpfunTrade filter then
      parseUnscopedPumpfunLaunchlabTrade X data metadata (some filter) isCreatedBuy else none) =
      ((parseTradeFromData data metadata isCreatedBuy).filter filter.shouldIncludeDexEvent).or
        ((runParser X .raydiumLaunchlabParseTradeFromData data metadata).filter
          filter.shouldIncludeDexEvent) := by
  have hpump : (if filterWantsPumpfunTradeEvent filter then
      (parseTradeFromData data metadata isCreatedBuy).filter filter.shouldIncludeDexEvent else none) =
      (parseTradeFromData data metadata isCreatedBuy).filter filter.shouldIncludeDexEvent := by
    refine gate_filter_of_imp fun event hevent hincl => ?_
    obtain ⟨hkind, hthird⟩ := parseTradeFromData_kind hevent
    rw [shouldInclude_of_trade filter hkind hthird] at hincl
    exact wantsTrade_of_type hincl
  have hlaunch : (if filterWantsLaunchlabTradeEvent filter then
      (runParser X .raydiumLaunchlabParseTradeFromData data metadata).filter
        filter.shouldIncludeDexEvent else none) =
      (runParser X .raydiumLaunchlabParseTradeFromData data metadata).filter
        filter.shouldIncludeDexEvent := by
    refine gate_filter_of_imp fun event hevent hincl => ?_
    rwa [launchlabTrade_type hevent] at hincl
  have hallows : unscopedFilterAllowsDiscriminator Discriminators.pumpfunTrade filter =
      (filterWantsPumpfunTradeEvent filter || filterWantsLaunchlabTradeEvent filter) := if_pos rfl
  rw [hallows, ← hpump, ← hlaunch]
  unfold parseUnscopedPumpfunLaunchlabTrade
  simp only [Option.all_some, apply_some]
  cases filterWantsPumpfunTradeEvent filter <;> cases filterWantsLaunchlabTradeEvent filter <;>
    cases (parseTradeFromData data metadata isCreatedBuy).filter filter.shouldIncludeDexEvent <;> simp

/-! ### A log line -/

/-- The upgrade events are of the type their discriminator stands for. -/
theorem pumpUpgrade_filter {disc : ℕ} {programId : Option Pubkey} {eventType : EventType}
    (filter : EventTypeFilter) {accepts : DexEvent → Bool}
    (hup : pumpUpgradeEventType disc programId = some eventType)
    (haccepts : ∀ event, isTradeKind event.kind = false →
      accepts event = filter.shouldIncludeDexEvent event) :
    (if filter.shouldInclude eventType then
      (pumpUpgradeParse disc data metadata programId).bind (applyEventTypeFilter (some filter))
    else none) =
      ((pumpUpgradeParse disc data metadata programId).bind (applyEventTypeFilter none)).filter
        accepts := by
  rw [apply_none, apply_some]
  refine gate_filter fun event hevent => ?_
  obtain ⟨hkind, htype⟩ := pumpUpgradeParse_type hevent
  rw [haccepts event hkind, shouldInclude_of_type filter hkind (htype.trans hup), Bool.and_self]

/-- A gate in front of the payload, whatever it decodes to. -/
theorem payload_filter {trimmed : Bytes} {filtered unfiltered : Bytes → Option DexEvent}
    {accepts : DexEvent → Bool} {g : Bool}
    (h : ∀ data, (if g then filtered data else none) = (unfiltered data).filter accepts) :
    (if g then (X.base64Simd trimmed).bind fun programData =>
        if programData.length < 8 then none else filtered (programData.drop 8)
      else none) =
      ((X.base64Simd trimmed).bind fun programData =>
        if programData.length < 8 then none else unfiltered (programData.drop 8)).filter accepts := by
  cases X.base64Simd trimmed with
  | none => simp
  | some programData =>
    simp only [Option.bind_some]
    split_ifs with hg hlen hlen
    · rfl
    · rw [← h, if_pos hg]
    · rfl
    · rw [← h, if_neg hg]

/-- What passes the gates of `parse_program_scoped_event` passes the one before
the payload is decoded. -/
theorem filterAllows_of_scoped {disc : ℕ} {programId : Pubkey} {filter : EventTypeFilter}
    {isCreatedBuy : Bool}
    (h : parseProgramScopedEvent X programId disc data metadata (some filter) isCreatedBuy = some event) :
    filterAllowsDiscriminator (some programId) disc (some filter) = true := by
  unfold parseProgramScopedEvent at h
  split at h
  case isFalse => cases h
  case isTrue hallows =>
    obtain ⟨program, hprogram, h⟩ := Option.bind_eq_some_iff.mp h
    unfold parseScoped at h
    split at h
    case isFalse => cases h
    case isTrue hincl =>
      simp only [Option.all_some] at hallows hincl
      simp only [filterAllowsDiscriminator]
      unfold scopedFilterAllows at hallows
      split_ifs at hallows ⊢
      · exact hallows
      · cases htype : programScopedDiscriminatorToEventType programId disc with
        | some eventType => simpa [htype] using hallows
        | none => simpa [filterIncludesKnownProgram, hprogram] using hincl

/-- A program's payload. -/
theorem scopedPayload_filter {line : LogLine} {disc : ℕ} {programId : Pubkey}
    (filter : EventTypeFilter) (data : Bytes) :
    (if filterAllowsDiscriminator (some programId) disc (some filter) then
      parsePayload X line (some filter) (some programId) disc data else none) =
      (parsePayload X line none (some programId) disc data).filter (acceptsScoped filter) := by
  unfold parsePayload
  cases hup : pumpUpgradeEventType disc (some programId) with
  | some eventType =>
    have hne : ¬(programId = pumpfunProgramId ∧ disc = Discriminators.pumpfunTrade) := by
      rintro ⟨rfl, rfl⟩
      have : pumpUpgradeEventType Discriminators.pumpfunTrade (some pumpfunProgramId) = none := by
        decide
      simp [this] at hup
    have hallows : filterAllowsDiscriminator (some programId) disc (some filter) =
        filter.shouldInclude eventType := by
      simp [filterAllowsDiscriminator, hne, programScopedDiscriminatorToEventType, hup]
    rw [hallows]
    exact pumpUpgrade_filter filter hup fun event h => acceptsScoped_of_not_trade h
  | none =>
    simp only [Option.isSome_none, Bool.false_eq_true, if_false]
    have hfilter : parseProgramScopedEvent X programId disc data (line.metadata X) (some filter)
        line.isCreatedBuy = (parseProgramScopedEvent X programId disc data (line.metadata X) none
        line.isCreatedBuy).filter (acceptsScoped filter) :=
      parseProgramScopedEvent_filter filter line.isCreatedBuy hup
    rw [hfilter]
    refine gate_filter_of_imp fun event hevent haccepts => ?_
    have hsome : parseProgramScopedEvent X programId disc data (line.metadata X) (some filter)
        line.isCreatedBuy = some event := by
      rw [hfilter]
      exact Option.filter_eq_some_iff.mpr ⟨hevent, haccepts⟩
    exact filterAllows_of_scoped hsome

/-- The payload of a line without a program, but for the shared trade. -/
theorem unscopedPayload_filter {line : LogLine} {trimmed : Bytes} {disc : ℕ} (filter : EventTypeFilter)
    (hshort : Base64Prefix X) (hline : lineDiscriminator X line.log = some (trimmed, disc))
    (hdisc : disc ≠ Discriminators.pumpfunTrade) (data : Bytes) :
    (if filterAllowsDiscriminator none disc (some filter) then
      parsePayload X line (some filter) none disc data else none) =
      (parsePayload X line none none disc data).filter filter.shouldIncludeDexEvent := by
  unfold parsePayload
  cases hup : pumpUpgradeEventType disc none with
  | some eventType =>
    have hin : disc ≠ Discriminators.raydiumCpmmSwapBaseIn := by
      rintro rfl
      have : pumpUpgradeEventType Discriminators.raydiumCpmmSwapBaseIn none = none := by decide
      simp [this] at hup
    have hallows : filterAllowsDiscriminator none disc (some filter) = filter.shouldInclude eventType := by
      simp [filterAllowsDiscriminator, unscopedFilterAllowsDiscriminator, hdisc, hin,
        discriminatorToEventType, hup]
    rw [hallows]
    exact pumpUpgrade_filter filter hup fun event _ => rfl
  | none =>
    simp only [Option.isSome_none, Bool.false_eq_true, if_false]
    exact parseUnscopedEvent_filter filter hshort hline hup hdisc

/-- A Raydium AMM V4 `ray_log` line. -/
theorem rayLog_filter (line : LogLine) (filter : EventTypeFilter) :
    (if filter.shouldInclude .raydiumAmmV4Swap then
      runParser X .raydiumAmmParseRayLogSwap line.log (line.metadata X) else none) =
      (runParser X .raydiumAmmParseRayLogSwap line.log (line.metadata X)).filter
        (acceptsScoped filter) := by
  refine gate_exact fun event hevent => ?_
  have hkind := mem_runParser hevent
  rw [acceptsScoped_of_not_trade (hkind ▸ rfl),
    parser_shouldInclude filter hevent rfl (by decide) rfl]

/-- A line that is no `ray_log` is its payload. -/
theorem scopedLine_eq (X : Externals) {line : LogLine} {trimmed : Bytes} {disc : ℕ} {programId : Pubkey}
    (hne : some programId ≠ some raydiumAmmV4ProgramId)
    (hline : lineDiscriminator X line.log = some (trimmed, disc)) :
    parseLogOptimizedWithProgramId X line none (some programId) =
      (X.base64Simd trimmed).bind fun programData =>
        if programData.length < 8 then none
        else parsePayload X line none (some programId) disc (programData.drop 8) := by
  unfold parseLogOptimizedWithProgramId parseLogOptimizedInner
  rw [if_neg fun h => hne h.1, hline]
  rfl

/-- Without a filter the gates in front of a program's branch are open. -/
theorem parsePayload_scoped (X : Externals) (line : LogLine) {disc : ℕ} {programId : Pubkey}
    {program : Program} (hup : pumpUpgradeEventType disc (some programId) = none)
    (hprogram : programOf programId = some program) (data : Bytes) :
    parsePayload X line none (some programId) disc data =
      parseScoped X program disc data (line.metadata X) none line.isCreatedBuy := by
  unfold parsePayload
  rw [hup]
  simp only [Option.isSome_none, Bool.false_eq_true, if_false, parseProgramScopedEvent, hprogram,
    Option.all_none, if_true, Option.bind_some]

/-- Pump.fun's trade lines, unfiltered. -/
theorem pumpfunTrade_line (X : Externals) {line : LogLine} {trimmed : Bytes}
    (hline : lineDiscriminator X line.log = some (trimmed, Discriminators.pumpfunTrade)) :
    parseLogOptimizedWithProgramId X line none (some pumpfunProgramId) =
      (X.base64Simd trimmed).bind fun programData =>
        if programData.length < 8 then none
        else parseTradeFromData (programData.drop 8) (line.metadata X) line.isCreatedBuy := by
  have hup : pumpUpgradeEventType Discriminators.pumpfunTrade (some pumpfunProgramId) = none := by
    decide
  have hpayload (data : Bytes) :
      parsePayload X line none (some pumpfunProgramId) Discriminators.pumpfunTrade data =
        parseTradeFromData data (line.metadata X) line.isCreatedBuy := by
    rw [parsePayload_scoped X line hup programOf_pumpfun]
    unfold parseScoped
    rw [Option.all_none, if_pos rfl, if_pos ⟨rfl, rfl⟩, variant_none]
  rw [scopedLine_eq X (by decide) hline]
  simp only [hpayload]

/-- LaunchLab's trade lines, unfiltered. -/
theorem launchlabTrade_line (X : Externals) {line : LogLine} {trimmed : Bytes}
    (hline : lineDiscriminator X line.log = some (trimmed, Discriminators.pumpfunTrade)) :
    parseLogOptimizedWithProgramId X line none (some raydiumLaunchlabProgramId) =
      (X.base64Simd trimmed).bind fun programData =>
        if programData.length < 8 then none
        else runParser X .raydiumLaunchlabParseTradeFromData (programData.drop 8) (line.metadata X) := by
  have hup : pumpUpgradeEventType Discriminators.pumpfunTrade (some raydiumLaunchlabProgramId) =
      none := by decide
  have hprogram : programOf raydiumLaunchlabProgramId = some .raydiumLaunchlab := by decide
  have htable : (scopedParsers .raydiumLaunchlab).lookup Discriminators.pumpfunTrade =
      some .raydiumLaunchlabParseTradeFromData := by decide
  have hpayload (data : Bytes) :
      parsePayload X line none (some raydiumLaunchlabProgramId) Discriminators.pumpfunTrade data =
        runParser X .raydiumLaunchlabParseTradeFromData data (line.metadata X) := by
    rw [parsePayload_scoped X line hup hprogram]
    unfold parseScoped
    rw [Option.all_none, if_pos rfl, if_neg fun h => Program.noConfusion h.1,
      if_neg fun h => Program.noConfusion h.1]
    unfold runTable
    rw [htable]
    rfl
  rw [scopedLine_eq X (by decide) hline]
  simp only [hpayload]

/-- The shared trade without a program. -/
theorem parsePayload_unscopedTrade (X : Externals) (line : LogLine) (filter : Option EventTypeFilter)
    (data : Bytes) :
    parsePayload X line filter none Discriminators.pumpfunTrade data =
      parseUnscopedPumpfunLaunchlabTrade X data (line.metadata X) filter line.isCreatedBuy := by
  have hup : pumpUpgradeEventType Discriminators.pumpfunTrade none = none := by decide
  unfold parsePayload
  rw [hup]
  simp only [Option.isSome_none, Bool.false_eq_true, if_false]
  unfold parseUnscopedEvent
  rw [if_pos rfl]

/-- **The filter pushed down.** With a filter, a program's line parses to the
event of the unfiltered parse if the filter accepts it. So does a line without a
program, by `shouldIncludeDexEvent`, except for the trade discriminator: there
the event is Pump.fun's if the filter includes it, else LaunchLab's if the
filter includes that. -/
theorem log_filter_pushdown (X : Externals) (hshort : Base64Prefix X) (line : LogLine)
    (filter : EventTypeFilter) :
    (∀ programId, parseLogOptimizedWithProgramId X line (some filter) (some programId) =
      (parseLogOptimizedWithProgramId X line none (some programId)).filter (acceptsScoped filter)) ∧
    ((lineDiscriminator X line.log).map Prod.snd ≠ some Discriminators.pumpfunTrade →
      parseLogOptimized X line (some filter) =
        (parseLogOptimized X line none).filter filter.shouldIncludeDexEvent) ∧
    ((lineDiscriminator X line.log).map Prod.snd = some Discriminators.pumpfunTrade →
      parseLogOptimized X line (some filter) =
        ((parseLogOptimizedWithProgramId X line none (some pumpfunProgramId)).filter
          filter.shouldIncludeDexEvent).or
        ((parseLogOptimizedWithProgramId X line none (some raydiumLaunchlabProgramId)).filter
          filter.shouldIncludeDexEvent)) := by
  refine ⟨fun programId => ?_, fun hdisc => ?_, fun hdisc => ?_⟩
  · unfold parseLogOptimizedWithProgramId parseLogOptimizedInner
    by_cases hray : some programId = some raydiumAmmV4ProgramId ∧
        contains line.log (utf8 "ray_log: ") = true
    · rw [if_pos hray, if_pos hray]
      exact rayLog_filter line filter
    · rw [if_neg hray, if_neg hray]
      cases lineDiscriminator X line.log with
      | none => rfl
      | some found => exact payload_filter fun data => scopedPayload_filter filter data
  · unfold parseLogOptimized parseLogOptimizedInner
    simp only [reduceCtorEq, false_and, if_false]
    cases hline : lineDiscriminator X line.log with
    | none => rfl
    | some found =>
      rw [hline] at hdisc
      have hne : found.2 ≠ Discriminators.pumpfunTrade := by simpa using hdisc
      exact payload_filter fun data => unscopedPayload_filter filter hshort hline hne data
  · obtain ⟨⟨trimmed, disc⟩, hline, rfl⟩ := Option.map_eq_some_iff.mp hdisc
    rw [pumpfunTrade_line X hline, launchlabTrade_line X hline]
    unfold parseLogOptimized parseLogOptimizedInner
    simp only [reduceCtorEq, false_and, if_false, hline, Option.bind_some, filterAllowsDiscriminator,
      parsePayload_unscopedTrade]
    cases X.base64Simd trimmed with
    | none => simp
    | some programData =>
      simp only [Option.bind_some]
      by_cases hlen : programData.length < 8
      · simp [hlen]
      · simp only [hlen, if_false]
        exact parseUnscopedTrade_filter filter line.isCreatedBuy

/-! ### A buy the filter does not name -/

/-- Base64 as both crates read it; no parser of another program is asked. -/
def pumpfunOnly : Externals where
  base64Simd := base64Decode
  base64 := base64Decode
  bs58 _ := ""
  parse _ _ _ := none

theorem base64Prefix_pumpfunOnly : Base64Prefix pumpfunOnly :=
  fun _ _ _ hlen hhead h8 hwhole => base64Decode_prefix hlen hhead hwhole h8

/-- A Pump.fun trade named `buy`, with `0` for every number and key. -/
def buyLine : LogLine where
  log := utf8 "Program data: vdt/007mYe4" ++ List.replicate 334 65 ++ utf8 "wAAAGJ1eQAA"
  signature := []
  slot := 0
  txIndex := 0
  blockTimeUs := none
  grpcRecvUs := 0
  isCreatedBuy := false
  recentBlockhash := none

def buyExactSolInOnly : EventTypeFilter := ⟨some [.pumpFunBuyExactSolIn], none⟩

theorem log_filter_pushdown_buy :
    (parseLogOptimizedWithProgramId pumpfunOnly buyLine (some buyExactSolInOnly)
      (some pumpfunProgramId)).map DexEvent.kind = some .pumpFunBuy := by
  rw [(log_filter_pushdown pumpfunOnly base64Prefix_pumpfunOnly buyLine buyExactSolInOnly).1]
  decide +kernel

/-- Asked for `PumpFunBuyExactSolIn` alone, a program's line gives a
`PumpFunBuy`, which `shouldIncludeDexEvent` does not include. -/
theorem scoped_filter_by_family :
    ¬ ∀ X, Base64Prefix X → ∀ (line : LogLine) (programId : Pubkey) (filter : EventTypeFilter),
      (programOf programId).isSome = true →
        parseLogOptimizedWithProgramId X line (some filter) (some programId) =
          (parseLogOptimizedWithProgramId X line none (some programId)).filter
            filter.shouldIncludeDexEvent := by
  intro h
  have hkind := congrArg (Option.map DexEvent.kind) (h pumpfunOnly base64Prefix_pumpfunOnly buyLine
    pumpfunProgramId buyExactSolInOnly (by decide))
  revert hkind
  decide +kernel

end Logs
end ShredSdk
