/-
# Skipping an instruction early loses no event

The lists of discriminators in `instruction_data_may_parse` are written apart from the
tables the decoders dispatch by, and the event types in a filter's predicate on a
program apart from the events its decoder builds. The lists are large enough, but for
Pump.fun: its list leaves out the migration of a bonding curve's creator, and its
decoder looks for a logged migration behind eight bytes nobody checks.

Key definitions: `GateLeavesOut`, `Covered`.
Key theorems: `parser_gated`, `parser_emits`, `instruction_gates`.
-/
import ShredSdk.Instr.Unified
import ShredSdk.Stream.Transaction

namespace ShredSdk
namespace Instr

/-! ### Gates and tables -/

section Gated

variable {ι : Type} {data : Bytes} {gate : List Bytes}

/-- A discriminator that is in no entry of the gate is in none of the table. -/
theorem lookup_gated {K : Type} [BEq K] [LawfulBEq K] {table : List (K × ι)} {gate : List K} {disc : K}
    (hcover : ∀ entry ∈ table, entry.1 ∈ gate) (h : gate.contains disc = false) : table.lookup disc = none := by
  refine List.lookup_eq_none_iff.mpr fun entry hmem => ?_
  by_contra hne
  have hdisc : disc = entry.1 := by simpa using hne
  have : gate.contains disc = true := List.contains_iff_mem.mpr (hdisc ▸ hcover entry hmem)
  rw [h] at this
  cases this

theorem supportsDisc8_false (h : supportsDisc8 gate data = false) :
    data.length < 8 ∨ gate.contains (data.take 8) = false := by
  rcases Nat.lt_or_ge data.length 8 with hlen | hlen
  · exact .inl hlen
  · have hslice : slice? data 0 8 = some (data.take 8) := if_pos ⟨Nat.zero_le 8, hlen⟩
    rw [supportsDisc8, hslice] at h
    exact .inr h

/-- A decoder that dispatches by the first eight bytes refuses what its gate does. -/
theorem dispatch_gated {table : List (Bytes × ι)} {parseOuter : ι → Option DexEvent}
    (hcover : ∀ entry ∈ table, entry.1 ∈ gate) (h : supportsDisc8 gate data = false) :
    (if data.length < 8 then none else (table.lookup (data.take 8)).bind parseOuter) = none := by
  rcases supportsDisc8_false h with hlen | hgate
  · exact if_pos hlen
  · rw [lookup_gated hcover hgate]
    exact ite_self none

end Gated

/-! ### Gates of the programs -/

/-- What the gate of Pump.fun leaves out of what its decoder reads: the migration of a
bonding curve's creator, and a logged migration by its second discriminator alone. -/
def GateLeavesOut (data : Bytes) : Prop :=
  data.take 8 = [87, 124, 52, 191, 52, 38, 214, 232] ∨ (data.drop 8).take 8 = migrateEventLog

section Programs

variable {derive : FindProgramAddress} {nowUs : ℤ} {data : Bytes} {accounts : List Pubkey} {metadata : EventMetadata}
variable {seen : Sighting}

/-- The gate of Pump.fun has every discriminator of the decoder but one. -/
theorem outerInstruction_gated (hleft : ¬ GateLeavesOut data) (h : supportedPumpfun.contains (data.take 8) = false) :
    outerInstruction data = none := by
  have hcover : ∀ entry ∈ discriminators, entry.1 ∈ [87, 124, 52, 191, 52, 38, 214, 232] :: supportedPumpfun := by
    decide
  refine lookup_gated hcover ?_
  have hne : data.take 8 ≠ [87, 124, 52, 191, 52, 38, 214, 232] := fun heq => hleft (.inl heq)
  rw [List.contains_cons, h, Bool.or_false]
  exact beq_eq_false_iff_ne.mpr hne

theorem pumpfun_gated (hleft : ¬ GateLeavesOut data) (h : supportsDisc8 supportedPumpfun data = false) :
    parseInstruction data accounts seen.signature seen.slot seen.txIndex seen.blockTimeUs seen.grpcRecvUs = none := by
  unfold parseInstruction
  rcases supportsDisc8_false h with hlen | hgate
  · exact if_pos hlen
  · have hmigrate : ¬ (16 ≤ data.length ∧ (data.drop 8).take 8 = migrateEventLog) := fun hm => hleft (.inr hm.2)
    simp only [outerInstruction_gated hleft hgate, if_neg hmigrate, ite_self]

theorem pumpswap_gated (h : supportsDisc8 supportedPumpswap data = false) :
    PumpAmm.parseInstruction derive data accounts seen.signature seen.slot seen.txIndex seen.blockTimeUs = none := by
  have hcover : ∀ entry ∈ PumpAmm.discriminators, entry.1 ∈ supportedPumpswap := by decide
  exact dispatch_gated hcover h

theorem pumpFees_gated (h : supportsDisc8 supportedPumpFees data = false) :
    PumpFees.parseInstruction accounts metadata data = none := by
  have hcover : ∀ entry ∈ PumpFees.discriminators, entry.1 ∈ supportedPumpFees := by decide
  unfold PumpFees.parseInstruction
  cases hdisc : slice? data 0 8 with
  | none => rfl
  | some disc =>
    rw [supportsDisc8, hdisc] at h
    show (PumpFees.discriminators.lookup disc).bind _ = none
    rw [lookup_gated hcover h, Option.bind_none]

theorem launchlab_gated (h : supportsDisc8 supportedLaunchlab data = false) :
    RaydiumLaunchlab.parseInstruction accounts metadata data = none := by
  have hcover : ∀ entry ∈ RaydiumLaunchlab.discriminators, entry.1 ∈ supportedLaunchlab := by decide
  exact dispatch_gated hcover h

theorem cpmm_gated (h : supportsDisc8 supportedCpmm data = false) :
    RaydiumCpmm.parseInstruction accounts metadata data = none := by
  have hcover : ∀ entry ∈ RaydiumCpmm.discriminators, entry.1 ∈ supportedCpmm := by decide
  exact dispatch_gated hcover h

theorem clmm_gated (h : supportsDisc8 supportedClmm data = false) :
    RaydiumClmm.parseInstruction derive accounts metadata data = none := by
  have hcover : ∀ entry ∈ RaydiumClmm.discriminators, entry.1 ∈ supportedClmm := by decide
  exact dispatch_gated hcover h

theorem ammV4_gated (h : supportsRaydiumAmmV4Instruction data = false) :
    RaydiumAmm.parseInstruction accounts metadata data = none := by
  have hcover : ∀ entry ∈ RaydiumAmm.tags, entry.1 ∈ supportedAmmV4 := by decide
  unfold RaydiumAmm.parseInstruction
  cases htag : data[0]? with
  | none => rfl
  | some tag =>
    rw [supportsRaydiumAmmV4Instruction, htag] at h
    show (RaydiumAmm.tags.lookup tag).bind _ = none
    rw [lookup_gated hcover h, Option.bind_none]

theorem orca_gated (h : supportsDisc8 supportedOrca data = false) :
    OrcaWhirlpool.parseInstruction accounts metadata data = none := by
  have hcover : ∀ entry ∈ OrcaWhirlpool.discriminators, entry.1 ∈ supportedOrca := by decide
  exact dispatch_gated hcover h

theorem meteoraPools_gated (h : supportsDisc8 supportedMeteoraPools data = false) :
    MeteoraPools.parseInstruction accounts metadata data = none := by
  have hcover : ∀ entry ∈ MeteoraPools.discriminators, entry.1 ∈ supportedMeteoraPools := by decide
  exact dispatch_gated hcover h

/-- A new pool goes by the first eight bytes, everything else by the second. -/
theorem meteoraDammV2_gated (h : supportsMeteoraDammV2Instruction data = false) :
    MeteoraDamm.parseInstruction accounts metadata data = none := by
  have hcover : ∀ entry ∈ MeteoraDamm.logDiscriminators, entry.1 ∈ supportedMeteoraDammLogs := by decide
  unfold MeteoraDamm.parseInstruction
  by_cases h8 : data.length < 8
  · exact if_pos h8
  · have hfirst : slice? data 0 8 = some (data.take 8) := if_pos ⟨Nat.zero_le 8, Nat.not_lt.mp h8⟩
    rw [supportsMeteoraDammV2Instruction, hfirst] at h
    obtain ⟨hpool, hlog⟩ := Bool.or_eq_false_iff.mp h
    rw [if_neg h8, if_neg (of_decide_eq_false hpool)]
    by_cases h16 : data.length < 16
    · exact if_pos h16
    · have hsecond : slice? data 8 16 = some ((data.drop 8).take 8) := if_pos ⟨by decide, Nat.not_lt.mp h16⟩
      rw [hsecond] at hlog
      rw [if_neg h16, lookup_gated hcover hlog, Option.bind_none]

theorem meteoraDlmm_gated (h : supportsDisc8 supportedMeteoraDlmm data = false) :
    MeteoraDlmm.parseInstruction data accounts metadata = none := by
  have hcover : ∀ entry ∈ MeteoraDlmm.discriminators, entry.1 ∈ supportedMeteoraDlmm := by decide
  exact dispatch_gated hcover h

/-- **A decoder reads nothing that its gate refuses**, but for what the gate of Pump.fun leaves out. -/
theorem parser_gated {program : Pubkey} {includes : EventTypeFilter → Bool} {event : Option DexEvent}
    (hparser : parserOf derive nowUs data accounts seen program = some (includes, event))
    (hgate : ((gates data).lookup program).getD false = false)
    (hleft : program = pumpfunProgramId → ¬ GateLeavesOut data) : event = none := by
  have hmem := mem_of_lookup hparser
  simp only [parsers, List.mem_cons, List.not_mem_nil, or_false, Prod.mk.injEq] at hmem
  rcases hmem with ⟨rfl, -, rfl⟩ | ⟨rfl, -, rfl⟩ | ⟨rfl, -, rfl⟩ | ⟨rfl, -, rfl⟩ | ⟨rfl, -, rfl⟩ | ⟨rfl, -, rfl⟩ |
    ⟨rfl, -, rfl⟩ | ⟨rfl, -, rfl⟩ | ⟨rfl, -, rfl⟩ | ⟨rfl, -, rfl⟩ | ⟨rfl, -, rfl⟩
  · exact pumpfun_gated (hleft rfl) hgate
  · exact pumpswap_gated hgate
  · exact meteoraDammV2_gated hgate
  · exact pumpFees_gated hgate
  · exact launchlab_gated hgate
  · exact cpmm_gated hgate
  · exact clmm_gated hgate
  · exact ammV4_gated hgate
  · exact orca_gated hgate
  · exact meteoraPools_gated hgate
  · exact meteoraDlmm_gated hgate

end Programs

/-! ### What the decoders emit -/

/-- The variant alone says what the event is, and that is one of the types. -/
def Covered (types : List EventType) (kind : EventKind) : Prop :=
  isTradeKind kind = false ∧ kind ≠ .raydiumCpmmLpChange ∧ (kindType kind).any types.contains = true

instance (types : List EventType) (kind : EventKind) : Decidable (Covered types kind) :=
  inferInstanceAs (Decidable (_ ∧ _ ∧ _))

/-- A filter that wants none of the types wants no event of a variant they cover. -/
theorem Covered.rejected {types : List EventType} {filter : EventTypeFilter} {e : DexEvent} (h : Covered types e.kind)
    (hfilter : filter.includesAny types = false) : filter.shouldIncludeDexEvent e = false := by
  obtain ⟨htrade, hchange, hany⟩ := h
  cases htype : kindType e.kind with
  | none =>
    rw [htype] at hany
    cases hany
  | some eventType =>
    rw [htype] at hany
    have hmem : eventType ∈ types := List.contains_iff_mem.mp hany
    have hevent : eventTypeFromDexEvent e = some eventType := (eventType_of_kind hchange e.body).trans htype
    rw [shouldInclude_of_type filter htrade hevent]
    by_contra hincluded
    rw [includesAny_of_mem hmem (Bool.not_eq_false _ ▸ hincluded)] at hfilter
    cases hfilter

/-- What a decoder of a table reports is covered if what it reports each entry as is. -/
theorem emits_covered {ι : Type} {types : List EventType} {kindOf : ι → EventKind} {parseOuter : ι → Option DexEvent}
    {ix : Option ι} (hcover : ∀ ix, Covered types (kindOf ix)) (hkind : ∀ ix, Emits (· = kindOf ix) (parseOuter ix)) :
    Emits (Covered types) (ix.bind parseOuter) :=
  emits_bind fun ix => emits_mono (hkind ix) fun _ h => h ▸ hcover ix

section Emitted

variable {derive : FindProgramAddress} {nowUs : ℤ} {data : Bytes} {accounts : List Pubkey} {metadata : EventMetadata}
variable {seen : Sighting}

theorem pumpswap_covered : Emits (Covered pumpswapTypes)
    (PumpAmm.parseInstruction derive data accounts seen.signature seen.slot seen.txIndex seen.blockTimeUs) := by
  have hcover : ∀ ix, Covered pumpswapTypes (PumpAmm.kindOf ix) := fun ix => by cases ix <;> decide
  exact emits_ite emits_none (emits_covered hcover fun ix => PumpAmm.parseOuter_kind ix)

theorem pumpFees_covered : Emits (Covered pumpFeesTypes) (PumpFees.parseInstruction accounts metadata data) := by
  have hcover : ∀ ix, Covered pumpFeesTypes (PumpFees.kindOf ix) := fun ix => by cases ix <;> decide
  exact emits_bind fun _ => emits_covered hcover fun ix => PumpFees.parseOuter_kind ix

theorem launchlab_covered :
    Emits (Covered raydiumLaunchlabTypes) (RaydiumLaunchlab.parseInstruction accounts metadata data) := by
  have hcover : ∀ ix, Covered raydiumLaunchlabTypes (RaydiumLaunchlab.kindOf ix) := fun ix => by cases ix <;> decide
  exact emits_ite emits_none (emits_covered hcover fun ix => RaydiumLaunchlab.parseOuter_kind ix)

theorem cpmm_covered : Emits (Covered raydiumCpmmTypes) (RaydiumCpmm.parseInstruction accounts metadata data) := by
  have hcover : ∀ ix, Covered raydiumCpmmTypes (RaydiumCpmm.kindOf ix) := fun ix => by cases ix <;> decide
  exact emits_ite emits_none (emits_covered hcover fun ix => RaydiumCpmm.parseOuter_kind ix)

theorem clmm_covered :
    Emits (Covered raydiumClmmTypes) (RaydiumClmm.parseInstruction derive accounts metadata data) := by
  have hcover : ∀ ix, Covered raydiumClmmTypes (RaydiumClmm.kindOf ix) := fun ix => by cases ix <;> decide
  exact emits_ite emits_none (emits_covered hcover fun ix => RaydiumClmm.parseOuter_kind ix)

theorem ammV4_covered : Emits (Covered raydiumAmmV4Types) (RaydiumAmm.parseInstruction accounts metadata data) := by
  have hcover : ∀ ix, Covered raydiumAmmV4Types (RaydiumAmm.kindOf ix) := fun ix => by cases ix <;> decide
  exact emits_bind fun _ => emits_covered hcover fun ix => RaydiumAmm.parseOuter_kind ix

theorem orca_covered : Emits (Covered orcaWhirlpoolTypes) (OrcaWhirlpool.parseInstruction accounts metadata data) := by
  have hcover : ∀ ix, Covered orcaWhirlpoolTypes (OrcaWhirlpool.kindOf ix) := fun ix => by cases ix <;> decide
  exact emits_ite emits_none (emits_covered hcover fun ix => OrcaWhirlpool.parseOuter_kind ix)

theorem meteoraPools_covered :
    Emits (Covered meteoraPoolsTypes) (MeteoraPools.parseInstruction accounts metadata data) := by
  have hcover : ∀ ix, Covered meteoraPoolsTypes (MeteoraPools.kindOf ix) := fun ix => by cases ix <;> decide
  exact emits_ite emits_none (emits_covered hcover fun ix => MeteoraPools.parseOuter_kind ix)

theorem meteoraDammV2_covered :
    Emits (Covered meteoraDammV2Types) (MeteoraDamm.parseInstruction accounts metadata data) := by
  refine emits_mono MeteoraDamm.parseInstruction_kind fun kind h => ?_
  obtain rfl | ⟨log, rfl⟩ := h
  · decide
  · cases log <;> decide

theorem meteoraDlmm_covered :
    Emits (Covered meteoraDlmmTypes) (MeteoraDlmm.parseInstruction data accounts metadata) := by
  refine emits_mono MeteoraDlmm.parseInstruction_kind fun kind h => ?_
  obtain ⟨ix, rfl⟩ := h
  cases ix <;> decide

/-! ### The decoder of every program -/

/-- **A program the filter is not asked about emits nothing the filter wants.** -/
theorem unsupported_rejected {program : Pubkey} {filter : EventTypeFilter} {e : DexEvent}
    (hevent : data.take 8 ≠ eventCpi)
    (hprogram : program ∈ Stream.supportedUnifiedOuterPrograms)
    (hfilter : Stream.isSupportedUnifiedOuterProgram program (some filter) = false)
    (hparsed : parseInstructionUnified derive nowUs data accounts seen none program = some e) :
    filter.shouldIncludeDexEvent e = false := by
  have hdata : data ≠ [] := by
    rintro rfl
    cases hparsed
  simp only [Stream.supportedUnifiedOuterPrograms, Stream.unifiedPrograms, List.map_cons, List.map_nil, List.mem_cons,
    List.not_mem_nil, or_false] at hprogram
  have hdbc : program ≠ meteoraDbcProgramId := by
    rcases hprogram with rfl | rfl | rfl | rfl | rfl | rfl | rfl | rfl | rfl | rfl <;> decide
  rw [parseInstructionUnified_eq hdata hevent hdbc] at hparsed
  rcases hprogram with rfl | rfl | rfl | rfl | rfl | rfl | rfl | rfl | rfl | rfl
  · exact (pumpswap_covered e hparsed).rejected hfilter
  · exact (pumpFees_covered e hparsed).rejected hfilter
  · exact (launchlab_covered e hparsed).rejected hfilter
  · exact (cpmm_covered e hparsed).rejected hfilter
  · exact (clmm_covered e hparsed).rejected hfilter
  · exact (ammV4_covered e hparsed).rejected hfilter
  · exact (orca_covered e hparsed).rejected hfilter
  · exact (meteoraPools_covered e hparsed).rejected hfilter
  · exact (meteoraDammV2_covered e hparsed).rejected hfilter
  · exact (meteoraDlmm_covered e hparsed).rejected hfilter

/-- **Data the gate refuses is not decoded**, but for what the gate of Pump.fun leaves out. -/
theorem refused_not_parsed {program : Pubkey} (hevent : data.take 8 ≠ eventCpi)
    (hgate : instructionDataMayParse program data = false) (hleft : program = pumpfunProgramId → ¬ GateLeavesOut data) :
    parseInstructionUnified derive nowUs data accounts seen none program = none := by
  by_cases hdata : data = []
  · exact if_pos hdata
  · by_cases hdbc : program = meteoraDbcProgramId
    · subst hdbc
      unfold parseInstructionUnified
      rw [if_neg hdata, if_pos rfl, MeteoraDbc.parseEventCpi_none hevent]
      rfl
    · rw [parseInstructionUnified_eq hdata hevent hdbc]
      rw [instructionDataMayParse, if_neg hdata] at hgate
      refine Option.bind_eq_none_iff.mpr fun entry hparser => ?_
      exact parser_gated hparser hgate hleft

end Emitted

/-- **Instructions that are skipped early have no event the caller asked for.** What is
no logged event and is refused by the gate is not decoded, but for what the gate of
Pump.fun leaves out; and a filter that does not name a program rejects all its events. -/
theorem instruction_gates (derive : FindProgramAddress) (nowUs : ℤ) (data : Bytes) (accounts : List Pubkey)
    (seen : Sighting) (program : Pubkey) (hevent : data.take 8 ≠ eventCpi) :
    (instructionDataMayParse program data = false → (program = pumpfunProgramId → ¬ GateLeavesOut data) →
      parseInstructionUnified derive nowUs data accounts seen none program = none) ∧
    (program ∈ Stream.supportedUnifiedOuterPrograms → ∀ filter : EventTypeFilter,
      Stream.isSupportedUnifiedOuterProgram program (some filter) = false →
      ∀ e, parseInstructionUnified derive nowUs data accounts seen none program = some e →
        filter.shouldIncludeDexEvent e = false) :=
  ⟨fun hgate hleft => refused_not_parsed hevent hgate hleft,
    fun hprogram _ hfilter _ hparsed => unsupported_rejected hevent hprogram hfilter hparsed⟩

/-! ### A fee config, and a curve whose creator moves -/

def someSighting : Sighting := ⟨[], 1, 0, none, 2⟩

def initializeFeeConfigData : Bytes := [62, 162, 20, 133, 121, 65, 145, 27]

def migrateBondingCurveCreatorData : Bytes := [87, 124, 52, 191, 52, 38, 214, 232]

def blockMetaFilter : EventTypeFilter := ⟨some [.blockMeta], none⟩

theorem instruction_gates_feeConfig :
    parseInstructionUnified (fun _ _ => 0) 0 [1] [3, 4] someSighting none pumpFeesProgramId = none ∧
      ∀ e, parseInstructionUnified (fun _ _ => 0) 0 initializeFeeConfigData [3, 4] someSighting none
          pumpFeesProgramId = some e → blockMetaFilter.shouldIncludeDexEvent e = false :=
  ⟨(instruction_gates (fun _ _ => 0) 0 [1] [3, 4] someSighting pumpFeesProgramId (by decide)).1 rfl
      fun h => absurd h (by decide),
    (instruction_gates (fun _ _ => 0) 0 initializeFeeConfigData [3, 4] someSighting pumpFeesProgramId
      (by decide)).2 (by simp [Stream.supportedUnifiedOuterPrograms, Stream.unifiedPrograms]) blockMetaFilter rfl⟩

example : (parseInstructionUnified (fun _ _ => 0) 0 initializeFeeConfigData [3, 4] someSighting none
    pumpFeesProgramId).isSome = true := rfl

/-- The gate refuses the migration of a curve's creator, and the decoder reads it. -/
theorem gate_refuses_migration :
    migrateBondingCurveCreatorData.take 8 ≠ eventCpi ∧
      instructionDataMayParse pumpfunProgramId migrateBondingCurveCreatorData = false ∧
      ((parseInstructionUnified (fun _ _ => 0) 0 migrateBondingCurveCreatorData [3, 4, 5, 6, 7] someSighting none
        pumpfunProgramId).map DexEvent.kind) = some .pumpFunMigrateBondingCurveCreator :=
  ⟨by decide, rfl, rfl⟩

end Instr
end ShredSdk
