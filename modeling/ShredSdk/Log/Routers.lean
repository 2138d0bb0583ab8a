/-
# Lines whose program is not known

`parse_log_optimized` (`src/logs/optimized_matcher.rs`) is handed a line without the
program that wrote it. It has a table of its own and falls back to the log parser of
DLMM. Where the discriminator names its program, the event is the one that is found
when the program is known, but for four discriminators that the table leaves out.

Key definitions: `unscopedFn`, `unrouted`.
Key theorems: `unscopedPayload_eq`, `dlmm_fallback`, `unscoped_agrees`.
-/
import ShredSdk.Log.DiscriminatorLut

namespace ShredSdk
namespace Logs

/-! ### What runs without a program -/

/-- What the matcher runs for a discriminator of an unknown program. The two trades it
tries are left out, and so is what it falls back to. -/
def unscopedFn (disc : ℕ) : Option ParserFn :=
  if disc ∈ Program.pumpfun.upgrades ++ Program.pumpswap.upgrades then some (.upgrade disc)
  else
    match hotParsers.lookup disc with
    | some parser => some (.table parser)
    | none =>
      if disc = Discriminators.raydiumCpmmLpChangeEvent then some .lpChange
      else (unscopedParsers.lookup disc).map .table

/-- The discriminators that name their program and are in no table for unknown programs. -/
def unrouted : List ℕ :=
  [Discriminators.raydiumLaunchlabPoolCreate, Discriminators.raydiumCpmmCreatePool,
   Discriminators.meteoraDbcSwap2TransferHook, Discriminators.meteoraDbcCurveComplete]

/-! ### One payload -/

section

variable (X : Externals) (line : LogLine) {data : Bytes}

theorem unscopedUpgrade_isSome (disc : ℕ) : (pumpUpgradeEventType disc none).isSome = true ↔
    disc ∈ Program.pumpfun.upgrades ++ Program.pumpswap.upgrades := by
  unfold pumpUpgradeEventType isProgram
  simp only [Program.upgrades, Option.all_none, Bool.and_true, decide_eq_true_eq, List.mem_append, List.mem_cons,
    List.not_mem_nil, or_false]
  split_ifs <;> simp_all

theorem unscopedTables_log : (∀ entry ∈ hotParsers, entry.2 ≠ .raydiumAmmParseRayLogSwap) ∧
    ∀ entry ∈ unscopedParsers, entry.2 ≠ .raydiumAmmParseRayLogSwap := by
  decide

/-- **A payload of an unknown program** is read by the function its discriminator picks,
and a line of none by the log parser of DLMM. -/
theorem unscopedPayload_eq {disc : ℕ} (hdisc : disc ≠ Discriminators.pumpfunTrade) :
    parsePayload (withDecoders X) line none none disc data =
      (unscopedFn disc).elim (parseMeteoraDlmmLog (withDecoders X) line)
        (ParserFn.run data (line.metadata X) line.isCreatedBuy) := by
  unfold parsePayload unscopedFn
  by_cases hup : disc ∈ Program.pumpfun.upgrades ++ Program.pumpswap.upgrades
  · rw [if_pos ((unscopedUpgrade_isSome disc).mpr hup), if_pos hup, apply_none]
    rfl
  · rw [if_neg fun h => hup ((unscopedUpgrade_isSome disc).mp h), if_neg hup]
    show parseUnscopedEvent (withDecoders X) line disc data (line.metadata X) none = _
    unfold parseUnscopedEvent
    rw [if_neg hdisc]
    cases hhot : hotParsers.lookup disc with
    | some parser =>
      show (runParser _ _ _ _).bind _ = _
      rw [apply_none, runParser_decode (unscopedTables_log.1 _ (mem_of_lookup hhot))]
      rfl
    | none =>
      by_cases hchange : disc = Discriminators.raydiumCpmmLpChangeEvent
      · simp only [hchange, if_true, apply_none]
        rfl
      · simp only [if_neg hchange]
        cases hparser : unscopedParsers.lookup disc with
        | some parser =>
          show (runParser _ _ _ _).bind _ = _
          rw [apply_none, runParser_decode (unscopedTables_log.2 _ (mem_of_lookup hparser))]
          rfl
        | none => exact apply_none _

/-! ### Discriminators that name their program -/

theorem programId_dlmm : ∀ entry ∈ programs, entry.2 = .meteoraDlmm → entry.1 = meteoraDlmmProgramId := by
  decide

/-- A discriminator that names its program has that program's parser, unless it is of
DLMM, which is fallen back to, or left out. -/
theorem unscoped_names : ∀ program ∈ programs.map Prod.snd, ∀ disc ∈ program.discriminators,
    (∀ other ∈ programs.map Prod.snd, disc ∈ other.discriminators → other = program) →
      disc ≠ Discriminators.pumpfunTrade ∧
        if disc ∈ unrouted then unscopedFn disc = none ∧ ∀ entry ∈ meteoraDlmmParsers, leNat entry.1 ≠ disc
        else if program = .meteoraDlmm then unscopedFn disc = none ∧ ∀ entry ∈ legacyEvents, leNat entry.1 ≠ disc
        else (unscopedFn disc).isSome = true ∧ unscopedFn disc = program.parserFn disc := by
  decide +kernel

variable {X line} {programData : Bytes} (hbase64 : ∀ s, X.base64 s = base64Decode s)
  (hdecoded : line.decoded = some programData) (hlen : 8 ≤ programData.length)

include hbase64 hdecoded hlen

/-- What DLMM's log parser makes of the line's payload. -/
theorem dlmm_fallback : parseMeteoraDlmmLog (withDecoders X) line =
    (MeteoraDlmm.readers.lookup (programData.take 8)).bind fun parse =>
      parse (programData.drop 8) line.metadataWithoutBlockhash := by
  rw [parseMeteoraDlmmLog_eq X line 0]
  unfold LogModule.parseLog extractProgramData
  simp only [hbase64, Option.bind_eq_bind]
  show line.decoded.bind _ = _
  rw [hdecoded, Option.bind_some, if_neg (by omega)]
  rfl

/-- Of another program's line it makes nothing. -/
theorem dlmm_fallback_none
    (hother : ∀ entry ∈ meteoraDlmmParsers, leNat entry.1 ≠ leNat (programData.take 8)) :
    parseMeteoraDlmmLog (withDecoders X) line = none := by
  have hlookup : MeteoraDlmm.readers.lookup (programData.take 8) = none := by
    refine List.lookup_eq_none_iff.mpr fun e he => ?_
    obtain ⟨entry, hentry, rfl⟩ := List.mem_map.mp he
    rw [bne_iff_ne]
    intro heq
    exact hother entry hentry (by rw [heq])
  rw [dlmm_fallback hbase64 hdecoded hlen, hlookup, Option.bind_none]

/-- Of a line of DLMM's own it makes what the matcher makes. -/
theorem dlmm_fallback_same
    (hcurrent : ∀ entry ∈ legacyEvents, leNat entry.1 ≠ leNat (programData.take 8)) :
    SameUpToMetadata (parseMeteoraDlmmLog (withDecoders X) line)
      (parsePayload (withDecoders X) line none (some meteoraDlmmProgramId) (leNat (programData.take 8))
        (programData.drop 8)) := by
  have hprogram : programOf meteoraDlmmProgramId = some .meteoraDlmm := rfl
  have hpayload : parsePayload (withDecoders X) line none (some meteoraDlmmProgramId) (leNat (programData.take 8))
      (programData.drop 8) = scopedDecode .meteoraDlmm (leNat (programData.take 8)) (programData.drop 8)
        (line.metadata X) line.isCreatedBuy := by
    unfold parsePayload
    rw [show pumpUpgradeEventType _ (some meteoraDlmmProgramId) = none from not_upgrade .meteoraDlmm _]
    exact parseProgramScopedEvent_decode hprogram _ line.isCreatedBuy
  rw [dlmm_fallback hbase64 hdecoded hlen, hpayload]
  refine (readers_agree .meteoraDlmm 0 (by rw [List.length_take]; omega) line.isCreatedBuy).mpr ?_
  rintro ⟨-, entry, hentry, hdisc, -⟩
  exact hcurrent entry hentry (by rw [hdisc])

/-- **Without the program** a line has the event it has with it, when its discriminator
names the program; but the four that are left out have none. A line of AMM V4 has no `ray_log: `. -/
theorem unscoped_agrees (hsimd : ∀ s, X.base64Simd s = base64Decode s) {programId : Pubkey} {program : Program}
    (hprogram : programOf programId = some program) (hnames : program.Names (leNat (programData.take 8)))
    (hray : programId = raydiumAmmV4ProgramId → contains line.log (utf8 "ray_log: ") = false) :
    SameUpToMetadata (parseLogOptimized (withDecoders X) line none)
        (parseLogOptimizedWithProgramId (withDecoders X) line none (some programId)) ↔
      leNat (programData.take 8) ∉ unrouted ∨
        parseLogOptimizedWithProgramId (withDecoders X) line none (some programId) = none := by
  obtain ⟨htrade, hroute⟩ := unscoped_names program (mem_programs program) _ hnames.1 hnames.other
  have hscoped : parseLogOptimizedWithProgramId (withDecoders X) line none (some programId) =
      parsePayload (withDecoders X) line none (some programId) (leNat (programData.take 8)) (programData.drop 8) := by
    unfold parseLogOptimizedWithProgramId
    rw [decodedLine_eq X line hsimd _ fun h => hray (Option.some.inj h), hdecoded, Option.bind_some,
      if_neg (by omega)]
  have hunscoped : parseLogOptimized (withDecoders X) line none =
      (unscopedFn (leNat (programData.take 8))).elim (parseMeteoraDlmmLog (withDecoders X) line)
        (ParserFn.run (programData.drop 8) (line.metadata X) line.isCreatedBuy) := by
    unfold parseLogOptimized
    rw [decodedLine_eq X line hsimd none (fun h => absurd h (by simp)), hdecoded, Option.bind_some, if_neg (by omega),
      unscopedPayload_eq X line htrade]
  rw [hscoped, hunscoped]
  by_cases hleft : leNat (programData.take 8) ∈ unrouted
  · rw [if_pos hleft] at hroute
    obtain ⟨hnone, hother⟩ := hroute
    rw [hnone, Option.elim_none, dlmm_fallback_none hbase64 hdecoded hlen hother]
    constructor
    · intro h
      exact .inr (same_none.mp h.symm)
    · rintro (h | h)
      · exact absurd hleft h
      · rw [h]
        rfl
  · rw [if_neg hleft] at hroute
    refine iff_of_true ?_ (.inl hleft)
    by_cases hdlmm : program = .meteoraDlmm
    · rw [if_pos hdlmm] at hroute
      obtain ⟨hnone, hcurrent⟩ := hroute
      have hid : programId = meteoraDlmmProgramId := by
        subst hdlmm
        exact programId_dlmm _ (mem_of_lookup hprogram) rfl
      rw [hnone, Option.elim_none, hid]
      exact dlmm_fallback_same hbase64 hdecoded hlen hcurrent
    · rw [if_neg hdlmm] at hroute
      obtain ⟨hsome, hparser⟩ := hroute
      obtain ⟨parser, hfn⟩ := Option.isSome_iff_exists.mp hsome
      rw [programPayload_eq X line hprogram, ← hparser, hfn]
      rfl

end

/-! ### A curve that is complete -/

def curvePayload : Bytes := [229, 231, 86, 84, 156, 134, 75, 24] ++ List.replicate 80 1

def curveLine : LogLine :=
  ⟨utf8 "Program data: " ++ base64Encode curvePayload, [], 0, 0, none, 0, false, none⟩

theorem decoded_curveLine : curveLine.decoded = some curvePayload := by
  show (programDataText (utf8 "Program data: " ++ base64Encode _)).bind _ = _
  rw [programDataText_line, Option.bind_some, trim_base64Encode, base64Decode_encode]

theorem names_curveComplete : Program.meteoraDbc.Names Discriminators.meteoraDbcCurveComplete := by
  have hother : ∀ other ∈ programs.map Prod.snd, Discriminators.meteoraDbcCurveComplete ∈ other.discriminators →
      other = .meteoraDbc := by decide +kernel
  exact ⟨by decide, fun other => hother other (mem_programs other)⟩

/-- The completed curve is only seen when its program is known. -/
theorem unscoped_agrees_curveComplete :
    ¬SameUpToMetadata (parseLogOptimized (withDecoders pumpfunOnly) curveLine none)
      (parseLogOptimizedWithProgramId (withDecoders pumpfunOnly) curveLine none (some meteoraDbcProgramId)) := by
  have hnames : Program.meteoraDbc.Names (leNat (curvePayload.take 8)) := names_curveComplete
  rw [unscoped_agrees (fun _ => rfl) decoded_curveLine (by decide) (fun _ => rfl) rfl hnames
    fun h => absurd h (by decide)]
  have hparser : Program.meteoraDbc.parserFn (leNat (curvePayload.take 8)) =
      some (.table .meteoraDbcParseCurveCompleteFromData) := by decide +kernel
  unfold parseLogOptimizedWithProgramId
  rw [decodedLine_eq pumpfunOnly curveLine (fun _ => rfl) _ fun h => absurd (Option.some.inj h) (by decide),
    decoded_curveLine, Option.bind_some, if_neg (by decide), programPayload_eq pumpfunOnly curveLine rfl, hparser,
    Option.bind_some]
  simp only [ParserFn.run, LogParser.decode, MeteoraDbc.parseCurveCompleteFromData, logEvent_none]
  decide +kernel

end Logs
end ShredSdk
