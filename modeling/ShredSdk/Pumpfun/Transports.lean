/-
# One transaction over two transports

A transaction of the entries stream and the update of the relay that carries it are read
by two copies of one walk. They return the same instructions, up to the slot a forwarded
trade is given and what the clock says, unless one of the Pump.fun buys has not the shape
the entries stream asks for: the relay asks only that its two amounts and its user are there.

Key definitions: `relayOf`, `DexInstruction.stamped`, `LooseBuy`.
Key theorems: `relayed_eq`, `instructions_agree_iff`.
-/
import ShredSdk.Log.Slots
import ShredSdk.Pumpfun.EventParser

namespace ShredSdk
namespace Pumpfun

open ShredSdk.Stream (CompiledInstruction Outside keyAt parseCurveHops curveHop rawPayload)

/-! ### The update of a transaction -/

/-- The update that carries a transaction. -/
def relayOf (tx : VersionedTransaction) (slot : ℕ) : SubscribeTransactionsResponse :=
  updateOf slot tx.signatures (tx.message.staticKeys.map fun key => beBytes 32 key.val) tx.message.instructions

/-- A trade without what the clock said. -/
def TradeInfo.timeless (trade : TradeInfo) : TradeInfo := { trade with timestamp := 0 }

/-- An instruction without what the clock said, and a forwarded one with the slot. -/
def DexInstruction.stamped (slot : ℕ) : DexInstruction → DexInstruction
  | .pumpFunTrade raw => .pumpFunTrade (rawAt slot raw)
  | .userTrade trade => .userTrade trade.timeless
  | .botTrade trade => .botTrade trade.timeless
  | .createToken token => .createToken token
  | .bonkCreateToken token => .bonkCreateToken token
  | .bonkTrade trade => .bonkTrade trade

/-- A buy that only the relay's copy takes: its amounts and its user are there, and it has not
the length or the accounts of one. -/
def LooseBuy (ix : CompiledInstruction) : Prop :=
  slice? ix.data 0 8 = some buyIx ∧ 24 ≤ ix.data.length ∧ 7 < ix.accounts.length ∧
    ¬(ix.data.length = 24 ∧ 12 ≤ ix.accounts.length)

instance (ix : CompiledInstruction) : Decidable (LooseBuy ix) := inferInstanceAs (Decidable (_ ∧ _))

variable {X : Outside} {toText : Pubkey → String} {clock clock' : ℕ → ℤ} {tx : VersionedTransaction} {slot slot' : ℕ}
  {accounts : List Pubkey} {ix : CompiledInstruction} {ixs : List CompiledInstruction} {timestamp timestamp' : ℤ}

/-! ### Keys and signatures -/

theorem map_ofBytes_beBytes (keys : List Pubkey) : (keys.map fun key => beBytes 32 key.val).map Pubkey.ofBytes = keys := by
  rw [List.map_map]
  exact List.map_id'' (fun key => Logs.ofBytes_beBytes key) keys

theorem length_keys {keys : List Pubkey} : ∀ key ∈ keys.map fun key => beBytes 32 key.val, key.length = 32 := by
  intro bytes h
  obtain ⟨key, -, rfl⟩ := List.mem_map.mp h
  exact length_beBytes _ _

theorem protoSignature_eq : protoSignature tx.signatures = tx.signatures.head?.getD noSignature := by
  unfold protoSignature
  cases hsignature : tx.signatures.head? with
  | none => rfl
  | some signature =>
    have hlength := tx.signature_length signature (List.mem_of_mem_head? hsignature)
    rw [Option.filter_some, if_pos (decide_eq_true hlength)]

/-- **The relay's copy of the walk** never fails on such an update. -/
theorem relayed_eq : parseCompiledInstructionShreder X toText clock (relayOf tx slot) =
    .ok (relayedInstructions X toText clock (tx.signatures.head?.getD noSignature) slot tx.message.staticKeys
      tx.message.instructions) := by
  rw [relayOf, parseCompiledInstructionShreder_eq length_keys tx.index_lt, map_ofBytes_beBytes, protoSignature_eq]

theorem relayed_tip : parseTipInfoShreder toText (relayOf tx slot) = parseTipInfo toText tx := by
  have hfilter : (tx.message.instructions.filter fun ix => decide (ix.programIdIndex < 256)) = tx.message.instructions :=
    List.filter_eq_self.mpr fun ix hix => decide_eq_true (tx.index_lt ix hix)
  unfold parseTipInfoShreder relayOf updateOf
  simp only [Option.bind_some, parseProtoPubkeys_eq length_keys, map_ofBytes_beBytes, hfilter]
  rfl

/-! ### Forwarded trades -/

theorem curveHop_stamped {get : ℕ → Option Pubkey} {isBuy : Bool} {payload : RawInstructionPayload}
    {metadata : EventMetadata} {start : ℕ} :
    (curveHop X get isBuy payload metadata start).map (rawAt slot) =
      curveHop X get isBuy payload { metadata with slot := slot } start := by
  unfold curveHop
  split
  · split_ifs <;> rfl
  · rfl

theorem parseCurveHops_stamped {keys : List Pubkey} {index : ℕ} (slot : ℕ) (metadata : EventMetadata) :
    (parseCurveHops X keys index ix metadata).map (rawAt slot) =
      parseCurveHops X keys index ix { metadata with slot := slot } := by
  unfold parseCurveHops
  dsimp only
  split_ifs
  · rfl
  · rfl
  · rw [List.map_filterMap]
    simp only [curveHop_stamped]

/-- What is forwarded differs in its slot. -/
theorem forwardedInstructions_stamped {keys : List Pubkey} {signature : Signature} :
    (forwardedInstructions X keys signature slot' ixs).map (DexInstruction.stamped slot) =
      forwardedInstructions X keys signature slot ixs := by
  unfold forwardedInstructions
  rw [List.map_flatMap]
  refine congrArg (List.flatMap · _) (funext fun p => ?_)
  obtain ⟨ix, index⟩ := p
  dsimp only
  have hhops : (multiHopInstructions X keys signature slot' index ix).map (DexInstruction.stamped slot) =
      multiHopInstructions X keys signature slot index ix := by
    unfold multiHopInstructions
    split_ifs
    · rfl
    · rw [← parseCurveHops_stamped slot ⟨signature, slot', 0, 0, 0, none⟩, List.map_map,
        List.map_map]
      rfl
  have hraw : (rawInstruction keys signature slot' index ix).map (rawAt slot) =
      rawInstruction keys signature slot index ix := by
    unfold rawInstruction
    cases keys[ix.programIdIndex]? with
    | none => rfl
    | some programId =>
      simp only [Option.bind_some]
      split_ifs <;> rfl
  rw [List.map_append, hhops, ← hraw]
  cases rawInstruction keys signature slot' index ix <;> rfl

/-! ### Pump.fun instructions -/

theorem buyIx_ne_sellIx : buyIx ≠ sellIx := by decide

/-- A trade is the same but for the clock. -/
theorem trade_stamped {isBuy : Bool} :
    ((parseInstructionTradeData ix accounts isBuy timestamp).map DexInstruction.userTrade).map (DexInstruction.stamped slot) =
      ((parseInstructionTradeData ix accounts isBuy timestamp').map (tradeOf none)).map (DexInstruction.stamped slot) := by
  have htimeless : (parseInstructionTradeData ix accounts isBuy timestamp).map (fun t => { t with timestamp := 0 }) =
      (parseInstructionTradeData ix accounts isBuy timestamp').map (fun t => { t with timestamp := 0 }) :=
    parseInstructionTradeData_stamp timestamp timestamp'
  have hof : ∀ parsed : Option TradeInfo, (parsed.map DexInstruction.userTrade).map (DexInstruction.stamped slot) =
      (parsed.map fun trade => { trade with timestamp := 0 }).map DexInstruction.userTrade := fun parsed => by
    rw [Option.map_map, Option.map_map]
    rfl
  rw [hof, htimeless, ← hof]
  congr 1

/-- A Pump.fun instruction that is not a loose buy is read alike. -/
theorem pumpInstruction_stamped (h : ¬LooseBuy ix) :
    (pumpInstructionShreder accounts timestamp ix).map (DexInstruction.stamped slot) =
      (pumpInstruction accounts none timestamp' ix).map (DexInstruction.stamped slot) := by
  unfold pumpInstructionShreder pumpInstruction
  by_cases hcreate : slice? ix.data 0 8 = some createTokenIx
  · rw [if_pos hcreate, if_pos hcreate]
  rw [if_neg hcreate, if_neg hcreate]
  by_cases hbuy : slice? ix.data 0 8 = some buyIx
  · have hsell : ¬(slice? ix.data 0 8 = some sellIx ∧ ix.data.length = 24 ∧ 12 ≤ ix.accounts.length) := fun hsell =>
      buyIx_ne_sellIx (Option.some.inj (hbuy.symm.trans hsell.1))
    rw [if_neg hsell, if_neg hsell]
    by_cases hshape : ix.data.length = 24 ∧ 12 ≤ ix.accounts.length
    · rw [if_pos ⟨hbuy, by omega⟩, if_pos ⟨hbuy, hshape⟩]
      exact trade_stamped
    · have hstrict : ¬(slice? ix.data 0 8 = some buyIx ∧ ix.data.length = 24 ∧ 12 ≤ ix.accounts.length) :=
        fun hc => hshape hc.2
      rw [if_neg hstrict]
      by_cases haccounts : 7 < ix.accounts.length
      · have hshort : ix.data.length < 24 := by
          by_contra hlong
          exact h ⟨hbuy, not_lt.mp hlong, haccounts, hshape⟩
        rw [if_pos ⟨hbuy, haccounts⟩, parseInstructionTradeData, if_pos hshort]
        rfl
      · rw [if_neg fun hc => haccounts hc.2]
  · have hstrict : ¬(slice? ix.data 0 8 = some buyIx ∧ ix.data.length = 24 ∧ 12 ≤ ix.accounts.length) :=
      fun hc => hbuy hc.1
    have hloose : ¬(slice? ix.data 0 8 = some buyIx ∧ 7 < ix.accounts.length) := fun hc => hbuy hc.1
    rw [if_neg hstrict, if_neg hloose]
    split_ifs
    · exact trade_stamped
    · rfl

theorem keyAt_isSome {index : UInt8} (h : index.toNat < accounts.length) : (keyAt accounts index).isSome = true := by
  rw [keyAt, List.getElem?_eq_getElem h]
  rfl

theorem instructionAccount_isSome {position : ℕ} (hvalid : ∀ i ∈ ix.accounts, i.toNat < accounts.length)
    (h : position < ix.accounts.length) : ∃ key, instructionAccount ix accounts position = some key := by
  rw [instructionAccount, List.getElem?_eq_getElem h]
  exact Option.isSome_iff_exists.mp (keyAt_isSome (hvalid _ (List.getElem_mem h)))

/-- A loose buy is read by the relay's copy alone. -/
theorem pumpInstruction_loose (timestamp timestamp' : ℤ) (hvalid : ∀ i ∈ ix.accounts, i.toNat < accounts.length)
    (h : LooseBuy ix) :
    (pumpInstructionShreder accounts timestamp ix).isSome = true ∧ pumpInstruction accounts none timestamp' ix = none := by
  obtain ⟨hbuy, hlong, haccounts, hshape⟩ := h
  have hcreate : slice? ix.data 0 8 ≠ some createTokenIx := fun hcreate =>
    absurd (Option.some.inj (hbuy.symm.trans hcreate)) (by decide)
  have hsell : slice? ix.data 0 8 ≠ some sellIx := fun hsell =>
    buyIx_ne_sellIx (Option.some.inj (hbuy.symm.trans hsell))
  obtain ⟨user, huser⟩ := instructionAccount_isSome hvalid (show 6 < ix.accounts.length by omega)
  obtain ⟨mint, hmint⟩ := instructionAccount_isSome hvalid (show 2 < ix.accounts.length by omega)
  have htoken := Logs.leNatAt_of_le (show 8 + 8 ≤ ix.data.length by omega)
  have hsol := Logs.leNatAt_of_le (show 16 + 8 ≤ ix.data.length by omega)
  constructor
  · rw [pumpInstructionShreder, if_neg hcreate, if_pos ⟨hbuy, haccounts⟩, parseInstructionTradeData,
      if_neg (not_lt.mpr hlong), Logs.readU64Le, Logs.readU64Le, htoken, hsol, huser, hmint]
    rfl
  · rw [pumpInstruction, if_neg hcreate, if_neg fun hc => hshape hc.2, if_neg fun hc => hsell hc.1]

/-! ### Lists -/

theorem length_filterMap_le {α β : Type} {f g : α → Option β} {l : List α}
    (h : ∀ a ∈ l, (f a).isSome = true → (g a).isSome = true) : (l.filterMap f).length ≤ (l.filterMap g).length := by
  rw [List.length_filterMap_eq_countP, List.length_filterMap_eq_countP]
  exact List.countP_mono_left h

theorem length_filterMap_lt {α β : Type} {f g : α → Option β} {l : List α}
    (h : ∀ a ∈ l, (f a).isSome = true → (g a).isSome = true) {a : α} (ha : a ∈ l) (hf : f a = none)
    (hg : (g a).isSome = true) : (l.filterMap f).length < (l.filterMap g).length := by
  obtain ⟨before, after, rfl⟩ := List.append_of_mem ha
  obtain ⟨b, hb⟩ := Option.isSome_iff_exists.mp hg
  have hbefore := length_filterMap_le (l := before) fun a ha => h a (List.mem_append_left _ ha)
  have hafter := length_filterMap_le (l := after) fun a ha => h a (List.mem_append_right _ (List.mem_cons_of_mem _ ha))
  rw [List.filterMap_append, List.filterMap_append, List.filterMap_cons_none hf, List.filterMap_cons_some hb,
    List.length_append, List.length_append, List.length_cons]
  omega

theorem valid_of_instructionsOf {program : Pubkey} {p : CompiledInstruction × ℕ}
    (h : p ∈ instructionsOf accounts program ixs) : ∀ i ∈ p.1.accounts, i.toNat < accounts.length := by
  unfold instructionsOf at h
  split at h
  · cases h
  · have hkept := (List.mem_filter.mp h).2
    simp only [Bool.and_eq_true, List.all_eq_true, decide_eq_true_eq] at hkept
    exact hkept.2

/-- **The two walks return the same instructions** exactly if no buy is loose. -/
theorem instructions_agree_iff (clock : ℕ → ℤ) {relayed : List DexInstruction}
    (hrelayed : parseCompiledInstructionShreder X toText clock' (relayOf tx slot) = .ok relayed) :
    relayed.map (DexInstruction.stamped slot) =
        (parseCompiledInstruction X toText clock tx none).map (DexInstruction.stamped slot) ↔
      ∀ p ∈ instructionsOf tx.message.staticKeys pumpfunProgramId tx.message.instructions, ¬LooseBuy p.1 := by
  rw [relayed_eq] at hrelayed
  cases hrelayed
  unfold relayedInstructions parseCompiledInstruction
  dsimp only
  rw [List.map_append, List.map_append, List.map_append, List.map_append, forwardedInstructions_stamped,
    forwardedInstructions_stamped, List.append_left_inj, List.append_right_inj, pumpInstructions, List.map_filterMap,
    List.map_filterMap]
  generalize hpump : instructionsOf tx.message.staticKeys pumpfunProgramId tx.message.instructions = pump
  have hvalid : ∀ p ∈ pump, ∀ i ∈ p.1.accounts, i.toNat < tx.message.staticKeys.length := fun p hp =>
    valid_of_instructionsOf (hpump ▸ hp)
  constructor
  · intro heq p hp hloose
    obtain ⟨hsome, hnone⟩ := pumpInstruction_loose (clock' p.2) (clock p.2) (hvalid p hp) hloose
    have hlt := length_filterMap_lt (l := pump)
      (f := fun p => (pumpInstruction tx.message.staticKeys none (clock p.2) p.1).map (DexInstruction.stamped slot))
      (g := fun p => (pumpInstructionShreder tx.message.staticKeys (clock' p.2) p.1).map (DexInstruction.stamped slot))
      (fun q hq hread => by
        by_cases hlooseq : LooseBuy q.1
        · rw [(pumpInstruction_loose (clock' q.2) (clock q.2) (hvalid q hq) hlooseq).2] at hread
          cases hread
        · rwa [pumpInstruction_stamped hlooseq])
      hp (by rw [hnone]; rfl) (by rwa [Option.isSome_map])
    exact hlt.ne (congrArg List.length heq).symm
  · intro h
    exact List.filterMap_congr fun p hp => pumpInstruction_stamped (h p hp)

end Pumpfun
end ShredSdk
