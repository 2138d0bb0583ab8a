/-
# The instructions of a transaction

`LogFilter` (`src/common/logs_filters.rs`) reads a transaction of the entries stream
and an update of the relay, each with its own copy of the same walk: calls of programs
nobody decodes and hops over bonding curves as they stand, then the instructions of
Pump.fun, then those of LaunchLab. The copies differ in what they ask of a Pump.fun
buy, and an update can be malformed where a transaction cannot.

Key definitions: `VersionedTransaction`, `SubscribeTransactionsResponse`,
`parseCompiledInstruction`, `parseCompiledInstructionShreder`, `parseTipInfo`, `WellFormed`.
Key theorem: `parseCompiledInstructionShreder_eq`.
-/
import Mathlib.Data.List.ReduceOption
import ShredSdk.Pumpfun.Instructions

namespace ShredSdk
namespace Pumpfun

open ShredSdk.Stream (CompiledInstruction Message Outside keyAt multiHopSwap parseCurveHops rawPayload isThirdPartyProgram)

/-! ### Transactions -/

/-- Signatures have 64 bytes, and the index of a program is a byte. -/
structure VersionedTransaction where
  signatures : List Signature
  message : Message
  signature_length : ∀ signature ∈ signatures, signature.length = 64
  index_lt : ∀ ix ∈ message.instructions, ix.programIdIndex < 256

structure ProtoMessage where
  accountKeys : List Bytes
  instructions : List CompiledInstruction
deriving DecidableEq

structure ProtoTransaction where
  signatures : List Bytes
  message : Option ProtoMessage
deriving DecidableEq

structure SubscribeUpdateTransaction where
  transaction : Option ProtoTransaction
  slot : ℕ
deriving DecidableEq

structure SubscribeTransactionsResponse where
  transaction : Option SubscribeUpdateTransaction
deriving DecidableEq

/-- `Signature::default()` -/
def noSignature : Signature := List.replicate 64 0

/-! ### Discriminators -/

def createTokenIx : Bytes := [24, 30, 200, 40, 5, 28, 7, 119]
def buyIx : Bytes := [102, 6, 61, 18, 1, 218, 235, 234]
def sellIx : Bytes := [51, 230, 133, 164, 1, 127, 131, 173]
def buyExactIn : Bytes := [250, 234, 13, 123, 213, 156, 19, 236]
def sellExactIn : Bytes := [149, 39, 222, 155, 211, 124, 152, 26]
def sellExactOut : Bytes := [95, 200, 71, 34, 8, 9, 11, 166]
def initializeIx : Bytes := [175, 175, 109, 31, 13, 152, 155, 237]
def initializeV2 : Bytes := [67, 153, 175, 39, 218, 16, 38, 32]

/-! ### Instructions as they stand -/

section

variable (X : Outside) (keys : List Pubkey) (signature : Signature) (slot : ℕ)

def multiHopInstructions (index : ℕ) (ix : CompiledInstruction) : List DexInstruction :=
  if keys[ix.programIdIndex]? ≠ some pumpswapProgramId ∨ ¬multiHopSwap <+: ix.data then []
  else (parseCurveHops X keys index ix ⟨signature, slot, 0, 0, 0, none⟩).map .pumpFunTrade

def rawInstruction (index : ℕ) (ix : CompiledInstruction) : Option DexEvent :=
  keys[ix.programIdIndex]?.bind fun programId =>
    if !isThirdPartyProgram programId then none
    else if !ix.accounts.any (fun i => keyAt keys i = some pumpfunProgramId) then none
    else some ⟨.pumpFunTrade, {
      metadata := ⟨signature, slot, 0, 0, 0, none⟩
      thirdProgram := some (rawPayload keys programId index ix) }⟩

/-- What is passed on of every instruction. -/
def forwardedInstructions (ixs : List CompiledInstruction) : List DexInstruction :=
  ixs.zipIdx.flatMap fun (ix, index) =>
    multiHopInstructions X keys signature slot index ix ++
      (rawInstruction keys signature slot index ix).toList.map .pumpFunTrade

end

/-! ### Instructions of a program -/

section

variable (toText : Pubkey → String) (clock : ℕ → ℤ) (accounts : List Pubkey)

/-- The instructions of a program whose accounts are all there, with their positions. -/
def instructionsOf (program : Pubkey) (ixs : List CompiledInstruction) : List (CompiledInstruction × ℕ) :=
  match accounts.findIdx? (· = program) with
  | none => []
  | some index => ixs.zipIdx.filter fun (ix, _) =>
      ix.programIdIndex = index && ix.accounts.all fun i => i.toNat < accounts.length

/-- The trades of `bot_wallet` are told from those of others. -/
def tradeOf (botWallet : Option Pubkey) (trade : TradeInfo) : DexInstruction :=
  if botWallet = some trade.user then .botTrade trade else .userTrade trade

def pumpInstruction (botWallet : Option Pubkey) (timestamp : ℤ) (ix : CompiledInstruction) : Option DexInstruction :=
  if slice? ix.data 0 8 = some createTokenIx then (parseInstructionCreateTokenData ix accounts).map .createToken
  else if slice? ix.data 0 8 = some buyIx ∧ ix.data.length = 24 ∧ 12 ≤ ix.accounts.length then
    (parseInstructionTradeData ix accounts true timestamp).map (tradeOf botWallet)
  else if slice? ix.data 0 8 = some sellIx ∧ ix.data.length = 24 ∧ 12 ≤ ix.accounts.length then
    (parseInstructionTradeData ix accounts false timestamp).map (tradeOf botWallet)
  else none

/-- Of a buy only eight accounts are asked, and no length. -/
def pumpInstructionShreder (timestamp : ℤ) (ix : CompiledInstruction) : Option DexInstruction :=
  if slice? ix.data 0 8 = some createTokenIx then (parseInstructionCreateTokenData ix accounts).map .createToken
  else if slice? ix.data 0 8 = some buyIx ∧ 7 < ix.accounts.length then
    (parseInstructionTradeData ix accounts true timestamp).map .userTrade
  else if slice? ix.data 0 8 = some sellIx ∧ ix.data.length = 24 ∧ 12 ≤ ix.accounts.length then
    (parseInstructionTradeData ix accounts false timestamp).map .userTrade
  else none

def launchlabInstruction (ix : CompiledInstruction) : Option DexInstruction :=
  if slice? ix.data 0 8 = some initializeIx ∨ slice? ix.data 0 8 = some initializeV2 then
    (parseInstructionBonkCreateTokenData toText ix accounts).map .bonkCreateToken
  else if slice? ix.data 0 8 = some buyExactIn then (parseBonkTradeData toText ix accounts .buyExactIn).map .bonkTrade
  else if slice? ix.data 0 8 = some sellExactIn then (parseBonkTradeData toText ix accounts .sellExactIn).map .bonkTrade
  else if slice? ix.data 0 8 = some sellExactOut then (parseBonkTradeData toText ix accounts .sellExactOut).map .bonkTrade
  else none

/-! ### Transactions of the entries stream -/

def pumpInstructions (botWallet : Option Pubkey) (ixs : List CompiledInstruction) : List DexInstruction :=
  (instructionsOf accounts pumpfunProgramId ixs).filterMap fun (ix, i) => pumpInstruction accounts botWallet (clock i) ix

def launchlabInstructions (ixs : List CompiledInstruction) : List DexInstruction :=
  ((instructionsOf accounts raydiumLaunchlabProgramId ixs).filter fun (ix, _) => 8 ≤ ix.data.length).filterMap
    fun (ix, _) => launchlabInstruction toText accounts ix

end

/-- The clock says `clock i` when instruction `i` is read. -/
def parseCompiledInstruction (X : Outside) (toText : Pubkey → String) (clock : ℕ → ℤ) (tx : VersionedTransaction)
    (botWallet : Option Pubkey) : List DexInstruction :=
  let accounts := tx.message.staticKeys
  let ixs := tx.message.instructions
  forwardedInstructions X accounts (tx.signatures.head?.getD noSignature) 0 ixs ++
    pumpInstructions clock accounts botWallet ixs ++ launchlabInstructions toText accounts ixs

/-! ### Updates of the relay -/

/-- `ok_or_else` -/
def required {α : Type} (value : Option α) (text : String) : Except String α :=
  match value with
  | none => .error text
  | some value => .ok value

/-- `ClientError::InvalidData`, as it is printed. -/
def invalidData (text : String) : String := "Invalid data: " ++ text

def convertProtoInstruction (ix : CompiledInstruction) : Except String CompiledInstruction :=
  if ix.programIdIndex < 256 then .ok ix
  else .error (invalidData s!"program id index {ix.programIdIndex} exceeds u8 range")

def parseProtoPubkeys (accounts : List Bytes) : Except String (List Pubkey) :=
  accounts.zipIdx.mapM fun (bytes, index) =>
    if bytes.length = 32 then .ok (Pubkey.ofBytes bytes)
    else .error (invalidData s!"account key {index} has length {bytes.length}, expected 32")

/-- The instructions of a program, each converted before it is read. -/
def convertAll (read : ℕ → CompiledInstruction → Option DexInstruction) (ixs : List (CompiledInstruction × ℕ)) :
    Except String (List DexInstruction) :=
  (ixs.mapM fun (ix, i) => (convertProtoInstruction ix).map (read i)).map List.reduceOption

/-- The signature of an update's transaction, if it has 64 bytes. -/
def protoSignature (signatures : List Bytes) : Signature :=
  (signatures.head?.filter fun bytes => bytes.length = 64).getD noSignature

def parseCompiledInstructionShreder (X : Outside) (toText : Pubkey → String) (clock : ℕ → ℤ)
    (txInfo : SubscribeTransactionsResponse) : Except String (List DexInstruction) := do
  let update ← required txInfo.transaction (invalidData "missing transaction update")
  let transaction ← required update.transaction (invalidData "missing transaction")
  let message ← required transaction.message (invalidData "missing transaction message")
  let accounts ← parseProtoPubkeys message.accountKeys
  let ixs := message.instructions
  let forwarded := forwardedInstructions X accounts (protoSignature transaction.signatures) update.slot ixs
  let pump ← convertAll (fun i => pumpInstructionShreder accounts (clock i)) (instructionsOf accounts pumpfunProgramId ixs)
  let launchlab ← convertAll (fun _ => launchlabInstruction toText accounts)
    ((instructionsOf accounts raydiumLaunchlabProgramId ixs).filter fun (ix, _) => 8 ≤ ix.data.length)
  return forwarded ++ pump ++ launchlab

/-! ### Tips -/

/-- What is paid for a transaction. -/
structure Tip where
  unitLimit : Option ℕ := none
  unitPrice : Option ℕ := none
  feeMerchant : Option String := none
  fee : Option ℕ := none
deriving DecidableEq

def jitoTipAccounts : List Pubkey :=
  [0xf187ec87d1f745cb3a03384a26a69eda0ca2d1aa0f41e42416377e91ff5b5d31,
   0x2026101ec20328964a32abab136c5405b91f3ae38ee4f64cb6bde879b86838d2,
   0x89077d55a5bb1330763eb767f55ec077b41a0d075f7de1d73fbaca3c63d55471,
   0xbc2b57065ef1dd665430be606ba6596c0295301badef8b5afc41014150f41274,
   0xbf971b59108b5b85a04fb093f1e21b4e3fd4c4c8f487dd09b95752769f0dd8c3,
   0x78521cb179cebb8589b556a2d5ec94d2498682fdf9bb2af5ad64e491cc4153da,
   0xb14e0de55e9fba86396ebfd548cff8c92011eac7b75baa9b2d9c6a86f5a17141,
   0x88f1ffa3a2dfe617bdc4e3573251a322e3fcae81e5a457390e64751c00a465e2]

def solt0TipAccounts : List Pubkey :=
  [0xbceb527a867a56adcda361d5af783e628b50fe8dfd27f290625d9afb4db59af5,
   0xf420bb293320bfbc004b3be47f53be241f282eb53e109759eb3916d2ee150d33,
   0x67831af74a83fc333fb72123ee4da742cb5cc458c2e63f7efddf4c9ea80e796e,
   0xfeaf0693d94d8de8f8faa0d9f2c0bdce7fbac17987f33af6622afde2dd1cd70a,
   0x6eecd44b55c557ebce5f8e1e80fde333c0b997341052d081a8ca01070972f025,
   0xc9df2cd3c4ab112a08e22bee86749509bc91fbe28a6530f41c495947c84eee2a,
   0xd3050716265942848a3ac127d11c3d04e8ea3b7b2a8ae7ce57eba2037ff0f0eb,
   0xc6c7d3c44c70dbd7882b185629232ca562d129daad58ddf23e0d8937c44998d6,
   0x56fb525186bcacef27e2c1375c4164c67a6142550bb5950d4d555e0cb76b89c4,
   0xae2f96cdee1e982e627fd5e5bf5f939ba6810370437fdfbd4c9ce8923141f3e9]

section

variable (toText : Pubkey → String)

def getTipType (recipient : Pubkey) : String :=
  if jitoTipAccounts.contains recipient then "JITO"
  else if solt0TipAccounts.contains recipient then "SOLT0"
  else
    let recipient := toText recipient
    if recipient.startsWith "node" then "NODE"
    else if recipient.startsWith "noz" || recipient.startsWith "TEMP" then "TEMP"
    else if recipient.startsWith "Next" || recipient.startsWith "neXt" || recipient.startsWith "next" then "NEXT"
    else "UNKNOWN"

/-- A budget instruction sets the limit or the price, a transfer the fee and whom it pays. -/
def readTip (accounts : List Pubkey) (tip : Tip) (ix : CompiledInstruction) : Tip :=
  if accounts[ix.programIdIndex]? = some computeBudget then
    match ix.data.head? with
    | some 2 => { tip with unitLimit := (leNatAt 4 ix.data 1).or tip.unitLimit }
    | some 3 => { tip with unitPrice := (leNatAt 8 ix.data 1).or tip.unitPrice }
    | _ => tip
  else if accounts[ix.programIdIndex]? = some 0 ∧ ix.data.take 4 = [2, 0, 0, 0] then
    match leNatAt 8 ix.data 4, instructionAccount ix accounts 1 with
    | some amount, some recipient => { tip with feeMerchant := some (getTipType toText recipient), fee := some amount }
    | _, _ => tip
  else tip

def parseTipInfo (tx : VersionedTransaction) : Tip :=
  tx.message.instructions.foldl (readTip toText tx.message.staticKeys) {}

/-- What cannot be converted is passed over. -/
def parseTipInfoShreder (txInfo : SubscribeTransactionsResponse) : Tip :=
  match txInfo.transaction.bind fun update => update.transaction.bind (·.message) with
  | none => {}
  | some message =>
    match parseProtoPubkeys message.accountKeys with
    | .error _ => {}
    | .ok accounts => (message.instructions.filter (·.programIdIndex < 256)).foldl (readTip toText accounts) {}

end

/-- An outside that knows nothing. -/
def noOutside : Outside := ⟨fun _ _ => 0, fun _ _ _ _ _ => none, fun _ _ => false⟩

/-! ### Updates that can be decoded -/

/-- An update with a whole transaction. -/
def updateOf (slot : ℕ) (signatures accountKeys : List Bytes) (ixs : List CompiledInstruction) :
    SubscribeTransactionsResponse :=
  ⟨some ⟨some ⟨signatures, some ⟨accountKeys, ixs⟩⟩, slot⟩⟩

/-- Its signature has 64 bytes, its keys have 32, and the index of a program is a byte. -/
inductive WellFormed : SubscribeTransactionsResponse → Prop
  | intro {slot : ℕ} {signature : Bytes} {signatures accountKeys : List Bytes} {ixs : List CompiledInstruction}
      (hsignature : signature.length = 64) (hkeys : ∀ key ∈ accountKeys, key.length = 32)
      (hindex : ∀ ix ∈ ixs, ix.programIdIndex < 256) :
      WellFormed (updateOf slot (signature :: signatures) accountKeys ixs)

/-- The instructions an update has, once its keys are decoded. -/
def relayedInstructions (X : Outside) (toText : Pubkey → String) (clock : ℕ → ℤ) (signature : Signature) (slot : ℕ)
    (accounts : List Pubkey) (ixs : List CompiledInstruction) : List DexInstruction :=
  forwardedInstructions X accounts signature slot ixs ++
    ((instructionsOf accounts pumpfunProgramId ixs).filterMap fun (ix, i) =>
      pumpInstructionShreder accounts (clock i) ix) ++ launchlabInstructions toText accounts ixs

theorem mapM_ok {α β : Type} {f : α → Except String β} {g : α → β} : ∀ {l : List α}, (∀ a ∈ l, f a = .ok (g a)) →
    l.mapM f = .ok (l.map g)
  | [], _ => rfl
  | a :: l, h => by
    rw [List.mapM_cons, h a List.mem_cons_self, mapM_ok fun b hb => h b (List.mem_cons_of_mem _ hb)]
    rfl

theorem mem_of_mem_zipIdx {α : Type} {l : List α} {p : α × ℕ} (h : p ∈ l.zipIdx) : p.1 ∈ l := by
  rw [← List.zipIdx_map_fst 0 l]
  exact List.mem_map_of_mem h

theorem mem_of_instructionsOf {accounts : List Pubkey} {program : Pubkey} {ixs : List CompiledInstruction}
    {p : CompiledInstruction × ℕ} (h : p ∈ instructionsOf accounts program ixs) : p.1 ∈ ixs := by
  unfold instructionsOf at h
  split at h
  · cases h
  · exact mem_of_mem_zipIdx (List.mem_of_mem_filter h)

theorem parseProtoPubkeys_eq {accountKeys : List Bytes} (h : ∀ key ∈ accountKeys, key.length = 32) :
    parseProtoPubkeys accountKeys = .ok (accountKeys.map Pubkey.ofBytes) := by
  have hmap : accountKeys.map Pubkey.ofBytes = accountKeys.zipIdx.map fun p => Pubkey.ofBytes p.1 := by
    conv_lhs => rw [← List.zipIdx_map_fst 0 accountKeys, List.map_map]
    rfl
  rw [hmap]
  exact mapM_ok fun p hp => if_pos (h p.1 (mem_of_mem_zipIdx hp))

theorem convertAll_eq (read : ℕ → CompiledInstruction → Option DexInstruction) {ixs : List (CompiledInstruction × ℕ)}
    (h : ∀ p ∈ ixs, p.1.programIdIndex < 256) :
    convertAll read ixs = .ok (ixs.filterMap fun (ix, i) => read i ix) := by
  have hconvert : (ixs.mapM fun (ix, i) => (convertProtoInstruction ix).map (read i)) =
      .ok (ixs.map fun (ix, i) => read i ix) :=
    mapM_ok fun p hp => by
      have hfits : convertProtoInstruction p.1 = .ok p.1 := if_pos (h p hp)
      show (convertProtoInstruction p.1).map (read p.2) = _
      rw [hfits]
      rfl
  rw [convertAll, hconvert]
  exact congrArg Except.ok (List.filterMap_map.trans (by rfl))

/-- **Keys and indices that are fine are all an update needs.** -/
theorem parseCompiledInstructionShreder_eq {X : Outside} {toText : Pubkey → String} {clock : ℕ → ℤ} {slot : ℕ}
    {signatures accountKeys : List Bytes} {ixs : List CompiledInstruction}
    (hkeys : ∀ key ∈ accountKeys, key.length = 32) (hindex : ∀ ix ∈ ixs, ix.programIdIndex < 256) :
    parseCompiledInstructionShreder X toText clock (updateOf slot signatures accountKeys ixs) =
      .ok (relayedInstructions X toText clock (protoSignature signatures) slot (accountKeys.map Pubkey.ofBytes) ixs) := by
  have hof : ∀ program, ∀ p ∈ instructionsOf (accountKeys.map Pubkey.ofBytes) program ixs, p.1.programIdIndex < 256 :=
    fun _ p hp => hindex _ (mem_of_instructionsOf hp)
  have hlong : ∀ p ∈ (instructionsOf (accountKeys.map Pubkey.ofBytes) raydiumLaunchlabProgramId ixs).filter
      fun (ix, _) => 8 ≤ ix.data.length, p.1.programIdIndex < 256 := fun p hp => hof _ p (List.mem_of_mem_filter hp)
  have hpump := convertAll_eq (fun i => pumpInstructionShreder (accountKeys.map Pubkey.ofBytes) (clock i))
    (hof pumpfunProgramId)
  have hbonk := convertAll_eq (fun _ => launchlabInstruction toText (accountKeys.map Pubkey.ofBytes)) hlong
  unfold parseCompiledInstructionShreder updateOf
  simp only [required, parseProtoPubkeys_eq hkeys, hpump, hbonk, bind, Except.bind, pure, Except.pure]
  rfl

end Pumpfun
end ShredSdk
