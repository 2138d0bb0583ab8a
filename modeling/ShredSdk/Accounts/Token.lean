/-
# Token and nonce accounts

The readers of mints, token accounts and nonce accounts (`src/accounts/token.rs`,
`src/accounts/nonce.rs`) and the decoder of any account (`parse_account_unified` in
`src/accounts/mod.rs`), which asks the owner first, then for a nonce, then for a token.

The unpackers of the token programs are a parameter; so is the base58 of `bs58`.

Key definitions: `TokenInterface`, `parseTokenAccount`, `parseNonceAccount`,
`userWalletPubkeyForOnchainAccount`, `parseAccountUnified`.
Key theorems: `parseAccountUnified_rest`, `parseAccountUnified_decoded`,
`ownerDecoders_noToken`.
-/
import ShredSdk.Accounts.PumpFun
import ShredSdk.Accounts.PumpSwap
import ShredSdk.Accounts.Protocols
import ShredSdk.Grpc.Filter

namespace ShredSdk
namespace Accounts

/-- What is read of a mint. -/
@[ext] structure Mint where
  supply : ℕ
  decimals : ℕ
deriving DecidableEq

/-- What is read of a token account. -/
@[ext] structure TokenState where
  amount : ℕ
  owner : Pubkey
deriving DecidableEq

/-- The unpackers of the interface crates: `Mint::unpack`, `Mint::unpack_from_slice`,
`Account::unpack`, and `StateWithExtensions::unpack` of a mint and of an account. -/
structure TokenInterface where
  unpackMint : Bytes → Option Mint
  unpackMintFromSlice : Bytes → Option Mint
  unpackAccount : Bytes → Option TokenState
  unpackMint2022 : Bytes → Option Mint
  unpackAccount2022 : Bytes → Option TokenState

/-- `Mint::LEN`, `Mint2022::LEN` -/
def mintLen : ℕ := 82

/-- `SplTokenStateAccount::LEN` -/
def tokenAccountLen : ℕ := 165

def systemProgramId : Pubkey := 0

def isTokenProgramAccount (owner : Pubkey) : Bool := owner = splToken || owner = token2022

/-! ### Token accounts -/

section Token

variable (I : TokenInterface) (account : AccountData) (metadata : EventMetadata)

def tokenInfo (mint : Mint) : AccountEvent := .tokenInfo metadata account.info mint.supply mint.decimals

def tokenAccount (state : TokenState) : AccountEvent :=
  .tokenAccount metadata account.info (some state.amount) state.owner

def parseMintFast : Option AccountEvent :=
  if account.data.length < mintLen then none
  else do
    let supplyBytes ← slice? account.data 36 44
    let decimals ← account.data[44]?
    some (.tokenInfo metadata account.info (leNat supplyBytes) decimals.toNat)

/-- The owner it reports is the account's, which is the token program. -/
def parseTokenFast : Option AccountEvent :=
  if account.data.length < 64 + 8 then none
  else if account.data.length ≠ tokenAccountLen then none
  else do
    let amountBytes ← slice? account.data 64 72
    some (.tokenAccount metadata account.info (some (leNat amountBytes)) account.owner)

/-- The paths that read at offsets, in the order they are tried. -/
def parseFast : Option AccountEvent :=
  (if account.data.length ≤ 100 then parseMintFast account metadata else none) <|> parseTokenFast account metadata

def parseTokenWithExtensions : Option AccountEvent :=
  (if mintLen ≤ account.data.length then (I.unpackMint2022 account.data).map (tokenInfo account metadata) else none) <|>
  (if mintLen ≤ account.data.length then
    (I.unpackMintFromSlice account.data).map (tokenInfo account metadata) else none) <|>
  (if account.owner = token2022 then
    (I.unpackAccount2022 account.data).map (tokenAccount account metadata) else none) <|>
  (I.unpackAccount account.data).map (tokenAccount account metadata)

def parseTokenAccount : Option AccountEvent :=
  if isTokenProgramAccount account.owner then
    parseFast account metadata <|> parseTokenWithExtensions I account metadata
  else none

/-- The wallet behind an address: the address itself, or the owner stored in a token account. -/
def userWalletPubkeyForOnchainAccount (address owner : Pubkey) (data : Bytes) (executable : Bool) : Option Pubkey :=
  if executable then none
  else if owner = systemProgramId then if data.isEmpty then some address else none
  else if isTokenProgramAccount owner ∧ data.length = tokenAccountLen then
    (I.unpackAccount data).map TokenState.owner
  else none

end Token

/-! ### Nonce accounts -/

def isNonceAccount (data : Bytes) : Bool := data.take 8 == [1, 0, 0, 0, 1, 0, 0, 0]

/-- `NONCE_ACCOUNT_SIZE` -/
def nonceAccountSize : ℕ := 80

def parseNonceAccount (bs58 : Bytes → String) (account : AccountData) (metadata : EventMetadata) :
    Option AccountEvent :=
  if account.data.length ≠ nonceAccountSize then none
  else do
    let authorityBytes ← slice? account.data 8 40
    let nonceBytes ← slice? account.data 40 72
    some (.nonceAccount metadata account.info (bs58 nonceBytes) (bs58 authorityBytes))

/-! ### Any account -/

namespace AccountEvent

/-- The variant of `DexEvent`. -/
def kind : AccountEvent → EventKind
  | pumpFunGlobalAccount .. => .pumpFunGlobalAccount
  | pumpFunBondingCurveAccount .. => .pumpFunBondingCurveAccount
  | pumpFunFeeConfigAccount .. => .pumpFunFeeConfigAccount
  | pumpFunSharingConfigAccount .. => .pumpFunSharingConfigAccount
  | pumpFunGlobalVolumeAccumulatorAccount .. => .pumpFunGlobalVolumeAccumulatorAccount
  | pumpFunUserVolumeAccumulatorAccount .. => .pumpFunUserVolumeAccumulatorAccount
  | pumpSwapGlobalConfigAccount .. => .pumpSwapGlobalConfigAccount
  | pumpSwapPoolAccount .. => .pumpSwapPoolAccount
  | raydiumClmmAmmConfigAccount .. => .raydiumClmmAmmConfigAccount
  | raydiumClmmPoolStateAccount .. => .raydiumClmmPoolStateAccount
  | raydiumClmmTickArrayStateAccount .. => .raydiumClmmTickArrayStateAccount
  | raydiumCpmmAmmConfigAccount .. => .raydiumCpmmAmmConfigAccount
  | raydiumCpmmPoolStateAccount .. => .raydiumCpmmPoolStateAccount
  | raydiumCpmmCreatorFeeShareAccount .. => .raydiumCpmmCreatorFeeShareAccount
  | orcaWhirlpoolAccount .. => .orcaWhirlpoolAccount
  | orcaPositionAccount .. => .orcaPositionAccount
  | orcaTickArrayAccount .. => .orcaTickArrayAccount
  | orcaFeeTierAccount .. => .orcaFeeTierAccount
  | orcaWhirlpoolsConfigAccount .. => .orcaWhirlpoolsConfigAccount
  | tokenInfo .. => .tokenInfo
  | tokenAccount .. => .tokenAccount
  | nonceAccount .. => .nonceAccount

end AccountEvent

/-- `should_include_dex_event` asks the variant only. -/
def includesAccount (metadata : EventMetadata) (filter : EventTypeFilter) (event : AccountEvent) : Bool :=
  filter.shouldIncludeDexEvent ⟨event.kind, { metadata := metadata }⟩

def filterParsedEvent (metadata : EventMetadata) (event : Option AccountEvent) (eventTypeFilter : Option EventTypeFilter) :
    Option AccountEvent :=
  event.filter fun e => eventTypeFilter.all fun filter => includesAccount metadata filter e

def pumpSwapAccountTypes : List EventType := [.accountPumpSwapGlobalConfig, .accountPumpSwapPool]
def clmmAccountTypes : List EventType :=
  [.accountRaydiumClmmAmmConfig, .accountRaydiumClmmPoolState, .accountRaydiumClmmTickArrayState]
def cpmmAccountTypes : List EventType :=
  [.accountRaydiumCpmmAmmConfig, .accountRaydiumCpmmPoolState, .accountRaydiumCpmmCreatorFeeShare]
def orcaAccountTypes : List EventType :=
  [.accountOrcaWhirlpool, .accountOrcaPosition, .accountOrcaTickArray, .accountOrcaFeeTier,
    .accountOrcaWhirlpoolsConfig]
def pumpFunAccountTypes : List EventType :=
  [.accountPumpFunGlobal, .accountPumpFunBondingCurve, .accountPumpFunFeeConfig, .accountPumpFunSharingConfig,
    .accountPumpFunGlobalVolumeAccumulator, .accountPumpFunUserVolumeAccumulator]
def tokenAccountTypes : List EventType := [.tokenAccount, .tokenInfo]

/-- The types of all accounts. -/
def accountTypes : List EventType :=
  tokenAccountTypes ++ [.nonceAccount] ++ pumpFunAccountTypes ++ pumpSwapAccountTypes ++ clmmAccountTypes ++
    cpmmAccountTypes ++ orcaAccountTypes

def parsePumpswapAccount (account : AccountData) (metadata : EventMetadata) : Option AccountEvent :=
  if hasDiscriminator account.data globalConfigDiscriminator then parseGlobalConfig account metadata
  else if hasDiscriminator account.data poolDiscriminator then parsePool account metadata
  else none

/-- The owners whose accounts have a decoder of their own, with the types it reports. -/
def ownerDecoders : List (Pubkey × List EventType × (AccountData → EventMetadata → Option AccountEvent)) :=
  [(pumpswapProgramId, pumpSwapAccountTypes, parsePumpswapAccount),
   (raydiumClmmProgramId, clmmAccountTypes, RaydiumClmm.parseAccount),
   (raydiumCpmmProgramId, cpmmAccountTypes, RaydiumCpmm.parseAccount),
   (orcaWhirlpoolProgramId, orcaAccountTypes, OrcaWhirlpool.parseAccount),
   (pumpfunProgramId, pumpFunAccountTypes, parsePumpfunAccount),
   (pumpFeesProgramId, pumpFunAccountTypes, parsePumpfunAccount)]

section Unified

variable (I : TokenInterface) (bs58 : Bytes → String) (account : AccountData) (metadata : EventMetadata)
  (eventTypeFilter : Option EventTypeFilter)

/-- What the filter asks of a group of types. -/
def wants (types : List EventType) : Bool := eventTypeFilter.all fun filter => filter.includesAny types

/-- The end of `parse_account_unified`, for the accounts of no known program. -/
def parseNonceOrToken : Option AccountEvent :=
  if isNonceAccount account.data then
    if wants eventTypeFilter [.nonceAccount] then parseNonceAccount bs58 account metadata else none
  else if wants eventTypeFilter tokenAccountTypes then
    filterParsedEvent metadata (parseTokenAccount I account metadata) eventTypeFilter
  else none

def parseAccountUnified : Option AccountEvent :=
  if account.data.isEmpty then none
  -- a filter of inclusion that names no account type wants none
  else if (eventTypeFilter.bind EventTypeFilter.includeOnly).any fun includeOnly =>
      !includeOnly.any fun t => accountTypes.contains t then none
  else
    match ownerDecoders.lookup account.owner with
    | some (types, parse) =>
      if wants eventTypeFilter types then filterParsedEvent metadata (parse account metadata) eventTypeFilter else none
    | none => parseNonceOrToken I bs58 account metadata eventTypeFilter

end Unified

/-! ### Without a filter -/

section NoFilter

variable {I : TokenInterface} {bs58 : Bytes → String} {account : AccountData} {metadata : EventMetadata}

theorem filterParsedEvent_none (event : Option AccountEvent) : filterParsedEvent metadata event none = event := by
  cases event <;> rfl

theorem parseAccountUnified_rest (h : ownerDecoders.lookup account.owner = none) :
    parseAccountUnified I bs58 account metadata none =
      if account.data.isEmpty then none
      else if isNonceAccount account.data then parseNonceAccount bs58 account metadata
      else parseTokenAccount I account metadata := by
  unfold parseAccountUnified
  rw [h]
  show (if account.data.isEmpty then none else parseNonceOrToken I bs58 account metadata none) = _
  rw [parseNonceOrToken, filterParsedEvent_none]
  rfl

theorem parseAccountUnified_decoded {types : List EventType} {parse : AccountData → EventMetadata → Option AccountEvent}
    (h : ownerDecoders.lookup account.owner = some (types, parse)) :
    parseAccountUnified I bs58 account metadata none =
      if account.data.isEmpty then none else parse account metadata := by
  unfold parseAccountUnified
  rw [h]
  show (if account.data.isEmpty then none else filterParsedEvent metadata (parse account metadata) none) = _
  rw [filterParsedEvent_none]

end NoFilter

/-! ### What the decoders of the programs report -/

def AccountEvent.isToken (event : AccountEvent) : Bool :=
  event.kind = .tokenInfo || event.kind = .tokenAccount || event.kind = .nonceAccount

/-- What is reported, if anything, is no token or nonce account. -/
def NoToken (report : Option AccountEvent) : Prop := ∀ event, report = some event → event.isToken = false

theorem noToken_none : NoToken none := fun _ h => by cases h

theorem noToken_ite {c : Prop} [Decidable c] {a b : Option AccountEvent} (ha : NoToken a) (hb : NoToken b) :
    NoToken (if c then a else b) := by
  by_cases h : c
  · rwa [if_pos h]
  · rwa [if_neg h]

theorem noToken_map {α : Type} {f : α → AccountEvent} {a : Option α} (h : ∀ x, (f x).isToken = false) :
    NoToken (a.map f) := by
  intro event hevent
  obtain ⟨x, -, rfl⟩ := Option.map_eq_some_iff.mp hevent
  exact h x

theorem noToken_bind {α : Type} {f : α → AccountEvent} {a : Option α} (h : ∀ x, (f x).isToken = false) :
    NoToken (a.bind fun x => some (f x)) := by
  intro event hevent
  obtain ⟨x, -, hx⟩ := Option.bind_eq_some_iff.mp hevent
  obtain rfl := Option.some.inj hx
  exact h x

section Reports

variable {account : AccountData} {metadata : EventMetadata}

theorem parsePumpswapAccount_noToken : NoToken (parsePumpswapAccount account metadata) := by
  apply noToken_ite
  · exact noToken_ite noToken_none (noToken_ite noToken_none (noToken_bind fun _ => rfl))
  · apply noToken_ite
    · exact noToken_ite noToken_none (noToken_ite noToken_none (noToken_ite noToken_none (noToken_bind fun _ => rfl)))
    · exact noToken_none

theorem parsePumpfunAccount_noToken : NoToken (parsePumpfunAccount account metadata) :=
  noToken_ite (noToken_map fun _ => rfl) (noToken_ite (noToken_map fun _ => rfl)
    (noToken_ite (noToken_map fun _ => rfl) (noToken_ite (noToken_map fun _ => rfl)
      (noToken_ite (noToken_map fun _ => rfl) (noToken_ite noToken_none (noToken_map fun _ => rfl))))))

theorem parseFixed_noToken {F : Type} [DecidableEq F] {T : F → Type} {codec : ∀ f, FixedCodec (T f)} {size : ℕ}
    {discriminator : Bytes} {layout : List F} {event : EventMetadata → Pubkey → (∀ f, T f) → AccountEvent}
    (h : ∀ r, (event metadata account.pubkey r).isToken = false) :
    NoToken (parseFixed codec size discriminator layout event account metadata) :=
  noToken_ite noToken_none (noToken_map h)

theorem clmm_noToken : NoToken (RaydiumClmm.parseAccount account metadata) :=
  noToken_ite (parseFixed_noToken fun _ => rfl) (noToken_ite (parseFixed_noToken fun _ => rfl)
    (noToken_ite (parseFixed_noToken fun _ => rfl) noToken_none))

theorem cpmm_noToken : NoToken (RaydiumCpmm.parseAccount account metadata) :=
  noToken_ite (parseFixed_noToken fun _ => rfl) (noToken_ite (parseFixed_noToken fun _ => rfl)
    (noToken_ite (parseFixed_noToken fun _ => rfl) noToken_none))

theorem orca_noToken : NoToken (OrcaWhirlpool.parseAccount account metadata) :=
  noToken_ite (parseFixed_noToken fun _ => rfl) (noToken_ite (parseFixed_noToken fun _ => rfl)
    (noToken_ite (parseFixed_noToken fun _ => rfl) (noToken_ite (parseFixed_noToken fun _ => rfl)
      (noToken_ite (parseFixed_noToken fun _ => rfl) noToken_none))))

/-- No program's decoder reports a token or a nonce account. -/
theorem ownerDecoders_noToken {entry : Pubkey × List EventType × (AccountData → EventMetadata → Option AccountEvent)}
    (h : entry ∈ ownerDecoders) : NoToken (entry.2.2 account metadata) := by
  simp only [ownerDecoders, List.mem_cons, List.not_mem_nil, or_false] at h
  rcases h with rfl | rfl | rfl | rfl | rfl | rfl
  · exact parsePumpswapAccount_noToken
  · exact clmm_noToken
  · exact cpmm_noToken
  · exact orca_noToken
  · exact parsePumpfunAccount_noToken
  · exact parsePumpfunAccount_noToken

end Reports

end Accounts
end ShredSdk
