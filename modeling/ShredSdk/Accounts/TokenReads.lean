/-
# What token accounts are read as

What `parse_account_unified` should report of the token programs' accounts, against what
it reports. The reader at offsets takes the owner of a token account of 165 bytes from
the account and not from its data, and neither it nor the mint's asks whether the
account is initialized; a longer account that is no mint of its program may be read as
one; and an account that starts as a nonce does is taken for one whoever owns it.

The unpackers of the token programs are assumed to have their documented layouts.

Key definitions: `mintOf`, `accountOf`, `ReportsExactly`, `ReadRight`.
Key theorems: `readers_agree_iff`, `reportsExactly_iff`.
-/
import ShredSdk.Accounts.TokenLayouts

namespace ShredSdk
namespace Accounts

/-! ### What should be reported -/

section Spec

variable (I : TokenInterface) (bs58 : Bytes → String) (account : AccountData) (metadata : EventMetadata)

/-- The initialized mint of a token program an account is. -/
def mintOf : Option Mint :=
  if account.owner = splToken then I.unpackMint account.data
  else if account.owner = token2022 then I.unpackMint2022 account.data
  else none

/-- The initialized token account of a token program an account is. -/
def accountOf : Option TokenState :=
  if account.owner = splToken then I.unpackAccount account.data
  else if account.owner = token2022 then I.unpackAccount2022 account.data
  else none

/-- Mints and token accounts are reported as what they are and nothing else is; a nonce is
the system program's; and the two readers of token accounts agree. -/
structure ReportsExactly : Prop where
  info : ∀ supply decimals, parseAccountUnified I bs58 account metadata none =
    some (.tokenInfo metadata account.info supply decimals) ↔ mintOf I account = some ⟨supply, decimals⟩
  token : ∀ amount tokenOwner, parseAccountUnified I bs58 account metadata none =
    some (.tokenAccount metadata account.info (some amount) tokenOwner) ↔
      accountOf I account = some ⟨amount, tokenOwner⟩
  nonce : ∀ nonce authority, parseAccountUnified I bs58 account metadata none =
    some (.nonceAccount metadata account.info nonce authority) → account.owner = systemProgramId
  agree : isTokenProgramAccount account.owner = true → ∀ fast full, parseFast account metadata = some fast →
    parseTokenWithExtensions I account metadata = some full → fast = full

/-- The accounts that are read right. One that starts as a nonce does is of another size or
the system program's, and is neither mint nor token account. Of a token program's, one of
82 to 100 bytes is a mint; one of 165 is an account whose wallet is the token program, and
no mint by its first bytes; a longer one that is no mint of its program is no mint. -/
structure ReadRight : Prop where
  nonceOwner : isNonceAccount account.data = true → account.data.length = nonceAccountSize →
    account.owner = systemProgramId ∨ account.owner ∈ ownerDecoders.map Prod.fst
  nonceShaped : isNonceAccount account.data = true → isTokenProgramAccount account.owner = true →
    mintOf I account = none ∧ accountOf I account = none
  mint : isNonceAccount account.data = false → isTokenProgramAccount account.owner = true →
    mintLen ≤ account.data.length → account.data.length ≤ 100 → (mintOf I account).isSome
  wallet : isNonceAccount account.data = false → isTokenProgramAccount account.owner = true →
    account.data.length = tokenAccountLen → (accountOf I account).map TokenState.owner = some account.owner
  notMint : isTokenProgramAccount account.owner = true → account.data.length = tokenAccountLen →
    I.unpackMintFromSlice account.data = none
  long : isNonceAccount account.data = false → isTokenProgramAccount account.owner = true →
    100 < account.data.length → account.data.length ≠ tokenAccountLen →
    (account.owner = splToken → I.unpackMint2022 account.data = none) ∧
      (I.unpackMint2022 account.data = none → I.unpackMintFromSlice account.data = none)

end Spec

/-! ### The readers at offsets -/

section Fast

variable {account : AccountData} {metadata : EventMetadata}

theorem parseMintFast_eq (h : mintLen ≤ account.data.length) :
    parseMintFast account metadata = some (tokenInfo account metadata (mintAt account.data)) := by
  unfold mintLen at h
  have hsupply := slice?_of_le (p := account.data) (a := 36) (b := 44) (by omega) (by omega)
  have hdecimals : account.data[44]? = some (account.data.getD 44 0) := by
    rw [List.getD_eq_getElem?_getD, List.getElem?_eq_getElem (by omega), Option.getD_some]
  unfold parseMintFast mintLen
  rw [if_neg (by omega), hsupply, hdecimals]
  rfl

theorem parseFast_mint (hlow : mintLen ≤ account.data.length) (hhigh : account.data.length ≤ 100) :
    parseFast account metadata = some (tokenInfo account metadata (mintAt account.data)) := by
  unfold parseFast
  rw [if_pos hhigh, parseMintFast_eq hlow]
  rfl

theorem parseFast_account (hlen : account.data.length = tokenAccountLen) :
    parseFast account metadata =
      some (.tokenAccount metadata account.info (some (tokenStateAt account.data).amount) account.owner) := by
  unfold tokenAccountLen at hlen
  have hamount := slice?_of_le (p := account.data) (a := 64) (b := 72) (by omega) (by omega)
  unfold parseFast parseTokenFast tokenAccountLen
  rw [if_neg (by omega), if_neg (by omega), if_neg (by omega), hamount]
  rfl

theorem parseFast_none (hmint : ¬ (mintLen ≤ account.data.length ∧ account.data.length ≤ 100))
    (hlen : account.data.length ≠ tokenAccountLen) : parseFast account metadata = none := by
  have htoken : parseTokenFast account metadata = none := by
    unfold parseTokenFast
    rw [if_pos hlen, ite_self]
  unfold parseFast
  rw [htoken]
  by_cases hhigh : account.data.length ≤ 100
  · rw [if_pos hhigh, parseMintFast, if_pos (by omega)]
    rfl
  · rw [if_neg hhigh]
    rfl

end Fast

/-! ### The reader of whole states -/

section Full

variable {I : TokenInterface} (hI : I.Documented) {account : AccountData} {metadata : EventMetadata}

include hI

theorem unpackAccount_none (h : account.data.length ≠ tokenAccountLen) : I.unpackAccount account.data = none := by
  by_contra hne
  obtain ⟨a, ha⟩ := Option.ne_none_iff_exists'.mp hne
  exact h (hI.account_pack ha).1

theorem unpackAccount2022_none (h : account.data.length < tokenAccountLen) :
    I.unpackAccount2022 account.data = none := by
  by_contra hne
  obtain ⟨a, ha⟩ := Option.ne_none_iff_exists'.mp hne
  exact absurd (hI.account2022_base ha).1 (by omega)

theorem unpackMint2022_none (h : account.data.length ≠ mintLen) (h' : account.data.length ≤ tokenAccountLen) :
    I.unpackMint2022 account.data = none := by
  by_contra hne
  obtain ⟨m, hm⟩ := Option.ne_none_iff_exists'.mp hne
  exact (hI.mint2022_base hm).1.elim h (by omega)

theorem unpackMint_none (h : account.data.length ≠ mintLen) : I.unpackMint account.data = none := by
  by_contra hne
  obtain ⟨m, hm⟩ := Option.ne_none_iff_exists'.mp hne
  exact h (hI.mint_pack hm).1

theorem parseTokenWithExtensions_short (h : account.data.length < mintLen) :
    parseTokenWithExtensions I account metadata = none := by
  unfold mintLen at h
  have hlong : account.data.length < tokenAccountLen := by unfold tokenAccountLen; omega
  unfold parseTokenWithExtensions mintLen
  rw [if_neg (by omega), if_neg (by omega), unpackAccount2022_none hI hlong, unpackAccount_none hI (by omega),
    Option.map_none, ite_self]
  rfl

/-- A mint by its first bytes is reported with what stands at the offsets. -/
theorem parseTokenWithExtensions_mint (hlow : mintLen ≤ account.data.length)
    (hhigh : account.data.length < tokenAccountLen) {full : AccountEvent}
    (h : parseTokenWithExtensions I account metadata = some full) :
    full = tokenInfo account metadata (mintAt account.data) := by
  unfold parseTokenWithExtensions at h
  rw [if_pos hlow, if_pos hlow, unpackAccount2022_none hI hhigh, unpackAccount_none hI (by omega), Option.map_none,
    ite_self] at h
  cases hmint : I.unpackMint2022 account.data with
  | some m =>
    rw [hmint, (hI.mint2022_base hmint).2] at h
    exact (Option.some.inj h).symm
  | none =>
    cases hslice : I.unpackMintFromSlice account.data with
    | some m =>
      rw [hmint, hslice, hI.mintFromSlice_fields hslice] at h
      exact (Option.some.inj h).symm
    | none =>
      rw [hmint, hslice] at h
      cases h

/-- What is made of 165 bytes. -/
theorem parseTokenWithExtensions_account (hlen : account.data.length = tokenAccountLen) :
    parseTokenWithExtensions I account metadata =
      ((I.unpackMintFromSlice account.data).map (tokenInfo account metadata) <|>
        (I.unpackAccount account.data).map (tokenAccount account metadata)) := by
  have hlong : mintLen ≤ account.data.length := by rw [hlen]; decide
  have hother : account.data.length ≠ mintLen := by rw [hlen]; decide
  unfold parseTokenWithExtensions
  rw [if_pos hlong, if_pos hlong, unpackMint2022_none hI hother hlen.le, hI.account2022_pack hlen]
  cases I.unpackMintFromSlice account.data with
  | some m => rfl
  | none =>
    by_cases howner : account.owner = token2022
    · rw [if_pos howner]
      cases I.unpackAccount account.data <;> rfl
    · rw [if_neg howner]
      rfl

/-- A longer state: a mint of Token-2022, a mint by its first bytes, or an account. -/
theorem parseTokenWithExtensions_long (hlow : mintLen ≤ account.data.length)
    (hlen : account.data.length ≠ tokenAccountLen) :
    parseTokenWithExtensions I account metadata =
      ((I.unpackMint2022 account.data).map (tokenInfo account metadata) <|>
        (I.unpackMintFromSlice account.data).map (tokenInfo account metadata) <|>
        if account.owner = token2022 then (I.unpackAccount2022 account.data).map (tokenAccount account metadata)
        else none) := by
  unfold parseTokenWithExtensions
  rw [if_pos hlow, if_pos hlow, unpackAccount_none hI hlen]
  simp

/-- The account of 165 bytes of either program. -/
theorem accountOf_eq (htoken : isTokenProgramAccount account.owner = true)
    (hlen : account.data.length = tokenAccountLen) : accountOf I account = I.unpackAccount account.data := by
  unfold accountOf
  by_cases hspl : account.owner = splToken
  · rw [if_pos hspl]
  · have h2022 : account.owner = token2022 := by simpa [isTokenProgramAccount, hspl] using htoken
    rw [if_neg hspl, if_pos h2022, hI.account2022_pack hlen]

theorem mintOf_short (hlow : account.data.length < mintLen) : mintOf I account = none := by
  have hlong : account.data.length ≤ tokenAccountLen := by unfold mintLen at hlow; unfold tokenAccountLen; omega
  unfold mintOf
  rw [unpackMint_none hI (by omega), unpackMint2022_none hI (by omega) hlong, ite_self, ite_self]

theorem mintOf_account (hlen : account.data.length = tokenAccountLen) : mintOf I account = none := by
  have hother : account.data.length ≠ mintLen := by rw [hlen]; decide
  unfold mintOf
  rw [unpackMint_none hI hother, unpackMint2022_none hI hother hlen.le, ite_self, ite_self]

theorem accountOf_short (hlen : account.data.length < tokenAccountLen) : accountOf I account = none := by
  unfold accountOf
  rw [unpackAccount_none hI (by omega), unpackAccount2022_none hI hlen, ite_self, ite_self]

theorem mintOf_eq {m : Mint} (h : mintOf I account = some m) : m = mintAt account.data := by
  unfold mintOf at h
  split_ifs at h
  · exact (hI.mint_pack h).2
  · exact (hI.mint2022_base h).2

theorem accountOf_fields {a : TokenState} (h : accountOf I account = some a) : a = tokenStateAt account.data := by
  unfold accountOf at h
  split_ifs at h
  · exact (hI.account_pack h).2
  · exact (hI.account2022_base h).2

/-- **When the two readers agree.** -/
theorem readers_agree_iff (htoken : isTokenProgramAccount account.owner = true) :
    (∀ fast full, parseFast account metadata = some fast →
        parseTokenWithExtensions I account metadata = some full → fast = full) ↔
      (account.data.length = tokenAccountLen →
        I.unpackMintFromSlice account.data = none ∧ ∀ a, accountOf I account = some a → a.owner = account.owner) := by
  by_cases hlen : account.data.length = tokenAccountLen
  · rw [accountOf_eq hI htoken hlen, parseTokenWithExtensions_account hI hlen, parseFast_account hlen]
    constructor
    · intro hagree _
      cases hslice : I.unpackMintFromSlice account.data with
      | some m =>
        rw [hslice] at hagree
        cases hagree _ _ rfl rfl
      | none =>
        refine ⟨rfl, fun a ha => ?_⟩
        rw [hslice, ha] at hagree
        have heq := hagree _ _ rfl rfl
        injection heq with _ _ _ howner
        exact howner.symm
    · intro hread fast full hfast hfull
      obtain ⟨hslice, howner⟩ := hread hlen
      rw [hslice, Option.map_none] at hfull
      obtain ⟨a, ha, rfl⟩ := Option.map_eq_some_iff.mp hfull
      rw [← Option.some.inj hfast, ← howner a ha, (hI.account_pack ha).2]
      rfl
  · refine ⟨fun _ h => absurd h hlen, fun _ fast full hfast hfull => ?_⟩
    by_cases hmint : mintLen ≤ account.data.length ∧ account.data.length ≤ 100
    · rw [parseFast_mint hmint.1 hmint.2] at hfast
      have hshort : account.data.length < tokenAccountLen := by unfold tokenAccountLen; omega
      rw [parseTokenWithExtensions_mint hI hmint.1 hshort hfull]
      exact (Option.some.inj hfast).symm
    · rw [parseFast_none hmint hlen] at hfast
      cases hfast

end Full

/-! ### Exactly the accounts that are read right -/

section Exactly

variable {I : TokenInterface} {bs58 : Bytes → String} {account : AccountData} {metadata : EventMetadata}

theorem no_state (htoken : isTokenProgramAccount account.owner = false) :
    mintOf I account = none ∧ accountOf I account = none := by
  obtain ⟨hspl, h2022⟩ : account.owner ≠ splToken ∧ account.owner ≠ token2022 := by
    simpa [isTokenProgramAccount] using htoken
  unfold mintOf accountOf
  rw [if_neg hspl, if_neg h2022, if_neg hspl, if_neg h2022]
  exact ⟨rfl, rfl⟩

/-- A token program is no program with a decoder, nor the system program. -/
theorem token_owner (htoken : isTokenProgramAccount account.owner = true) :
    account.owner ∉ ownerDecoders.map Prod.fst ∧ account.owner ≠ systemProgramId := by
  have howner : account.owner = splToken ∨ account.owner = token2022 := by
    simpa [isTokenProgramAccount] using htoken
  rcases howner with h | h
  · rw [h]
    constructor
    · simp [ownerDecoders, splToken, pumpswapProgramId, raydiumClmmProgramId, raydiumCpmmProgramId,
        orcaWhirlpoolProgramId, pumpfunProgramId, pumpFeesProgramId]
    · simp [splToken, systemProgramId]
  · rw [h]
    constructor
    · simp [ownerDecoders, token2022, pumpswapProgramId, raydiumClmmProgramId, raydiumCpmmProgramId,
        orcaWhirlpoolProgramId, pumpfunProgramId, pumpFeesProgramId]
    · simp [token2022, systemProgramId]

theorem lookup_none_iff : ownerDecoders.lookup account.owner = none ↔ account.owner ∉ ownerDecoders.map Prod.fst := by
  rw [List.lookup_eq_none_iff, List.mem_map]
  constructor
  · rintro h ⟨entry, hentry, heq⟩
    have hne := h entry hentry
    rw [heq, bne_self_eq_false] at hne
    cases hne
  · intro h entry hentry
    rw [bne_iff_ne]
    intro heq
    exact h ⟨entry, hentry, heq.symm⟩

/-- A report of the mint or of the token account an account is. -/
theorem reportsExactly_of_states
    (hreport : parseAccountUnified I bs58 account metadata none =
      ((mintOf I account).map (tokenInfo account metadata) <|> (accountOf I account).map (tokenAccount account metadata)))
    (hone : ∀ m, mintOf I account = some m → accountOf I account = none)
    (hagree : isTokenProgramAccount account.owner = true → ∀ fast full, parseFast account metadata = some fast →
      parseTokenWithExtensions I account metadata = some full → fast = full) :
    ReportsExactly I bs58 account metadata := by
  cases hmint : mintOf I account with
  | some m =>
    have hinfo : parseAccountUnified I bs58 account metadata none = some (tokenInfo account metadata m) := by
      rw [hreport, hmint]
      rfl
    constructor
    · intro supply decimals
      simp only [hinfo, hmint, tokenInfo, Option.some.injEq, AccountEvent.tokenInfo.injEq, true_and, Mint.ext_iff]
    · intro amount tokenOwner
      simp [hinfo, hone m hmint, tokenInfo]
    · intro nonce authority h
      rw [hinfo] at h
      cases h
    · exact hagree
  | none =>
    have htoken : parseAccountUnified I bs58 account metadata none =
        (accountOf I account).map (tokenAccount account metadata) := by
      rw [hreport, hmint]
      rfl
    constructor
    · intro supply decimals
      rw [htoken, hmint]
      cases accountOf I account <;> simp [tokenAccount]
    · intro amount tokenOwner
      rw [htoken]
      cases accountOf I account with
      | none => simp
      | some a =>
        simp only [tokenAccount, Option.map_some, Option.some.injEq, AccountEvent.tokenAccount.injEq, true_and,
          TokenState.ext_iff]
    · intro nonce authority h
      rw [htoken] at h
      obtain ⟨a, -, ha⟩ := Option.map_eq_some_iff.mp h
      cases ha
    · exact hagree

/-- What a report that is no token or nonce account makes of the demands. -/
theorem reportsExactly_of_noToken (hreport : NoToken (parseAccountUnified I bs58 account metadata none))
    (hmint : mintOf I account = none) (haccount : accountOf I account = none)
    (hagree : isTokenProgramAccount account.owner = true → ∀ fast full, parseFast account metadata = some fast →
      parseTokenWithExtensions I account metadata = some full → fast = full) :
    ReportsExactly I bs58 account metadata where
  info supply decimals := by
    rw [hmint]
    constructor
    · intro h
      cases hreport _ h
    · intro h
      cases h
  token amount tokenOwner := by
    rw [haccount]
    constructor
    · intro h
      cases hreport _ h
    · intro h
      cases h
  nonce _ _ h := by cases hreport _ h
  agree := hagree

/-! ### Accounts of a program with a decoder, and of none -/

variable (I bs58 metadata) in
theorem decoded_exact (h : account.owner ∈ ownerDecoders.map Prod.fst) :
    ReportsExactly I bs58 account metadata ∧ ReadRight I account := by
  have htoken : isTokenProgramAccount account.owner = false := by
    by_contra htoken
    exact (token_owner (Bool.of_not_eq_false htoken)).1 h
  obtain ⟨hmint, haccount⟩ := no_state (I := I) htoken
  obtain ⟨⟨types, parse⟩, hlookup⟩ := Option.ne_none_iff_exists'.mp (mt lookup_none_iff.mp (not_not.mpr h))
  have hreport : NoToken (parseAccountUnified I bs58 account metadata none) := by
    rw [parseAccountUnified_decoded hlookup]
    obtain ⟨front, back, hsplit, -⟩ := List.lookup_eq_some_iff.mp hlookup
    have hentry : (account.owner, types, parse) ∈ ownerDecoders := by
      rw [hsplit]
      exact List.mem_append_right front List.mem_cons_self
    exact noToken_ite noToken_none (ownerDecoders_noToken hentry)
  constructor
  · exact reportsExactly_of_noToken hreport hmint haccount (by rw [htoken]; rintro ⟨⟩)
  · constructor
    · exact fun _ _ => .inr h
    all_goals simp [htoken]

variable (bs58 metadata) in
theorem parseNonceAccount_eq (hlen : account.data.length = nonceAccountSize) :
    ∃ nonce authority, parseNonceAccount bs58 account metadata =
      some (.nonceAccount metadata account.info nonce authority) := by
  unfold nonceAccountSize at hlen
  have hauthority := slice?_of_le (p := account.data) (a := 8) (b := 40) (by omega) (by omega)
  have hnonce := slice?_of_le (p := account.data) (a := 40) (b := 72) (by omega) (by omega)
  refine ⟨bs58 ((account.data.drop 40).take 32), bs58 ((account.data.drop 8).take 32), ?_⟩
  unfold parseNonceAccount nonceAccountSize
  rw [if_neg (by omega), hauthority, hnonce]
  rfl

theorem parseNonceAccount_none (hlen : account.data.length ≠ nonceAccountSize) :
    parseNonceAccount bs58 account metadata = none := if_pos hlen

theorem nonempty_of_nonce (h : isNonceAccount account.data = true) : account.data.isEmpty = false := by
  unfold isNonceAccount at h
  cases hdata : account.data with
  | nil => rw [hdata] at h; cases h
  | cons b rest => rfl

/-- An account that starts as a nonce does. -/
theorem parseAccountUnified_nonce (hdecoded : account.owner ∉ ownerDecoders.map Prod.fst)
    (hnonce : isNonceAccount account.data = true) :
    parseAccountUnified I bs58 account metadata none = parseNonceAccount bs58 account metadata := by
  rw [parseAccountUnified_rest (lookup_none_iff.mpr hdecoded), nonempty_of_nonce hnonce, if_pos hnonce]
  rfl

theorem other_iff (hdecoded : account.owner ∉ ownerDecoders.map Prod.fst)
    (htoken : isTokenProgramAccount account.owner = false) :
    ReportsExactly I bs58 account metadata ↔ ReadRight I account := by
  obtain ⟨hmint, haccount⟩ := no_state (I := I) htoken
  by_cases hshape : isNonceAccount account.data = true ∧ account.data.length = nonceAccountSize
  · obtain ⟨nonce, authority, hparse⟩ := parseNonceAccount_eq bs58 metadata hshape.2
    have hreport : parseAccountUnified I bs58 account metadata none = _ :=
      (parseAccountUnified_nonce hdecoded hshape.1).trans hparse
    constructor
    · intro hexact
      constructor
      · exact fun _ _ => .inl (hexact.nonce nonce authority hreport)
      all_goals simp [htoken]
    · intro hright
      have howner := (hright.nonceOwner hshape.1 hshape.2).resolve_right hdecoded
      constructor
      · intro supply decimals
        simp [hreport, hmint]
      · intro amount tokenOwner
        simp [hreport, haccount]
      · exact fun _ _ _ => howner
      · rw [htoken]
        rintro ⟨⟩
  · have hreport : NoToken (parseAccountUnified I bs58 account metadata none) := by
      rw [parseAccountUnified_rest (lookup_none_iff.mpr hdecoded)]
      refine noToken_ite noToken_none ?_
      by_cases hnonce : isNonceAccount account.data = true
      · rw [if_pos hnonce, parseNonceAccount_none fun hlen => hshape ⟨hnonce, hlen⟩]
        exact noToken_none
      · rw [if_neg hnonce, parseTokenAccount, htoken]
        exact noToken_none
    refine iff_of_true (reportsExactly_of_noToken hreport hmint haccount (by rw [htoken]; rintro ⟨⟩)) ?_
    constructor
    · exact fun hnonce hlen => absurd ⟨hnonce, hlen⟩ hshape
    all_goals simp [htoken]

/-! ### Accounts of a token program -/

theorem mintOf_none (hexact : ReportsExactly I bs58 account metadata)
    (hreport : NoToken (parseAccountUnified I bs58 account metadata none)) : mintOf I account = none := by
  by_contra hne
  obtain ⟨m, hm⟩ := Option.ne_none_iff_exists'.mp hne
  cases hreport _ ((hexact.info m.supply m.decimals).mpr hm)

theorem accountOf_none (hexact : ReportsExactly I bs58 account metadata)
    (hreport : NoToken (parseAccountUnified I bs58 account metadata none)) : accountOf I account = none := by
  by_contra hne
  obtain ⟨a, ha⟩ := Option.ne_none_iff_exists'.mp hne
  cases hreport _ ((hexact.token a.amount a.owner).mpr ha)

section OfToken

variable (hI : I.Documented) (htoken : isTokenProgramAccount account.owner = true)

include hI htoken

theorem nonceShaped_iff (hnonce : isNonceAccount account.data = true) :
    ReportsExactly I bs58 account metadata ↔ ReadRight I account := by
  obtain ⟨hdecoded, hsystem⟩ := token_owner htoken
  by_cases hlen : account.data.length = nonceAccountSize
  · obtain ⟨nonce, authority, hparse⟩ := parseNonceAccount_eq bs58 metadata hlen
    have hreport : parseAccountUnified I bs58 account metadata none = _ :=
      (parseAccountUnified_nonce hdecoded hnonce).trans hparse
    refine iff_of_false (fun hexact => hsystem (hexact.nonce nonce authority hreport)) fun hright => ?_
    rcases hright.nonceOwner hnonce hlen with h | h
    · exact hsystem h
    · exact hdecoded h
  · have hreport : NoToken (parseAccountUnified I bs58 account metadata none) := by
      rw [parseAccountUnified_nonce hdecoded hnonce, parseNonceAccount_none hlen]
      exact noToken_none
    constructor
    · intro hexact
      have hnotMint := (readers_agree_iff hI htoken).mp (hexact.agree htoken)
      constructor
      · exact fun _ h => absurd h hlen
      · exact fun _ _ => ⟨mintOf_none hexact hreport, accountOf_none hexact hreport⟩
      · simp [hnonce]
      · simp [hnonce]
      · exact fun _ h => (hnotMint h).1
      · simp [hnonce]
    · intro hright
      obtain ⟨hmint, haccount⟩ := hright.nonceShaped hnonce htoken
      refine reportsExactly_of_noToken hreport hmint haccount fun _ => (readers_agree_iff hI htoken).mpr fun h => ?_
      refine ⟨hright.notMint htoken h, fun a ha => ?_⟩
      rw [haccount] at ha
      cases ha

/-- What is reported of a token program's account that does not start as a nonce does. -/
theorem parseAccountUnified_token (hnonce : isNonceAccount account.data = false) :
    parseAccountUnified I bs58 account metadata none =
      (parseFast account metadata <|> parseTokenWithExtensions I account metadata) := by
  rw [parseAccountUnified_rest (lookup_none_iff.mpr (token_owner htoken).1), hnonce, parseTokenAccount, htoken]
  by_cases hempty : account.data = []
  · have hlen : account.data.length = 0 := by rw [hempty]; rfl
    have hfast : parseFast account metadata = none :=
      parseFast_none (by rw [hlen]; decide) (by rw [hlen]; decide)
    have hfull : parseTokenWithExtensions I account metadata = none :=
      parseTokenWithExtensions_short hI (by rw [hlen]; decide)
    rw [hfast, hfull, hempty]
    rfl
  · rw [List.isEmpty_eq_false_iff.mpr hempty]
    rfl

theorem mintSized_iff (hnonce : isNonceAccount account.data = false) (hlow : mintLen ≤ account.data.length)
    (hhigh : account.data.length ≤ 100) : ReportsExactly I bs58 account metadata ↔ ReadRight I account := by
  have hshort : account.data.length < tokenAccountLen := by unfold tokenAccountLen; omega
  have hreport : parseAccountUnified I bs58 account metadata none =
      some (tokenInfo account metadata (mintAt account.data)) := by
    rw [parseAccountUnified_token hI htoken hnonce, parseFast_mint hlow hhigh]
    rfl
  have haccount := accountOf_short hI hshort
  constructor
  · intro hexact
    have hmint := (hexact.info (mintAt account.data).supply (mintAt account.data).decimals).mp hreport
    constructor
    · simp [hnonce]
    · simp [hnonce]
    · exact fun _ _ _ _ => hmint ▸ rfl
    · exact fun _ _ h => absurd h hshort.ne
    · exact fun _ h => absurd h hshort.ne
    · exact fun _ _ h _ => absurd h (Nat.not_lt.mpr hhigh)
  · intro hright
    obtain ⟨m, hm⟩ := Option.isSome_iff_exists.mp (hright.mint hnonce htoken hlow hhigh)
    obtain rfl := mintOf_eq hI hm
    apply reportsExactly_of_states
    · rw [hreport, hm]
      rfl
    · exact fun _ _ => haccount
    · exact fun _ => (readers_agree_iff hI htoken).mpr fun h => absurd h hshort.ne

theorem accountSized_iff (hnonce : isNonceAccount account.data = false)
    (hlen : account.data.length = tokenAccountLen) :
    ReportsExactly I bs58 account metadata ↔ ReadRight I account := by
  have hreport : parseAccountUnified I bs58 account metadata none =
      some (.tokenAccount metadata account.info (some (tokenStateAt account.data).amount) account.owner) := by
    rw [parseAccountUnified_token hI htoken hnonce, parseFast_account hlen]
    rfl
  have hmint := mintOf_account hI hlen
  constructor
  · intro hexact
    have haccount := (hexact.token _ _).mp hreport
    have hnotMint := (readers_agree_iff hI htoken).mp (hexact.agree htoken) hlen
    constructor
    · simp [hnonce]
    · simp [hnonce]
    · intro _ _ _ h
      rw [hlen] at h
      exact absurd h (by decide)
    · exact fun _ _ _ => by rw [haccount, Option.map_some]
    · exact fun _ _ => hnotMint.1
    · exact fun _ _ _ h => absurd hlen h
  · intro hright
    obtain ⟨a, ha, howner⟩ := Option.map_eq_some_iff.mp (hright.wallet hnonce htoken hlen)
    have hfields := accountOf_fields hI ha
    apply reportsExactly_of_states
    · rw [hreport, hmint, ha, hfields, Option.map_none, Option.map_some, tokenAccount, ← hfields, howner]
      rfl
    · intro m hm
      rw [hmint] at hm
      cases hm
    · refine fun _ => (readers_agree_iff hI htoken).mpr fun _ => ⟨hright.notMint htoken hlen, fun b hb => ?_⟩
      rw [ha] at hb
      rw [← Option.some.inj hb, howner]

/-- What is made of a state that is longer than a mint and no account of 165 bytes. -/
theorem longState_iff (hnonce : isNonceAccount account.data = false) (hlong : 100 < account.data.length)
    (hlen : account.data.length ≠ tokenAccountLen) :
    ReportsExactly I bs58 account metadata ↔ ReadRight I account := by
  have hnotMint : account.data.length ≠ mintLen := by unfold mintLen; omega
  have hreport : parseAccountUnified I bs58 account metadata none =
      parseTokenWithExtensions I account metadata := by
    rw [parseAccountUnified_token hI htoken hnonce, parseFast_none (fun h => absurd h.2 (by omega)) hlen]
    rfl
  rw [parseTokenWithExtensions_long hI (by unfold mintLen; omega) hlen] at hreport
  have hmintSpl : account.owner = splToken → mintOf I account = none := by
    intro hspl
    rw [mintOf, if_pos hspl, unpackMint_none hI hnotMint]
  have hspl_of : account.owner ≠ token2022 → account.owner = splToken := by
    intro h
    simpa [isTokenProgramAccount, h] using htoken
  have hne : splToken ≠ token2022 := by simp [splToken, token2022]
  constructor
  · intro hexact
    have hlongRead : (account.owner = splToken → I.unpackMint2022 account.data = none) ∧
        (I.unpackMint2022 account.data = none → I.unpackMintFromSlice account.data = none) := by
      constructor
      · intro hspl
        by_contra hsome
        obtain ⟨m, hm⟩ := Option.ne_none_iff_exists'.mp hsome
        rw [hm] at hreport
        have hinfo := (hexact.info m.supply m.decimals).mp hreport
        rw [hmintSpl hspl] at hinfo
        cases hinfo
      · intro hnone
        by_contra hsome
        obtain ⟨m, hm⟩ := Option.ne_none_iff_exists'.mp hsome
        rw [hnone, hm] at hreport
        have hinfo := (hexact.info m.supply m.decimals).mp hreport
        by_cases hspl : account.owner = splToken
        · rw [hmintSpl hspl] at hinfo
          cases hinfo
        · rw [mintOf, if_neg hspl, hnone, ite_self] at hinfo
          cases hinfo
    constructor
    · simp [hnonce]
    · simp [hnonce]
    · exact fun _ _ _ h => absurd h (by omega)
    · exact fun _ _ h => absurd h hlen
    · exact fun _ h => absurd h hlen
    · exact fun _ _ _ _ => hlongRead
  · intro hright
    obtain ⟨hspl2022, hslice⟩ := hright.long hnonce htoken hlong hlen
    have hagree : isTokenProgramAccount account.owner = true → ∀ fast full, parseFast account metadata = some fast →
        parseTokenWithExtensions I account metadata = some full → fast = full :=
      fun _ => (readers_agree_iff hI htoken).mpr fun h => absurd h hlen
    by_cases hspl : account.owner = splToken
    · have haccount : accountOf I account = none := by rw [accountOf, if_pos hspl, unpackAccount_none hI hlen]
      rw [hspl2022 hspl, hslice (hspl2022 hspl), if_neg (by rw [hspl]; exact hne)] at hreport
      exact reportsExactly_of_noToken (hreport ▸ noToken_none) (hmintSpl hspl) haccount hagree
    · have h2022 : account.owner = token2022 := by_contra fun h => hspl (hspl_of h)
      have hmint : mintOf I account = I.unpackMint2022 account.data := by rw [mintOf, if_neg hspl, if_pos h2022]
      have haccount : accountOf I account = I.unpackAccount2022 account.data := by
        rw [accountOf, if_neg hspl, if_pos h2022]
      apply reportsExactly_of_states
      · rw [hreport, hmint, haccount, if_pos h2022]
        cases hm : I.unpackMint2022 account.data with
        | some m => rfl
        | none =>
          rw [hslice hm]
          rfl
      · intro m hm
        rw [hmint] at hm
        rw [haccount, hI.exclusive hm]
      · exact hagree

theorem shortState_iff (hnonce : isNonceAccount account.data = false) (hshort : account.data.length < mintLen) :
    ReportsExactly I bs58 account metadata ↔ ReadRight I account := by
  have hlen : account.data.length ≠ tokenAccountLen := by unfold mintLen at hshort; unfold tokenAccountLen; omega
  have hreport : parseAccountUnified I bs58 account metadata none = none := by
    rw [parseAccountUnified_token hI htoken hnonce, parseFast_none (fun h => absurd h.1 (by omega)) hlen,
      parseTokenWithExtensions_short hI hshort]
    rfl
  have hbelow : account.data.length < tokenAccountLen := by unfold mintLen at hshort; unfold tokenAccountLen; omega
  refine iff_of_true (reportsExactly_of_noToken (hreport ▸ noToken_none) (mintOf_short hI hshort)
    (accountOf_short hI hbelow) fun _ => (readers_agree_iff hI htoken).mpr fun h => absurd h hlen) ?_
  unfold mintLen at hshort
  constructor
  · simp [hnonce]
  · simp [hnonce]
  · exact fun _ _ h => absurd h (by unfold mintLen; omega)
  · exact fun _ _ h => absurd h hlen
  · exact fun _ h => absurd h hlen
  · exact fun _ _ h => absurd h (by omega)

end OfToken

/-- **Exactly the accounts that are read right.** -/
theorem reportsExactly_iff (I : TokenInterface) (hI : I.Documented) (bs58 : Bytes → String) (account : AccountData)
    (metadata : EventMetadata) : ReportsExactly I bs58 account metadata ↔ ReadRight I account := by
  by_cases hdecoded : account.owner ∈ ownerDecoders.map Prod.fst
  · obtain ⟨hexact, hright⟩ := decoded_exact I bs58 metadata hdecoded
    exact iff_of_true hexact hright
  by_cases htoken : isTokenProgramAccount account.owner = true
  · by_cases hnonce : isNonceAccount account.data = true
    · exact nonceShaped_iff hI htoken hnonce
    · have hnonce := Bool.eq_false_of_not_eq_true hnonce
      by_cases hshort : account.data.length < mintLen
      · exact shortState_iff hI htoken hnonce hshort
      by_cases hhigh : account.data.length ≤ 100
      · exact mintSized_iff hI htoken hnonce (Nat.not_lt.mp hshort) hhigh
      by_cases hlen : account.data.length = tokenAccountLen
      · exact accountSized_iff hI htoken hnonce hlen
      · exact longState_iff hI htoken hnonce (Nat.not_le.mp hhigh) hlen
  · exact other_iff hdecoded (Bool.eq_false_of_not_eq_true htoken)

end Exactly

/-! ### A wallet's token account -/

def someMetadata : EventMetadata := ⟨[], 0, 0, 0, 0, none⟩

/-- An initialized SPL Token account of 5000 units of mint 2, that wallet 7 owns. -/
def walletAccount : AccountData where
  pubkey := 9
  executable := false
  lamports := 2039280
  owner := splToken
  rentEpoch := 0
  data := beBytes 32 2 ++ beBytes 32 7 ++ leBytes 8 5000 ++ List.replicate 36 0 ++ [1] ++ List.replicate 56 0

set_option maxRecDepth 10000 in
/-- It is reported as the token program's. -/
theorem walletAccount_misread :
    userWalletPubkeyForOnchainAccount packInterface 9 splToken walletAccount.data false = some 7 ∧
      ¬ ReportsExactly packInterface (fun _ => "") walletAccount someMetadata := by
  have hreport : parseAccountUnified packInterface (fun _ => "") walletAccount someMetadata none =
      some (.tokenAccount someMetadata walletAccount.info (some 5000) splToken) := by rfl
  have hstate : accountOf packInterface walletAccount = some ⟨5000, 7⟩ := by rfl
  refine ⟨by rfl, fun hexact => ?_⟩
  have howner := (hexact.token 5000 splToken).mp hreport
  rw [hstate] at howner
  injection howner with howner
  injection howner with _ howner
  simp [splToken] at howner

/-- An initialized SPL Token mint. -/
def mintAccount : AccountData where
  pubkey := 9
  executable := false
  lamports := 1461600
  owner := splToken
  rentEpoch := 0
  data := List.replicate 36 0 ++ leBytes 8 1000000 ++ [6, 1] ++ List.replicate 36 0

set_option maxRecDepth 10000 in
/-- It is read right. -/
theorem mintAccount_read : ReportsExactly packInterface (fun _ => "") mintAccount someMetadata := by
  have hlen : mintAccount.data.length = 82 := by rfl
  have hnonce : isNonceAccount mintAccount.data = false := by rfl
  have hmint : mintOf packInterface mintAccount = some ⟨1000000, 6⟩ := by rfl
  apply (reportsExactly_iff packInterface packInterface_documented (fun _ => "") mintAccount someMetadata).mpr
  constructor
  · simp [hnonce]
  · simp [hnonce]
  · simp [hmint]
  · simp [hlen, tokenAccountLen]
  · simp [hlen, tokenAccountLen]
  · simp [hlen]

end Accounts
end ShredSdk
