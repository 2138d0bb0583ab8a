/-
# Layouts of token states

The documented layouts of the token programs' mints and accounts: what each unpacker
takes and where it finds what is read of it. `packInterface` unpacks by them.

Key definitions: `mintAt`, `tokenStateAt`, `TokenInterface.Documented`, `packInterface`.
Key theorems: `packInterface_documented`.
-/
import ShredSdk.Accounts.Token

namespace ShredSdk
namespace Accounts

/-- The supply and the decimals at their offsets. -/
def mintAt (data : Bytes) : Mint := ⟨leNat ((data.drop 36).take 8), (data.getD 44 0).toNat⟩

/-- The amount and the owner at theirs. -/
def tokenStateAt (data : Bytes) : TokenState := ⟨leNat ((data.drop 64).take 8), Pubkey.ofBytes ((data.drop 32).take 32)⟩

/-- The documented layouts: a mint takes 82 bytes and a token account 165, and a state
with extensions has its base first and the type of the account behind byte 165. -/
structure TokenInterface.Documented (I : TokenInterface) : Prop where
  mintFromSlice_fields : ∀ {data m}, I.unpackMintFromSlice data = some m → m = mintAt data
  mint_pack : ∀ {data m}, I.unpackMint data = some m → data.length = mintLen ∧ m = mintAt data
  account_pack : ∀ {data a}, I.unpackAccount data = some a → data.length = tokenAccountLen ∧ a = tokenStateAt data
  mint2022_base : ∀ {data m}, I.unpackMint2022 data = some m →
    (data.length = mintLen ∨ tokenAccountLen < data.length) ∧ m = mintAt data
  account2022_base : ∀ {data a}, I.unpackAccount2022 data = some a →
    tokenAccountLen ≤ data.length ∧ a = tokenStateAt data
  account2022_pack : ∀ {data}, data.length = tokenAccountLen → I.unpackAccount2022 data = I.unpackAccount data
  exclusive : ∀ {data m}, I.unpackMint2022 data = some m → I.unpackAccount2022 data = none

/-! ### Unpackers -/

/-- The tag of an optional field of a state. -/
def validTag (data : Bytes) (o : ℕ) : Bool :=
  (data.drop o).take 4 == [0, 0, 0, 0] || (data.drop o).take 4 == [1, 0, 0, 0]

def packMintFromSlice (data : Bytes) : Option Mint :=
  if mintLen ≤ data.length ∧ validTag data 0 ∧ data.getD 45 0 ≤ 1 ∧ validTag data 46 then some (mintAt data) else none

def packMint (data : Bytes) : Option Mint :=
  if data.length = mintLen ∧ data.getD 45 0 = 1 then packMintFromSlice data else none

/-- The state of an account is initialized (1) or frozen (2). -/
def packAccount (data : Bytes) : Option TokenState :=
  if data.length = tokenAccountLen ∧ validTag data 72 ∧ (data.getD 108 0 = 1 ∨ data.getD 108 0 = 2) ∧
      validTag data 109 ∧ validTag data 129 then some (tokenStateAt data)
  else none

/-- A base, and behind byte 165 the type of the account; 355 bytes are a multisig's. -/
def packExtended {α : Type} (unpack : Bytes → Option α) (len : ℕ) (type : UInt8) (data : Bytes) : Option α :=
  if data.length = len then unpack data
  else if tokenAccountLen < data.length ∧ data.length ≠ 355 ∧ ((data.take tokenAccountLen).drop len).all (· == 0) ∧
      data[tokenAccountLen]? = some type then unpack (data.take len)
  else none

def packInterface : TokenInterface where
  unpackMint := packMint
  unpackMintFromSlice := packMintFromSlice
  unpackAccount := packAccount
  unpackMint2022 := packExtended packMint mintLen 1
  unpackAccount2022 := packExtended packAccount tokenAccountLen 2

theorem packMint_eq {data : Bytes} {m : Mint} (h : packMint data = some m) :
    data.length = mintLen ∧ m = mintAt data := by
  unfold packMint packMintFromSlice at h
  split_ifs at h with hlen htags
  exact ⟨hlen.1, (Option.some.inj h).symm⟩

theorem packAccount_eq {data : Bytes} {a : TokenState} (h : packAccount data = some a) :
    data.length = tokenAccountLen ∧ a = tokenStateAt data := by
  unfold packAccount at h
  split_ifs at h with hlen
  exact ⟨hlen.1, (Option.some.inj h).symm⟩

theorem packExtended_eq {α : Type} {unpack : Bytes → Option α} {len : ℕ} {type : UInt8} {data : Bytes} {x : α}
    (h : packExtended unpack len type data = some x) :
    (data.length = len ∧ unpack data = some x) ∨
      (tokenAccountLen < data.length ∧ data[tokenAccountLen]? = some type ∧ unpack (data.take len) = some x) := by
  unfold packExtended at h
  split_ifs at h with hlen hext
  · exact .inl ⟨hlen, h⟩
  · exact .inr ⟨hext.1, hext.2.2.2, h⟩

theorem mintAt_take {data : Bytes} : mintAt (data.take mintLen) = mintAt data := by
  unfold mintAt mintLen
  rw [take_drop_take (by decide), List.getD_eq_getElem?_getD, List.getElem?_take_of_lt (by decide),
    List.getD_eq_getElem?_getD]

theorem tokenStateAt_take {data : Bytes} : tokenStateAt (data.take tokenAccountLen) = tokenStateAt data := by
  unfold tokenStateAt tokenAccountLen
  rw [take_drop_take (by decide), take_drop_take (by decide)]

theorem packInterface_documented : packInterface.Documented where
  mintFromSlice_fields := by
    intro data m h
    show m = mintAt data
    simp only [packInterface, packMintFromSlice] at h
    split_ifs at h
    exact (Option.some.inj h).symm
  mint_pack := packMint_eq
  account_pack := packAccount_eq
  mint2022_base := by
    intro data m h
    rcases packExtended_eq h with ⟨hlen, hmint⟩ | ⟨hlong, -, hmint⟩
    · exact ⟨.inl hlen, (packMint_eq hmint).2⟩
    · refine ⟨.inr hlong, ?_⟩
      rw [(packMint_eq hmint).2]
      exact mintAt_take
  account2022_base := by
    intro data a h
    rcases packExtended_eq h with ⟨hlen, haccount⟩ | ⟨hlong, -, haccount⟩
    · exact ⟨hlen.ge, (packAccount_eq haccount).2⟩
    · refine ⟨hlong.le, ?_⟩
      rw [(packAccount_eq haccount).2]
      exact tokenStateAt_take
  account2022_pack hlen := if_pos hlen
  exclusive := by
    intro data m h
    show packExtended packAccount tokenAccountLen 2 data = none
    by_contra hne
    obtain ⟨a, ha⟩ := Option.ne_none_iff_exists'.mp hne
    rcases packExtended_eq h with ⟨hlen, -⟩ | ⟨hlong, htype, -⟩
    · rcases packExtended_eq ha with ⟨hlen', -⟩ | ⟨hlong', -, -⟩
      · rw [hlen] at hlen'
        exact absurd hlen' (by decide)
      · rw [hlen] at hlong'
        exact absurd hlong' (by decide)
    · rcases packExtended_eq ha with ⟨hlen', -⟩ | ⟨-, htype', -⟩
      · omega
      · rw [htype] at htype'
        exact absurd (Option.some.inj htype') (by decide)

end Accounts
end ShredSdk
