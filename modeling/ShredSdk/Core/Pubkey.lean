/-
# Public keys

Keys as the SDK compares them, read from byte buffers, and the program ids and
mints it knows (`src/instr/program_ids.rs`, `src/core/events/types.rs`,
`src/transaction_route.rs`). `Pubkey::default()` is `0`.

Key definitions: `Pubkey`, `readPubkey`, `readPubkeyFast`.
-/
import ShredSdk.Lib.Bytes

namespace ShredSdk

/-- 32 bytes, as the number they spell with the first byte in front. -/
abbrev Pubkey := Fin (2 ^ 256)

instance keyCount_neZero : NeZero (2 ^ 256) := ⟨Nat.two_pow_pos 256 |>.ne'⟩

instance pubkey_lawfulBEq : LawfulBEq Pubkey := inferInstance

/-- `Pubkey::new_from_array` -/
def Pubkey.ofBytes (bytes : Bytes) : Pubkey :=
  Fin.ofNat (2 ^ 256) (bytes.foldl (fun n b => 256 * n + b.toNat) 0)

def readPubkey (data : Bytes) (offset : ℕ) : Option Pubkey :=
  (slice? data offset (offset + 32)).map Pubkey.ofBytes

def readPubkeyFast (bytes : Bytes) : Pubkey := (readPubkey bytes 0).getD 0

/-! ### Program ids -/

def pumpfunProgramId : Pubkey :=
  0x156e0f693665acf44db1568bf175baa5189cb97f5d2ff3b655d2bb6fd6d18b0
def raydiumLaunchlabProgramId : Pubkey :=
  0x5043b954dca26e1ef91b52c4f8f89af8a6f5ac8c62156f171cf0f21ac51c922
def pumpswapProgramId : Pubkey :=
  0xc14defc825ec67694250818bb654065f4298d3156d571b4d4f8090c18e9a863
def raydiumClmmProgramId : Pubkey :=
  0xa5d5ca9e04cf5db590b714ba2fe32cb159133fc1c192b72257fd07d39cb0401e
def raydiumCpmmProgramId : Pubkey :=
  0xa92a5a8b4f295952842550aa93fd5b95b5ace6a8eb920c93942e43690c20ec73
def raydiumAmmV4ProgramId : Pubkey :=
  0x4bd949c43602c33f207790ed16a3524ca1b9975cf121a2a90cffec7df8b68acd
def orcaWhirlpoolProgramId : Pubkey :=
  0xe03685f8e909053e458121c66f5a76aedc7706aa11c82f8aa952a8f2b7879a9
def pumpFeesProgramId : Pubkey :=
  0xc35ffa9055a8e568da8f7bc075615274cf1c92ca41f40009c516aa414c27c70
def meteoraDlmmProgramId : Pubkey :=
  0x4e9e12fbc84e826c932cce9e2640cce15590c1c6273b0925708ba3b8520b0bc
def meteoraPoolsProgramId : Pubkey :=
  0xccf802d4cccc84d7fb21b5f73b49d81a16c5b4c88ee32394e1c91d3588cc4080
def meteoraDammV2ProgramId : Pubkey :=
  0x92d2135657a159c2b87d4b66a70db8e9752389ff76aaf206ced063a38f95aed
def meteoraDbcProgramId : Pubkey :=
  0x9600ca524f7b1b7d6ccb1c3973aa0330d1903da601cc9b5dee3c662b4cad149

def splToken : Pubkey :=
  0x6ddf6e1d765a193d9cbe146ceeb79ac1cb485ed5f5b37913a8cf5857eff00a9
def token2022 : Pubkey :=
  0x6ddf6e1ee758fde18425dbce46ccddab61afc4d83b90d27febdf928d8a18bfc
def computeBudget : Pubkey :=
  0x306466fe5211732ffecadba72c39be7bc8ce5bbc5f7126b2c439b3a40000000
def associatedToken : Pubkey :=
  0x8c97258f4e2489f1bb3d1029148e0d830b5a1399daff1084048e7bd8dbe9f859
def memo : Pubkey :=
  0x54a535a992921064d24e87160da387c7c35b5ddbc92bb81e41fa8404105448d

/-! ### Mints and configs -/

/-- The SPL wrapped-SOL mint. -/
def wsolMint : Pubkey :=
  0x69b8857feab8184fb687f634618c035dac439dc1aeb3b5598a0f00000000001

/-- The placeholder that stands for native SOL as a quote mint. -/
def solscanSolQuoteMint : Pubkey :=
  0x69b8857feab8184fb687f634618c035dac439dc1aeb3b5598a0f00000000000

/-- An unset quote mint stands for native SOL. -/
def normalizePumpfunQuoteMint (quoteMint : Pubkey) : Pubkey :=
  if quoteMint = 0 then solscanSolQuoteMint else quoteMint

/-- `is_pumpfun_solscan_sol_quote_mint` -/
def isPumpfunSolscanSolQuoteMint (quoteMint : Pubkey) : Bool :=
  normalizePumpfunQuoteMint quoteMint = solscanSolQuoteMint

def stonkfunStandardPlatformConfig : Pubkey :=
  0x2fefa528c96f3f9123bf5d34211ad70fb21b63b2403312616053d9af7d484ddc

def stonkfunRewardPlatformConfig : Pubkey :=
  0x4d179e3aeee21df13fa10e41072cd89b5da3d3e58a55dd2ed2b9d1f806d6fab1

inductive StonkFunMode where
  | standard
  | reward
deriving DecidableEq

def stonkfunModeFromPlatformConfig (platformConfig : Pubkey) : Option StonkFunMode :=
  if platformConfig = stonkfunStandardPlatformConfig then some .standard
  else if platformConfig = stonkfunRewardPlatformConfig then some .reward
  else none

end ShredSdk
