/-
# Reading account data

The types of the fields of an account (`src/accounts/utils.rs`) and how each is read:
numbers little-endian, keys as they are, and a flag by one of three rules (any byte
but 0, one of the two bytes Borsh writes, the byte 1). A variable-length field ends
where its reader says.

Key definitions: `AccountData`, `WireType`, `WireType.codec`, `hasDiscriminator`.
Key theorems: `hasDiscriminator_append`, `hasDiscriminator_front`, `numCodec_canonical`,
`signedCodec_canonical`, `keyCodec_canonical`.
-/
import ShredSdk.Lib.Growing
import ShredSdk.Log.Slots

namespace ShredSdk
namespace Accounts

structure AccountData where
  pubkey : Pubkey
  executable : Bool
  lamports : ℕ
  owner : Pubkey
  rentEpoch : ℕ
  data : Bytes

/-- `has_discriminator` -/
def hasDiscriminator (data discriminator : Bytes) : Bool :=
  if data.length < discriminator.length then false else data.take discriminator.length == discriminator

/-! ### Fields of one size -/

/-- A number of `w` bytes. -/
def numCodec (w : ℕ) : FixedCodec ℕ where
  width := w
  encode := leBytes w
  decode bytes := some (leNat bytes)
  absent := 0
  valid x := x < 256 ^ w
  length_encode := length_leBytes w
  decode_encode hvalid := congrArg some (leNat_leBytes hvalid)

/-- A signed number of `w` bytes. -/
def signedCodec (w : ℕ) (hw : 0 < w) : FixedCodec ℤ where
  width := w
  encode x := leBytes w (twosComplement (8 * w) x)
  decode bytes := some (signed (8 * w) (leNat bytes))
  absent := 0
  valid x := -2 ^ (8 * w - 1) ≤ x ∧ x < 2 ^ (8 * w - 1)
  length_encode _ := length_leBytes w _
  decode_encode := by
    intro x hvalid
    have hlt : twosComplement (8 * w) x < 256 ^ w := by
      have hpow : 256 ^ w = 2 ^ (8 * w) := by rw [pow_mul]; rfl
      rw [hpow]
      exact twosComplement_lt (8 * w) x
    rw [leNat_leBytes hlt, signed_twosComplement (by omega) hvalid.1 hvalid.2]

def keyCodec : FixedCodec Pubkey where
  width := 32
  encode k := beBytes 32 k.val
  decode bytes := some (Pubkey.ofBytes bytes)
  absent := 0
  valid _ := True
  length_encode _ := length_beBytes 32 _
  decode_encode _ := congrArg some (Logs.ofBytes_beBytes _)

/-- `decode_borsh_bool` -/
def decodeBorshBool : UInt8 → Option Bool
  | 0 => some false
  | 1 => some true
  | _ => none

/-- A flag, by the rule its byte is read by. -/
def flagCodec (decode : UInt8 → Option Bool) (h0 : decode 0 = some false) (h1 : decode 1 = some true) :
    FixedCodec Bool where
  width := 1
  encode b := [if b then 1 else 0]
  decode bytes := decode (bytes.headD 0)
  absent := false
  valid _ := True
  length_encode _ := rfl
  decode_encode := by
    intro b _
    cases b
    · exact h0
    · exact h1

/-- The types of the fields. The flags are read as `byte != 0`, by `decode_borsh_bool`,
and as `byte == 1`. -/
inductive WireType where
  | u8 | u16 | u32 | u64 | u128 | i32 | i64 | i128 | key | flag | borshFlag | oneFlag
deriving DecidableEq

namespace WireType

abbrev Val : WireType → Type
  | u8 | u16 | u32 | u64 | u128 => ℕ
  | i32 | i64 | i128 => ℤ
  | key => Pubkey
  | flag | borshFlag | oneFlag => Bool

def codec : (t : WireType) → FixedCodec t.Val
  | u8 => numCodec 1
  | u16 => numCodec 2
  | u32 => numCodec 4
  | u64 => numCodec 8
  | u128 => numCodec 16
  | i32 => signedCodec 4 (by decide)
  | i64 => signedCodec 8 (by decide)
  | i128 => signedCodec 16 (by decide)
  | key => keyCodec
  | flag => flagCodec (fun b => some (b != 0)) rfl rfl
  | borshFlag => flagCodec decodeBorshBool rfl rfl
  | oneFlag => flagCodec (fun b => some (b == 1)) rfl rfl

theorem width_pos (t : WireType) : 0 < t.codec.width := by cases t <;> decide

def format (t : WireType) : Format t.Val := t.codec.format t.width_pos

end WireType

/-! ### Discriminators -/

theorem hasDiscriminator_short {data discriminator : Bytes} (h : data.length < discriminator.length) :
    hasDiscriminator data discriminator = false := if_pos h

/-- Behind one discriminator stands no other. -/
theorem hasDiscriminator_append {discriminator other body : Bytes} (hlen : discriminator.length = 8)
    (hother : other.length = 8) : hasDiscriminator (discriminator ++ body) other = (discriminator == other) := by
  unfold hasDiscriminator
  rw [List.length_append, hlen, hother, if_neg (by omega), List.take_left' hlen]

theorem length_discriminated {discriminator body : Bytes} (hlen : discriminator.length = 8) :
    (discriminator ++ body).length = 8 + body.length := by rw [List.length_append, hlen]

theorem hasDiscriminator_front {discriminator : Bytes} (body : Bytes) (hlen : discriminator.length = 8) :
    hasDiscriminator (discriminator ++ body) discriminator = true := by
  rw [hasDiscriminator_append hlen hlen, beq_self_eq_true]

/-! ### What is read from nothing else -/

theorem numCodec_canonical (w : ℕ) (hpos : 0 < w) : ((numCodec w).format hpos).Canonical := by
  apply FixedCodec.canonical
  intro bytes x hlen hdecode
  obtain rfl := Option.some.inj hdecode
  have hw : bytes.length = w := hlen
  exact ⟨hw ▸ leNat_lt bytes, hw ▸ leBytes_leNat bytes⟩

theorem beBytes_beNat (bytes : Bytes) : beBytes bytes.length (beNat bytes) = bytes := by
  have hrev := beNat_reverse bytes.reverse
  rw [List.reverse_reverse] at hrev
  have hbytes := leBytes_leNat bytes.reverse
  rw [List.length_reverse] at hbytes
  rw [beBytes, hrev, hbytes, List.reverse_reverse]

theorem signedCodec_canonical (w : ℕ) (hw : 0 < w) : ((signedCodec w hw).format hw).Canonical := by
  apply FixedCodec.canonical
  intro bytes x hlen hdecode
  obtain rfl := Option.some.inj hdecode
  have hlt : leNat bytes < 2 ^ (8 * w) := by
    have h := leNat_lt bytes
    have hpow : 256 ^ w = 2 ^ (8 * w) := by rw [pow_mul]; rfl
    rwa [show bytes.length = w from hlen, hpow] at h
  obtain ⟨hsame, hrange⟩ := twosComplement_signed (by omega) hlt
  refine ⟨hrange, ?_⟩
  show leBytes w (twosComplement (8 * w) (signed (8 * w) (leNat bytes))) = bytes
  rw [hsame, ← show bytes.length = w from hlen, leBytes_leNat]

theorem beBytes_ofBytes {bytes : Bytes} (hlen : bytes.length = 32) : beBytes 32 (Pubkey.ofBytes bytes).val = bytes := by
  have hlt : beNat bytes < 2 ^ 256 := by
    have hrev := beNat_reverse bytes.reverse
    rw [List.reverse_reverse] at hrev
    have hle := leNat_lt bytes.reverse
    rw [List.length_reverse, hlen] at hle
    rw [hrev]
    exact hle
  have hval : (Pubkey.ofBytes bytes).val = beNat bytes := Nat.mod_eq_of_lt hlt
  have hbytes := beBytes_beNat bytes
  rw [hlen] at hbytes
  rw [hval, hbytes]

theorem keyCodec_canonical : (keyCodec.format (by decide)).Canonical := by
  apply FixedCodec.canonical
  intro bytes k hlen hdecode
  obtain rfl := Option.some.inj hdecode
  exact ⟨trivial, beBytes_ofBytes hlen⟩

end Accounts
end ShredSdk
