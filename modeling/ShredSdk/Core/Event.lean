/-
# Event data

What all events share (`src/core/events/types.rs`).

Key definitions: `EventMetadata`.
-/
import ShredSdk.Core.Pubkey

namespace ShredSdk

/-- 64 bytes. -/
abbrev Signature := Bytes

structure EventMetadata where
  signature : Signature
  slot : ℕ
  txIndex : ℕ
  blockTimeUs : ℤ
  grpcRecvUs : ℤ
  recentBlockhash : Option String
deriving DecidableEq

end ShredSdk
