/-
# Pump.fun's event lines

Pump.fun logs an event as its discriminator and its fields one behind the other,
in base 64 behind `Program data: `. `readEvent` gives back the trade or the
token such a line was written from, whatever stands behind the fields, and
nothing for an event with another discriminator.

Key definitions: `dataLine`, `encodeTradeInfo`, `encodeCreateInfo`.
Key theorems: `readEvent_trade`, `readEvent_create`, `readEvent_other`.
-/
import ShredSdk.Lib.Base64
import ShredSdk.Lib.Growing
import ShredSdk.Log.Slots
import ShredSdk.Pumpfun.LogLines

namespace ShredSdk
namespace Pumpfun

open Logs (readBorshString readU64Le readI64Le borshString)

/-! ### What Pump.fun writes -/

/-- The line of an event. -/
def dataLine (event : Bytes) : Bytes := utf8 "Program data: " ++ base64Encode event

def keyBytes (key : Pubkey) : Bytes := beBytes 32 key.val

/-- The fields of a trade event, up to the last one that is read. -/
def encodeTradeInfo (t : TradeInfo) : Bytes :=
  tradeEvent ++ (keyBytes t.mint ++ (leBytes 8 t.solAmount ++ (leBytes 8 t.tokenAmount ++ ([if t.isBuy then 1 else 0] ++
    (keyBytes t.user ++ (leBytes 8 (twosComplement 64 t.timestamp) ++ (leBytes 8 t.virtualSolReserves ++
      (leBytes 8 t.virtualTokenReserves ++ (leBytes 8 t.realSolReserves ++ leBytes 8 t.realTokenReserves)))))))))

/-- The fields of a create event, up to the last one that is read. -/
def encodeCreateInfo (t : CreateTokenInfo) : Bytes :=
  createEvent ++ (borshString t.name ++ (borshString t.symbol ++ (borshString t.uri ++ (keyBytes t.mint ++
    (keyBytes t.bondingCurve ++ (keyBytes t.user ++ keyBytes t.creator))))))

/-- The numbers are of their types. -/
structure TradeInfo.InRange (t : TradeInfo) : Prop where
  solAmount : t.solAmount < 2 ^ 64
  tokenAmount : t.tokenAmount < 2 ^ 64
  timestamp : -2 ^ 63 ≤ t.timestamp ∧ t.timestamp < 2 ^ 63
  virtualSolReserves : t.virtualSolReserves < 2 ^ 64
  virtualTokenReserves : t.virtualTokenReserves < 2 ^ 64
  realSolReserves : t.realSolReserves < 2 ^ 64
  realTokenReserves : t.realTokenReserves < 2 ^ 64

/-- The texts are of a length that can be written in front of them. -/
structure CreateTokenInfo.InRange (t : CreateTokenInfo) : Prop where
  name : (utf8 t.name).length < 2 ^ 32
  symbol : (utf8 t.symbol).length < 2 ^ 32
  uri : (utf8 t.uri).length < 2 ^ 32

/-! ### Reading it back -/

section Fields

variable {data rest : Bytes} {o : ℕ}

theorem readPubkey_of_drop {key : Pubkey} (h : data.drop o = keyBytes key ++ rest) : readPubkey data o = some key := by
  rw [readPubkey, FixedCodec.slice?_of_drop (length_beBytes 32 key.val) (by decide) h, Option.map_some,
    Logs.ofBytes_beBytes]

theorem readU64Le_of_drop {n : ℕ} (hn : n < 2 ^ 64) (h : data.drop o = leBytes 8 n ++ rest) :
    readU64Le data o = some n := by
  rw [readU64Le, Format.leNatAt_of_drop (length_leBytes 8 n) (by decide) h, leNat_leBytes (by omega)]

theorem readI64Le_of_drop {x : ℤ} (hx : -2 ^ 63 ≤ x ∧ x < 2 ^ 63)
    (h : data.drop o = leBytes 8 (twosComplement 64 x) ++ rest) : readI64Le data o = some x := by
  have hword := readU64Le_of_drop (twosComplement_lt 64 x) h
  rw [readU64Le] at hword
  rw [readI64Le, hword, Option.map_some, signed_twosComplement (by decide) hx.1 hx.2]

theorem readBorshString_of_drop {s : String} (hs : (utf8 s).length < 2 ^ 32)
    (h : data.drop o = borshString s ++ rest) :
    readBorshString data o = some (s, o + (borshString s).length) := by
  have hroom := congrArg List.length h
  rw [List.length_drop, List.length_append, Logs.length_borshString] at hroom
  have hdata : data = data.take o ++ borshString s ++ rest := by
    rw [List.append_assoc, ← h, List.take_append_drop]
  have hread := Logs.readStr_encode hs hdata (List.length_take_of_le (by omega)).symm
  rw [Logs.readBorshString_eq, hread, Option.map_some, Logs.length_borshString]

end Fields

theorem readEvent_dataLine (botWallet : Option Pubkey) (event : Bytes) : readEvent botWallet (dataLine event) =
    if slice? event 0 8 = some tradeEvent then (parseTradeData (base64Encode event)).map (tradeOf botWallet)
    else if slice? event 0 8 = some createEvent then (parseCreateTokenData (base64Encode event)).map .createToken
    else none := by
  have hstrip : stripPrefix (utf8 "Program data: ") (dataLine event) = some (base64Encode event) :=
    stripPrefix_eq_some.mpr rfl
  simp only [readEvent, hstrip, base64Decode_encode, Option.bind_eq_bind, Option.bind_some]

/-- What stands behind a field of `w` bytes. -/
theorem behind {data field rest : Bytes} {o w : ℕ} (h : data.drop o = field ++ rest) (hw : field.length = w) :
    data.drop (o + w) = rest := hw ▸ Format.drop_behind h

theorem length_keyBytes (key : Pubkey) : (keyBytes key).length = 32 := length_beBytes 32 _

/-- **A line of a trade** gives the trade. -/
theorem readEvent_trade {t : TradeInfo} (h : t.InRange) (botWallet : Option Pubkey) (rest : Bytes) :
    readEvent botWallet (dataLine (encodeTradeInfo t ++ rest)) = some (tradeOf botWallet { t with slot := 0 }) := by
  set data := encodeTradeInfo t ++ rest with hdata
  have hword : ∀ n, (leBytes 8 n).length = 8 := length_leBytes 8
  have hlen : ¬ data.length < 8 + 32 + 8 + 8 + 1 + 32 + 8 * 5 := by
    simp only [hdata, encodeTradeInfo, tradeEvent, List.length_append, List.length_cons, List.length_nil,
      length_keyBytes, hword]
    omega
  -- field by field, what is left behind it
  have h0 := (List.drop_zero (l := data)).trans (List.append_assoc tradeEvent _ rest)
  have h8 := behind h0 (w := 8) rfl
  rw [List.append_assoc] at h8
  have h40 := behind h8 (length_keyBytes _)
  rw [List.append_assoc] at h40
  have h48 := behind h40 (hword _)
  rw [List.append_assoc] at h48
  have h56 := behind h48 (hword _)
  rw [List.append_assoc] at h56
  have h57 := behind h56 (w := 1) rfl
  rw [List.append_assoc] at h57
  have h89 := behind h57 (length_keyBytes _)
  rw [List.append_assoc] at h89
  have h97 := behind h89 (hword _)
  rw [List.append_assoc] at h97
  have h105 := behind h97 (hword _)
  rw [List.append_assoc] at h105
  have h113 := behind h105 (hword _)
  rw [List.append_assoc] at h113
  have h121 := behind h113 (hword _)
  have hevent : slice? data 0 8 = some tradeEvent := FixedCodec.slice?_of_drop rfl (by decide) h0
  have hbuy : ((if t.isBuy then 1 else 0 : UInt8) ≠ 0) = (t.isBuy = true) := by cases t.isBuy <;> decide
  rw [readEvent_dataLine, if_pos hevent, parseTradeData]
  simp only [base64Decode_encode, Option.bind_eq_bind, Option.bind_some, if_neg hlen, readPubkey_of_drop h8,
    readU64Le_of_drop h.solAmount h40, readU64Le_of_drop h.tokenAmount h48, Format.getElem?_of_drop h56,
    readPubkey_of_drop h57, readI64Le_of_drop h.timestamp h89, readU64Le_of_drop h.virtualSolReserves h97,
    readU64Le_of_drop h.virtualTokenReserves h105, readU64Le_of_drop h.realSolReserves h113,
    readU64Le_of_drop h.realTokenReserves h121, hbuy, Bool.decide_eq_true, Option.pure_def, Option.map_some]

/-- **A line of a create** gives the token. -/
theorem readEvent_create {t : CreateTokenInfo} (h : t.InRange) (botWallet : Option Pubkey) (rest : Bytes) :
    readEvent botWallet (dataLine (encodeCreateInfo t ++ rest)) = some (.createToken
      { t with slot := 0, unitLimit := 0, unitPrice := 0, feeMerchant := "UNKNOWN", fee := 0 }) := by
  set data := encodeCreateInfo t ++ rest with hdata
  have hlen : 8 < data.length := by
    simp only [hdata, encodeCreateInfo, createEvent, List.length_append, List.length_cons, List.length_nil,
      length_keyBytes]
    omega
  have h0 := (List.drop_zero (l := data)).trans (List.append_assoc createEvent _ rest)
  have hname := behind h0 (w := 8) rfl
  rw [List.append_assoc] at hname
  have hsymbol := behind hname rfl
  rw [List.append_assoc] at hsymbol
  have huri := behind hsymbol rfl
  rw [List.append_assoc] at huri
  have hmint := behind huri rfl
  rw [List.append_assoc] at hmint
  have hcurve := behind hmint (length_keyBytes _)
  rw [List.append_assoc] at hcurve
  have huser := behind hcurve (length_keyBytes _)
  rw [List.append_assoc] at huser
  have hcreator := behind huser (length_keyBytes _)
  have hevent : slice? data 0 8 = some createEvent := FixedCodec.slice?_of_drop rfl (by decide) h0
  have hne : slice? data 0 8 ≠ some tradeEvent := by rw [hevent]; decide
  rw [readEvent_dataLine, if_neg hne, if_pos hevent, parseCreateTokenData]
  simp only [base64Decode_encode, Option.bind_eq_bind, Option.bind_some, if_pos hlen,
    readBorshString_of_drop h.name hname, readBorshString_of_drop h.symbol hsymbol,
    readBorshString_of_drop h.uri huri, readPubkey_of_drop hmint, readPubkey_of_drop hcurve,
    readPubkey_of_drop huser, readPubkey_of_drop hcreator, Option.pure_def, Option.map_some]

/-- The other events of the program are passed over. -/
theorem readEvent_other {event : Bytes} (htrade : slice? event 0 8 ≠ some tradeEvent)
    (hcreate : slice? event 0 8 ≠ some createEvent) (botWallet : Option Pubkey) :
    readEvent botWallet (dataLine event) = none := by
  rw [readEvent_dataLine, if_neg htrade, if_neg hcreate]

end Pumpfun
end ShredSdk
