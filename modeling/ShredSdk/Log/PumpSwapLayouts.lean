/-
# Releases of PumpSwap trades

A trade that a release of the program has written is read back, the fields that
later releases appended at their defaults; cut short at any other place it is
refused, and so is a payload with a boolean that is neither `0` nor `1`.

Key definitions: `encodeBuy`, `encodeSell`, `recordOf`.
Key theorems: `parseTradeTail_encode`, `parseBuy_encode`, `parseSell_encode`,
`pump_swap_layouts`.
-/
import ShredSdk.Log.PumpSwap

namespace ShredSdk
namespace Logs

/-! ### Payloads and records -/

/-- A buy as a release with `count` tail fields writes it. -/
def encodeBuy (v : EventBody) (count : ℕ) : Bytes :=
  encodeSlots v buyFixed ++ borshString (v.text .ixName) ++ encodeSlots v (tradeTail.take count)

def encodeSell (v : EventBody) (count : ℕ) : Bytes :=
  encodeSlots v sellFixed ++ encodeSlots v (tradeTail.take count)

/-- The fields of `v` that a layout has, the others at their defaults. -/
def recordOf (v : EventBody) (metadata : EventMetadata) (layout : List Slot) (ixName : String) :
    EventBody where
  metadata := metadata
  key k := if .key k ∈ layout then v.key k else 0
  num n := if hasNum layout n then v.num n else 0
  flag f := if .flag f ∈ layout then v.flag f else false
  text
    | .ixName => ixName
    | _ => ""

/-! ### The tail, read back -/

theorem parseTradeTail_encode {v : EventBody} (hrange : ∀ s ∈ tradeTail, s.InRange v) {count : ℕ}
    (hcount : count ∈ releasedTails) :
    ∃ tail, parseTradeTail (encodeSlots v (tradeTail.take count)) = some tail ∧
      tail.canBoost = (if .flag .canBoost ∈ tradeTail.take count then v.flag .canBoost else false) ∧
      ∀ n, tailNum tail n = if hasNum (tradeTail.take count) n then v.num n else 0 := by
  have hdata : encodeSlots v (tradeTail.take count) = [] ++ encodeSlots v (tradeTail.take count) ++ [] := by simp
  have hbase : 0 = ([] : Bytes).length := rfl
  have hbool : 7 ≤ count → ∃ b, (encodeSlots v (tradeTail.take count))[48]? = some b ∧ (b = 0 ∨ b = 1) := by
    intro hge
    have ho : slotOffset (.flag .canBoost) (tradeTail.take count) = some 48 := by
      simp only [releasedTails, List.mem_cons, List.not_mem_nil, or_false] at hcount
      rcases hcount with rfl | rfl | rfl | rfl | rfl | rfl
      · omega
      · omega
      · omega
      · decide
      · decide
      · decide
    have hget := readBool_encode hdata hbase ho
    rw [Nat.zero_add] at hget
    exact ⟨_, hget, by cases v.flag .canBoost <;> simp⟩
  obtain ⟨tail, htail, hboost, hnum⟩ := parseTradeTail_eq hcount (length_encodeSlots v _) hbool
  refine ⟨tail, htail, ?_, fun n => ?_⟩
  · rw [hboost, flagAt_encode hdata hbase]
  · rw [hnum, numAt_encode hdata hbase fun s hs => hrange s (List.mem_of_mem_take hs)]

/-! ### The events, read back -/

theorem record_key {v : EventBody} {layout : List Slot} {count : ℕ} (k : KeyField) :
    (if .key k ∈ layout then v.key k else 0) =
      if .key k ∈ layout ++ tradeTail.take count then v.key k else 0 := by
  have hnot : Slot.key k ∉ tradeTail.take count := fun h => by
    simpa [tradeTail] using List.mem_of_mem_take h
  simp only [List.mem_append, or_iff_left hnot]

/-- Of the flags only `can_boost` is in a tail. -/
theorem boost_flag {v : EventBody} {count : ℕ} {canBoost : Bool}
    (h : canBoost = if .flag .canBoost ∈ tradeTail.take count then v.flag .canBoost else false) (f : FlagField) :
    (if f = .canBoost then canBoost else false) =
      if .flag f ∈ tradeTail.take count then v.flag f else false := by
  by_cases hf : f = .canBoost
  · rw [if_pos hf, hf, h]
  · have hnot : Slot.flag f ∉ tradeTail.take count := fun hmem => by
      simpa [tradeTail, hf] using List.mem_of_mem_take hmem
    rw [if_neg hf, if_neg hnot]

/-- The fixed part of a payload and what follows give the record of both. -/
theorem record_num {v : EventBody} {layout : List Slot} {count : ℕ} {data rest : Bytes} {n : NumField} {x : ℤ}
    (hrange : ∀ s ∈ layout, s.InRange v) (hdata : data = [] ++ encodeSlots v layout ++ rest)
    (hx : x = if hasNum (tradeTail.take count) n then v.num n else 0) :
    (if hasNum layout n then numAt layout data 0 n else x) =
      if hasNum (layout ++ tradeTail.take count) n then v.num n else 0 := by
  have hbase : 0 = ([] : Bytes).length := rfl
  rw [numAt_encode hdata hbase hrange n, hasNum_append, hx]
  cases hasNum layout n <;> simp

/-- A record that has the fields of a layout. -/
theorem eq_recordOf {body v : EventBody} {metadata : EventMetadata} {layout : List Slot} {ixName : String}
    (hrest : body = { metadata := metadata, key := body.key, num := body.num, flag := body.flag, text := body.text })
    (hkey : ∀ k, body.key k = if .key k ∈ layout then v.key k else 0)
    (hnum : ∀ n, body.num n = if hasNum layout n then v.num n else 0)
    (hflag : ∀ f, body.flag f = if .flag f ∈ layout then v.flag f else false)
    (htext : body.text = (recordOf v metadata layout ixName).text) :
    body = recordOf v metadata layout ixName := by
  rw [hrest, funext hkey, funext hnum, funext hflag, htext]
  rfl

section Buy

variable {v : EventBody} (hrange : ∀ s ∈ buyFixed ++ tradeTail, s.InRange v)
  (hname : (utf8 (v.text .ixName)).length < 2 ^ 32)

theorem length_encodeBuy (v : EventBody) (count : ℕ) : (encodeBuy v count).length =
    397 + (utf8 (v.text .ixName)).length + slotsWidth (tradeTail.take count) := by
  unfold encodeBuy
  rw [List.length_append, List.length_append, length_encodeSlots, length_encodeSlots, length_borshString]
  have : slotsWidth buyFixed = 393 := by decide
  omega

include hname

include hrange in
/-- A buy of each release is read back. -/
theorem parseBuy_encode (metadata : EventMetadata) {count : ℕ} (hcount : count ∈ releasedTails) :
    parseBuyFromData (encodeBuy v count) metadata = some ⟨.pumpSwapBuy,
      recordOf v metadata (buyFixed ++ tradeTail.take count) (v.text .ixName)⟩ := by
  obtain ⟨tail, htail, hboost, hnum⟩ :=
    parseTradeTail_encode (fun s hs => hrange s (List.mem_append_right _ hs)) hcount
  have hfixed : ∀ s ∈ buyFixed, s.InRange v := fun s hs => hrange s (List.mem_append_left _ hs)
  have hwidth : (encodeSlots v buyFixed).length = 393 := by rw [length_encodeSlots]; decide
  have hlength := length_encodeBuy v count
  have hdata : encodeBuy v count = [] ++ encodeSlots v buyFixed ++
      (borshString (v.text .ixName) ++ encodeSlots v (tradeTail.take count)) := by simp [encodeBuy]
  have hbase : 0 = ([] : Bytes).length := rfl
  have hvolume : ((encodeBuy v count)[352]?.bind borshBool) = some (v.flag .trackVolume) := by
    have ho : slotOffset (.flag .trackVolume) buyFixed = some 352 := by decide
    have hget := readBool_encode hdata hbase ho
    rw [Nat.zero_add] at hget
    rw [hget]
    cases v.flag .trackVolume <;> decide
  have hstring : readBorshString (encodeBuy v count) 393 =
      some (v.text .ixName, 397 + (utf8 (v.text .ixName)).length) := by
    rw [readBorshString_eq, readStr_encode hname (by rw [encodeBuy]) hwidth.symm, Option.map_some]
    show some (_, 393 + (4 + _)) = some (_, 397 + _)
    rw [← Nat.add_assoc]
  have hdrop : (encodeBuy v count).drop (397 + (utf8 (v.text .ixName)).length) =
      encodeSlots v (tradeTail.take count) := by
    unfold encodeBuy
    apply List.drop_left'
    rw [List.length_append, hwidth, length_borshString]
    omega
  have hbody : buyBody (encodeBuy v count) metadata (v.flag .trackVolume) (v.text .ixName) tail =
      recordOf v metadata (buyFixed ++ tradeTail.take count) (v.text .ixName) := by
    refine eq_recordOf rfl (fun k => ?_) (fun n => ?_) (fun f => ?_) rfl
    · rw [buyBody_key, keyAt_encode hdata hbase, record_key]
    · rw [buyBody_num]
      exact record_num hfixed hdata (hnum n)
    · have hfixed : Slot.flag f ∈ buyFixed ↔ f = .trackVolume := by simp [buyFixed, tradeAccounts]
      rw [buyBody_flag]
      simp only [List.mem_append, hfixed]
      by_cases hvolume : f = .trackVolume
      · simp [hvolume]
      · simp only [hvolume, if_false, false_or]
        exact boost_flag hboost f
  unfold parseBuyFromData
  rw [if_neg (by omega), hvolume, Option.bind_some, hstring, Option.bind_some, hdrop, htail, Option.map_some,
    hbody]

/-- A buy cut short at a place where no release ends is refused. -/
theorem parseBuy_cut (metadata : EventMetadata) {c : ℕ} (hc : c < (encodeBuy v 10).length)
    (hcut : ∀ count ∈ releasedTails, c ≠ (encodeBuy v count).length) :
    parseBuyFromData ((encodeBuy v 10).take c) metadata = none := by
  have hwidth : (encodeSlots v buyFixed).length = 393 := by rw [length_encodeSlots]; decide
  have hlength := length_encodeBuy v 10
  have htake : ((encodeBuy v 10).take c).length = c := List.length_take_of_le hc.le
  unfold parseBuyFromData
  by_cases hshort : c < 397
  · rw [if_pos (by omega)]
  rw [if_neg (by omega)]
  cases ((encodeBuy v 10).take c)[352]?.bind borshBool with
  | none => rfl
  | some trackVolume =>
    rw [Option.bind_some]
    by_cases hname' : c < 397 + (utf8 (v.text .ixName)).length
    · rw [readBorshString_eq, readStr_cut hname (by rw [encodeBuy]) hwidth.symm (by omega)]
      rfl
    · have hread : readBorshString ((encodeBuy v 10).take c) 393 =
          some (v.text .ixName, 397 + (utf8 (v.text .ixName)).length) := by
        have hlen : (encodeSlots v buyFixed ++ borshString (v.text .ixName)).length ≤ c := by
          rw [List.length_append, hwidth, length_borshString]
          omega
        have hdata : (encodeBuy v 10).take c = encodeSlots v buyFixed ++ borshString (v.text .ixName) ++
            (encodeSlots v (tradeTail.take 10)).take
              (c - (encodeSlots v buyFixed ++ borshString (v.text .ixName)).length) := by
          rw [encodeBuy, List.take_append, List.take_of_length_le hlen]
        rw [readBorshString_eq, readStr_encode hname hdata hwidth.symm, Option.map_some]
        show some (_, 393 + (4 + _)) = some (_, 397 + _)
        rw [← Nat.add_assoc]
      rw [hread, Option.bind_some, parseTradeTail_cut]
      · rfl
      · rw [List.length_drop, htake]
        have : slotsWidth (tradeTail.take 10) = 81 := by decide
        omega
      · intro count hcount heq
        rw [List.length_drop, htake] at heq
        apply hcut count hcount
        rw [length_encodeBuy]
        omega

end Buy

section Sell

variable {v : EventBody} (hrange : ∀ s ∈ sellFixed ++ tradeTail, s.InRange v)

theorem length_encodeSell (v : EventBody) (count : ℕ) :
    (encodeSell v count).length = 352 + slotsWidth (tradeTail.take count) := by
  unfold encodeSell
  rw [List.length_append, length_encodeSlots, length_encodeSlots]
  have : slotsWidth sellFixed = 352 := by decide
  omega

include hrange in
/-- A sell of each release is read back. -/
theorem parseSell_encode (metadata : EventMetadata) {count : ℕ} (hcount : count ∈ releasedTails) :
    parseSellFromData (encodeSell v count) metadata = some ⟨.pumpSwapSell,
      recordOf v metadata (sellFixed ++ tradeTail.take count) ""⟩ := by
  obtain ⟨tail, htail, hboost, hnum⟩ :=
    parseTradeTail_encode (fun s hs => hrange s (List.mem_append_right _ hs)) hcount
  have hfixed : ∀ s ∈ sellFixed, s.InRange v := fun s hs => hrange s (List.mem_append_left _ hs)
  have hwidth : (encodeSlots v sellFixed).length = 352 := by rw [length_encodeSlots]; decide
  have hlength := length_encodeSell v count
  have hdata : encodeSell v count = [] ++ encodeSlots v sellFixed ++ encodeSlots v (tradeTail.take count) := by
    simp [encodeSell]
  have hbase : 0 = ([] : Bytes).length := rfl
  have hdrop : (encodeSell v count).drop 352 = encodeSlots v (tradeTail.take count) :=
    List.drop_left' hwidth
  have hbody : sellBody (encodeSell v count) metadata tail =
      recordOf v metadata (sellFixed ++ tradeTail.take count) "" := by
    refine eq_recordOf rfl (fun k => ?_) (fun n => ?_) (fun f => ?_) ?_
    · rw [sellBody_key, keyAt_encode hdata hbase, record_key]
    · rw [sellBody_num]
      exact record_num hfixed hdata (hnum n)
    · have hfixed : Slot.flag f ∉ sellFixed := by simp [sellFixed, tradeAccounts]
      rw [sellBody_flag]
      simp only [List.mem_append, hfixed, false_or]
      exact boost_flag hboost f
    · funext t
      cases t <;> rfl
  unfold parseSellFromData
  rw [if_neg (by omega), hdrop, htail, Option.map_some, hbody]

/-- A sell cut short at a place where no release ends is refused. -/
theorem parseSell_cut (metadata : EventMetadata) {c : ℕ} (hc : c < (encodeSell v 10).length)
    (hcut : ∀ count ∈ releasedTails, c ≠ (encodeSell v count).length) :
    parseSellFromData ((encodeSell v 10).take c) metadata = none := by
  have hlength := length_encodeSell v 10
  have htake : ((encodeSell v 10).take c).length = c := List.length_take_of_le hc.le
  unfold parseSellFromData
  by_cases hshort : c < 352
  · rw [if_pos (by omega)]
  rw [if_neg (by omega), parseTradeTail_cut]
  · rfl
  · rw [List.length_drop, htake]
    have : slotsWidth (tradeTail.take 10) = 81 := by decide
    omega
  · intro count hcount heq
    rw [List.length_drop, htake] at heq
    apply hcut count hcount
    rw [length_encodeSell]
    omega

end Sell

/-! ### Booleans -/

theorem parseBuy_volume {data : Bytes} {metadata : EventMetadata} {b : UInt8} (hb : data[352]? = some b)
    (hbool : 1 < b) : parseBuyFromData data metadata = none := by
  unfold parseBuyFromData
  rw [borshBool_none hb hbool]
  split_ifs <;> rfl

theorem parseBuy_boost {data : Bytes} {metadata : EventMetadata} {ixName : String} {tailOffset : ℕ} {b : UInt8}
    (hname : readBorshString data 393 = some (ixName, tailOffset)) (hb : data[tailOffset + 48]? = some b)
    (hbool : 1 < b) : parseBuyFromData data metadata = none := by
  have htail : parseTradeTail (data.drop tailOffset) = none :=
    parseTradeTail_bool (by rwa [List.getElem?_drop]) hbool
  unfold parseBuyFromData
  rw [hname]
  simp only [Option.bind_some, htail, Option.map_none]
  split_ifs
  · rfl
  · cases data[352]?.bind borshBool <;> rfl

theorem parseSell_boost {data : Bytes} {metadata : EventMetadata} {b : UInt8} (hb : data[400]? = some b)
    (hbool : 1 < b) : parseSellFromData data metadata = none := by
  have htail : parseTradeTail (data.drop 352) = none :=
    parseTradeTail_bool (by rwa [List.getElem?_drop]) hbool
  unfold parseSellFromData
  rw [htail]
  split_ifs <;> rfl

/-! ### All releases -/

/-- A decoder reads what each release writes and refuses what ends elsewhere. -/
structure ReadsReleases (parse : Bytes → EventMetadata → Option DexEvent) (encode : ℕ → Bytes)
    (event : EventMetadata → ℕ → DexEvent) : Prop where
  released : ∀ count ∈ releasedTails, ∀ metadata, parse (encode count) metadata = some (event metadata count)
  cut : ∀ c < (encode 10).length, (∀ count ∈ releasedTails, c ≠ (encode count).length) →
    ∀ metadata, parse ((encode 10).take c) metadata = none

/-- **PumpSwap trades of every release are read back, and nothing in between
is.** A payload with a boolean other than `0` and `1` is refused. -/
theorem pump_swap_layouts (buy sell : EventBody) (hbuy : ∀ s ∈ buyFixed ++ tradeTail, s.InRange buy)
    (hname : (utf8 (buy.text .ixName)).length < 2 ^ 32)
    (hsell : ∀ s ∈ sellFixed ++ tradeTail, s.InRange sell) :
    ReadsReleases parseBuyFromData (encodeBuy buy) (fun metadata count => ⟨.pumpSwapBuy,
        recordOf buy metadata (buyFixed ++ tradeTail.take count) (buy.text .ixName)⟩) ∧
      ReadsReleases parseSellFromData (encodeSell sell) (fun metadata count => ⟨.pumpSwapSell,
        recordOf sell metadata (sellFixed ++ tradeTail.take count) ""⟩) ∧
      ∀ (data : Bytes) (metadata : EventMetadata) (b : UInt8), 1 < b →
        (data[352]? = some b → parseBuyFromData data metadata = none) ∧
        (∀ ixName tailOffset, readBorshString data 393 = some (ixName, tailOffset) →
          data[tailOffset + 48]? = some b → parseBuyFromData data metadata = none) ∧
        (data[400]? = some b → parseSellFromData data metadata = none) := by
  refine ⟨⟨fun count hcount metadata => parseBuy_encode hbuy hname metadata hcount,
      fun c hc hcut metadata => parseBuy_cut hname metadata hc hcut⟩,
    ⟨fun count hcount metadata => parseSell_encode hsell metadata hcount,
      fun c hc hcut metadata => parseSell_cut metadata hc hcut⟩, ?_⟩
  intro data metadata b hb
  exact ⟨fun h => parseBuy_volume h hb, fun ixName tailOffset h h' => parseBuy_boost h h' hb,
    fun h => parseSell_boost h hb⟩

/-- A buy of the boost release, and the first 470 bytes of one of the last. -/
theorem pump_swap_layouts_boost :
    let metadata : EventMetadata := ⟨[], 0, 0, 0, 0, none⟩
    let buy : EventBody :=
      { metadata := metadata
        num := fun | .virtualQuoteReserves => -3 | .cashback => 2 ^ 64 - 1 | _ => 5
        flag := fun _ => true
        text := fun _ => "buy" }
    parseBuyFromData (encodeBuy buy 7) metadata = some ⟨.pumpSwapBuy,
        recordOf buy metadata (buyFixed ++ tradeTail.take 7) "buy"⟩ ∧
      parseBuyFromData ((encodeBuy buy 10).take 470) metadata = none := by
  intro metadata buy
  have h := pump_swap_layouts buy buy (by decide) (by decide) (by decide)
  exact ⟨h.1.released 7 (by decide) metadata,
    h.1.cut 470 (by decide +kernel) (by decide +kernel) metadata⟩

end Logs
end ShredSdk
