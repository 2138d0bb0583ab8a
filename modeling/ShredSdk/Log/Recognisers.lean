/-
# Lines that open and close an invocation

`parse_invoke_info` and `parse_program_complete_info` (`src/logs/optimized_matcher.rs`)
look for a piece of text in a line and cut the line there. On the lines a validator
writes they do what they are for. Other lines they may take for one of those, and a
run of digits that is too long overflows the accumulator of the first.

Key definitions: `parseInvokeInfo`, `parseProgramCompleteInfo`, `InvokeLine`, `CompleteLine`, `InvokeMet`, `CompleteMet`.
Key theorems: `readDepth_eq`, `parseInvokeInfo_eq`, `invokeLine_iff`, `recognisers_exact_iff`.
-/
import ShredSdk.Lib.Lines

namespace ShredSdk
namespace Logs

/-! ### The recognisers -/

inductive DepthFault where
  | overflow
deriving DecidableEq

/-- The loop over the bytes behind the bracket. -/
def readDepth (depth : ℕ) : Bytes → Except DepthFault (Option ℕ)
  | [] => .ok (some depth)
  | byte :: rest =>
    if isDigit byte then
      if 2 ^ 64 ≤ depth * 10 + (byte.toNat - 48) then .error .overflow
      else readDepth (depth * 10 + (byte.toNat - 48)) rest
    else if byte = 93 then .ok (some depth)
    else .ok none

def parseInvokeInfo (log : Bytes) : Except DepthFault (Option (Bytes × ℕ)) :=
  match findSub (utf8 "invoke [") log with
  | none => .ok none
  | some invokeStart =>
    let bracketStart := invokeStart + 8
    if log.length ≤ bracketStart then .ok none
    else
      (readDepth 0 (log.drop bracketStart)).map fun depth => depth.bind fun depth =>
        if invokeStart < 8 then none
        else
          let programEnd := invokeStart - 1
          if programEnd ≤ 8 then none
          else
            let programId := (log.drop 8).take (programEnd - 8)
            if isValidUtf8 programId then some (programId, depth) else none

def parseProgramCompleteInfo (log : Bytes) : Option Bytes :=
  (stripPrefix (utf8 "Program ") log).bind fun rest =>
    match findSub (utf8 " success") rest with
    | some pos => some (rest.take pos)
    | none => (findSub (utf8 " failed:") rest).map fun pos => rest.take pos

/-! ### The lines they are for -/

def InvokeLine (line p : String) (d : ℕ) : Prop :=
  utf8 line = utf8 "Program " ++ utf8 p ++ utf8 " invoke [" ++ decimal d ++ utf8 "]" ∧ d < 2 ^ 64 ∧ p ≠ "" ∧
    32 ∉ utf8 p

def CompleteLine (line p : String) : Prop :=
  (utf8 line = utf8 "Program " ++ utf8 p ++ utf8 " success" ∨
    utf8 "Program " ++ utf8 p ++ utf8 " failed:" <+: utf8 line) ∧ p ≠ "" ∧ 32 ∉ utf8 p

/-- Nothing overflows, and what is found is what the line says. -/
def InvokeExact (line : String) : Prop :=
  ∃ parsed, parseInvokeInfo (utf8 line) = .ok parsed ∧ ∀ p d, parsed = some (utf8 p, d) ↔ InvokeLine line p d

def CompleteExact (line : String) : Prop :=
  ∀ p, parseProgramCompleteInfo (utf8 line) = some (utf8 p) ↔ CompleteLine line p

/-! ### Depths -/

section

variable {s : Bytes} {depth : ℕ}

theorem foldl_digits_le (s : Bytes) : ∀ depth, depth ≤ s.foldl (fun n b => n * 10 + (b.toNat - 48)) depth := by
  induction s with
  | nil => exact fun depth => le_rfl
  | cons b s ih =>
    intro depth
    have hstep : depth ≤ depth * 10 + (b.toNat - 48) := by omega
    exact hstep.trans (ih _)

/-- **A depth is read** to the end of its digits, and overflows if they spell too much. -/
theorem readDepth_foldl (hdepth : depth < 2 ^ 64) : readDepth depth s =
    if 2 ^ 64 ≤ (s.takeWhile isDigit).foldl (fun n b => n * 10 + (b.toNat - 48)) depth then .error .overflow
    else .ok (if s.dropWhile isDigit = [] ∨ (s.dropWhile isDigit).head? = some 93 then
      some ((s.takeWhile isDigit).foldl (fun n b => n * 10 + (b.toNat - 48)) depth) else none) := by
  induction s generalizing depth with
  | nil =>
    rw [List.takeWhile_nil, List.foldl_nil, if_neg (not_le.mpr hdepth), List.dropWhile_nil, if_pos (.inl rfl)]
    rfl
  | cons b s ih =>
    unfold readDepth
    by_cases hb : isDigit b = true
    · rw [if_pos hb, List.takeWhile_cons_of_pos hb, List.dropWhile_cons_of_pos hb, List.foldl_cons]
      by_cases hover : 2 ^ 64 ≤ depth * 10 + (b.toNat - 48)
      · rw [if_pos hover, if_pos (hover.trans (foldl_digits_le _ _))]
      · rw [if_neg hover, ih (by omega)]
    · rw [if_neg hb, List.takeWhile_cons_of_neg hb, List.dropWhile_cons_of_neg hb, List.foldl_nil,
        if_neg (not_le.mpr hdepth)]
      by_cases hclose : b = 93
      · rw [if_pos hclose, if_pos (.inr (by rw [hclose]; rfl))]
      · rw [if_neg hclose, if_neg (by simp [hclose])]

theorem readDepth_eq : readDepth 0 s = if 2 ^ 64 ≤ digitsValue (s.takeWhile isDigit) then .error .overflow
    else .ok (if s.dropWhile isDigit = [] ∨ (s.dropWhile isDigit).head? = some 93 then
      some (digitsValue (s.takeWhile isDigit)) else none) := readDepth_foldl (by decide)

end

/-! ### What is taken for an invocation -/

section

variable {log : Bytes} {i : ℕ}

/-- The digits behind the bracket, and what follows them. -/
def depthDigits (log : Bytes) (i : ℕ) : Bytes := (log.drop (i + 8)).takeWhile isDigit

def behindDigits (log : Bytes) (i : ℕ) : Bytes := (log.drop (i + 8)).dropWhile isDigit

/-- What is taken for the program. -/
def programPart (log : Bytes) (i : ℕ) : Bytes := (log.drop 8).take (i - 1 - 8)

/-- With the marker at `i`, the line is taken for an invocation. -/
def TakenAt (log : Bytes) (i : ℕ) : Prop :=
  i + 8 < log.length ∧ (behindDigits log i = [] ∨ (behindDigits log i).head? = some 93) ∧ 10 ≤ i ∧
    isValidUtf8 (programPart log i) = true

instance (log : Bytes) (i : ℕ) : Decidable (TakenAt log i) := inferInstanceAs (Decidable (_ ∧ _))

/-- The line is spelled as an invocation, around the marker at `i`. -/
structure SpelledAt (log : Bytes) (i : ℕ) : Prop where
  front : log.take 8 = utf8 "Program "
  blank : log[i - 1]? = some 32
  program : 32 ∉ programPart log i
  digits : PlainDigits (depthDigits log i)
  back : behindDigits log i = [93]

theorem parseInvokeInfo_eq (hfind : findSub (utf8 "invoke [") log = some i) : parseInvokeInfo log =
    if 2 ^ 64 ≤ digitsValue (depthDigits log i) then .error .overflow
    else .ok (if TakenAt log i then some (programPart log i, digitsValue (depthDigits log i)) else none) := by
  unfold parseInvokeInfo
  rw [hfind]
  show (if log.length ≤ i + 8 then _ else _) = _
  by_cases hend : log.length ≤ i + 8
  · have hdigits : depthDigits log i = [] := by rw [depthDigits, List.drop_eq_nil_of_le hend]; rfl
    have htaken : ¬TakenAt log i := fun h => absurd h.1 (by omega)
    rw [if_pos hend, hdigits, if_neg (by decide), if_neg htaken]
  · rw [if_neg hend, readDepth_eq, ← depthDigits, ← behindDigits]
    by_cases hover : 2 ^ 64 ≤ digitsValue (depthDigits log i)
    · rw [if_pos hover, if_pos hover]
      rfl
    · rw [if_neg hover, if_neg hover]
      by_cases hback : behindDigits log i = [] ∨ (behindDigits log i).head? = some 93
      · rw [if_pos hback]
        by_cases htaken : TakenAt log i
        · rw [if_pos htaken]
          obtain ⟨-, -, hi, hvalid⟩ := htaken
          show Except.ok (if i < 8 then none else if i - 1 ≤ 8 then none else
            if isValidUtf8 (programPart log i) then some (programPart log i, _) else none) = _
          rw [if_neg (by omega), if_neg (by omega), if_pos hvalid]
        · rw [if_neg htaken]
          show Except.ok (if i < 8 then none else if i - 1 ≤ 8 then none else
            if isValidUtf8 (programPart log i) then some (programPart log i, _) else none) = _
          by_cases hi : 10 ≤ i
          · have hvalid : ¬isValidUtf8 (programPart log i) = true :=
              fun h => htaken ⟨by omega, hback, hi, h⟩
            rw [if_neg (by omega), if_neg (by omega), if_neg hvalid]
          · by_cases h8 : i < 8
            · rw [if_pos h8]
            · rw [if_neg h8, if_pos (by omega)]
      · rw [if_neg hback, if_neg (show ¬TakenAt log i from fun h => hback h.2.1)]
        rfl

/-! ### Lines that are invocations -/

/-- The marker stands at the first place its bytes do. -/
theorem findSub_invoke {p back : Bytes} (hp : 32 ∉ p) :
    findSub (utf8 "invoke [") (utf8 "Program " ++ p ++ utf8 " invoke [" ++ back) = some (9 + p.length) := by
  have hsplit : utf8 "Program " ++ p ++ utf8 " invoke [" ++ back =
      (utf8 "Program " ++ p ++ [32]) ++ (utf8 "invoke [" ++ back) := by
    rw [show utf8 " invoke [" = [32] ++ utf8 "invoke [" from by decide]
    simp only [List.append_assoc]
  have hlength : (utf8 "Program " ++ p ++ [32]).length = 9 + p.length := by
    have h8 : (utf8 "Program ").length = 8 := by decide
    simp only [List.length_append, h8, List.length_singleton]
    omega
  rw [hsplit]
  refine findSub_eq_some.mpr ⟨?_, ?_, fun j hj hhere => ?_⟩
  · rw [List.length_append, hlength]
    omega
  · rw [← hlength, List.drop_left]
    exact List.prefix_append _ _
  · obtain ⟨t, ht⟩ := hhere
    have hat (k : ℕ) (hk : k < 8) :
        ((utf8 "Program " ++ p ++ [32]) ++ (utf8 "invoke [" ++ back))[j + k]? = (utf8 "invoke [")[k]? := by
      rw [← List.getElem?_drop, ← ht, List.getElem?_append_left]
      exact hk
    have h0 := hat 0 (by decide)
    have h6 := hat 6 (by decide)
    have h7 := hat 7 (by decide)
    -- where the blank of the marker would have to be
    rcases Nat.lt_or_ge (j + 6) 8 with hj8 | hj8
    · obtain rfl | rfl : j = 0 ∨ j = 1 := by omega
      · exact absurd h6 (by rw [List.append_assoc, List.append_assoc]; exact ne_of_beq_false rfl)
      · exact absurd h0 (by rw [List.append_assoc, List.append_assoc]; exact ne_of_beq_false rfl)
    · rcases Nat.lt_trichotomy (j + 6) (8 + p.length) with hlt | heq | hgt
      · rw [List.append_assoc, List.append_assoc, List.getElem?_append_right hj8, List.getElem?_append_left] at h6
        · exact hp (List.mem_of_getElem? h6)
        · show j + 6 - 8 < p.length
          omega
      · rw [List.getElem?_append_right (by omega), show j + 7 - _ = 0 by omega,
          List.getElem?_append_left (by decide)] at h7
        exact absurd h7 (by decide)
      · rw [List.getElem?_append_right (by omega), hlength] at h6
        have hk : j + 6 - (9 + p.length) < 6 := by omega
        generalize j + 6 - (9 + p.length) = k at h6 hk
        rw [List.getElem?_append_left (lt_trans hk (by decide))] at h6
        interval_cases k <;> exact absurd h6 (by decide)

/-- **A line is an invocation** exactly if it is taken for one and spelled as one. -/
theorem invokeLine_iff {line p : String} {d : ℕ} (hfind : findSub (utf8 "invoke [") (utf8 line) = some i)
    (hlt : digitsValue (depthDigits (utf8 line) i) < 2 ^ 64) : InvokeLine line p d ↔
      (TakenAt (utf8 line) i ∧ SpelledAt (utf8 line) i) ∧ utf8 p = programPart (utf8 line) i ∧
        d = digitsValue (depthDigits (utf8 line) i) := by
  have h8 : (utf8 "Program ").length = 8 := by decide
  constructor
  · rintro ⟨hline, hd, hne, hp⟩
    rw [List.append_assoc _ (decimal d)] at hline
    obtain rfl : 9 + (utf8 p).length = i := by
      rw [hline, findSub_invoke hp] at hfind
      exact Option.some.inj hfind
    have hlen : (utf8 "Program " ++ utf8 p ++ utf8 " invoke [").length = 9 + (utf8 p).length + 8 := by
      have h9 : (utf8 " invoke [").length = 9 := by decide
      rw [List.length_append, List.length_append, h8, h9]
      omega
    have hback : (utf8 line).drop (9 + (utf8 p).length + 8) = decimal d ++ [93] := by
      rw [hline, ← hlen, List.drop_left]
      rfl
    obtain ⟨hplainne, hdigit, hhead⟩ := decimal_plain d
    have hdigits : depthDigits (utf8 line) (9 + (utf8 p).length) = decimal d := by
      rw [depthDigits, hback, List.takeWhile_append_of_pos hdigit]
      exact List.append_nil _
    have hbehind : behindDigits (utf8 line) (9 + (utf8 p).length) = [93] := by
      rw [behindDigits, hback, List.dropWhile_append_of_pos hdigit]
      rfl
    have hprogram : programPart (utf8 line) (9 + (utf8 p).length) = utf8 p := by
      rw [programPart, hline, List.append_assoc, List.append_assoc, List.drop_left' h8,
        show 9 + (utf8 p).length - 1 - 8 = (utf8 p).length by omega, List.take_left]
    have hpos : 0 < (utf8 p).length := by
      refine List.length_pos_iff.mpr fun hnil => hne (utf8_inj ?_)
      rw [hnil]
      rfl
    have hfull : (utf8 line).length = 9 + (utf8 p).length + 8 + ((decimal d).length + 1) := by
      rw [hline, List.length_append, hlen, List.length_append]
      rfl
    refine ⟨⟨⟨by omega, .inr (by rw [hbehind]; rfl), by omega, ?_⟩, ⟨?_, ?_, ?_, ?_, hbehind⟩⟩, hprogram.symm, ?_⟩
    · rw [hprogram]
      exact isValidUtf8_iff.mpr ⟨p, rfl⟩
    · rw [hline, List.append_assoc, List.append_assoc]
      exact List.take_left' h8
    · have hfront : (utf8 "Program " ++ utf8 p).length = 9 + (utf8 p).length - 1 := by
        rw [List.length_append, h8]
        omega
      rw [hline, List.append_assoc _ (utf8 " invoke ["), ← hfront, List.getElem?_append_right le_rfl, Nat.sub_self]
      rfl
    · rw [hprogram]
      exact hp
    · rw [hdigits]
      exact decimal_plain d
    · rw [hdigits, digitsValue_decimal]
  · rintro ⟨⟨⟨hlong, -, hi, -⟩, hspelled⟩, hp, rfl⟩
    obtain ⟨hle, hhere, -⟩ := findSub_eq_some.mp hfind
    obtain ⟨t, ht⟩ := hhere
    have hmarker : (utf8 line).drop i = utf8 "invoke [" ++ (utf8 line).drop (i + 8) := by
      have hdrop : (utf8 line).drop (i + 8) = t := by
        rw [← List.drop_drop, ← ht]
        exact List.drop_left' (by decide)
      rw [hdrop, ht]
    have hback : (utf8 line).drop (i + 8) = depthDigits (utf8 line) i ++ [93] := by
      rw [← hspelled.back]
      exact List.takeWhile_append_dropWhile.symm
    have hblank : (utf8 line).drop (i - 1) = 32 :: (utf8 line).drop i := by
      obtain ⟨hlt1, hget⟩ := List.getElem?_eq_some_iff.mp hspelled.blank
      rw [List.drop_eq_getElem_cons hlt1, hget, show i - 1 + 1 = i by omega]
    have hprogram : (utf8 line).drop 8 = utf8 p ++ (utf8 line).drop (i - 1) := by
      rw [hp, programPart]
      conv_lhs => rw [← List.take_append_drop (i - 1 - 8) ((utf8 line).drop 8)]
      rw [List.drop_drop, show 8 + (i - 1 - 8) = i - 1 by omega]
    refine ⟨?_, hlt, ?_, hp ▸ hspelled.program⟩
    · rw [decimal_digitsValue hspelled.digits]
      conv_lhs => rw [← List.take_append_drop 8 (utf8 line), hspelled.front, hprogram, hblank, hmarker, hback]
      rw [show utf8 " invoke [" = 32 :: utf8 "invoke [" from by decide, show utf8 "]" = [93] from by decide]
      simp only [List.append_assoc, List.cons_append]
    · rintro rfl
      have hlen := congrArg List.length hp
      rw [programPart, List.length_take, List.length_drop, show (utf8 "").length = 0 from rfl] at hlen
      omega

end

/-! ### When the recognisers are exact -/

/-- The digits behind the first marker fit into 64 bits, and a line that is taken for an invocation is spelled as one. -/
def InvokeMet (log : Bytes) : Prop :=
  ∀ i, findSub (utf8 "invoke [") log = some i →
    digitsValue (depthDigits log i) < 2 ^ 64 ∧ (TakenAt log i → SpelledAt log i)

theorem invokeExact_iff (line : String) : InvokeExact line ↔ InvokeMet (utf8 line) := by
  cases hfind : findSub (utf8 "invoke [") (utf8 line) with
  | none =>
    refine iff_of_true ⟨none, ?_, fun p d => iff_of_false (by simp) ?_⟩ ?_
    · unfold parseInvokeInfo
      rw [hfind]
    · rintro ⟨hline, -, -, hp⟩
      rw [List.append_assoc _ (decimal d)] at hline
      rw [hline, findSub_invoke hp] at hfind
      cases hfind
    · intro i hi
      rw [hfind] at hi
      cases hi
  | some i =>
    have hmet : InvokeMet (utf8 line) ↔ digitsValue (depthDigits (utf8 line) i) < 2 ^ 64 ∧
        (TakenAt (utf8 line) i → SpelledAt (utf8 line) i) := by
      constructor
      · exact fun h => h i hfind
      · intro h j hj
        rw [hfind] at hj
        obtain rfl := Option.some.inj hj
        exact h
    rw [hmet, InvokeExact, parseInvokeInfo_eq hfind]
    by_cases hover : 2 ^ 64 ≤ digitsValue (depthDigits (utf8 line) i)
    · rw [if_pos hover]
      refine iff_of_false ?_ fun h => absurd h.1 (by omega)
      rintro ⟨parsed, hparsed, -⟩
      cases hparsed
    · have hlt : digitsValue (depthDigits (utf8 line) i) < 2 ^ 64 := by omega
      rw [if_neg hover]
      constructor
      · rintro ⟨parsed, hparsed, hexact⟩
        obtain rfl := Except.ok.inj hparsed
        refine ⟨hlt, fun htaken => ?_⟩
        obtain ⟨p, hp⟩ := isValidUtf8_iff.mp htaken.2.2.2
        have hline := (hexact p _).mp (by rw [if_pos htaken, hp])
        exact ((invokeLine_iff hfind hlt).mp hline).1.2
      · rintro ⟨-, hspelled⟩
        refine ⟨_, rfl, fun p d => ?_⟩
        rw [invokeLine_iff hfind hlt]
        by_cases htaken : TakenAt (utf8 line) i
        · rw [if_pos htaken, Option.some_inj, Prod.mk.injEq]
          constructor
          · rintro ⟨hp, hd⟩
            exact ⟨⟨htaken, hspelled htaken⟩, hp.symm, hd.symm⟩
          · rintro ⟨-, hp, hd⟩
            exact ⟨hp.symm, hd.symm⟩
        · rw [if_neg htaken]
          exact iff_of_false (by simp) fun h => htaken h.1.1

/-- One word stands in front of the first ` success`, which ends the line, or else of the first ` failed:`. -/
def CompleteMet (log : Bytes) : Prop :=
  ∀ rest, stripPrefix (utf8 "Program ") log = some rest →
    match findSub (utf8 " success") rest with
    | some pos => 0 < pos ∧ 32 ∉ rest.take pos ∧ rest.drop pos = utf8 " success"
    | none => ∀ pos, findSub (utf8 " failed:") rest = some pos → 0 < pos ∧ 32 ∉ rest.take pos

section

variable {line p : String} {rest : Bytes} {pos : ℕ}

/-- What is said of the line is said of what is behind its first word. -/
theorem completeLine_iff (hrest : stripPrefix (utf8 "Program ") (utf8 line) = some rest) : CompleteLine line p ↔
    (rest = utf8 p ++ utf8 " success" ∨ ∃ tail, rest = utf8 p ++ (utf8 " failed:" ++ tail)) ∧ p ≠ "" ∧ 32 ∉ utf8 p := by
  have hline : utf8 line = utf8 "Program " ++ rest := stripPrefix_eq_some.mp hrest
  unfold CompleteLine
  refine and_congr (or_congr ?_ ?_) Iff.rfl
  · rw [hline, List.append_assoc, List.append_cancel_left_eq]
  · rw [hline, List.append_assoc, List.prefix_append_right_inj]
    constructor
    · rintro ⟨tail, htail⟩
      exact ⟨tail, by rw [← htail, List.append_assoc]⟩
    · rintro ⟨tail, htail⟩
      exact ⟨tail, by rw [htail, List.append_assoc]⟩

/-- A piece in front of a blank is text. -/
theorem valid_take {pat : Bytes} (hrest : stripPrefix (utf8 "Program ") (utf8 line) = some rest)
    (hfind : findSub (32 :: pat) rest = some pos) : ∃ p : String, utf8 p = rest.take pos := by
  have hline : utf8 line = utf8 "Program " ++ rest := stripPrefix_eq_some.mp hrest
  obtain ⟨-, ⟨tail, htail⟩, -⟩ := findSub_eq_some.mp hfind
  have hsplit : rest = rest.take pos ++ 32 :: (pat ++ tail) := by
    conv_lhs => rw [← List.take_append_drop pos rest, ← htail]
    rfl
  have hvalid : ValidUtf8 (utf8 "Program " ++ rest) := ⟨line, hline⟩
  have hbehind := validUtf8_behind hvalid
  rw [hsplit] at hbehind
  exact validUtf8_front hbehind (by decide)

theorem found_split {pat : Bytes} (hfind : findSub (32 :: pat) rest = some pos) :
    rest = rest.take pos ++ 32 :: (rest.drop (pos + 1)) ∧ ∃ tail, rest.drop (pos + 1) = pat ++ tail := by
  obtain ⟨-, ⟨tail, htail⟩, -⟩ := findSub_eq_some.mp hfind
  have hdrop : rest.drop (pos + 1) = pat ++ tail := by
    rw [← List.drop_drop, ← htail]
    rfl
  refine ⟨?_, tail, hdrop⟩
  conv_lhs => rw [← List.take_append_drop pos rest, ← htail, List.cons_append, ← hdrop]

/-- Text that stands somewhere is found. -/
theorem found_of_append {pat front back : Bytes} (h : rest = front ++ (pat ++ back)) : findSub pat rest ≠ none := by
  intro hnone
  refine findSub_eq_none.mp hnone front.length ?_ ?_
  · rw [h, List.length_append]
    omega
  · rw [h, List.drop_left]
    exact List.prefix_append pat back

theorem found_at_end {pat front : Bytes} (h : rest = front ++ pat) : findSub pat rest ≠ none := by
  have hend : rest = front ++ (pat ++ []) := by rw [h, List.append_nil]
  exact found_of_append hend

theorem take_pos_iff (hpos : pos ≤ rest.length) (hp : utf8 p = rest.take pos) : p ≠ "" ↔ 0 < pos := by
  have hlen : (utf8 p).length = pos := by rw [hp, List.length_take, Nat.min_eq_left hpos]
  constructor
  · intro hne
    refine Nat.pos_of_ne_zero fun h0 => hne (utf8_inj (List.length_eq_zero_iff.mp (hlen.trans h0)))
  · rintro h rfl
    rw [← hlen] at h
    exact absurd h (by decide)

theorem completeExact_iff (line : String) : CompleteExact line ↔ CompleteMet (utf8 line) := by
  unfold CompleteExact CompleteMet parseProgramCompleteInfo
  cases hrest : stripPrefix (utf8 "Program ") (utf8 line) with
  | none =>
    refine iff_of_true (fun p => iff_of_false (by simp) ?_) (by simp)
    rintro ⟨hline | ⟨tail, hline⟩, -, -⟩
    · rw [hline, List.append_assoc, stripPrefix_eq_some.mpr rfl] at hrest
      cases hrest
    · rw [← hline, List.append_assoc, List.append_assoc, stripPrefix_eq_some.mpr rfl] at hrest
      cases hrest
  | some rest =>
    simp only [Option.bind_some, Option.some_inj, forall_eq', completeLine_iff hrest]
    have hsuccess : utf8 " success" = 32 :: utf8 "success" := by decide
    have hfailed : utf8 " failed:" = 32 :: utf8 "failed:" := by decide
    cases hfind : findSub (utf8 " success") rest with
    | some pos =>
      have hle : pos ≤ rest.length := (findSub_eq_some.mp hfind).1
      rw [hsuccess] at hfind
      obtain ⟨hsplit, tail, htail⟩ := found_split hfind
      obtain ⟨p₀, hp₀⟩ := valid_take hrest hfind
      have hdrop : rest.drop pos = 32 :: rest.drop (pos + 1) := by
        conv_lhs => rw [hsplit]
        rw [List.drop_left' (by rw [List.length_take, Nat.min_eq_left hle])]
      constructor
      · intro h
        obtain ⟨hline, hne, hword⟩ := (h p₀).mp (congrArg some hp₀.symm)
        rw [hp₀] at hword hline
        refine ⟨(take_pos_iff hle hp₀).mp hne, hword, ?_⟩
        rcases hline with hline | ⟨tail', hline⟩
        · exact hdrop.trans (List.append_cancel_left (hsplit.symm.trans hline))
        · have hback := List.append_cancel_left (hsplit.symm.trans hline)
          rw [hfailed, htail] at hback
          cases hback
      · rintro ⟨hpos, hword, hback⟩ p
        rw [Option.some_inj]
        have hrest' : rest = rest.take pos ++ 32 :: utf8 "success" := by
          conv_lhs => rw [← List.take_append_drop pos rest, hback, hsuccess]
        constructor
        · intro hp
          rw [← hp]
          refine ⟨.inl ?_, (take_pos_iff hle hp.symm).mpr hpos, hword⟩
          rw [hsuccess]
          exact hrest'
        · rintro ⟨hline | ⟨tail', hline⟩, -, hp⟩
          · rw [hsuccess] at hline
            exact ((front_inj hword hp).mp (hrest'.symm.trans hline)).1
          · rw [hfailed, List.cons_append] at hline
            have hbacks := ((front_inj hword hp).mp (hrest'.symm.trans hline)).2
            cases hbacks
    | none =>
      cases hfind' : findSub (utf8 " failed:") rest with
      | none =>
        refine iff_of_true (fun p => iff_of_false (by simp) ?_) (by simp)
        rintro ⟨hline | ⟨tail, hline⟩, -, -⟩
        · exact found_at_end hline hfind
        · exact found_of_append hline hfind'
      | some pos =>
        have hle : pos ≤ rest.length := (findSub_eq_some.mp hfind').1
        rw [hfailed] at hfind'
        obtain ⟨hsplit, tail, htail⟩ := found_split hfind'
        obtain ⟨p₀, hp₀⟩ := valid_take hrest hfind'
        constructor
        · rintro h pos' hpos'
          obtain rfl := Option.some.inj hpos'
          obtain ⟨-, hne, hword⟩ := (h p₀).mp (congrArg some hp₀.symm)
          exact ⟨(take_pos_iff hle hp₀).mp hne, hp₀ ▸ hword⟩
        · intro h p
          obtain ⟨hpos, hword⟩ := h pos rfl
          show some (rest.take pos) = some (utf8 p) ↔ _
          rw [Option.some_inj]
          constructor
          · intro hp
            rw [← hp]
            refine ⟨.inr ⟨tail, ?_⟩, (take_pos_iff hle hp.symm).mpr hpos, hword⟩
            rw [hfailed, List.cons_append, ← htail]
            exact hsplit
          · rintro ⟨hline | ⟨tail', hline⟩, -, hp⟩
            · exact absurd hfind (found_at_end hline)
            · rw [hfailed, List.cons_append] at hline
              exact ((front_inj hword hp).mp (hsplit.symm.trans hline)).1

end

/-- **The recognisers are exact** on a line exactly if it meets both conditions. -/
theorem recognisers_exact_iff (line : String) :
    InvokeExact line ∧ CompleteExact line ↔ InvokeMet (utf8 line) ∧ CompleteMet (utf8 line) :=
  and_congr (invokeExact_iff line) (completeExact_iff line)

/-- Twenty digits are too many. -/
theorem overflow_not_exact : ¬∀ line, InvokeExact line ∧ CompleteExact line := by
  intro h
  obtain ⟨⟨parsed, hparsed, -⟩, -⟩ := h "Program log: invoke [99999999999999999999"
  have hfind : findSub (utf8 "invoke [") (utf8 "Program log: invoke [99999999999999999999") = some 13 := by decide
  rw [parseInvokeInfo_eq hfind, if_pos (by decide)] at hparsed
  cases hparsed

end Logs
end ShredSdk
