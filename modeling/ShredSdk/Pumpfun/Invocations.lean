/-
# Invocations in a transaction's log

A validator writes a line where an invocation begins and one where it ends, and what the
programs log stands between them. `parse_instruction` reads such a log as it is meant as
long as no line in between is taken for one of the former: it returns the events of the
Pump.fun invocations, unless an outermost one fails. A program's own text can be taken
for the beginning of an invocation, and that takes the stack with it.

What the line of a trade or a create gives is `readEvent_trade` and `readEvent_create`.

Key definitions: `validatorLog`, `PlainLine`, `Forges`, `logReader`, `TransactionLog`.
Key theorems: `readLine_opening`, `readLine_closing`, `readLine_ordinary`, `log_attribution`, `texts_without_influence`.
-/
import Mathlib.Data.List.Infix
import ShredSdk.Pumpfun.EventLines

namespace ShredSdk
namespace Pumpfun

open Calls (Frame State Grammar LineReader)

/-! ### Lines -/

def base58Alphabet : Bytes := utf8 "123456789ABCDEFGHJKLMNPQRSTUVWXYZabcdefghijkmnopqrstuvwxyz"

/-- The name of a program is its key in base 58. -/
def Named (program : Bytes) : Prop := ∀ b ∈ program, b ∈ base58Alphabet

/-- The line that ends an invocation. The reason of a failure is text like that of a plain line. -/
def Closes (program : Bytes) : Bool → Bytes → Prop
  | true, line => line = utf8 "Program " ++ (program ++ utf8 " success")
  | false, line => ∃ reason, line = utf8 "Program " ++ (program ++ (utf8 " failed:" ++ reason)) ∧
      ¬utf8 " invoke [" <:+: reason ∧ ¬utf8 " success" <:+ reason

/-- What a validator writes. -/
def validatorLog : Grammar Bytes Bytes where
  opening program depth := utf8 "Program " ++ (program ++ (utf8 " invoke [" ++ (decimal depth ++ utf8 "]")))
  closes := Closes
  named := Named

/-- A line that has nothing of one that begins or ends an invocation. -/
structure PlainLine (line : Bytes) : Prop where
  invoke : ¬utf8 " invoke [" <:+: line
  failed : ¬utf8 " failed:" <:+: line
  success : ¬utf8 " success" <:+ line

/-- What a program logs. -/
def logLine (text : Bytes) : Bytes := utf8 "Program log: " ++ text

/-- The depth of the invocation a program's text is taken to begin. -/
def forgedDepth (text : Bytes) : Option ℕ :=
  (splitOnce (utf8 " invoke [") (utf8 "log: " ++ text)).bind fun (_, depth) =>
    (stripSuffix (utf8 "]") depth).bind parseUsize

/-- The text begins an invocation the stack has a place for. -/
def Forges (opened : ℕ) (text : Bytes) : Prop := ∃ depth ∈ forgedDepth text, 1 ≤ depth ∧ depth ≤ opened + 1

/-- A line that begins or ends no invocation, to the parser. -/
def Ordinary (opened : ℕ) (line : Bytes) : Prop := PlainLine line ∨ ∃ text, line = logLine text ∧ ¬Forges opened text

/-! ### Patterns -/

theorem findSub_eq_none_iff {pat s : Bytes} : findSub pat s = none ↔ ¬pat <:+: s := by
  rw [findSub_eq_none, List.infix_iff_prefix_suffix]
  constructor
  · rintro h ⟨t, hpat, hsuffix⟩
    obtain ⟨front, rfl⟩ := hsuffix
    refine h front.length (by rw [List.length_append]; omega) ?_
    rwa [List.drop_left]
  · exact fun h i _ hpat => h ⟨s.drop i, hpat, List.drop_suffix i s⟩

/-- A pattern that begins with a byte is not found in front of that byte. -/
theorem findSub_behind {b : UInt8} {pat s : Bytes} : ∀ {front : Bytes}, b ∉ front →
    findSub (b :: pat) (front ++ s) = (findSub (b :: pat) s).map (· + front.length)
  | [], _ => by simp only [List.nil_append, List.length_nil, Nat.add_zero, Option.map_id']
  | c :: front, h => by
    have hc : b ≠ c := fun heq => h (heq ▸ List.mem_cons_self)
    have hno : (b :: pat).isPrefixOf (c :: (front ++ s)) = false := by
      rw [List.isPrefixOf, beq_false_of_ne hc, Bool.false_and]
    rw [List.cons_append, findSub, hno, if_neg Bool.false_ne_true,
      findSub_behind fun hmem => h (List.mem_cons_of_mem _ hmem), Option.map_map]
    exact congrArg (Option.map · _) (funext fun i => Nat.add_assoc i front.length 1)

theorem splitOnce_behind {b : UInt8} {pat front s : Bytes} (h : b ∉ front) :
    splitOnce (b :: pat) (front ++ (b :: pat ++ s)) = some (front, s) := by
  rw [splitOnce, findSub_behind h, findSub_append (List.cons_ne_nil _ _), Option.map_some, Option.map_some,
    Nat.zero_add, List.take_left, ← List.drop_drop, List.drop_left, List.drop_left]

theorem utf8_invoke : utf8 " invoke [" = 32 :: utf8 "invoke [" := by decide
theorem utf8_failed : utf8 " failed:" = 32 :: utf8 "failed:" := by decide
theorem Named.not_mem {program : Bytes} (h : Named program) {b : UInt8} (hb : b ∉ base58Alphabet) : b ∉ program :=
  fun hmem => hb (h b hmem)

theorem space_not_base58 : (32 : UInt8) ∉ base58Alphabet := by decide
theorem colon_not_base58 : (58 : UInt8) ∉ base58Alphabet := by decide

variable {program line reason text : Bytes} {s : LogState} {frame : Frame Bytes DexInstruction}
  {stack : List (Frame Bytes DexInstruction)} {botWallet : Option Pubkey} {ok : Bool}

theorem stripPrefix_append (front back : Bytes) : stripPrefix front (front ++ back) = some back :=
  stripPrefix_eq_some.mpr rfl

/-! ### Lines that begin an invocation -/

theorem parseUsize_decimal {n : ℕ} (h : n < 2 ^ 64) : parseUsize (decimal n) = some n := by
  obtain ⟨hne, hdigits, -⟩ := decimal_plain n
  have hplus : (decimal n).head? ≠ some 43 := fun hhead =>
    absurd (hdigits 43 (List.mem_of_mem_head? hhead)) (by decide)
  have hall : ¬(decimal n).any (!isDigit ·) = true := by
    rw [List.any_eq_true]
    rintro ⟨b, hb, hnot⟩
    rw [hdigits b hb] at hnot
    cases hnot
  unfold parseUsize
  rw [if_neg hplus, if_neg (not_or.mpr ⟨hne, hall⟩), digitsValue_decimal, if_pos h]

/-- **A line that begins an invocation** puts it on the stack. -/
theorem readLine_opening (hnamed : Named program) (hdepth : s.stack.length < 2 ^ 64 - 1) :
    readLine botWallet s (validatorLog.opening program (s.stack.length + 1)) =
      some { s with stack := ⟨program, []⟩ :: s.stack } := by
  have hsplit : splitOnce (utf8 " invoke [")
      (program ++ (utf8 " invoke [" ++ (decimal (s.stack.length + 1) ++ utf8 "]"))) =
        some (program, decimal (s.stack.length + 1) ++ utf8 "]") := by
    rw [utf8_invoke]
    exact splitOnce_behind (hnamed.not_mem space_not_base58)
  have hstrip : stripSuffix (utf8 "]") (decimal (s.stack.length + 1) ++ utf8 "]") =
      some (decimal (s.stack.length + 1)) := stripSuffix_eq_some.mpr rfl
  simp only [readLine, validatorLog, stripPrefix_append, hsplit, openInvocation, hstrip, Option.bind_some,
    parseUsize_decimal (show s.stack.length + 1 < 2 ^ 64 by omega), Nat.sub_self, List.drop_zero, ne_eq,
    not_true_eq_false, if_false]

/-! ### Lines that end one -/

theorem completion_success (program : Bytes) : completion (program ++ utf8 " success") = some (program, true) := by
  rw [completion, stripSuffix_eq_some.mpr rfl]
  rfl

/-- No reason makes the line one of a success. -/
theorem not_success_failed (h : ¬utf8 " success" <:+ reason) :
    ¬utf8 " success" <:+ program ++ (utf8 " failed:" ++ reason) := by
  intro hsuffix
  have hcolon : 58 :: reason <:+ program ++ (utf8 " failed:" ++ reason) :=
    ⟨program ++ utf8 " failed", by rw [List.append_assoc]; rfl⟩
  rcases List.suffix_or_suffix_of_suffix hsuffix hcolon with hs | hs
  · rcases List.suffix_cons_iff.mp hs with heq | hs
    · exact absurd (show (58 : UInt8) ∈ utf8 " success" from heq ▸ List.mem_cons_self) (by decide)
    · exact h hs
  · exact absurd (hs.mem List.mem_cons_self) (by decide)

theorem completion_failed (hnamed : Named program) (h : ¬utf8 " success" <:+ reason) :
    completion (program ++ (utf8 " failed:" ++ reason)) = some (program, false) := by
  have hno : stripSuffix (utf8 " success") (program ++ (utf8 " failed:" ++ reason)) = none := by
    cases hstrip : stripSuffix (utf8 " success") (program ++ (utf8 " failed:" ++ reason)) with
    | none => rfl
    | some front => exact absurd ⟨front, (stripSuffix_eq_some.mp hstrip).symm⟩ (not_success_failed h)
  have hsplit : splitOnce (utf8 " failed:") (program ++ (utf8 " failed:" ++ reason)) = some (program, reason) := by
    rw [utf8_failed]
    exact splitOnce_behind (hnamed.not_mem space_not_base58)
  rw [completion, hno, hsplit]
  rfl

/-- A line that ends an invocation begins none. -/
theorem closes_splitOnce (hnamed : Named program) (h : Closes program ok line) :
    ∃ rest, line = utf8 "Program " ++ rest ∧ splitOnce (utf8 " invoke [") rest = none ∧
      completion rest = some (program, ok) := by
  have hspace := hnamed.not_mem space_not_base58
  cases ok with
  | true =>
    refine ⟨program ++ utf8 " success", h, ?_, completion_success program⟩
    rw [splitOnce, utf8_invoke, findSub_behind hspace, show findSub (32 :: utf8 "invoke [") (utf8 " success") = none by decide]
    rfl
  | false =>
    obtain ⟨reason, hline, hinvoke, hsuccess⟩ := h
    refine ⟨program ++ (utf8 " failed:" ++ reason), hline, ?_, completion_failed hnamed hsuccess⟩
    have hfailed : (32 : UInt8) ∉ utf8 "failed:" := by decide
    have hhere : (32 :: utf8 "invoke [").isPrefixOf (32 :: (utf8 "failed:" ++ reason)) = false := rfl
    have hnone : findSub (32 :: utf8 "invoke [") reason = none := by
      rw [← utf8_invoke]
      exact findSub_eq_none_iff.mpr hinvoke
    rw [splitOnce, utf8_invoke, findSub_behind hspace, utf8_failed, List.cons_append, findSub, hhere,
      if_neg Bool.false_ne_true, findSub_behind hfailed, hnone]
    rfl

/-- **A line that ends the innermost invocation** takes it from the stack. -/
theorem readLine_closing (hstack : s.stack = frame :: stack) (hnamed : Named frame.program)
    (h : Closes frame.program ok line) : readLine botWallet s line = s.close ok := by
  obtain ⟨rest, rfl, hinvoke, hcompletion⟩ := closes_splitOnce hnamed h
  obtain ⟨frames, committed⟩ := s
  subst hstack
  simp only [readLine, stripPrefix_append, hinvoke, hcompletion, closeInvocation, ne_eq, not_true_eq_false, if_false]
  cases ok with
  | true => cases stack <;> rfl
  | false => cases stack <;> rfl

/-! ### Lines in between -/

/-- The event of a line counts if the innermost invocation is one of Pump.fun. -/
def eventsOf (botWallet : Option Pubkey) (line program : Bytes) : List DexInstruction :=
  if program = pumpfunProgramText then (readEvent botWallet line).toList else []

theorem readData_eq (line : Bytes) : readData botWallet s line = s.emit (eventsOf botWallet line) := by
  obtain ⟨frames, committed⟩ := s
  cases frames with
  | nil => rfl
  | cons frame stack =>
    unfold readData State.emit eventsOf
    by_cases hprogram : frame.program = pumpfunProgramText
    · simp only [hprogram, ne_eq, not_true_eq_false, if_false, if_true]
    · simp only [hprogram, ne_eq, not_false_eq_true, if_true, if_false, List.append_nil]

theorem splitOnce_eq_none {pat : Bytes} (h : ¬pat <:+: line) : splitOnce pat line = none := by
  rw [splitOnce, findSub_eq_none_iff.mpr h]
  rfl

theorem PlainLine.behind {rest : Bytes} (h : PlainLine line) (hrest : rest <:+ line) : PlainLine rest :=
  ⟨fun hpat => h.invoke (hpat.trans hrest.isInfix), fun hpat => h.failed (hpat.trans hrest.isInfix),
    fun hpat => h.success (hpat.trans hrest)⟩

theorem PlainLine.completion (h : PlainLine line) : Pumpfun.completion line = none := by
  have hno : stripSuffix (utf8 " success") line = none := by
    cases hstrip : stripSuffix (utf8 " success") line with
    | none => rfl
    | some front => exact absurd ⟨front, (stripSuffix_eq_some.mp hstrip).symm⟩ h.success
  rw [Pumpfun.completion, hno, splitOnce_eq_none h.failed]
  rfl

/-- A plain line makes its event. -/
theorem readLine_plain (h : PlainLine line) : readLine botWallet s line = some (s.emit (eventsOf botWallet line)) := by
  unfold readLine
  cases hstrip : stripPrefix (utf8 "Program ") line with
  | none => exact congrArg some (readData_eq line)
  | some rest =>
    have hrest : rest <:+ line := ⟨utf8 "Program ", (stripPrefix_eq_some.mp hstrip).symm⟩
    simp only [splitOnce_eq_none (h.behind hrest).invoke, (h.behind hrest).completion, readData_eq]

theorem logLine_eq (text : Bytes) : logLine text = utf8 "Program " ++ (utf8 "log: " ++ text) := by
  rw [logLine, ← List.append_assoc]
  rfl

theorem readEvent_logLine (botWallet : Option Pubkey) (text : Bytes) : readEvent botWallet (logLine text) = none := by
  have hno : stripPrefix (utf8 "Program data: ") (logLine text) = none := by
    cases hstrip : stripPrefix (utf8 "Program data: ") (logLine text) with
    | none => rfl
    | some rest =>
      have hbyte := congrArg (·[8]?) (stripPrefix_eq_some.mp hstrip)
      exact absurd hbyte (by rw [logLine]; exact ne_of_beq_false rfl)
  rw [readEvent, hno]
  rfl

theorem emit_logLine (text : Bytes) : s.emit (eventsOf botWallet (logLine text)) = s := by
  obtain ⟨frames, committed⟩ := s
  cases frames with
  | nil => rfl
  | cons frame stack =>
    unfold State.emit eventsOf
    simp only [readEvent_logLine, Option.toList_none, ite_self, List.append_nil]

/-- An invocation the stack has no place for is passed over. -/
theorem openInvocation_passed {front depth : Bytes}
    (h : ∀ d ∈ (stripSuffix (utf8 "]") depth).bind parseUsize, 1 ≤ d → s.stack.length + 1 < d) :
    openInvocation s front depth = s := by
  unfold openInvocation
  cases hread : (stripSuffix (utf8 "]") depth).bind parseUsize with
  | none => rfl
  | some d =>
    cases d with
    | zero => rfl
    | succ outer =>
      have hlt := h _ hread (Nat.succ_le_succ (Nat.zero_le outer))
      dsimp only
      rw [Nat.sub_eq_zero_of_le (by omega), List.drop_zero, if_pos (by omega)]

/-- What a log line says has ended is no program. -/
theorem colon_mem_of_completion {front : Bytes} (h : completion (utf8 "log: " ++ text) = some (front, ok)) :
    (58 : UInt8) ∈ front := by
  have hfront (back : Bytes) (heq : utf8 "log: " ++ text = front ++ 32 :: back) : (58 : UInt8) ∈ front := by
    have hlong : 4 ≤ front.length := by
      by_contra hshort
      have hbyte := congrArg (·[front.length]?) heq
      have hlt : front.length < 4 := not_le.mp hshort
      rw [List.getElem?_append_right le_rfl, Nat.sub_self] at hbyte
      generalize front.length = k at hbyte hlt
      interval_cases k <;> exact absurd hbyte (ne_of_beq_false rfl)
    have hcolon : (front ++ 32 :: back)[3]? = some 58 := by
      rw [← heq]
      rfl
    rw [List.getElem?_append_left (by omega)] at hcolon
    exact List.mem_of_getElem? hcolon
  rcases Option.or_eq_some_iff.mp h with h | ⟨-, h⟩
  · obtain ⟨program, hstrip, hsome⟩ := Option.map_eq_some_iff.mp h
    cases hsome
    exact hfront (utf8 "success") (stripSuffix_eq_some.mp hstrip)
  · obtain ⟨⟨program, back⟩, hsplit, hsome⟩ := Option.map_eq_some_iff.mp h
    cases hsome
    obtain ⟨i, hfind, heq⟩ := Option.map_eq_some_iff.mp hsplit
    cases heq
    obtain ⟨-, ⟨back, hback⟩, -⟩ := findSub_eq_some.mp hfind
    refine hfront (utf8 "failed:" ++ back) ?_
    conv_lhs => rw [← List.take_append_drop i (utf8 "log: " ++ text), ← hback]
    rfl

/-- **A program's own text** is passed over, unless it forges an invocation. -/
theorem readLine_logLine (hnamed : ∀ frame ∈ s.stack, Named frame.program) (h : ¬Forges s.stack.length text) :
    readLine botWallet s (logLine text) = some s := by
  rw [logLine_eq]
  simp only [readLine, stripPrefix_append]
  cases hsplit : splitOnce (utf8 " invoke [") (utf8 "log: " ++ text) with
  | some p =>
    obtain ⟨front, depth⟩ := p
    refine congrArg some (openInvocation_passed fun d hd hpos => not_le.mp fun hle => h ⟨d, ?_, hpos, hle⟩)
    rw [forgedDepth, hsplit]
    exact hd
  | none =>
    cases hcompletion : completion (utf8 "log: " ++ text) with
    | none =>
      dsimp only
      rw [readData_eq, ← logLine_eq, emit_logLine]
    | some p =>
      obtain ⟨front, ok⟩ := p
      have hcolon := colon_mem_of_completion hcompletion
      dsimp only [closeInvocation]
      obtain ⟨frames, committed⟩ := s
      cases frames with
      | nil => rfl
      | cons frame stack =>
        refine if_pos fun heq => ?_
        exact (hnamed frame List.mem_cons_self).not_mem colon_not_base58 (heq ▸ hcolon)

theorem readLine_ordinary (hnamed : ∀ frame ∈ s.stack, Named frame.program) (h : Ordinary s.stack.length line) :
    readLine botWallet s line = some (s.emit (eventsOf botWallet line)) := by
  rcases h with hplain | ⟨text, rfl, hforges⟩
  · exact readLine_plain hplain
  · rw [readLine_logLine hnamed hforges, emit_logLine]

/-! ### Logs -/

/-- The parser reads what a validator writes. -/
def logReader (botWallet : Option Pubkey) : LineReader validatorLog DexInstruction where
  step := readLine botWallet
  ordinary := Ordinary
  events := eventsOf botWallet
  deepest := 2 ^ 64 - 1
  step_opening := readLine_opening
  step_closing := readLine_closing
  step_ordinary := readLine_ordinary

/-- The events of outermost invocations, if none of them failed. -/
def executed (botWallet : Option Pubkey) (outer : List (Calls.Outer Bytes Bytes)) : List DexInstruction :=
  if outer.all (·.ok) then outer.flatMap fun c => c.body.eventsIn (eventsOf botWallet) c.program else []

/-- **What the parser reports** of a log, up to any line. -/
theorem parseInstruction_take (botWallet : Option Pubkey) {calls : Calls Bytes Bytes} (hwell : validatorLog.WellFormed calls)
    (hlines : calls.EachLine Ordinary 0) (hfits : calls.size < 2 ^ 64) (n : ℕ) :
    parseInstruction botWallet ((validatorLog.lines 0 calls).take n) = executed botWallet (calls.closed n) := by
  have hrun : ((logReader botWallet).run ⟨[], []⟩ ((validatorLog.lines 0 calls).take n)).map (·.committed) =
      (Calls.result (eventsOf botWallet) (calls.closed n)).map ([] ++ ·) :=
    LineReader.run_take hwell hlines (show calls.size ≤ 2 ^ 64 - 1 by omega) n
  have hparse (lines : List Bytes) : parseInstruction botWallet lines =
      (((logReader botWallet).run ⟨[], []⟩ lines).map (·.committed)).getD [] := by
    unfold parseInstruction
    show _ = ((lines.foldlM (readLine botWallet) ⟨[], []⟩).map (·.committed)).getD []
    cases lines.foldlM (readLine botWallet) ⟨[], []⟩ <;> rfl
  rw [hparse, hrun, Calls.result, executed]
  show ((if _ then some _ else none).map _).getD [] = _
  split_ifs
  · exact List.nil_append _
  · rfl

/-! ### What the parser returns -/

/-- The log of a transaction whose lines in between are plain. It is a `Vec`, so its length is a `usize`. -/
structure TransactionLog where
  calls : Calls Bytes Bytes
  wellFormed : validatorLog.WellFormed calls
  plain : calls.EachLine (fun _ => PlainLine) 0
  fits : calls.size < 2 ^ 64

def TransactionLog.lines (log : TransactionLog) : List Bytes := validatorLog.lines 0 log.calls

/-- **Events are those of Pump.fun's own lines**, in the order of the log, and none if an
outermost invocation failed; up to any line, those of the outermost invocations that are closed. -/
theorem log_attribution (log : TransactionLog) (botWallet : Option Pubkey) :
    parseInstruction botWallet log.lines = executed botWallet log.calls.outermost ∧
      ∀ n, parseInstruction botWallet (log.lines.take n) = executed botWallet (log.calls.closed n) := by
  have hlines : log.calls.EachLine Ordinary 0 := log.plain.mono fun _ _ => Or.inl
  have htake := parseInstruction_take botWallet log.wellFormed hlines log.fits
  refine ⟨?_, htake⟩
  have hall := htake log.calls.size
  rwa [Calls.closed_all le_rfl, List.take_of_length_le (validatorLog.length_lines 0).le] at hall

theorem pumpfunProgramText_named : Named pumpfunProgramText := by
  unfold Named
  decide +kernel

def routerText : Bytes := utf8 "Router"

def feesText : Bytes := utf8 "Fees"

theorem routerText_named : Named routerText := by
  unfold Named
  decide +kernel

theorem feesText_named : Named feesText := by
  unfold Named
  decide +kernel

/-- The line of an invocation that succeeds. -/
def successLine (program : Bytes) : Bytes := utf8 "Program " ++ (program ++ utf8 " success")

def failedLine (program : Bytes) : Bytes :=
  utf8 "Program " ++ (program ++ (utf8 " failed:" ++ utf8 " custom program error: 0x1"))

theorem failedLine_closes (program : Bytes) : Closes program false (failedLine program) :=
  ⟨_, rfl, by decide +kernel, by decide +kernel⟩

def loggedBuy : TradeInfo where
  slot := 0
  mint := 7
  solAmount := 1000
  tokenAmount := 25
  isBuy := true
  user := 9
  timestamp := 1700000000
  virtualSolReserves := 30
  virtualTokenReserves := 40
  realSolReserves := 50
  realTokenReserves := 60

def buyLine : Bytes := dataLine (encodeTradeInfo loggedBuy)

theorem buyLine_plain : PlainLine buyLine := ⟨by decide +kernel, by decide +kernel, by decide +kernel⟩

theorem readEvent_buyLine : readEvent none buyLine = some (.userTrade loggedBuy) := by
  have h := readEvent_trade (t := loggedBuy) (by constructor <;> decide) none []
  rwa [List.append_nil] at h

theorem routeLine_plain : PlainLine (logLine (utf8 "Instruction: Route")) :=
  ⟨by decide +kernel, by decide +kernel, by decide +kernel⟩

theorem feesLine_plain : PlainLine (logLine (utf8 "Instruction: GetFees")) :=
  ⟨by decide +kernel, by decide +kernel, by decide +kernel⟩

/-- A router invokes Pump.fun, which logs a trade and invokes another program. In a second
invocation of the router Pump.fun logs a trade and fails, and the router with it. -/
def nestedLog : TransactionLog where
  calls :=
    .call routerText (.line (logLine (utf8 "Instruction: Route"))
      (.call pumpfunProgramText (.line buyLine
        (.call feesText (.line (logLine (utf8 "Instruction: GetFees")) .nil) true (successLine feesText) .nil))
        true (successLine pumpfunProgramText) .nil))
      true (successLine routerText)
      (.call routerText (.call pumpfunProgramText (.line buyLine .nil) false (failedLine pumpfunProgramText) .nil)
        false (failedLine routerText) .nil)
  wellFormed :=
    ⟨routerText_named, rfl,
      ⟨pumpfunProgramText_named, rfl, ⟨feesText_named, rfl, trivial, fun _ => trivial, trivial⟩,
        fun _ => ⟨rfl, trivial⟩, trivial⟩,
      fun _ => ⟨rfl, trivial⟩,
      routerText_named, failedLine_closes _,
      ⟨pumpfunProgramText_named, failedLine_closes _, trivial, fun _ => trivial, trivial⟩,
      fun h => absurd h Bool.false_ne_true, trivial⟩
  plain :=
    ⟨⟨routeLine_plain, ⟨buyLine_plain, ⟨feesLine_plain, trivial⟩, trivial⟩, trivial⟩,
      ⟨⟨buyLine_plain, trivial⟩, trivial⟩, trivial⟩
  fits := show 14 < 2 ^ 64 by decide

/-- The trade is reported up to the line with which the second invocation fails, and nothing from there on. -/
theorem log_attribution_nested :
    parseInstruction none nestedLog.lines = [] ∧
      parseInstruction none (nestedLog.lines.take 13) = [.userTrade loggedBuy] := by
  obtain ⟨hall, htake⟩ := log_attribution nestedLog none
  have hlog : ∀ text, readEvent none (logLine text) = none := readEvent_logLine none
  refine ⟨hall, (htake 13).trans ?_⟩
  simp only [executed, nestedLog, Calls.closed, Calls.size, Calls.eventsIn, eventsOf, hlog, readEvent_buyLine,
    Option.toList, ite_self, if_true, List.flatMap_cons, List.flatMap_nil, List.all_cons, List.all_nil,
    List.nil_append, List.append_nil, Nat.reduceAdd, Nat.reduceSub, Nat.reduceLT, if_false, Bool.and_self]

/-! ### What programs log -/

/-- The log of a transaction whose programs log what they want. -/
structure UntrustedLog where
  calls : Calls Bytes Bytes
  wellFormed : validatorLog.WellFormed calls
  lines_plain : calls.EachLine (fun _ line => PlainLine line ∨ ∃ text, line = logLine text) 0
  fits : calls.size < 2 ^ 64

def UntrustedLog.lines (log : UntrustedLog) : List Bytes := validatorLog.lines 0 log.calls

/-- No program's text is taken for the beginning of an invocation the stack has a place for. -/
def UntrustedLog.Unforged (log : UntrustedLog) : Prop :=
  log.calls.EachLine (fun opened line => ∀ text, line = logLine text → ¬Forges opened text) 0

/-- The same log but for the texts of its programs. -/
inductive Retold : Calls Bytes Bytes → Calls Bytes Bytes → Prop
  | nil : Retold .nil .nil
  | line {rest rest' : Calls Bytes Bytes} (line : Bytes) (h : Retold rest rest') :
    Retold (.line line rest) (.line line rest')
  | log {rest rest' : Calls Bytes Bytes} (text text' : Bytes) (h : Retold rest rest') :
    Retold (.line (logLine text) rest) (.line (logLine text') rest')
  | call {body body' rest rest' : Calls Bytes Bytes} (program : Bytes) (ok : Bool) (closing : Bytes)
    (hbody : Retold body body') (h : Retold rest rest') :
    Retold (.call program body ok closing rest) (.call program body' ok closing rest')

theorem Retold.eventsIn {calls calls' : Calls Bytes Bytes} (h : Retold calls calls') (current : Bytes) :
    calls.eventsIn (eventsOf botWallet) current = calls'.eventsIn (eventsOf botWallet) current := by
  induction h generalizing current with
  | nil => rfl
  | line line h ih => exact congrArg (_ ++ ·) (ih current)
  | log text text' h ih =>
    have hnone : ∀ text, eventsOf botWallet (logLine text) current = [] := fun text => by
      rw [eventsOf, readEvent_logLine, Option.toList_none, ite_self]
    rw [Calls.eventsIn, Calls.eventsIn, hnone, hnone, ih]
  | call program ok closing hbody h ihbody ih => rw [Calls.eventsIn, Calls.eventsIn, ihbody, ih]

theorem Retold.executed {calls calls' : Calls Bytes Bytes} (h : Retold calls calls') :
    executed botWallet calls.outermost = executed botWallet calls'.outermost := by
  have hboth : calls.outermost.all (·.ok) = calls'.outermost.all (·.ok) ∧
      (calls.outermost.flatMap fun c => c.body.eventsIn (eventsOf botWallet) c.program) =
        calls'.outermost.flatMap fun c => c.body.eventsIn (eventsOf botWallet) c.program := by
    induction h with
    | nil => exact ⟨rfl, rfl⟩
    | line line h ih => exact ih
    | log text text' h ih => exact ih
    | call program ok closing hbody h ihbody ih =>
      simp only [Calls.outermost, List.all_cons, List.flatMap_cons, ih.1, ih.2, hbody.eventsIn, and_self]
  rw [Pumpfun.executed, Pumpfun.executed, hboth.1, hboth.2]

theorem UntrustedLog.parse {log : UntrustedLog} (h : log.Unforged) :
    parseInstruction botWallet log.lines = executed botWallet log.calls.outermost := by
  have hlines : log.calls.EachLine Ordinary 0 := (log.lines_plain.and h).mono fun opened line hline =>
    hline.1.imp id fun ⟨text, htext⟩ => ⟨text, htext, hline.2 text htext⟩
  have hall := parseInstruction_take botWallet log.wellFormed hlines log.fits log.calls.size
  rwa [Calls.closed_all le_rfl, List.take_of_length_le (validatorLog.length_lines 0).le] at hall

/-- **Texts that forge no invocation have no influence** on the events. -/
theorem texts_without_influence (botWallet : Option Pubkey) (log log' : UntrustedLog)
    (hretold : Retold log.calls log'.calls) (hlog : log.Unforged) (hlog' : log'.Unforged) :
    parseInstruction botWallet log.lines = parseInstruction botWallet log'.lines := by
  rw [log.parse hlog, log'.parse hlog']
  exact hretold.executed

/-! ### A text that forges an invocation -/

/-- A router has Pump.fun trade and then logs a text. -/
def routedTrade (text : Bytes) : UntrustedLog where
  calls := .call routerText
    (.call pumpfunProgramText (.line buyLine .nil) true (successLine pumpfunProgramText) (.line (logLine text) .nil))
    true (successLine routerText) .nil
  wellFormed := ⟨routerText_named, rfl, ⟨pumpfunProgramText_named, rfl, trivial, fun _ => trivial, trivial⟩,
    fun _ => ⟨rfl, trivial⟩, trivial⟩
  lines_plain := ⟨⟨⟨.inl buyLine_plain, trivial⟩, .inr ⟨text, rfl⟩, trivial⟩, trivial⟩
  fits := show 6 < 2 ^ 64 by decide

theorem routedTrade_retold (text text' : Bytes) : Retold (routedTrade text).calls (routedTrade text').calls :=
  .call _ _ _ (.call _ _ _ (.line _ .nil) (.log _ _ .nil)) .nil

theorem routedTrade_unforged {text : Bytes} (h : forgedDepth text = none) : (routedTrade text).Unforged := by
  refine ⟨⟨⟨fun text' heq => ?_, trivial⟩, fun text' heq => ?_, trivial⟩, trivial⟩
  · have hbyte := congrArg (·[8]?) heq
    exact absurd hbyte (ne_of_beq_false rfl)
  · rw [← List.append_cancel_left heq]
    rintro ⟨depth, hdepth, -⟩
    rw [h] at hdepth
    cases hdepth

theorem texts_without_influence_trade :
    parseInstruction none (routedTrade (utf8 "Instruction: Buy")).lines =
      parseInstruction none (routedTrade (utf8 "Instruction: Sell")).lines :=
  texts_without_influence none (routedTrade (utf8 "Instruction: Buy")) (routedTrade (utf8 "Instruction: Sell"))
    (routedTrade_retold _ _) (routedTrade_unforged (by decide)) (routedTrade_unforged (by decide))

/-- A text of the router that looks like the beginning of an invocation takes Pump.fun's trade with it. -/
theorem text_drops_trade :
    ¬ ∀ (botWallet : Option Pubkey) (log log' : UntrustedLog), Retold log.calls log'.calls →
      parseInstruction botWallet log.lines = parseInstruction botWallet log'.lines := by
  intro h
  have hsame := h none (routedTrade (utf8 "x")) (routedTrade (utf8 "x invoke [1]")) (routedTrade_retold _ _)
  have hlength := congrArg List.length hsame
  revert hlength
  decide +kernel

end Pumpfun
end ShredSdk
