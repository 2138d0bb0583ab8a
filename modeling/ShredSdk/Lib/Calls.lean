/-
# Logs of nested calls

A log of calls: a line opens a call, a line closes it, with success or not, and between
them stand lines and the calls it makes. A reader keeps the open calls on a stack, each
with the events of its lines. A call that succeeds hands its events to its caller, one
that fails takes them with it, and reading stops where an outermost call fails.

What a log looks like is `Grammar`, what a reader has to do with each kind of line is
`LineReader`. On a well-formed log, read in full or up to any line, it returns the events of
the outermost calls that are closed, or stops (`LineReader.run_take`).

Key definitions: `Calls`, `Grammar`, `LineReader`, `Calls.eventsIn`, `Calls.closed`, `Calls.result`.
Key theorems: `LineReader.run_inside`, `LineReader.run_take`.
-/
import Mathlib.Data.List.TakeDrop

namespace ShredSdk

/-- Lines and calls, one after another. -/
inductive Calls (Program Line : Type) where
  | nil
  | line (text : Line) (rest : Calls Program Line)
  | call (program : Program) (body : Calls Program Line) (ok : Bool) (closing : Line) (rest : Calls Program Line)

namespace Calls

variable {Program Line Event : Type}

/-! ### Logs -/

/-- The calls that are made succeed, not regarding the calls these make. -/
def EachOk : Calls Program Line → Prop
  | nil => True
  | line _ rest => EachOk rest
  | call _ _ ok _ rest => ok = true ∧ EachOk rest

/-- Every line has a property, which may ask how many calls are open. -/
def EachLine (P : ℕ → Line → Prop) : ℕ → Calls Program Line → Prop
  | _, nil => True
  | depth, line text rest => P depth text ∧ EachLine P depth rest
  | depth, call _ body _ _ rest => EachLine P (depth + 1) body ∧ EachLine P depth rest

/-- The number of lines. -/
def size : Calls Program Line → ℕ
  | nil => 0
  | line _ rest => size rest + 1
  | call _ body _ _ rest => size body + size rest + 2

/-- How calls are written. -/
structure Grammar (Program Line : Type) where
  /-- The line that opens a call, with its depth. -/
  opening : Program → ℕ → Line
  /-- The lines that close it. -/
  closes : Program → Bool → Line → Prop
  /-- What can be the name of a program. -/
  named : Program → Prop

section

variable (G : Grammar Program Line)

/-- The lines of a log, with that many calls open before it. -/
def Grammar.lines : ℕ → Calls Program Line → List Line
  | _, .nil => []
  | depth, .line text rest => text :: Grammar.lines depth rest
  | depth, .call program body _ closing rest =>
    G.opening program (depth + 1) :: (Grammar.lines (depth + 1) body ++ closing :: Grammar.lines depth rest)

/-- A call fails if one it makes does. -/
def Grammar.WellFormed : Calls Program Line → Prop
  | .nil => True
  | .line _ rest => Grammar.WellFormed rest
  | .call program body ok closing rest =>
    G.named program ∧ G.closes program ok closing ∧ Grammar.WellFormed body ∧ (ok = true → body.EachOk) ∧
      Grammar.WellFormed rest

end

section

variable (events : Line → Program → List Event)

/-- The events of the lines, each with the call it is in. -/
def eventsIn (current : Program) : Calls Program Line → List Event
  | nil => []
  | line text rest => events text current ++ eventsIn current rest
  | call program body _ _ rest => eventsIn program body ++ eventsIn current rest

/-- The events that come to the caller. -/
def kept (current : Program) : Calls Program Line → List Event
  | nil => []
  | line text rest => events text current ++ kept current rest
  | call program body ok _ rest => (if ok then kept program body else []) ++ kept current rest

/-- An outermost call. -/
structure Outer (Program Line : Type) where
  program : Program
  body : Calls Program Line
  ok : Bool

/-- The outermost calls that the first `n` lines close. -/
def closed : ℕ → Calls Program Line → List (Outer Program Line)
  | _, nil => []
  | n, line _ rest => closed (n - 1) rest
  | n, call program body ok _ rest =>
    if n < size body + 2 then [] else ⟨program, body, ok⟩ :: closed (n - (size body + 2)) rest

/-- All outermost calls. -/
def outermost : Calls Program Line → List (Outer Program Line)
  | nil => []
  | line _ rest => outermost rest
  | call program body ok _ rest => ⟨program, body, ok⟩ :: outermost rest

/-- The events of outermost calls, unless one of them failed. -/
def result (outer : List (Outer Program Line)) : Option (List Event) :=
  if outer.all (·.ok) then some (outer.flatMap fun c => eventsIn events c.program c.body) else none

end

/-! ### Readers -/

/-- An open call with the events it has so far. -/
structure Frame (Program Event : Type) where
  program : Program
  events : List Event

/-- The open calls, the innermost first, and the events of the outermost ones that are closed. -/
structure State (Program Event : Type) where
  stack : List (Frame Program Event)
  committed : List Event

/-- The innermost call gets events. -/
def State.emit (s : State Program Event) (events : Program → List Event) : State Program Event :=
  match s.stack with
  | [] => s
  | frame :: stack => { s with stack := { frame with events := frame.events ++ events frame.program } :: stack }

/-- The innermost call is closed; nothing is left to read if an outermost one fails. -/
def State.close (s : State Program Event) (ok : Bool) : Option (State Program Event) :=
  match s.stack, ok with
  | [], _ => some s
  | [frame], true => some ⟨[], s.committed ++ frame.events⟩
  | [_], false => none
  | frame :: caller :: stack, true =>
    some { s with stack := { caller with events := caller.events ++ frame.events } :: stack }
  | _ :: caller :: stack, false => some { s with stack := caller :: stack }

/-- A program that reads logs a line at a time. -/
structure LineReader (G : Grammar Program Line) (Event : Type) where
  step : State Program Event → Line → Option (State Program Event)
  /-- The lines that only make events, with that many calls open. -/
  ordinary : ℕ → Line → Prop
  events : Line → Program → List Event
  /-- How many calls can be open. -/
  deepest : ℕ
  step_opening : ∀ {s : State Program Event} {p : Program}, G.named p → s.stack.length < deepest →
    step s (G.opening p (s.stack.length + 1)) = some { s with stack := ⟨p, []⟩ :: s.stack }
  step_closing : ∀ {s : State Program Event} {frame : Frame Program Event} {stack : List (Frame Program Event)}
    {ok : Bool} {t : Line}, s.stack = frame :: stack → G.named frame.program → G.closes frame.program ok t →
    step s t = s.close ok
  step_ordinary : ∀ {s : State Program Event} {t : Line}, (∀ frame ∈ s.stack, G.named frame.program) →
    ordinary s.stack.length t → step s t = some (s.emit (events t))

variable {G : Grammar Program Line} {calls : Calls Program Line} {depth n : ℕ} {frame : Frame Program Event}
  {stack : List (Frame Program Event)} {acc : List Event}

theorem Grammar.length_lines (depth : ℕ) : (G.lines depth calls).length = calls.size := by
  induction calls generalizing depth with
  | nil => rfl
  | line text rest ih => exact congrArg (· + 1) (ih depth)
  | call program body ok closing rest ihbody ihrest =>
    rw [Grammar.lines, List.length_cons, List.length_append, List.length_cons, ihbody, ihrest, size]
    omega

theorem EachLine.and {P Q : ℕ → Line → Prop} (hP : calls.EachLine P depth) (hQ : calls.EachLine Q depth) :
    calls.EachLine (fun depth text => P depth text ∧ Q depth text) depth := by
  induction calls generalizing depth with
  | nil => trivial
  | line text rest ih => exact ⟨⟨hP.1, hQ.1⟩, ih hP.2 hQ.2⟩
  | call program body ok closing rest ihbody ihrest => exact ⟨ihbody hP.1 hQ.1, ihrest hP.2 hQ.2⟩

theorem EachLine.mono {P Q : ℕ → Line → Prop} (h : ∀ depth text, P depth text → Q depth text)
    (hlines : calls.EachLine P depth) : calls.EachLine Q depth := by
  induction calls generalizing depth with
  | nil => trivial
  | line text rest ih => exact ⟨h depth text hlines.1, ih hlines.2⟩
  | call program body ok closing rest ihbody ihrest => exact ⟨ihbody hlines.1, ihrest hlines.2⟩

/-- Where every call succeeds nothing is lost. -/
theorem kept_eq (events : Line → Program → List Event) (h : G.WellFormed calls) (hok : calls.EachOk)
    (current : Program) : kept events current calls = eventsIn events current calls := by
  induction calls generalizing current with
  | nil => rfl
  | line text rest ih => exact congrArg (_ ++ ·) (ih h hok current)
  | call program body ok closing rest ihbody ihrest =>
    obtain ⟨-, -, hbody, heach, hrest⟩ := h
    obtain ⟨rfl, hokRest⟩ := hok
    rw [kept, eventsIn, if_pos rfl, ihbody hbody (heach rfl), ihrest hrest hokRest]

theorem closed_all (h : calls.size ≤ n) : calls.closed n = calls.outermost := by
  induction calls generalizing n with
  | nil => rfl
  | line text rest ih =>
    rw [size] at h
    exact ih (by omega)
  | call program body ok closing rest ihbody ihrest =>
    rw [size] at h
    rw [closed, if_neg (by omega), ihrest (by omega), outermost]

namespace LineReader

variable {R : LineReader G Event} {s : State Program Event}

def run (R : LineReader G Event) (s : State Program Event) (lines : List Line) : Option (State Program Event) :=
  lines.foldlM R.step s

theorem run_cons {t : Line} {lines : List Line} : R.run s (t :: lines) = (R.step s t).bind (R.run · lines) := rfl

theorem run_append {lines lines' : List Line} : R.run s (lines ++ lines') = (R.run s lines).bind (R.run · lines') :=
  List.foldlM_append

theorem forall_named (hframe : G.named frame.program) (hstack : ∀ f ∈ stack, G.named f.program) :
    ∀ f ∈ frame :: stack, G.named f.program := by
  intro f hf
  rcases List.mem_cons.mp hf with rfl | hf
  · exact hframe
  · exact hstack f hf

/-! ### Inside a call -/

/-- **Inside a call** the reader gathers what is kept. -/
theorem run_inside (h : G.WellFormed calls) (hlines : calls.EachLine R.ordinary (stack.length + 1))
    (hdepth : stack.length + 1 + calls.size ≤ R.deepest) (hframe : G.named frame.program)
    (hstack : ∀ f ∈ stack, G.named f.program) :
    R.run ⟨frame :: stack, acc⟩ (G.lines (stack.length + 1) calls) =
      some ⟨{ frame with events := frame.events ++ kept R.events frame.program calls } :: stack, acc⟩ := by
  induction calls generalizing frame stack with
  | nil =>
    rw [kept, List.append_nil]
    rfl
  | line text rest ih =>
    have hstep := R.step_ordinary (s := ⟨frame :: stack, acc⟩) (forall_named hframe hstack) hlines.1
    rw [size] at hdepth
    rw [Grammar.lines, run_cons, hstep, Option.bind_some]
    refine (@ih { frame with events := frame.events ++ R.events text frame.program } stack h hlines.2 (by omega)
      hframe hstack).trans ?_
    rw [kept, List.append_assoc]
  | call program body ok closing rest ihbody ihrest =>
    obtain ⟨hprogram, hcloses, hbody, -, hrest⟩ := h
    rw [size] at hdepth
    have hopen := R.step_opening (s := ⟨frame :: stack, acc⟩) hprogram (by rw [List.length_cons]; omega)
    have hin := @ihbody ⟨program, []⟩ (frame :: stack) hbody hlines.1
      (by rw [List.length_cons]; omega) hprogram (forall_named hframe hstack)
    have hclose := R.step_closing (s := ⟨⟨program, [] ++ kept R.events program body⟩ :: frame :: stack, acc⟩) rfl
      hprogram hcloses
    rw [Grammar.lines, run_cons]
    refine (congrArg (Option.bind · _) hopen).trans ?_
    rw [Option.bind_some, run_append]
    refine (congrArg (Option.bind · _) hin).trans ?_
    rw [Option.bind_some, run_cons, hclose]
    cases ok with
    | true =>
      refine (@ihrest { frame with events := frame.events ++ kept R.events program body } stack hrest hlines.2
        (by omega) hframe hstack).trans ?_
      rw [kept, if_pos rfl, List.append_assoc]
    | false =>
      refine (ihrest hrest hlines.2 (by omega) hframe hstack).trans ?_
      rw [kept, if_neg Bool.false_ne_true, List.nil_append]

/-- Inside a call nothing is committed, wherever reading ends. -/
theorem run_inside_take (h : G.WellFormed calls) (hlines : calls.EachLine R.ordinary (stack.length + 1))
    (hdepth : stack.length + 1 + calls.size ≤ R.deepest) (hframe : G.named frame.program)
    (hstack : ∀ f ∈ stack, G.named f.program) (n : ℕ) :
    (R.run ⟨frame :: stack, acc⟩ ((G.lines (stack.length + 1) calls).take n)).map (·.committed) = some acc := by
  induction calls generalizing frame stack n with
  | nil =>
    rw [Grammar.lines, List.take_nil]
    rfl
  | line text rest ih =>
    cases n with
    | zero => rfl
    | succ n =>
      have hstep := R.step_ordinary (s := ⟨frame :: stack, acc⟩) (forall_named hframe hstack) hlines.1
      rw [size] at hdepth
      rw [Grammar.lines, List.take_succ_cons, run_cons, hstep, Option.bind_some]
      exact @ih { frame with events := frame.events ++ R.events text frame.program } stack h hlines.2 (by omega) hframe
        hstack n
  | call program body ok closing rest ihbody ihrest =>
    obtain ⟨hprogram, hcloses, hbody, -, hrest⟩ := h
    rw [size] at hdepth
    cases n with
    | zero => rfl
    | succ n =>
      have hopen := R.step_opening (s := ⟨frame :: stack, acc⟩) hprogram (by rw [List.length_cons]; omega)
      have hopened : ∀ f : State Program Event → Option (State Program Event),
          (R.step ⟨frame :: stack, acc⟩ (G.opening program (stack.length + 1 + 1))).bind f =
            f ⟨⟨program, []⟩ :: frame :: stack, acc⟩ := fun f => congrArg (Option.bind · f) hopen
      rw [Grammar.lines, List.take_succ_cons, run_cons, hopened]
      rcases Nat.lt_or_ge body.size n with hn | hn
      · have hin : R.run ⟨⟨program, []⟩ :: frame :: stack, acc⟩ (G.lines (stack.length + 1 + 1) body) =
            some ⟨⟨program, [] ++ kept R.events program body⟩ :: frame :: stack, acc⟩ :=
          run_inside hbody hlines.1 (by rw [List.length_cons]; omega) hprogram (forall_named hframe hstack)
        have hclose := R.step_closing (s := ⟨⟨program, [] ++ kept R.events program body⟩ :: frame :: stack, acc⟩) rfl
          hprogram hcloses
        have htake : (G.lines (stack.length + 2) body ++ closing :: G.lines (stack.length + 1) rest).take n =
            G.lines (stack.length + 2) body ++ closing :: (G.lines (stack.length + 1) rest).take (n - body.size - 1) := by
          obtain ⟨k, rfl⟩ : ∃ k, n = body.size + (k + 1) := ⟨n - body.size - 1, by omega⟩
          rw [List.take_append, G.length_lines, List.take_of_length_le (by rw [G.length_lines]; omega),
            show body.size + (k + 1) - body.size = k + 1 by omega, List.take_succ_cons, Nat.add_sub_cancel]
        have hended : ∀ f : State Program Event → Option (State Program Event),
            (R.run ⟨⟨program, []⟩ :: frame :: stack, acc⟩ (G.lines (stack.length + 1 + 1) body)).bind f =
              f ⟨⟨program, [] ++ kept R.events program body⟩ :: frame :: stack, acc⟩ :=
          fun f => congrArg (Option.bind · f) hin
        rw [htake, run_append, hended, run_cons, hclose]
        cases ok with
        | true =>
          exact @ihrest { frame with events := frame.events ++ kept R.events program body } stack hrest hlines.2
            (by omega) hframe hstack _
        | false => exact ihrest hrest hlines.2 (by omega) hframe hstack _
      · rw [List.take_append_of_le_length (by rw [G.length_lines]; exact hn)]
        exact @ihbody ⟨program, []⟩ (frame :: stack) hbody hlines.1 (by rw [List.length_cons]; omega) hprogram
          (forall_named hframe hstack) n

/-! ### Outermost calls -/

theorem result_cons (events : Line → Program → List Event) (call : Outer Program Line)
    (outer : List (Outer Program Line)) :
    result events (call :: outer) =
      if call.ok then (result events outer).map (eventsIn events call.program call.body ++ ·) else none := by
  unfold result
  cases hok : call.ok with
  | false => simp only [List.all_cons, hok, Bool.false_and, Bool.false_eq_true, if_false]
  | true =>
    simp only [List.all_cons, hok, Bool.true_and, List.flatMap_cons, if_true]
    split_ifs <;> rfl

/-- **Read up to any line**, a log yields the events of the outermost calls that are closed. -/
theorem run_take (h : G.WellFormed calls) (hlines : calls.EachLine R.ordinary 0) (hdepth : calls.size ≤ R.deepest)
    (n : ℕ) :
    (R.run ⟨[], acc⟩ ((G.lines 0 calls).take n)).map (·.committed) =
      (result R.events (calls.closed n)).map (acc ++ ·) := by
  induction calls generalizing acc n with
  | nil =>
    rw [Grammar.lines, List.take_nil]
    exact congrArg some (List.append_nil acc).symm
  | line text rest ih =>
    rw [size] at hdepth
    cases n with
    | zero => exact ih h hlines.2 (by omega) 0
    | succ n =>
      have hstep := R.step_ordinary (s := ⟨[], acc⟩) (fun _ h => by cases h) hlines.1
      rw [Grammar.lines, List.take_succ_cons, run_cons, hstep, Option.bind_some]
      exact ih h hlines.2 (by omega) n
  | call program body ok closing rest ihbody ihrest =>
    obtain ⟨hprogram, hcloses, hbody, heach, hrest⟩ := h
    rw [size] at hdepth
    have hnil : ∀ f ∈ ([] : List (Frame Program Event)), G.named f.program := fun _ h => by cases h
    have hin (n : ℕ) : (R.run ⟨[⟨program, []⟩], acc⟩ ((G.lines (0 + 1) body).take n)).map (·.committed) = some acc :=
      run_inside_take hbody hlines.1 (by rw [List.length_nil]; omega) hprogram hnil n
    have hopen := R.step_opening (s := ⟨[], acc⟩) hprogram (by rw [List.length_nil]; omega)
    have hopened : ∀ f : State Program Event → Option (State Program Event),
        (R.step ⟨[], acc⟩ (G.opening program (0 + 1))).bind f = f ⟨[⟨program, []⟩], acc⟩ :=
      fun f => congrArg (Option.bind · f) hopen
    rcases Nat.lt_or_ge n (body.size + 2) with hn | hn
    · rw [closed, if_pos hn, show result R.events [] = some [] from rfl, Option.map_some, List.append_nil]
      cases n with
      | zero => rfl
      | succ n =>
        rw [Grammar.lines, List.take_succ_cons, run_cons, hopened,
          List.take_append_of_le_length (by rw [G.length_lines]; omega)]
        exact hin n
    · obtain ⟨k, rfl⟩ : ∃ k, n = body.size + 2 + k := ⟨n - (body.size + 2), by omega⟩
      have hbodyRun : R.run ⟨[⟨program, []⟩], acc⟩ (G.lines (0 + 1) body) =
          some ⟨[⟨program, [] ++ kept R.events program body⟩], acc⟩ :=
        run_inside hbody hlines.1 (by rw [List.length_nil]; omega) hprogram hnil
      have hclose := R.step_closing (s := ⟨[⟨program, [] ++ kept R.events program body⟩], acc⟩) rfl hprogram hcloses
      have hended : ∀ f : State Program Event → Option (State Program Event),
          (R.run ⟨[⟨program, []⟩], acc⟩ (G.lines (0 + 1) body)).bind f =
            f ⟨[⟨program, [] ++ kept R.events program body⟩], acc⟩ := fun f => congrArg (Option.bind · f) hbodyRun
      have htake : (G.lines 0 (call program body ok closing rest)).take (body.size + 2 + k) =
          G.opening program (0 + 1) :: (G.lines (0 + 1) body ++ closing :: (G.lines 0 rest).take k) := by
        rw [Grammar.lines, show body.size + 2 + k = body.size + (k + 1) + 1 by omega, List.take_succ_cons,
          List.take_append, G.length_lines, List.take_of_length_le (by rw [G.length_lines]; omega),
          Nat.add_sub_cancel_left, List.take_succ_cons]
      rw [htake, run_cons, hopened, run_append, hended, run_cons, hclose, closed, if_neg (by omega),
        Nat.add_sub_cancel_left, result_cons]
      cases ok with
      | true =>
        refine (ihrest hrest hlines.2 (by omega) k).trans ?_
        rw [List.nil_append, kept_eq R.events hbody (heach rfl), if_pos rfl, Option.map_map]
        exact congrArg (Option.map · _) (funext fun events => List.append_assoc _ _ _)
      | false => rfl

end LineReader
end Calls
end ShredSdk
