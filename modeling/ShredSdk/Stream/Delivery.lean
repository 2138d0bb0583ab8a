/-
# Events on their way to the subscriber

A receive task hands its events one by one to a sink (`src/shredstream/client.rs`): a
bounded queue, which another task empties, or a callback. An event that a full queue
refuses is dropped, and one counter counts the drops of all subscriptions. The push and
the count are two steps, between which any other task may run.

Whatever the order of the tasks' steps, each subscriber gets events of its own in their
order, none twice, and the counter is the number of those that are missing, but for drops
that are still to be counted.

Key definitions: `EventSink`, `Subscription.advance`, `Subscription.pop`, `Subscriptions.run`.
Key theorems: `Subscription.Accounted.advance`, `delivery_accounted`, `delivery_whole`.
-/
import ShredSdk.Lib.BoundedQueue
import Mathlib.Algebra.Order.BigOperators.Group.Finset

namespace ShredSdk
namespace Stream

/-! ### Sinks and subscriptions -/

inductive EventSink (α : Type) where
  | queue (queue : BoundedQueue α)
  | callback

/-- The sink of a new subscription: a queue of this capacity, or a callback. -/
def EventSink.new {α : Type} : Option ℕ → EventSink α
  | some eventQueueCapacity => .queue (.new (max eventQueueCapacity 1))
  | none => .callback

/-- A receive task with the events it has still to deliver, its sink, and what the
subscriber has got. -/
structure Subscription (α : Type) where
  todo : List α
  sink : EventSink α
  received : List α
  /-- A push has failed and is still to be counted. -/
  refused : Bool

namespace Subscription

variable {α : Type}

def start (events : List α) (capacity : Option ℕ) : Subscription α := ⟨events, .new capacity, [], false⟩

/-- What waits in the queue. -/
def waiting (s : Subscription α) : List α :=
  match s.sink with
  | .queue queue => queue.items
  | .callback => []

/-- The next step of `deliver`, and what it adds to the counter. -/
def advance (s : Subscription α) : Subscription α × ℕ :=
  if s.refused then ({ s with refused := false }, 1)
  else
    match s.todo with
    | [] => (s, 0)
    | event :: todo =>
      match s.sink with
      | .queue queue =>
        match queue.push event with
        | some queue => ({ s with todo := todo, sink := .queue queue }, 0)
        | none => ({ s with todo := todo, refused := true }, 0)
      | .callback => ({ s with todo := todo, received := s.received ++ [event] }, 0)

/-- The subscriber takes an event, if one is there. -/
def pop (s : Subscription α) : Subscription α :=
  match s.sink with
  | .queue queue =>
    match queue.pop with
    | (some event, queue) => { s with sink := .queue queue, received := s.received ++ [event] }
    | (none, _) => s
  | .callback => s

/-- Drops that are not in the counter yet. -/
def uncounted (s : Subscription α) : ℕ := if s.refused then 1 else 0

end Subscription

/-- The subscriptions of all clients, and `DROPPED_EVENTS`. -/
structure Subscriptions (ι : Type) (Event : ι → Type) where
  subscription : ∀ i, Subscription (Event i)
  droppedEvents : ℕ

/-- Which task runs next. -/
inductive Turn (ι : Type) where
  | receive (i : ι)
  | subscriber (i : ι)

section

variable {ι : Type} [DecidableEq ι] {Event : ι → Type}

namespace Subscriptions

def start (events : ∀ i, List (Event i)) (capacities : ι → Option ℕ) : Subscriptions ι Event where
  subscription i := .start (events i) (capacities i)
  droppedEvents := 0

/-- The counter is one of 64 bits. -/
def step (s : Subscriptions ι Event) : Turn ι → Subscriptions ι Event
  | .receive i =>
    let next := (s.subscription i).advance
    ⟨Function.update s.subscription i next.1, (s.droppedEvents + next.2) % 2 ^ 64⟩
  | .subscriber i => { s with subscription := Function.update s.subscription i (s.subscription i).pop }

def run (s : Subscriptions ι Event) (turns : List (Turn ι)) : Subscriptions ι Event := turns.foldl step s

end Subscriptions

/-! ### What one subscription accounts for -/

namespace Subscription

variable {α : Type} {events : List α} {s : Subscription α} {lost : ℕ}

/-- Of the events that were offered so far, all but `lost` have arrived or wait. -/
structure Accounted (events : List α) (s : Subscription α) (lost : ℕ) : Prop where
  offered : ∃ offered, events = offered ++ s.todo ∧ Handed offered s.received s.waiting lost
  callback : s.sink = .callback → lost = 0

theorem Accounted.start (events : List α) (capacity : Option ℕ) :
    Accounted events (Subscription.start events capacity) 0 := by
  cases capacity with
  | none => exact ⟨⟨[], rfl, Handed.nil⟩, fun _ => rfl⟩
  | some capacity => exact ⟨⟨[], rfl, Handed.nil⟩, fun _ => rfl⟩

/-- A receive task loses an event exactly if it is about to count it. -/
theorem Accounted.advance (h : Accounted events s lost) : ∃ lost', Accounted events s.advance.1 lost' ∧
    s.advance.2 + s.advance.1.uncounted + lost = s.uncounted + lost' := by
  obtain ⟨⟨offered, hevents, hhanded⟩, hcallback⟩ := h
  obtain ⟨todo, sink, received, refused⟩ := s
  cases refused with
  | true => exact ⟨lost, ⟨⟨offered, hevents, hhanded⟩, hcallback⟩, by simp [Subscription.advance, uncounted]⟩
  | false =>
    cases todo with
    | nil => exact ⟨lost, ⟨⟨offered, hevents, hhanded⟩, hcallback⟩, by simp [Subscription.advance, uncounted]⟩
    | cons event todo =>
      have hnext : events = (offered ++ [event]) ++ todo := by rw [hevents, List.append_assoc, List.singleton_append]
      cases sink with
      | callback =>
        refine ⟨lost, ⟨⟨offered ++ [event], hnext, ?_⟩, fun _ => hcallback rfl⟩, by simp [Subscription.advance, uncounted]⟩
        have htaken := (hhanded.accept event).take
        exact htaken
      | queue queue =>
        cases hpush : queue.push event with
        | some queue' =>
          have hadvance : (Subscription.mk (event :: todo) (.queue queue) received false).advance =
              (⟨todo, .queue queue', received, false⟩, 0) := by simp [Subscription.advance, hpush]
          rw [hadvance]
          refine ⟨lost, ⟨⟨offered ++ [event], hnext, ?_⟩, fun h => nomatch h⟩, by simp [uncounted]⟩
          show Handed _ received queue'.items lost
          rw [(BoundedQueue.push_some hpush).2]
          exact hhanded.accept event
        | none =>
          have hadvance : (Subscription.mk (event :: todo) (.queue queue) received false).advance =
              (⟨todo, .queue queue, received, true⟩, 0) := by simp [Subscription.advance, hpush]
          rw [hadvance]
          exact ⟨lost + 1, ⟨⟨offered ++ [event], hnext, hhanded.refuse event⟩, fun h => nomatch h⟩, by
            simp [uncounted, Nat.add_comm]⟩

theorem Accounted.pop (h : Accounted events s lost) :
    Accounted events s.pop lost ∧ s.pop.uncounted = s.uncounted := by
  obtain ⟨⟨offered, hevents, hhanded⟩, hcallback⟩ := h
  obtain ⟨todo, sink, received, refused⟩ := s
  cases sink with
  | callback => exact ⟨⟨⟨offered, hevents, hhanded⟩, hcallback⟩, rfl⟩
  | queue queue =>
    obtain ⟨capacity, items, fits⟩ := queue
    cases items with
    | nil => exact ⟨⟨⟨offered, hevents, hhanded⟩, hcallback⟩, rfl⟩
    | cons event items => exact ⟨⟨⟨offered, hevents, hhanded.take⟩, fun h => nomatch h⟩, rfl⟩

end Subscription

/-! ### All subscriptions -/

section

variable [Fintype ι] {events : ∀ i, List (Event i)} {s : Subscriptions ι Event}

/-- Every subscription accounts for its events, and the counter for all that were lost. -/
structure Subscriptions.Accounted (events : ∀ i, List (Event i)) (s : Subscriptions ι Event) (lost : ι → ℕ) : Prop where
  each : ∀ i, (s.subscription i).Accounted (events i) (lost i)
  counted : ∃ counted, s.droppedEvents = counted % 2 ^ 64 ∧
    counted + ∑ i, (s.subscription i).uncounted = ∑ i, lost i

omit [Fintype ι] in
theorem uncounted_update (s : ∀ i, Subscription (Event i)) (i j : ι) (next : Subscription (Event i)) :
    (Function.update s i next j).uncounted = Function.update (fun j => (s j).uncounted) i next.uncounted j := by
  by_cases h : j = i
  · subst h
    simp
  · simp [h]

/-- Whichever task takes the next step. -/
theorem Subscriptions.Accounted.step {lost : ι → ℕ} (h : s.Accounted events lost) (turn : Turn ι) :
    ∃ lost', (s.step turn).Accounted events lost' := by
  cases turn with
  | receive i =>
    obtain ⟨lost', hnext, hsum⟩ := (h.each i).advance
    refine ⟨Function.update lost i lost', fun j => ?_, ?_⟩
    · show (Function.update s.subscription i _ j).Accounted _ _
      by_cases hj : j = i
      · subst hj
        rw [Function.update_self, Function.update_self]
        exact hnext
      · rw [Function.update_of_ne hj, Function.update_of_ne hj]
        exact h.each j
    · obtain ⟨counted, hdropped, hcounted⟩ := h.counted
      have huncounted := sum_update (fun j => (s.subscription j).uncounted) i (s.subscription i).advance.1.uncounted
      have hlost := sum_update lost i lost'
      refine ⟨counted + (s.subscription i).advance.2, ?_, ?_⟩
      · show (s.droppedEvents + (s.subscription i).advance.2) % 2 ^ 64 = _
        rw [hdropped, Nat.mod_add_mod]
      · show _ + ∑ j, (Function.update s.subscription i (s.subscription i).advance.1 j).uncounted = _
        simp only [uncounted_update]
        beta_reduce at huncounted
        -- what leaves the one sum enters the other, or the counter
        omega
  | subscriber i =>
    obtain ⟨hnext, hsame⟩ := (h.each i).pop
    refine ⟨lost, fun j => ?_, ?_⟩
    · show (Function.update s.subscription i _ j).Accounted _ _
      by_cases hj : j = i
      · subst hj
        rw [Function.update_self]
        exact hnext
      · rw [Function.update_of_ne hj]
        exact h.each j
    · obtain ⟨counted, hdropped, hcounted⟩ := h.counted
      refine ⟨counted, hdropped, ?_⟩
      show _ + ∑ j, (Function.update s.subscription i (s.subscription i).pop j).uncounted = _
      simp only [uncounted_update, hsame, Function.update_eq_self]
      exact hcounted

theorem Subscriptions.Accounted.run (turns : List (Turn ι)) : ∀ {s : Subscriptions ι Event} {lost : ι → ℕ},
    s.Accounted events lost → ∃ lost', (s.run turns).Accounted events lost' := by
  induction turns with
  | nil => exact fun {s lost} h => ⟨lost, h⟩
  | cons turn turns ih =>
    intro s lost h
    obtain ⟨lost', hstep⟩ := h.step turn
    exact ih hstep

omit [DecidableEq ι] in
theorem Subscriptions.Accounted.start (events : ∀ i, List (Event i)) (capacities : ι → Option ℕ) :
    (Subscriptions.start events capacities).Accounted events fun _ => 0 := by
  refine ⟨fun i => Subscription.Accounted.start (events i) (capacities i), ?_⟩
  refine ⟨0, rfl, ?_⟩
  have huncounted : ∀ i, ((Subscriptions.start events capacities).subscription i).uncounted = 0 := fun i => rfl
  simp only [huncounted, Nat.zero_add]

/-- **However the tasks take turns**, each subscriber has got events of its own in their
order, what it has not got waits or was lost, and the losses are counted. -/
theorem delivery_accounted (events : ∀ i, List (Event i)) (capacities : ι → Option ℕ) (turns : List (Turn ι)) :
    ∃ lost : ι → ℕ, ((Subscriptions.start events capacities).run turns).Accounted events lost :=
  (Subscriptions.Accounted.start events capacities).run turns

/-- **What the counter tells.** It stands at zero, with no drop to be counted, exactly if
no subscriber misses an event that was delivered. -/
theorem delivery_whole (events : ∀ i, List (Event i)) (capacities : ι → Option ℕ) (turns : List (Turn ι))
    (hcount : ∑ i, (events i).length < 2 ^ 64) :
    let s := (Subscriptions.start events capacities).run turns
    (s.droppedEvents = 0 ∧ ∀ i, (s.subscription i).refused = false) ↔
      ∀ i, (s.subscription i).received ++ (s.subscription i).waiting ++ (s.subscription i).todo = events i := by
  intro s
  obtain ⟨lost, heach, counted, hdropped, hcounted⟩ : ∃ lost, s.Accounted events lost :=
    delivery_accounted events capacities turns
  have hoffered (i : ι) : ∃ offered, events i = offered ++ (s.subscription i).todo ∧
      Handed offered (s.subscription i).received (s.subscription i).waiting (lost i) := (heach i).offered
  have hlength (i : ι) : (s.subscription i).received.length + (s.subscription i).waiting.length + lost i +
      (s.subscription i).todo.length = (events i).length := by
    obtain ⟨offered, hevents, hhanded⟩ := hoffered i
    have hparts := hhanded.count
    have hall := congrArg List.length hevents
    rw [List.length_append] at hall
    omega
  have hlost : ∑ i, lost i ≤ ∑ i, (events i).length := Finset.sum_le_sum fun i _ => by
    have := hlength i
    omega
  constructor
  · rintro ⟨hzero, hrefused⟩ i
    have huncounted : ∑ i, (s.subscription i).uncounted = 0 :=
      Finset.sum_eq_zero fun i _ => if_neg (by rw [hrefused i]; exact Bool.false_ne_true)
    have hsum : ∑ i, lost i = 0 := by
      rw [hzero] at hdropped
      omega
    have hnone : lost i = 0 := Finset.sum_eq_zero_iff.mp hsum i (Finset.mem_univ i)
    obtain ⟨offered, hevents, hhanded⟩ := hoffered i
    rw [hnone] at hhanded
    rw [hhanded.whole, hevents]
  · intro hwhole
    have hsum : ∑ i, lost i = 0 := Finset.sum_eq_zero fun i _ => by
      have hparts := hlength i
      have hall := congrArg List.length (hwhole i)
      rw [List.length_append, List.length_append] at hall
      omega
    have huncounted : ∑ i, (s.subscription i).uncounted = 0 := by omega
    refine ⟨by rw [hdropped]; omega, fun i => ?_⟩
    have hi : (s.subscription i).uncounted = 0 := Finset.sum_eq_zero_iff.mp huncounted i (Finset.mem_univ i)
    unfold Subscription.uncounted at hi
    by_contra hrefused
    rw [Bool.not_eq_false] at hrefused
    rw [if_pos hrefused] at hi
    exact absurd hi Nat.one_ne_zero

end

end

/-- Two events for a queue that holds one. -/
def crowded : Subscriptions Unit fun _ => ℕ :=
  (Subscriptions.start (fun _ => [1, 2]) fun _ => some 0).run [.receive (), .receive ()]

theorem delivery_whole_crowded : ¬∀ i, (crowded.subscription i).received ++ (crowded.subscription i).waiting ++
    (crowded.subscription i).todo = [1, 2] := by
  have htold := delivery_whole (fun _ : Unit => [1, 2]) (fun _ => some 0) [.receive (), .receive ()]
    (by decide)
  intro hwhole
  have hrefused := (htold.mpr hwhole).2 ()
  revert hrefused
  decide

end Stream
end ShredSdk
