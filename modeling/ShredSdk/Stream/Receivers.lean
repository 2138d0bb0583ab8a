/-
# The receive tasks of a client

Clones of a client share one handle, that of the receive task in charge
(`src/shredstream/client.rs`). `stop` takes the handle, aborts its task and waits for it to
end; a subscription stops the old task, spawns a new one and puts it into the handle in one
critical section, and does the same to a task it finds there. Any number of these calls may
run at once, each at its own pace, and a call may be dropped where it waits.

Whatever the order of their steps, a task is in the handle, or just taken out by one call
that is about to abort it, or aborted. So apart from such calls there is one task in charge
at most, the one spawned last; and if no call was dropped the others have ended.

Key definitions: `Phase`, `Receivers.advance`, `Receivers.step`, `Receivers.Accounted`.
Key theorems: `Accounted.step`, `Joined.step`, `receivers_accounted`.
-/
import Mathlib.Tactic

namespace ShredSdk
namespace Stream

/-! ### Calls and tasks -/

/-- Where a call stands: not called, about to take the handle, about to abort the task it
took, waiting for it to end, or about to spawn. The flag says that a subscription goes on to
spawn. -/
inductive Phase where
  | idle
  | stopping (spawns : Bool)
  | aborting (task : ℕ) (spawns : Bool)
  | joining (task : ℕ) (spawns : Bool)
  | spawning
deriving DecidableEq

/-- The tasks, numbered as they are spawned, and the calls on the clones. -/
structure Receivers (ι : Type) where
  handle : Option ℕ
  spawned : ℕ
  aborted : ℕ → Bool
  finished : ℕ → Bool
  call : ι → Phase

/-- The scheduler's choice: a call starts, takes its next step or is dropped, or a task ends. -/
inductive Choice (ι : Type) where
  | subscribe (i : ι)
  | stop (i : ι)
  | advance (i : ι)
  | cancel (i : ι)
  | finish (task : ℕ)

namespace Receivers

variable {ι : Type} [DecidableEq ι]

def new : Receivers ι := ⟨none, 0, fun _ => false, fun _ => false, fun _ => .idle⟩

def enter (s : Receivers ι) (i : ι) (phase : Phase) : Receivers ι :=
  { s with call := Function.update s.call i phase }

/-- What a call does once it has stopped the old task. -/
def stopped (spawns : Bool) : Phase := if spawns then .spawning else .idle

/-- The next step of a call. -/
def advance (s : Receivers ι) (i : ι) : Receivers ι :=
  match s.call i with
  | .idle => s
  | .stopping spawns =>
    match s.handle with
    | none => s.enter i (stopped spawns)
    | some task => enter { s with handle := none } i (.aborting task spawns)
  | .aborting task spawns =>
    enter { s with aborted := Function.update s.aborted task true } i (.joining task spawns)
  | .joining task spawns => if s.finished task then s.enter i (stopped spawns) else s
  | .spawning =>
    -- `guard.replace(handle)`
    let s' := { s with handle := some s.spawned, spawned := s.spawned + 1 }
    match s.handle with
    | none => s'.enter i .idle
    | some previous => s'.enter i (.aborting previous false)

/-- A call is dropped: `handle.await` is the only point where it waits. -/
def cancel (s : Receivers ι) (i : ι) : Receivers ι :=
  match s.call i with
  | .joining _ _ => s.enter i .idle
  | .idle | .stopping _ | .aborting _ _ | .spawning => s

def step (s : Receivers ι) : Choice ι → Receivers ι
  | .subscribe i => if s.call i = .idle then s.enter i (.stopping true) else s
  | .stop i => if s.call i = .idle then s.enter i (.stopping false) else s
  | .advance i => s.advance i
  | .cancel i => s.cancel i
  | .finish task =>
    if task < s.spawned then { s with finished := Function.update s.finished task true } else s

def run (s : Receivers ι) (choices : List (Choice ι)) : Receivers ι := choices.foldl step s

/-- The last clone is dropped: what is in the handle is aborted. -/
def drop (s : Receivers ι) : Receivers ι :=
  match s.handle with
  | none => s
  | some task => { s with handle := none, aborted := Function.update s.aborted task true }

/-! ### Every task is accounted for -/

/-- A task is in the handle, taken out by one call alone, or aborted. -/
structure Accounted (s : Receivers ι) : Prop where
  handle : ∀ task, s.handle = some task → task + 1 = s.spawned ∧ s.aborted task = false
  taken : ∀ i task spawns, s.call i = .aborting task spawns →
    task < s.spawned ∧ s.aborted task = false ∧ s.handle ≠ some task ∧
      ∀ j spawns', s.call j = .aborting task spawns' → j = i
  joining : ∀ i task spawns, s.call i = .joining task spawns → s.aborted task = true
  known : ∀ task < s.spawned, s.handle = some task ∨ s.aborted task = true ∨
    ∃ i spawns, s.call i = .aborting task spawns
  fresh : ∀ task, s.spawned ≤ task → s.aborted task = false

omit [DecidableEq ι] in
theorem new_accounted : Accounted (new : Receivers ι) where
  handle _ h := nomatch h
  taken _ _ _ h := nomatch h
  joining _ _ _ h := nomatch h
  known task h := absurd h (Nat.not_lt_zero task)
  fresh _ _ := rfl

section Step

variable {s : Receivers ι} {i : ι} {phase : Phase}

theorem enter_call (j : ι) : (s.enter i phase).call j = if j = i then phase else s.call j :=
  Function.update_apply _ _ _ _

/-- A call that takes nothing and lets nothing go. -/
theorem Accounted.moves (h : Accounted s) (hfrom : ∀ task spawns, s.call i ≠ .aborting task spawns)
    (hto : ∀ task spawns, phase ≠ .aborting task spawns)
    (hjoining : ∀ task spawns, phase ≠ .joining task spawns) : Accounted (s.enter i phase) := by
  have hsame : ∀ j task spawns,
      (s.enter i phase).call j = .aborting task spawns ↔ s.call j = .aborting task spawns := by
    intro j task spawns
    rw [enter_call]
    split_ifs with hj
    · rw [hj]
      exact iff_of_false (hto task spawns) (hfrom task spawns)
    · rfl
  refine ⟨h.handle, fun j task spawns hj => ?_, fun j task spawns hj => ?_, fun task ht => ?_, h.fresh⟩
  · obtain ⟨hlt, habort, hhandle, huniq⟩ := h.taken j task spawns ((hsame j task spawns).mp hj)
    exact ⟨hlt, habort, hhandle, fun k spawns' hk => huniq k spawns' ((hsame k task spawns').mp hk)⟩
  · rw [enter_call] at hj
    split_ifs at hj
    · exact absurd hj (hjoining task spawns)
    · exact h.joining j task spawns hj
  · rcases h.known task ht with hhandle | habort | ⟨j, spawns, hj⟩
    · exact .inl hhandle
    · exact .inr (.inl habort)
    · exact .inr (.inr ⟨j, spawns, (hsame j task spawns).mpr hj⟩)

variable {task : ℕ} {spawns flag : Bool}

/-- A call takes the task out of the handle. -/
theorem Accounted.take (h : Accounted s) (hfrom : ∀ t spawns', s.call i ≠ .aborting t spawns')
    (hhandle : s.handle = some task) :
    Accounted (enter { s with handle := none } i (.aborting task spawns)) := by
  have hfree : ∀ j spawns', s.call j ≠ .aborting task spawns' := fun j spawns' hj =>
    (h.taken j task spawns' hj).2.2.1 hhandle
  obtain ⟨hlast, hlive⟩ := h.handle task hhandle
  refine ⟨nofun, fun j t spawns' hj => ?_, fun j t spawns' hj => ?_, fun t ht => ?_, h.fresh⟩
  · rw [enter_call] at hj
    split_ifs at hj with hji
    · cases hj
      refine ⟨Nat.lt_of_succ_le hlast.le, hlive, nofun, fun k spawns'' hk => ?_⟩
      rw [enter_call] at hk
      split_ifs at hk with hki
      · exact hki.trans hji.symm
      · exact absurd hk (hfree k spawns'')
    · obtain ⟨hlt, habort, -, huniq⟩ := h.taken j t spawns' hj
      refine ⟨hlt, habort, nofun, fun k spawns'' hk => ?_⟩
      rw [enter_call] at hk
      split_ifs at hk
      · cases hk
        exact absurd hj (hfree j spawns')
      · exact huniq k spawns'' hk
  · rw [enter_call] at hj
    split_ifs at hj
    exact h.joining j t spawns' hj
  · rcases h.known t ht with hin | habort | ⟨j, spawns', hj⟩
    · rw [hhandle] at hin
      cases hin
      exact .inr (.inr ⟨i, spawns, by rw [enter_call, if_pos rfl]⟩)
    · exact .inr (.inl habort)
    · refine .inr (.inr ⟨j, spawns', ?_⟩)
      rw [enter_call, if_neg fun hji : j = i => hfrom t spawns' (hji ▸ hj)]
      exact hj

/-- It aborts the task. -/
theorem Accounted.abort (h : Accounted s) (hcall : s.call i = .aborting task spawns) :
    Accounted (enter { s with aborted := Function.update s.aborted task true } i (.joining task spawns)) := by
  obtain ⟨hlt, -, hout, huniq⟩ := h.taken i task spawns hcall
  have hother : ∀ t, t ≠ task → Function.update s.aborted task true t = s.aborted t := fun t ht =>
    Function.update_of_ne ht _ _
  refine ⟨fun t ht => ?_, fun j t spawns' hj => ?_, fun j t spawns' hj => ?_, fun t ht => ?_, fun t ht => ?_⟩
  · obtain ⟨hlast, hlive⟩ := h.handle t ht
    exact ⟨hlast, (hother t fun he => hout (he ▸ ht)).trans hlive⟩
  · rw [enter_call] at hj
    split_ifs at hj with hji
    obtain ⟨hlt', habort, hhandle, huniq'⟩ := h.taken j t spawns' hj
    refine ⟨hlt', (hother t fun he => hji (huniq j spawns' (he ▸ hj))).trans habort, hhandle,
      fun k spawns'' hk => ?_⟩
    rw [enter_call] at hk
    split_ifs at hk
    exact huniq' k spawns'' hk
  · show Function.update s.aborted task true t = true
    by_cases he : t = task
    · rw [he, Function.update_self]
    · rw [enter_call] at hj
      split_ifs at hj
      · cases hj
        exact absurd rfl he
      · exact (hother t he).trans (h.joining j t spawns' hj)
  · by_cases he : t = task
    · exact .inr (.inl (by rw [he]; exact Function.update_self ..))
    · rcases h.known t ht with hhandle | habort | ⟨j, spawns', hj⟩
      · exact .inl hhandle
      · exact .inr (.inl ((hother t he).trans habort))
      · refine .inr (.inr ⟨j, spawns', ?_⟩)
        rw [enter_call, if_neg fun hji => by rw [hji, hcall] at hj; cases hj; exact he rfl]
        exact hj
  · exact (hother t (by have : s.spawned ≤ t := ht; omega)).trans (h.fresh t ht)

omit [DecidableEq ι] in
/-- A new task goes into an empty handle. -/
theorem Accounted.spawn (h : Accounted s) (hhandle : s.handle = none) :
    Accounted { s with handle := some s.spawned, spawned := s.spawned + 1 } := by
  refine ⟨fun t ht => ?_, fun j t spawns' hj => ?_, h.joining, fun t ht => ?_, fun t ht => ?_⟩
  · cases ht
    exact ⟨rfl, h.fresh _ le_rfl⟩
  · obtain ⟨hlt, habort, -, huniq⟩ := h.taken j t spawns' hj
    refine ⟨Nat.lt_succ_of_lt hlt, habort, fun he => ?_, huniq⟩
    cases he
    exact absurd hlt (lt_irrefl _)
  · rcases Nat.lt_succ_iff_lt_or_eq.mp ht with hlt | rfl
    · rcases h.known t hlt with hin | hrest
      · rw [hhandle] at hin
        cases hin
      · exact .inr hrest
    · exact .inl rfl
  · exact h.fresh t ((Nat.le_succ _).trans ht)

theorem stopped_ne_aborting : stopped spawns ≠ .aborting task flag := by
  cases spawns <;> nofun

theorem stopped_ne_joining : stopped spawns ≠ .joining task flag := by
  cases spawns <;> nofun

/-- **One step of a call, whatever the others are at, accounts for every task again.** -/
theorem Accounted.advance (h : Accounted s) (i : ι) : Accounted (s.advance i) := by
  unfold Receivers.advance
  cases hcall : s.call i with
  | idle => exact h
  | stopping spawns =>
    have hfrom : ∀ t flag, s.call i ≠ .aborting t flag := by
      rw [hcall]
      nofun
    cases hhandle : s.handle with
    | none => exact h.moves hfrom (fun _ _ => stopped_ne_aborting) fun _ _ => stopped_ne_joining
    | some task => exact h.take hfrom hhandle
  | aborting task spawns => exact h.abort hcall
  | joining task spawns =>
    show Accounted (if s.finished task then s.enter i (stopped spawns) else s)
    split_ifs with hfinished
    · refine h.moves ?_ (fun _ _ => stopped_ne_aborting) fun _ _ => stopped_ne_joining
      rw [hcall]
      nofun
    · exact h
  | spawning =>
    have hfrom : ∀ t flag, s.call i ≠ .aborting t flag := by
      rw [hcall]
      nofun
    cases hhandle : s.handle with
    | none =>
      have hdone : Accounted (s.enter i .idle) := h.moves hfrom nofun nofun
      exact hdone.spawn hhandle
    -- `replace` takes the old task out and puts the new one in
    | some previous => exact (h.take hfrom hhandle).spawn rfl

theorem Accounted.step (h : Accounted s) (choice : Choice ι) : Accounted (s.step choice) := by
  cases choice with
  | subscribe i =>
    show Accounted (if s.call i = .idle then s.enter i (.stopping true) else s)
    split_ifs with hidle
    · exact h.moves (by rw [hidle]; nofun) nofun nofun
    · exact h
  | stop i =>
    show Accounted (if s.call i = .idle then s.enter i (.stopping false) else s)
    split_ifs with hidle
    · exact h.moves (by rw [hidle]; nofun) nofun nofun
    · exact h
  | advance i => exact h.advance i
  | cancel i =>
    show Accounted (s.cancel i)
    unfold Receivers.cancel
    cases hcall : s.call i with
    | joining task spawns => exact h.moves (by rw [hcall]; nofun) nofun nofun
    | idle | stopping _ | aborting _ _ | spawning => exact h
  | finish task =>
    show Accounted (if task < s.spawned then { s with finished := Function.update s.finished task true } else s)
    split_ifs
    · exact ⟨h.handle, h.taken, h.joining, h.known, h.fresh⟩
    · exact h

end Step

omit [DecidableEq ι] in
/-- With no call about to abort a task, dropping the client aborts the last one. -/
theorem drop_aborted {s : Receivers ι} (h : Accounted s) (hquiet : ∀ i task spawns, s.call i ≠ .aborting task spawns)
    (task : ℕ) : s.drop.aborted task = true ↔ task < s.spawned := by
  have hknown : s.aborted task = true ∨ s.handle = some task ↔ task < s.spawned := by
    refine ⟨fun hcase => ?_, fun ht => ?_⟩
    · rcases hcase with habort | hhandle
      · by_contra hle
        rw [h.fresh task (not_lt.mp hle)] at habort
        cases habort
      · exact Nat.lt_of_succ_le (h.handle task hhandle).1.le
    · rcases h.known task ht with hhandle | habort | ⟨i, spawns, hi⟩
      · exact .inr hhandle
      · exact .inl habort
      · exact absurd hi (hquiet i task spawns)
  rw [← hknown]
  unfold drop
  cases hhandle : s.handle with
  | none => exact ⟨.inl, fun hcase => hcase.resolve_right nofun⟩
  | some last =>
    show Function.update s.aborted last true task = true ↔ _
    rw [Function.update_apply]
    split_ifs with he
    · exact iff_of_true rfl (.inr (by rw [he]))
    · exact ⟨.inl, fun hcase => hcase.resolve_right fun hlast => he (Option.some.inj hlast).symm⟩

theorem run_accounted (choices : List (Choice ι)) : Accounted (run new choices) := by
  unfold run
  induction choices using List.reverseRecOn with
  | nil => exact new_accounted
  | append_singleton choices choice ih =>
    rw [List.foldl_append]
    exact ih.step choice

/-! ### Without dropped calls the old tasks have ended -/

/-- The task a call is at. -/
def atTask : Phase → Option ℕ
  | .aborting task _ | .joining task _ => some task
  | .idle | .stopping _ | .spawning => none

/-- A task is in the handle, has ended, or some call is at it. -/
def Joined (s : Receivers ι) : Prop :=
  ∀ task < s.spawned, s.handle = some task ∨ s.finished task = true ∨ ∃ i, atTask (s.call i) = some task

section Joins

variable {s : Receivers ι} {i : ι} {phase : Phase} {task : ℕ} {spawns : Bool}

/-- A call goes on that is at no task, or at one it stays with or that has ended. -/
theorem Joined.moves (h : Joined s)
    (hkeep : ∀ task, atTask (s.call i) = some task → atTask phase = some task ∨ s.finished task = true) :
    Joined (s.enter i phase) := by
  intro task ht
  rcases h task ht with hhandle | hfinished | ⟨j, hj⟩
  · exact .inl hhandle
  · exact .inr (.inl hfinished)
  · by_cases hji : j = i
    · rcases hkeep task (hji ▸ hj) with hphase | hfinished
      · exact .inr (.inr ⟨i, by rw [enter_call, if_pos rfl, hphase]⟩)
      · exact .inr (.inl hfinished)
    · exact .inr (.inr ⟨j, by rw [enter_call, if_neg hji, hj]⟩)

theorem Joined.take (h : Joined s) (hfrom : atTask (s.call i) = none) (hhandle : s.handle = some task) :
    Joined (enter { s with handle := none } i (.aborting task spawns)) := by
  intro t ht
  rcases h t ht with hin | hfinished | ⟨j, hj⟩
  · cases hhandle.symm.trans hin
    exact .inr (.inr ⟨i, by rw [enter_call, if_pos rfl]; rfl⟩)
  · exact .inr (.inl hfinished)
  · have hji : j ≠ i := fun he => by
      rw [he, hfrom] at hj
      cases hj
    exact .inr (.inr ⟨j, by rw [enter_call, if_neg hji]; exact hj⟩)

omit [DecidableEq ι] in
theorem Joined.spawn (h : Joined s) (hhandle : s.handle = none) :
    Joined { s with handle := some s.spawned, spawned := s.spawned + 1 } := by
  intro t ht
  rcases Nat.lt_succ_iff_lt_or_eq.mp ht with hlt | rfl
  · rcases h t hlt with hin | hrest
    · cases hhandle.symm.trans hin
    · exact .inr hrest
  · exact .inl rfl

theorem Joined.advance (h : Joined s) (i : ι) : Joined (s.advance i) := by
  unfold Receivers.advance
  cases hcall : s.call i with
  | idle => exact h
  | stopping spawns =>
    have hfrom : atTask (s.call i) = none := by rw [hcall]; rfl
    cases hhandle : s.handle with
    | none => exact h.moves fun task ht => absurd (hfrom.symm.trans ht) nofun
    | some task => exact h.take hfrom hhandle
  | aborting task spawns =>
    -- aborting changes neither the handle nor which tasks have ended
    have hmoves : Joined (s.enter i (.joining task spawns)) := h.moves fun t ht => .inl (by rw [← ht, hcall]; rfl)
    exact hmoves
  | joining task spawns =>
    show Joined (if s.finished task then s.enter i (stopped spawns) else s)
    split_ifs with hfinished
    · refine h.moves fun t ht => .inr ?_
      rw [hcall] at ht
      cases ht
      exact hfinished
    · exact h
  | spawning =>
    have hfrom : atTask (s.call i) = none := by rw [hcall]; rfl
    cases hhandle : s.handle with
    | none =>
      have hdone : Joined (s.enter i .idle) := h.moves fun task ht => absurd (hfrom.symm.trans ht) nofun
      exact hdone.spawn hhandle
    | some previous => exact (h.take hfrom hhandle).spawn rfl

theorem Joined.step (h : Joined s) (choice : Choice ι) (hkept : ∀ i, choice ≠ .cancel i) :
    Joined (s.step choice) := by
  cases choice with
  | subscribe i =>
    show Joined (if s.call i = .idle then s.enter i (.stopping true) else s)
    split_ifs with hidle
    · exact h.moves (by rw [hidle]; nofun)
    · exact h
  | stop i =>
    show Joined (if s.call i = .idle then s.enter i (.stopping false) else s)
    split_ifs with hidle
    · exact h.moves (by rw [hidle]; nofun)
    · exact h
  | advance i => exact h.advance i
  | cancel i => exact absurd rfl (hkept i)
  | finish task =>
    show Joined (if task < s.spawned then { s with finished := Function.update s.finished task true } else s)
    split_ifs
    · intro t ht
      rcases h t ht with hhandle | hfinished | hcall
      · exact .inl hhandle
      · refine .inr (.inl ?_)
        show Function.update s.finished task true t = true
        rw [Function.update_apply]
        split_ifs
        · rfl
        · exact hfinished
      · exact .inr (.inr hcall)
    · exact h

end Joins

theorem run_joined (choices : List (Choice ι)) (hkept : ∀ i, .cancel i ∉ choices) :
    Joined (run new choices) := by
  unfold run
  induction choices using List.reverseRecOn with
  | nil => exact fun task ht => absurd ht (Nat.not_lt_zero task)
  | append_singleton choices choice ih =>
    rw [List.foldl_append]
    have hbefore : ∀ i, Choice.cancel i ∉ choices := fun i hi =>
      hkept i (List.mem_append_left _ hi)
    refine (ih hbefore).step choice fun i hi => hkept i ?_
    rw [hi]
    exact List.mem_append_right _ (List.mem_singleton_self _)

/-! ### One task in charge -/

/-- **However any number of subscriptions and stops on clones of a client interleave, and
whichever of them are dropped, the task in the handle is the last one spawned and a task not
aborted is in the handle or held by one call alone.** With no call about to abort a task,
dropping the client leaves every task aborted; and if no call was dropped and none is under
way, every task but the one in the handle has ended. -/
theorem receivers_accounted (choices : List (Choice ι)) :
    let s := run new choices
    (∀ task, s.handle = some task → task + 1 = s.spawned ∧ s.aborted task = false) ∧
    (∀ task < s.spawned, s.aborted task = false → s.handle ≠ some task →
      ∃! i, ∃ spawns, s.call i = .aborting task spawns) ∧
    ((∀ i task spawns, s.call i ≠ .aborting task spawns) → ∀ task, s.drop.aborted task = true ↔ task < s.spawned) ∧
    ((∀ i, .cancel i ∉ choices) → (∀ i, s.call i = .idle) →
      ∀ task < s.spawned, s.handle ≠ some task → s.finished task = true) := by
  intro s
  have h : Accounted s := run_accounted choices
  refine ⟨h.handle, fun task ht hlive hout => ?_, fun hquiet task => ?_, fun hkept hidle task ht hout => ?_⟩
  · rcases h.known task ht with hin | habort | ⟨i, spawns, hi⟩
    · exact absurd hin hout
    · rw [hlive] at habort
      cases habort
    · exact ⟨i, ⟨spawns, hi⟩, fun j ⟨spawns', hj⟩ => (h.taken i task spawns hi).2.2.2 j spawns' hj⟩
  · exact drop_aborted h hquiet task
  · rcases run_joined choices hkept task ht with hin | hfinished | ⟨i, hi⟩
    · exact absurd hin hout
    · exact hfinished
    · have hcall : s.call i = .idle := hidle i
      rw [show (run new choices).call i = .idle from hcall] at hi
      cases hi

end Receivers

end Stream
end ShredSdk
