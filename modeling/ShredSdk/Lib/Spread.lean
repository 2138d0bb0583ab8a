/-
# Spreading labels from several sources

A first-in first-out search of a graph: whoever is taken from the queue hands
its label to its neighbours without one, and these are queued. A vertex that
had a label keeps it.

Let source `i` of `n` set out at time `i` and every step take `n`. Then a vertex
has the label of whoever arrives first, and the time of arrival says which
source that is. So the order in which the neighbours of a vertex are visited
does not matter.

Key definitions: `Hands`, `Search`, `Arrives`, `Inv`.
Key theorems: `inv_hands`, `Search.inv`, `Search.first`, `Search.reached`,
`Search.unique`.
-/
import Mathlib.Tactic

namespace ShredSdk
namespace Spread

variable {K V : Type} {adj : K → K → Prop} {known label label' result : K → Option V} {sources : List K}

/-- `a` hands its label to its neighbours without one, the `fresh`. -/
structure Hands (adj : K → K → Prop) (label : K → Option V) (a : K) (fresh : List K)
    (label' : K → Option V) : Prop where
  mem_fresh : ∀ v, v ∈ fresh ↔ adj a v ∧ label v = none
  labelled : ∀ v ∈ fresh, label' v = label a
  others : ∀ v, v ∉ fresh → label' v = label v

/-- A search with the queue it starts with and the labels it ends with. -/
inductive Search (adj : K → K → Prop) : (K → Option V) → List K → (K → Option V) → Prop
  | done (label : K → Option V) : Search adj label [] label
  | pop {label label' result : K → Option V} {a : K} {queue fresh : List K} :
    Hands adj label a fresh label' → Search adj label' (queue ++ fresh) result →
      Search adj label (a :: queue) result

/-- `v` is reached at time `t`. -/
inductive Arrives (adj : K → K → Prop) (known : K → Option V) (sources : List K) : ℕ → K → Prop
  | source {i : ℕ} {s : K} : sources[i]? = some s → Arrives adj known sources i s
  | step {t : ℕ} {u v : K} : Arrives adj known sources t u → adj u v → known v = none →
    Arrives adj known sources (t + sources.length) v

/-- `b` is next to `a` and has no label of its own. -/
def Open (adj : K → K → Prop) (known : K → Option V) (a b : K) : Prop := adj a b ∧ known b = none

/-! ### Arrivals and paths -/

/-- Whoever arrives at time `t` set out from source `t % n`. -/
theorem Arrives.origin {t : ℕ} {v : K} (h : Arrives adj known sources t v) :
    ∃ s, sources[t % sources.length]? = some s ∧ Relation.ReflTransGen (Open adj known) s v := by
  induction h with
  | @source i s hs =>
    have hi : i < sources.length := (List.getElem?_eq_some_iff.mp hs).1
    exact ⟨s, by rw [Nat.mod_eq_of_lt hi, hs], .refl⟩
  | step _ hadj hv ih =>
    obtain ⟨s, hs, hpath⟩ := ih
    exact ⟨s, by rw [Nat.add_mod_right, hs], hpath.tail ⟨hadj, hv⟩⟩

theorem exists_arrives {s v : K} (hs : s ∈ sources) (h : Relation.ReflTransGen (Open adj known) s v) :
    ∃ t, Arrives adj known sources t v := by
  induction h with
  | refl =>
    obtain ⟨i, hi, rfl⟩ := List.mem_iff_getElem.mp hs
    exact ⟨i, .source (List.getElem?_eq_getElem hi)⟩
  | tail _ hopen ih =>
    obtain ⟨t, ht⟩ := ih
    exact ⟨_, .step ht hopen.1 hopen.2⟩

/-! ### What holds while the queue is worked off -/

/-- The vertices seen so far have a time, and so have the entries of the queue;
an entry is late if its vertex was seen before. -/
structure Inv (adj : K → K → Prop) (known : K → Option V) (sources : List K) (label : K → Option V)
    (queue : List (K × ℕ)) (time : K → Option ℕ) : Prop where
  kept : ∀ v, known v ≠ none → label v = known v
  timed : ∀ v t, time v = some t → Arrives adj known sources t v ∧
    ∃ s, sources[t % sources.length]? = some s ∧ label v = known s
  seen : ∀ v, known v = none → label v ≠ none → ∃ t, time v = some t
  queued : ∀ e ∈ queue, ∃ t, time e.1 = some t ∧ t ≤ e.2
  sorted : queue.Pairwise (·.2 ≤ ·.2)
  tight : ∀ e ∈ queue, ∀ e' ∈ queue, e.2 ≤ e'.2 + sources.length
  near : ∀ v t, time v = some t → ∀ e ∈ queue, t ≤ e.2 + sources.length
  closed : ∀ u t, time u = some t → (u, t) ∈ queue ∨
    ∀ v, adj u v → known v = none → ∃ t', time v = some t' ∧ t' ≤ t + sources.length
  sourced : ∀ i s, sources[i]? = some s → ∃ t, time s = some t ∧ t ≤ i

theorem Inv.label_ne_none {queue : List (K × ℕ)} {time : K → Option ℕ}
    (h : Inv adj known sources label queue time) (hsources : ∀ s ∈ sources, known s ≠ none) {v : K} {t : ℕ}
    (ht : time v = some t) : label v ≠ none := by
  obtain ⟨-, s, hs, hlabel⟩ := h.timed v t ht
  rw [hlabel]
  exact hsources s (List.mem_of_getElem? hs)

/-- A late entry has nothing to hand on. -/
theorem Inv.fresh_nil {a : K} {t t' : ℕ} {queue : List (K × ℕ)} {time : K → Option ℕ} {fresh : List K}
    (h : Inv adj known sources label ((a, t) :: queue) time) (hsources : ∀ s ∈ sources, known s ≠ none)
    (hands : Hands adj label a fresh label') (ht' : time a = some t') (hlate : t' ≠ t) : fresh = [] := by
  have hclosed : ∀ v, adj a v → known v = none → ∃ t', time v = some t' := by
    rcases h.closed a t' ht' with hmem | hclosed
    · exfalso
      obtain ⟨t₀, ht₀, hle⟩ := h.queued _ (List.mem_cons_self ..)
      rw [ht'] at ht₀
      obtain rfl := Option.some.inj ht₀
      rcases List.mem_cons.mp hmem with heq | hmem
      · exact hlate (Prod.mk.inj heq).2
      · have hge := List.rel_of_pairwise_cons h.sorted hmem
        exact hlate (le_antisymm hle hge)
    · intro v hadj hv
      obtain ⟨t', ht', -⟩ := hclosed v hadj hv
      exact ⟨t', ht'⟩
  apply List.eq_nil_iff_forall_not_mem.mpr
  intro v hv
  obtain ⟨hadj, hnone⟩ := (hands.mem_fresh v).mp hv
  have hknown : known v = none := by
    by_contra hne
    exact hne (h.kept v hne ▸ hnone)
  obtain ⟨t', ht'⟩ := hclosed v hadj hknown
  exact h.label_ne_none hsources ht' hnone

/-- **Working off one entry of the queue.** Who gets a label from the entry of
time `t` gets it at time `t + n`. -/
theorem inv_hands {a : K} {t : ℕ} {queue : List (K × ℕ)} {time : K → Option ℕ} {fresh : List K}
    (h : Inv adj known sources label ((a, t) :: queue) time) (hsources : ∀ s ∈ sources, known s ≠ none)
    (hands : Hands adj label a fresh label') :
    ∃ time', Inv adj known sources label' (queue ++ fresh.map fun v => (v, t + sources.length)) time' := by
  classical
  have hunknown : ∀ v ∈ fresh, known v = none := by
    intro v hv
    by_contra hne
    exact hne (h.kept v hne ▸ ((hands.mem_fresh v).mp hv).2)
  have huntimed : ∀ v ∈ fresh, time v = none := by
    intro v hv
    by_contra hne
    obtain ⟨t', ht'⟩ := Option.ne_none_iff_exists'.mp hne
    exact h.label_ne_none hsources ht' ((hands.mem_fresh v).mp hv).2
  obtain ⟨ta, hta, hle⟩ := h.queued _ (List.mem_cons_self ..)
  have htime : fresh ≠ [] → time a = some t := by
    intro hne
    by_contra hlate
    exact hne (h.fresh_nil hsources hands hta fun heq => hlate (heq ▸ hta))
  have hhead : ∀ e ∈ queue, t ≤ e.2 := fun e he => List.rel_of_pairwise_cons h.sorted he
  have hstays : ∀ v t', time v = some t' →
      (if v ∈ fresh then some (t + sources.length) else time v) = some t' := by
    intro v t' ht'
    rw [if_neg fun hv => by simp [huntimed v hv] at ht', ht']
  refine ⟨fun v => if v ∈ fresh then some (t + sources.length) else time v, ?_⟩
  constructor
  case kept =>
    intro v hv
    rw [hands.others v fun hmem => hv (hunknown v hmem), h.kept v hv]
  case timed =>
    intro v t' ht'
    by_cases hv : v ∈ fresh
    · rw [if_pos hv] at ht'
      obtain rfl := Option.some.inj ht'
      obtain ⟨harrives, s, hs, hlabel⟩ := h.timed a t (htime (List.ne_nil_of_mem hv))
      refine ⟨.step harrives ((hands.mem_fresh v).mp hv).1 (hunknown v hv), s, ?_, ?_⟩
      · rw [Nat.add_mod_right, hs]
      · rw [hands.labelled v hv, hlabel]
    · rw [if_neg hv] at ht'
      rw [hands.others v hv]
      exact h.timed v t' ht'
  case seen =>
    intro v hknown hlabel
    by_cases hv : v ∈ fresh
    · exact ⟨_, if_pos hv⟩
    · rw [hands.others v hv] at hlabel
      obtain ⟨t', ht'⟩ := h.seen v hknown hlabel
      exact ⟨t', hstays v t' ht'⟩
  case queued =>
    intro e he
    rcases List.mem_append.mp he with he | he
    · obtain ⟨t', ht', hle⟩ := h.queued e (List.mem_cons_of_mem _ he)
      exact ⟨t', hstays _ _ ht', hle⟩
    · obtain ⟨v, hv, rfl⟩ := List.mem_map.mp he
      exact ⟨_, if_pos hv, le_rfl⟩
  case sorted =>
    rw [List.pairwise_append]
    refine ⟨h.sorted.of_cons, ?_, ?_⟩
    · rw [List.pairwise_map]
      exact List.pairwise_of_forall fun _ _ => le_rfl
    · intro e he e' he'
      obtain ⟨v, hv, rfl⟩ := List.mem_map.mp he'
      exact h.tight e (List.mem_cons_of_mem _ he) (a, t) (List.mem_cons_self ..)
  case tight =>
    have hnew : ∀ e ∈ queue ++ fresh.map fun v => (v, t + sources.length),
        t ≤ e.2 ∧ e.2 ≤ t + sources.length := by
      intro e he
      rcases List.mem_append.mp he with he | he
      · exact ⟨hhead e he, h.tight e (List.mem_cons_of_mem _ he) (a, t) (List.mem_cons_self ..)⟩
      · obtain ⟨v, -, rfl⟩ := List.mem_map.mp he
        exact ⟨Nat.le_add_right _ _, le_rfl⟩
    intro e he e' he'
    have := (hnew e he).2
    have := (hnew e' he').1
    omega
  case near =>
    intro v t' ht' e he
    have hge : t ≤ e.2 := by
      rcases List.mem_append.mp he with he | he
      · exact hhead e he
      · obtain ⟨v, -, rfl⟩ := List.mem_map.mp he
        exact Nat.le_add_right _ _
    have hlt : t' ≤ t + sources.length := by
      by_cases hv : v ∈ fresh
      · rw [if_pos hv] at ht'
        exact (Option.some.inj ht').ge
      · rw [if_neg hv] at ht'
        exact h.near v t' ht' (a, t) (List.mem_cons_self ..)
    omega
  case closed =>
    intro u tu hu
    by_cases hfresh : u ∈ fresh
    · rw [if_pos hfresh] at hu
      obtain rfl := Option.some.inj hu
      exact .inl (List.mem_append_right _ (List.mem_map.mpr ⟨u, hfresh, rfl⟩))
    rw [if_neg hfresh] at hu
    rcases h.closed u tu hu with hmem | hclosed
    · rcases List.mem_cons.mp hmem with heq | hmem
      · -- `u` is the entry just worked off: each neighbour had a label or has one now
        obtain ⟨rfl, rfl⟩ := Prod.mk.inj heq
        refine .inr fun v hadj hknown => ?_
        by_cases hv : v ∈ fresh
        · exact ⟨_, if_pos hv, le_rfl⟩
        · have hlabel : label v ≠ none := fun hnone => hv ((hands.mem_fresh v).mpr ⟨hadj, hnone⟩)
          obtain ⟨t', ht'⟩ := h.seen v hknown hlabel
          exact ⟨t', hstays v t' ht', h.near v t' ht' _ (List.mem_cons_self ..)⟩
      · exact .inl (List.mem_append_left _ hmem)
    · refine .inr fun v hadj hknown => ?_
      obtain ⟨t', ht', hle⟩ := hclosed v hadj hknown
      exact ⟨t', hstays v t' ht', hle⟩
  case sourced =>
    intro i s hs
    obtain ⟨t', ht', hle⟩ := h.sourced i s hs
    exact ⟨t', hstays s t' ht', hle⟩

/-! ### The whole search -/

/-- The sources are queued in order, each at its own time; of a source that is
named twice the later entry is late. -/
theorem inv_start : ∃ time, Inv adj known sources known sources.zipIdx time := by
  classical
  have hfirst : ∀ s t, (if s ∈ sources then some (sources.idxOf s) else none) = some t →
      sources[t]? = some s ∧ t < sources.length := by
    intro s t ht
    split_ifs at ht with hs
    obtain rfl := Option.some.inj ht
    exact ⟨List.getElem?_idxOf hs, List.idxOf_lt_length_of_mem hs⟩
  have hentry : ∀ e ∈ sources.zipIdx, sources[e.2]? = some e.1 ∧ e.2 < sources.length := by
    intro e he
    have hget := List.mem_zipIdx_iff_getElem?.mp he
    exact ⟨hget, (List.getElem?_eq_some_iff.mp hget).1⟩
  have htime : ∀ (i : ℕ) (s : K), sources[i]? = some s →
      ∃ t, (if s ∈ sources then some (sources.idxOf s) else none) = some t ∧ t ≤ i := by
    intro i s hs
    obtain ⟨hi, rfl⟩ := List.getElem?_eq_some_iff.mp hs
    refine ⟨_, if_pos (List.getElem_mem hi), ?_⟩
    by_contra hlt
    have hne : (sources[i] == sources[i]) = false := List.not_of_lt_findIdx (Nat.lt_of_not_le hlt)
    simp at hne
  refine ⟨fun s => if s ∈ sources then some (sources.idxOf s) else none, ?_⟩
  constructor
  case kept => exact fun _ _ => rfl
  case timed =>
    intro s t ht
    obtain ⟨hget, hlt⟩ := hfirst s t ht
    exact ⟨.source hget, s, by rw [Nat.mod_eq_of_lt hlt, hget], rfl⟩
  case seen => exact fun _ hnone hne => absurd hnone hne
  case queued => exact fun e he => htime e.2 e.1 (hentry e he).1
  case sorted =>
    rw [← List.pairwise_map, List.zipIdx_map_snd]
    exact List.pairwise_le_range'
  case tight =>
    intro e he e' he'
    have := (hentry e he).2
    omega
  case near =>
    intro s t ht e he
    have := (hfirst s t ht).2
    omega
  case closed =>
    intro s t ht
    exact .inl (List.mem_zipIdx_iff_getElem?.mpr (hfirst s t ht).1)
  case sourced => exact htime

theorem Search.inv {queue : List K} (h : Search adj label queue result)
    (hsources : ∀ s ∈ sources, known s ≠ none) : ∀ {entries : List (K × ℕ)} {time : K → Option ℕ},
    entries.map (·.1) = queue → Inv adj known sources label entries time →
      ∃ time', Inv adj known sources result [] time' := by
  induction h with
  | done label =>
    intro entries time hmap hinv
    obtain rfl := List.map_eq_nil_iff.mp hmap
    exact ⟨time, hinv⟩
  | @pop label label' result a queue fresh hands _ ih =>
    intro entries time hmap hinv
    obtain ⟨e, entries, rfl, rfl, rfl⟩ := List.map_eq_cons_iff.mp hmap
    obtain ⟨time', hinv'⟩ := inv_hands hinv hsources hands
    exact ih (by simp [Function.comp_def]) hinv'

/-- **The first to arrive hands over its label.** Whoever had a label keeps it,
whoever is never reached has none in the end. -/
theorem Search.first (h : Search adj known sources result) (hsources : ∀ s ∈ sources, known s ≠ none) :
    (∀ v, known v ≠ none → result v = known v) ∧
      (∀ v, known v = none → result v ≠ none → ∃ t, Arrives adj known sources t v) ∧
      ∀ t v, Arrives adj known sources t v → (∀ t' < t, ¬ Arrives adj known sources t' v) →
        ∃ s, sources[t % sources.length]? = some s ∧ result v = known s := by
  obtain ⟨time, hstart⟩ : ∃ time, Inv adj known sources known sources.zipIdx time := inv_start
  obtain ⟨time, hinv⟩ := h.inv hsources (List.zipIdx_map_fst 0 sources) hstart
  have harrived : ∀ t v, Arrives adj known sources t v → ∃ t', time v = some t' ∧ t' ≤ t := by
    intro t v harrives
    induction harrives with
    | source hs => exact hinv.sourced _ _ hs
    | step _ hadj hknown ih =>
      obtain ⟨t', ht', hle⟩ := ih
      have hnext := (hinv.closed _ t' ht').resolve_left List.not_mem_nil
      obtain ⟨t'', ht'', hle'⟩ := hnext _ hadj hknown
      exact ⟨t'', ht'', by omega⟩
  refine ⟨hinv.kept, ?_, ?_⟩
  · intro v hknown hlabel
    obtain ⟨t, ht⟩ := hinv.seen v hknown hlabel
    exact ⟨t, (hinv.timed v t ht).1⟩
  · intro t v harrives hleast
    obtain ⟨t', ht', hle⟩ := harrived t v harrives
    obtain ⟨harrives', s, hs, hlabel⟩ := hinv.timed v t' ht'
    have heq : t' = t := by
      by_contra hne
      exact hleast t' (by omega) harrives'
    exact ⟨s, heq ▸ hs, hlabel⟩

/-- A first arrival, if there is one at all. -/
theorem exists_first {v : K} {t : ℕ} (h : Arrives adj known sources t v) :
    ∃ t, Arrives adj known sources t v ∧ ∀ t' < t, ¬ Arrives adj known sources t' v := by
  classical
  have hsome : ∃ t, Arrives adj known sources t v := ⟨t, h⟩
  exact ⟨Nat.find hsome, Nat.find_spec hsome, fun _ ht => Nat.find_min hsome ht⟩

/-- **Labels come from the sources, along open paths, and every open path
brings one.** -/
theorem Search.reached (h : Search adj known sources result) (hsources : ∀ s ∈ sources, known s ≠ none) {v : K} :
    (known v = none → result v ≠ none →
      ∃ s ∈ sources, Relation.ReflTransGen (Open adj known) s v ∧ result v = known s) ∧
    ((∃ s ∈ sources, Relation.ReflTransGen (Open adj known) s v) → result v ≠ none) := by
  obtain ⟨-, hreached, hfirst⟩ := h.first hsources
  have hsource : ∀ t, Arrives adj known sources t v →
      ∃ s ∈ sources, Relation.ReflTransGen (Open adj known) s v ∧ result v = known s := by
    intro t ht
    obtain ⟨t, ht, hleast⟩ := exists_first ht
    obtain ⟨s, hs, hpath⟩ := ht.origin
    obtain ⟨s', hs', hlabel⟩ := hfirst t v ht hleast
    rw [hs] at hs'
    obtain rfl := Option.some.inj hs'
    exact ⟨s, List.mem_of_getElem? hs, hpath, hlabel⟩
  refine ⟨?_, ?_⟩
  · intro hknown hlabel
    obtain ⟨t, ht⟩ := hreached v hknown hlabel
    exact hsource t ht
  · rintro ⟨s, hs, hpath⟩
    obtain ⟨t, ht⟩ := exists_arrives hs hpath
    obtain ⟨s', hs', -, hlabel⟩ := hsource t ht
    rw [hlabel]
    exact hsources s' hs'

/-- **Searches of one graph from the same sources end alike**, in whatever order
they visit the neighbours of a vertex. -/
theorem Search.unique {adj' : K → K → Prop} {result' : K → Option V} (h : Search adj known sources result)
    (h' : Search adj' known sources result') (hadj : ∀ u v, adj u v ↔ adj' u v)
    (hsources : ∀ s ∈ sources, known s ≠ none) : result = result' := by
  obtain rfl : adj = adj' := funext fun u => funext fun v => propext (hadj u v)
  obtain ⟨hkept, hreached, hfirst⟩ := h.first hsources
  obtain ⟨hkept', hreached', hfirst'⟩ := h'.first hsources
  funext v
  by_cases hknown : known v = none
  · by_cases hsome : ∃ t, Arrives adj known sources t v
    · obtain ⟨t, ht⟩ := hsome
      obtain ⟨t, ht, hleast⟩ := exists_first ht
      obtain ⟨s, hs, hlabel⟩ := hfirst t v ht hleast
      obtain ⟨s', hs', hlabel'⟩ := hfirst' t v ht hleast
      rw [hs] at hs'
      obtain rfl := Option.some.inj hs'
      rw [hlabel, hlabel']
    · have hnone : result v = none := by
        by_contra hne
        exact hsome (hreached v hknown hne)
      have hnone' : result' v = none := by
        by_contra hne
        exact hsome (hreached' v hknown hne)
      rw [hnone, hnone']
  · rw [hkept v hknown, hkept' v hknown]

end Spread
end ShredSdk
