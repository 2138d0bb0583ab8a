/-
# Write-once maps

A map whose values say their own key. A value is recorded under its key, and a
key never gets a second, different value: recording fails instead. What a list
of values leaves in the map depends only on which values are in it.

Key definitions: `record`, `recordAll`, `NoConflict`, `OrdMap.extend`.
Key theorems: `recordAll_get?`, `recordAll_eq_some`, `recordAll_again`,
`recordAll_congr`, `recordAll_append`.
-/
import ShredSdk.Lib.OrdMap

namespace OrdMap

variable {K V : Type} [LinearOrder K]

/-- The entries of `n` written over those of `m`. -/
def extend (m n : OrdMap K V) : OrdMap K V := n.entries.foldl (fun m e => m.insert e.1 e.2) m

theorem get?_foldl_insert (k : K) : ∀ {es : List (K × V)} (m : OrdMap K V),
    es.Pairwise (fun a b => a.1 < b.1) →
      (es.foldl (fun m e => m.insert e.1 e.2) m).get? k = (lookupL k es).or (m.get? k)
  | [], _, _ => rfl
  | e :: es, m, h => by
    obtain ⟨hlt, hs⟩ := List.pairwise_cons.mp h
    have hcons : lookupL k (e :: es) = if e.1 = k then some e.2 else lookupL k es := rfl
    rw [List.foldl_cons, get?_foldl_insert k _ hs, get?_insert, hcons]
    by_cases hk : e.1 = k
    · have hnone : lookupL k es = none := lookupL_eq_none.mpr fun e' he' => (hk ▸ ne_of_gt (hlt e' he'))
      rw [if_pos hk, if_pos hk.symm, hnone, Option.none_or, Option.some_or]
    · rw [if_neg hk, if_neg (Ne.symm hk)]

theorem get?_extend (m n : OrdMap K V) (k : K) : (m.extend n).get? k = (n.get? k).or (m.get? k) :=
  get?_foldl_insert k m n.sorted

@[simp] theorem extend_empty (m : OrdMap K V) : m.extend empty = m := rfl

theorem extend_insert (m n : OrdMap K V) (k : K) (v : V) :
    m.extend (n.insert k v) = (m.extend n).insert k v := by
  apply ext_get?
  intro k'
  rw [get?_extend, get?_insert, get?_insert, get?_extend]
  split_ifs with h
  · rfl
  · rfl

/-- A new key adds its entry. -/
theorem insert_perm {m : OrdMap K V} {k : K} (h : m.get? k = none) (v : V) :
    (m.insert k v).entries.Perm ((k, v) :: m.entries) := by
  have hperm := insertL_perm k v m.sorted
  rwa [List.filter_eq_self.mpr fun e he => by simpa using lookupL_eq_none.mp h e he] at hperm

end OrdMap

namespace WriteOnce

variable {K V : Type} [LinearOrder K] [DecidableEq V] (key : V → K)

/-- The value under its key, unless the key has another value. -/
def record (m : OrdMap K V) (v : V) : Option (OrdMap K V) :=
  match m.get? (key v) with
  | none => some (m.insert (key v) v)
  | some w => if w = v then some m else none

def recordAll (m : OrdMap K V) : List V → Option (OrdMap K V)
  | [] => some m
  | v :: vs => (record key m v).bind fun n => recordAll n vs

/-- No two of the values, and none of them and one in the map, share a key and
differ. -/
structure NoConflict (m : OrdMap K V) (vs : List V) : Prop where
  known : ∀ v ∈ vs, ∀ w, m.get? (key v) = some w → w = v
  among : ∀ v ∈ vs, ∀ w ∈ vs, key w = key v → w = v

variable {key} {m n : OrdMap K V} {vs ws : List V} {v : V}

theorem record_get? (h : record key m v = some n) (k : K) :
    n.get? k = (m.get? k).or (if key v = k then some v else none) := by
  unfold record at h
  rcases hm : m.get? (key v) with _ | w
  · rw [hm] at h
    obtain rfl := Option.some.inj h
    rw [OrdMap.get?_insert]
    by_cases hk : key v = k
    · rw [if_pos hk.symm, if_pos hk, ← hk, hm, Option.none_or]
    · rw [if_neg (Ne.symm hk), if_neg hk, Option.or_none]
  · rw [hm] at h
    simp only at h
    split_ifs at h with hw
    obtain rfl := Option.some.inj h
    by_cases hk : key v = k
    · rw [← hk, hm, Option.some_or]
    · rw [if_neg hk, Option.or_none]

theorem record_eq_some : (∃ n, record key m v = some n) ↔ ∀ w, m.get? (key v) = some w → w = v := by
  unfold record
  rcases m.get? (key v) with _ | w
  · simp
  · by_cases hw : w = v <;> simp [hw]

/-- **What is recorded:** what was there, and else the value with the key. -/
theorem recordAll_get? : ∀ {vs : List V} {m n : OrdMap K V}, recordAll key m vs = some n → ∀ k,
    n.get? k = (m.get? k).or (vs.find? fun v => key v = k)
  | [], m, n, h, k => by
    obtain rfl := Option.some.inj h
    rw [List.find?_nil, Option.or_none]
  | v :: vs, m, n, h, k => by
    obtain ⟨p, hp, hn⟩ := Option.bind_eq_some_iff.mp h
    rw [recordAll_get? hn k, record_get? hp k, Option.or_assoc]
    by_cases hk : key v = k
    · rw [if_pos hk, List.find?_cons_of_pos (by simp [hk]), Option.some_or]
    · rw [if_neg hk, List.find?_cons_of_neg (by simp [hk]), Option.none_or]

/-- **Recording fails exactly at a conflict.** -/
theorem recordAll_eq_some : ∀ {vs : List V} {m : OrdMap K V},
    (∃ n, recordAll key m vs = some n) ↔ NoConflict key m vs
  | [], m => ⟨fun _ => ⟨by simp, by simp⟩, fun _ => ⟨m, rfl⟩⟩
  | v :: vs, m => by
    constructor
    · rintro ⟨n, h⟩
      obtain ⟨p, hp, hn⟩ := Option.bind_eq_some_iff.mp h
      have hv := record_eq_some.mp ⟨p, hp⟩
      obtain ⟨hknown, hamong⟩ := recordAll_eq_some.mp ⟨n, hn⟩
      have hpv : p.get? (key v) = some v := by
        rw [record_get? hp, if_pos rfl]
        rcases hm : m.get? (key v) with _ | w
        · rfl
        · rw [hv w hm, Option.some_or]
      have hlater : ∀ w ∈ vs, key w = key v → w = v := fun w hw hk =>
        (hknown w hw v (hk ▸ hpv)).symm
      constructor
      · intro w hw u hu
        rcases List.mem_cons.mp hw with rfl | hw
        · exact hv u hu
        · exact hknown w hw u (by rw [record_get? hp, hu, Option.some_or])
      · intro w hw u hu hk
        rcases List.mem_cons.mp hw with hwv | hw <;> rcases List.mem_cons.mp hu with huv | hu
        · rw [hwv, huv]
        · rw [hwv] at hk ⊢
          exact hlater u hu hk
        · rw [huv] at hk ⊢
          exact (hlater w hw hk.symm).symm
        · exact hamong w hw u hu hk
    · rintro ⟨hknown, hamong⟩
      obtain ⟨p, hp⟩ := record_eq_some.mpr (hknown v (List.mem_cons_self ..))
      obtain ⟨n, hn⟩ : ∃ n, recordAll key p vs = some n := by
        refine recordAll_eq_some.mpr ⟨fun w hw u hu => ?_, fun w hw u hu =>
          hamong w (List.mem_cons_of_mem v hw) u (List.mem_cons_of_mem v hu)⟩
        rw [record_get? hp] at hu
        rcases hm : m.get? (key w) with _ | u'
        · rw [hm, Option.none_or] at hu
          split_ifs at hu with hk
          obtain rfl := Option.some.inj hu
          exact hamong w (List.mem_cons_of_mem _ hw) _ (List.mem_cons_self ..) hk
        · rw [hm, Option.some_or] at hu
          exact hknown w (List.mem_cons_of_mem v hw) u (hm.trans hu)
      exact ⟨n, Option.bind_eq_some_iff.mpr ⟨p, hp, hn⟩⟩

/-- Nothing that was there is lost. -/
theorem recordAll_keeps (h : recordAll key m vs = some n) {k : K} (hk : m.get? k = some v) :
    n.get? k = some v := by
  rw [recordAll_get? h, hk, Option.some_or]

/-- **Recording the same values again changes nothing.** -/
theorem recordAll_again (h : recordAll key m vs = some n) : recordAll key n vs = some n := by
  have hconflict := recordAll_eq_some.mp ⟨n, h⟩
  obtain ⟨p, hp⟩ : ∃ p, recordAll key n vs = some p := by
    refine recordAll_eq_some.mpr ⟨fun v hv w hw => ?_, hconflict.among⟩
    rw [recordAll_get? h] at hw
    rcases hm : m.get? (key v) with _ | u
    · rw [hm, Option.none_or] at hw
      have hkey := List.find?_some hw
      simp only [decide_eq_true_eq] at hkey
      exact hconflict.among v hv w (List.mem_of_find?_eq_some hw) hkey
    · rw [hm, Option.some_or] at hw
      exact hconflict.known v hv w (hm.trans hw)
  have hpn : p = n := by
    apply OrdMap.ext_get?
    intro k
    rw [recordAll_get? hp, recordAll_get? h, Option.or_assoc, Option.or_self]
  rw [hp, hpn]

theorem recordAll_append : ∀ {vs : List V} (ws : List V) (m : OrdMap K V),
    recordAll key m (vs ++ ws) = (recordAll key m vs).bind fun n => recordAll key n ws
  | [], _, _ => rfl
  | v :: vs, ws, m => by
    show (record key m v).bind (fun n => recordAll key n (vs ++ ws)) = _
    simp only [recordAll_append ws, recordAll, Option.bind_assoc]

omit [DecidableEq V] in
/-- Of values without conflicts the one with a key is found. -/
theorem NoConflict.find?_eq_some (h : NoConflict key m vs) {k : K} :
    (vs.find? fun v => key v = k) = some v ↔ v ∈ vs ∧ key v = k := by
  constructor
  · intro hv
    exact ⟨List.mem_of_find?_eq_some hv, by simpa using List.find?_some hv⟩
  · rintro ⟨hmem, hkey⟩
    have hsome : (vs.find? fun v => key v = k).isSome := List.find?_isSome.mpr ⟨v, hmem, by simpa using hkey⟩
    obtain ⟨w, hw⟩ := Option.isSome_iff_exists.mp hsome
    have hwkey : key w = k := by simpa using List.find?_some hw
    rw [hw, h.among v hmem w (List.mem_of_find?_eq_some hw) (hwkey.trans hkey.symm)]

omit [DecidableEq V] in
theorem NoConflict.congr (h : NoConflict key m vs) (hsame : ∀ v, v ∈ vs ↔ v ∈ ws) : NoConflict key m ws :=
  ⟨fun v hv => h.known v ((hsame v).mpr hv),
    fun v hv w hw => h.among v ((hsame v).mpr hv) w ((hsame w).mpr hw)⟩

/-- **Only the values count**, not their order or how often they come. -/
theorem recordAll_congr (h : NoConflict key m vs) (hsame : ∀ v, v ∈ vs ↔ v ∈ ws) :
    recordAll key m vs = recordAll key m ws := by
  have h' := h.congr hsame
  obtain ⟨n, hn⟩ := recordAll_eq_some.mpr h
  obtain ⟨p, hp⟩ := recordAll_eq_some.mpr h'
  have hfind : ∀ k, (vs.find? fun v => key v = k) = ws.find? fun v => key v = k := by
    intro k
    ext v
    rw [h.find?_eq_some, h'.find?_eq_some, hsame]
  have hnp : n = p := by
    apply OrdMap.ext_get?
    intro k
    rw [recordAll_get? hn, recordAll_get? hp, hfind]
  rw [hn, hp, hnp]

end WriteOnce
