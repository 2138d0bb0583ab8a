/-
# Whose mint is known

What `token_mints_from_invocations` (`src/transaction_route.rs`) makes of the
evidence. An account has direct evidence of a mint from a token balance, a
checked transfer or its initialization; two different mints make it ambiguous.
A plain transfer links its two accounts, and an account without evidence has the
mint of the account with evidence that is nearest by such links, the first in
account order among the nearest.

So the mints depend on which evidence and which links there are, and not on the
order they come in.

Key definitions: `mintEvidence`, `Evidence`, `Linked`, `SoundMints`.
Key theorems: `summary_directMints`, `mem_neighbours`, `search_tokenMints`,
`token_mints_sound`, `token_mints_same_evidence`,
`token_mints_order_independent`.
-/
import ShredSdk.Lib.Spread
import ShredSdk.Route.Transfer

namespace ShredSdk
namespace Routes

/-! ### Direct evidence -/

def balanceEvidence (parsePubkey : String → Option Pubkey) (keys : List Pubkey) (balance : TokenBalance) :
    List (Pubkey × Pubkey) :=
  match parsePubkey balance.mint with
  | none => []
  | some mint => [(key keys balance.accountIndex, mint)]

/-- The mint of both accounts of a checked transfer, and of an account that is
initialized. -/
def invocationEvidence (keys : List Pubkey) (ix : Invocation) : List (Pubkey × Pubkey) :=
  let transfer := [(account ix keys 0, account ix keys 1), (account ix keys 2, account ix keys 1)]
  (if checkedTransfer ix then transfer else []) ++ (if checkedTransferWithFee ix then transfer else []) ++
    if initializesAccount ix then [(account ix keys 0, account ix keys 1)] else []

/-- All pairs of an account and a mint that are on record. -/
def mintEvidence (parsePubkey : String → Option Pubkey) (meta' : TransactionStatusMeta)
    (keys : List Pubkey) (invocations : List Invocation) : List (Pubkey × Pubkey) :=
  (meta'.preTokenBalances ++ meta'.postTokenBalances).flatMap (balanceEvidence parsePubkey keys) ++
    invocations.flatMap (invocationEvidence keys)

/-- `m` is on record as the mint of `a`; the missing key is evidence of nothing. -/
def Evidence (evidence : List (Pubkey × Pubkey)) (a m : Pubkey) : Prop :=
  (a, m) ∈ evidence ∧ a ≠ 0 ∧ m ≠ 0

/-- What is noted of an account: nothing, the marker `0` for different mints, or
the one mint there is. -/
def Summary (E : Pubkey → Prop) : Option Pubkey → Prop
  | none => ∀ m, ¬ E m
  | some mint => (mint = 0 ∧ ∃ m m', E m ∧ E m' ∧ m ≠ m') ∨ (mint ≠ 0 ∧ E mint ∧ ∀ m, E m → m = mint)

theorem Summary.unique {E : Pubkey → Prop} : ∀ {r r' : Option Pubkey}, Summary E r → Summary E r' → r = r'
  | none, none, _, _ => rfl
  | none, some _, h, h' => by
    rcases h' with ⟨-, m, -, hm, -⟩ | ⟨-, hm, -⟩
    · exact absurd hm (h m)
    · exact absurd hm (h _)
  | some _, none, h, h' => (Summary.unique h' h).symm
  | some mint, some mint', h, h' => by
    rcases h with ⟨rfl, m₁, m₂, h₁, h₂, hne⟩ | ⟨-, hm, honly⟩
    · rcases h' with ⟨rfl, -⟩ | ⟨-, -, honly'⟩
      · rfl
      · exact absurd ((honly' m₁ h₁).trans (honly' m₂ h₂).symm) hne
    · rcases h' with ⟨-, m₁, m₂, h₁, h₂, hne⟩ | ⟨-, hm', -⟩
      · exact absurd ((honly m₁ h₁).trans (honly m₂ h₂).symm) hne
      · rw [honly mint' hm']

theorem Summary.congr {E E' : Pubkey → Prop} (hE : ∀ m, E m ↔ E' m) {r : Option Pubkey} (h : Summary E r) :
    Summary E' r := by
  obtain rfl : E = E' := funext fun m => propext (hE m)
  exact h

/-- **One more piece of evidence.** A second, different mint for an account is
what makes it ambiguous, and ambiguous it stays. -/
theorem summary_recordMint {E : Pubkey → Prop} {mints : Mints} (acct mint a : Pubkey)
    (h : Summary E (mints.get? a)) :
    Summary (fun m => E m ∨ (a, m) = (acct, mint) ∧ a ≠ 0 ∧ m ≠ 0) ((recordMint mints acct mint).get? a) := by
  unfold recordMint
  by_cases hvalid : acct ≠ 0 ∧ mint ≠ 0
  · rw [if_pos hvalid]
    by_cases ha : a = acct
    · subst ha
      cases hget : mints.get? a with
      | none =>
        rw [hget] at h
        simp only [OrdMap.get?_insert_self]
        refine .inr ⟨hvalid.2, .inr ⟨rfl, hvalid⟩, ?_⟩
        rintro m (hm | hm)
        · exact absurd hm (h m)
        · exact (Prod.mk.inj hm.1).2
      | some known =>
        rw [hget] at h
        simp only
        by_cases hknown : known ≠ mint
        · rw [if_pos hknown, OrdMap.get?_insert_self]
          refine .inl ⟨rfl, ?_⟩
          rcases h with ⟨-, m, m', hm, hm', hne⟩ | ⟨-, hm, -⟩
          · exact ⟨m, m', .inl hm, .inl hm', hne⟩
          · exact ⟨known, mint, .inl hm, .inr ⟨rfl, hvalid⟩, hknown⟩
        · rw [if_neg hknown, hget]
          obtain rfl := not_not.mp hknown
          rcases h with ⟨h0, -⟩ | ⟨hne, hm, honly⟩
          · exact absurd h0 hvalid.2
          · refine .inr ⟨hne, .inl hm, ?_⟩
            rintro m (hm | hm)
            · exact honly m hm
            · exact (Prod.mk.inj hm.1).2
    · have hsame : Summary (fun m => E m ∨ (a, m) = (acct, mint) ∧ a ≠ 0 ∧ m ≠ 0) (mints.get? a) :=
        h.congr fun m => ⟨.inl, fun hm => hm.resolve_right fun hm => ha (Prod.mk.inj hm.1).1⟩
      cases mints.get? acct with
      | none => simpa only [OrdMap.get?_insert_ne _ _ ha] using hsame
      | some known =>
        simp only
        split_ifs
        · simpa only [OrdMap.get?_insert_ne _ _ ha] using hsame
        · exact hsame
  · rw [if_neg hvalid]
    refine h.congr fun m => ⟨.inl, fun hm => hm.resolve_right ?_⟩
    rintro ⟨heq, ha, hne⟩
    obtain ⟨rfl, rfl⟩ := Prod.mk.inj heq
    exact hvalid ⟨ha, hne⟩

/-- The mints noted from the evidence alone. -/
def recordEvidence (evidence : List (Pubkey × Pubkey)) : Mints :=
  evidence.foldl (fun mints e => recordMint mints e.1 e.2) OrdMap.empty

theorem summary_recordEvidence (evidence : List (Pubkey × Pubkey)) (a : Pubkey) :
    Summary (Evidence evidence a) ((recordEvidence evidence).get? a) := by
  induction evidence using List.reverseRecOn with
  | nil => exact fun m hm => List.not_mem_nil hm.1
  | append_singleton es e ih =>
    have hstep := summary_recordMint e.1 e.2 a ih
    unfold recordEvidence
    rw [List.foldl_append]
    refine hstep.congr fun m => ?_
    unfold Evidence
    rw [List.mem_append, List.mem_singleton]
    tauto

/-- What the two loops over balances and invocations note. -/
def directMints (parsePubkey : String → Option Pubkey) (meta' : TransactionStatusMeta)
    (keys : List Pubkey) (invocations : List Invocation) : Mints :=
  invocations.foldl (recordInvocation keys)
    ((meta'.preTokenBalances ++ meta'.postTokenBalances).foldl (recordBalance parsePubkey keys) OrdMap.empty)

theorem recordBalance_eq (parsePubkey : String → Option Pubkey) (keys : List Pubkey) (mints : Mints)
    (balance : TokenBalance) : recordBalance parsePubkey keys mints balance =
      (balanceEvidence parsePubkey keys balance).foldl (fun mints e => recordMint mints e.1 e.2) mints := by
  unfold recordBalance balanceEvidence
  cases parsePubkey balance.mint <;> rfl

theorem recordInvocation_eq (keys : List Pubkey) (mints : Mints) (ix : Invocation) :
    recordInvocation keys mints ix =
      (invocationEvidence keys ix).foldl (fun mints e => recordMint mints e.1 e.2) mints := by
  unfold recordInvocation invocationEvidence
  simp only [List.foldl_append]
  cases checkedTransfer ix <;> cases checkedTransferWithFee ix <;> cases initializesAccount ix <;> rfl

theorem directMints_eq (parsePubkey : String → Option Pubkey) (meta' : TransactionStatusMeta)
    (keys : List Pubkey) (invocations : List Invocation) :
    directMints parsePubkey meta' keys invocations =
      recordEvidence (mintEvidence parsePubkey meta' keys invocations) := by
  have hbalance := funext fun mints => funext (recordBalance_eq parsePubkey keys mints)
  have hinvocation := funext fun mints => funext (recordInvocation_eq keys mints)
  unfold directMints recordEvidence mintEvidence
  rw [hbalance, hinvocation]
  simp only [List.flatMap_append, List.foldl_append, List.foldl_flatMap]

/-! ### Links -/

/-- A plain transfer moves tokens between `a` and `b`, one way or the other. -/
def Linked (keys : List Pubkey) (invocations : List Invocation) (a b : Pubkey) : Prop :=
  a ≠ 0 ∧ b ≠ 0 ∧ ∃ ix ∈ invocations, plainTransfer ix = true ∧
    ((account ix keys 0 = a ∧ account ix keys 1 = b) ∨ (account ix keys 0 = b ∧ account ix keys 1 = a))

/-- Neither account is ambiguous, and one has no mint yet. -/
def Joinable (mints : Mints) (a b : Pubkey) : Prop :=
  mints.get? a ≠ some 0 ∧ mints.get? b ≠ some 0 ∧ ¬ ((mints.get? a).isSome ∧ (mints.get? b).isSome)

theorem Joinable.symm {mints : Mints} {a b : Pubkey} (h : Joinable mints a b) : Joinable mints b a :=
  ⟨h.2.1, h.1, fun hboth => h.2.2 ⟨hboth.2, hboth.1⟩⟩

def neighboursOf (neighbours : Neighbours) (a : Pubkey) : List Pubkey := (neighbours.get? a).getD []

theorem mem_pushNeighbour {neighbours : Neighbours} {x y a b : Pubkey} :
    b ∈ neighboursOf (pushNeighbour neighbours x y) a ↔ b ∈ neighboursOf neighbours a ∨ (a = x ∧ b = y) := by
  unfold neighboursOf pushNeighbour
  rw [OrdMap.get?_insert]
  by_cases ha : a = x
  · subst ha
    simp
  · simp [ha]

/-- What one invocation adds to the neighbours. -/
theorem mem_joinNeighbours {keys : List Pubkey} {mints : Mints} {neighbours : Neighbours} {ix : Invocation}
    {a b : Pubkey} : b ∈ neighboursOf (joinNeighbours keys mints neighbours ix) a ↔
      b ∈ neighboursOf neighbours a ∨ Linked keys [ix] a b ∧ Joinable mints a b := by
  unfold joinNeighbours
  by_cases hplain : plainTransfer ix = true
  · rw [if_pos hplain]
    simp only
    by_cases hzero : account ix keys 0 = 0 ∨ account ix keys 1 = 0
    · rw [if_pos hzero]
      refine ⟨.inl, fun h => h.resolve_right ?_⟩
      rintro ⟨⟨ha, hb, ix', hmem, -, hends⟩, -⟩
      obtain rfl := List.mem_singleton.mp hmem
      rcases hends with ⟨rfl, rfl⟩ | ⟨rfl, rfl⟩
      · exact hzero.elim ha hb
      · exact hzero.elim hb ha
    · rw [if_neg hzero]
      rw [not_or] at hzero
      by_cases hjoin : Joinable mints (account ix keys 0) (account ix keys 1)
      · rw [if_neg, mem_pushNeighbour, mem_pushNeighbour, or_assoc]
        · refine or_congr_right ?_
          constructor
          · rintro (⟨rfl, rfl⟩ | ⟨rfl, rfl⟩)
            · exact ⟨⟨hzero.1, hzero.2, ix, List.mem_singleton_self _, hplain, .inl ⟨rfl, rfl⟩⟩, hjoin⟩
            · exact ⟨⟨hzero.2, hzero.1, ix, List.mem_singleton_self _, hplain, .inr ⟨rfl, rfl⟩⟩, hjoin.symm⟩
          · rintro ⟨⟨-, -, ix', hmem, -, hends⟩, -⟩
            obtain rfl := List.mem_singleton.mp hmem
            rcases hends with ⟨rfl, rfl⟩ | ⟨rfl, rfl⟩
            · exact .inl ⟨rfl, rfl⟩
            · exact .inr ⟨rfl, rfl⟩
        · rintro (h | h | h)
          · exact hjoin.1 h
          · exact hjoin.2.1 h
          · exact hjoin.2.2 h
      · rw [if_pos]
        · refine ⟨.inl, fun h => h.resolve_right ?_⟩
          rintro ⟨⟨-, -, ix', hmem, -, hends⟩, hjoin'⟩
          obtain rfl := List.mem_singleton.mp hmem
          rcases hends with ⟨rfl, rfl⟩ | ⟨rfl, rfl⟩
          · exact hjoin hjoin'
          · exact hjoin hjoin'.symm
        · unfold Joinable at hjoin
          tauto
  · rw [if_neg hplain]
    refine ⟨.inl, fun h => h.resolve_right ?_⟩
    rintro ⟨⟨-, -, ix', hmem, hplain', -⟩, -⟩
    obtain rfl := List.mem_singleton.mp hmem
    exact hplain hplain'

theorem Linked.append {keys : List Pubkey} {ixs ixs' : List Invocation} {a b : Pubkey} :
    Linked keys (ixs ++ ixs') a b ↔ Linked keys ixs a b ∨ Linked keys ixs' a b := by
  unfold Linked
  simp only [List.mem_append, or_and_right, exists_or, and_or_left]
  exact or_or_or_comm

/-- The neighbours of an account are those it is linked with and can be joined to. -/
theorem mem_neighbours {keys : List Pubkey} {mints : Mints} {invocations : List Invocation} {a b : Pubkey} :
    b ∈ neighboursOf (invocations.foldl (joinNeighbours keys mints) OrdMap.empty) a ↔
      Linked keys invocations a b ∧ Joinable mints a b := by
  induction invocations using List.reverseRecOn with
  | nil => simp [neighboursOf, Linked]
  | append_singleton ixs ix ih =>
    rw [List.foldl_append, List.foldl_cons, List.foldl_nil, mem_joinNeighbours, ih, Linked.append,
      or_and_right]

/-- No account has an empty list of neighbours. -/
theorem neighbours_ne_nil {keys : List Pubkey} {mints : Mints} {invocations : List Invocation} (a : Pubkey) :
    (invocations.foldl (joinNeighbours keys mints) OrdMap.empty).get? a ≠ some [] := by
  have hpush : ∀ (neighbours : Neighbours) (x y : Pubkey), (∀ a, neighbours.get? a ≠ some []) →
      ∀ a, (pushNeighbour neighbours x y).get? a ≠ some [] := by
    intro neighbours x y h a
    unfold pushNeighbour
    rw [OrdMap.get?_insert]
    split_ifs
    · simp
    · exact h a
  induction invocations using List.reverseRecOn generalizing a with
  | nil => simp
  | append_singleton ixs ix ih =>
    rw [List.foldl_append, List.foldl_cons, List.foldl_nil]
    unfold joinNeighbours
    simp only
    split_ifs
    · exact ih a
    · exact ih a
    · exact hpush _ _ _ (hpush _ _ _ ih) a
    · exact ih a

/-- Whoever has neighbours is linked with someone. -/
theorem contains_neighbours {keys : List Pubkey} {mints : Mints} {invocations : List Invocation}
    {a : Pubkey} : (invocations.foldl (joinNeighbours keys mints) OrdMap.empty).contains a = true ↔
      ∃ b, Linked keys invocations a b ∧ Joinable mints a b := by
  simp only [← mem_neighbours]
  rw [OrdMap.contains_iff]
  unfold neighboursOf
  have hne : (invocations.foldl (joinNeighbours keys mints) OrdMap.empty).get? a ≠ some [] :=
    neighbours_ne_nil a
  cases hget : (invocations.foldl (joinNeighbours keys mints) OrdMap.empty).get? a with
  | none => simp
  | some ns =>
    have hns : ns ≠ [] := fun h => hne (h ▸ hget)
    obtain ⟨b, hb⟩ := List.exists_mem_of_ne_nil ns hns
    exact ⟨fun _ => ⟨b, hb⟩, fun _ => ⟨ns, rfl⟩⟩

/-! ### The search -/

/-- Who is queued was a neighbour without a mint. -/
theorem mem_spreadTo (mint v : Pubkey) : ∀ (ns : List Pubkey) (mints : Mints),
    v ∈ (spreadTo mint ns mints).2 ↔ v ∈ ns ∧ mints.get? v = none
  | [], _ => by simp [spreadTo]
  | n :: ns, mints => by
    unfold spreadTo
    by_cases hn : mints.contains n = true
    · rw [if_pos hn, mem_spreadTo mint v ns mints, List.mem_cons]
      obtain ⟨m, hm⟩ := OrdMap.contains_iff.mp hn
      refine ⟨fun h => ⟨.inr h.1, h.2⟩, fun h => ⟨h.1.resolve_left ?_, h.2⟩⟩
      rintro rfl
      simp [h.2] at hm
    · have hnone := OrdMap.contains_eq_false.mp (Bool.not_eq_true _ ▸ hn)
      rw [if_neg hn]
      simp only [List.mem_cons, mem_spreadTo mint v ns]
      by_cases hv : v = n
      · subst hv
        simp [hnone]
      · simp [hv, OrdMap.get?_insert_ne]

/-- Who is queued has the mint, everyone else is as before. -/
theorem get?_spreadTo (mint v : Pubkey) : ∀ (ns : List Pubkey) (mints : Mints),
    (v ∈ (spreadTo mint ns mints).2 → (spreadTo mint ns mints).1.get? v = some mint) ∧
      (v ∉ (spreadTo mint ns mints).2 → (spreadTo mint ns mints).1.get? v = mints.get? v)
  | [], _ => by simp [spreadTo]
  | n :: ns, mints => by
    unfold spreadTo
    by_cases hn : mints.contains n = true
    · rw [if_pos hn]
      exact get?_spreadTo mint v ns mints
    · rw [if_neg hn]
      obtain ⟨hfresh, hothers⟩ := get?_spreadTo mint v ns (mints.insert n mint)
      simp only [List.mem_cons]
      refine ⟨?_, ?_⟩
      · rintro (rfl | hv)
        · by_cases hv : v ∈ (spreadTo mint ns (mints.insert v mint)).2
          · exact hfresh hv
          · rw [hothers hv, OrdMap.get?_insert_self]
        · exact hfresh hv
      · intro hv
        rw [not_or] at hv
        rw [hothers hv.2, OrdMap.get?_insert_ne _ _ hv.1]

theorem hands_spreadTo {neighbours : Neighbours} {mints : Mints} {a mint : Pubkey}
    (hmint : mints.get? a = some mint) :
    Spread.Hands (fun a b => b ∈ neighboursOf neighbours a) mints.get? a
      (spreadTo mint (neighboursOf neighbours a) mints).2
      (spreadTo mint (neighboursOf neighbours a) mints).1.get? where
  mem_fresh v := mem_spreadTo mint v _ mints
  labelled v hv := ((get?_spreadTo mint v _ mints).1 hv).trans hmint.symm
  others v hv := (get?_spreadTo mint v _ mints).2 hv

/-- **The work queue is a search** of the neighbours. -/
theorem search_spreadMints {neighbours : Neighbours} : ∀ {fuel : ℕ} {mints : Mints} {pending : List Pubkey},
    (∀ a ∈ pending, ∃ mint, mints.get? a = some mint) → (spreadMints neighbours fuel mints pending).2 = [] →
      Spread.Search (fun a b => b ∈ neighboursOf neighbours a) mints.get? pending
        (spreadMints neighbours fuel mints pending).1.get?
  | 0, mints, pending, _, hdone => by
    obtain rfl : pending = [] := hdone
    exact .done _
  | _ + 1, _, [], _, _ => .done _
  | fuel + 1, mints, a :: pending, hpending, hdone => by
    obtain ⟨mint, hmint⟩ := hpending a (List.mem_cons_self ..)
    unfold spreadMints at hdone ⊢
    simp only [hmint, Option.getD_some] at hdone ⊢
    have hhands : Spread.Hands (fun a b => b ∈ neighboursOf neighbours a) mints.get? a
        (spreadTo mint (neighboursOf neighbours a) mints).2
        (spreadTo mint (neighboursOf neighbours a) mints).1.get? := hands_spreadTo hmint
    refine .pop hhands (search_spreadMints ?_ hdone)
    intro b hb
    by_cases hfresh : b ∈ (spreadTo mint (neighboursOf neighbours a) mints).2
    · exact ⟨mint, (hhands.labelled b hfresh).trans hmint⟩
    · have hold := (List.mem_append.mp hb).resolve_right hfresh
      obtain ⟨m, hm⟩ := hpending b (List.mem_cons_of_mem _ hold)
      exact ⟨m, (hhands.others b hfresh).trans hm⟩

theorem mem_seeds {keys : List Pubkey} {mints : Mints} {invocations : List Invocation} {a : Pubkey} :
    a ∈ seeds keys mints (invocations.foldl (joinNeighbours keys mints) OrdMap.empty) ↔
      a ∈ keys ∧ (∃ b, Linked keys invocations a b ∧ Joinable mints a b) ∧
        ∃ m, mints.get? a = some m ∧ m ≠ 0 := by
  unfold seeds
  rw [List.mem_filter, decide_eq_true_eq, contains_neighbours]
  simp [Option.any_eq_true]

/-- Known and not ambiguous: a source of mints. -/
theorem seeds_labelled {keys : List Pubkey} {mints : Mints} {neighbours : Neighbours} {a : Pubkey}
    (h : a ∈ seeds keys mints neighbours) : ∃ m, mints.get? a = some m ∧ m ≠ 0 := by
  have hany := (of_decide_eq_true (List.mem_filter.mp h).2).2
  simpa [Option.any_eq_true] using hany

/-- **Inferring the mints is one search**, from the direct evidence along the links. -/
theorem search_tokenMints (parsePubkey : String → Option Pubkey) (meta' : TransactionStatusMeta)
    (keys : List Pubkey) (invocations : List Invocation) :
    ∃ result, Spread.Search
        (fun a b => Linked keys invocations a b ∧
          Joinable (directMints parsePubkey meta' keys invocations) a b)
        (directMints parsePubkey meta' keys invocations).get?
        (seeds keys (directMints parsePubkey meta' keys invocations) (invocations.foldl
          (joinNeighbours keys (directMints parsePubkey meta' keys invocations)) OrdMap.empty)) result ∧
      ∀ a, (tokenMintsFromInvocations parsePubkey meta' keys invocations).get? a =
        (result a).filter (· ≠ 0) := by
  let mints := directMints parsePubkey meta' keys invocations
  let neighbours := invocations.foldl (joinNeighbours keys mints) OrdMap.empty
  let pending := seeds keys mints neighbours
  let spread := spreadMints neighbours (pending.length + neighbours.size) mints pending
  have hsearch : Spread.Search (fun a b => b ∈ neighboursOf neighbours a) mints.get? pending spread.1.get? := by
    apply search_spreadMints
    · intro a ha
      obtain ⟨m, hm, -⟩ := seeds_labelled ha
      exact ⟨m, hm⟩
    · exact spread_done keys mints invocations
  simp only [neighbours, mem_neighbours] at hsearch
  refine ⟨_, hsearch, fun a => ?_⟩
  have hfilter : ∀ m : Mints, (m.filter fun _ mint => mint ≠ 0).get? a = (m.get? a).filter (· ≠ 0) := by
    intro m
    rw [OrdMap.get?_filter]
  by_cases hempty : mints.size = 0
  · have hnone := OrdMap.size_eq_zero.mp hempty
    have hpending : pending = [] := by
      apply List.eq_nil_iff_forall_not_mem.mpr
      intro b hb
      obtain ⟨m, hm, -⟩ := seeds_labelled hb
      simp [hnone b] at hm
    have hspread : spread.1 = mints := by
      show (spreadMints neighbours (pending.length + neighbours.size) mints pending).1 = mints
      rw [hpending]
      cases [].length + neighbours.size <;> rfl
    show (if mints.size = 0 then mints else _).get? a = (spread.1.get? a).filter (· ≠ 0)
    rw [if_pos hempty, hspread, hnone a]
    rfl
  · show (if mints.size = 0 then mints else spread.1.filter fun _ mint => mint ≠ 0).get? a = _
    rw [if_neg hempty, hfilter]

/-! ### Mints and the evidence for them -/

/-- `b` may learn a mint from `a`. -/
def Passes (keys : List Pubkey) (invocations : List Invocation) (evidence : List (Pubkey × Pubkey))
    (a b : Pubkey) : Prop :=
  Linked keys invocations a b ∧ ∀ m, ¬ Evidence evidence b m

/-- All evidence of `a` is of `m`. -/
def OnlyEvidence (evidence : List (Pubkey × Pubkey)) (a m : Pubkey) : Prop :=
  Evidence evidence a m ∧ ∀ m', Evidence evidence a m' → m' = m

/-- What the inferred mints say of each account. -/
structure SoundMints (evidence : List (Pubkey × Pubkey)) (passes : Pubkey → Pubkey → Prop) (mints : Mints) :
    Prop where
  ambiguous : ∀ a m m', Evidence evidence a m → Evidence evidence a m' → m ≠ m' → mints.get? a = none
  direct : ∀ a m, OnlyEvidence evidence a m → mints.get? a = some m
  spread : ∀ a m, (∀ m', ¬ Evidence evidence a m') → mints.get? a = some m →
    ∃ s, OnlyEvidence evidence s m ∧ Relation.ReflTransGen passes s a
  reached : ∀ a s m, (∀ m', ¬ Evidence evidence a m') → OnlyEvidence evidence s m →
    Relation.ReflTransGen passes s a → ∃ m', mints.get? a = some m'
  missing : mints.get? 0 = none

theorem mem_keys_of_account {ix : Invocation} {keys : List Pubkey} {i : ℕ} (h : account ix keys i ≠ 0) :
    account ix keys i ∈ keys := by
  unfold account key at h ⊢
  cases hi : ix.accounts[i]? with
  | none => simp [hi] at h
  | some j =>
    simp only [hi, Option.map_some, Option.getD_some] at h ⊢
    cases hj : keys[j.toNat]? with
    | none => simp [hj] at h
    | some k => exact List.mem_of_getElem? hj

theorem Linked.mem_keys {keys : List Pubkey} {invocations : List Invocation} {a b : Pubkey}
    (h : Linked keys invocations a b) : a ∈ keys := by
  obtain ⟨ha, -, ix, -, -, ⟨rfl, -⟩ | ⟨-, rfl⟩⟩ := h
  · exact mem_keys_of_account ha
  · exact mem_keys_of_account ha

section Direct

variable {evidence : List (Pubkey × Pubkey)} {mints : Mints} {a m : Pubkey}
  (hsummary : ∀ a, Summary (Evidence evidence a) (mints.get? a))

include hsummary

theorem get?_eq_none_iff : mints.get? a = none ↔ ∀ m, ¬ Evidence evidence a m := by
  have h := hsummary a
  refine ⟨fun hnone => ?_, fun hno => ?_⟩
  · rwa [hnone] at h
  · exact h.unique hno

theorem get?_eq_some_iff (hm : m ≠ 0) : mints.get? a = some m ↔ OnlyEvidence evidence a m := by
  have h := hsummary a
  refine ⟨fun hsome => ?_, fun honly => ?_⟩
  · rw [hsome] at h
    rcases h with ⟨h0, -⟩ | ⟨-, hev, honly⟩
    · exact absurd h0 hm
    · exact ⟨hev, honly⟩
  · have hnew : Summary (Evidence evidence a) (some m) := .inr ⟨hm, honly⟩
    exact h.unique hnew

/-- A path of links from an account with one mint, over accounts without
evidence, is open to the search. -/
theorem open_of_passes {keys : List Pubkey} {invocations : List Invocation} {s : Pubkey}
    (hs : OnlyEvidence evidence s m) (h : Relation.ReflTransGen (Passes keys invocations evidence) s a) :
    mints.get? a ≠ some 0 ∧ Relation.ReflTransGen (Spread.Open
      (fun a b => Linked keys invocations a b ∧ Joinable mints a b) mints.get?) s a := by
  induction h with
  | refl =>
    have hm : m ≠ 0 := hs.1.2.2
    rw [(get?_eq_some_iff hsummary hm).mpr hs]
    exact ⟨fun h => hm (Option.some.inj h), .refl⟩
  | tail _ hpass ih =>
    obtain ⟨hlinked, hno⟩ := hpass
    have hnone := (get?_eq_none_iff hsummary).mpr hno
    have hjoin : Joinable mints _ _ := ⟨ih.1, by rw [hnone]; simp, by rw [hnone]; simp⟩
    exact ⟨by rw [hnone]; simp, ih.2.tail ⟨⟨hlinked, hjoin⟩, hnone⟩⟩

end Direct

theorem summary_directMints (parsePubkey : String → Option Pubkey) (meta' : TransactionStatusMeta)
    (keys : List Pubkey) (invocations : List Invocation) (a : Pubkey) :
    Summary (Evidence (mintEvidence parsePubkey meta' keys invocations) a)
      ((directMints parsePubkey meta' keys invocations).get? a) := by
  rw [directMints_eq]
  exact summary_recordEvidence _ a

/-- **The inferred mints are sound and complete.** One mint on record stays,
different ones leave none, and an account without a record has a mint if links
lead to it from an account with one, whose mint it then is. -/
theorem token_mints_sound (parsePubkey : String → Option Pubkey) (meta' : TransactionStatusMeta)
    (keys : List Pubkey) (invocations : List Invocation) :
    SoundMints (mintEvidence parsePubkey meta' keys invocations)
      (Passes keys invocations (mintEvidence parsePubkey meta' keys invocations))
      (tokenMintsFromInvocations parsePubkey meta' keys invocations) := by
  have hsummary := summary_directMints parsePubkey meta' keys invocations
  obtain ⟨result, hsearch, hget⟩ := search_tokenMints parsePubkey meta' keys invocations
  set mints := directMints parsePubkey meta' keys invocations
  have hlabelled : ∀ s ∈ seeds keys mints (invocations.foldl (joinNeighbours keys mints) OrdMap.empty),
      mints.get? s ≠ none := by
    intro s hs
    obtain ⟨m, hm, -⟩ := seeds_labelled hs
    simp [hm]
  obtain ⟨hkept, -, -⟩ := hsearch.first hlabelled
  have hdefault : ∀ m, ¬ Evidence (mintEvidence parsePubkey meta' keys invocations) 0 m :=
    fun m hm => hm.2.1 rfl
  have hpasses : ∀ s a, Relation.ReflTransGen (Spread.Open
      (fun a b => Linked keys invocations a b ∧ Joinable mints a b) mints.get?) s a →
      Relation.ReflTransGen (Passes keys invocations (mintEvidence parsePubkey meta' keys invocations)) s a :=
    fun s a hpath => Relation.ReflTransGen.mono
      (fun _ _ h => ⟨h.1.1, (get?_eq_none_iff hsummary).mp h.2⟩) s a hpath
  constructor
  case ambiguous =>
    intro a m m' hm hm' hne
    have hmarked : mints.get? a = some 0 := (hsummary a).unique (.inl ⟨rfl, m, m', hm, hm', hne⟩)
    rw [hget, hkept a (by simp [hmarked]), hmarked]
    rfl
  case direct =>
    intro a m honly
    have hm : m ≠ 0 := honly.1.2.2
    have hsome := (get?_eq_some_iff hsummary hm).mpr honly
    rw [hget, hkept a (by simp [hsome]), hsome]
    exact Option.filter_some_pos (by simpa using hm)
  case spread =>
    intro a m hno hsome
    rw [hget] at hsome
    obtain ⟨hresult, hm⟩ := Option.filter_eq_some_iff.mp hsome
    obtain ⟨s, hs, hpath, hlabel⟩ := (hsearch.reached hlabelled).1
      ((get?_eq_none_iff hsummary).mpr hno) (by simp [hresult])
    rw [hresult] at hlabel
    exact ⟨s, (get?_eq_some_iff hsummary (by simpa using hm)).mp hlabel.symm, hpasses s a hpath⟩
  case reached =>
    intro a s m hno honly hpath
    have hm : m ≠ 0 := honly.1.2.2
    have hsome := (get?_eq_some_iff hsummary hm).mpr honly
    have hopen := (open_of_passes hsummary honly hpath).2
    rcases hopen.cases_head with rfl | ⟨b, ⟨⟨hlinked, hjoin⟩, -⟩, -⟩
    · exact absurd honly.1 (hno m)
    have hseed := mem_seeds.mpr ⟨hlinked.mem_keys, ⟨b, hlinked, hjoin⟩, m, hsome, hm⟩
    have hreached := (hsearch.reached hlabelled).2 ⟨s, hseed, hopen⟩
    obtain ⟨m', hm'⟩ := Option.ne_none_iff_exists'.mp hreached
    obtain ⟨s', hs', -, hlabel⟩ := (hsearch.reached hlabelled).1
      ((get?_eq_none_iff hsummary).mpr hno) hreached
    obtain ⟨m'', hm'', hne⟩ := seeds_labelled hs'
    refine ⟨m'', ?_⟩
    rw [hget, hlabel, hm'']
    exact Option.filter_some_pos (by simpa using hne)
  case missing =>
    have hnone : mints.get? 0 = none := (get?_eq_none_iff hsummary).mpr hdefault
    have hresult : result 0 = none := by
      by_contra hne
      obtain ⟨s, hs, hpath, -⟩ := (hsearch.reached hlabelled).1 hnone hne
      rcases hpath.cases_tail with rfl | ⟨b, -, ⟨⟨-, hzero, -⟩, -⟩, -⟩
      · exact hlabelled _ hs hnone
      · exact hzero rfl
    rw [hget, hresult]
    rfl

/-! ### Order -/

/-- **The mints depend on which evidence and which links there are**, not on
their order or how often they are repeated. -/
theorem token_mints_same_evidence {parsePubkey : String → Option Pubkey} {meta₁ meta₂ : TransactionStatusMeta}
    {keys : List Pubkey} {ixs₁ ixs₂ : List Invocation}
    (hevidence : ∀ e, e ∈ mintEvidence parsePubkey meta₁ keys ixs₁ ↔
      e ∈ mintEvidence parsePubkey meta₂ keys ixs₂)
    (hlinked : ∀ a b, Linked keys ixs₁ a b ↔ Linked keys ixs₂ a b) :
    tokenMintsFromInvocations parsePubkey meta₁ keys ixs₁ =
      tokenMintsFromInvocations parsePubkey meta₂ keys ixs₂ := by
  obtain ⟨result₁, hsearch₁, hget₁⟩ := search_tokenMints parsePubkey meta₁ keys ixs₁
  obtain ⟨result₂, hsearch₂, hget₂⟩ := search_tokenMints parsePubkey meta₂ keys ixs₂
  have hmints : directMints parsePubkey meta₁ keys ixs₁ = directMints parsePubkey meta₂ keys ixs₂ := by
    apply OrdMap.ext_get?
    intro a
    have h₁ := summary_directMints parsePubkey meta₁ keys ixs₁ a
    have h₂ := summary_directMints parsePubkey meta₂ keys ixs₂ a
    refine (h₁.congr fun m => ?_).unique h₂
    unfold Evidence
    rw [hevidence]
  rw [hmints] at hsearch₁
  set mints := directMints parsePubkey meta₂ keys ixs₂
  have hseeds : seeds keys mints (ixs₁.foldl (joinNeighbours keys mints) OrdMap.empty) =
      seeds keys mints (ixs₂.foldl (joinNeighbours keys mints) OrdMap.empty) := by
    unfold seeds
    apply List.filter_congr
    intro k _
    rw [decide_eq_decide, contains_neighbours, contains_neighbours]
    simp only [hlinked]
  rw [hseeds] at hsearch₁
  have hresult : result₁ = result₂ := by
    refine hsearch₁.unique hsearch₂ (fun a b => by rw [hlinked]) fun s hs => ?_
    obtain ⟨m, hm, -⟩ := seeds_labelled hs
    simp [hm]
  apply OrdMap.ext_get?
  intro a
  rw [hget₁, hget₂, hresult]

/-- **The mints do not depend on the order** of the invocations or of the token balances. -/
theorem token_mints_order_independent {parsePubkey : String → Option Pubkey}
    {meta₁ meta₂ : TransactionStatusMeta} {keys : List Pubkey} {ixs₁ ixs₂ : List Invocation}
    (hixs : ixs₁.Perm ixs₂)
    (hbalances : (meta₁.preTokenBalances ++ meta₁.postTokenBalances).Perm
      (meta₂.preTokenBalances ++ meta₂.postTokenBalances)) :
    tokenMintsFromInvocations parsePubkey meta₁ keys ixs₁ =
      tokenMintsFromInvocations parsePubkey meta₂ keys ixs₂ := by
  apply token_mints_same_evidence
  · intro e
    unfold mintEvidence
    exact ((hbalances.flatMap_right _).append (hixs.flatMap_right _)).mem_iff
  · intro a b
    unfold Linked
    simp only [hixs.mem_iff]

/-- Two accounts with a balance of WSOL, and a third one that a plain transfer
and a checked one reach: swapping both pairs changes nothing. -/
theorem token_mints_order_independent_swapped :
    let parsePubkey : String → Option Pubkey := fun s =>
      if s = "So11111111111111111111111111111111111111112" then some wsolMint else none
    let balance : ℕ → TokenBalance := fun i => ⟨i, "So11111111111111111111111111111111111111112"⟩
    let meta' : List TokenBalance → TransactionStatusMeta := fun balances => ⟨none, [], balances, [], [], []⟩
    let plain : Invocation := ⟨⟨0, none, some 1⟩, splToken, true, [0, 2, 4], 3 :: List.replicate 8 0⟩
    let checked : Invocation := ⟨⟨1, none, some 1⟩, splToken, true, [0, 5, 1, 4], 12 :: List.replicate 9 0⟩
    let keys : List Pubkey := [11, 12, 13, 14, 15, wsolMint]
    tokenMintsFromInvocations parsePubkey (meta' [balance 0, balance 3]) keys [plain, checked] =
        tokenMintsFromInvocations parsePubkey (meta' [balance 3, balance 0]) keys [checked, plain] ∧
      (tokenMintsFromInvocations parsePubkey (meta' [balance 0, balance 3]) keys
        [plain, checked]).get? 13 = some wsolMint := by
  intro parsePubkey balance meta' plain checked keys
  exact ⟨token_mints_order_independent (List.Perm.swap _ _ _) (List.Perm.swap _ _ _), by decide⟩

end Routes
end ShredSdk
