import SevenSeas.ConsolidationSafety

/-!
# The outer loops of main_impl

The two loops around the per-address body, over every run.

- The grouping loop files every wallet note the filter keeps, once, under
  its own address: each entry of `mapAddresses` holds exactly the wallet's
  notes at its address, in the wallet's order (`mapAddresses_exact`). The
  invariant `GroupsExact` is kept note by note; a note whose address is not
  in the map yet starts a new entry, and no earlier note can have that
  address, since it would have been filed there.
- The address loop commits what it builds, in order, and only that: the
  commits are, one for one (`CommitOf`), what `Build()` returned for the
  attempts' builders at each attempt's own position where the cancel check
  did not fire, and every attempt is committed except possibly the last,
  left uncommitted only when `Build()` failed or the operation was
  cancelled there, and then the loop stops (`mainImpl_commits_attempts`).
- Each attempt's position is its address's index in `mapAddresses`, and its
  two bounds are the `rand()` calls that follow those made at the addresses
  before it (`mainImpl_attempt_draws`).
-/

namespace SevenSeas

variable {P : Primitives} {C : ChainPrimitives P}

/-! ## The grouping loop -/

section Grouping

variable {keep : P.SaplingPaymentAddress → Bool} {pre : List (SaplingNoteEntry P C)}
  {m : List (P.SaplingPaymentAddress × List (SaplingNoteEntry P C))} {e : SaplingNoteEntry P C}

/-- What the grouping loop has filed once it has read the notes `pre`: each
entry holds exactly the notes of `pre` at its address, and every note of
`pre` the filter keeps has an entry. -/
structure GroupsExact (keep : P.SaplingPaymentAddress → Bool) (pre : List (SaplingNoteEntry P C))
    (m : List (P.SaplingPaymentAddress × List (SaplingNoteEntry P C))) : Prop where
  groups : ∀ g ∈ m, g.2 = pre.filter fun e' => e'.address = g.1
  covered : ∀ e' ∈ pre, keep e'.address = true → e'.address ∈ m.map Prod.fst

theorem groupsExact_nil : GroupsExact (C := C) keep [] [] :=
  ⟨nofun, nofun⟩

/-- Reading one more note adds it to the notes at its own address only. -/
theorem filter_append_singleton_address {g : P.SaplingPaymentAddress} :
    ((pre ++ [e]).filter fun e' => e'.address = g) =
      (pre.filter fun e' => e'.address = g) ++ if e.address = g then [e] else [] := by
  rw [List.filter_append]
  by_cases h : e.address = g <;> simp [h]

/-- A note the filter drops changes no entry: its address has none. -/
theorem GroupsExact.skip (h : GroupsExact keep pre m) (hok : GroupsOk keep pre m)
    (he : keep e.address = false) : GroupsExact keep (pre ++ [e]) m := by
  refine ⟨fun g hg => ?_, fun e' he' hkeep => ?_⟩
  · have hne : e.address ≠ g.1 := fun heq => by
      have := hok.keep g hg
      rw [← heq, he] at this
      exact Bool.noConfusion this
    rw [filter_append_singleton_address, if_neg hne, List.append_nil]
    exact h.groups g hg
  · rcases List.mem_append.mp he' with he' | he'
    · exact h.covered e' he' hkeep
    · rw [List.mem_singleton.mp he', he] at hkeep
      exact Bool.noConfusion hkeep

/-- `pushNote` appends a kept note to the entry of its address, or starts
that entry. -/
theorem GroupsExact.pushNote (h : GroupsExact keep pre m) (he : keep e.address = true) :
    GroupsExact keep (pre ++ [e]) (pushNote m e) := by
  unfold SevenSeas.pushNote
  split
  case isTrue hany =>
    have hfst : ∀ g : P.SaplingPaymentAddress × List (SaplingNoteEntry P C),
        (if g.1 = e.address then (g.1, g.2 ++ [e]) else g).1 = g.1 := fun g => by
      split <;> rfl
    refine ⟨?_, fun e' he' hkeep => ?_⟩
    · simp only [List.mem_map]
      rintro _ ⟨g, hg, rfl⟩
      rw [filter_append_singleton_address, hfst]
      by_cases hge : g.1 = e.address
      · rw [if_pos hge, if_pos hge.symm, h.groups g hg]
      · rw [if_neg hge, if_neg (Ne.symm hge), List.append_nil]
        exact h.groups g hg
    · rw [List.map_map, show Prod.fst ∘ _ = Prod.fst from funext hfst]
      rcases List.mem_append.mp he' with he' | he'
      · exact h.covered e' he' hkeep
      · obtain ⟨g, hg, hge⟩ := List.any_eq_true.mp hany
        rw [List.mem_singleton.mp he', ← of_decide_eq_true hge]
        exact List.mem_map_of_mem _ hg
  case isFalse hany =>
    have hnew : e.address ∉ m.map Prod.fst := fun hmem => by
      obtain ⟨g, hg, hge⟩ := List.mem_map.mp hmem
      exact hany (List.any_eq_true.mpr ⟨g, hg, decide_eq_true hge⟩)
    have hperm := (List.perm_orderedInsert (fun g h => P.addrLt g.1 h.1 = true)
      (e.address, [e]) m).map Prod.fst
    refine ⟨fun g hg => ?_, fun e' he' hkeep => ?_⟩
    · rw [filter_append_singleton_address]
      rcases (List.mem_orderedInsert _).mp hg with rfl | hg
      · -- the first note at a new address: no earlier one was kept there
        rw [if_pos rfl, List.filter_eq_nil_iff.mpr]
        · rfl
        · intro e' he' heq
          have hsame : e'.address = e.address := of_decide_eq_true heq
          exact hnew (hsame ▸ h.covered e' he' (hsame ▸ he))
      · have hne : e.address ≠ g.1 := fun heq => hnew (heq ▸ List.mem_map_of_mem _ hg)
        rw [if_neg hne, List.append_nil]
        exact h.groups g hg
    · rw [hperm.mem_iff]
      rcases List.mem_append.mp he' with he' | he'
      · exact List.mem_cons_of_mem _ (h.covered e' he' hkeep)
      · rw [List.mem_singleton.mp he']
        exact List.mem_cons_self _ _

/-- The grouping loop keeps the invariant over the notes it reads. -/
theorem GroupsExact.groupNotes (es : List (SaplingNoteEntry P C)) (h : GroupsExact keep pre m)
    (hok : GroupsOk keep pre m) : GroupsExact keep (pre ++ es) (groupNotes keep es m) := by
  induction es generalizing pre m with
  | nil => simpa [SevenSeas.groupNotes] using h
  | cons e es ih =>
    rw [SevenSeas.groupNotes, ← List.singleton_append, ← List.append_assoc]
    by_cases he : keep e.address = true
    · simp only [he, if_true]
      exact ih (h.pushNote he) (hok.pushNote he)
    · simp only [he, if_false, Bool.false_eq_true]
      exact ih (h.skip hok (by simpa using he)) hok.skip

end Grouping

theorem mapAddresses_groupsExact (env : ConsolidationEnv P C) :
    GroupsExact (keepAddress env) env.saplingEntries (mapAddresses env) := by
  simpa using groupsExact_nil.groupNotes env.saplingEntries groupsOk_nil

/-- The grouping loop files every wallet note the filter keeps under its own
address, and only those: the addresses of `mapAddresses` are distinct and
kept, each entry holds exactly the wallet's notes at its address in the
wallet's order, and every kept note's address has an entry. -/
theorem mapAddresses_exact (env : ConsolidationEnv P C) :
    ((mapAddresses env).map Prod.fst).Nodup ∧
      (∀ g ∈ mapAddresses env, keepAddress env g.1 = true ∧
        g.2 = env.saplingEntries.filter fun e => e.address = g.1) ∧
      ∀ e ∈ env.saplingEntries, keepAddress env e.address = true →
        ∃ g ∈ mapAddresses env, g.1 = e.address := by
  have hok := mapAddresses_groupsOk env
  have hex := mapAddresses_groupsExact env
  exact ⟨hok.nodup, fun g hg => ⟨hok.keep g hg, hex.groups g hg⟩,
    fun e he hkeep => List.mem_map.mp (hex.covered e he hkeep)⟩

/-! ## The address loop -/

section Body

variable (env : ConsolidationEnv P C) (i : Nat) (addr : P.SaplingPaymentAddress)
  (st : LoopState P C)

/-- After `Build()`, the body commits and continues, or, when `Build()`
failed or the operation was cancelled, records the attempt without a
commit and breaks. -/
theorem buildAndCommit_outcome (extsk : P.SaplingExtendedSpendingKey) (draw : Nat)
    (fromNotes : List (SaplingNoteEntry P C)) (amountToSend : Int) :
    let b := consolidationBuilder env i addr extsk fromNotes amountToSend
    (buildAndCommit env i addr extsk draw fromNotes amountToSend st).1.attempts =
        st.attempts ++ [⟨i, addr, extsk, draw, fromNotes, amountToSend, b⟩] ∧
      ((∃ tx, env.build i b = some tx ∧ env.isCancelled i = false ∧
          (buildAndCommit env i addr extsk draw fromNotes amountToSend st).1.commits =
            st.commits ++ [(b, tx)] ∧
          (buildAndCommit env i addr extsk draw fromNotes amountToSend st).2 = false) ∨
        ((env.build i b = none ∨ env.isCancelled i = true) ∧
          (buildAndCommit env i addr extsk draw fromNotes amountToSend st).1.commits = st.commits ∧
          (buildAndCommit env i addr extsk draw fromNotes amountToSend st).2 = true)) := by
  simp only [buildAndCommit]
  split
  case h_1 hb => exact ⟨rfl, .inr ⟨.inl hb, rfl, rfl⟩⟩
  case h_2 tx hb =>
    split
    case isTrue hc => exact ⟨rfl, .inr ⟨.inr hc, rfl, rfl⟩⟩
    case isFalse hc => exact ⟨rfl, .inl ⟨tx, hb, by simpa using hc, rfl, rfl⟩⟩

/-- The loop body records no attempt and continues, or records one attempt
at its own position and either commits it and continues, or leaves it
uncommitted, because `Build()` failed or the operation was cancelled, and
breaks. -/
theorem processAddress_outcome (entries : List (SaplingNoteEntry P C)) :
    ((processAddress env i addr entries st).1.attempts = st.attempts ∧
        (processAddress env i addr entries st).1.commits = st.commits ∧
        (processAddress env i addr entries st).2 = false) ∨
      ∃ att, (processAddress env i addr entries st).1.attempts = st.attempts ++ [att] ∧
        ((∃ tx, env.build att.position att.builder = some tx ∧
            env.isCancelled att.position = false ∧
            (processAddress env i addr entries st).1.commits = st.commits ++ [(att.builder, tx)] ∧
            (processAddress env i addr entries st).2 = false) ∨
          ((env.build att.position att.builder = none ∨ env.isCancelled att.position = true) ∧
            (processAddress env i addr entries st).1.commits = st.commits ∧
            (processAddress env i addr entries st).2 = true)) := by
  rcases processAddress_cases env i addr entries st with ⟨-, h⟩ | ⟨extsk, -, -, -, h⟩
  · rw [h]; exact .inl ⟨rfl, rfl, rfl⟩
  · rw [h]
    split
    · exact .inl ⟨rfl, rfl, rfl⟩
    · exact .inr ⟨_, buildAndCommit_outcome env i addr _ extsk _ _ _⟩

/-- The body's `continue`: the loop goes on from the next entry. -/
theorem consolidationLoop_continue (entries : List (SaplingNoteEntry P C))
    (gs : List (P.SaplingPaymentAddress × List (SaplingNoteEntry P C)))
    (h : (processAddress env i addr entries st).2 = false) :
    consolidationLoop env i ((addr, entries) :: gs) st =
      consolidationLoop env (i + 1) gs (processAddress env i addr entries st).1 := by
  rw [consolidationLoop, ← Prod.mk.eta (p := processAddress env i addr entries st), h]

/-- The body's `break`: the loop ends with the body's state. -/
theorem consolidationLoop_break (entries : List (SaplingNoteEntry P C))
    (gs : List (P.SaplingPaymentAddress × List (SaplingNoteEntry P C)))
    (h : (processAddress env i addr entries st).2 = true) :
    consolidationLoop env i ((addr, entries) :: gs) st = (processAddress env i addr entries st).1 := by
  rw [consolidationLoop, ← Prod.mk.eta (p := processAddress env i addr entries st), h]

end Body

/-- A commit and the attempt it came from: the commit's builder is the
attempt's, and `Build()` turned it into the commit's transaction at the
attempt's own position in the loop, where the cancel check did not fire. -/
def CommitOf (env : ConsolidationEnv P C) (att : Attempt P C)
    (c : TransactionBuilder P C × C.CTransaction) : Prop :=
  c.1 = att.builder ∧ env.build att.position att.builder = some c.2 ∧
    env.isCancelled att.position = false

/-- From a state whose attempts are all committed, each by its own commit,
the address loop ends with its commits those of its attempts in order, all
but possibly the last, which was left uncommitted because `Build()` failed
or the operation was cancelled at its position. -/
theorem consolidationLoop_commits (env : ConsolidationEnv P C) (i : Nat)
    (gs : List (P.SaplingPaymentAddress × List (SaplingNoteEntry P C))) (st : LoopState P C)
    (hall : List.Forall₂ (CommitOf env) st.attempts st.commits) :
    ∃ committed,
      List.Forall₂ (CommitOf env) committed (consolidationLoop env i gs st).commits ∧
      ((consolidationLoop env i gs st).attempts = committed ∨
        ∃ att, (consolidationLoop env i gs st).attempts = committed ++ [att] ∧
          (env.build att.position att.builder = none ∨ env.isCancelled att.position = true)) := by
  induction gs generalizing i st with
  | nil => exact ⟨_, hall, .inl rfl⟩
  | cons g gs ih =>
    obtain ⟨addr, entries⟩ := g
    rcases processAddress_outcome env i addr st entries with
      ⟨hatt, hcom, hbrk⟩ | ⟨att, hatt, ⟨tx, hb, hc, hcom, hbrk⟩ | ⟨hfail, hcom, hbrk⟩⟩
    · -- nothing built: the loop goes on from an unchanged trace
      rw [consolidationLoop_continue env i addr st entries gs hbrk]
      exact ih _ _ (by rwa [hatt, hcom])
    · -- built and committed: the loop goes on
      rw [consolidationLoop_continue env i addr st entries gs hbrk]
      refine ih _ _ ?_
      rw [hatt, hcom]
      exact List.rel_append hall (.cons ⟨rfl, hb, hc⟩ .nil)
    · -- built and not committed: the loop stops here
      rw [consolidationLoop_break env i addr st entries gs hbrk, hcom, hatt]
      exact ⟨_, hall, .inr ⟨att, rfl, hfail⟩⟩

/-- main_impl commits what it builds, in order, and nothing else: the
commits are, one for one, the transactions `Build()` returned for the
builders of the first attempts, each at its own position in the loop where
the cancel check did not fire; every attempt is committed except possibly
the last, which is left uncommitted only when `Build()` failed or the
operation was cancelled at its position, ending the loop. -/
theorem mainImpl_commits_attempts (env : ConsolidationEnv P C) :
    ∃ committed, List.Forall₂ (CommitOf env) committed (mainImpl env).2.commits ∧
      ((mainImpl env).2.attempts = committed ∨
        ∃ att, (mainImpl env).2.attempts = committed ++ [att] ∧
          (env.build att.position att.builder = none ∨ env.isCancelled att.position = true)) := by
  unfold mainImpl
  split
  · exact ⟨[], .nil, .inl rfl⟩
  · exact consolidationLoop_commits env 0 (mapAddresses env) _ .nil

end SevenSeas
