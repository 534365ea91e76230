import SevenSeas.Consolidation

/-!
# What a consolidation run spends

The safety of main_impl's spends, over every run: every field of
`ConsolidationEnv` (the wallet's notes and keys, the random draws, the
allow-list, the witness service, `Build()` and the cancel flag) is
arbitrary. The one assumption is the wallet's: `GetFilteredNotes` returns
each outpoint once.

The proof follows the loops of main_impl. The grouping loop keeps a
`std::map` with distinct keys, each kept by the filter, each filing a
sublist of the notes read so far under its own address (`GroupsOk`). The
selection loop picks a sublist of the eligible notes
(`selectNotes_sublist`), and `Build()` is called on the builder of
`consolidationBuilder`, whose spends are a prefix of that selection
(`consolidationBuilder_eq`). The address loop records at most one attempt
per map entry, in key order, each at its entry's position and with the
`rand()` call that follows those made before it (`consolidationLoop_attempts`).
Distinct addresses and distinct outpoints then make the outpoints spent over
the whole run distinct.
-/

namespace SevenSeas

variable {P : Primitives} {C : ChainPrimitives P}

/-- The entries a builder spends: the selected notes up to the first missing
witness, one per `AddSaplingSpend`. -/
def Attempt.spentEntries (att : Attempt P C) : List (SaplingNoteEntry P C) :=
  att.fromNotes.take att.builder.spends.length

/-- What main_impl guarantees of a builder it calls `Build()` on: the key is
the wallet's key for `addr`; the selected notes are wallet entries at `addr`
whose address resolves to that key's incoming viewing key; the spends are
the first of them, in order, under that key; the one output goes back to
`addr`, an allowed address when the allow-list is in use. -/
structure AttemptSafe (env : ConsolidationEnv P C) (att : Attempt P C) : Prop where
  key : env.keyStore.getSaplingExtendedSpendingKey att.addr default = (true, att.extsk)
  sublist : att.fromNotes.Sublist env.saplingEntries
  address : ∀ e ∈ att.fromNotes, e.address = att.addr
  ivk : ∀ e ∈ att.fromNotes,
    env.keyStore.getSaplingIncomingViewingKey e.address default = (true, P.spendingIvk att.extsk)
  spends : att.builder.spends.map (·.note) = att.spentEntries.map (·.note)
  spendKey : ∀ sp ∈ att.builder.spends, sp.expsk = P.expsk att.extsk
  output : att.builder.outputs.map (·.address) = [att.addr]
  allowed : env.fConsolidationMapUsed = true →
    att.addr ∈ allowedAddresses C env.consolidateSaplingAddress

/-! ## The address map -/

section Grouping

variable {keep : P.SaplingPaymentAddress → Bool} {pre : List (SaplingNoteEntry P C)}
  {m : List (P.SaplingPaymentAddress × List (SaplingNoteEntry P C))} {e : SaplingNoteEntry P C}

/-- The grouping loop's invariant once it has read the notes `pre`: distinct
keys, each kept by the filter, each filing a sublist of `pre` under its own
address. -/
structure GroupsOk (keep : P.SaplingPaymentAddress → Bool) (pre : List (SaplingNoteEntry P C))
    (m : List (P.SaplingPaymentAddress × List (SaplingNoteEntry P C))) : Prop where
  nodup : (m.map Prod.fst).Nodup
  keep : ∀ g ∈ m, keep g.1 = true
  address : ∀ g ∈ m, ∀ e ∈ g.2, e.address = g.1
  sublist : ∀ g ∈ m, g.2.Sublist pre

theorem groupsOk_nil : GroupsOk (C := C) keep [] [] :=
  ⟨List.nodup_nil, nofun, nofun, nofun⟩

/-- A note the filter drops leaves the map as it was. -/
theorem GroupsOk.skip (h : GroupsOk keep pre m) : GroupsOk keep (pre ++ [e]) m :=
  { h with sublist := fun g hg => (h.sublist g hg).trans (List.sublist_append_left pre [e]) }

/-- `pushNote` keeps the invariant for a note the filter keeps. -/
theorem GroupsOk.pushNote (h : GroupsOk keep pre m) (he : keep e.address = true) :
    GroupsOk keep (pre ++ [e]) (pushNote m e) := by
  unfold SevenSeas.pushNote
  split
  case isTrue =>
    have hfst : ∀ g : P.SaplingPaymentAddress × List (SaplingNoteEntry P C),
        (if g.1 = e.address then (g.1, g.2 ++ [e]) else g).1 = g.1 := fun g => by
      split <;> rfl
    refine ⟨?_, ?_, ?_, ?_⟩
    · rw [List.map_map, show Prod.fst ∘ _ = Prod.fst from funext hfst]
      exact h.nodup
    all_goals
      simp only [List.mem_map]
      rintro _ ⟨g, hg, rfl⟩
    · rw [hfst]; exact h.keep g hg
    all_goals by_cases hge : g.1 = e.address <;> simp only [hge, if_true, if_false]
    · -- the group of `e.address` gains `e`
      intro e' he'
      rcases List.mem_append.mp he' with he' | he'
      · rw [← hge]; exact h.address g hg e' he'
      · rw [List.mem_singleton.mp he']
    · exact h.address g hg
    · exact (h.sublist g hg).append (List.Sublist.refl [e])
    · exact (h.sublist g hg).trans (List.sublist_append_left pre [e])
  case isFalse hany =>
    have hnew : e.address ∉ m.map Prod.fst := fun hmem => by
      obtain ⟨g, hg, hge⟩ := List.mem_map.mp hmem
      exact hany (List.any_eq_true.mpr ⟨g, hg, decide_eq_true hge⟩)
    refine ⟨?_, ?_, ?_, ?_⟩
    · exact (((List.perm_orderedInsert _ _ m).map Prod.fst).nodup_iff).mpr
        (List.nodup_cons.mpr ⟨hnew, h.nodup⟩)
    all_goals
      intro g hg
      rcases (List.mem_orderedInsert _).mp hg with rfl | hg
    · exact he
    · exact h.keep g hg
    · simp
    · exact h.address g hg
    · exact List.sublist_append_right pre [e]
    · exact (h.sublist g hg).trans (List.sublist_append_left pre [e])

/-- The grouping loop keeps the invariant over the notes it reads. -/
theorem GroupsOk.groupNotes (es : List (SaplingNoteEntry P C)) (h : GroupsOk keep pre m) :
    GroupsOk keep (pre ++ es) (groupNotes keep es m) := by
  induction es generalizing pre m with
  | nil => simpa [SevenSeas.groupNotes] using h
  | cons e es ih =>
    rw [SevenSeas.groupNotes, ← List.singleton_append, ← List.append_assoc]
    apply ih
    by_cases he : keep e.address = true
    · simpa [he] using h.pushNote he
    · simpa [he] using h.skip

/-- `mapAddresses` files every wallet entry it keeps under its own address,
once per address. -/
theorem mapAddresses_groupsOk (env : ConsolidationEnv P C) :
    GroupsOk (keepAddress env) env.saplingEntries (mapAddresses env) := by
  simpa using groupsOk_nil.groupNotes env.saplingEntries

end Grouping

/-! ## One address -/

/-- The selection loop appends to `fromNotes` a sublist of the eligible notes. -/
theorem selectNotes_sublist (elig : SaplingNoteEntry P C → Bool) (maxQuantity : Nat)
    (es fromNotes : List (SaplingNoteEntry P C)) (amountToSend : Int) :
    ∃ l, (selectNotes C elig maxQuantity es fromNotes amountToSend).1 = fromNotes ++ l ∧
      l.Sublist (es.filter elig) := by
  induction es generalizing fromNotes amountToSend with
  | nil => exact ⟨[], by simp [selectNotes], List.nil_sublist _⟩
  | cons e es ih =>
    by_cases he : elig e = true
    · simp only [selectNotes, he, if_true, List.filter_cons_of_pos he]
      split
      · exact ⟨[e], rfl, (List.nil_sublist _).cons₂ e⟩
      · obtain ⟨l, hl, hsub⟩ := ih (fromNotes ++ [e]) (int64 (amountToSend + int64 (C.value e.note).toNat))
        exact ⟨e :: l, by simp [hl], hsub.cons₂ e⟩
    · simp only [selectNotes, he, if_false, Bool.false_eq_true, List.filter_cons_of_neg he]
      split
      · exact ⟨[], by simp, List.nil_sublist _⟩
      · exact ih fromNotes amountToSend

/-- `buildAndCommit` records one attempt, before `Build()`, whatever
`Build()` and the cancel flag do. -/
theorem buildAndCommit_attempts (env : ConsolidationEnv P C) (i : Nat)
    (addr : P.SaplingPaymentAddress) (extsk : P.SaplingExtendedSpendingKey) (draw : Nat)
    (fromNotes : List (SaplingNoteEntry P C)) (amountToSend : Int) (st : LoopState P C) :
    (buildAndCommit env i addr extsk draw fromNotes amountToSend st).1.attempts =
      st.attempts ++ [⟨i, addr, extsk, draw, fromNotes, amountToSend,
        consolidationBuilder env i addr extsk fromNotes amountToSend⟩] := by
  rcases buildAndCommit_cases env i addr extsk draw fromNotes amountToSend st with
    h | ⟨_, _, _, h⟩ <;> rw [h]

/-- `buildAndCommit` calls no `rand()`. -/
theorem buildAndCommit_randCalls (env : ConsolidationEnv P C) (i : Nat)
    (addr : P.SaplingPaymentAddress) (extsk : P.SaplingExtendedSpendingKey) (draw : Nat)
    (fromNotes : List (SaplingNoteEntry P C)) (amountToSend : Int) (st : LoopState P C) :
    (buildAndCommit env i addr extsk draw fromNotes amountToSend st).1.randCalls =
      st.randCalls := by
  rcases buildAndCommit_cases env i addr extsk draw fromNotes amountToSend st with
    h | ⟨_, _, _, h⟩ <;> rw [h]

/-- The loop body calls `rand()` `randCallsAt` times. -/
theorem processAddress_randCalls (env : ConsolidationEnv P C) (i : Nat)
    (addr : P.SaplingPaymentAddress) (entries : List (SaplingNoteEntry P C)) (st : LoopState P C) :
    (processAddress env i addr entries st).1.randCalls =
      st.randCalls + randCallsAt env addr entries := by
  rcases processAddress_cases env i addr entries st with ⟨-, h⟩ | ⟨extsk, -, -, h2, h⟩
  · rw [h]
  · rw [h, h2]
    split
    · rfl
    · exact buildAndCommit_randCalls ..

/-- What the loop body at the `i`-th address `addr`, with the notes
`entries`, records when it reaches `Build()`. -/
structure AttemptAt (env : ConsolidationEnv P C) (i : Nat) (addr : P.SaplingPaymentAddress)
    (entries : List (SaplingNoteEntry P C)) (att : Attempt P C) : Prop where
  position : att.position = i
  addr_eq : att.addr = addr
  key : env.keyStore.getSaplingExtendedSpendingKey addr default = (true, att.extsk)
  selected : att.fromNotes.Sublist (entries.filter (eligible env.keyStore att.extsk addr))
  builder_eq : att.builder = consolidationBuilder env i addr att.extsk att.fromNotes att.amountToSend
  /-- The batch and its total are the selection loop's, under the
  `maxQuantity = rand() % 35 + 10` of the attempt's draw. -/
  selection : selectNotes C (eligible env.keyStore att.extsk addr) (env.rand att.draw % 35 + 10)
    entries [] 0 = (att.fromNotes, att.amountToSend)
  /-- The address passed the count check. -/
  target : env.wallet.targetConsolidationQty ≤
    countNotes (eligible env.keyStore att.extsk addr) entries 0
  /-- The batch passed the minimum check, against the
  `minQuantity = rand() % 10 + 2` of the next draw. -/
  minimum : env.rand (att.draw + 1) % 10 + 2 ≤ att.fromNotes.length

/-- One pass of the loop body records at most one attempt, for `addr`, with
the first of the `rand()` calls it makes. -/
theorem processAddress_attempts (env : ConsolidationEnv P C) (i : Nat)
    (addr : P.SaplingPaymentAddress) (entries : List (SaplingNoteEntry P C)) (st : LoopState P C) :
    ∃ new, (processAddress env i addr entries st).1.attempts = st.attempts ++ new ∧
      (new.map (·.addr)).Sublist [addr] ∧
      ∀ att ∈ new, AttemptAt env i addr entries att ∧ att.draw = st.randCalls := by
  rcases processAddress_cases env i addr entries st with ⟨-, h⟩ | ⟨extsk, hkey, hcount, -, h⟩
  · rw [h]; exact ⟨[], by simp, List.nil_sublist _, List.forall_mem_nil _⟩
  · obtain ⟨fromNotes, hsel, hsub⟩ := selectNotes_sublist (eligible env.keyStore extsk addr)
      (env.rand st.randCalls % 35 + 10) entries [] 0
    rw [h]
    split
    · exact ⟨[], by simp, List.nil_sublist _, List.forall_mem_nil _⟩
    · rename_i hmin
      rw [buildAndCommit_attempts]
      refine ⟨[_], rfl, List.Sublist.refl _, fun att hatt => ?_⟩
      rw [List.mem_singleton.mp hatt]
      exact ⟨⟨rfl, rfl, hkey, by rwa [hsel, List.nil_append], rfl, rfl, hcount,
        Nat.not_lt.mp hmin⟩, rfl⟩

/-- The `rand()` calls the loop body makes at the first `k` entries of `gs`. -/
def randCallsBefore (env : ConsolidationEnv P C)
    (gs : List (P.SaplingPaymentAddress × List (SaplingNoteEntry P C))) (k : Nat) : Nat :=
  ((gs.take k).map fun g => randCallsAt env g.1 g.2).sum

@[simp] theorem randCallsBefore_zero (env : ConsolidationEnv P C)
    (gs : List (P.SaplingPaymentAddress × List (SaplingNoteEntry P C))) :
    randCallsBefore env gs 0 = 0 := rfl

@[simp] theorem randCallsBefore_cons_succ (env : ConsolidationEnv P C)
    (g : P.SaplingPaymentAddress × List (SaplingNoteEntry P C))
    (gs : List (P.SaplingPaymentAddress × List (SaplingNoteEntry P C))) (k : Nat) :
    randCallsBefore env (g :: gs) (k + 1) = randCallsAt env g.1 g.2 + randCallsBefore env gs k := by
  simp [randCallsBefore]

/-- The address loop records, in order, at most one attempt per map entry,
each as the loop body at that entry records it, with the `rand()` call that
follows those made at the entries before it. -/
theorem consolidationLoop_attempts (env : ConsolidationEnv P C) (i : Nat)
    (gs : List (P.SaplingPaymentAddress × List (SaplingNoteEntry P C))) (st : LoopState P C) :
    ∃ new, (consolidationLoop env i gs st).attempts = st.attempts ++ new ∧
      (new.map (·.addr)).Sublist (gs.map Prod.fst) ∧
      ∀ att ∈ new, ∃ k g, gs[k]? = some g ∧ AttemptAt env (i + k) g.1 g.2 att ∧
        att.draw = st.randCalls + randCallsBefore env gs k := by
  induction gs generalizing i st with
  | nil => exact ⟨[], by simp [consolidationLoop], List.nil_sublist _, List.forall_mem_nil _⟩
  | cons g gs ih =>
    obtain ⟨addr, entries⟩ := g
    obtain ⟨new, hnew, hsub, hat⟩ := processAddress_attempts env i addr entries st
    have hhead : ∀ att ∈ new, ∃ k g, ((addr, entries) :: gs)[k]? = some g ∧
        AttemptAt env (i + k) g.1 g.2 att ∧
        att.draw = st.randCalls + randCallsBefore env ((addr, entries) :: gs) k :=
      fun att h => ⟨0, (addr, entries), List.getElem?_cons_zero,
        by rw [Nat.add_zero]; exact (hat att h).1, by simp [(hat att h).2]⟩
    have hrand := processAddress_randCalls env i addr entries st
    rcases hp : processAddress env i addr entries st with ⟨st', _ | _⟩ <;> rw [hp] at hnew hrand <;>
      dsimp only at hnew hrand
    · -- `continue`: the rest of the loop runs from the next entry
      obtain ⟨rest, hrest, hsub', hat'⟩ := ih (i + 1) st'
      refine ⟨new ++ rest, by simp [consolidationLoop, hp, hrest, hnew],
        by simpa using hsub.append hsub', fun att h => ?_⟩
      rcases List.mem_append.mp h with h | h
      · exact hhead att h
      · obtain ⟨k, g', hg', hj, hdraw⟩ := hat' att h
        refine ⟨k + 1, g', by rwa [List.getElem?_cons_succ],
          by rwa [← Nat.add_assoc, Nat.add_right_comm], ?_⟩
        rw [hdraw, hrand, randCallsBefore_cons_succ, Nat.add_assoc]
    · -- `break`
      exact ⟨new, by simp [consolidationLoop, hp, hnew],
        hsub.trans ((List.nil_sublist _).cons₂ addr), hhead⟩

/-! ## The run -/

/-- The attempts of a run are those the address loop records over the whole
of `mapAddresses`, from its first entry with no `rand()` call made yet; there
are none when the window check stops the run. -/
theorem mainImpl_attempts_loop (env : ConsolidationEnv P C) :
    ((mainImpl env).2.attempts.map (·.addr)).Sublist ((mapAddresses env).map Prod.fst) ∧
      ∀ att ∈ (mainImpl env).2.attempts, ∃ k g, (mapAddresses env)[k]? = some g ∧
        AttemptAt env k g.1 g.2 att ∧ att.draw = randCallsBefore env (mapAddresses env) k := by
  unfold mainImpl
  split
  · exact ⟨List.nil_sublist _, List.forall_mem_nil _⟩
  · obtain ⟨new, hnew, hsub, hat⟩ :=
      consolidationLoop_attempts env 0 (mapAddresses env) ⟨0, [], 0, true, 0, [], []⟩
    simp only [List.nil_append, Nat.zero_add] at hnew hat
    simpa only [hnew] using And.intro hsub hat

/-- The attempts of a run: at distinct keys of `mapAddresses`, in key order,
each as the loop body at its entry records it. -/
theorem mainImpl_attempts_at (env : ConsolidationEnv P C) :
    ((mainImpl env).2.attempts.map (·.addr)).Sublist ((mapAddresses env).map Prod.fst) ∧
      ∀ att ∈ (mainImpl env).2.attempts, ∃ j, ∃ g ∈ mapAddresses env, AttemptAt env j g.1 g.2 att := by
  obtain ⟨hsub, hat⟩ := mainImpl_attempts_loop env
  refine ⟨hsub, fun att hatt => ?_⟩
  obtain ⟨k, g, hg, ha, -⟩ := hat att hatt
  exact ⟨k, g, List.getElem?_mem hg, ha⟩

/-- An attempt the loop body records at an entry of `mapAddresses` is safe. -/
theorem AttemptAt.attemptSafe {env : ConsolidationEnv P C} {j : Nat}
    {g : P.SaplingPaymentAddress × List (SaplingNoteEntry P C)} {att : Attempt P C}
    (hg : g ∈ mapAddresses env) (ha : AttemptAt env j g.1 g.2 att) : AttemptSafe env att := by
  have hm := mapAddresses_groupsOk env
  obtain ⟨spends, hb, hnotes, hkey, -⟩ :=
    consolidationBuilder_eq env j g.1 att.extsk att.fromNotes att.amountToSend
  rw [← ha.builder_eq] at hb
  have hfrom : ∀ e ∈ att.fromNotes, e ∈ g.2 ∧ eligible env.keyStore att.extsk g.1 e = true :=
    fun e he => List.mem_filter.mp (ha.selected.subset he)
  have haddr : ∀ e ∈ att.fromNotes, e.address = att.addr := fun e he => by
    rw [ha.addr_eq]; exact hm.address g hg e (hfrom e he).1
  refine ⟨by rw [ha.addr_eq]; exact ha.key, ?_, haddr, fun e he => ?_, ?_, ?_, ?_, ?_⟩
  · exact (ha.selected.trans (List.filter_sublist _)).trans (hm.sublist g hg)
  · obtain ⟨hivk, hea⟩ : _ ∧ e.address = g.1 := by
      simpa only [eligible, Bool.and_eq_true, decide_eq_true_eq] using (hfrom e he).2
    rw [hea] at hivk ⊢
    exact Prod.ext (CBasicKeyStore.getSaplingIncomingViewingKey_of_extended ha.key _) hivk
  · simpa [Attempt.spentEntries, hb] using hnotes
  · simpa [hb] using hkey
  · simp [hb, ha.addr_eq]
  · intro hused
    have hk := hm.keep g hg
    simp only [keepAddress, hused, if_true, Bool.not_true, Bool.or_false,
      decide_eq_true_eq] at hk
    rw [ha.addr_eq]; exact hk

/-- Every attempt of a run is safe, and the attempts are at distinct addresses. -/
theorem mainImpl_attempts (env : ConsolidationEnv P C) :
    (∀ att ∈ (mainImpl env).2.attempts, AttemptSafe env att) ∧
      ((mainImpl env).2.attempts.map (·.addr)).Nodup := by
  obtain ⟨hsub, hat⟩ := mainImpl_attempts_at env
  refine ⟨fun att hatt => ?_, (mapAddresses_groupsOk env).nodup.sublist hsub⟩
  obtain ⟨j, g, hg, ha⟩ := hat att hatt
  exact ha.attemptSafe hg

/-- Safety of main_impl's spends, for every run whose wallet entries have
distinct outpoints: every builder `Build()` is called on spends, under the
wallet's key for its address, only wallet entries filed at that address
whose address resolves to that key's incoming viewing key, and sends its one
output back to that address, an allowed one when the allow-list is in use;
and no outpoint is spent twice, in one builder or across the run. -/
theorem mainImpl_spends_safe (env : ConsolidationEnv P C)
    (hops : (env.saplingEntries.map (·.op)).Nodup) :
    (∀ att ∈ (mainImpl env).2.attempts, AttemptSafe env att) ∧
      ((mainImpl env).2.attempts.flatMap fun att => att.spentEntries.map (·.op)).Nodup := by
  obtain ⟨hsafe, hdistinct⟩ := mainImpl_attempts env
  refine ⟨hsafe, List.nodup_flatMap.mpr ⟨fun att hatt => ?_, ?_⟩⟩
  · exact hops.sublist (((List.take_sublist _ _).trans (hsafe att hatt).sublist).map _)
  · refine (List.pairwise_map.mp hdistinct).imp_of_mem fun {a b} ha hb hne x hxa hxb => ?_
    obtain ⟨ea, hea, rfl⟩ := List.mem_map.mp hxa
    obtain ⟨eb, heb, hop⟩ := List.mem_map.mp hxb
    have hma := List.mem_of_mem_take hea
    have hmb := List.mem_of_mem_take heb
    have hsame : eb = ea := List.inj_on_of_nodup_map hops
      ((hsafe b hb).sublist.subset hmb) ((hsafe a ha).sublist.subset hma) hop
    subst hsame
    exact hne (((hsafe a ha).address eb hma).symm.trans ((hsafe b hb).address eb hmb))

set_option maxRecDepth 20000 in
theorem mainImpl_spends_safe_natEnv :
    (ChainPrimitives.natEnv.saplingEntries.map (·.op)).Nodup ∧
      (∀ att ∈ (mainImpl ChainPrimitives.natEnv).2.attempts,
        AttemptSafe ChainPrimitives.natEnv att) ∧
      ((mainImpl ChainPrimitives.natEnv).2.attempts.flatMap
        fun att => att.spentEntries.map (·.op)).Nodup :=
  ⟨by decide, mainImpl_spends_safe ChainPrimitives.natEnv (by decide)⟩

end SevenSeas
