import SevenSeas.ConsolidationSafety

/-!
# What a consolidation run reports

main_impl hands `setConsolidationResult` a transaction count, a total and
the txids, and stamps every transaction it builds with an expiry height.
Over every run:

- `numTxCreated` is declared, logged and reported but never incremented,
  so it reads 0 whatever the run commits;
- `amountConsolidated` grows by `amountToSend` before `Build()` and by
  `amountToSend - fee` after the commit: it counts every batch that reached
  `Build()`, committed or not, on top of the committed outputs;
- one txid is reported per commit, in commit order;
- a transaction expires `CONSOLIDATION_EXPIRY_DELTA` blocks after the tip
  read at its address, while the activation-window check is made on
  `targetHeight_`; the expiry stays below the next activation only while the
  tip has not passed `targetHeight_` (`commit_expiry_lt_activation`).

The bookkeeping is an invariant of the address loop (`Bookkeeping`): the
loop body keeps it, so the loop does (`consolidationLoop_preserves`).

The run marks itself complete when `consolidationComplete` survives the
loop. The loop body clears it as soon as an address has a key and at least
`targetConsolidationQty` eligible notes, before the random minimum is
drawn, and a `break` comes only after that: the flag survives exactly when
no address of the map passes the count check
(`consolidationLoop_consolidationComplete`).
-/

namespace SevenSeas

variable {P : Primitives} {C : ChainPrimitives P}

/-- The total `amountToSend` of some attempts. -/
def attemptedAmount (atts : List (Attempt P C)) : Int :=
  (atts.map (·.amountToSend)).sum

/-- The total output value of some committed builders. -/
def committedAmount (commits : List (TransactionBuilder P C × C.CTransaction)) : Int :=
  (commits.map fun c => (c.1.outputs.map (·.value)).sum).sum

/-! ## The loop's bookkeeping -/

/-- What main_impl's locals hold across the address loop: the counter has
not moved, there is one txid per commit, `amountConsolidated` is the
attempted plus the committed amounts wrapped to `int64`, and every commit is
of a builder some attempt called `Build()` on. -/
structure Bookkeeping (st : LoopState P C) : Prop where
  numTxCreated : st.numTxCreated = 0
  txIds : st.consolidationTxIds = st.commits.map fun c => C.txid c.2
  amount : st.amountConsolidated =
    int64 (attemptedAmount st.attempts + committedAmount st.commits)
  committed : ∀ c ∈ st.commits, ∃ att ∈ st.attempts, att.builder = c.1

section

variable {env : ConsolidationEnv P C} {i : Nat} {addr : P.SaplingPaymentAddress}
  {st : LoopState P C}

theorem Bookkeeping.buildAndCommit (h : Bookkeeping st) (extsk : P.SaplingExtendedSpendingKey)
    (draw : Nat) (fromNotes : List (SaplingNoteEntry P C)) (amountToSend : Int) :
    Bookkeeping (buildAndCommit env i addr extsk draw fromNotes amountToSend st).1 := by
  obtain ⟨spends, hb, -, -⟩ := consolidationBuilder_eq env i addr extsk fromNotes amountToSend
  -- earlier commits keep their attempts, whatever attempt is appended
  have hold : ∀ att', ∀ c ∈ st.commits, ∃ att ∈ st.attempts ++ [att'], att.builder = c.1 :=
    fun _ c hc => (h.committed c hc).imp fun _ ⟨hatt, hb⟩ => ⟨List.mem_append_left _ hatt, hb⟩
  rcases buildAndCommit_cases env i addr extsk draw fromNotes amountToSend st with
    hc | ⟨tx, -, -, hc⟩ <;> rw [hc]
  · refine ⟨h.numTxCreated, h.txIds, ?_, hold _⟩
    simp only [h.amount, int64_add_int64, attemptedAmount, List.map_append, List.sum_append,
      List.map_singleton, List.sum_singleton]
    congr 1; omega
  · refine ⟨h.numTxCreated, by simp [h.txIds], ?_, fun c hc => ?_⟩
    · simp only [h.amount, int64_add_int64, attemptedAmount, committedAmount, List.map_append,
        List.sum_append, List.map_singleton, List.sum_singleton, hb, List.map_cons, List.map_nil,
        List.sum_cons, List.sum_nil, add_zero]
      congr 1; omega
    · rcases List.mem_append.mp hc with hc | hc
      · exact hold _ c hc
      · rw [List.mem_singleton.mp hc]
        exact ⟨_, List.mem_append_right _ (List.mem_singleton_self _), rfl⟩

/-- The loop body keeps the bookkeeping. -/
theorem Bookkeeping.processAddress (h : Bookkeeping st) (entries : List (SaplingNoteEntry P C)) :
    Bookkeeping (processAddress env i addr entries st).1 := by
  rcases processAddress_cases env i addr entries st with ⟨-, hp⟩ | ⟨extsk, -, -, -, hp⟩ <;> rw [hp]
  · exact ⟨h.1, h.2, h.3, h.4⟩
  · split
    · exact ⟨h.1, h.2, h.3, h.4⟩
    · exact (show Bookkeeping { st with randCalls := st.randCalls + 2, consolidationComplete := false }
        from ⟨h.1, h.2, h.3, h.4⟩).buildAndCommit _ _ _ _

end

/-! ## The run -/

/-- The report of every run: a count of 0, one txid per commit, and the
attempted plus the committed amounts; and every commit is of an attempted
builder. -/
theorem mainImpl_report (env : ConsolidationEnv P C) :
    (mainImpl env).2.result.numTxCreated = 0 ∧
      (mainImpl env).2.result.consolidationTxIds =
        (mainImpl env).2.commits.map (fun c => C.txid c.2) ∧
      (mainImpl env).2.result.amountConsolidated =
        int64 (attemptedAmount (mainImpl env).2.attempts + committedAmount (mainImpl env).2.commits) ∧
      ∀ c ∈ (mainImpl env).2.commits, ∃ att ∈ (mainImpl env).2.attempts, att.builder = c.1 := by
  unfold mainImpl
  split
  · exact ⟨rfl, rfl, int64_zero.symm, fun _ h => absurd h (List.not_mem_nil _)⟩
  · have h := consolidationLoop_preserves env Bookkeeping
      (fun _ _ entries _ h => h.processAddress entries) 0 (mapAddresses env)
      ⟨0, [], 0, true, 0, [], []⟩ ⟨rfl, rfl, int64_zero.symm, fun _ h => absurd h (List.not_mem_nil _)⟩
    exact ⟨h.1, h.2, h.3, h.4⟩

/-- Every committed transaction expires `CONSOLIDATION_EXPIRY_DELTA` blocks
after the tip read at its address. -/
theorem mainImpl_commit_expiry (env : ConsolidationEnv P C) :
    ∀ c ∈ (mainImpl env).2.commits,
      ∃ j, c.1.expiryHeight = some (env.tipHeight j + CONSOLIDATION_EXPIRY_DELTA) := by
  intro c hc
  obtain ⟨att, hatt, hb⟩ := (mainImpl_report env).2.2.2 c hc
  obtain ⟨j, g, -, ha⟩ := (mainImpl_attempts_at env).2 att hatt
  obtain ⟨_, hbe, -⟩ := consolidationBuilder_eq env j g.1 att.extsk att.fromNotes att.amountToSend
  exact ⟨j, by rw [← hb, ha.builder_eq, hbe]⟩

/-- The window check keeps every commit's expiry below the next activation
as long as the tip main_impl reads has not passed `targetHeight_`. -/
theorem commit_expiry_lt_activation (env : ConsolidationEnv P C) {h : Int}
    (hact : env.nextActivationHeight = some h) (htip : ∀ j, env.tipHeight j ≤ env.targetHeight) :
    ∀ c ∈ (mainImpl env).2.commits, ∃ e, c.1.expiryHeight = some e ∧ e < h := by
  intro c hc
  by_cases hwin : skipsUpgradeWindow env = true
  · simp [mainImpl, hwin] at hc
  · obtain ⟨j, hj⟩ := mainImpl_commit_expiry env c hc
    simp only [skipsUpgradeWindow, hact, decide_eq_true_eq, not_le] at hwin
    have := htip j
    exact ⟨_, hj, by omega⟩

/-- `natEnv` with the tip still at `targetHeight_` at every address. -/
def ChainPrimitives.tipAtTargetEnv : ConsolidationEnv Primitives.nat ChainPrimitives.nat :=
  { ChainPrimitives.natEnv with tipHeight := fun _ => 100 }

theorem commit_expiry_lt_activation_tipAtTargetEnv :
    ChainPrimitives.tipAtTargetEnv.nextActivationHeight = some 141 ∧
      (∀ j, ChainPrimitives.tipAtTargetEnv.tipHeight j ≤ ChainPrimitives.tipAtTargetEnv.targetHeight) ∧
      ∀ c ∈ (mainImpl ChainPrimitives.tipAtTargetEnv).2.commits,
        ∃ e, c.1.expiryHeight = some e ∧ e < 141 :=
  ⟨rfl, fun _ => le_refl _, commit_expiry_lt_activation _ rfl fun _ => le_refl _⟩

/-! ## Completion -/

section

variable (env : ConsolidationEnv P C) (i : Nat) (addr : P.SaplingPaymentAddress)
  (entries : List (SaplingNoteEntry P C)) (st : LoopState P C)

theorem buildAndCommit_consolidationComplete (extsk : P.SaplingExtendedSpendingKey) (draw : Nat)
    (fromNotes : List (SaplingNoteEntry P C)) (amountToSend : Int) :
    (buildAndCommit env i addr extsk draw fromNotes amountToSend st).1.consolidationComplete =
      st.consolidationComplete := by
  rcases buildAndCommit_cases env i addr extsk draw fromNotes amountToSend st with
    h | ⟨_, _, _, h⟩ <;> rw [h]

/-- The loop body clears `consolidationComplete` at an address that passes
the count check, whether or not its batch then reaches `Build()`, and breaks
only at such an address. -/
theorem processAddress_consolidationComplete :
    (processAddress env i addr entries st).1.consolidationComplete =
        (st.consolidationComplete && !needsConsolidation env addr entries) ∧
      ((processAddress env i addr entries st).2 = true →
        needsConsolidation env addr entries = true) := by
  rcases processAddress_cases env i addr entries st with ⟨hn, h⟩ | ⟨extsk, hkey, hcount, -, h⟩
  · simp [h, hn]
  · have hn : needsConsolidation env addr entries = true := by
      simp [needsConsolidation, hkey, hcount]
    rw [h]
    split
    · simp [hn]
    · simp [buildAndCommit_consolidationComplete, hn]

end

/-- The address loop keeps `consolidationComplete` exactly when it was set
and no address left in the map passes the count check. -/
theorem consolidationLoop_consolidationComplete (env : ConsolidationEnv P C) (i : Nat)
    (gs : List (P.SaplingPaymentAddress × List (SaplingNoteEntry P C))) (st : LoopState P C) :
    (consolidationLoop env i gs st).consolidationComplete =
      (st.consolidationComplete && gs.all fun g => !needsConsolidation env g.1 g.2) := by
  induction gs generalizing i st with
  | nil => simp [consolidationLoop]
  | cons g gs ih =>
    obtain ⟨addr, entries⟩ := g
    obtain ⟨hc, hbreak⟩ := processAddress_consolidationComplete env i addr entries st
    rcases hp : processAddress env i addr entries st with ⟨st', _ | _⟩ <;> rw [hp] at hc hbreak <;>
      dsimp only at hc hbreak
    · -- `continue`
      simp [consolidationLoop, hp, ih, hc, Bool.and_assoc]
    · -- `break`, after the flag was cleared
      simp [consolidationLoop, hp, hc, hbreak rfl]

/-- The wallet after a run: marked complete, with the next consolidation an
interval past the tip, exactly when the window check passes and no address
of the map has a spending key and at least `targetConsolidationQty`
eligible notes. An address that passes the count check and is then skipped
at the random minimum still leaves the run incomplete; a run stopped by the
window check leaves the wallet as it was. -/
theorem mainImpl_wallet (env : ConsolidationEnv P C) :
    (mainImpl env).2.wallet =
      if skipsUpgradeWindow env = false ∧
          (mapAddresses env).all (fun g => !needsConsolidation env g.1 g.2) = true then
        { env.wallet with
          nextConsolidation := env.wallet.initializeConsolidationInterval + env.finalTipHeight
          fConsolidationRunning := false }
      else env.wallet := by
  unfold mainImpl
  split
  case isTrue hwin => rw [if_neg (by rw [hwin]; exact fun h => Bool.noConfusion h.1)]
  case isFalse hwin =>
    dsimp only
    rw [consolidationLoop_consolidationComplete, Bool.true_and, Bool.eq_false_iff.mpr hwin]
    simp only [true_and]

set_option maxRecDepth 20000 in
/-- `numTxCreated` reads 0 and `amountConsolidated` counts each batch that
reached `Build()` once more, on every run; on `natEnv` one transaction of
990 is committed and the report says 0 transactions and 1990. -/
theorem mainImpl_report_miscounts :
    (∀ (P : Primitives) (C : ChainPrimitives P) (env : ConsolidationEnv P C),
      (mainImpl env).2.result.numTxCreated = 0 ∧
        (mainImpl env).2.result.amountConsolidated =
          int64 (attemptedAmount (mainImpl env).2.attempts +
            committedAmount (mainImpl env).2.commits)) ∧
      (mainImpl ChainPrimitives.natEnv).2.commits.length = 1 ∧
      committedAmount (mainImpl ChainPrimitives.natEnv).2.commits = 990 ∧
      (mainImpl ChainPrimitives.natEnv).2.result.numTxCreated = 0 ∧
      (mainImpl ChainPrimitives.natEnv).2.result.amountConsolidated = 1990 :=
  ⟨fun _ _ env => ⟨(mainImpl_report env).1, (mainImpl_report env).2.2.1⟩,
    by decide, by decide, by decide, by decide⟩

set_option maxRecDepth 20000 in
/-- Every commit expires `CONSOLIDATION_EXPIRY_DELTA` after the tip read at
its address, not after `targetHeight_`; on `natEnv` the window check passes
(100 + 40 < 141) but the tip has moved to 101, and the committed
transaction expires at 141, the activation height itself. -/
theorem mainImpl_expiry_past_activation :
    (∀ (P : Primitives) (C : ChainPrimitives P) (env : ConsolidationEnv P C),
      ∀ c ∈ (mainImpl env).2.commits,
        ∃ j, c.1.expiryHeight = some (env.tipHeight j + CONSOLIDATION_EXPIRY_DELTA)) ∧
      skipsUpgradeWindow ChainPrimitives.natEnv = false ∧
      ChainPrimitives.natEnv.nextActivationHeight = some 141 ∧
      ((mainImpl ChainPrimitives.natEnv).2.commits.map fun c => c.1.expiryHeight) = [some 141] :=
  ⟨fun _ _ env => mainImpl_commit_expiry env, by decide, rfl, by decide⟩

/-- `natEnv` with five notes, a wallet target of three and every `rand()`
returning 9: `maxQuantity` is 19 and `minQuantity` 11, so the address passes
the count check and its batch of five falls short of the minimum. -/
def ChainPrimitives.minimumSkipEnv : ConsolidationEnv Primitives.nat ChainPrimitives.nat :=
  { ChainPrimitives.natEnv with
    saplingEntries := (List.range 5).map fun k => ⟨k, 1, 100⟩
    wallet := ⟨3, 5, 0, true⟩
    rand := fun _ => 9 }

set_option maxRecDepth 20000 in
/-- On `minimumSkipEnv` the window check passes and the one address, which
has a key, passes the count check (5 notes against a target of 3) but its
batch of five falls short of `minQuantity = 11`: it is skipped, nothing
reaches `Build()`, and yet the run is not marked complete,
`fConsolidationRunning` staying set and `nextConsolidation` unchanged. -/
theorem mainImpl_incomplete_after_minimum_skip :
    skipsUpgradeWindow ChainPrimitives.minimumSkipEnv = false ∧
      (mapAddresses ChainPrimitives.minimumSkipEnv).map
          (fun g => needsConsolidation ChainPrimitives.minimumSkipEnv g.1 g.2) = [true] ∧
      (mainImpl ChainPrimitives.minimumSkipEnv).2.attempts.length = 0 ∧
      (mainImpl ChainPrimitives.minimumSkipEnv).2.wallet.fConsolidationRunning = true ∧
      (mainImpl ChainPrimitives.minimumSkipEnv).2.wallet.nextConsolidation = 0 := by
  decide

end SevenSeas
