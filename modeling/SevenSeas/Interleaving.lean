import SevenSeas.LockPartition

/-!
# Two threads under the two locks

A thread that calls only `cs_KeyStore` methods and a thread that calls only
`cs_SpendingKeyStore` methods never wait for each other, so their calls
interleave in any order. `TwoThreads` runs such a pair on one store: at each
step the scheduler picks a thread, which makes its next call, one call a
step; picking a thread with nothing left to do is a step that changes
nothing.

Over every schedule, at every point, each thread has received the results it
would have received running alone from the starting store, and the store is
the one the calls made so far leave in either sequential order
(`TwoThreads.run_start`). The argument is per step: each call is made on a
store that combines the two threads' solo stores, and the frame lemma of its
partition (`call_withKeyStoreMembers`, `call_withSpendingKeyStoreMembers`)
says the call sees only its own thread's half.
-/

namespace SevenSeas

variable {P : Primitives}

namespace CBasicKeyStore

/-- The results of a sequence of calls, in order. -/
def results (s : CBasicKeyStore P) : List (Call P) → List (Bool × Out P)
  | [] => []
  | c :: cs => (s.call c).1 :: (s.call c).2.results cs

theorem results_append_singleton (s : CBasicKeyStore P) (cs : List (Call P)) (c : Call P) :
    s.results (cs ++ [c]) = s.results cs ++ [((s.run cs).call c).1] := by
  induction cs generalizing s with
  | nil => rfl
  | cons c' cs ih => exact congrArg _ (ih _)

/-! ## Runs inside one partition -/

/-- A run of `cs_SpendingKeyStore` calls neither reads nor writes the members
`cs_KeyStore` guards. -/
theorem run_withKeyStoreMembers {cs : List (Call P)} (hcs : ∀ c ∈ cs, c.lock = .spendingKeyStore)
    (s t : CBasicKeyStore P) :
    (s.withKeyStoreMembers t).run cs = (s.run cs).withKeyStoreMembers t := by
  induction cs generalizing s with
  | nil => rfl
  | cons c cs ih =>
    rw [run_cons, run_cons, call_withKeyStoreMembers (hcs c (List.mem_cons_self _ _))]
    exact ih (fun c' h => hcs c' (List.mem_cons_of_mem _ h)) _

/-- A run of `cs_KeyStore` calls neither reads nor writes the members
`cs_SpendingKeyStore` guards. -/
theorem run_withSpendingKeyStoreMembers {cs : List (Call P)} (hcs : ∀ c ∈ cs, c.lock = .keyStore)
    (s t : CBasicKeyStore P) :
    (s.withSpendingKeyStoreMembers t).run cs = (s.run cs).withSpendingKeyStoreMembers t := by
  induction cs generalizing s with
  | nil => rfl
  | cons c cs ih =>
    rw [run_cons, run_cons, call_withSpendingKeyStoreMembers (hcs c (List.mem_cons_self _ _))]
    exact ih (fun c' h => hcs c' (List.mem_cons_of_mem _ h)) _

section Sequential

variable {as bs : List (Call P)} (has : ∀ c ∈ as, c.lock = .keyStore)
  (hbs : ∀ c ∈ bs, c.lock = .spendingKeyStore)

include has hbs

/-- The store the two threads' solo runs combine into is what running one
thread's calls and then the other's leaves. -/
theorem withKeyStoreMembers_run_eq (s : CBasicKeyStore P) :
    (s.run bs).withKeyStoreMembers (s.run as) = (s.run as).run bs ∧
      (s.run bs).withKeyStoreMembers (s.run as) = (s.run bs).run as := by
  -- each solo run leaves the other partition as it found it
  have ha : s.withKeyStoreMembers (s.run as) = s.run as := by
    simpa using (run_withSpendingKeyStoreMembers has s s).symm
  have hb : s.withSpendingKeyStoreMembers (s.run bs) = s.run bs := by
    simpa using (run_withKeyStoreMembers hbs s s).symm
  constructor
  · rw [← run_withKeyStoreMembers hbs, ha]
  · show (s.run as).withSpendingKeyStoreMembers (s.run bs) = _
    rw [← run_withSpendingKeyStoreMembers has, hb]

end Sequential

end CBasicKeyStore

/-- Two threads sharing one store: the calls each has still to make and the
results of those it has made. -/
structure TwoThreads (P : Primitives) where
  store : CBasicKeyStore P
  pendingKeyStore : List (Call P)
  pendingSpendingKeyStore : List (Call P)
  doneKeyStore : List (Bool × Out P)
  doneSpendingKeyStore : List (Bool × Out P)

namespace TwoThreads

/-- Both threads about to start on `s`. -/
def start (s : CBasicKeyStore P) (as bs : List (Call P)) : TwoThreads P :=
  ⟨s, as, bs, [], []⟩

/-- The thread holding the given lock makes its next call. -/
def step (t : TwoThreads P) : Lock → TwoThreads P
  | .keyStore =>
    match t.pendingKeyStore with
    | [] => t
    | c :: cs =>
      { t with store := (t.store.call c).2, pendingKeyStore := cs,
               doneKeyStore := t.doneKeyStore ++ [(t.store.call c).1] }
  | .spendingKeyStore =>
    match t.pendingSpendingKeyStore with
    | [] => t
    | c :: cs =>
      { t with store := (t.store.call c).2, pendingSpendingKeyStore := cs,
               doneSpendingKeyStore := t.doneSpendingKeyStore ++ [(t.store.call c).1] }

/-- The pair after the scheduler picks the threads in the order `sched`. -/
def run (t : TwoThreads P) : List Lock → TwoThreads P
  | [] => t
  | l :: sched => (t.step l).run sched

/-- Where the pair stands, from `s` with thread calls `as` and `bs`: each
thread has made some first calls of its list and received their solo
results, and the store combines the two solo stores. -/
def Sequential (s : CBasicKeyStore P) (as bs : List (Call P)) (t : TwoThreads P) : Prop :=
  ∃ doneA doneB, as = doneA ++ t.pendingKeyStore ∧ bs = doneB ++ t.pendingSpendingKeyStore ∧
    t.store = (s.run doneB).withKeyStoreMembers (s.run doneA) ∧
    t.doneKeyStore = s.results doneA ∧ t.doneSpendingKeyStore = s.results doneB

section

variable {s : CBasicKeyStore P} {as bs : List (Call P)}
  (has : ∀ c ∈ as, c.lock = .keyStore) (hbs : ∀ c ∈ bs, c.lock = .spendingKeyStore)

include has hbs

/-- Each step keeps the pair where some sequential execution would be. -/
theorem Sequential.step {t : TwoThreads P} (h : Sequential s as bs t) (l : Lock) :
    Sequential s as bs (t.step l) := by
  obtain ⟨doneA, doneB, hA, hB, hstore, hdA, hdB⟩ := h
  cases l with
  | keyStore =>
    rcases hp : t.pendingKeyStore with _ | ⟨c, cs⟩
    · simpa [TwoThreads.step, hp] using ⟨doneA, doneB, hA, hB, hstore, hdA, hdB⟩
    · have hc : c.lock = .keyStore := has c (by rw [hA, hp]; simp)
      -- the call sees the first thread's solo store
      have hcall : ((s.run doneB).withKeyStoreMembers (s.run doneA)).call c =
          (((s.run doneA).call c).1, (s.run doneB).withKeyStoreMembers ((s.run doneA).call c).2) :=
        CBasicKeyStore.call_withSpendingKeyStoreMembers hc (s.run doneA) (s.run doneB)
      simp only [TwoThreads.step, hp]
      refine ⟨doneA ++ [c], doneB, by rw [hA, hp]; simp, hB, ?_, ?_, hdB⟩
      · rw [hstore, hcall, CBasicKeyStore.run_append]; rfl
      · rw [hdA, hstore, hcall, CBasicKeyStore.results_append_singleton]
  | spendingKeyStore =>
    rcases hp : t.pendingSpendingKeyStore with _ | ⟨c, cs⟩
    · simpa [TwoThreads.step, hp] using ⟨doneA, doneB, hA, hB, hstore, hdA, hdB⟩
    · have hc : c.lock = .spendingKeyStore := hbs c (by rw [hB, hp]; simp)
      -- the call sees the second thread's solo store
      have hcall := CBasicKeyStore.call_withKeyStoreMembers hc (s.run doneB) (s.run doneA)
      simp only [TwoThreads.step, hp]
      refine ⟨doneA, doneB ++ [c], hA, by rw [hB, hp]; simp, ?_, hdA, ?_⟩
      · rw [hstore, hcall, CBasicKeyStore.run_append]; rfl
      · rw [hdB, hstore, hcall, CBasicKeyStore.results_append_singleton]

theorem Sequential.run {t : TwoThreads P} (h : Sequential s as bs t) (sched : List Lock) :
    Sequential s as bs (t.run sched) := by
  induction sched generalizing t with
  | nil => exact h
  | cons l sched ih => exact ih (h.step has hbs l)

end

/-- Two threads under different locks are indistinguishable from a
sequential execution, over every schedule: at every point each thread has
made some first calls of its list and received exactly the results those
calls return when the thread runs alone from the starting store, and the
store is what running the calls made so far leaves, in either order. -/
theorem run_start (s : CBasicKeyStore P) (as bs : List (Call P))
    (has : ∀ c ∈ as, c.lock = .keyStore) (hbs : ∀ c ∈ bs, c.lock = .spendingKeyStore)
    (sched : List Lock) :
    ∃ doneA doneB, as = doneA ++ ((start s as bs).run sched).pendingKeyStore ∧
      bs = doneB ++ ((start s as bs).run sched).pendingSpendingKeyStore ∧
      ((start s as bs).run sched).doneKeyStore = s.results doneA ∧
      ((start s as bs).run sched).doneSpendingKeyStore = s.results doneB ∧
      ((start s as bs).run sched).store = (s.run doneA).run doneB ∧
      ((start s as bs).run sched).store = (s.run doneB).run doneA := by
  have h0 : Sequential s as bs (start s as bs) :=
    ⟨[], [], rfl, rfl, (CBasicKeyStore.withKeyStoreMembers_self s).symm, rfl, rfl⟩
  obtain ⟨doneA, doneB, hA, hB, hstore, hdA, hdB⟩ := h0.run has hbs sched
  have hseq := CBasicKeyStore.withKeyStoreMembers_run_eq
    (fun c h => has c (by rw [hA]; exact List.mem_append_left _ h))
    (fun c h => hbs c (by rw [hB]; exact List.mem_append_left _ h)) s
  exact ⟨doneA, doneB, hA, hB, hdA, hdB, hstore.trans hseq.1, hstore.trans hseq.2⟩

/-- A thread importing a transparent key and reading its public key back. -/
def natKeyStoreCalls : List (Call Primitives.nat) :=
  [.mutate (.addKey 5), .query (.getPubKey 5 0)]

/-- A thread importing a Sapling spending key and resolving its default address. -/
def natSpendingKeyStoreCalls : List (Call Primitives.nat) :=
  [.mutate (.addSaplingSpendingKey 2), .query (.getSaplingExtendedSpendingKey 1 0)]

/-- The Sapling thread, then the transparent thread, then the Sapling thread again. -/
def natTwoThreads : TwoThreads Primitives.nat :=
  (start .empty natKeyStoreCalls natSpendingKeyStoreCalls).run
    [.spendingKeyStore, .keyStore, .spendingKeyStore]

theorem run_start_nat :
    (∀ c ∈ natKeyStoreCalls, c.lock = .keyStore) ∧
      (∀ c ∈ natSpendingKeyStoreCalls, c.lock = .spendingKeyStore) ∧
      ∃ doneA doneB,
        natKeyStoreCalls = doneA ++ natTwoThreads.pendingKeyStore ∧
        natSpendingKeyStoreCalls = doneB ++ natTwoThreads.pendingSpendingKeyStore ∧
        natTwoThreads.doneKeyStore = CBasicKeyStore.empty.results doneA ∧
        natTwoThreads.doneSpendingKeyStore = CBasicKeyStore.empty.results doneB ∧
        natTwoThreads.store = (CBasicKeyStore.empty.run doneA).run doneB ∧
        natTwoThreads.store = (CBasicKeyStore.empty.run doneB).run doneA :=
  ⟨by decide, by decide, run_start _ _ _ (by decide) (by decide) _⟩

end TwoThreads

end SevenSeas
