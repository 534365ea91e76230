import SevenSeas.Consolidation

/-!
# `main()` and `cancel()` on the operation's state

`AsyncRPCOperation_saplingconsolidation::main()` runs on a worker thread,
and `cancel()` may be called at any moment from an RPC thread. Both write
the operation's state through `set_state`. That method, `getState` and
`isCancelled` belong to the base class `AsyncRPCOperation`, which is not
under src/. They are modelled from the spec: the state is one shared cell,
`set_state` stores into it, and `isCancelled()` reads it.

`main()` is four atomic steps:

1. the `isCancelled()` check;
2. `set_state(EXECUTING)`;
3. main_impl, with its exception handlers;
4. the final `set_state`.

`cancel()` is one step, an unconditional `set_state(CANCELLED)`.
main_impl only reads the cell, at its cancel checkpoint, and returns `true`
on both of its paths (`mainImpl_fst`). As far as the cell is concerned it
is therefore one step whose outcome is an input (`impl`). A schedule is
the order in which the two threads take their steps, and `run` plays one.

Over every schedule, the cell holds one of the states `allowedStates`
lists for main()'s position (`run_consistent`), and SUCCESS and FAILED
say what main_impl did: SUCCESS follows a `true` result with no error
recorded, FAILED a `false` result or a throw with the error code and message
of the handler that caught it (`run_reports`). A cancel() before the check
is final (`cancel_before_check`). A cancel()
after the check is overwritten when main() then runs to its end
(`mainOnly_returned_terminal`), and a late cancel() overwrites a terminal
state.
-/

namespace SevenSeas

/-- `OperationStatus` of the base class. -/
inductive OperationStatus
  | READY
  | EXECUTING
  | CANCELLED
  | FAILED
  | SUCCESS
deriving DecidableEq, Repr

/-- What main_impl can throw, by the handler of main() that catches it. -/
inductive Thrown
  | uniValue (code : Int) (message : String)
  | runtimeError (what : String)
  | logicError (what : String)
  | exception (what : String)
  | unknown

/-- The error code and message each handler of main() sets. -/
def Thrown.error : Thrown → Int × String
  | .uniValue code message => (code, message)
  | .runtimeError what => (-1, "runtime error: " ++ what)
  | .logicError what => (-1, "logic error: " ++ what)
  | .exception what => (-1, "general exception: " ++ what)
  | .unknown => (-2, "unknown error")

/-- Where main() is: before its `isCancelled()` check, before
`set_state(EXECUTING)`, before main_impl, before the final `set_state` (with
`success`), or returned. -/
inductive MainPc
  | entry
  | checked
  | executing
  | finishing (success : Bool)
  | returned
deriving DecidableEq, Repr

/-- The operation as the two threads share it, with main()'s position. -/
structure Operation where
  state : OperationStatus
  errorCode : Int
  errorMessage : String
  pc : MainPc
deriving DecidableEq, Repr

/-- The two threads: main() and the callers of cancel(). -/
inductive Thread
  | main
  | cancel
deriving DecidableEq, Repr

namespace Operation

/-- Modelled from the spec: a new operation is READY (the spec's "Created"),
with no error, and main() has not started. -/
def new : Operation := ⟨.READY, 0, "", .entry⟩

/-- Modelled from the spec: `set_state` stores into the shared state. -/
def setState (op : Operation) (s : OperationStatus) : Operation := { op with state := s }

/-- Modelled from the spec: `isCancelled()` reads the shared state. -/
def isCancelled (op : Operation) : Bool := decide (op.state = .CANCELLED)

/-- One step of main(); `impl` is what main_impl returns or throws. -/
def mainStep (impl : Except Thrown Bool) (op : Operation) : Operation :=
  match op.pc with
  | .entry => if op.isCancelled then { op with pc := .returned } else { op with pc := .checked }
  | .checked => { op.setState .EXECUTING with pc := .executing }
  | .executing =>
    match impl with
    | .ok success => { op with pc := .finishing success }
    | .error e => { op with errorCode := e.error.1, errorMessage := e.error.2, pc := .finishing false }
  | .finishing success => { op.setState (if success then .SUCCESS else .FAILED) with pc := .returned }
  | .returned => op

/-- `cancel()` as the class overrides it: `set_state(CANCELLED)`, whatever
the state. -/
def cancel (op : Operation) : Operation := op.setState .CANCELLED

def step (impl : Except Thrown Bool) (op : Operation) : Thread → Operation
  | .main => op.mainStep impl
  | .cancel => op.cancel

/-- The operation after the threads take their steps in the order `ts`. -/
def run (impl : Except Thrown Bool) : Operation → List Thread → Operation
  | op, [] => op
  | op, t :: ts => (op.step impl t).run impl ts

@[simp] theorem run_nil (impl : Except Thrown Bool) (op : Operation) : op.run impl [] = op := rfl

@[simp] theorem run_cons (impl : Except Thrown Bool) (op : Operation) (t : Thread)
    (ts : List Thread) : op.run impl (t :: ts) = (op.step impl t).run impl ts := rfl

@[simp] theorem cancel_state (op : Operation) : op.cancel.state = .CANCELLED := rfl

@[simp] theorem cancel_pc (op : Operation) : op.cancel.pc = op.pc := rfl

/-! ## The states each point of main() can see -/

/-- The states the cell can hold at each point of main(), over every schedule. -/
def allowedStates : MainPc → List OperationStatus
  | .entry | .checked => [.READY, .CANCELLED]
  | .executing | .finishing _ => [.EXECUTING, .CANCELLED]
  | .returned => [.SUCCESS, .FAILED, .CANCELLED]

/-- The cell holds a state `allowedStates` lists for main()'s position. -/
def Consistent (op : Operation) : Prop := op.state ∈ allowedStates op.pc

instance : DecidablePred Consistent := fun op => inferInstanceAs (Decidable (op.state ∈ _))

theorem cancelled_mem_allowedStates (pc : MainPc) : .CANCELLED ∈ allowedStates pc := by
  cases pc <;> simp [allowedStates]

theorem consistent_new : new.Consistent := by decide

/-- Every step keeps the cell consistent with main()'s position. -/
theorem Consistent.after_step {op : Operation} (h : op.Consistent) (impl : Except Thrown Bool)
    (t : Thread) : (op.step impl t).Consistent := by
  cases t with
  | cancel => exact cancelled_mem_allowedStates op.pc
  | main =>
    obtain ⟨state, code, message, pc⟩ := op
    unfold Consistent at h ⊢
    cases pc with
    | entry =>
      simp only [step, mainStep, isCancelled]
      split
      · simp_all [allowedStates]
      · exact h
    | checked => simp [step, mainStep, setState, allowedStates]
    | executing => simp only [step, mainStep]; split <;> exact h
    | finishing success => cases success <;> simp [step, mainStep, setState, allowedStates]
    | returned => exact h

theorem Consistent.after_run {op : Operation} (h : op.Consistent) (impl : Except Thrown Bool)
    (ts : List Thread) : (op.run impl ts).Consistent := by
  induction ts generalizing op with
  | nil => exact h
  | cons t ts ih => exact ih (h.after_step impl t)

/-- Over every schedule and whatever main_impl does, the state is one
`allowedStates` lists for main()'s position: READY or CANCELLED up to
`set_state(EXECUTING)`, then EXECUTING or CANCELLED, and SUCCESS, FAILED or
CANCELLED once main() has returned. -/
theorem run_consistent (impl : Except Thrown Bool) (ts : List Thread) :
    (new.run impl ts).Consistent :=
  consistent_new.after_run impl ts

/-! ## What the state and the error fields report -/

/-- What the operation's fields say about main_impl's outcome: no error is
recorded before main_impl has run; at main()'s last step the error fields
are those of the handler that caught what main_impl threw, or clear when it
returned; SUCCESS only follows a `true` result with no error; and FAILED
only follows main()'s return, after a `false` result or a throw. -/
structure Reports (impl : Except Thrown Bool) (op : Operation) : Prop where
  clean : op.pc = .entry ∨ op.pc = .checked ∨ op.pc = .executing →
    (op.errorCode, op.errorMessage) = (0, "")
  finishing : ∀ success, op.pc = .finishing success →
    (impl = .ok success ∧ (op.errorCode, op.errorMessage) = (0, "")) ∨
      (success = false ∧ ∃ e, impl = .error e ∧ (op.errorCode, op.errorMessage) = e.error)
  success : op.state = .SUCCESS → impl = .ok true ∧ (op.errorCode, op.errorMessage) = (0, "")
  failed : op.state = .FAILED → op.pc = .returned ∧
    ((impl = .ok false ∧ (op.errorCode, op.errorMessage) = (0, "")) ∨
      ∃ e, impl = .error e ∧ (op.errorCode, op.errorMessage) = e.error)

theorem reports_new (impl : Except Thrown Bool) : new.Reports impl :=
  ⟨fun _ => rfl, fun _ h => (nomatch h), nofun, nofun⟩

/-- Every step keeps the report consistent: cancel() writes only the state,
and main() writes the error fields only when main_impl throws. -/
theorem Reports.after_step {impl : Except Thrown Bool} {op : Operation} (h : op.Reports impl)
    (t : Thread) : (op.step impl t).Reports impl := by
  obtain ⟨state, code, message, pc⟩ := op
  cases t with
  | cancel => exact ⟨h.clean, h.finishing, nofun, nofun⟩
  | main =>
    cases pc with
    | entry =>
      simp only [step, mainStep, isCancelled]
      split
      · exact ⟨nofun, nofun, h.success, fun hs => ⟨rfl, (h.failed hs).2⟩⟩
      · exact ⟨fun _ => h.clean (.inl rfl), nofun, h.success, fun hs => (nomatch (h.failed hs).1)⟩
    | checked => exact ⟨fun _ => h.clean (.inr (.inl rfl)), nofun, nofun, nofun⟩
    | executing =>
      have hc := h.clean (.inr (.inr rfl))
      cases impl with
      | ok b => exact ⟨nofun, fun _ hb => .inl ⟨by cases hb; rfl, hc⟩, h.success,
          fun hs => (nomatch (h.failed hs).1)⟩
      | error e => exact ⟨nofun, fun _ hb => .inr ⟨by cases hb; rfl, e, rfl, rfl⟩,
          fun hs => (nomatch (h.success hs).1), fun hs => (nomatch (h.failed hs).1)⟩
    | finishing success =>
      have hf := h.finishing success rfl
      cases success
      · -- main_impl returned `false` or threw: FAILED
        exact ⟨nofun, nofun, nofun, fun _ => ⟨rfl, hf.imp id And.right⟩⟩
      · -- main_impl returned `true`: SUCCESS
        exact ⟨nofun, nofun, fun _ => hf.resolve_right fun ⟨hb, _⟩ => (nomatch hb), nofun⟩
    | returned => exact h

/-- Over every schedule of main() and cancel(), whatever main_impl returns
or throws: SUCCESS means main_impl returned `true` and no error was
recorded; FAILED means main() has returned, and main_impl either returned
`false` with no error recorded or threw, with the error code and message of
the handler that caught it. -/
theorem run_reports (impl : Except Thrown Bool) (ts : List Thread) :
    (new.run impl ts).Reports impl := by
  suffices ∀ op : Operation, op.Reports impl → (op.run impl ts).Reports impl from
    this _ (reports_new impl)
  induction ts with
  | nil => exact fun _ h => h
  | cons t ts ih => exact fun op h => ih _ (h.after_step t)

/-! ## Where a cancel() lands -/

/-- A cancel() before main()'s check is final: main() returns at its check
without writing, and every later step leaves CANCELLED. -/
theorem cancel_before_check (impl : Except Thrown Bool) {op : Operation} (hpc : op.pc = .entry)
    (ts : List Thread) : (op.cancel.run impl ts).state = .CANCELLED := by
  suffices ∀ op : Operation, op.state = .CANCELLED → (op.pc = .entry ∨ op.pc = .returned) →
      (op.run impl ts).state = .CANCELLED from this _ rfl (.inl hpc)
  induction ts with
  | nil => exact fun _ h _ => h
  | cons t ts ih =>
    rintro ⟨state, code, message, pc⟩ hs hpc
    simp only at hs hpc
    subst hs
    apply ih <;> cases t <;> rcases hpc with rfl | rfl <;> simp [step, mainStep, isCancelled]

theorem cancel_before_check_new :
    new.pc = .entry ∧ (new.cancel.run (.ok true) [.main, .main, .main, .main]).state = .CANCELLED :=
  ⟨rfl, cancel_before_check (.ok true) rfl _⟩

/-- Once main() has returned, its steps change nothing. -/
theorem run_main_of_returned (impl : Except Thrown Bool) {op : Operation} (hpc : op.pc = .returned)
    (n : Nat) : op.run impl (List.replicate n .main) = op := by
  induction n with
  | zero => rfl
  | succ n ih =>
    rw [List.replicate_succ, run_cons]
    obtain ⟨state, code, message, pc⟩ := op
    simp only at hpc
    subst hpc
    exact ih

/-- Past its check and not yet returned, main() run alone to its end leaves
SUCCESS or FAILED, whatever the state was: a cancel() in that window is
overwritten. -/
theorem mainOnly_returned_terminal (impl : Except Thrown Bool) (op : Operation)
    (hentry : op.pc ≠ .entry) (hret : op.pc ≠ .returned) (n : Nat)
    (h : (op.run impl (List.replicate n .main)).pc = .returned) :
    (op.run impl (List.replicate n .main)).state = .SUCCESS ∨
      (op.run impl (List.replicate n .main)).state = .FAILED := by
  induction n generalizing op with
  | zero => exact absurd h hret
  | succ n ih =>
    rw [List.replicate_succ, run_cons] at h ⊢
    obtain ⟨state, code, message, pc⟩ := op
    cases pc with
    | entry => exact absurd rfl hentry
    | returned => exact absurd rfl hret
    | checked => exact ih _ (by simp [step, mainStep]) (by simp [step, mainStep]) h
    | executing =>
      cases impl <;> exact ih _ (by simp [step, mainStep]) (by simp [step, mainStep]) h
    | finishing success =>
      simp only [step, mainStep, setState] at h ⊢
      rw [run_main_of_returned impl rfl]
      cases success <;> simp

/-- A cancel() after main()'s check and before its final `set_state` is
overwritten once main() runs to its end: the state is SUCCESS or FAILED.
Whatever the environment, main_impl returns `true`, and then:
cancel() between the check and `set_state(EXECUTING)` is overwritten by
EXECUTING; cancel() during main_impl ends in SUCCESS; and a cancel() after
main() has returned turns SUCCESS into CANCELLED. -/
theorem cancel_overwritten_by_main :
    (∀ (impl : Except Thrown Bool) (op : Operation), op.pc ≠ .entry → op.pc ≠ .returned →
      ∀ n, (op.cancel.run impl (List.replicate n .main)).pc = .returned →
        (op.cancel.run impl (List.replicate n .main)).state = .SUCCESS ∨
          (op.cancel.run impl (List.replicate n .main)).state = .FAILED) ∧
    ∀ (P : Primitives) (C : ChainPrimitives P) (env : ConsolidationEnv P C),
      (new.run (.ok (mainImpl env).1) [.main, .cancel, .main]).state = .EXECUTING ∧
      (new.run (.ok (mainImpl env).1) [.main, .cancel, .main, .main, .main]).state = .SUCCESS ∧
      (new.run (.ok (mainImpl env).1) [.main, .main, .cancel, .main, .main]).state = .SUCCESS ∧
      (new.run (.ok (mainImpl env).1) [.main, .main, .main, .main]).state = .SUCCESS ∧
      (new.run (.ok (mainImpl env).1) [.main, .main, .main, .main, .cancel]).state = .CANCELLED := by
  refine ⟨fun impl op hentry hret n h => mainOnly_returned_terminal impl op.cancel hentry hret n h,
    fun _ _ env => ?_⟩
  rw [mainImpl_fst]
  decide

end Operation

end SevenSeas
