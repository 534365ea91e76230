import SevenSeas.ConsolidationResult

/-!
# One address's batch

What main_impl selects at an address and what it tells the builder about
it, over every run.

- The counting loop counts the eligible notes (`countNotes_eq`), and the
  selection loop takes the first `maxQuantity` of them whatever the
  ineligible notes between them: the break test after an ineligible note
  never fires, since `fromNotes` has not grown (`selectNotes_eq`).
- `amountToSend` adds each `uint64_t` value, converted to `CAmount`, into an
  `int64_t`: it is the sum of the batch's values modulo `2^64`, the exact sum
  whenever that sum fits (`AttemptAt.amountToSend_eq`).
- The fee and the output are computed from the whole batch, but the spend
  loop stops at the first missing witness and `Build()` is called all the
  same (`AttemptAt.builder_spends`). With every witness present, each
  builder spends its whole batch and its spends pay exactly its output and
  its fee (`mainImpl_builders_balance`).
-/

namespace SevenSeas

variable {P : Primitives} {C : ChainPrimitives P}

/-- The values of some notes as `note.value()` returns them, added exactly. -/
def sumValues (C : ChainPrimitives P) (notes : List (SaplingNoteEntry P C)) : Int :=
  (notes.map fun e => ((C.value e.note).toNat : Int)).sum

@[simp] theorem sumValues_nil : sumValues C [] = 0 := rfl

@[simp] theorem sumValues_cons (e : SaplingNoteEntry P C) (es : List (SaplingNoteEntry P C)) :
    sumValues C (e :: es) = (C.value e.note).toNat + sumValues C es := by
  simp [sumValues]

/-! ## The two inner loops -/

/-- The counting loop adds the number of eligible notes to `noteCount`. -/
theorem countNotes_eq (elig : SaplingNoteEntry P C → Bool) (es : List (SaplingNoteEntry P C))
    (noteCount : Int) : countNotes elig es noteCount = noteCount + (es.filter elig).length := by
  induction es generalizing noteCount with
  | nil => simp [countNotes]
  | cons e es ih =>
    by_cases he : elig e = true
    · simp only [countNotes, he, if_true, ih, List.filter_cons_of_pos he, List.length_cons]
      omega
    · simp [countNotes, he, ih, List.filter_cons_of_neg he]

/-- Below the bound, the selection loop appends the next eligible notes up
to the bound and adds their values into `amountToSend` modulo `2^64`. -/
theorem selectNotes_eq (elig : SaplingNoteEntry P C → Bool) (maxQuantity : Nat)
    (es fromNotes : List (SaplingNoteEntry P C)) (amountToSend : Int)
    (hlen : fromNotes.length < maxQuantity) (hamt : int64 amountToSend = amountToSend) :
    selectNotes C elig maxQuantity es fromNotes amountToSend =
      (fromNotes ++ (es.filter elig).take (maxQuantity - fromNotes.length),
        int64 (amountToSend +
          sumValues C ((es.filter elig).take (maxQuantity - fromNotes.length)))) := by
  induction es generalizing fromNotes amountToSend with
  | nil => simp [selectNotes, hamt]
  | cons e es ih =>
    by_cases he : elig e = true
    · obtain ⟨k, hk⟩ : ∃ k, maxQuantity - fromNotes.length = k + 1 :=
        ⟨_, (Nat.succ_pred_eq_of_pos (Nat.sub_pos_of_lt hlen)).symm⟩
      simp only [selectNotes, he, if_true, List.filter_cons_of_pos he, hk, List.take_succ_cons,
        sumValues_cons, List.length_append, List.length_singleton]
      split
      · -- `e` fills the batch
        obtain rfl : k = 0 := by omega
        simp [int64_add_int64_right]
      · rw [ih _ _ (by simp; omega) (int64_int64 _)]
        simp only [List.length_append, List.length_singleton, List.append_assoc,
          List.singleton_append, show maxQuantity - (fromNotes.length + 1) = k by omega]
        -- regroup, then drop the wrap of the note's value
        rw [int64_add_int64, Int.add_right_comm, int64_add_int64_right, Int.add_right_comm,
          Int.add_assoc]
    · simp only [selectNotes, he, Bool.false_eq_true, if_false, List.filter_cons_of_neg he]
      rw [if_neg (by omega)]
      exact ih _ _ hlen hamt

/-- From an empty batch, the selection loop takes the first `maxQuantity`
eligible notes, with the sum of their values modulo `2^64`. -/
theorem selectNotes_nil_eq (elig : SaplingNoteEntry P C → Bool) {maxQuantity : Nat}
    (hmax : 0 < maxQuantity) (es : List (SaplingNoteEntry P C)) :
    selectNotes C elig maxQuantity es [] 0 =
      ((es.filter elig).take maxQuantity, int64 (sumValues C ((es.filter elig).take maxQuantity))) := by
  simpa using selectNotes_eq elig maxQuantity es [] 0 hmax int64_zero

/-! ## Amounts -/

theorem sumValues_nonneg : ∀ notes : List (SaplingNoteEntry P C), 0 ≤ sumValues C notes
  | [] => Int.le_refl 0
  | e :: es => by
    have := sumValues_nonneg es
    rw [sumValues_cons]
    omega

/-- Notes each worth at most `MAX_MONEY` add up to at most `MAX_MONEY` a note. -/
theorem sumValues_le {MAX_MONEY : Int} {notes : List (SaplingNoteEntry P C)}
    (h : ∀ e ∈ notes, ((C.value e.note).toNat : Int) ≤ MAX_MONEY) :
    sumValues C notes ≤ notes.length * MAX_MONEY := by
  induction notes with
  | nil => simp
  | cons e es ih =>
    have he := h e (List.mem_cons_self _ _)
    have hes := ih fun e' he' => h e' (List.mem_cons_of_mem _ he')
    rw [sumValues_cons, List.length_cons, Int.natCast_add, Int.add_mul, Int.natCast_one, Int.one_mul]
    omega

/-- The fee rule read from the other side: `fConsolidationTxFee` when
`amountToSend` exceeds it, else `0`. -/
theorem consolidationFee_eq (env : ConsolidationEnv P C) (amountToSend : Int) :
    consolidationFee env amountToSend =
      if env.fConsolidationTxFee < amountToSend then env.fConsolidationTxFee else 0 := by
  by_cases h : amountToSend ≤ env.fConsolidationTxFee
  · simp [consolidationFee, h, Int.not_lt.mpr h]
  · simp [consolidationFee, h, Int.lt_of_not_ge h]

/-- For a non-negative fee and a non-negative `amountToSend` an `int64_t`
holds, the builder's output is `amountToSend - fee`, between `0` and
`amountToSend`. -/
theorem consolidationBuilder_output (env : ConsolidationEnv P C) (i : Nat)
    (addr : P.SaplingPaymentAddress) (extsk : P.SaplingExtendedSpendingKey)
    (fromNotes : List (SaplingNoteEntry P C)) {amountToSend : Int} (hamt₀ : 0 ≤ amountToSend)
    (hamt : amountToSend < 2 ^ 63) (hfee : 0 ≤ env.fConsolidationTxFee) :
    (consolidationBuilder env i addr extsk fromNotes amountToSend).fee =
        some (consolidationFee env amountToSend) ∧
      (consolidationBuilder env i addr extsk fromNotes amountToSend).outputs.map (·.value) =
        [amountToSend - consolidationFee env amountToSend] ∧
      0 ≤ amountToSend - consolidationFee env amountToSend ∧
      amountToSend - consolidationFee env amountToSend ≤ amountToSend := by
  obtain ⟨spends, hb, -⟩ := consolidationBuilder_eq env i addr extsk fromNotes amountToSend
  have hfee' : 0 ≤ consolidationFee env amountToSend ∧
      consolidationFee env amountToSend ≤ amountToSend := by
    unfold consolidationFee; split <;> omega
  refine ⟨by rw [hb], ?_, by omega, by omega⟩
  rw [hb, List.map_singleton, int64_of_lt (by omega) (by omega)]

/-! ## The recorded batches -/

section Attempt

variable {env : ConsolidationEnv P C} {i : Nat} {addr : P.SaplingPaymentAddress}
  {entries : List (SaplingNoteEntry P C)} {att : Attempt P C}

/-- A recorded batch is the first `maxQuantity = rand() % 35 + 10` eligible
notes of its address, for the attempt's draw, and `amountToSend` is their
sum modulo `2^64`. -/
theorem AttemptAt.fromNotes_eq (ha : AttemptAt env i addr entries att) :
    att.fromNotes = (entries.filter (eligible env.keyStore att.extsk addr)).take
        (env.rand att.draw % 35 + 10) ∧
      att.amountToSend = int64 (sumValues C att.fromNotes) := by
  have hsel := ha.selection
  rw [selectNotes_nil_eq _ (by omega)] at hsel
  obtain ⟨hfrom, hamt⟩ := Prod.mk.inj_iff.mp hsel
  exact ⟨hfrom.symm, by rw [← hamt, hfrom]⟩

/-- A recorded batch holds at most `maxQuantity ≤ 44` notes. -/
theorem AttemptAt.length_le (ha : AttemptAt env i addr entries att) :
    att.fromNotes.length ≤ env.rand att.draw % 35 + 10 ∧
      env.rand att.draw % 35 + 10 ≤ 44 := by
  have := Nat.mod_lt (env.rand att.draw) (show 35 > 0 by decide)
  rw [ha.fromNotes_eq.1]
  exact ⟨List.length_take_le _ _, by omega⟩

/-- With 44 notes of at most `MAX_MONEY` fitting in an `int64_t`, a recorded
`amountToSend` is the exact sum of its batch, and below `2^63`. -/
theorem AttemptAt.amountToSend_eq (ha : AttemptAt env i addr entries att) {MAX_MONEY : Int}
    (hmax : 44 * MAX_MONEY < 2 ^ 63)
    (hvalues : ∀ e ∈ att.fromNotes, ((C.value e.note).toNat : Int) ≤ MAX_MONEY) :
    att.amountToSend = sumValues C att.fromNotes ∧ sumValues C att.fromNotes < 2 ^ 63 := by
  have hlen : (att.fromNotes.length : Int) ≤ 44 := by
    have := ha.length_le
    omega
  have hsum := sumValues_le hvalues
  have hlt : sumValues C att.fromNotes < 2 ^ 63 := by
    by_cases hM : 0 ≤ MAX_MONEY
    · have := Int.mul_le_mul_of_nonneg_right hlen hM
      omega
    · have := Int.mul_nonpos_of_nonneg_of_nonpos (Int.natCast_nonneg att.fromNotes.length)
        (Int.le_of_lt (Int.lt_of_not_ge hM))
      omega
  exact ⟨by rw [ha.fromNotes_eq.2,
    int64_of_lt (by have := sumValues_nonneg (C := C) att.fromNotes; omega) hlt], hlt⟩

/-- The spends of a recorded builder are its batch's first notes, each with
the witness at its position, up to the first missing witness; its fee and
its one output are computed from the whole batch. -/
theorem AttemptAt.builder_spends (ha : AttemptAt env i addr entries att) :
    att.builder.spends.map (·.note) = att.spentEntries.map (·.note) ∧
      (att.builder.spends.map fun sp => some sp.witness).IsPrefix
        (env.noteWitnesses i (att.fromNotes.map (·.op))).1 ∧
      (att.builder.spends.length < att.fromNotes.length →
        (env.noteWitnesses i (att.fromNotes.map (·.op))).1.getD att.builder.spends.length none =
          none) ∧
      att.builder.fee = some (consolidationFee env att.amountToSend) ∧
      att.builder.outputs.map (·.value) =
        [int64 (att.amountToSend - consolidationFee env att.amountToSend)] := by
  obtain ⟨spends, hb, hnotes, -, hwit, hmiss⟩ :=
    consolidationBuilder_eq env i addr att.extsk att.fromNotes att.amountToSend
  rw [← ha.builder_eq] at hb
  rw [Attempt.spentEntries, hb]
  exact ⟨by rw [hnotes, List.map_take], hwit, hmiss, rfl, rfl⟩

end Attempt

/-! ## The batch of an address, over every run -/

/-- Under a bound `MAX_MONEY` on note values such that 44 of them fit in an
`int64_t`, and a non-negative fee: every batch main_impl builds for has
`amountToSend` the exact sum of its notes' values, the fee it sets is
`fConsolidationTxFee` when `amountToSend` exceeds it and `0` otherwise, and
its one output, `amountToSend - fee`, lies in `[0, amountToSend]`. -/
theorem mainImpl_amounts_exact (env : ConsolidationEnv P C) (MAX_MONEY : Int)
    (hmax : 44 * MAX_MONEY < 2 ^ 63)
    (hvalues : ∀ e ∈ env.saplingEntries, ((C.value e.note).toNat : Int) ≤ MAX_MONEY)
    (hfee : 0 ≤ env.fConsolidationTxFee) :
    ∀ att ∈ (mainImpl env).2.attempts, ∃ fee,
      att.amountToSend = sumValues C att.fromNotes ∧
        fee = (if env.fConsolidationTxFee < att.amountToSend then env.fConsolidationTxFee else 0) ∧
        att.builder.fee = some fee ∧
        att.builder.outputs.map (·.value) = [att.amountToSend - fee] ∧
        0 ≤ att.amountToSend - fee ∧ att.amountToSend - fee ≤ att.amountToSend := by
  intro att hatt
  obtain ⟨j, g, hg, ha⟩ := (mainImpl_attempts_at env).2 att hatt
  have hsub := (ha.attemptSafe hg).sublist
  obtain ⟨hamt, hlt⟩ := ha.amountToSend_eq hmax fun e he => hvalues e (hsub.subset he)
  have h0 := sumValues_nonneg att.fromNotes
  rw [ha.builder_eq]
  exact ⟨_, hamt, consolidationFee_eq env _, consolidationBuilder_output env j g.1 att.extsk
    att.fromNotes (by omega) (by omega) hfee⟩

set_option maxRecDepth 20000 in
theorem mainImpl_amounts_exact_natEnv :
    44 * 2100000000000000 < (2 : Int) ^ 63 ∧
      (∀ e ∈ ChainPrimitives.natEnv.saplingEntries,
        ((ChainPrimitives.nat.value e.note).toNat : Int) ≤ 2100000000000000) ∧
      0 ≤ ChainPrimitives.natEnv.fConsolidationTxFee ∧
      ∀ att ∈ (mainImpl ChainPrimitives.natEnv).2.attempts, ∃ fee,
        att.amountToSend = sumValues ChainPrimitives.nat att.fromNotes ∧
          fee = (if ChainPrimitives.natEnv.fConsolidationTxFee < att.amountToSend then
            ChainPrimitives.natEnv.fConsolidationTxFee else 0) ∧
          att.builder.fee = some fee ∧
          att.builder.outputs.map (·.value) = [att.amountToSend - fee] ∧
          0 ≤ att.amountToSend - fee ∧ att.amountToSend - fee ≤ att.amountToSend :=
  ⟨by decide, by decide, by decide,
    mainImpl_amounts_exact ChainPrimitives.natEnv 2100000000000000 (by decide) (by decide)
      (by decide)⟩

/-- With every witness present, 44 notes of at most `MAX_MONEY` fitting in
an `int64_t` and a non-negative fee, every builder main_impl calls `Build()`
on spends its whole batch, in order, and balances: the values it spends are
its one output plus its fee. -/
theorem mainImpl_builders_balance (env : ConsolidationEnv P C) (MAX_MONEY : Int)
    (hmax : 44 * MAX_MONEY < 2 ^ 63)
    (hvalues : ∀ e ∈ env.saplingEntries, ((C.value e.note).toNat : Int) ≤ MAX_MONEY)
    (hfee : 0 ≤ env.fConsolidationTxFee)
    (hwit : ∀ i ops k, k < ops.length → ((env.noteWitnesses i ops).1.getD k none).isSome) :
    ∀ att ∈ (mainImpl env).2.attempts,
      att.builder.spends.map (·.note) = att.fromNotes.map (·.note) ∧
      ∃ fee, att.builder.fee = some fee ∧
        (att.builder.spends.map fun sp => ((C.value sp.note).toNat : Int)).sum =
          (att.builder.outputs.map (·.value)).sum + fee := by
  intro att hatt
  obtain ⟨j, g, hg, ha⟩ := (mainImpl_attempts_at env).2 att hatt
  have hsub := (ha.attemptSafe hg).sublist
  obtain ⟨hamt, hlt⟩ := ha.amountToSend_eq hmax fun e he => hvalues e (hsub.subset he)
  obtain ⟨hnotes, -, hmiss, -⟩ := ha.builder_spends
  rw [Attempt.spentEntries] at hnotes
  -- no witness is missing, so the spend loop runs over the whole batch
  have hlen : att.builder.spends.length = att.fromNotes.length := by
    have hle := congrArg List.length hnotes
    simp only [List.length_map, List.length_take] at hle
    by_contra hne
    have hmis := hmiss (by omega)
    have := hwit j (att.fromNotes.map (·.op)) att.builder.spends.length (by simp; omega)
    rw [hmis] at this
    exact Bool.noConfusion this
  rw [hlen, List.take_length] at hnotes
  have h0 := sumValues_nonneg att.fromNotes
  obtain ⟨hfee', hout, -⟩ := consolidationBuilder_output env j g.1 att.extsk att.fromNotes
    (show 0 ≤ att.amountToSend by omega) (show att.amountToSend < 2 ^ 63 by omega) hfee
  rw [← ha.builder_eq] at hfee' hout
  refine ⟨hnotes, _, hfee', ?_⟩
  have hspent : (att.builder.spends.map fun sp => ((C.value sp.note).toNat : Int)).sum =
      sumValues C att.fromNotes := by
    simpa [sumValues, List.map_map, Function.comp_def] using
      congrArg (fun l => (l.map fun n => ((C.value n).toNat : Int)).sum) hnotes
  rw [hspent, hout, List.sum_singleton, ← hamt]
  omega

theorem mainImpl_builders_balance_natEnv :
    44 * 2100000000000000 < (2 : Int) ^ 63 ∧
      (∀ e ∈ ChainPrimitives.natEnv.saplingEntries,
        ((ChainPrimitives.nat.value e.note).toNat : Int) ≤ 2100000000000000) ∧
      0 ≤ ChainPrimitives.natEnv.fConsolidationTxFee ∧
      (∀ i ops k, k < ops.length →
        ((ChainPrimitives.natEnv.noteWitnesses i ops).1.getD k none).isSome) ∧
      ∀ att ∈ (mainImpl ChainPrimitives.natEnv).2.attempts,
        att.builder.spends.map (·.note) = att.fromNotes.map (·.note) ∧
        ∃ fee, att.builder.fee = some fee ∧
          (att.builder.spends.map fun sp => ((ChainPrimitives.nat.value sp.note).toNat : Int)).sum =
            (att.builder.outputs.map (·.value)).sum + fee :=
  have hwit : ∀ i ops k, k < ops.length →
      ((ChainPrimitives.natEnv.noteWitnesses i ops).1.getD k none).isSome := fun _ _ k hk => by
    simp [ChainPrimitives.natEnv, List.getD_eq_getElem?_getD, hk]
  ⟨by decide, by decide, by decide, hwit,
    mainImpl_builders_balance ChainPrimitives.natEnv 2100000000000000 (by decide) (by decide)
      (by decide) hwit⟩

/-- `natEnv` with no witness for outpoint `2`. -/
def ChainPrimitives.missingWitnessEnv : ConsolidationEnv Primitives.nat ChainPrimitives.nat :=
  { ChainPrimitives.natEnv with
    noteWitnesses := fun _ ops => (ops.map fun op => if op = 2 then none else some (), ()) }

set_option maxRecDepth 20000 in
/-- Over every run, the spends of a builder main_impl calls `Build()` on stop
at the first selected note without a witness, while its fee and its output
are computed from the whole batch. On `missingWitnessEnv` a batch of ten
notes of 100 gets two spends, worth 200, and `Build()` is called on it with
a fee of 10 and an output of 990. -/
theorem mainImpl_builds_past_missing_witness :
    (∀ (P : Primitives) (C : ChainPrimitives P) (env : ConsolidationEnv P C),
      ∀ att ∈ (mainImpl env).2.attempts, ∃ j,
        att.builder.spends.map (·.note) = att.spentEntries.map (·.note) ∧
          (att.builder.spends.map fun sp => some sp.witness).IsPrefix
            (env.noteWitnesses j (att.fromNotes.map (·.op))).1 ∧
          (att.builder.spends.length < att.fromNotes.length →
            (env.noteWitnesses j (att.fromNotes.map (·.op))).1.getD att.builder.spends.length
              none = none) ∧
          att.builder.fee = some (consolidationFee env att.amountToSend) ∧
          att.builder.outputs.map (·.value) =
            [int64 (att.amountToSend - consolidationFee env att.amountToSend)]) ∧
      (mainImpl ChainPrimitives.missingWitnessEnv).2.attempts.map (fun att =>
          ((att.fromNotes.length, att.amountToSend),
            (att.builder.spends.length, sumValues ChainPrimitives.nat att.spentEntries),
            (att.builder.fee, att.builder.outputs.map (·.value)))) =
        [((10, 1000), (2, 200), (some 10, [990]))] :=
  ⟨fun _ _ env att hatt => by
      obtain ⟨j, g, -, ha⟩ := (mainImpl_attempts_at env).2 att hatt
      exact ⟨j, ha.builder_spends⟩,
    by decide⟩

end SevenSeas
