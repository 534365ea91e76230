import SevenSeas.Interface

/-!
# What a call leaves alone

Two frame properties of the interface. A call that returns `false`
changes nothing: the store is the one it was given and the
out-parameter keeps its value; only `AddCScript` of an oversized script
and `SetHDSeed` over an existing seed fail among the mutations, and a
query never changes the store. And the HD seed is write-once: only
`SetHDSeed` writes `hdSeed`, and it refuses once a seed is set, so a
seed, once there, is what `GetHDSeed` returns along every later run.
-/

namespace SevenSeas

namespace CBasicKeyStore

variable {P : Primitives} {s : CBasicKeyStore P}

/-! ## Failed calls -/

/-- The two mutations that can return `false`, and when they do. -/
theorem mutate_eq_false_iff (m : Mutation P) :
    (s.mutate m).1 = false ↔
      (∃ r, m = .addCScript r ∧ P.scriptSize r > P.MAX_SCRIPT_ELEMENT_SIZE) ∨
        (∃ seed, m = .setHDSeed seed ∧ s.haveHDSeed = true) := by
  cases m with
  | addCScript r =>
    show (s.addCScript r).1 = false ↔ _
    by_cases hr : P.scriptSize r > P.MAX_SCRIPT_ELEMENT_SIZE
    · exact iff_of_true (by rw [addCScript, if_pos hr]) (.inl ⟨r, rfl, hr⟩)
    · refine iff_of_false (by rw [addCScript, if_neg hr]; exact Bool.noConfusion) ?_
      rintro (⟨_, ⟨⟩, h⟩ | ⟨_, ⟨⟩, _⟩)
      exact hr h
  | setHDSeed seed =>
    show (s.setHDSeed seed).1 = false ↔ _
    -- `haveHDSeed` is the guard of `SetHDSeed`
    by_cases h : (!P.isNull s.hdSeed) = true
    · exact iff_of_true (by rw [setHDSeed, if_pos h]) (.inr ⟨seed, rfl, h⟩)
    · refine iff_of_false (by rw [setHDSeed, if_neg h]; exact Bool.noConfusion) ?_
      rintro (⟨_, ⟨⟩, _⟩ | ⟨_, ⟨⟩, h'⟩)
      exact h h'
  -- every other mutation returns `true`
  | _ => exact iff_of_false (fun h => Bool.noConfusion h) (by rintro (⟨_, ⟨⟩, _⟩ | ⟨_, ⟨⟩, _⟩))

/-- A mutation that returns `false` leaves the store as it was. -/
theorem mutate_false {m : Mutation P} (h : (s.mutate m).1 = false) : (s.mutate m).2 = s := by
  rcases (mutate_eq_false_iff m).mp h with ⟨r, rfl, hr⟩ | ⟨seed, rfl, hseed⟩
  · show (s.addCScript r).2 = s
    simp [addCScript, hr]
  · show (s.setHDSeed seed).2 = s
    simp only [haveHDSeed] at hseed
    simp [setHDSeed, hseed]

theorem getPubKey_false {address : P.CKeyID} {o : P.CPubKey}
    (h : (s.getPubKey address o).1 = false) : (s.getPubKey address o).2 = o := by
  unfold getPubKey at *; split <;> simp_all

theorem getHDSeed_false {o : P.HDSeed} (h : (s.getHDSeed o).1 = false) :
    (s.getHDSeed o).2 = o := by
  unfold getHDSeed at *; split <;> simp_all

theorem getSaplingExtendedSpendingKey_false {addr : P.SaplingPaymentAddress}
    {o : P.SaplingExtendedSpendingKey} (h : (s.getSaplingExtendedSpendingKey addr o).1 = false) :
    (s.getSaplingExtendedSpendingKey addr o).2 = o := by
  rw [getSaplingExtendedSpendingKey_eq] at *; exact mapFind_false h

/-- A query that returns `false` leaves its out-parameter as it was. -/
theorem query_false {q : Query P} (h : (s.query q).1 = false) : (s.query q).2 = q.out := by
  cases q with
  | getPubKey address o => exact congrArg Out.pubKey (getPubKey_false h)
  | getCScript hash o => exact congrArg Out.script (mapFind_false h)
  | getHDSeed o => exact congrArg Out.seed (getHDSeed_false h)
  | getSproutViewingKey address o => exact congrArg Out.sproutViewingKey (mapFind_false h)
  | getSaplingFullViewingKey ivk o => exact congrArg Out.saplingFullViewingKey (mapFind_false h)
  | getSaplingIncomingViewingKey addr o =>
    exact congrArg Out.saplingIncomingViewingKey (mapFind_false h)
  | getSaplingExtendedSpendingKey addr o =>
    exact congrArg Out.saplingExtendedSpendingKey (getSaplingExtendedSpendingKey_false h)
  | _ => rfl

/-- A call that returns `false` changes neither the store nor its
out-parameter, the mutations that can fail are exactly an oversized
`AddCScript` and a `SetHDSeed` over a set seed, and a query never changes
the store. -/
theorem call_false_frame :
    (∀ (s : CBasicKeyStore P) (c : Call P),
      (s.call c).1.1 = false → (s.call c).2 = s ∧ (s.call c).1.2 = c.out) ∧
    (∀ (s : CBasicKeyStore P) (m : Mutation P),
      (s.mutate m).1 = false ↔
        (∃ r, m = .addCScript r ∧ P.scriptSize r > P.MAX_SCRIPT_ELEMENT_SIZE) ∨
          (∃ seed, m = .setHDSeed seed ∧ s.haveHDSeed = true)) ∧
    (∀ (s : CBasicKeyStore P) (q : Query P), (s.call (.query q)).2 = s) := by
  refine ⟨fun s c h => ?_, fun s m => mutate_eq_false_iff m, fun _ _ => rfl⟩
  cases c with
  | mutate m => exact ⟨mutate_false h, rfl⟩
  | query q => exact ⟨rfl, query_false h⟩

/-- Over a store holding the seed `[1]`, `SetHDSeed([2])` returns `false` and
leaves the store as it was. -/
theorem call_false_frame_nat :
    (((empty : CBasicKeyStore Primitives.nat).setHDSeed [1]).2.call
        (.mutate (.setHDSeed [2]))).1.1 = false ∧
      (((empty : CBasicKeyStore Primitives.nat).setHDSeed [1]).2.call
        (.mutate (.setHDSeed [2]))).2 = ((empty : CBasicKeyStore Primitives.nat).setHDSeed [1]).2 :=
  have h : (((empty : CBasicKeyStore Primitives.nat).setHDSeed [1]).2.call
      (.mutate (.setHDSeed [2]))).1.1 = false := rfl
  ⟨h, (call_false_frame.1 _ _ h).1⟩

/-! ## The seed is write-once -/

/-- No mutation but `SetHDSeed` writes `hdSeed`. -/
theorem mutate_hdSeed {m : Mutation P} (hm : ∀ seed, m ≠ .setHDSeed seed) :
    (s.mutate m).2.hdSeed = s.hdSeed := by
  cases m with
  | setHDSeed seed => exact absurd rfl (hm seed)
  | addCScript r => show (s.addCScript r).2.hdSeed = _; rw [addCScript_snd]
  | _ => rfl

/-- Once a seed is set, no mutation changes it. -/
theorem mutate_hdSeed_of_have (hs : s.haveHDSeed = true) (m : Mutation P) :
    (s.mutate m).2.hdSeed = s.hdSeed := by
  by_cases hm : ∃ seed, m = .setHDSeed seed
  · obtain ⟨seed, rfl⟩ := hm
    exact congrArg hdSeed (mutate_false ((mutate_eq_false_iff _).mpr (.inr ⟨seed, rfl, hs⟩)))
  · exact mutate_hdSeed fun seed h => hm ⟨seed, h⟩

/-- `SetHDSeed` refuses over a set seed and changes nothing; no other
mutation writes the seed; and once `HaveHDSeed()` holds, `GetHDSeed`
returns that seed after every later run. -/
theorem hdSeed_write_once :
    (∀ (s : CBasicKeyStore P) (seed : P.HDSeed),
      s.haveHDSeed = true → s.setHDSeed seed = (false, s)) ∧
    (∀ (s : CBasicKeyStore P) (m : Mutation P),
      (∀ seed, m ≠ .setHDSeed seed) → (s.mutate m).2.hdSeed = s.hdSeed) ∧
    (∀ (s : CBasicKeyStore P) (cs : List (Call P)) (seedOut : P.HDSeed),
      s.haveHDSeed = true → (s.run cs).getHDSeed seedOut = (true, s.hdSeed)) := by
  refine ⟨fun s seed hs => ?_, fun _ _ hm => mutate_hdSeed hm, fun s cs seedOut hs => ?_⟩
  · simp only [haveHDSeed] at hs
    simp [setHDSeed, hs]
  · have hrun : (s.run cs).hdSeed = s.hdSeed :=
      run_preserves (I := fun t => t.hdSeed = s.hdSeed)
        (preserved_of_mutate fun t m ht => by
          rw [mutate_hdSeed_of_have (by rw [haveHDSeed, ht]; exact hs) m, ht]) s cs rfl
    simp only [haveHDSeed, Bool.not_eq_true'] at hs
    simp [getHDSeed, hrun, hs]

/-- Once the seed `[1]` is set, a later `SetHDSeed([2])` and a Sapling import
leave `GetHDSeed` returning `[1]`. -/
theorem hdSeed_write_once_nat :
    ((empty : CBasicKeyStore Primitives.nat).setHDSeed [1]).2.haveHDSeed = true ∧
      (((empty : CBasicKeyStore Primitives.nat).setHDSeed [1]).2.run
        [.mutate (.setHDSeed [2]), .mutate (.addSaplingSpendingKey 2)]).getHDSeed [] =
        (true, [1]) :=
  have hs : ((empty : CBasicKeyStore Primitives.nat).setHDSeed [1]).2.haveHDSeed = true := rfl
  ⟨hs, hdSeed_write_once.2.2 _ _ [] hs⟩

/-! ## What no call removes -/

/-- Every key of `m` is still a key of `m'`. -/
def KeysKept {α β : Type} (m m' : α → Option β) : Prop :=
  ∀ k, (m k).isSome → (m' k).isSome

theorem keysKept_update_some {α β : Type} [DecidableEq α] (m : α → Option β) (k : α) (v : β) :
    KeysKept m (Function.update m k (some v)) := fun k' h => by
  by_cases hk : k' = k
  · subst hk; simp
  · rwa [Function.update_noteq hk]

/-- `std::map::insert` keeps every value already there. -/
theorem mapInsert_apply_of_some {α β : Type} [DecidableEq α] {m : α → Option β} {k k' : α}
    {d : β} (v : β) (h : m k' = some d) : mapInsert m k v k' = some d := by
  rw [mapInsert_apply, if_neg]
  · exact h
  · rintro ⟨rfl, hk⟩
    simp [h] at hk

/-- What a store keeps of an earlier one: the keys of every map no method
erases from, the Sapling viewing-key sets, and each cached Sprout decryptor
with its value. -/
structure Retains (s s' : CBasicKeyStore P) : Prop where
  keys : KeysKept s.mapKeys s'.mapKeys
  scripts : KeysKept s.mapScripts s'.mapScripts
  sproutSpendingKeys : KeysKept s.mapSproutSpendingKeys s'.mapSproutSpendingKeys
  noteDecryptors : ∀ a d, s.mapNoteDecryptors a = some d → s'.mapNoteDecryptors a = some d
  saplingSpendingKeys : KeysKept s.mapSaplingSpendingKeys s'.mapSaplingSpendingKeys
  saplingFullViewingKeys : KeysKept s.mapSaplingFullViewingKeys s'.mapSaplingFullViewingKeys
  saplingIncomingViewingKeys :
    KeysKept s.mapSaplingIncomingViewingKeys s'.mapSaplingIncomingViewingKeys
  incomingViewingKeySet : s.setSaplingIncomingViewingKeys ⊆ s'.setSaplingIncomingViewingKeys
  outgoingViewingKeySet : s.setSaplingOutgoingViewingKeys ⊆ s'.setSaplingOutgoingViewingKeys
  paymentAddresses : KeysKept s.mapSaplingPaymentAddresses s'.mapSaplingPaymentAddresses
  lastDiversifierPaths : KeysKept s.mapLastDiversifierPath s'.mapLastDiversifierPath

theorem Retains.refl (s : CBasicKeyStore P) : Retains s s :=
  ⟨fun _ h => h, fun _ h => h, fun _ h => h, fun _ _ h => h, fun _ h => h, fun _ h => h,
    fun _ h => h, subset_rfl, subset_rfl, fun _ h => h, fun _ h => h⟩

theorem Retains.trans {s₁ s₂ s₃ : CBasicKeyStore P} (h₁ : Retains s₁ s₂) (h₂ : Retains s₂ s₃) :
    Retains s₁ s₃ :=
  ⟨fun k h => h₂.1 k (h₁.1 k h), fun k h => h₂.2 k (h₁.2 k h), fun k h => h₂.3 k (h₁.3 k h),
    fun a d h => h₂.4 a d (h₁.4 a d h), fun k h => h₂.5 k (h₁.5 k h),
    fun k h => h₂.6 k (h₁.6 k h), fun k h => h₂.7 k (h₁.7 k h), h₁.8.trans h₂.8,
    h₁.9.trans h₂.9, fun k h => h₂.10 k (h₁.10 k h), fun k h => h₂.11 k (h₁.11 k h)⟩

/-- No mutation loses a key of those maps or sets, or changes a cached
decryptor: each writes with `operator[]`, `insert` or a set `insert`, and
the erasing methods touch only the watch-only sets and the Sprout viewing
keys. -/
theorem Retains.mutate (s : CBasicKeyStore P) (m : Mutation P) : Retains s (s.mutate m).2 := by
  cases m with
  | addCScript r =>
    show Retains s (s.addCScript r).2
    unfold addCScript
    split
    · exact Retains.refl s
    · exact { Retains.refl s with scripts := keysKept_update_some _ _ _ }
  | setHDSeed seed =>
    show Retains s (s.setHDSeed seed).2
    unfold setHDSeed
    split
    · exact Retains.refl s
    · exact { Retains.refl s with }
  | _ =>
    constructor <;> first
      | exact fun _ h => h
      | exact fun _ _ h => h
      | exact subset_rfl
      | exact keysKept_update_some _ _ _
      | exact fun _ _ h => mapInsert_apply_of_some _ h
      | exact Finset.subset_insert _ _

/-- Over every run from any store, no transparent key, script, Sprout
spending key, Sapling spending, full or incoming viewing key, diversified
address or last diversifier is lost, and the Sapling viewing-key sets only
grow; a value may be replaced by a later `operator[]`, but the key stays.
Every cached Sprout decryptor keeps its value: `mapNoteDecryptors` is
written by `insert` alone. -/
theorem retains_run (s : CBasicKeyStore P) (cs : List (Call P)) : Retains s (s.run cs) := by
  induction cs generalizing s with
  | nil => exact Retains.refl s
  | cons c cs ih =>
    have hc : Retains s (s.call c).2 := by
      cases c with
      | mutate m => exact Retains.mutate s m
      | query q => exact Retains.refl s
    exact hc.trans (ih _)

end CBasicKeyStore

end SevenSeas
