import SevenSeas.Interface

/-!
# The two lock partitions of `CBasicKeyStore`

Every method of keystore.cpp takes exactly one of two locks:

- `cs_KeyStore` guards the transparent keys, the scripts and both
  watch-only sets;
- `cs_SpendingKeyStore` guards the seed and the Sprout, Sapling and
  diversifier maps.

`Call.lock` records which lock each method takes, as its `LOCK(...)` line
says. Two calls under different locks may run at the same time. That is
sound because each call neither reads nor writes the members the other
lock guards (`call_withSpendingKeyStoreMembers`,
`call_withKeyStoreMembers`): overwriting those members before the call is
the same as overwriting them after it. Two such calls therefore commute,
in their results and in the store they leave. The argument is the
disjoint-support one: a frame lemma per partition, then record
extensionality.
-/

namespace SevenSeas

variable {P : Primitives}

/-- The two mutexes of `CBasicKeyStore`. -/
inductive Lock
  | keyStore
  | spendingKeyStore
deriving DecidableEq, Repr

/-- The lock each mutating method takes. -/
def Mutation.lock : Mutation P → Lock
  | .addKey _ | .addKeyPubKey _ _ | .addCScript _ | .addWatchOnly _ | .addSaplingWatchOnly _
  | .removeWatchOnly _ | .removeSaplingWatchOnly _ => .keyStore
  | .setHDSeed _ | .addSproutSpendingKey _ | .addSproutViewingKey _ | .removeSproutViewingKey _
  | .addSaplingSpendingKey _ | .addSaplingFullViewingKey _ | .addSaplingIncomingViewingKey _ _
  | .addSaplingDiversifiedAddess _ _ _ | .addLastDiversifierUsed _ _ => .spendingKeyStore

/-- The lock each `const` method takes. -/
def Query.lock : Query P → Lock
  | .getPubKey _ _ | .haveCScript _ | .getCScript _ _ | .haveWatchOnly _
  | .haveSaplingWatchOnly _ | .haveAnyWatchOnly => .keyStore
  | .haveHDSeed | .getHDSeed _ | .haveSproutViewingKey _ | .getSproutViewingKey _ _
  | .haveSaplingFullViewingKey _ | .haveSaplingIncomingViewingKey _
  | .getSaplingFullViewingKey _ _ | .getSaplingIncomingViewingKey _ _
  | .getSaplingExtendedSpendingKey _ _ => .spendingKeyStore

def Call.lock : Call P → Lock
  | .mutate m => m.lock
  | .query q => q.lock

namespace CBasicKeyStore

/-- `s` with the members `cs_KeyStore` guards taken from `t`. -/
def withKeyStoreMembers (s t : CBasicKeyStore P) : CBasicKeyStore P :=
  { s with
    mapKeys := t.mapKeys
    mapScripts := t.mapScripts
    setWatchOnly := t.setWatchOnly
    setSaplingWatchOnly := t.setSaplingWatchOnly }

/-- `s` with the members `cs_SpendingKeyStore` guards taken from `t`. -/
def withSpendingKeyStoreMembers (s t : CBasicKeyStore P) : CBasicKeyStore P :=
  t.withKeyStoreMembers s

@[simp] theorem withKeyStoreMembers_self (s : CBasicKeyStore P) : s.withKeyStoreMembers s = s :=
  rfl

@[simp] theorem withSpendingKeyStoreMembers_self (s : CBasicKeyStore P) :
    s.withSpendingKeyStoreMembers s = s :=
  rfl

/-! ## Each call stays inside its partition -/

/-- A call under `cs_SpendingKeyStore` neither reads nor writes the members
`cs_KeyStore` guards. -/
theorem call_withKeyStoreMembers {c : Call P} (hc : c.lock = .spendingKeyStore)
    (s t : CBasicKeyStore P) :
    (s.withKeyStoreMembers t).call c = ((s.call c).1, (s.call c).2.withKeyStoreMembers t) := by
  cases c with
  | mutate m =>
    cases m <;> first
      | (cases hc; done)
      | rfl
      | by_cases h : P.isNull s.hdSeed <;> simp [call, mutate, setHDSeed, withKeyStoreMembers, h]
  | query q => cases q <;> first | (cases hc; done) | rfl

/-- A call under `cs_KeyStore` neither reads nor writes the members
`cs_SpendingKeyStore` guards. -/
theorem call_withSpendingKeyStoreMembers {c : Call P} (hc : c.lock = .keyStore)
    (s t : CBasicKeyStore P) :
    (s.withSpendingKeyStoreMembers t).call c =
      ((s.call c).1, (s.call c).2.withSpendingKeyStoreMembers t) := by
  cases c with
  | mutate m =>
    cases m <;> first
      | (cases hc; done)
      | rfl
      | (simp only [call, mutate, addCScript]; split <;> rfl)
  | query q => cases q <;> first | (cases hc; done) | rfl

/-- Calls under different locks commute: run in either order, each returns
what it returns alone and the two leave the same store. -/
theorem call_comm_of_lock_ne (s : CBasicKeyStore P) (c₁ c₂ : Call P)
    (h₁ : c₁.lock = .keyStore) (h₂ : c₂.lock = .spendingKeyStore) :
    (∀ t : CBasicKeyStore P, (s.withKeyStoreMembers t).call c₂ =
      ((s.call c₂).1, (s.call c₂).2.withKeyStoreMembers t)) ∧
    (∀ t : CBasicKeyStore P, (s.withSpendingKeyStoreMembers t).call c₁ =
      ((s.call c₁).1, (s.call c₁).2.withSpendingKeyStoreMembers t)) ∧
    ((s.call c₁).2.call c₂).2 = ((s.call c₂).2.call c₁).2 ∧
    ((s.call c₂).2.call c₁).1 = (s.call c₁).1 ∧
    ((s.call c₁).2.call c₂).1 = (s.call c₂).1 := by
  -- each call leaves the other partition as it found it
  have hs₁ : (s.call c₁).2 = s.withKeyStoreMembers (s.call c₁).2 := by
    simpa using congrArg Prod.snd (call_withSpendingKeyStoreMembers h₁ s s)
  have hs₂ : (s.call c₂).2 = s.withSpendingKeyStoreMembers (s.call c₂).2 := by
    simpa using congrArg Prod.snd (call_withKeyStoreMembers h₂ s s)
  have h₁₂ := call_withKeyStoreMembers h₂ s (s.call c₁).2
  have h₂₁ := call_withSpendingKeyStoreMembers h₁ s (s.call c₂).2
  rw [← hs₁] at h₁₂
  rw [← hs₂] at h₂₁
  refine ⟨call_withKeyStoreMembers h₂ s, call_withSpendingKeyStoreMembers h₁ s, ?_, ?_, ?_⟩
  · rw [h₁₂, h₂₁]; rfl
  · rw [h₂₁]
  · rw [h₁₂]

theorem call_comm_of_lock_ne_nat :
    (Mutation.addKey 5 : Mutation Primitives.nat).lock = .keyStore ∧
      (Mutation.addSaplingSpendingKey 2 : Mutation Primitives.nat).lock = .spendingKeyStore ∧
      (((empty (P := Primitives.nat)).call (.mutate (.addKey 5))).2.call
          (.mutate (.addSaplingSpendingKey 2))).2 =
        (((empty (P := Primitives.nat)).call (.mutate (.addSaplingSpendingKey 2))).2.call
          (.mutate (.addKey 5))).2 :=
  ⟨rfl, rfl, (call_comm_of_lock_ne (P := Primitives.nat) empty (.mutate (.addKey 5))
    (.mutate (.addSaplingSpendingKey 2)) rfl rfl).2.2.1⟩

end CBasicKeyStore

end SevenSeas
