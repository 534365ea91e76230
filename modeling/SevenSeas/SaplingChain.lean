import SevenSeas.Interface

/-!
# The Sapling key chain

`GetSaplingExtendedSpendingKey` resolves `addr → ivk → extfvk → sk`
through three maps, each written by its own method. Every link is an
`operator[]` assignment, so a later import can re-point one.

`SaplingInv` is what every reachable store satisfies: each link agrees
with the derivation that produced it, and the viewing-key sets cover
the maps. It holds of the empty store and every mutation keeps it
(`SaplingInv.mutate`); from it, the composite lookup only ever returns a
key that owns the address's ivk.

What does not hold is that an imported spending key stays reachable
from its default address: the spending key itself is never lost
(`HoldsSpendingKey` is stable under every call), but the two links in
front of it can be re-pointed. `AddSaplingFullViewingKey` of another key
with the same ivk sends the lookup to that key's spending key, or makes it
fail when none is filed (`addSaplingSpendingKey_persists`). The
address → ivk link changes only when the address is registered with
another ivk, which no run that registers each address with its own ivk
does (`getSaplingIncomingViewingKey_stable`).
-/

namespace SevenSeas

namespace CBasicKeyStore

variable {P : Primitives} {s : CBasicKeyStore P}

/-! ## The invariant -/

/-- The links of the Sapling chain agree with the derivations, and every
viewing key the maps mention is registered in its set. -/
structure SaplingInv (s : CBasicKeyStore P) : Prop where
  /-- A full viewing key is filed under its own ivk; its ivk and ovk are registered. -/
  fullViewingKeys : ∀ ivk x, s.mapSaplingFullViewingKeys ivk = some x →
    ivk = P.fvkIvk x ∧ ivk ∈ s.setSaplingIncomingViewingKeys ∧
      P.ovk (P.fvk x) ∈ s.setSaplingOutgoingViewingKeys
  /-- A spending key is filed under its own full viewing key, which is filed in turn. -/
  spendingKeys : ∀ x sk, s.mapSaplingSpendingKeys x = some sk →
    P.toXFVK sk = x ∧ (s.mapSaplingFullViewingKeys (P.fvkIvk x)).isSome
  /-- Every address's ivk is registered. -/
  incomingViewingKeys : ∀ addr ivk, s.mapSaplingIncomingViewingKeys addr = some ivk →
    ivk ∈ s.setSaplingIncomingViewingKeys

theorem saplingInv_empty : SaplingInv (empty : CBasicKeyStore P) :=
  ⟨fun _ _ h => (nomatch h), fun _ _ h => (nomatch h), fun _ _ h => (nomatch h)⟩

theorem SaplingInv.addSaplingIncomingViewingKey (hs : SaplingInv s)
    (ivk : P.SaplingIncomingViewingKey) (addr : P.SaplingPaymentAddress) :
    SaplingInv (s.addSaplingIncomingViewingKey ivk addr).2 where
  fullViewingKeys i x h := by
    obtain ⟨h1, h2, h3⟩ := hs.fullViewingKeys i x h
    exact ⟨h1, Finset.mem_insert_of_mem h2, h3⟩
  spendingKeys := hs.spendingKeys
  incomingViewingKeys a i h := by
    simp only [CBasicKeyStore.addSaplingIncomingViewingKey, Function.update_apply] at h ⊢
    split_ifs at h
    · cases h; exact Finset.mem_insert_self _ _
    · exact Finset.mem_insert_of_mem (hs.incomingViewingKeys a i h)

theorem SaplingInv.addSaplingFullViewingKey (hs : SaplingInv s)
    (x : P.SaplingExtendedFullViewingKey) : SaplingInv (s.addSaplingFullViewingKey x).2 where
  fullViewingKeys i y h := by
    simp only [addSaplingFullViewingKey_eq, Function.update_apply] at h ⊢
    split_ifs at h with hi
    · cases h; subst hi; simp
    · obtain ⟨h1, h2, h3⟩ := hs.fullViewingKeys i y h
      exact ⟨h1, Finset.mem_insert_of_mem h2, Finset.mem_insert_of_mem h3⟩
  spendingKeys y sk h := by
    obtain ⟨h1, h2⟩ := hs.spendingKeys y sk h
    simp only [addSaplingFullViewingKey_eq, Function.update_apply]
    exact ⟨h1, by split_ifs <;> simp [h2]⟩
  incomingViewingKeys a i h := by
    simp only [addSaplingFullViewingKey_eq, Function.update_apply] at h ⊢
    split_ifs at h
    · cases h; exact Finset.mem_insert_self _ _
    · exact Finset.mem_insert_of_mem (hs.incomingViewingKeys a i h)

theorem SaplingInv.addSaplingSpendingKey (hs : SaplingInv s)
    (sk : P.SaplingExtendedSpendingKey) : SaplingInv (s.addSaplingSpendingKey sk).2 := by
  have ht := hs.addSaplingFullViewingKey (P.toXFVK sk)
  refine ⟨ht.fullViewingKeys, fun y sk' h => ?_, ht.incomingViewingKeys⟩
  simp only [addSaplingSpendingKey_eq, Function.update_apply] at h
  split_ifs at h with hy
  · cases h; subst hy; simp [addSaplingSpendingKey_eq, addSaplingFullViewingKey_eq]
  · exact ht.spendingKeys y sk' h

/-- Every mutation keeps `SaplingInv`: the three Sapling adds by the lemmas
above, every other one because it writes none of the five members. -/
theorem SaplingInv.mutate (hs : SaplingInv s) (m : Mutation P) : SaplingInv (s.mutate m).2 := by
  cases m with
  | addSaplingSpendingKey sk => exact hs.addSaplingSpendingKey sk
  | addSaplingFullViewingKey x => exact hs.addSaplingFullViewingKey x
  | addSaplingIncomingViewingKey ivk addr => exact hs.addSaplingIncomingViewingKey ivk addr
  | addCScript r => show SaplingInv (s.addCScript r).2; rw [addCScript_snd]; exact ⟨hs.1, hs.2, hs.3⟩
  | setHDSeed seed => show SaplingInv (s.setHDSeed seed).2; rw [setHDSeed_snd]; exact ⟨hs.1, hs.2, hs.3⟩
  | _ => exact ⟨hs.1, hs.2, hs.3⟩

/-- Under the invariant, a spending key returned for `addr` derives the ivk
`addr` maps to. -/
theorem SaplingInv.getSaplingExtendedSpendingKey_ivk (hs : SaplingInv s)
    {addr : P.SaplingPaymentAddress} {extskOut sk : P.SaplingExtendedSpendingKey}
    (ivkOut : P.SaplingIncomingViewingKey)
    (h : s.getSaplingExtendedSpendingKey addr extskOut = (true, sk)) :
    s.getSaplingIncomingViewingKey addr ivkOut = (true, P.fvkIvk (P.toXFVK sk)) := by
  rw [getSaplingExtendedSpendingKey_eq, mapFind_eq_true, saplingSpendingKeyOf] at h
  obtain ⟨ivk, hivk, x, hx, hsk⟩ := by simpa only [Option.bind_eq_some] using h
  obtain ⟨rfl, -⟩ := hs.fullViewingKeys ivk x hx
  rw [(hs.spendingKeys x sk hsk).1]
  exact mapFind_eq_true.mpr hivk

/-- Every reachable store satisfies `SaplingInv`, so the composite lookup
never yields a spending key that does not own the address's incoming
viewing key. -/
theorem saplingInv_of_reachable (hs : s.Reachable) :
    SaplingInv s ∧
      ∀ addr (extskOut sk : P.SaplingExtendedSpendingKey) (ivkOut : P.SaplingIncomingViewingKey),
        s.getSaplingExtendedSpendingKey addr extskOut = (true, sk) →
          s.getSaplingIncomingViewingKey addr ivkOut = (true, P.fvkIvk (P.toXFVK sk)) := by
  have hinv : SaplingInv s := Reachable.induction saplingInv_empty (fun _ m h => h.mutate m) hs
  exact ⟨hinv, fun _ _ _ ivkOut h => hinv.getSaplingExtendedSpendingKey_ivk ivkOut h⟩

theorem saplingInv_of_reachable_nat :
    (empty.run [.mutate (.addSaplingSpendingKey 2)] : CBasicKeyStore Primitives.nat).Reachable ∧
      SaplingInv (empty.run [.mutate (.addSaplingSpendingKey 2)] : CBasicKeyStore Primitives.nat) :=
  ⟨⟨_, rfl⟩, (saplingInv_of_reachable ⟨_, rfl⟩).1⟩

/-! ## Spending keys are never lost -/

/-- A spending key deriving `x` is filed under `x`. -/
def HoldsSpendingKey (s : CBasicKeyStore P) (x : P.SaplingExtendedFullViewingKey) : Prop :=
  ∃ sk, s.mapSaplingSpendingKeys x = some sk ∧ P.toXFVK sk = x

/-- Only `AddSaplingSpendingKey` writes `mapSaplingSpendingKeys`, and only
under the key's own full viewing key. -/
theorem HoldsSpendingKey.mutate {x : P.SaplingExtendedFullViewingKey}
    (h : s.HoldsSpendingKey x) (m : Mutation P) : (s.mutate m).2.HoldsSpendingKey x := by
  cases m with
  | addSaplingSpendingKey sk =>
    obtain ⟨sk₀, h₁, h₂⟩ := h
    simp only [CBasicKeyStore.mutate, addSaplingSpendingKey_eq, HoldsSpendingKey,
      Function.update_apply]
    split_ifs with hx
    · exact ⟨sk, rfl, hx.symm⟩
    · exact ⟨sk₀, h₁, h₂⟩
  | addCScript r => show (s.addCScript r).2.HoldsSpendingKey x; rw [addCScript_snd]; exact h
  | setHDSeed seed => show (s.setHDSeed seed).2.HoldsSpendingKey x; rw [setHDSeed_snd]; exact h
  | _ => exact h

theorem holdsSpendingKey_addSaplingSpendingKey (s : CBasicKeyStore P)
    (sk : P.SaplingExtendedSpendingKey) :
    (s.addSaplingSpendingKey sk).2.HoldsSpendingKey (P.toXFVK sk) :=
  ⟨sk, by simp [addSaplingSpendingKey_eq], rfl⟩

/-- The two links in front of `x`'s spending key still point at it: the
default address maps to `x`'s ivk, and that ivk to `x`. -/
def SaplingLinksIntact (s : CBasicKeyStore P) (x : P.SaplingExtendedFullViewingKey) : Prop :=
  s.mapSaplingIncomingViewingKeys (P.defaultAddress x) = some (P.fvkIvk x) ∧
    s.mapSaplingFullViewingKeys (P.fvkIvk x) = some x

/-- `AddSaplingFullViewingKey(x')` points the ivk of `x'` at `x'`: from an
address that maps to that ivk, the composite lookup then reads the spending
key filed under `x'`. -/
theorem getSaplingExtendedSpendingKey_addSaplingFullViewingKey (s : CBasicKeyStore P)
    (x' : P.SaplingExtendedFullViewingKey) {addr : P.SaplingPaymentAddress}
    (haddr : s.mapSaplingIncomingViewingKeys addr = some (P.fvkIvk x'))
    (extskOut : P.SaplingExtendedSpendingKey) :
    (s.addSaplingFullViewingKey x').2.getSaplingExtendedSpendingKey addr extskOut =
      s.getSaplingSpendingKey x' extskOut := by
  have hivk : (s.addSaplingFullViewingKey x').2.mapSaplingIncomingViewingKeys addr =
      some (P.fvkIvk x') := by
    rw [addSaplingFullViewingKey_eq]
    by_cases h : addr = P.defaultAddress x'
    · subst h; simp
    · simp [Function.update_noteq h, haddr]
  rw [getSaplingExtendedSpendingKey_eq, getSaplingSpendingKey]
  unfold mapFind saplingSpendingKeyOf
  rw [hivk]
  simp [addSaplingFullViewingKey_eq]

/-- After `AddSaplingSpendingKey(sk)` and any later calls, a spending key for
`x = sk.ToXFVK()` is still filed and derives `x`; the composite lookup from
`x`'s default address returns such a key in every later state whose two
front links still point at `x`. In a later state where that address still
maps to `x`'s ivk, `AddSaplingFullViewingKey` of a key `x'` with the same
ivk re-points the ivk to `x'`, and the lookup then returns the spending key
filed under `x'` when there is one, and fails otherwise. -/
theorem addSaplingSpendingKey_persists (s : CBasicKeyStore P) (sk : P.SaplingExtendedSpendingKey)
    (cs : List (Call P)) (extskOut : P.SaplingExtendedSpendingKey) :
    ((s.addSaplingSpendingKey sk).2.run cs).HoldsSpendingKey (P.toXFVK sk) ∧
      (((s.addSaplingSpendingKey sk).2.run cs).SaplingLinksIntact (P.toXFVK sk) →
        ∃ sk', ((s.addSaplingSpendingKey sk).2.run cs).getSaplingExtendedSpendingKey
            (P.defaultAddress (P.toXFVK sk)) extskOut = (true, sk') ∧
          P.toXFVK sk' = P.toXFVK sk) ∧
      ∀ x' : P.SaplingExtendedFullViewingKey, P.fvkIvk x' = P.fvkIvk (P.toXFVK sk) →
        ((s.addSaplingSpendingKey sk).2.run cs).mapSaplingIncomingViewingKeys
            (P.defaultAddress (P.toXFVK sk)) = some (P.fvkIvk (P.toXFVK sk)) →
        (((s.addSaplingSpendingKey sk).2.run cs).addSaplingFullViewingKey
            x').2.getSaplingExtendedSpendingKey (P.defaultAddress (P.toXFVK sk)) extskOut =
          ((s.addSaplingSpendingKey sk).2.run cs).getSaplingSpendingKey x' extskOut := by
  have hheld := run_preserves (I := (HoldsSpendingKey · (P.toXFVK sk)))
    (preserved_of_mutate fun _ m h => h.mutate m) _ cs (holdsSpendingKey_addSaplingSpendingKey s sk)
  refine ⟨hheld, fun ⟨hivk, hfvk⟩ => ?_, fun x' hx' haddr => ?_⟩
  · obtain ⟨sk', hsk, hx⟩ := hheld
    refine ⟨sk', ?_, hx⟩
    rw [getSaplingExtendedSpendingKey_eq, mapFind_eq_true, saplingSpendingKeyOf, hivk]
    simp only [Option.some_bind, hfvk, hsk]
  · rw [← hx'] at haddr
    exact getSaplingExtendedSpendingKey_addSaplingFullViewingKey _ x' haddr extskOut

/-- With spending keys `2` and then `3` filed (both of ivk `1`, with default
address `1`), the front links of `2` are intact right after its import, and
re-importing the full viewing key `3` makes the lookup from address `1`
return `3`, the key filed under `3`. -/
theorem addSaplingSpendingKey_persists_nat :
    ((empty : CBasicKeyStore Primitives.nat).addSaplingSpendingKey 2).2.SaplingLinksIntact 2 ∧
      ((((empty : CBasicKeyStore Primitives.nat).addSaplingSpendingKey 2).2.run
          [.mutate (.addSaplingSpendingKey 3)]).addSaplingFullViewingKey
          3).2.getSaplingExtendedSpendingKey 1 0 = (true, 3) :=
  ⟨⟨rfl, rfl⟩, ((addSaplingSpendingKey_persists (P := Primitives.nat) empty 2
    [.mutate (.addSaplingSpendingKey 3)] 0).2.2 3 rfl rfl).trans rfl⟩

/-- Re-importing a full viewing key with the same ivk re-points the
`ivk → extfvk` link: with `sk = 2` (default address `1`, ivk `1`), adding the
full viewing key `3` (also ivk `1`) makes the lookup from address `1` fail. -/
theorem addSaplingFullViewingKey_unlinks_spendingKey :
    Primitives.nat.fvkIvk 3 = Primitives.nat.fvkIvk (Primitives.nat.toXFVK 2) ∧
      Primitives.nat.defaultAddress (Primitives.nat.toXFVK 2) = 1 ∧
      (((empty : CBasicKeyStore Primitives.nat).addSaplingSpendingKey 2).2.addSaplingFullViewingKey
          3).2.getSaplingExtendedSpendingKey 1 0 = (false, 0) :=
  ⟨rfl, rfl, rfl⟩

end CBasicKeyStore

/-! ## One address, one incoming viewing key

`AddSaplingIncomingViewingKey` assigns with `operator[]`; its comment's
promise that an address already in the map keeps its ivk rests on each
address having one ivk. On runs whose calls register every address with its
own ivk, the address's entry, once set, never changes. -/

variable {P : Primitives}

/-- The `(addr, ivk)` pairs a mutation hands to `AddSaplingIncomingViewingKey`:
its own arguments, or the default address and ivk of the full viewing key
that `AddSaplingFullViewingKey` and `AddSaplingSpendingKey` register. -/
def Mutation.ivkPairs : Mutation P → List (P.SaplingPaymentAddress × P.SaplingIncomingViewingKey)
  | .addSaplingIncomingViewingKey ivk addr => [(addr, ivk)]
  | .addSaplingFullViewingKey extfvk => [(P.defaultAddress extfvk, P.fvkIvk extfvk)]
  | .addSaplingSpendingKey sk => [(P.defaultAddress (P.toXFVK sk), P.fvkIvk (P.toXFVK sk))]
  | _ => []

/-- A call registers every address it registers with the ivk `ivkOf`
assigns it. -/
def Call.pairsWith (ivkOf : P.SaplingPaymentAddress → P.SaplingIncomingViewingKey) :
    Call P → Bool
  | .mutate m => m.ivkPairs.all fun p => decide (p.2 = ivkOf p.1)
  | .query _ => true

namespace CBasicKeyStore

variable {s : CBasicKeyStore P}

/-- A mutation writes the address → ivk map at its pairs only. -/
theorem mutate_mapSaplingIncomingViewingKeys (m : Mutation P) (addr : P.SaplingPaymentAddress) :
    (s.mutate m).2.mapSaplingIncomingViewingKeys addr = s.mapSaplingIncomingViewingKeys addr ∨
      ∃ ivk, (addr, ivk) ∈ m.ivkPairs ∧
        (s.mutate m).2.mapSaplingIncomingViewingKeys addr = some ivk := by
  -- the three Sapling adds each write one pair
  have hupd : ∀ (a : P.SaplingPaymentAddress) (ivk : P.SaplingIncomingViewingKey),
      Function.update s.mapSaplingIncomingViewingKeys a (some ivk) addr =
          s.mapSaplingIncomingViewingKeys addr ∨
        ∃ ivk', (addr, ivk') ∈ [(a, ivk)] ∧
          Function.update s.mapSaplingIncomingViewingKeys a (some ivk) addr = some ivk' :=
    fun a ivk => by
      by_cases h : addr = a
      · subst h; exact .inr ⟨ivk, List.mem_singleton_self _, by simp⟩
      · exact .inl (Function.update_noteq h _ _)
  cases m with
  | addSaplingSpendingKey sk => exact hupd _ _
  | addSaplingFullViewingKey x => exact hupd _ _
  | addSaplingIncomingViewingKey ivk a => exact hupd _ _
  | addCScript r =>
    exact .inl (by
      show (s.addCScript r).2.mapSaplingIncomingViewingKeys addr = _; rw [addCScript_snd])
  | setHDSeed seed =>
    exact .inl (by
      show (s.setHDSeed seed).2.mapSaplingIncomingViewingKeys addr = _; rw [setHDSeed_snd])
  | _ => exact .inl rfl

section Pairs

variable (ivkOf : P.SaplingPaymentAddress → P.SaplingIncomingViewingKey)

/-- Every address in the map has the ivk `ivkOf` assigns it. -/
def IvksOf (s : CBasicKeyStore P) : Prop :=
  ∀ addr ivk, s.mapSaplingIncomingViewingKeys addr = some ivk → ivk = ivkOf addr

/-- A call registering consistent pairs keeps the map consistent. -/
theorem IvksOf.call {c : Call P} (hc : c.pairsWith ivkOf = true) (hs : IvksOf ivkOf s) :
    IvksOf ivkOf (s.call c).2 := fun addr ivk h => by
  cases c with
  | query q => exact hs addr ivk h
  | mutate m =>
    rcases mutate_mapSaplingIncomingViewingKeys m addr with hm | ⟨ivk', hmem, hm⟩
    · exact hs addr ivk (by rw [← hm]; exact h)
    · have hpair := List.all_eq_true.mp hc _ hmem
      rw [call_mutate, hm] at h
      cases h
      exact of_decide_eq_true hpair

/-- A call registering consistent pairs keeps an entry that has its address's ivk. -/
theorem call_ivk_stable {c : Call P} (hc : c.pairsWith ivkOf = true)
    {addr : P.SaplingPaymentAddress}
    (hs : s.mapSaplingIncomingViewingKeys addr = some (ivkOf addr)) :
    (s.call c).2.mapSaplingIncomingViewingKeys addr = some (ivkOf addr) := by
  cases c with
  | query q => exact hs
  | mutate m =>
    rcases mutate_mapSaplingIncomingViewingKeys m addr with hm | ⟨ivk', hmem, hm⟩
    · rw [call_mutate, hm, hs]
    · rw [call_mutate, hm]
      exact congrArg some (of_decide_eq_true (List.all_eq_true.mp hc _ hmem))

/-- On every run from the empty store whose calls register each address
with its one ivk, once `GetSaplingIncomingViewingKey(addr)` returns an ivk it
returns the same ivk in every later state; and registering an address again
with the ivk it has leaves the map unchanged. -/
theorem getSaplingIncomingViewingKey_stable (cs₁ cs₂ : List (Call P))
    (hpairs : ∀ c ∈ cs₁ ++ cs₂, c.pairsWith ivkOf = true) {addr : P.SaplingPaymentAddress}
    {ivk : P.SaplingIncomingViewingKey} (ivkOut ivkOut' : P.SaplingIncomingViewingKey)
    (h : (empty.run cs₁).getSaplingIncomingViewingKey addr ivkOut = (true, ivk)) :
    (empty.run (cs₁ ++ cs₂)).getSaplingIncomingViewingKey addr ivkOut' = (true, ivk) ∧
      ((empty.run cs₁).addSaplingIncomingViewingKey ivk addr).2.mapSaplingIncomingViewingKeys =
        (empty.run cs₁).mapSaplingIncomingViewingKeys := by
  have hinv : IvksOf ivkOf (empty.run cs₁) :=
    run_preserves_of (fun _ _ hc hs => hs.call ivkOf hc) empty cs₁
      (fun c hc => hpairs c (List.mem_append_left _ hc)) (fun _ _ h => nomatch h)
  have hset : (empty.run cs₁).mapSaplingIncomingViewingKeys addr = some ivk :=
    mapFind_eq_true.mp h
  have hown := hinv addr ivk hset
  subst hown
  refine ⟨?_, by simp [addSaplingIncomingViewingKey, Function.update_eq_self_iff, hset]⟩
  rw [run_append, getSaplingIncomingViewingKey, mapFind_eq_true]
  exact run_preserves_of (I := fun t => t.mapSaplingIncomingViewingKeys addr = some (ivkOf addr))
    (fun _ _ hc hs => call_ivk_stable ivkOf hc hs) _ cs₂
    (fun c hc => hpairs c (List.mem_append_right _ hc)) hset

end Pairs

theorem getSaplingIncomingViewingKey_stable_nat :
    (∀ c ∈ [.mutate (.addSaplingSpendingKey 2)] ++
        [.mutate (.addSaplingFullViewingKey 3), .mutate (.addSaplingIncomingViewingKey 1 1)],
        Call.pairsWith (P := Primitives.nat) id c = true) ∧
      ((empty : CBasicKeyStore Primitives.nat).run
        [.mutate (.addSaplingSpendingKey 2)]).getSaplingIncomingViewingKey 1 0 = (true, 1) ∧
      ((empty : CBasicKeyStore Primitives.nat).run ([.mutate (.addSaplingSpendingKey 2)] ++
        [.mutate (.addSaplingFullViewingKey 3), .mutate (.addSaplingIncomingViewingKey 1 1)])
        ).getSaplingIncomingViewingKey 1 0 = (true, 1) :=
  have h : ((empty : CBasicKeyStore Primitives.nat).run
      [.mutate (.addSaplingSpendingKey 2)]).getSaplingIncomingViewingKey 1 0 = (true, 1) := rfl
  ⟨by decide, h, (getSaplingIncomingViewingKey_stable id _ _ (by decide) 0 0 h).1⟩

/-- `AddSaplingIncomingViewingKey` assigns with `operator[]`: a second
registration of `addr` replaces its ivk. -/
theorem addSaplingIncomingViewingKey_overwrites (s : CBasicKeyStore P)
    (ivk ivk₂ : P.SaplingIncomingViewingKey) (addr : P.SaplingPaymentAddress)
    (ivkOut : P.SaplingIncomingViewingKey) :
    ((s.addSaplingIncomingViewingKey ivk addr).2.addSaplingIncomingViewingKey ivk₂
        addr).2.getSaplingIncomingViewingKey addr ivkOut = (true, ivk₂) := by
  simp [CBasicKeyStore.addSaplingIncomingViewingKey, getSaplingIncomingViewingKey, mapFind]

/-- Registering address `5` with ivk `1` and then with ivk `2` leaves `2`:
the second registration is not refused. -/
theorem addSaplingIncomingViewingKey_overwrites_nat :
    (((empty : CBasicKeyStore Primitives.nat).addSaplingIncomingViewingKey 1
        5).2.addSaplingIncomingViewingKey 2 5).2.getSaplingIncomingViewingKey 5 0 = (true, 2) :=
  addSaplingIncomingViewingKey_overwrites _ 1 2 5 0

/-! ## One `AddSaplingSpendingKey` -/

/-- `AddSaplingSpendingKey(sk)` from any store succeeds and writes exactly
the three links of `sk`'s chain and its two viewing keys; in the store it
leaves, the chain resolves from the default address to `sk`, and a second
call returns `true` and changes nothing. -/
theorem addSaplingSpendingKey_spec (s : CBasicKeyStore P) (sk : P.SaplingExtendedSpendingKey)
    (extskOut : P.SaplingExtendedSpendingKey) :
    (s.addSaplingSpendingKey sk).1 = true ∧
      (s.addSaplingSpendingKey sk).2 = { s with
        mapSaplingFullViewingKeys := Function.update s.mapSaplingFullViewingKeys
          (P.fvkIvk (P.toXFVK sk)) (some (P.toXFVK sk))
        mapSaplingIncomingViewingKeys := Function.update s.mapSaplingIncomingViewingKeys
          (P.defaultAddress (P.toXFVK sk)) (some (P.fvkIvk (P.toXFVK sk)))
        mapSaplingSpendingKeys := Function.update s.mapSaplingSpendingKeys (P.toXFVK sk) (some sk)
        setSaplingIncomingViewingKeys :=
          insert (P.fvkIvk (P.toXFVK sk)) s.setSaplingIncomingViewingKeys
        setSaplingOutgoingViewingKeys :=
          insert (P.ovk (P.fvk (P.toXFVK sk))) s.setSaplingOutgoingViewingKeys } ∧
      (s.addSaplingSpendingKey sk).2.haveSaplingFullViewingKey (P.fvkIvk (P.toXFVK sk)) = true ∧
      (s.addSaplingSpendingKey sk).2.haveSaplingIncomingViewingKey
        (P.defaultAddress (P.toXFVK sk)) = true ∧
      (s.addSaplingSpendingKey sk).2.getSaplingExtendedSpendingKey
        (P.defaultAddress (P.toXFVK sk)) extskOut = (true, sk) ∧
      (s.addSaplingSpendingKey sk).2.addSaplingSpendingKey sk =
        (true, (s.addSaplingSpendingKey sk).2) := by
  refine ⟨rfl, rfl, ?_, ?_, ?_, ?_⟩
  · simp [addSaplingSpendingKey_eq, addSaplingFullViewingKey_eq, haveSaplingFullViewingKey]
  · simp [addSaplingSpendingKey_eq, addSaplingFullViewingKey_eq, haveSaplingIncomingViewingKey]
  · rw [getSaplingExtendedSpendingKey_eq]
    exact mapFind_of_some (by simp [saplingSpendingKeyOf, addSaplingSpendingKey_eq,
      addSaplingFullViewingKey_eq]) _
  · simp [addSaplingSpendingKey_eq, addSaplingFullViewingKey_eq, Finset.insert_idem]

end CBasicKeyStore

end SevenSeas
