import SevenSeas.ConsolidationLoops
import SevenSeas.ConsolidationBatch
import SevenSeas.SaplingChain

/-!
# main_impl over a reachable wallet

main_impl resolves each address's spending key with
`GetSaplingExtendedSpendingKey`, and then tests every note a second way: the
note's address must map, through `GetSaplingIncomingViewingKey`, to
`extsk.expsk.full_viewing_key().in_viewing_key()`. In a key store reachable
from the empty one the two lookups agree (the Sapling chain invariant
`SaplingInv`), so, as `ToXFVK()` keeps the expanded key's full viewing key,
the test passes for every note at the address. The count check then compares
the target with the number of the address's notes, and each batch is the
first `maxQuantity` of them in the wallet's order (`mainImpl_batches_prefix`).
-/

namespace SevenSeas

variable {P : Primitives} {C : ChainPrimitives P}

/-- In a reachable store, every note at an address the store holds a
spending key for passes the ownership test against that key. -/
theorem eligible_of_reachable {ks : CBasicKeyStore P} (hks : ks.Reachable)
    (hkeys : ∀ sk, P.spendingIvk sk = P.fvkIvk (P.toXFVK sk))
    {addr : P.SaplingPaymentAddress} {extsk : P.SaplingExtendedSpendingKey}
    (hkey : ks.getSaplingExtendedSpendingKey addr default = (true, extsk))
    {e : SaplingNoteEntry P C} (he : e.address = addr) : eligible ks extsk addr e = true := by
  have hinv : CBasicKeyStore.SaplingInv ks :=
    CBasicKeyStore.Reachable.induction CBasicKeyStore.saplingInv_empty (fun _ m h => h.mutate m) hks
  have hivk := hinv.getSaplingExtendedSpendingKey_ivk default hkey
  simp [eligible, he, hivk, hkeys]

/-- In a wallet whose key store is reachable from the empty store, the
ownership test drops no note: every attempt's batch is the first
`maxQuantity` of the wallet's notes at its address, in the wallet's order,
for a `maxQuantity` in `[10, 44]`, and the count check passed on the number
of those notes. -/
theorem mainImpl_batches_prefix (env : ConsolidationEnv P C) (hks : env.keyStore.Reachable)
    (hkeys : ∀ sk, P.spendingIvk sk = P.fvkIvk (P.toXFVK sk)) :
    ∀ att ∈ (mainImpl env).2.attempts, ∃ maxQuantity, 10 ≤ maxQuantity ∧ maxQuantity ≤ 44 ∧
      att.fromNotes = (env.saplingEntries.filter fun e => e.address = att.addr).take maxQuantity ∧
      env.wallet.targetConsolidationQty ≤
        ((env.saplingEntries.filter fun e => e.address = att.addr).length : Int) := by
  intro att hatt
  obtain ⟨j, g, hg, ha⟩ := (mainImpl_attempts_at env).2 att hatt
  have hgroup := (mapAddresses_groupsExact env).groups g hg
  -- every note filed at the address passes the ownership test
  have hall : g.2.filter (eligible env.keyStore att.extsk g.1) = g.2 :=
    List.filter_eq_self.mpr fun e he => by
      rw [hgroup, List.mem_filter, decide_eq_true_iff] at he
      exact eligible_of_reachable hks hkeys ha.key he.2
  have hfrom := ha.fromNotes_eq.1
  have htarget := ha.target
  rw [countNotes_eq, hall] at htarget
  rw [hall] at hfrom
  rw [ha.addr_eq, ← hgroup]
  exact ⟨_, by omega, ha.length_le.2, hfrom, by simpa using htarget⟩

theorem mainImpl_batches_prefix_natEnv :
    ChainPrimitives.natEnv.keyStore.Reachable ∧
      (∀ sk, Primitives.nat.spendingIvk sk = Primitives.nat.fvkIvk (Primitives.nat.toXFVK sk)) ∧
      ∀ att ∈ (mainImpl ChainPrimitives.natEnv).2.attempts, ∃ maxQuantity,
        10 ≤ maxQuantity ∧ maxQuantity ≤ 44 ∧
        att.fromNotes = (ChainPrimitives.natEnv.saplingEntries.filter fun e =>
          e.address = att.addr).take maxQuantity ∧
        ChainPrimitives.natEnv.wallet.targetConsolidationQty ≤
          ((ChainPrimitives.natEnv.saplingEntries.filter fun e => e.address = att.addr).length : Int) :=
  have hks : ChainPrimitives.natEnv.keyStore.Reachable := ⟨[.mutate (.addSaplingSpendingKey 2)], rfl⟩
  ⟨hks, fun _ => rfl, mainImpl_batches_prefix _ hks fun _ => rfl⟩

end SevenSeas
