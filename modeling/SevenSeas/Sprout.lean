import SevenSeas.Interface

/-!
# Sprout note decryptors

Adding a Sprout spending or viewing key caches a `ZCNoteDecryption` under
the key's address with `std::map::insert`, which keeps a decryptor already
cached there, and `RemoveSproutViewingKey` erases the key but not the
decryptor. `SproutInv` records what survives every run: each filed key
sits under its own address next to a cached decryptor, and each cached
decryptor was built from the receiving key of some key with that address.
When keys with one address share one receiving key (`ReceivingKeysAgree`,
which Sprout address derivation guarantees), the cached decryptor is the
one built from the stored key.
-/

namespace SevenSeas

/-- `rk` is the receiving key of some Sprout spending or viewing key whose
address is `a`. -/
def Primitives.ReceivingKeyOf (P : Primitives) (a : P.SproutPaymentAddress)
    (rk : P.ReceivingKey) : Prop :=
  (∃ sk, P.sproutAddress sk = a ∧ P.receivingKey sk = rk) ∨
    (∃ vk, P.viewingKeyAddress vk = a ∧ P.skEnc vk = rk)

/-- Sprout keys with one address share one receiving key. -/
def Primitives.ReceivingKeysAgree (P : Primitives) : Prop :=
  ∀ a rk rk', P.ReceivingKeyOf a rk → P.ReceivingKeyOf a rk' → rk = rk'

namespace CBasicKeyStore

variable {P : Primitives} {s : CBasicKeyStore P}

/-- Every filed Sprout key sits under its own address next to a cached
decryptor, and every cached decryptor comes from a key with its address. -/
structure SproutInv (s : CBasicKeyStore P) : Prop where
  spendingKeys : ∀ a sk, s.mapSproutSpendingKeys a = some sk →
    P.sproutAddress sk = a ∧ (s.mapNoteDecryptors a).isSome
  viewingKeys : ∀ a vk, s.mapSproutViewingKeys a = some vk →
    P.viewingKeyAddress vk = a ∧ (s.mapNoteDecryptors a).isSome
  decryptors : ∀ a d, s.mapNoteDecryptors a = some d →
    ∃ rk, P.ReceivingKeyOf a rk ∧ d = P.noteDecryption rk

theorem sproutInv_empty : SproutInv (empty : CBasicKeyStore P) :=
  ⟨fun _ _ h => (nomatch h), fun _ _ h => (nomatch h), fun _ _ h => (nomatch h)⟩

/-- Caching `noteDecryption rk` under `a`, with `rk` a receiving key of `a`,
keeps the decryptor clauses. -/
theorem SproutInv.decryptors_insert (hs : SproutInv s) {a : P.SproutPaymentAddress}
    {rk : P.ReceivingKey} (hrk : P.ReceivingKeyOf a rk) (a' : P.SproutPaymentAddress)
    (d : P.ZCNoteDecryption)
    (h : mapInsert s.mapNoteDecryptors a (P.noteDecryption rk) a' = some d) :
    ∃ rk', P.ReceivingKeyOf a' rk' ∧ d = P.noteDecryption rk' := by
  rcases mapInsert_eq_some h with h | ⟨rfl, rfl⟩
  · exact hs.decryptors a' d h
  · exact ⟨rk, hrk, rfl⟩

theorem SproutInv.addSproutSpendingKey (hs : SproutInv s) (sk : P.SproutSpendingKey) :
    SproutInv (s.addSproutSpendingKey sk).2 where
  spendingKeys a sk' h := by
    simp only [CBasicKeyStore.addSproutSpendingKey, Function.update_apply] at h ⊢
    split_ifs at h with ha
    · cases h; subst ha; exact ⟨rfl, mapInsert_isSome _ _ _⟩
    · exact ⟨(hs.spendingKeys a sk' h).1, mapInsert_isSome_of_isSome _ (hs.spendingKeys a sk' h).2⟩
  viewingKeys a vk h :=
    ⟨(hs.viewingKeys a vk h).1, mapInsert_isSome_of_isSome _ (hs.viewingKeys a vk h).2⟩
  decryptors := hs.decryptors_insert (.inl ⟨sk, rfl, rfl⟩)

theorem SproutInv.addSproutViewingKey (hs : SproutInv s) (vk : P.SproutViewingKey) :
    SproutInv (s.addSproutViewingKey vk).2 where
  spendingKeys a sk h :=
    ⟨(hs.spendingKeys a sk h).1, mapInsert_isSome_of_isSome _ (hs.spendingKeys a sk h).2⟩
  viewingKeys a vk' h := by
    simp only [CBasicKeyStore.addSproutViewingKey, Function.update_apply] at h ⊢
    split_ifs at h with ha
    · cases h; subst ha; exact ⟨rfl, mapInsert_isSome _ _ _⟩
    · exact ⟨(hs.viewingKeys a vk' h).1, mapInsert_isSome_of_isSome _ (hs.viewingKeys a vk' h).2⟩
  decryptors := hs.decryptors_insert (.inr ⟨vk, rfl, rfl⟩)

theorem SproutInv.removeSproutViewingKey (hs : SproutInv s) (vk : P.SproutViewingKey) :
    SproutInv (s.removeSproutViewingKey vk).2 where
  spendingKeys := hs.spendingKeys
  viewingKeys a vk' h := by
    simp only [CBasicKeyStore.removeSproutViewingKey, Function.update_apply] at h
    split_ifs at h
    exact hs.viewingKeys a vk' h
  decryptors := hs.decryptors

/-- Every mutation keeps `SproutInv`; only the three Sprout methods touch
the members it reads. -/
theorem SproutInv.mutate (hs : SproutInv s) (m : Mutation P) : SproutInv (s.mutate m).2 := by
  cases m with
  | addSproutSpendingKey sk => exact hs.addSproutSpendingKey sk
  | addSproutViewingKey vk => exact hs.addSproutViewingKey vk
  | removeSproutViewingKey vk => exact hs.removeSproutViewingKey vk
  | addCScript r => show SproutInv (s.addCScript r).2; rw [addCScript_snd]; exact ⟨hs.1, hs.2, hs.3⟩
  | setHDSeed seed => show SproutInv (s.setHDSeed seed).2; rw [setHDSeed_snd]; exact ⟨hs.1, hs.2, hs.3⟩
  | _ => exact ⟨hs.1, hs.2, hs.3⟩

/-- With agreeing receiving keys, the decryptor cached under a key's
address is the one built from that key. -/
theorem SproutInv.decryptor_eq (hs : SproutInv s) (hP : P.ReceivingKeysAgree)
    {a : P.SproutPaymentAddress} {rk : P.ReceivingKey} (hrk : P.ReceivingKeyOf a rk)
    (hsome : (s.mapNoteDecryptors a).isSome) :
    s.mapNoteDecryptors a = some (P.noteDecryption rk) := by
  obtain ⟨d, hd⟩ := Option.isSome_iff_exists.mp hsome
  obtain ⟨rk', hrk', rfl⟩ := hs.decryptors a d hd
  rw [hd, hP a rk' rk hrk' hrk]

/-- In every reachable store each address holding a Sprout spending or
viewing key has a cached decryptor; when Sprout keys with one address share
one receiving key, that decryptor is built from the stored key's receiving
key. -/
theorem sproutDecryptors_of_reachable (hs : s.Reachable) :
    (∀ a, (s.mapSproutSpendingKeys a).isSome ∨ (s.mapSproutViewingKeys a).isSome →
      (s.mapNoteDecryptors a).isSome) ∧
    (P.ReceivingKeysAgree →
      (∀ a sk, s.mapSproutSpendingKeys a = some sk →
        s.mapNoteDecryptors a = some (P.noteDecryption (P.receivingKey sk))) ∧
      (∀ a vk, s.mapSproutViewingKeys a = some vk →
        s.mapNoteDecryptors a = some (P.noteDecryption (P.skEnc vk)))) := by
  have hinv : SproutInv s := Reachable.induction sproutInv_empty (fun _ m h => h.mutate m) hs
  refine ⟨fun a ha => ?_, fun hP => ⟨fun a sk h => ?_, fun a vk h => ?_⟩⟩
  · rcases ha with ha | ha
    · obtain ⟨sk, h⟩ := Option.isSome_iff_exists.mp ha
      exact (hinv.spendingKeys a sk h).2
    · obtain ⟨vk, h⟩ := Option.isSome_iff_exists.mp ha
      exact (hinv.viewingKeys a vk h).2
  · obtain ⟨ha, hd⟩ := hinv.spendingKeys a sk h
    exact hinv.decryptor_eq hP (.inl ⟨sk, ha, rfl⟩) hd
  · obtain ⟨ha, hd⟩ := hinv.viewingKeys a vk h
    exact hinv.decryptor_eq hP (.inr ⟨vk, ha, rfl⟩) hd

/-- In the numbers instance every Sprout key is its own address and its own
receiving key, so keys with one address share one receiving key. -/
theorem receivingKeysAgree_nat : Primitives.nat.ReceivingKeysAgree := by
  rintro a rk rk' (⟨sk, rfl, rfl⟩ | ⟨vk, rfl, rfl⟩) (⟨sk', h, rfl⟩ | ⟨vk', h, rfl⟩) <;>
    exact h.symm

/-- After importing spending key `4`, removing and re-importing viewing key
`4`, the store holds both keys and one decryptor, the one built from the
spending key's receiving key, which is the viewing key's as well. -/
theorem sproutDecryptors_of_reachable_nat :
    ((empty (P := Primitives.nat)).run [.mutate (.addSproutSpendingKey 4),
      .mutate (.removeSproutViewingKey 4), .mutate (.addSproutViewingKey 4)]).Reachable ∧
    Primitives.nat.ReceivingKeysAgree ∧
    (((empty (P := Primitives.nat)).run [.mutate (.addSproutSpendingKey 4),
      .mutate (.removeSproutViewingKey 4), .mutate (.addSproutViewingKey 4)]).mapNoteDecryptors
        4).isSome ∧
    ((empty (P := Primitives.nat)).run [.mutate (.addSproutSpendingKey 4),
      .mutate (.removeSproutViewingKey 4), .mutate (.addSproutViewingKey 4)]).mapNoteDecryptors 4 =
        some (Primitives.nat.noteDecryption (Primitives.nat.skEnc 4)) :=
  ⟨⟨_, rfl⟩, receivingKeysAgree_nat,
    (sproutDecryptors_of_reachable (P := Primitives.nat) ⟨_, rfl⟩).1 4 (.inl rfl),
    ((sproutDecryptors_of_reachable (P := Primitives.nat) ⟨_, rfl⟩).2
      receivingKeysAgree_nat).2 4 4 rfl⟩

end CBasicKeyStore

end SevenSeas
