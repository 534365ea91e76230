import SevenSeas.Interface

/-!
# The store as the history of its calls

Every mutation of keystore.cpp is a blind write: it puts a value at one key
of a member (`mapKeys[pubkey.GetID()] = key`, `setWatchOnly.erase(dest)`)
whatever that key held, with two exceptions that read first: the Sprout
decryptor cache, written with `std::map::insert`, and `SetHDSeed`, which
refuses once a seed is set. `Effect` lists, per call, the entry it writes
in each member, read off the function bodies, and `call_eq_apply` checks
that the model's functions do exactly that.

Over a history of calls, the store then has a declarative reading,
`replay`: an entry of a map, or a set's membership of an element, is what
the last call that wrote there left, or what the store held before the
history if no call did; a cached decryptor is the one cached before, or
else the first one offered; and a null seed becomes the first non-null
seed offered, or else the last seed offered. `replay` composes over
histories (`replay_append`), and a run's store is the replay of its history
(`run_eq_replay`).

Two mutations whose effects write different keys in every member, and at
most one of which offers a seed, commute, results included
(`mutate_comm_of_independent`): beside the two lock partitions, which of two
such imports under one lock goes first makes no difference.
-/

namespace SevenSeas

variable {P : Primitives}

/-! ## What one call writes -/

/-- The entry one call writes in each member: the key, and the value it
leaves there (`none` in a map's entry is an erase; `false` in a set's is a
removal). `hdSeed` and `mapNoteDecryptors` hold what the call offers to a
member that may refuse it. -/
structure Effect (P : Primitives) where
  mapKeys : Option (P.CKeyID × Option P.CKey) := none
  mapScripts : Option (P.CScriptID × Option P.CScript) := none
  setWatchOnly : Option (P.CScript × Bool) := none
  setSaplingWatchOnly : Option (P.SaplingExtendedFullViewingKey × Bool) := none
  hdSeed : Option P.HDSeed := none
  mapSproutSpendingKeys : Option (P.SproutPaymentAddress × Option P.SproutSpendingKey) := none
  mapNoteDecryptors : Option (P.SproutPaymentAddress × P.ZCNoteDecryption) := none
  mapSproutViewingKeys : Option (P.SproutPaymentAddress × Option P.SproutViewingKey) := none
  mapSaplingSpendingKeys :
    Option (P.SaplingExtendedFullViewingKey × Option P.SaplingExtendedSpendingKey) := none
  mapSaplingFullViewingKeys :
    Option (P.SaplingIncomingViewingKey × Option P.SaplingExtendedFullViewingKey) := none
  setSaplingOutgoingViewingKeys : Option (P.OutgoingViewingKey × Bool) := none
  mapSaplingIncomingViewingKeys :
    Option (P.SaplingPaymentAddress × Option P.SaplingIncomingViewingKey) := none
  setSaplingIncomingViewingKeys : Option (P.SaplingIncomingViewingKey × Bool) := none
  mapSaplingPaymentAddresses : Option (P.SaplingPaymentAddress × Option (DiversifierPath P)) := none
  mapLastDiversifierPath : Option (P.SaplingIncomingViewingKey × Option P.Blob88) := none

/-- What `AddSaplingFullViewingKey(extfvk)` writes: the key under its ivk,
its ovk, and its default address with that ivk. -/
def Effect.ofFullViewingKey (extfvk : P.SaplingExtendedFullViewingKey) : Effect P where
  mapSaplingFullViewingKeys := some (P.fvkIvk extfvk, some extfvk)
  setSaplingOutgoingViewingKeys := some (P.ovk (P.fvk extfvk), true)
  mapSaplingIncomingViewingKeys := some (P.defaultAddress extfvk, some (P.fvkIvk extfvk))
  setSaplingIncomingViewingKeys := some (P.fvkIvk extfvk, true)

/-- The entries each call of keystore.cpp writes; a query writes none. -/
def Call.effect : Call P → Effect P
  | .mutate (.addKey key) => { mapKeys := some (P.getID (P.getPubKey key), some key) }
  | .mutate (.addKeyPubKey key pubkey) => { mapKeys := some (P.getID pubkey, some key) }
  | .mutate (.addCScript redeemScript) =>
    if P.scriptSize redeemScript > P.MAX_SCRIPT_ELEMENT_SIZE then {}
    else { mapScripts := some (P.scriptID redeemScript, some redeemScript) }
  | .mutate (.addWatchOnly dest) => { setWatchOnly := some (dest, true) }
  | .mutate (.addSaplingWatchOnly extfvk) => { setSaplingWatchOnly := some (extfvk, true) }
  | .mutate (.removeWatchOnly dest) => { setWatchOnly := some (dest, false) }
  | .mutate (.removeSaplingWatchOnly extfvk) => { setSaplingWatchOnly := some (extfvk, false) }
  | .mutate (.setHDSeed seed) => { hdSeed := some seed }
  | .mutate (.addSproutSpendingKey sk) =>
    { mapSproutSpendingKeys := some (P.sproutAddress sk, some sk)
      mapNoteDecryptors := some (P.sproutAddress sk, P.noteDecryption (P.receivingKey sk)) }
  | .mutate (.addSproutViewingKey vk) =>
    { mapSproutViewingKeys := some (P.viewingKeyAddress vk, some vk)
      mapNoteDecryptors := some (P.viewingKeyAddress vk, P.noteDecryption (P.skEnc vk)) }
  | .mutate (.removeSproutViewingKey vk) =>
    { mapSproutViewingKeys := some (P.viewingKeyAddress vk, none) }
  | .mutate (.addSaplingSpendingKey sk) =>
    { Effect.ofFullViewingKey (P.toXFVK sk) with
      mapSaplingSpendingKeys := some (P.toXFVK sk, some sk) }
  | .mutate (.addSaplingFullViewingKey extfvk) => Effect.ofFullViewingKey extfvk
  | .mutate (.addSaplingIncomingViewingKey ivk addr) =>
    { mapSaplingIncomingViewingKeys := some (addr, some ivk)
      setSaplingIncomingViewingKeys := some (ivk, true) }
  | .mutate (.addSaplingDiversifiedAddess addr ivk path) =>
    { mapSaplingPaymentAddresses := some (addr, some (ivk, path)) }
  | .mutate (.addLastDiversifierUsed ivk path) =>
    { mapLastDiversifierPath := some (ivk, some path) }
  | .query _ => {}

section Apply

variable {α β : Type} [DecidableEq α]

/-- `operator[]` or `erase` on a map: the written entry replaces the key's value. -/
def writeMap (m : α → β) : Option (α × β) → α → β
  | none => m
  | some (k, v) => Function.update m k v

/-- `insert` or `erase` on a set. -/
def writeSet (S : Finset α) : Option (α × Bool) → Finset α
  | none => S
  | some (a, true) => insert a S
  | some (a, false) => S.erase a

/-- `std::map::insert`: a key already present keeps its value. -/
def insertMap (m : α → Option β) : Option (α × β) → α → Option β
  | none => m
  | some (k, v) => mapInsert m k v

/-- The entry one call writes at key `k`, if it writes there. -/
def entryAt (e : Option (α × β)) (k : α) : Option β :=
  e.bind fun e => if k = e.1 then some e.2 else none

theorem entryAt_eq_some {e : Option (α × β)} {k : α} {v : β} (h : entryAt e k = some v) :
    e = some (k, v) := by
  rcases e with _ | ⟨a, b⟩
  · cases h
  · by_cases hk : k = a
    · subst hk
      simp_all [entryAt]
    · simp [entryAt, hk] at h

theorem writeMap_apply (m : α → β) (e : Option (α × β)) (k : α) :
    writeMap m e k = (entryAt e k).getD (m k) := by
  rcases e with _ | ⟨a, v⟩
  · rfl
  · by_cases hk : k = a
    · subst hk
      simp [writeMap, entryAt]
    · simp [writeMap, entryAt, hk]

theorem mem_writeSet (S : Finset α) (e : Option (α × Bool)) (a : α) :
    a ∈ writeSet S e ↔ (entryAt e a).getD (decide (a ∈ S)) = true := by
  rcases e with _ | ⟨b, _ | _⟩
  · simp [writeSet, entryAt]
  all_goals
    by_cases hab : a = b
    · subst hab
      simp [writeSet, entryAt]
    · simp [writeSet, entryAt, hab]

theorem insertMap_apply (m : α → Option β) (e : Option (α × β)) (k : α) :
    insertMap m e k = (m k).or (entryAt e k) := by
  rcases e with _ | ⟨a, v⟩
  · exact Option.or_none.symm
  · by_cases hk : k = a
    · subst hk
      cases hm : m k <;> simp [insertMap, mapInsert_apply, entryAt, hm]
    · simp [insertMap, mapInsert_apply, entryAt, hk]

end Apply

/-- `SetHDSeed`: a seed is taken only while the stored one is null. -/
def offerSeed (hdSeed : P.HDSeed) : Option P.HDSeed → P.HDSeed
  | none => hdSeed
  | some seed => if !P.isNull hdSeed then hdSeed else seed

/-- The store after one call's writes. -/
def Effect.apply (e : Effect P) (s : CBasicKeyStore P) : CBasicKeyStore P where
  mapKeys := writeMap s.mapKeys e.mapKeys
  mapScripts := writeMap s.mapScripts e.mapScripts
  setWatchOnly := writeSet s.setWatchOnly e.setWatchOnly
  setSaplingWatchOnly := writeSet s.setSaplingWatchOnly e.setSaplingWatchOnly
  hdSeed := offerSeed s.hdSeed e.hdSeed
  mapSproutSpendingKeys := writeMap s.mapSproutSpendingKeys e.mapSproutSpendingKeys
  mapNoteDecryptors := insertMap s.mapNoteDecryptors e.mapNoteDecryptors
  mapSproutViewingKeys := writeMap s.mapSproutViewingKeys e.mapSproutViewingKeys
  mapSaplingSpendingKeys := writeMap s.mapSaplingSpendingKeys e.mapSaplingSpendingKeys
  mapSaplingFullViewingKeys := writeMap s.mapSaplingFullViewingKeys e.mapSaplingFullViewingKeys
  setSaplingOutgoingViewingKeys :=
    writeSet s.setSaplingOutgoingViewingKeys e.setSaplingOutgoingViewingKeys
  mapSaplingIncomingViewingKeys :=
    writeMap s.mapSaplingIncomingViewingKeys e.mapSaplingIncomingViewingKeys
  setSaplingIncomingViewingKeys :=
    writeSet s.setSaplingIncomingViewingKeys e.setSaplingIncomingViewingKeys
  mapSaplingPaymentAddresses := writeMap s.mapSaplingPaymentAddresses e.mapSaplingPaymentAddresses
  mapLastDiversifierPath := writeMap s.mapLastDiversifierPath e.mapLastDiversifierPath

namespace CBasicKeyStore

/-- Every call writes exactly its `effect`: the nested calls of
`AddSaplingSpendingKey` and `AddSaplingFullViewingKey` included, and a
refused `AddCScript` or `SetHDSeed` writes nothing. -/
theorem call_eq_apply (s : CBasicKeyStore P) (c : Call P) : (s.call c).2 = c.effect.apply s := by
  rcases c with m | q
  · cases m with
    | addCScript r =>
      show (s.addCScript r).2 = (if P.scriptSize r > P.MAX_SCRIPT_ELEMENT_SIZE then ({} : Effect P)
        else { mapScripts := some (P.scriptID r, some r) }).apply s
      unfold addCScript
      split_ifs <;> rfl
    | setHDSeed seed =>
      show (s.setHDSeed seed).2 = { s with hdSeed := offerSeed s.hdSeed (some seed) }
      unfold setHDSeed offerSeed
      split_ifs <;> rfl
    | _ => rfl
  · rfl

end CBasicKeyStore

/-! ## The history reading -/

section History

variable {α β : Type} [DecidableEq α] (w : Effect P → Option (α × β))

/-- What the last call of `log` that writes at `k` left there, or `d` when
none does. -/
def lastWrite (log : List (Call P)) (k : α) (d : β) : β :=
  (log.reverse.findSome? fun c => entryAt (w c.effect) k).getD d

/-- The first value a call of `log` offers at `k`. -/
def firstWrite (log : List (Call P)) (k : α) : Option β :=
  log.findSome? fun c => entryAt (w c.effect) k

/-- A set after `log`: the elements whose last add or remove in `log` was an
add, and those of `S` that `log` does not remove. -/
def lastWriteSet (w : Effect P → Option (α × Bool)) (log : List (Call P)) (S : Finset α) :
    Finset α :=
  (S ∪ (log.filterMap fun c => (w c.effect).map Prod.fst).toFinset).filter
    fun a => lastWrite w log a (decide (a ∈ S))

theorem lastWrite_singleton (c : Call P) (k : α) (d : β) :
    lastWrite w [c] k d = (entryAt (w c.effect) k).getD d := by
  simp only [lastWrite, List.reverse_singleton, List.findSome?_cons, List.findSome?_nil]
  split <;> simp_all

/-- A later write at `k` hides every earlier one. -/
theorem lastWrite_append (l₁ l₂ : List (Call P)) (k : α) (d : β) :
    lastWrite w (l₁ ++ l₂) k d = lastWrite w l₂ k (lastWrite w l₁ k d) := by
  unfold lastWrite
  rw [List.reverse_append, List.findSome?_append]
  cases l₂.reverse.findSome? fun c => entryAt (w c.effect) k <;> rfl

/-- A key whose value changed was written by some call of the history. -/
theorem exists_write_of_lastWrite_ne {log : List (Call P)} {k : α} {d : β}
    (h : lastWrite w log k d ≠ d) : ∃ c ∈ log, ∃ v, w c.effect = some (k, v) := by
  unfold lastWrite at h
  cases hf : log.reverse.findSome? fun c => entryAt (w c.effect) k with
  | none => rw [hf] at h; exact absurd rfl h
  | some v =>
    obtain ⟨c, hc, hcv⟩ := List.exists_of_findSome?_eq_some hf
    exact ⟨c, List.mem_reverse.mp hc, v, entryAt_eq_some hcv⟩

theorem firstWrite_singleton (c : Call P) (k : α) : firstWrite w [c] k = entryAt (w c.effect) k := by
  simp only [firstWrite, List.findSome?_cons, List.findSome?_nil]
  split <;> simp_all

theorem firstWrite_append (l₁ l₂ : List (Call P)) (k : α) :
    firstWrite w (l₁ ++ l₂) k = (firstWrite w l₁ k).or (firstWrite w l₂ k) :=
  List.findSome?_append

section Sets

variable (w : Effect P → Option (α × Bool))

theorem mem_lastWriteSet (log : List (Call P)) (S : Finset α) (a : α) :
    a ∈ lastWriteSet w log S ↔ lastWrite w log a (decide (a ∈ S)) = true := by
  simp only [lastWriteSet, Finset.mem_filter, Finset.mem_union, List.mem_toFinset,
    List.mem_filterMap]
  refine ⟨And.right, fun h => ⟨?_, h⟩⟩
  by_cases ha : a ∈ S
  · exact .inl ha
  · obtain ⟨c, hc, v, hv⟩ := exists_write_of_lastWrite_ne w (d := decide (a ∈ S))
      (by rw [h]; simp [ha])
    exact .inr ⟨c, hc, by rw [hv]; rfl⟩

theorem decide_mem_lastWriteSet (log : List (Call P)) (S : Finset α) (a : α) :
    decide (a ∈ lastWriteSet w log S) = lastWrite w log a (decide (a ∈ S)) :=
  Bool.eq_iff_iff.mpr (by rw [decide_eq_true_iff, mem_lastWriteSet])

end Sets

end History


/-- The seed after `log`: a non-null seed stays; a null one becomes the first
non-null seed `log` offers, or else the last seed it offers. -/
def seedAfter (log : List (Call P)) (hdSeed : P.HDSeed) : P.HDSeed :=
  if P.isNull hdSeed then
    ((log.findSome? fun c => c.effect.hdSeed.filter fun seed => !P.isNull seed).or
      (log.reverse.findSome? fun c => c.effect.hdSeed)).getD hdSeed
  else hdSeed

section Seed

/-- The first non-null seed a history offers. -/
theorem isNull_of_firstSeed {l : List (Call P)} {x : P.HDSeed}
    (h : l.findSome? (fun c => c.effect.hdSeed.filter fun seed => !P.isNull seed) = some x) :
    P.isNull x = false := by
  obtain ⟨c, -, hc⟩ := List.exists_of_findSome?_eq_some h
  cases hs : c.effect.hdSeed with
  | none => simp [hs] at hc
  | some seed =>
    rw [hs] at hc
    by_cases hp : P.isNull seed = true
    · simp [Option.filter, hp] at hc
    · simp only [Option.filter, hp] at hc
      simp_all

/-- With no non-null seed offered, the last seed offered is null. -/
theorem isNull_of_lastSeed {l : List (Call P)} {y : P.HDSeed}
    (hnone : l.findSome? (fun c => c.effect.hdSeed.filter fun seed => !P.isNull seed) = none)
    (h : l.reverse.findSome? (fun c => c.effect.hdSeed) = some y) : P.isNull y = true := by
  obtain ⟨c, hc, hy⟩ := List.exists_of_findSome?_eq_some h
  have hfilter := List.findSome?_eq_none_iff.mp hnone c (List.mem_reverse.mp hc)
  rw [hy] at hfilter
  simpa [Option.filter] using hfilter

theorem seedAfter_singleton (c : Call P) (hdSeed : P.HDSeed) :
    seedAfter [c] hdSeed = offerSeed hdSeed c.effect.hdSeed := by
  simp only [seedAfter, List.reverse_singleton, List.findSome?_cons, List.findSome?_nil]
  rcases hc : c.effect.hdSeed with _ | seed
  · by_cases hd : P.isNull hdSeed = true <;> simp [offerSeed, hd]
  · by_cases hd : P.isNull hdSeed = true <;> by_cases hs : P.isNull seed = true <;>
      simp [offerSeed, Option.filter, hd, hs]

theorem seedAfter_append (l₁ l₂ : List (Call P)) (hdSeed : P.HDSeed) :
    seedAfter (l₁ ++ l₂) hdSeed = seedAfter l₂ (seedAfter l₁ hdSeed) := by
  by_cases hd : P.isNull hdSeed = true
  case neg => simp [seedAfter, hd]
  case pos =>
    simp only [seedAfter, hd, if_true, List.findSome?_append, List.reverse_append]
    cases hF₁ : l₁.findSome? fun c => c.effect.hdSeed.filter fun seed => !P.isNull seed with
    | some x => simp [isNull_of_firstSeed hF₁]
    | none =>
      -- no non-null seed in `l₁`: the seed `l₂` starts from is still null
      have hx : P.isNull ((l₁.reverse.findSome? fun c => c.effect.hdSeed).getD hdSeed) = true := by
        cases hL₁ : l₁.reverse.findSome? fun c => c.effect.hdSeed with
        | none => exact hd
        | some y => exact isNull_of_lastSeed hF₁ hL₁
      simp only [Option.none_or, hx, if_true]
      cases l₂.findSome? fun c => c.effect.hdSeed.filter fun seed => !P.isNull seed <;>
        cases l₂.reverse.findSome? fun c => c.effect.hdSeed <;> rfl

end Seed

namespace CBasicKeyStore

/-- The store the history `log` leaves from `s`, member by member. -/
def replay (s : CBasicKeyStore P) (log : List (Call P)) : CBasicKeyStore P where
  mapKeys k := lastWrite Effect.mapKeys log k (s.mapKeys k)
  mapScripts k := lastWrite Effect.mapScripts log k (s.mapScripts k)
  setWatchOnly := lastWriteSet Effect.setWatchOnly log s.setWatchOnly
  setSaplingWatchOnly := lastWriteSet Effect.setSaplingWatchOnly log s.setSaplingWatchOnly
  hdSeed := seedAfter log s.hdSeed
  mapSproutSpendingKeys k := lastWrite Effect.mapSproutSpendingKeys log k (s.mapSproutSpendingKeys k)
  mapNoteDecryptors k := (s.mapNoteDecryptors k).or (firstWrite Effect.mapNoteDecryptors log k)
  mapSproutViewingKeys k := lastWrite Effect.mapSproutViewingKeys log k (s.mapSproutViewingKeys k)
  mapSaplingSpendingKeys k :=
    lastWrite Effect.mapSaplingSpendingKeys log k (s.mapSaplingSpendingKeys k)
  mapSaplingFullViewingKeys k :=
    lastWrite Effect.mapSaplingFullViewingKeys log k (s.mapSaplingFullViewingKeys k)
  setSaplingOutgoingViewingKeys :=
    lastWriteSet Effect.setSaplingOutgoingViewingKeys log s.setSaplingOutgoingViewingKeys
  mapSaplingIncomingViewingKeys k :=
    lastWrite Effect.mapSaplingIncomingViewingKeys log k (s.mapSaplingIncomingViewingKeys k)
  setSaplingIncomingViewingKeys :=
    lastWriteSet Effect.setSaplingIncomingViewingKeys log s.setSaplingIncomingViewingKeys
  mapSaplingPaymentAddresses k :=
    lastWrite Effect.mapSaplingPaymentAddresses log k (s.mapSaplingPaymentAddresses k)
  mapLastDiversifierPath k :=
    lastWrite Effect.mapLastDiversifierPath log k (s.mapLastDiversifierPath k)

theorem replay_nil (s : CBasicKeyStore P) : s.replay [] = s := by
  simp only [replay]
  congr 1
  all_goals first
    | rfl
    | exact funext fun _ => Option.or_none
    | exact Finset.ext fun a => by rw [mem_lastWriteSet]; exact decide_eq_true_iff
    | simp [seedAfter]

/-- One call's history is its effect. -/
theorem replay_singleton (s : CBasicKeyStore P) (c : Call P) : s.replay [c] = c.effect.apply s := by
  simp only [replay, Effect.apply]
  congr 1
  all_goals first
    | exact funext fun k => by rw [lastWrite_singleton, writeMap_apply]
    | exact Finset.ext fun a => by rw [mem_lastWriteSet, lastWrite_singleton, mem_writeSet]
    | exact funext fun k => by rw [firstWrite_singleton, insertMap_apply]
    | exact seedAfter_singleton c s.hdSeed

/-- Replaying two histories in turn is replaying the one after the other. -/
theorem replay_append (s : CBasicKeyStore P) (l₁ l₂ : List (Call P)) :
    (s.replay l₁).replay l₂ = s.replay (l₁ ++ l₂) := by
  simp only [replay]
  congr 1
  all_goals first
    | exact funext fun k => (lastWrite_append _ l₁ l₂ k _).symm
    | exact Finset.ext fun a => by
        rw [mem_lastWriteSet, decide_mem_lastWriteSet, mem_lastWriteSet, lastWrite_append]
    | exact funext fun k => by rw [firstWrite_append, Option.or_assoc]
    | exact (seedAfter_append l₁ l₂ s.hdSeed).symm

/-- A run's store is the replay of its history: each map entry is what the
last call writing it left (the Sprout decryptor cache: what was cached
first), each set holds what its last add or remove left, and a null seed
becomes the first non-null seed set, or else the last seed set. -/
theorem run_eq_replay (s : CBasicKeyStore P) (cs : List (Call P)) : s.run cs = s.replay cs := by
  induction cs generalizing s with
  | nil => exact (replay_nil s).symm
  | cons c cs ih =>
    rw [run_cons, ih, call_eq_apply, ← replay_singleton, replay_append]
    rfl

end CBasicKeyStore

/-! ## Independent calls commute -/

section Independence

variable {α β : Type} [DecidableEq α]

/-- Two entries, if both are written, are at different keys. -/
def apart : Option (α × β) → Option (α × β) → Bool
  | some (a, _), some (a', _) => !decide (a = a')
  | _, _ => true

theorem writeMap_comm {m : α → β} {e e' : Option (α × β)} (h : apart e e' = true) :
    writeMap (writeMap m e) e' = writeMap (writeMap m e') e := by
  rcases e with _ | ⟨a, v⟩ <;> rcases e' with _ | ⟨a', v'⟩
  · rfl
  · rfl
  · rfl
  · exact Function.update_comm (by simpa [apart] using h) v v' m

theorem writeSet_comm {S : Finset α} {e e' : Option (α × Bool)} (h : apart e e' = true) :
    writeSet (writeSet S e) e' = writeSet (writeSet S e') e := by
  rcases e with _ | ⟨a, _ | _⟩ <;> rcases e' with _ | ⟨a', _ | _⟩ <;> try rfl
  all_goals
    have hne : a ≠ a' := by simpa [apart] using h
    simp only [writeSet]
  · exact Finset.erase_right_comm
  · exact (Finset.erase_insert_of_ne (Ne.symm hne)).symm
  · exact Finset.erase_insert_of_ne hne
  · exact Finset.Insert.comm a' a S

theorem insertMap_comm {m : α → Option β} {e e' : Option (α × β)} (h : apart e e' = true) :
    insertMap (insertMap m e) e' = insertMap (insertMap m e') e := by
  funext k
  simp only [insertMap_apply, Option.or_assoc]
  -- at most one of the two offers a value at `k`
  congr 1
  rcases e with _ | ⟨a, v⟩ <;> rcases e' with _ | ⟨a', v'⟩
  · rfl
  · exact (Option.or_none).symm
  · exact Option.or_none
  · have hne : a ≠ a' := by simpa [apart] using h
    by_cases hka : k = a
    · subst hka
      simp [entryAt, hne]
    · by_cases hka' : k = a'
      · subst hka'
        simp [entryAt, hka]
      · simp [entryAt, hka, hka']

end Independence

/-- Two effects write different keys in every member, and at most one of
them offers a seed. -/
structure Effect.Independent (e e' : Effect P) : Prop where
  mapKeys : apart e.mapKeys e'.mapKeys = true
  mapScripts : apart e.mapScripts e'.mapScripts = true
  setWatchOnly : apart e.setWatchOnly e'.setWatchOnly = true
  setSaplingWatchOnly : apart e.setSaplingWatchOnly e'.setSaplingWatchOnly = true
  hdSeed : e.hdSeed = none ∨ e'.hdSeed = none
  mapSproutSpendingKeys : apart e.mapSproutSpendingKeys e'.mapSproutSpendingKeys = true
  mapNoteDecryptors : apart e.mapNoteDecryptors e'.mapNoteDecryptors = true
  mapSproutViewingKeys : apart e.mapSproutViewingKeys e'.mapSproutViewingKeys = true
  mapSaplingSpendingKeys : apart e.mapSaplingSpendingKeys e'.mapSaplingSpendingKeys = true
  mapSaplingFullViewingKeys : apart e.mapSaplingFullViewingKeys e'.mapSaplingFullViewingKeys = true
  setSaplingOutgoingViewingKeys :
    apart e.setSaplingOutgoingViewingKeys e'.setSaplingOutgoingViewingKeys = true
  mapSaplingIncomingViewingKeys :
    apart e.mapSaplingIncomingViewingKeys e'.mapSaplingIncomingViewingKeys = true
  setSaplingIncomingViewingKeys :
    apart e.setSaplingIncomingViewingKeys e'.setSaplingIncomingViewingKeys = true
  mapSaplingPaymentAddresses : apart e.mapSaplingPaymentAddresses e'.mapSaplingPaymentAddresses = true
  mapLastDiversifierPath : apart e.mapLastDiversifierPath e'.mapLastDiversifierPath = true

/-- Independent writes commute. -/
theorem Effect.Independent.apply_comm {e e' : Effect P} (h : e.Independent e') (s : CBasicKeyStore P) :
    e'.apply (e.apply s) = e.apply (e'.apply s) := by
  obtain ⟨h1, h2, h3, h4, h5, h6, h7, h8, h9, h10, h11, h12, h13, h14, h15⟩ := h
  simp only [Effect.apply]
  congr 1
  all_goals first
    | exact writeMap_comm (by assumption)
    | exact writeSet_comm (by assumption)
    | exact insertMap_comm (by assumption)
    | rcases h5 with h' | h' <;> simp [h', offerSeed]

namespace CBasicKeyStore

/-- What a mutation returns depends on the seed only for `SetHDSeed`. -/
theorem mutate_fst_congr {s t : CBasicKeyStore P} (m : Mutation P)
    (h : (Call.mutate m).effect.hdSeed = none ∨ s.hdSeed = t.hdSeed) :
    (s.mutate m).1 = (t.mutate m).1 := by
  cases m with
  | addCScript r =>
    show (s.addCScript r).1 = (t.addCScript r).1
    unfold addCScript
    split_ifs <;> rfl
  | setHDSeed seed =>
    have hseed : s.hdSeed = t.hdSeed := h.resolve_left nofun
    show (s.setHDSeed seed).1 = (t.setHDSeed seed).1
    unfold setHDSeed
    rw [hseed]
    split_ifs <;> rfl
  | _ => rfl

/-- Two mutations that write different keys in every member, at most one of
them offering a seed, commute: in either order each returns what it returns
when it comes first, and the two leave the same store. Which of two such
imports a lock lets through first makes no difference. -/
theorem mutate_comm_of_independent (s : CBasicKeyStore P) (m₁ m₂ : Mutation P)
    (h : (Call.mutate m₁).effect.Independent (Call.mutate m₂).effect) :
    ((s.mutate m₁).2.mutate m₂).2 = ((s.mutate m₂).2.mutate m₁).2 ∧
      ((s.mutate m₁).2.mutate m₂).1 = (s.mutate m₂).1 ∧
      ((s.mutate m₂).2.mutate m₁).1 = (s.mutate m₁).1 := by
  -- the seed a mutation leaves when it offers none
  have hseed : ∀ m : Mutation P, (Call.mutate m).effect.hdSeed = none →
      (s.mutate m).2.hdSeed = s.hdSeed := fun m hm => by
    rw [← call_mutate, call_eq_apply]
    simp [Effect.apply, hm, offerSeed]
  refine ⟨?_, mutate_fst_congr m₂ ?_, mutate_fst_congr m₁ ?_⟩
  · rw [← call_mutate, ← call_mutate, call_eq_apply, call_eq_apply, ← call_mutate,
      ← call_mutate, call_eq_apply, call_eq_apply, h.apply_comm]
  · exact h.hdSeed.elim (fun h₁ => .inr (hseed m₁ h₁)) .inl
  · exact h.hdSeed.elim .inl (fun h₂ => .inr (hseed m₂ h₂))

/-- Two Sapling spending keys with different incoming viewing keys, default
addresses and outgoing viewing keys. -/
theorem mutate_comm_of_independent_nat :
    (Call.mutate (.addSaplingSpendingKey 2) : Call Primitives.nat).effect.Independent
        (Call.mutate (.addSaplingSpendingKey 6)).effect ∧
      (((empty : CBasicKeyStore Primitives.nat).mutate (.addSaplingSpendingKey 2)).2.mutate
          (.addSaplingSpendingKey 6)).2 =
        (((empty : CBasicKeyStore Primitives.nat).mutate (.addSaplingSpendingKey 6)).2.mutate
          (.addSaplingSpendingKey 2)).2 ∧
      (((empty : CBasicKeyStore Primitives.nat).mutate (.addSaplingSpendingKey 2)).2.mutate
          (.addSaplingSpendingKey 6)).1 =
        ((empty : CBasicKeyStore Primitives.nat).mutate (.addSaplingSpendingKey 6)).1 ∧
      (((empty : CBasicKeyStore Primitives.nat).mutate (.addSaplingSpendingKey 6)).2.mutate
          (.addSaplingSpendingKey 2)).1 =
        ((empty : CBasicKeyStore Primitives.nat).mutate (.addSaplingSpendingKey 2)).1 :=
  have h : (Call.mutate (.addSaplingSpendingKey 2) : Call Primitives.nat).effect.Independent
      (Call.mutate (.addSaplingSpendingKey 6)).effect := by
    constructor <;> first | rfl | exact .inl rfl
  ⟨h, mutate_comm_of_independent empty _ _ h⟩

end CBasicKeyStore

end SevenSeas
