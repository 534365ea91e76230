import SevenSeas.Primitives

/-!
# `CBasicKeyStore`

keystore.cpp as a state record and one function per method. A
`std::map` is a partial function (`m[k] = v` is `Function.update`,
`erase` writes `none`, and `insert` keeps a key already present:
`mapInsert`); a `std::set` is a `Finset`. A mutating method returns its
`bool` with the new store; a `const` method is a function of the store,
and a `bool Get…(key, T &out)` takes the out-parameter's current value
and returns the one it leaves (`mapFind`).

Locks are not modelled here: every method runs under the lock of its
partition, so each is one atomic transition of the record.
-/

namespace SevenSeas

/-- `std::map::insert`: a key already present keeps its value. -/
def mapInsert {α β : Type} [DecidableEq α] (m : α → Option β) (k : α) (v : β) : α → Option β :=
  if (m k).isSome then m else Function.update m k (some v)

/-- `find` into an out-parameter: on a hit the value is written and `true`
returned, on a miss the out-parameter keeps what it held. -/
def mapFind {α β : Type} (m : α → Option β) (k : α) (out : β) : Bool × β :=
  match m k with
  | some v => (true, v)
  | none => (false, out)

theorem mapInsert_apply {α β : Type} [DecidableEq α] (m : α → Option β) (k : α) (v : β)
    (k' : α) : mapInsert m k v k' = if k' = k ∧ (m k).isSome = false then some v else m k' := by
  unfold mapInsert
  by_cases hk : (m k).isSome <;> by_cases hkk : k' = k <;> simp [hk, hkk, Function.update_apply]

theorem mapInsert_isSome {α β : Type} [DecidableEq α] (m : α → Option β) (k : α) (v : β) :
    (mapInsert m k v k).isSome := by
  rw [mapInsert_apply]; split_ifs with h <;> simp_all [Option.isSome_iff_ne_none]

/-- `insert` never drops a key. -/
theorem mapInsert_isSome_of_isSome {α β : Type} [DecidableEq α] {m : α → Option β} {k k' : α}
    (v : β) (h : (m k').isSome) : (mapInsert m k v k').isSome := by
  rw [mapInsert_apply]; split_ifs <;> simp_all

/-- A value found after `insert` was there before, or is the inserted one. -/
theorem mapInsert_eq_some {α β : Type} [DecidableEq α] {m : α → Option β} {k k' : α} {v d : β}
    (h : mapInsert m k v k' = some d) : m k' = some d ∨ (k' = k ∧ d = v) := by
  rw [mapInsert_apply] at h
  split_ifs at h with hk
  · exact .inr ⟨hk.1, (Option.some.inj h).symm⟩
  · exact .inl h

@[simp] theorem mapFind_of_some {α β : Type} {m : α → Option β} {k : α} {v : β}
    (h : m k = some v) (out : β) : mapFind m k out = (true, v) := by
  simp [mapFind, h]

@[simp] theorem mapFind_of_none {α β : Type} {m : α → Option β} {k : α}
    (h : m k = none) (out : β) : mapFind m k out = (false, out) := by
  simp [mapFind, h]

theorem mapFind_eq_true {α β : Type} {m : α → Option β} {k : α} {out v : β} :
    mapFind m k out = (true, v) ↔ m k = some v := by
  unfold mapFind; split <;> simp_all

/-- A miss leaves the out-parameter as it was. -/
theorem mapFind_false {α β : Type} {m : α → Option β} {k : α} {out : β}
    (h : (mapFind m k out).1 = false) : (mapFind m k out).2 = out := by
  unfold mapFind at *; split <;> simp_all

/-- `DiversifierPath` of keystore.h: the incoming viewing key and diversifier
index an address was derived with. -/
abbrev DiversifierPath (P : Primitives) := P.SaplingIncomingViewingKey × P.Blob88

/-- The data members of `CBasicKeyStore` that keystore.cpp reads or writes,
across both lock partitions (`cs_KeyStore` for the first four,
`cs_SpendingKeyStore` for the rest). -/
structure CBasicKeyStore (P : Primitives) where
  mapKeys : P.CKeyID → Option P.CKey
  mapScripts : P.CScriptID → Option P.CScript
  setWatchOnly : Finset P.CScript
  setSaplingWatchOnly : Finset P.SaplingExtendedFullViewingKey
  hdSeed : P.HDSeed
  mapSproutSpendingKeys : P.SproutPaymentAddress → Option P.SproutSpendingKey
  mapNoteDecryptors : P.SproutPaymentAddress → Option P.ZCNoteDecryption
  mapSproutViewingKeys : P.SproutPaymentAddress → Option P.SproutViewingKey
  mapSaplingSpendingKeys : P.SaplingExtendedFullViewingKey → Option P.SaplingExtendedSpendingKey
  mapSaplingFullViewingKeys :
    P.SaplingIncomingViewingKey → Option P.SaplingExtendedFullViewingKey
  setSaplingOutgoingViewingKeys : Finset P.OutgoingViewingKey
  mapSaplingIncomingViewingKeys : P.SaplingPaymentAddress → Option P.SaplingIncomingViewingKey
  setSaplingIncomingViewingKeys : Finset P.SaplingIncomingViewingKey
  mapSaplingPaymentAddresses : P.SaplingPaymentAddress → Option (DiversifierPath P)
  mapLastDiversifierPath : P.SaplingIncomingViewingKey → Option P.Blob88

namespace CBasicKeyStore

variable {P : Primitives}

/-- A freshly constructed store: every map and set empty, the seed null. -/
def empty : CBasicKeyStore P where
  mapKeys _ := none
  mapScripts _ := none
  setWatchOnly := ∅
  setSaplingWatchOnly := ∅
  hdSeed := default
  mapSproutSpendingKeys _ := none
  mapNoteDecryptors _ := none
  mapSproutViewingKeys _ := none
  mapSaplingSpendingKeys _ := none
  mapSaplingFullViewingKeys _ := none
  setSaplingOutgoingViewingKeys := ∅
  mapSaplingIncomingViewingKeys _ := none
  setSaplingIncomingViewingKeys := ∅
  mapSaplingPaymentAddresses _ := none
  mapLastDiversifierPath _ := none

/-! ## Transparent keys, scripts and watch-only entries (`cs_KeyStore`) -/

def addKeyPubKey (s : CBasicKeyStore P) (key : P.CKey) (pubkey : P.CPubKey) :
    Bool × CBasicKeyStore P :=
  (true, { s with mapKeys := Function.update s.mapKeys (P.getID pubkey) (some key) })

/-- `CKeyStore::AddKey`, dispatching to `AddKeyPubKey`. -/
def addKey (s : CBasicKeyStore P) (key : P.CKey) : Bool × CBasicKeyStore P :=
  s.addKeyPubKey key (P.getPubKey key)

/-- Modelled from the spec: `GetKey` is declared in keystore.h, not under src/;
"success iff a KeyEntry exists for `id`", read from `mapKeys`. -/
def getKey (s : CBasicKeyStore P) (address : P.CKeyID) (keyOut : P.CKey) : Bool × P.CKey :=
  mapFind s.mapKeys address keyOut

/-- `CKeyStore::GetPubKey`: look the key up into a fresh `CKey` and derive. -/
def getPubKey (s : CBasicKeyStore P) (address : P.CKeyID) (vchPubKeyOut : P.CPubKey) :
    Bool × P.CPubKey :=
  match s.getKey address default with
  | (false, _) => (false, vchPubKeyOut)
  | (true, key) => (true, P.getPubKey key)

/-- `AddCScript`: a script over `MAX_SCRIPT_ELEMENT_SIZE` bytes is refused
(`error("CBasicKeyStore::AddCScript(): redeemScripts > %i bytes are invalid")`
returns `false`). -/
def addCScript (s : CBasicKeyStore P) (redeemScript : P.CScript) : Bool × CBasicKeyStore P :=
  if P.scriptSize redeemScript > P.MAX_SCRIPT_ELEMENT_SIZE then (false, s)
  else (true, { s with
    mapScripts := Function.update s.mapScripts (P.scriptID redeemScript) (some redeemScript) })

def haveCScript (s : CBasicKeyStore P) (hash : P.CScriptID) : Bool :=
  (s.mapScripts hash).isSome

def getCScript (s : CBasicKeyStore P) (hash : P.CScriptID) (redeemScriptOut : P.CScript) :
    Bool × P.CScript :=
  mapFind s.mapScripts hash redeemScriptOut

def addWatchOnly (s : CBasicKeyStore P) (dest : P.CScript) : Bool × CBasicKeyStore P :=
  (true, { s with setWatchOnly := insert dest s.setWatchOnly })

def addSaplingWatchOnly (s : CBasicKeyStore P) (extfvk : P.SaplingExtendedFullViewingKey) :
    Bool × CBasicKeyStore P :=
  (true, { s with setSaplingWatchOnly := insert extfvk s.setSaplingWatchOnly })

def removeWatchOnly (s : CBasicKeyStore P) (dest : P.CScript) : Bool × CBasicKeyStore P :=
  (true, { s with setWatchOnly := s.setWatchOnly.erase dest })

def removeSaplingWatchOnly (s : CBasicKeyStore P) (extfvk : P.SaplingExtendedFullViewingKey) :
    Bool × CBasicKeyStore P :=
  (true, { s with setSaplingWatchOnly := s.setSaplingWatchOnly.erase extfvk })

def haveWatchOnly (s : CBasicKeyStore P) (dest : P.CScript) : Bool :=
  decide (dest ∈ s.setWatchOnly)

def haveSaplingWatchOnly (s : CBasicKeyStore P) (extfvk : P.SaplingExtendedFullViewingKey) :
    Bool :=
  decide (extfvk ∈ s.setSaplingWatchOnly)

/-- The overload `HaveWatchOnly()`: is either watch-only set non-empty. -/
def haveAnyWatchOnly (s : CBasicKeyStore P) : Bool :=
  if s.setWatchOnly ≠ ∅ then true
  else if s.setSaplingWatchOnly ≠ ∅ then true
  else false

/-! ## The seed (`cs_SpendingKeyStore`) -/

/-- `SetHDSeed`: an existing seed is never changed. -/
def setHDSeed (s : CBasicKeyStore P) (seed : P.HDSeed) : Bool × CBasicKeyStore P :=
  if !P.isNull s.hdSeed then (false, s) else (true, { s with hdSeed := seed })

def haveHDSeed (s : CBasicKeyStore P) : Bool :=
  !P.isNull s.hdSeed

def getHDSeed (s : CBasicKeyStore P) (seedOut : P.HDSeed) : Bool × P.HDSeed :=
  if P.isNull s.hdSeed then (false, seedOut) else (true, s.hdSeed)

/-! ## Sprout keys -/

/-- `AddSproutSpendingKey`: store the key and cache a decryptor for its
address; the decryptor goes through `insert`, so one already cached stays. -/
def addSproutSpendingKey (s : CBasicKeyStore P) (sk : P.SproutSpendingKey) :
    Bool × CBasicKeyStore P :=
  let address := P.sproutAddress sk
  (true, { s with
    mapSproutSpendingKeys := Function.update s.mapSproutSpendingKeys address (some sk)
    mapNoteDecryptors :=
      mapInsert s.mapNoteDecryptors address (P.noteDecryption (P.receivingKey sk)) })

def addSproutViewingKey (s : CBasicKeyStore P) (vk : P.SproutViewingKey) :
    Bool × CBasicKeyStore P :=
  let address := P.viewingKeyAddress vk
  (true, { s with
    mapSproutViewingKeys := Function.update s.mapSproutViewingKeys address (some vk)
    mapNoteDecryptors := mapInsert s.mapNoteDecryptors address (P.noteDecryption (P.skEnc vk)) })

/-- `RemoveSproutViewingKey` erases the key only; the decryptor stays cached. -/
def removeSproutViewingKey (s : CBasicKeyStore P) (vk : P.SproutViewingKey) :
    Bool × CBasicKeyStore P :=
  (true, { s with
    mapSproutViewingKeys := Function.update s.mapSproutViewingKeys (P.viewingKeyAddress vk) none })

def haveSproutViewingKey (s : CBasicKeyStore P) (address : P.SproutPaymentAddress) : Bool :=
  (s.mapSproutViewingKeys address).isSome

def getSproutViewingKey (s : CBasicKeyStore P) (address : P.SproutPaymentAddress)
    (vkOut : P.SproutViewingKey) : Bool × P.SproutViewingKey :=
  mapFind s.mapSproutViewingKeys address vkOut

/-! ## Sapling keys and diversified addresses -/

/-- `AddSaplingIncomingViewingKey`. The comment above it in keystore.cpp says an
address already in the map keeps its ivk; the code assigns with `operator[]`. -/
def addSaplingIncomingViewingKey (s : CBasicKeyStore P) (ivk : P.SaplingIncomingViewingKey)
    (addr : P.SaplingPaymentAddress) : Bool × CBasicKeyStore P :=
  (true, { s with
    mapSaplingIncomingViewingKeys := Function.update s.mapSaplingIncomingViewingKeys addr (some ivk)
    setSaplingIncomingViewingKeys := insert ivk s.setSaplingIncomingViewingKeys })

/-- `AddSaplingFullViewingKey`: key the full viewing key by its ivk, record
its ovk, then register its default address. -/
def addSaplingFullViewingKey (s : CBasicKeyStore P) (extfvk : P.SaplingExtendedFullViewingKey) :
    Bool × CBasicKeyStore P :=
  let ivk := P.fvkIvk extfvk
  let s' := { s with
    mapSaplingFullViewingKeys := Function.update s.mapSaplingFullViewingKeys ivk (some extfvk)
    setSaplingOutgoingViewingKeys := insert (P.ovk (P.fvk extfvk)) s.setSaplingOutgoingViewingKeys }
  s'.addSaplingIncomingViewingKey ivk (P.defaultAddress extfvk)

/-- `AddSaplingSpendingKey`: register the full viewing key, then store the
spending key under it; a failed registration is returned as is. -/
def addSaplingSpendingKey (s : CBasicKeyStore P) (sk : P.SaplingExtendedSpendingKey) :
    Bool × CBasicKeyStore P :=
  let extfvk := P.toXFVK sk
  match s.addSaplingFullViewingKey extfvk with
  | (false, s') => (false, s')
  | (true, s') => (true, { s' with
      mapSaplingSpendingKeys := Function.update s'.mapSaplingSpendingKeys extfvk (some sk) })

def addSaplingDiversifiedAddess (s : CBasicKeyStore P) (addr : P.SaplingPaymentAddress)
    (ivk : P.SaplingIncomingViewingKey) (path : P.Blob88) : Bool × CBasicKeyStore P :=
  (true, { s with
    mapSaplingPaymentAddresses := Function.update s.mapSaplingPaymentAddresses addr (some (ivk, path)) })

def addLastDiversifierUsed (s : CBasicKeyStore P) (ivk : P.SaplingIncomingViewingKey)
    (path : P.Blob88) : Bool × CBasicKeyStore P :=
  (true, { s with mapLastDiversifierPath := Function.update s.mapLastDiversifierPath ivk (some path) })

def haveSaplingFullViewingKey (s : CBasicKeyStore P) (ivk : P.SaplingIncomingViewingKey) : Bool :=
  (s.mapSaplingFullViewingKeys ivk).isSome

def haveSaplingIncomingViewingKey (s : CBasicKeyStore P) (addr : P.SaplingPaymentAddress) : Bool :=
  (s.mapSaplingIncomingViewingKeys addr).isSome

def getSaplingFullViewingKey (s : CBasicKeyStore P) (ivk : P.SaplingIncomingViewingKey)
    (extfvkOut : P.SaplingExtendedFullViewingKey) : Bool × P.SaplingExtendedFullViewingKey :=
  mapFind s.mapSaplingFullViewingKeys ivk extfvkOut

def getSaplingIncomingViewingKey (s : CBasicKeyStore P) (addr : P.SaplingPaymentAddress)
    (ivkOut : P.SaplingIncomingViewingKey) : Bool × P.SaplingIncomingViewingKey :=
  mapFind s.mapSaplingIncomingViewingKeys addr ivkOut

/-- Modelled from the spec: `GetSaplingSpendingKey` is declared in keystore.h, not
under src/; the spending key "keyed by full viewing key", read from
`mapSaplingSpendingKeys`. -/
def getSaplingSpendingKey (s : CBasicKeyStore P) (extfvk : P.SaplingExtendedFullViewingKey)
    (skOut : P.SaplingExtendedSpendingKey) : Bool × P.SaplingExtendedSpendingKey :=
  mapFind s.mapSaplingSpendingKeys extfvk skOut

/-- `GetSaplingExtendedSpendingKey`: `addr → ivk → extfvk → sk` through two
default-constructed locals, short-circuiting at the first missing link. -/
def getSaplingExtendedSpendingKey (s : CBasicKeyStore P) (addr : P.SaplingPaymentAddress)
    (extskOut : P.SaplingExtendedSpendingKey) : Bool × P.SaplingExtendedSpendingKey :=
  match s.getSaplingIncomingViewingKey addr default with
  | (false, _) => (false, extskOut)
  | (true, ivk) =>
    match s.getSaplingFullViewingKey ivk default with
    | (false, _) => (false, extskOut)
    | (true, extfvk) => s.getSaplingSpendingKey extfvk extskOut

/-! ## Spec lemmas

The nested Sapling adds as single record updates, and the composite lookup
as a `find` through the composed partial map; later proofs use these and
never unfold the methods. -/

theorem addSaplingFullViewingKey_eq (s : CBasicKeyStore P)
    (x : P.SaplingExtendedFullViewingKey) :
    s.addSaplingFullViewingKey x = (true, { s with
      mapSaplingFullViewingKeys := Function.update s.mapSaplingFullViewingKeys (P.fvkIvk x) (some x)
      setSaplingOutgoingViewingKeys := insert (P.ovk (P.fvk x)) s.setSaplingOutgoingViewingKeys
      mapSaplingIncomingViewingKeys :=
        Function.update s.mapSaplingIncomingViewingKeys (P.defaultAddress x) (some (P.fvkIvk x))
      setSaplingIncomingViewingKeys := insert (P.fvkIvk x) s.setSaplingIncomingViewingKeys }) :=
  rfl

theorem addSaplingSpendingKey_eq (s : CBasicKeyStore P)
    (sk : P.SaplingExtendedSpendingKey) :
    s.addSaplingSpendingKey sk = (true, { (s.addSaplingFullViewingKey (P.toXFVK sk)).2 with
      mapSaplingSpendingKeys := Function.update s.mapSaplingSpendingKeys (P.toXFVK sk) (some sk) }) :=
  rfl

/-- `AddCScript` writes `mapScripts` and nothing else, whether it succeeds or not. -/
theorem addCScript_snd (s : CBasicKeyStore P) (redeemScript : P.CScript) :
    (s.addCScript redeemScript).2 =
      { s with mapScripts := (s.addCScript redeemScript).2.mapScripts } := by
  unfold addCScript; split <;> rfl

/-- `SetHDSeed` writes `hdSeed` and nothing else. -/
theorem setHDSeed_snd (s : CBasicKeyStore P) (seed : P.HDSeed) :
    (s.setHDSeed seed).2 = { s with hdSeed := (s.setHDSeed seed).2.hdSeed } := by
  unfold setHDSeed; split <;> rfl

/-- The chain `addr → ivk → extfvk → sk` as one partial map. -/
def saplingSpendingKeyOf (s : CBasicKeyStore P) (addr : P.SaplingPaymentAddress) :
    Option P.SaplingExtendedSpendingKey :=
  (s.mapSaplingIncomingViewingKeys addr).bind fun ivk =>
    (s.mapSaplingFullViewingKeys ivk).bind s.mapSaplingSpendingKeys

theorem getSaplingExtendedSpendingKey_eq (s : CBasicKeyStore P) (addr : P.SaplingPaymentAddress)
    (extskOut : P.SaplingExtendedSpendingKey) :
    s.getSaplingExtendedSpendingKey addr extskOut = mapFind s.saplingSpendingKeyOf addr extskOut := by
  simp only [getSaplingExtendedSpendingKey, getSaplingIncomingViewingKey, getSaplingFullViewingKey,
    getSaplingSpendingKey, mapFind, saplingSpendingKeyOf]
  cases h1 : s.mapSaplingIncomingViewingKeys addr with
  | none => rfl
  | some ivk => cases h2 : s.mapSaplingFullViewingKeys ivk <;> simp [h2]

/-- An address whose spending key resolves has an incoming viewing key. -/
theorem getSaplingIncomingViewingKey_of_extended {s : CBasicKeyStore P}
    {addr : P.SaplingPaymentAddress} {o sk : P.SaplingExtendedSpendingKey}
    (h : s.getSaplingExtendedSpendingKey addr o = (true, sk)) (ivkOut : P.SaplingIncomingViewingKey) :
    (s.getSaplingIncomingViewingKey addr ivkOut).1 = true := by
  rw [getSaplingExtendedSpendingKey_eq, mapFind_eq_true, saplingSpendingKeyOf, Option.bind_eq_some] at h
  obtain ⟨ivk, hivk, -⟩ := h
  simp [getSaplingIncomingViewingKey, hivk]

end CBasicKeyStore

end SevenSeas
