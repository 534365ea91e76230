import SevenSeas.KeyStore

/-!
# The store's public interface as a transition system

Every public method of `CBasicKeyStore` in keystore.cpp is one `Call`:
a `Mutation` (the `Add*`, `Remove*` and `Set*` methods) or a `Query`
(the `Have*` and `Get*` methods). `CBasicKeyStore.call` runs one and
returns its `bool`, the value it leaves in its out-parameter (`Out`),
and the store after it; `run` threads a store through a list of calls.

Invariants over reachable states are proved once per `Mutation`
(`preserved_of_mutate`) and lifted to every run by `run_preserves`: a
query returns the store it was given, so it preserves everything.
-/

namespace SevenSeas

variable {P : Primitives}

/-- The mutating methods of `CBasicKeyStore`, with their arguments. -/
inductive Mutation (P : Primitives) where
  | addKey (key : P.CKey)
  | addKeyPubKey (key : P.CKey) (pubkey : P.CPubKey)
  | addCScript (redeemScript : P.CScript)
  | addWatchOnly (dest : P.CScript)
  | addSaplingWatchOnly (extfvk : P.SaplingExtendedFullViewingKey)
  | removeWatchOnly (dest : P.CScript)
  | removeSaplingWatchOnly (extfvk : P.SaplingExtendedFullViewingKey)
  | setHDSeed (seed : P.HDSeed)
  | addSproutSpendingKey (sk : P.SproutSpendingKey)
  | addSproutViewingKey (vk : P.SproutViewingKey)
  | removeSproutViewingKey (vk : P.SproutViewingKey)
  | addSaplingSpendingKey (sk : P.SaplingExtendedSpendingKey)
  | addSaplingFullViewingKey (extfvk : P.SaplingExtendedFullViewingKey)
  | addSaplingIncomingViewingKey (ivk : P.SaplingIncomingViewingKey)
      (addr : P.SaplingPaymentAddress)
  | addSaplingDiversifiedAddess (addr : P.SaplingPaymentAddress)
      (ivk : P.SaplingIncomingViewingKey) (path : P.Blob88)
  | addLastDiversifierUsed (ivk : P.SaplingIncomingViewingKey) (path : P.Blob88)

/-- The value an out-parameter holds, tagged by its C++ type; `none` for a
method without one. -/
inductive Out (P : Primitives) where
  | none
  | pubKey (vchPubKey : P.CPubKey)
  | script (redeemScript : P.CScript)
  | seed (seed : P.HDSeed)
  | sproutViewingKey (vk : P.SproutViewingKey)
  | saplingFullViewingKey (extfvk : P.SaplingExtendedFullViewingKey)
  | saplingIncomingViewingKey (ivk : P.SaplingIncomingViewingKey)
  | saplingExtendedSpendingKey (extsk : P.SaplingExtendedSpendingKey)

/-- The `const` methods of `CBasicKeyStore`; an out-parameter is passed with
the value it holds before the call. -/
inductive Query (P : Primitives) where
  | getPubKey (address : P.CKeyID) (vchPubKeyOut : P.CPubKey)
  | haveCScript (hash : P.CScriptID)
  | getCScript (hash : P.CScriptID) (redeemScriptOut : P.CScript)
  | haveWatchOnly (dest : P.CScript)
  | haveSaplingWatchOnly (extfvk : P.SaplingExtendedFullViewingKey)
  | haveAnyWatchOnly
  | haveHDSeed
  | getHDSeed (seedOut : P.HDSeed)
  | haveSproutViewingKey (address : P.SproutPaymentAddress)
  | getSproutViewingKey (address : P.SproutPaymentAddress) (vkOut : P.SproutViewingKey)
  | haveSaplingFullViewingKey (ivk : P.SaplingIncomingViewingKey)
  | haveSaplingIncomingViewingKey (addr : P.SaplingPaymentAddress)
  | getSaplingFullViewingKey (ivk : P.SaplingIncomingViewingKey)
      (extfvkOut : P.SaplingExtendedFullViewingKey)
  | getSaplingIncomingViewingKey (addr : P.SaplingPaymentAddress)
      (ivkOut : P.SaplingIncomingViewingKey)
  | getSaplingExtendedSpendingKey (addr : P.SaplingPaymentAddress)
      (extskOut : P.SaplingExtendedSpendingKey)

/-- Any public method call. -/
inductive Call (P : Primitives) where
  | mutate (m : Mutation P)
  | query (q : Query P)

/-- The out-parameter's value before the query. -/
def Query.out : Query P → Out P
  | .getPubKey _ o => .pubKey o
  | .getCScript _ o => .script o
  | .getHDSeed o => .seed o
  | .getSproutViewingKey _ o => .sproutViewingKey o
  | .getSaplingFullViewingKey _ o => .saplingFullViewingKey o
  | .getSaplingIncomingViewingKey _ o => .saplingIncomingViewingKey o
  | .getSaplingExtendedSpendingKey _ o => .saplingExtendedSpendingKey o
  | _ => .none

/-- The out-parameter's value before the call. -/
def Call.out : Call P → Out P
  | .mutate _ => .none
  | .query q => q.out

namespace CBasicKeyStore

/-- Dispatch a mutation to its method. -/
def mutate (s : CBasicKeyStore P) : Mutation P → Bool × CBasicKeyStore P
  | .addKey key => s.addKey key
  | .addKeyPubKey key pubkey => s.addKeyPubKey key pubkey
  | .addCScript redeemScript => s.addCScript redeemScript
  | .addWatchOnly dest => s.addWatchOnly dest
  | .addSaplingWatchOnly extfvk => s.addSaplingWatchOnly extfvk
  | .removeWatchOnly dest => s.removeWatchOnly dest
  | .removeSaplingWatchOnly extfvk => s.removeSaplingWatchOnly extfvk
  | .setHDSeed seed => s.setHDSeed seed
  | .addSproutSpendingKey sk => s.addSproutSpendingKey sk
  | .addSproutViewingKey vk => s.addSproutViewingKey vk
  | .removeSproutViewingKey vk => s.removeSproutViewingKey vk
  | .addSaplingSpendingKey sk => s.addSaplingSpendingKey sk
  | .addSaplingFullViewingKey extfvk => s.addSaplingFullViewingKey extfvk
  | .addSaplingIncomingViewingKey ivk addr => s.addSaplingIncomingViewingKey ivk addr
  | .addSaplingDiversifiedAddess addr ivk path => s.addSaplingDiversifiedAddess addr ivk path
  | .addLastDiversifierUsed ivk path => s.addLastDiversifierUsed ivk path

/-- Dispatch a query to its method; a `bool`-only method leaves `Out.none`. -/
def query (s : CBasicKeyStore P) : Query P → Bool × Out P
  | .getPubKey address o =>
    let r := s.getPubKey address o
    (r.1, .pubKey r.2)
  | .haveCScript hash => (s.haveCScript hash, .none)
  | .getCScript hash o =>
    let r := s.getCScript hash o
    (r.1, .script r.2)
  | .haveWatchOnly dest => (s.haveWatchOnly dest, .none)
  | .haveSaplingWatchOnly extfvk => (s.haveSaplingWatchOnly extfvk, .none)
  | .haveAnyWatchOnly => (s.haveAnyWatchOnly, .none)
  | .haveHDSeed => (s.haveHDSeed, .none)
  | .getHDSeed o =>
    let r := s.getHDSeed o
    (r.1, .seed r.2)
  | .haveSproutViewingKey address => (s.haveSproutViewingKey address, .none)
  | .getSproutViewingKey address o =>
    let r := s.getSproutViewingKey address o
    (r.1, .sproutViewingKey r.2)
  | .haveSaplingFullViewingKey ivk => (s.haveSaplingFullViewingKey ivk, .none)
  | .haveSaplingIncomingViewingKey addr => (s.haveSaplingIncomingViewingKey addr, .none)
  | .getSaplingFullViewingKey ivk o =>
    let r := s.getSaplingFullViewingKey ivk o
    (r.1, .saplingFullViewingKey r.2)
  | .getSaplingIncomingViewingKey addr o =>
    let r := s.getSaplingIncomingViewingKey addr o
    (r.1, .saplingIncomingViewingKey r.2)
  | .getSaplingExtendedSpendingKey addr o =>
    let r := s.getSaplingExtendedSpendingKey addr o
    (r.1, .saplingExtendedSpendingKey r.2)

/-- One call: its `bool`, its out-parameter after the call, and the store
after it. -/
def call (s : CBasicKeyStore P) : Call P → (Bool × Out P) × CBasicKeyStore P
  | .mutate m => (((s.mutate m).1, .none), (s.mutate m).2)
  | .query q => (s.query q, s)

/-- The store after a sequence of calls. -/
def run (s : CBasicKeyStore P) : List (Call P) → CBasicKeyStore P
  | [] => s
  | c :: cs => run (s.call c).2 cs

@[simp] theorem call_mutate (s : CBasicKeyStore P) (m : Mutation P) :
    (s.call (.mutate m)).2 = (s.mutate m).2 := rfl

@[simp] theorem call_query (s : CBasicKeyStore P) (q : Query P) :
    (s.call (.query q)).2 = s := rfl

@[simp] theorem run_nil (s : CBasicKeyStore P) : s.run [] = s := rfl

@[simp] theorem run_cons (s : CBasicKeyStore P) (c : Call P) (cs : List (Call P)) :
    s.run (c :: cs) = (s.call c).2.run cs := rfl

theorem run_append (s : CBasicKeyStore P) (cs ds : List (Call P)) :
    s.run (cs ++ ds) = (s.run cs).run ds := by
  induction cs generalizing s with
  | nil => rfl
  | cons c cs ih => exact ih _

/-- A state some sequence of calls reaches from the empty store. -/
def Reachable (s : CBasicKeyStore P) : Prop :=
  ∃ cs, empty.run cs = s

/-! ## Lifting step facts to runs -/

/-- What every mutation preserves, every call preserves. -/
theorem preserved_of_mutate {I : CBasicKeyStore P → Prop}
    (h : ∀ s m, I s → I (s.mutate m).2) (s : CBasicKeyStore P) (c : Call P) (hs : I s) :
    I (s.call c).2 := by
  cases c with
  | mutate m => exact h s m hs
  | query q => exact hs

/-- What every call preserves holds along every run. -/
theorem run_preserves {I : CBasicKeyStore P → Prop}
    (h : ∀ s c, I s → I (s.call c).2) :
    ∀ (s : CBasicKeyStore P) (cs : List (Call P)), I s → I (s.run cs)
  | _, [], hs => hs
  | s, c :: cs, hs => run_preserves h (s.call c).2 cs (h s c hs)

/-- What every call of some kind preserves holds along every run of such calls. -/
theorem run_preserves_of {Q : Call P → Prop} {I : CBasicKeyStore P → Prop}
    (h : ∀ s c, Q c → I s → I (s.call c).2) :
    ∀ (s : CBasicKeyStore P) (cs : List (Call P)), (∀ c ∈ cs, Q c) → I s → I (s.run cs)
  | _, [], _, hs => hs
  | s, c :: cs, hq, hs => run_preserves_of h (s.call c).2 cs
      (fun c' hc' => hq c' (List.mem_cons_of_mem _ hc')) (h s c (hq c (List.mem_cons_self _ _)) hs)

/-- An invariant of the empty store preserved by every mutation holds in every
reachable state. -/
theorem Reachable.induction {I : CBasicKeyStore P → Prop} (h0 : I empty)
    (h : ∀ s m, I s → I (s.mutate m).2) {s : CBasicKeyStore P} (hs : s.Reachable) : I s := by
  obtain ⟨cs, rfl⟩ := hs
  exact run_preserves (preserved_of_mutate h) _ cs h0

theorem Reachable.call {s : CBasicKeyStore P} (hs : s.Reachable) (c : Call P) :
    (s.call c).2.Reachable := by
  obtain ⟨cs, rfl⟩ := hs
  exact ⟨cs ++ [c], by rw [run_append]; rfl⟩

end CBasicKeyStore

end SevenSeas
