import Mathlib

/-!
# The primitives keystore.cpp is written against

`CBasicKeyStore` stores key material whose types and derivations live
outside the repository: `CKey`/`CPubKey` in key.h, `CScript` and its
hash in script.h, the Sprout and Sapling key hierarchies in libzcash.
The store never looks inside a key; it only calls a handful of
derivations on it (`sk.ToXFVK()`, `extfvk.fvk.in_viewing_key()`,
`extfvk.DefaultAddress()`, ...). `Primitives` collects exactly those
types and derivations, so that every theorem about the store holds for
*every* choice of them: nothing below depends on what the cryptography
computes.

C++ default construction (`CKey key;`, `SaplingIncomingViewingKey ivk;`)
is `default` from the `Inhabited` fields; an `HDSeed` built that way is
null (`isNull_default`).
-/

namespace SevenSeas

-- no proof compares two sets of primitives, so their injectivity lemmas are not generated
set_option genInjectivity false in
/-- The types, derivations and constants that keystore.cpp and the
consolidation job take from their headers. -/
structure Primitives where
  /-- `CKey`, `CPubKey`, `CKeyID` of key.h, with `key.GetPubKey()` and `pubkey.GetID()`. -/
  CKey : Type
  CPubKey : Type
  CKeyID : Type
  getPubKey : CKey → CPubKey
  getID : CPubKey → CKeyID
  /-- `CScript`, its `size()` in bytes and its hash `CScriptID(script)`. -/
  CScript : Type
  CScriptID : Type
  scriptSize : CScript → Nat
  scriptID : CScript → CScriptID
  /-- script.h's bound on a redeem script. -/
  MAX_SCRIPT_ELEMENT_SIZE : Nat
  /-- `HDSeed` and `HDSeed::IsNull()`. -/
  HDSeed : Type
  isNull : HDSeed → Bool
  /-- Sprout: `sk.address()`, `sk.receiving_key()`, `vk.address()`, `vk.sk_enc` and the
  `ZCNoteDecryption` built from a receiving key. -/
  SproutSpendingKey : Type
  SproutViewingKey : Type
  SproutPaymentAddress : Type
  ReceivingKey : Type
  ZCNoteDecryption : Type
  sproutAddress : SproutSpendingKey → SproutPaymentAddress
  receivingKey : SproutSpendingKey → ReceivingKey
  viewingKeyAddress : SproutViewingKey → SproutPaymentAddress
  skEnc : SproutViewingKey → ReceivingKey
  noteDecryption : ReceivingKey → ZCNoteDecryption
  /-- Sapling: the extended spending key, its expanded key `expsk`, the extended and plain
  full viewing keys, incoming and outgoing viewing keys, payment addresses and the 88-bit
  diversifier index `blob88`. -/
  SaplingExtendedSpendingKey : Type
  SaplingExpandedSpendingKey : Type
  SaplingExtendedFullViewingKey : Type
  SaplingFullViewingKey : Type
  SaplingIncomingViewingKey : Type
  OutgoingViewingKey : Type
  SaplingPaymentAddress : Type
  Blob88 : Type
  toXFVK : SaplingExtendedSpendingKey → SaplingExtendedFullViewingKey
  expsk : SaplingExtendedSpendingKey → SaplingExpandedSpendingKey
  fullViewingKey : SaplingExpandedSpendingKey → SaplingFullViewingKey
  expskOvk : SaplingExpandedSpendingKey → OutgoingViewingKey
  fvk : SaplingExtendedFullViewingKey → SaplingFullViewingKey
  inViewingKey : SaplingFullViewingKey → SaplingIncomingViewingKey
  ovk : SaplingFullViewingKey → OutgoingViewingKey
  defaultAddress : SaplingExtendedFullViewingKey → SaplingPaymentAddress
  /-- `SaplingPaymentAddress::operator<`, the key order of a `std::map` over addresses. -/
  addrLt : SaplingPaymentAddress → SaplingPaymentAddress → Bool
  /-- Equality on every type used as a map key or set element. -/
  decCKeyID : DecidableEq CKeyID
  decCScriptID : DecidableEq CScriptID
  decCScript : DecidableEq CScript
  decSproutPaymentAddress : DecidableEq SproutPaymentAddress
  decSaplingExtendedFullViewingKey : DecidableEq SaplingExtendedFullViewingKey
  decSaplingIncomingViewingKey : DecidableEq SaplingIncomingViewingKey
  decOutgoingViewingKey : DecidableEq OutgoingViewingKey
  decSaplingPaymentAddress : DecidableEq SaplingPaymentAddress
  /-- The default constructors the code relies on. -/
  inhCKey : Inhabited CKey
  inhHDSeed : Inhabited HDSeed
  inhSaplingExtendedSpendingKey : Inhabited SaplingExtendedSpendingKey
  inhSaplingExtendedFullViewingKey : Inhabited SaplingExtendedFullViewingKey
  inhSaplingIncomingViewingKey : Inhabited SaplingIncomingViewingKey
  /-- A default-constructed seed is null. -/
  isNull_default : isNull inhHDSeed.default = true

attribute [instance] Primitives.decCKeyID Primitives.decCScriptID Primitives.decCScript
  Primitives.decSproutPaymentAddress Primitives.decSaplingExtendedFullViewingKey
  Primitives.decSaplingIncomingViewingKey Primitives.decOutgoingViewingKey
  Primitives.decSaplingPaymentAddress Primitives.inhCKey Primitives.inhHDSeed
  Primitives.inhSaplingExtendedSpendingKey Primitives.inhSaplingExtendedFullViewingKey
  Primitives.inhSaplingIncomingViewingKey

/-- The incoming viewing key a Sapling spending key controls,
`extsk.expsk.full_viewing_key().in_viewing_key()`. -/
def Primitives.spendingIvk (P : Primitives) (extsk : P.SaplingExtendedSpendingKey) :
    P.SaplingIncomingViewingKey :=
  P.inViewingKey (P.fullViewingKey (P.expsk extsk))

/-- The incoming viewing key of an extended full viewing key, `extfvk.fvk.in_viewing_key()`. -/
def Primitives.fvkIvk (P : Primitives) (extfvk : P.SaplingExtendedFullViewingKey) :
    P.SaplingIncomingViewingKey :=
  P.inViewingKey (P.fvk extfvk)

/-! ## A small instance

Every key a number; the Sapling incoming viewing key of `n` is `n / 2`,
so two full viewing keys can share one, as real ones can (the same `fvk`
under different chain codes). Used to evaluate the model. -/

/-- Numbers for keys, lists of numbers for scripts and seeds. -/
abbrev Primitives.nat : Primitives where
  CKey := Nat
  CPubKey := Nat
  CKeyID := Nat
  getPubKey := id
  getID := id
  CScript := List Nat
  CScriptID := Nat
  scriptSize := List.length
  scriptID := List.sum
  MAX_SCRIPT_ELEMENT_SIZE := 520
  HDSeed := List Nat
  isNull := List.isEmpty
  SproutSpendingKey := Nat
  SproutViewingKey := Nat
  SproutPaymentAddress := Nat
  ReceivingKey := Nat
  ZCNoteDecryption := Nat
  sproutAddress := id
  receivingKey := id
  viewingKeyAddress := id
  skEnc := id
  noteDecryption := id
  SaplingExtendedSpendingKey := Nat
  SaplingExpandedSpendingKey := Nat
  SaplingExtendedFullViewingKey := Nat
  SaplingFullViewingKey := Nat
  SaplingIncomingViewingKey := Nat
  OutgoingViewingKey := Nat
  SaplingPaymentAddress := Nat
  Blob88 := Nat
  toXFVK := id
  expsk := id
  fullViewingKey := id
  expskOvk := id
  fvk := id
  inViewingKey := (· / 2)
  ovk := id
  defaultAddress := (· / 2)
  addrLt := fun a b => decide (a < b)
  decCKeyID := inferInstanceAs (DecidableEq Nat)
  decCScriptID := inferInstanceAs (DecidableEq Nat)
  decCScript := inferInstanceAs (DecidableEq (List Nat))
  decSproutPaymentAddress := inferInstanceAs (DecidableEq Nat)
  decSaplingExtendedFullViewingKey := inferInstanceAs (DecidableEq Nat)
  decSaplingIncomingViewingKey := inferInstanceAs (DecidableEq Nat)
  decOutgoingViewingKey := inferInstanceAs (DecidableEq Nat)
  decSaplingPaymentAddress := inferInstanceAs (DecidableEq Nat)
  inhCKey := ⟨0⟩
  inhHDSeed := ⟨[]⟩
  inhSaplingExtendedSpendingKey := ⟨0⟩
  inhSaplingExtendedFullViewingKey := ⟨0⟩
  inhSaplingIncomingViewingKey := ⟨0⟩
  isNull_default := rfl

end SevenSeas
