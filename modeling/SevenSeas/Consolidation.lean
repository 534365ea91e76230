import SevenSeas.KeyStore

/-!
# `AsyncRPCOperation_saplingconsolidation::main_impl`

The consolidation job as one function of its inputs. Everything the job
reads from outside (consensus, chain tip, the wallet's notes and keys,
configuration, `rand()`, the witness service, `TransactionBuilder::Build()`
and the cancel flag) is a field of `ConsolidationEnv`; the chain may move
while the job runs, so the tip, the witnesses, `Build()` and the cancel
flag are functions of the position `i` of the address in the loop, and
`rand` is the sequence of values successive `rand()` calls return.

The run is the loop of asyncrpcoperation_saplingconsolidation.cpp
unchanged: group the notes by address into a `std::map`
(`groupNotes`), then for each address in key order resolve its spending
key, count its notes, select a batch (`selectNotes`), and build, check
and commit one transaction (`buildAndCommit`), with the `continue`s and
`break`s where the source has them. Besides what `setConsolidationResult`
reports, `ConsolidationRun` records every builder `Build()` was called on
(with the notes selected for it) and every committed transaction.

`CAmount` is `int64_t`: its arithmetic goes through `int64`, the
two's-complement wrap, so that overflow is visible in the model rather
than assumed away.
-/

namespace SevenSeas

variable {P : Primitives}

/-- `libzcash::PaymentAddress`, what `DecodePaymentAddress` returns. -/
inductive PaymentAddress (P : Primitives) where
  | invalidEncoding
  | sprout (addr : P.SproutPaymentAddress)
  | sapling (addr : P.SaplingPaymentAddress)

/-- The wallet and chain types main_impl passes along without looking inside. -/
structure ChainPrimitives (P : Primitives) where
  SaplingOutPoint : Type
  SaplingNote : Type
  SaplingWitness : Type
  /-- The `uint256` Sapling anchor. -/
  Anchor : Type
  CTransaction : Type
  /-- `note.value()`, a `uint64_t`. -/
  value : SaplingNote → UInt64
  /-- `tx.GetHash().ToString()`. -/
  txid : CTransaction → String
  /-- `DecodePaymentAddress` of key_io.h. -/
  decodePaymentAddress : String → PaymentAddress P

variable {C : ChainPrimitives P}

/-- `int64_t` arithmetic as the compiled code performs it: the exact result
reduced into `[-2^63, 2^63)` modulo `2^64`. -/
def int64 (x : Int) : Int := (x + 2 ^ 63) % 2 ^ 64 - 2 ^ 63

/-- Wrapping a partial sum changes nothing modulo `2^64`. -/
theorem int64_add_int64 (a b : Int) : int64 (int64 a + b) = int64 (a + b) := by
  simp only [int64]; omega

theorem int64_add_int64_right (a b : Int) : int64 (a + int64 b) = int64 (a + b) := by
  rw [Int.add_comm, int64_add_int64, Int.add_comm]

theorem int64_zero : int64 0 = 0 := by decide

theorem int64_int64 (a : Int) : int64 (int64 a) = int64 a := by
  simp only [int64]; omega

/-- `int64` is the identity on the values an `int64_t` holds. -/
theorem int64_of_lt {x : Int} (h₁ : -2 ^ 63 ≤ x) (h₂ : x < 2 ^ 63) : int64 x = x := by
  simp only [int64]; omega

/-- `CONSOLIDATION_EXPIRY_DELTA`. -/
def CONSOLIDATION_EXPIRY_DELTA : Int := 40

/-- The fields of `SaplingNoteEntry` main_impl reads. -/
structure SaplingNoteEntry (P : Primitives) (C : ChainPrimitives P) where
  op : C.SaplingOutPoint
  address : P.SaplingPaymentAddress
  note : C.SaplingNote

/-- The arguments of one `AddSaplingSpend`. -/
structure SaplingSpend (P : Primitives) (C : ChainPrimitives P) where
  expsk : P.SaplingExpandedSpendingKey
  note : C.SaplingNote
  anchor : C.Anchor
  witness : C.SaplingWitness

/-- The arguments of one `AddSaplingOutput`. -/
structure SaplingOutput (P : Primitives) where
  ovk : P.OutgoingViewingKey
  address : P.SaplingPaymentAddress
  value : Int

/-- What main_impl has told a `TransactionBuilder` by the time it calls
`Build()`: the constructor's height and every setter and `Add*` call, in
order. The builder itself lives in transaction_builder.cpp; what `Build()`
makes of this is an input of the run. -/
structure TransactionBuilder (P : Primitives) (C : ChainPrimitives P) where
  nHeight : Int
  expiryHeight : Option Int
  fee : Option Int
  spends : List (SaplingSpend P C)
  outputs : List (SaplingOutput P)

namespace TransactionBuilder

/-- `TransactionBuilder(consensusParams, nHeight, pwalletMain)`. -/
def new (nHeight : Int) : TransactionBuilder P C := ⟨nHeight, none, none, [], []⟩

def setExpiryHeight (b : TransactionBuilder P C) (nExpiryHeight : Int) : TransactionBuilder P C :=
  { b with expiryHeight := some nExpiryHeight }

def setFee (b : TransactionBuilder P C) (fee : Int) : TransactionBuilder P C :=
  { b with fee := some fee }

def addSaplingSpend (b : TransactionBuilder P C) (expsk : P.SaplingExpandedSpendingKey)
    (note : C.SaplingNote) (anchor : C.Anchor) (witness : C.SaplingWitness) :
    TransactionBuilder P C :=
  { b with spends := b.spends ++ [⟨expsk, note, anchor, witness⟩] }

def addSaplingOutput (b : TransactionBuilder P C) (ovk : P.OutgoingViewingKey)
    (address : P.SaplingPaymentAddress) (value : Int) : TransactionBuilder P C :=
  { b with outputs := b.outputs ++ [⟨ovk, address, value⟩] }

end TransactionBuilder

/-- The members of `CWallet` main_impl reads and writes. -/
structure WalletState where
  targetConsolidationQty : Int
  initializeConsolidationInterval : Int
  nextConsolidation : Int
  fConsolidationRunning : Bool

/-- Everything main_impl reads from outside the job. -/
structure ConsolidationEnv (P : Primitives) (C : ChainPrimitives P) where
  /-- `targetHeight_` and `NextActivationHeight(targetHeight_, consensusParams)`. -/
  targetHeight : Int
  nextActivationHeight : Option Int
  /-- The Sapling entries of `GetFilteredNotes(sproutEntries, saplingEntries, "", 11)`. -/
  saplingEntries : List (SaplingNoteEntry P C)
  /-- `fConsolidationMapUsed`, `mapMultiArgs["-consolidatesaplingaddress"]` and
  `fConsolidationTxFee`. -/
  fConsolidationMapUsed : Bool
  consolidateSaplingAddress : List String
  fConsolidationTxFee : Int
  /-- `pwalletMain` as a key store, and its consolidation members. -/
  keyStore : CBasicKeyStore P
  wallet : WalletState
  /-- The value of the `n`-th `rand()` call. -/
  rand : Nat → Nat
  /-- `chainActive.Tip()->GetHeight()` when the builder of the `i`-th address is
  set up, and when the completion bookkeeping runs. -/
  tipHeight : Nat → Int
  finalTipHeight : Int
  /-- `GetSaplingNoteWitnesses(ops, witnesses, anchor)` at the `i`-th address. -/
  noteWitnesses : Nat → List C.SaplingOutPoint → List (Option C.SaplingWitness) × C.Anchor
  /-- `builder.Build()` at the `i`-th address. -/
  build : Nat → TransactionBuilder P C → Option C.CTransaction
  /-- `isCancelled()` at the checkpoint of the `i`-th address. -/
  isCancelled : Nat → Bool

/-- One address main_impl built a transaction for: where the loop's iterator
stood (`position`, counted from `mapAddresses.begin()`), the address, the
spending key it resolved, the index of the `rand()` call that drew
`maxQuantity` (`minQuantity` is the next one), the notes it selected
(`fromNotes`) with their total `amountToSend`, and the builder it called
`Build()` on. -/
structure Attempt (P : Primitives) (C : ChainPrimitives P) where
  position : Nat
  addr : P.SaplingPaymentAddress
  extsk : P.SaplingExtendedSpendingKey
  draw : Nat
  fromNotes : List (SaplingNoteEntry P C)
  amountToSend : Int
  builder : TransactionBuilder P C

/-- main_impl's locals across the address loop, with the calls it made on
the outside: `rand()` calls so far, `Build()` attempts, and commits (each
with the builder its transaction came from). -/
structure LoopState (P : Primitives) (C : ChainPrimitives P) where
  numTxCreated : Int
  consolidationTxIds : List String
  amountConsolidated : Int
  consolidationComplete : Bool
  randCalls : Nat
  attempts : List (Attempt P C)
  commits : List (TransactionBuilder P C × C.CTransaction)

/-- The values main_impl hands to `setConsolidationResult`. -/
structure ConsolidationResult where
  numTxCreated : Int
  amountConsolidated : Int
  consolidationTxIds : List String

/-- One run of main_impl: what it reports, the wallet afterwards, and its
calls on the builder and the wallet. -/
structure ConsolidationRun (P : Primitives) (C : ChainPrimitives P) where
  result : ConsolidationResult
  wallet : WalletState
  attempts : List (Attempt P C)
  commits : List (TransactionBuilder P C × C.CTransaction)

/-! ## Grouping the notes by address -/

/-- The Sapling addresses among the decoded `-consolidatesaplingaddress` values. -/
def allowedAddresses (C : ChainPrimitives P) (v : List String) : List P.SaplingPaymentAddress :=
  v.filterMap fun s =>
    match C.decodePaymentAddress s with
    | .sapling a => some a
    | _ => none

/-- `mapAddresses.find(entry.address)`: append to the address's notes, or start
a new entry `{entry}` in key order. -/
def pushNote (m : List (P.SaplingPaymentAddress × List (SaplingNoteEntry P C)))
    (e : SaplingNoteEntry P C) : List (P.SaplingPaymentAddress × List (SaplingNoteEntry P C)) :=
  if m.any (fun g => decide (g.1 = e.address)) then
    m.map fun g => if g.1 = e.address then (g.1, g.2 ++ [e]) else g
  else m.orderedInsert (fun g h => P.addrLt g.1 h.1 = true) (e.address, [e])

/-- The grouping loop over the filtered notes; `keep` is the test
`addresses.count(entry.address) > 0 || !fConsolidationMapUsed`. -/
def groupNotes (keep : P.SaplingPaymentAddress → Bool) :
    List (SaplingNoteEntry P C) → List (P.SaplingPaymentAddress × List (SaplingNoteEntry P C)) →
      List (P.SaplingPaymentAddress × List (SaplingNoteEntry P C))
  | [], m => m
  | e :: es, m => groupNotes keep es (if keep e.address then pushNote m e else m)

/-! ## The per-address loop body -/

/-- The test both inner loops apply to a note: its address resolves, through
`GetSaplingIncomingViewingKey` into a fresh `ivk`, to the spending key's
incoming viewing key, and it is addressed to `addr`. -/
def eligible (ks : CBasicKeyStore P) (extsk : P.SaplingExtendedSpendingKey)
    (addr : P.SaplingPaymentAddress) (e : SaplingNoteEntry P C) : Bool :=
  decide ((ks.getSaplingIncomingViewingKey e.address default).2 = P.spendingIvk extsk) &&
    decide (e.address = addr)

/-- The counting loop: `noteCount` over the address's notes. -/
def countNotes (elig : SaplingNoteEntry P C → Bool) : List (SaplingNoteEntry P C) → Int → Int
  | [], noteCount => noteCount
  | e :: es, noteCount => countNotes elig es (if elig e then noteCount + 1 else noteCount)

/-- The selection loop: each eligible note goes into `fromNotes` and its value
into `amountToSend`, and the loop stops once `fromNotes.size() >= maxQuantity`,
tested after every note, eligible or not. -/
def selectNotes (C : ChainPrimitives P) (elig : SaplingNoteEntry P C → Bool) (maxQuantity : Nat) :
    List (SaplingNoteEntry P C) → List (SaplingNoteEntry P C) → Int →
      List (SaplingNoteEntry P C) × Int
  | [], fromNotes, amountToSend => (fromNotes, amountToSend)
  | e :: es, fromNotes, amountToSend =>
    let fromNotes' := if elig e then fromNotes ++ [e] else fromNotes
    let amountToSend' :=
      if elig e then int64 (amountToSend + int64 (C.value e.note).toNat) else amountToSend
    if fromNotes'.length ≥ maxQuantity then (fromNotes', amountToSend')
    else selectNotes C elig maxQuantity es fromNotes' amountToSend'

/-- The spend loop: `AddSaplingSpend` for `notes[i]` with `witnesses[i]`, in
order, until the first missing witness (`break`). -/
def addSpends (expsk : P.SaplingExpandedSpendingKey) (anchor : C.Anchor)
    (witnesses : List (Option C.SaplingWitness)) :
    Nat → List C.SaplingNote → TransactionBuilder P C → TransactionBuilder P C
  | _, [], b => b
  | i, note :: notes, b =>
    match witnesses.getD i none with
    | none => b
    | some w => addSpends expsk anchor witnesses (i + 1) notes (b.addSaplingSpend expsk note anchor w)

/-- The fee rule: `fConsolidationTxFee`, or `0` when `amountToSend` does not
exceed it. -/
def consolidationFee (env : ConsolidationEnv P C) (amountToSend : Int) : Int :=
  if amountToSend ≤ env.fConsolidationTxFee then 0 else env.fConsolidationTxFee

/-- The builder main_impl calls `Build()` on for the `i`-th address: expiry
from the tip it reads then, one spend per selected note up to the first
missing witness, the fee, and one output back to `addr`. -/
def consolidationBuilder (env : ConsolidationEnv P C) (i : Nat) (addr : P.SaplingPaymentAddress)
    (extsk : P.SaplingExtendedSpendingKey) (fromNotes : List (SaplingNoteEntry P C))
    (amountToSend : Int) : TransactionBuilder P C :=
  let fee := consolidationFee env amountToSend
  let builder := (TransactionBuilder.new env.targetHeight).setExpiryHeight
    (env.tipHeight i + CONSOLIDATION_EXPIRY_DELTA)
  let (witnesses, anchor) := env.noteWitnesses i (fromNotes.map (·.op))
  let builder := addSpends (P.expsk extsk) anchor witnesses 0 (fromNotes.map (·.note)) builder
  (builder.setFee fee).addSaplingOutput (P.expskOvk (P.expsk extsk)) addr
    (int64 (amountToSend - fee))

/-- The body after the batch is chosen: the first `amountConsolidated +=`,
the builder, `Build()`, the cancel checkpoint and the commit. `draw` is the
index of the `rand()` call that drew the batch's `maxQuantity`, kept in the
attempt's record. The flag is `true` on a `break`. -/
def buildAndCommit (env : ConsolidationEnv P C) (i : Nat) (addr : P.SaplingPaymentAddress)
    (extsk : P.SaplingExtendedSpendingKey) (draw : Nat) (fromNotes : List (SaplingNoteEntry P C))
    (amountToSend : Int) (st : LoopState P C) : LoopState P C × Bool :=
  let fee := consolidationFee env amountToSend
  let builder := consolidationBuilder env i addr extsk fromNotes amountToSend
  let st := { st with
    amountConsolidated := int64 (st.amountConsolidated + amountToSend)
    attempts := st.attempts ++ [⟨i, addr, extsk, draw, fromNotes, amountToSend, builder⟩] }
  match env.build i builder with
  | none => (st, true)
  | some tx =>
    if env.isCancelled i then (st, true)
    else
      ({ st with
        commits := st.commits ++ [(builder, tx)]
        amountConsolidated := int64 (st.amountConsolidated + int64 (amountToSend - fee))
        consolidationTxIds := st.consolidationTxIds ++ [C.txid tx] }, false)

/-- The loop body for the `i`-th address and its notes. The flag is `true` on
a `break`; each `continue` returns `false`. -/
def processAddress (env : ConsolidationEnv P C) (i : Nat) (addr : P.SaplingPaymentAddress)
    (entries : List (SaplingNoteEntry P C)) (st : LoopState P C) : LoopState P C × Bool :=
  match env.keyStore.getSaplingExtendedSpendingKey addr default with
  | (false, _) => (st, false)
  | (true, extsk) =>
    let maxQuantity := env.rand st.randCalls % 35 + 10
    let elig := eligible env.keyStore extsk addr
    if countNotes elig entries 0 < env.wallet.targetConsolidationQty then
      ({ st with randCalls := st.randCalls + 1 }, false)
    else
      let (fromNotes, amountToSend) := selectNotes C elig maxQuantity entries [] 0
      let minQuantity := env.rand (st.randCalls + 1) % 10 + 2
      let st' := { st with randCalls := st.randCalls + 2, consolidationComplete := false }
      if fromNotes.length < minQuantity then (st', false)
      else buildAndCommit env i addr extsk st.randCalls fromNotes amountToSend st'

/-- The address loop over `mapAddresses`, from the `i`-th entry on. -/
def consolidationLoop (env : ConsolidationEnv P C) :
    Nat → List (P.SaplingPaymentAddress × List (SaplingNoteEntry P C)) → LoopState P C →
      LoopState P C
  | _, [], st => st
  | i, (addr, entries) :: rest, st =>
    match processAddress env i addr entries st with
    | (st', true) => st'
    | (st', false) => consolidationLoop env (i + 1) rest st'

/-! ## main_impl -/

/-- The activation-window check: skip when the next network upgrade is less
than `CONSOLIDATION_EXPIRY_DELTA` blocks past `targetHeight_`. -/
def skipsUpgradeWindow (env : ConsolidationEnv P C) : Bool :=
  match env.nextActivationHeight with
  | some h => decide (env.targetHeight + CONSOLIDATION_EXPIRY_DELTA ≥ h)
  | none => false

/-- The filter of the grouping loop. -/
def keepAddress (env : ConsolidationEnv P C) (a : P.SaplingPaymentAddress) : Bool :=
  decide (a ∈ (if env.fConsolidationMapUsed then
      allowedAddresses C env.consolidateSaplingAddress else [])) ||
    !env.fConsolidationMapUsed

/-- `mapAddresses`: the kept notes grouped by address, in key order. -/
def mapAddresses (env : ConsolidationEnv P C) :
    List (P.SaplingPaymentAddress × List (SaplingNoteEntry P C)) :=
  groupNotes (keepAddress env) env.saplingEntries []

/-- main_impl; it returns `true` on both of its paths. -/
def mainImpl (env : ConsolidationEnv P C) : Bool × ConsolidationRun P C :=
  if skipsUpgradeWindow env then (true, ⟨⟨0, 0, []⟩, env.wallet, [], []⟩)
  else
    let st := consolidationLoop env 0 (mapAddresses env) ⟨0, [], 0, true, 0, [], []⟩
    let wallet :=
      if st.consolidationComplete then
        { env.wallet with
          nextConsolidation := env.wallet.initializeConsolidationInterval + env.finalTipHeight
          fConsolidationRunning := false }
      else env.wallet
    (true, ⟨⟨st.numTxCreated, st.amountConsolidated, st.consolidationTxIds⟩, wallet,
      st.attempts, st.commits⟩)

/-! ## Spec lemmas

What the spend loop, the builder and the two halves of the loop body do, as
equations and case splits; the proofs about runs use these and never unfold
the loop body. -/

/-- The spend loop adds spends, under the given key, of the first of its
notes, each with the witness at its position, up to the first missing
witness; it changes nothing else in the builder. -/
theorem addSpends_eq (expsk : P.SaplingExpandedSpendingKey) (anchor : C.Anchor)
    (witnesses : List (Option C.SaplingWitness)) (i : Nat) (notes : List C.SaplingNote)
    (b : TransactionBuilder P C) :
    ∃ added, addSpends expsk anchor witnesses i notes b = { b with spends := b.spends ++ added } ∧
      added.map (·.note) = notes.take added.length ∧ (∀ sp ∈ added, sp.expsk = expsk) ∧
      (added.map fun sp => some sp.witness).IsPrefix (witnesses.drop i) ∧
      (added.length < notes.length → witnesses.getD (i + added.length) none = none) := by
  induction notes generalizing i b with
  | nil => exact ⟨[], by simp [addSpends], rfl, nofun, List.nil_prefix, nofun⟩
  | cons note notes ih =>
    simp only [addSpends]
    split
    · rename_i hw
      exact ⟨[], by simp, rfl, nofun, List.nil_prefix, fun _ => hw⟩
    · rename_i w hw
      obtain ⟨added, h1, h2, h3, h4, h5⟩ := ih (i + 1) (b.addSaplingSpend expsk note anchor w)
      -- the witness found is the head of what is left of the vector
      have hdrop : witnesses.drop i = some w :: witnesses.drop (i + 1) := by
        rw [List.getD_eq_getElem?_getD] at hw
        cases hl : witnesses[i]? with
        | none => simp [hl] at hw
        | some o =>
          obtain ⟨hi, he⟩ := List.getElem?_eq_some_iff.mp hl
          rw [hl, Option.getD_some] at hw
          rw [List.drop_eq_getElem_cons hi, he, hw]
      refine ⟨⟨expsk, note, anchor, w⟩ :: added, ?_, by simp [h2], ?_, ?_, fun hlt => ?_⟩
      · rw [h1]; simp [TransactionBuilder.addSaplingSpend]
      · exact List.forall_mem_cons.mpr ⟨rfl, h3⟩
      · rw [hdrop]; exact (List.prefix_cons_inj _).mpr h4
      · have := h5 (by simp at hlt; omega)
        simpa [Nat.add_assoc, Nat.add_comm 1] using this

/-- The builder main_impl calls `Build()` on, field by field: the spends are
the key's spends of the first selected notes, each with its witness from
`GetSaplingNoteWitnesses`, up to the first note without one. -/
theorem consolidationBuilder_eq (env : ConsolidationEnv P C) (i : Nat)
    (addr : P.SaplingPaymentAddress) (extsk : P.SaplingExtendedSpendingKey)
    (fromNotes : List (SaplingNoteEntry P C)) (amountToSend : Int) :
    ∃ spends, consolidationBuilder env i addr extsk fromNotes amountToSend =
        ⟨env.targetHeight, some (env.tipHeight i + CONSOLIDATION_EXPIRY_DELTA),
          some (consolidationFee env amountToSend), spends,
          [⟨P.expskOvk (P.expsk extsk), addr,
            int64 (amountToSend - consolidationFee env amountToSend)⟩]⟩ ∧
      spends.map (·.note) = (fromNotes.take spends.length).map (·.note) ∧
      (∀ sp ∈ spends, sp.expsk = P.expsk extsk) ∧
      (spends.map fun sp => some sp.witness).IsPrefix
        (env.noteWitnesses i (fromNotes.map (·.op))).1 ∧
      (spends.length < fromNotes.length →
        (env.noteWitnesses i (fromNotes.map (·.op))).1.getD spends.length none = none) := by
  rcases hw : env.noteWitnesses i (fromNotes.map (·.op)) with ⟨witnesses, anchor⟩
  obtain ⟨added, h1, h2, h3, h4, h5⟩ := addSpends_eq (P.expsk extsk) anchor witnesses 0
    (fromNotes.map (·.note))
    ((TransactionBuilder.new (C := C) env.targetHeight).setExpiryHeight
      (env.tipHeight i + CONSOLIDATION_EXPIRY_DELTA))
  refine ⟨added, ?_, by rw [h2, List.map_take], h3, by simpa [hw] using h4,
    fun h => by simpa [hw] using h5 (by simpa using h)⟩
  simp only [consolidationBuilder, hw, h1]
  rfl

/-- `buildAndCommit` records the attempt and counts `amountToSend` before
`Build()`; then it stops (no transaction, or cancelled) or commits. -/
theorem buildAndCommit_cases (env : ConsolidationEnv P C) (i : Nat)
    (addr : P.SaplingPaymentAddress) (extsk : P.SaplingExtendedSpendingKey) (draw : Nat)
    (fromNotes : List (SaplingNoteEntry P C)) (amountToSend : Int) (st : LoopState P C) :
    let b := consolidationBuilder env i addr extsk fromNotes amountToSend
    let st' : LoopState P C := { st with
      amountConsolidated := int64 (st.amountConsolidated + amountToSend)
      attempts := st.attempts ++ [⟨i, addr, extsk, draw, fromNotes, amountToSend, b⟩] }
    buildAndCommit env i addr extsk draw fromNotes amountToSend st = (st', true) ∨
      ∃ tx, env.build i b = some tx ∧ env.isCancelled i = false ∧
        buildAndCommit env i addr extsk draw fromNotes amountToSend st = ({ st' with
          commits := st.commits ++ [(b, tx)]
          amountConsolidated := int64 (st'.amountConsolidated +
            int64 (amountToSend - consolidationFee env amountToSend))
          consolidationTxIds := st.consolidationTxIds ++ [C.txid tx] }, false) := by
  simp only [buildAndCommit]
  split
  · exact .inl rfl
  · rename_i tx hb
    split
    · exact .inl rfl
    · rename_i hc
      exact .inr ⟨tx, hb, by simpa using hc, rfl⟩

/-- Whether the loop body at `addr` gets past its count check: the wallet
holds a spending key for `addr`, and at least `targetConsolidationQty` of
`entries` are eligible for it. -/
def needsConsolidation (env : ConsolidationEnv P C) (addr : P.SaplingPaymentAddress)
    (entries : List (SaplingNoteEntry P C)) : Bool :=
  match env.keyStore.getSaplingExtendedSpendingKey addr default with
  | (true, extsk) =>
    decide (env.wallet.targetConsolidationQty ≤ countNotes (eligible env.keyStore extsk addr) entries 0)
  | (false, _) => false

/-- The `rand()` calls the loop body makes at `addr`: none without a
spending key, `maxQuantity`'s alone below the target count, and
`maxQuantity`'s and `minQuantity`'s past it. -/
def randCallsAt (env : ConsolidationEnv P C) (addr : P.SaplingPaymentAddress)
    (entries : List (SaplingNoteEntry P C)) : Nat :=
  match env.keyStore.getSaplingExtendedSpendingKey addr default with
  | (true, _) => if needsConsolidation env addr entries then 2 else 1
  | (false, _) => 0

/-- The loop body, with its guards. Without a key, or below the target
count, it only draws its `rand()` calls and continues. Otherwise it marks the
run incomplete, draws both bounds and selects a batch; a batch below the
minimum is skipped, and any other goes on to `buildAndCommit`. -/
theorem processAddress_cases (env : ConsolidationEnv P C) (i : Nat)
    (addr : P.SaplingPaymentAddress) (entries : List (SaplingNoteEntry P C)) (st : LoopState P C) :
    (needsConsolidation env addr entries = false ∧
      processAddress env i addr entries st =
        ({ st with randCalls := st.randCalls + randCallsAt env addr entries }, false)) ∨
    ∃ extsk, env.keyStore.getSaplingExtendedSpendingKey addr default = (true, extsk) ∧
      env.wallet.targetConsolidationQty ≤ countNotes (eligible env.keyStore extsk addr) entries 0 ∧
      randCallsAt env addr entries = 2 ∧
      let sel := selectNotes C (eligible env.keyStore extsk addr)
        (env.rand st.randCalls % 35 + 10) entries [] 0
      let st' : LoopState P C :=
        { st with randCalls := st.randCalls + 2, consolidationComplete := false }
      processAddress env i addr entries st =
        if sel.1.length < env.rand (st.randCalls + 1) % 10 + 2 then (st', false)
        else buildAndCommit env i addr extsk st.randCalls sel.1 sel.2 st' := by
  unfold processAddress
  split
  · rename_i hkey
    exact .inl ⟨by simp [needsConsolidation, hkey], by simp [randCallsAt, hkey]⟩
  · rename_i extsk hkey
    dsimp only
    split
    · rename_i hlt
      have hn : needsConsolidation env addr entries = false := by
        simp [needsConsolidation, hkey, hlt]
      exact .inl ⟨hn, by simp [randCallsAt, hkey, hn]⟩
    · rename_i hge
      have hn : needsConsolidation env addr entries = true := by
        simp [needsConsolidation, hkey]; omega
      refine .inr ⟨extsk, hkey, by omega, by simp [randCallsAt, hkey, hn], ?_⟩
      rcases selectNotes C (eligible env.keyStore extsk addr)
        (env.rand st.randCalls % 35 + 10) entries [] 0 with ⟨fromNotes, amountToSend⟩
      rfl

/-- main_impl returns `true` on both of its paths. -/
theorem mainImpl_fst (env : ConsolidationEnv P C) : (mainImpl env).1 = true := by
  unfold mainImpl; split <;> rfl

/-- The address loop keeps every invariant the loop body keeps. -/
theorem consolidationLoop_preserves (env : ConsolidationEnv P C) (I : LoopState P C → Prop)
    (step : ∀ i addr entries st, I st → I (processAddress env i addr entries st).1)
    (i : Nat) (gs : List (P.SaplingPaymentAddress × List (SaplingNoteEntry P C)))
    (st : LoopState P C) (h : I st) : I (consolidationLoop env i gs st) := by
  induction gs generalizing i st with
  | nil => exact h
  | cons g gs ih =>
    have hg := step i g.1 g.2 st h
    rcases hp : processAddress env i g.1 g.2 st with ⟨st', _ | _⟩ <;> rw [hp] at hg
    · simpa [consolidationLoop, hp] using ih (i + 1) st' hg
    · simpa [consolidationLoop, hp] using hg

/-- Numbers for outpoints, notes (a note's value is its number) and
transactions; a string decodes to the Sapling address it spells. -/
abbrev ChainPrimitives.nat : ChainPrimitives Primitives.nat where
  SaplingOutPoint := Nat
  SaplingNote := Nat
  SaplingWitness := Unit
  Anchor := Unit
  CTransaction := Nat
  value := Nat.toUInt64
  txid := toString
  decodePaymentAddress s := match s.toNat? with
    | some n => .sapling n
    | none => .invalidEncoding

/-- One address, `1`, holding twelve notes of 100 (outpoints `0` to `11`)
under the spending key `2`, whose default address it is. The target height
is 100 and the next upgrade activates at 141, so the window check passes;
the tip reads 101 when the builder is set up. The fee is 10, the wallet's
target 10 notes, every `rand()` returns 0, every witness is there,
`Build()` succeeds and nobody cancels. -/
def ChainPrimitives.natEnv : ConsolidationEnv Primitives.nat ChainPrimitives.nat where
  targetHeight := 100
  nextActivationHeight := some 141
  saplingEntries := (List.range 12).map fun k => ⟨k, 1, 100⟩
  fConsolidationMapUsed := false
  consolidateSaplingAddress := []
  fConsolidationTxFee := 10
  keyStore := ((CBasicKeyStore.empty (P := Primitives.nat)).addSaplingSpendingKey 2).2
  wallet := ⟨10, 5, 0, true⟩
  rand _ := 0
  tipHeight _ := 101
  finalTipHeight := 101
  noteWitnesses _ ops := (ops.map fun _ => some (), ())
  build i _ := some (i + 7)
  isCancelled _ := false

end SevenSeas
