import Mathlib.Algebra.Order.Ring.Nat
import NearIndexer.Basic

/-!
# Wrapping an RPC Block

`wrapBlock` turns the RPC's answer for a block into the unified `NearBlock` that the
indexer hands to its handlers. For each chunk of the block it asks the RPC for the chunk,
wraps each of the chunk's transactions with the block header and the transaction's
execution outcome (`wrapTransaction`), decodes each of the transaction's wire actions,
with its position as `id` (`wrapAction`), and appends the chunk's receipts.

`wrapAction` accepts the eight action tags of NEAR, as the first key of an object or, for
`CreateAccount`, as the bare string; it throws on anything else. A string other than
`"CreateAccount"` reaches the same check through `Object.keys`, which lists a string's
indices, none of them a tag. An action of any other kind, such as the `Delegate` action of
a meta transaction, makes the whole of `wrapBlock` throw.

The provider's calls, `block`, `chunk` and `txStatusReceipts`, are fixed answers per
argument, each a result or a rejection; `wrapBlock` awaits one `chunk` call per chunk and
one `txStatusReceipts` call per transaction, and a rejection of any of them rejects it.
`FixedRpc` is a provider whose `chunk` and `txStatusReceipts` calls always answer.

## Main results

* `wrapAction_inverts_action_encoding`: `wrapAction` returns `{ id, type, action,
  transaction }` for every tag and payload, reads the bare string `"CreateAccount"` as
  `{ CreateAccount: {} }`, and throws on every other string and every other first key.
* `wrapBlock_rejects_delegate_action`: a block whose one transaction carries a `Delegate`
  action is not wrapped.
* `wrapBlock_flattens_decodable_blocks`: on a `FixedRpc`, `wrapBlock` returns exactly when
  every action of the block decodes, and then its transactions, actions and receipts are
  those of the chunks, concatenated in order.
* `wrapBlock_actions_well_formed`: every action of a wrapped block has a tag, a transaction
  of the block and an index into that transaction's wire actions.
* `fetchBlocksBatches_isOk_iff`: a batch is fetched exactly when every call it awaits
  answers, block, chunk and transaction status, and every action decodes.
-/

namespace NearIndexer

/-! ### Results of `Except` computations -/

/-- A bind in `Except` returns exactly when both of its stages do. -/
theorem bind_eq_ok {ε α β : Type} {e : Except ε α} {f : α → Except ε β} {b : β} :
    e >>= f = .ok b ↔ ∃ a, e = .ok a ∧ f a = .ok b := by
  cases e <;> simp [bind, Except.bind]

/-- `mapM` in `Except` returns `ys` exactly when `f` returns the elements of `ys`, one by
one. -/
theorem mapM_eq_ok_iff {ε α β : Type} {f : α → Except ε β} {xs : List α} {ys : List β} :
    xs.mapM f = .ok ys ↔ ys.map .ok = xs.map f := by
  induction xs generalizing ys with
  | nil =>
    rw [List.mapM_nil]
    cases ys <;> simp [pure, Except.pure]
  | cons x xs ih =>
    simp only [List.mapM_cons, bind_eq_ok, ih, List.map_cons]
    cases ys with
    | nil => simp [pure, Except.pure]
    | cons y ys =>
      simp only [pure, Except.pure, Except.ok.injEq, List.cons.injEq, List.map_cons]
      constructor
      · rintro ⟨a, ha, l, hl, rfl, rfl⟩
        exact ⟨ha.symm, hl⟩
      · rintro ⟨ha, hl⟩
        exact ⟨y, ha.symm, ys, hl, rfl, rfl⟩

/-- A list of `Except` values is the image of a list of results exactly when every entry
returns. -/
theorem exists_map_ok_iff {ε β : Type} {l : List (Except ε β)} :
    (∃ ys : List β, ys.map .ok = l) ↔ ∀ x ∈ l, ∃ y, x = .ok y := by
  induction l with
  | nil => simp
  | cons x l ih =>
    simp only [List.mem_cons, forall_eq_or_imp, ← ih, List.map_eq_cons_iff]
    constructor
    · rintro ⟨_, y, ys, rfl, rfl, hys⟩
      exact ⟨⟨y, rfl⟩, ys, hys⟩
    · rintro ⟨⟨y, rfl⟩, ys, hys⟩
      exact ⟨y :: ys, y, ys, rfl, rfl, hys⟩

/-- `mapM` in `Except` returns exactly when `f` returns on every element. -/
theorem mapM_isOk_iff {ε α β : Type} {f : α → Except ε β} {xs : List α} :
    (∃ ys, xs.mapM f = .ok ys) ↔ ∀ x ∈ xs, ∃ y, f x = .ok y := by
  simp only [mapM_eq_ok_iff]
  rw [exists_map_ok_iff, List.forall_mem_map]

/-- Each result of a `mapM` in `Except` is what `f` returned on some element. -/
theorem mapM_ok_source {ε α β : Type} {f : α → Except ε β} {xs : List α} {ys : List β}
    (h : xs.mapM f = .ok ys) {y : β} (hy : y ∈ ys) : ∃ x ∈ xs, f x = .ok y :=
  List.mem_map.mp (mapM_eq_ok_iff.mp h ▸ List.mem_map_of_mem Except.ok hy)

/-- Each element of a `mapM` in `Except` that returned gave one of its results. -/
theorem mapM_ok_result {ε α β : Type} {f : α → Except ε β} {xs : List α} {ys : List β}
    (h : xs.mapM f = .ok ys) {x : α} (hx : x ∈ xs) : ∃ y ∈ ys, f x = .ok y := by
  obtain ⟨y, hy, heq⟩ := List.mem_map.mp ((mapM_eq_ok_iff.mp h).symm ▸ List.mem_map_of_mem f hx)
  exact ⟨y, hy, heq.symm⟩

/-! ### Decoding one action -/

/-- The tags of the eight cases of `parseNearAction`'s switch. -/
def nearActionTypes : List String :=
  ["CreateAccount", "DeployContract", "FunctionCall", "Transfer", "Stake", "AddKey",
    "DeleteKey", "DeleteAccount"]

/-- The message of the error that `parseNearAction` throws from its default branch. -/
def invalidNearActionType : String := "Invalid type string for NearAction"

/-- `parseNearAction`: the eight cases return the payload as it is (each is a type cast),
and the default branch throws. -/
def parseNearAction {α : Type} (type : String) (action : α) : Except String α :=
  if type ∈ nearActionTypes then .ok action else .error invalidNearActionType

/-- `Object.keys(action)[0]` with `action[type]`: the first own property of a wire value,
its key and its value as JSON text. A string's own properties are its characters keyed by
their indices, so a non-empty string's first key is `"0"`; the empty string and the empty
object have none. -/
def WireAction.firstProperty : WireAction → Option (String × String)
  | .str s => s.toList.head?.map fun c => ("0", c.toString.quote)
  | .obj properties => properties.head?

/-- `wrapAction`: the bare string `"CreateAccount"` is the action `CreateAccount` with
payload `{}`; any other value is read through its first key. With no first key, `type` is
`undefined` and `parseNearAction` takes its default branch. -/
def wrapAction (action : WireAction) (id : Nat) (transaction : NearTransaction) :
    Except String NearAction :=
  if action = .str "CreateAccount" then
    (⟨id, "CreateAccount", ·, transaction⟩) <$> parseNearAction "CreateAccount" "{}"
  else
    match action.firstProperty with
    | some (type, value) => (⟨id, type, ·, transaction⟩) <$> parseNearAction type value
    | none => .error invalidNearActionType

/-- The wire actions `wrapAction` accepts: the bare string `"CreateAccount"`, and every
value whose first key is one of the eight tags. -/
def WireAction.decodes (action : WireAction) : Bool :=
  action == .str "CreateAccount" ||
    match action.firstProperty with
    | some (type, _) => decide (type ∈ nearActionTypes)
    | none => false

/-- A tag of the switch returns the payload. -/
theorem parseNearAction_of_mem {α : Type} {type : String} (action : α)
    (h : type ∈ nearActionTypes) : parseNearAction type action = .ok action :=
  if_pos h

/-- Any other `type` throws. -/
theorem parseNearAction_of_not_mem {α : Type} {type : String} (action : α)
    (h : type ∉ nearActionTypes) :
    parseNearAction type action = .error invalidNearActionType :=
  if_neg h

/-- An object is read through its first property. -/
theorem wrapAction_obj_cons (type value : String) (rest : List (String × String))
    (id : Nat) (transaction : NearTransaction) :
    wrapAction (.obj ((type, value) :: rest)) id transaction =
      (⟨id, type, ·, transaction⟩) <$> parseNearAction type value := by
  simp [wrapAction, WireAction.firstProperty]

/-- An object whose first key is not a tag is rejected. -/
theorem wrapAction_obj_of_not_tag {properties : List (String × String)} (id : Nat)
    (transaction : NearTransaction)
    (h : ∀ t ∈ nearActionTypes, properties.head?.map Prod.fst ≠ some t) :
    wrapAction (.obj properties) id transaction = .error invalidNearActionType := by
  rcases properties with _ | ⟨⟨type, value⟩, rest⟩
  · simp [wrapAction, WireAction.firstProperty]
  · have htype : type ∉ nearActionTypes := fun hmem => h type hmem rfl
    rw [wrapAction_obj_cons, parseNearAction_of_not_mem _ htype]
    rfl

/-- A string other than `"CreateAccount"` is rejected: its first key, if any, is the
index `"0"`. -/
theorem wrapAction_str_of_ne {s : String} (id : Nat) (transaction : NearTransaction)
    (h : s ≠ "CreateAccount") :
    wrapAction (.str s) id transaction = .error invalidNearActionType := by
  have hne : WireAction.str s ≠ .str "CreateAccount" := fun heq => h (WireAction.str.inj heq)
  have hzero : "0" ∉ nearActionTypes := by decide
  have hkey : ∀ p ∈ (WireAction.str s).firstProperty, p.1 = "0" := by
    simp [WireAction.firstProperty]
  unfold wrapAction
  rw [if_neg hne]
  rcases hp : (WireAction.str s).firstProperty with _ | ⟨type, value⟩
  · rfl
  · obtain rfl : type = "0" := hkey _ hp
    show (⟨id, "0", ·, transaction⟩) <$> parseNearAction "0" value = _
    rw [parseNearAction_of_not_mem _ hzero]
    rfl

/-- `wrapAction` returns exactly on the actions that decode. -/
theorem wrapAction_isOk_iff {action : WireAction} {id : Nat} {transaction : NearTransaction} :
    (∃ a, wrapAction action id transaction = .ok a) ↔ action.decodes = true := by
  by_cases hc : action = .str "CreateAccount"
  · subst hc
    simp [wrapAction, WireAction.decodes, parseNearAction_of_mem _ (by decide : "CreateAccount" ∈ nearActionTypes)]
  have hne : (action == .str "CreateAccount") = false := by simpa using hc
  unfold wrapAction WireAction.decodes
  rw [if_neg hc, hne, Bool.false_or]
  rcases action.firstProperty with _ | ⟨type, value⟩
  · simp
  · by_cases ht : type ∈ nearActionTypes
    · simp [parseNearAction_of_mem _ ht, ht]
    · simp [parseNearAction_of_not_mem _ ht, ht]

/-- **`wrapAction` undoes the encoding of an action and rejects everything else.** For
every index and transaction: each of the eight tags with any payload, as the one key of
an object, is decoded to `{ id, type, action, transaction }`; the bare string
`"CreateAccount"` is read as `{ CreateAccount: {} }`; every other string, and every object
whose first key is not a tag, is rejected with `parseNearAction`'s error. -/
theorem wrapAction_inverts_action_encoding (id : Nat) (transaction : NearTransaction) :
    (∀ type ∈ nearActionTypes, ∀ payload : String,
      wrapAction (.obj [(type, payload)]) id transaction = .ok ⟨id, type, payload, transaction⟩) ∧
    wrapAction (.str "CreateAccount") id transaction =
      wrapAction (.obj [("CreateAccount", "{}")]) id transaction ∧
    (∀ s, s ≠ "CreateAccount" →
      wrapAction (.str s) id transaction = .error invalidNearActionType) ∧
    (∀ properties : List (String × String),
      (∀ t ∈ nearActionTypes, properties.head?.map Prod.fst ≠ some t) →
      wrapAction (.obj properties) id transaction = .error invalidNearActionType) := by
  refine ⟨fun type htype payload => ?_, ?_, fun s hs => wrapAction_str_of_ne id transaction hs,
    fun properties h => wrapAction_obj_of_not_tag id transaction h⟩
  · rw [wrapAction_obj_cons, parseNearAction_of_mem _ htype]
    rfl
  · rw [wrapAction_obj_cons]
    simp [wrapAction]

/-! ### The RPC's answers -/

/-- `Transaction` of the RPC, as a chunk lists it. -/
structure Transaction where
  hash : String
  signer_id : String
  receiver_id : String
  nonce : Int
  public_key : String
  signature : String
  actions : List WireAction
  deriving DecidableEq, Repr

/-- `ChunkResult`, with the transactions and receipts `wrapBlock` reads. -/
structure ChunkResult where
  transactions : List Transaction
  receipts : List String
  deriving DecidableEq, Repr

/-- The `outcome` of an execution outcome, with the logs and burnt gas `wrapTransaction`
reads. -/
structure ExecutionOutcome where
  logs : List String
  gas_burnt : Nat
  deriving DecidableEq, Repr

/-- `ExecutionOutcomeWithId`. -/
structure ExecutionOutcomeWithId where
  id : String
  outcome : ExecutionOutcome
  deriving DecidableEq, Repr

/-- `FinalExecutionOutcome`, with the transaction outcome `wrapTransaction` reads. -/
structure FinalExecutionOutcome where
  transaction_outcome : ExecutionOutcomeWithId
  deriving DecidableEq, Repr

/-- `BlockResult`: the RPC's answer for a block. -/
structure BlockResult where
  author : String
  header : BlockHeader
  chunks : List ChunkHeader
  deriving DecidableEq, Repr

/-- The calls of `JsonRpcProvider` that fetching and wrapping blocks make, as fixed
answers, each of which may reject: `chunk` by chunk hash, `txStatusReceipts` by transaction
hash and signer, and `block` by height. -/
structure JsonRpcProvider where
  chunk : String → Except String ChunkResult
  txStatusReceipts : String → String → Except String FinalExecutionOutcome
  block : Int → Except String BlockResult

/-- A provider whose `chunk` and `txStatusReceipts` calls always answer: fixed functions of
their arguments. -/
structure FixedRpc where
  chunk : String → ChunkResult
  txStatusReceipts : String → String → FinalExecutionOutcome
  block : Int → Except String BlockResult

/-- The provider that answers as a `FixedRpc` does. -/
def FixedRpc.toProvider (api : FixedRpc) : JsonRpcProvider where
  chunk hash := .ok (api.chunk hash)
  txStatusReceipts hash signer := .ok (api.txStatusReceipts hash signer)
  block := api.block

/-! ### Wrapping a block -/

/-- The object `wrapTransaction` returns: the RPC transaction, spread, with the block's gas
price, hash, height and timestamp, and the gas burnt, id and logs of its execution
outcome. -/
def wrappedTransaction (block : BlockResult) (txn : Transaction)
    (exectuionOutcome : FinalExecutionOutcome) : NearTransaction :=
  { hash := txn.hash
    signer_id := txn.signer_id
    receiver_id := txn.receiver_id
    nonce := txn.nonce
    public_key := txn.public_key
    signature := txn.signature
    actions := txn.actions
    gas_price := block.header.gas_price
    gas_used := toString exectuionOutcome.transaction_outcome.outcome.gas_burnt
    block_hash := block.header.hash
    block_height := block.header.height
    timestamp := block.header.timestamp
    result :=
      { id := exectuionOutcome.transaction_outcome.id
        logs := exectuionOutcome.transaction_outcome.outcome.logs } }

/-- `wrapTransaction`: await the transaction's execution outcome, then wrap the
transaction with it. A rejected `txStatusReceipts` rejects it. -/
def wrapTransaction (api : JsonRpcProvider) (block : BlockResult) (txn : Transaction) :
    Except String NearTransaction := do
  let exectuionOutcome ← api.txStatusReceipts txn.hash txn.signer_id
  pure (wrappedTransaction block txn exectuionOutcome)

/-- One pass of the inner loop of `wrapBlock`: push the wrapped transaction, then append
its actions, each decoded by `wrapAction` with its index as `id`
(`transaction.actions.map((action, id) => …)`, which throws at the first action
`wrapAction` rejects). -/
def wrapBlockTransaction (api : JsonRpcProvider) (blockResult : BlockResult)
    (nearBlock : NearBlock) (transaction : Transaction) : Except String NearBlock := do
  let wrappedTx ← wrapTransaction api blockResult transaction
  let nearBlock := { nearBlock with transactions := nearBlock.transactions ++ [wrappedTx] }
  let nearActions ← transaction.actions.enum.mapM fun (id, action) =>
    wrapAction action id wrappedTx
  pure { nearBlock with actions := nearBlock.actions ++ nearActions }

/-- One pass of the outer loop of `wrapBlock`: await the chunk, run the inner loop over
its transactions, then append its receipts. -/
def wrapBlockChunk (api : JsonRpcProvider) (blockResult : BlockResult)
    (nearBlock : NearBlock) (chunk : ChunkHeader) : Except String NearBlock := do
  let chunkResult ← api.chunk chunk.chunk_hash
  let nearBlock ← chunkResult.transactions.foldlM (wrapBlockTransaction api blockResult)
    nearBlock
  pure { nearBlock with receipts := nearBlock.receipts ++ chunkResult.receipts }

/-- `wrapBlock`: the RPC block with empty transactions, actions and receipts, filled chunk
by chunk. -/
def wrapBlock (api : JsonRpcProvider) (blockResult : BlockResult) : Except String NearBlock :=
  blockResult.chunks.foldlM (wrapBlockChunk api blockResult)
    { author := blockResult.author
      header := blockResult.header
      chunks := blockResult.chunks
      transactions := []
      actions := []
      receipts := [] }

/-- What the inner loop makes of the actions of one transaction, in order: the `id`-th
action decoded by `wrapAction` with `id` and the wrapped transaction, or the rejection of
the transaction's status call, which comes before them. -/
def wrappedActions (api : JsonRpcProvider) (blockResult : BlockResult)
    (transaction : Transaction) : List (Except String NearAction) :=
  match wrapTransaction api blockResult transaction with
  | .ok wrappedTx =>
    transaction.actions.enum.map fun (id, action) => wrapAction action id wrappedTx
  | .error e => [.error e]

/-- A block extended by some transactions, actions and receipts. -/
def NearBlock.extend (nearBlock : NearBlock) (transactions : List NearTransaction)
    (actions : List NearAction) (receipts : List String) : NearBlock :=
  { nearBlock with
    transactions := nearBlock.transactions ++ transactions
    actions := nearBlock.actions ++ actions
    receipts := nearBlock.receipts ++ receipts }

@[simp] theorem NearBlock.extend_nil (nearBlock : NearBlock) :
    nearBlock.extend [] [] [] = nearBlock := by
  simp [NearBlock.extend]

@[simp] theorem NearBlock.extend_extend (nearBlock : NearBlock) (t₁ t₂ : List NearTransaction)
    (a₁ a₂ : List NearAction) (r₁ r₂ : List String) :
    (nearBlock.extend t₁ a₁ r₁).extend t₂ a₂ r₂ = nearBlock.extend (t₁ ++ t₂) (a₁ ++ a₂) (r₁ ++ r₂) := by
  simp [NearBlock.extend]

/-- A `FixedRpc` answers the call for each chunk with the chunk it names. -/
theorem FixedRpc.map_chunk (api : FixedRpc) (chunks : List ChunkHeader) :
    chunks.map (fun c => api.toProvider.chunk c.chunk_hash) =
      (chunks.map fun c => api.chunk c.chunk_hash).map .ok := by
  rw [List.map_map]
  rfl

/-- A `FixedRpc` answers the status call for each transaction, so `wrapTransaction` wraps
it with the outcome the RPC names. -/
theorem FixedRpc.map_wrapTransaction (api : FixedRpc) (blockResult : BlockResult)
    (transactions : List Transaction) :
    transactions.map (wrapTransaction api.toProvider blockResult) =
      (transactions.map fun t =>
        wrappedTransaction blockResult t (api.txStatusReceipts t.hash t.signer_id)).map .ok := by
  rw [List.map_map]
  rfl

/-- Two lists of results are equal exactly when their `Except` images are. -/
theorem map_ok_inj {ε β : Type} {xs ys : List β} :
    xs.map (Except.ok (ε := ε)) = ys.map .ok ↔ xs = ys :=
  (List.map_injective_iff.mpr fun _ _ h => Except.ok.inj h).eq_iff

section Loops

variable (api : JsonRpcProvider) (blockResult : BlockResult)

/-- `wrapTransaction` returns exactly when the transaction's status call answers. -/
theorem wrapTransaction_eq_ok {transaction : Transaction} {wrappedTx : NearTransaction} :
    wrapTransaction api blockResult transaction = .ok wrappedTx ↔
      ∃ outcome, api.txStatusReceipts transaction.hash transaction.signer_id = .ok outcome ∧
        wrappedTransaction blockResult transaction outcome = wrappedTx := by
  simp only [wrapTransaction, bind_eq_ok, pure, Except.pure, Except.ok.injEq]

/-- A wrapped transaction keeps the wire actions of the transaction. -/
theorem actions_of_wrapTransaction {transaction : Transaction} {wrappedTx : NearTransaction}
    (h : wrapTransaction api blockResult transaction = .ok wrappedTx) :
    wrappedTx.actions = transaction.actions := by
  obtain ⟨_, -, rfl⟩ := (wrapTransaction_eq_ok api blockResult).mp h
  rfl

theorem wrappedActions_of_ok {transaction : Transaction} {wrappedTx : NearTransaction}
    (h : wrapTransaction api blockResult transaction = .ok wrappedTx) :
    wrappedActions api blockResult transaction =
      transaction.actions.enum.map fun (id, action) => wrapAction action id wrappedTx := by
  simp only [wrappedActions, h]

/-- One transaction: the inner loop's body returns exactly when the transaction's status
call answers and all of its actions decode, and then adds the wrapped transaction and the
decoded actions. -/
theorem wrapBlockTransaction_eq_ok {nearBlock nearBlock' : NearBlock} {transaction : Transaction} :
    wrapBlockTransaction api blockResult nearBlock transaction = .ok nearBlock' ↔
      ∃ wrappedTx actions, wrapTransaction api blockResult transaction = .ok wrappedTx ∧
        actions.map .ok = wrappedActions api blockResult transaction ∧
        nearBlock' = nearBlock.extend [wrappedTx] actions [] := by
  simp only [wrapBlockTransaction, bind_eq_ok, mapM_eq_ok_iff, pure, Except.pure, Except.ok.injEq]
  constructor
  · rintro ⟨w, hw, actions, hactions, rfl⟩
    exact ⟨w, actions, hw, (wrappedActions_of_ok api blockResult hw).symm ▸ hactions,
      by simp [NearBlock.extend]⟩
  · rintro ⟨w, actions, hw, hactions, rfl⟩
    exact ⟨w, hw, actions, wrappedActions_of_ok api blockResult hw ▸ hactions,
      by simp [NearBlock.extend]⟩

/-- The inner loop over a chunk's transactions. -/
theorem foldlM_wrapBlockTransaction_eq_ok {transactions : List Transaction} :
    ∀ {nearBlock nearBlock' : NearBlock},
      transactions.foldlM (wrapBlockTransaction api blockResult) nearBlock = .ok nearBlock' ↔
      ∃ wrappedTxs actions,
        wrappedTxs.map .ok = transactions.map (wrapTransaction api blockResult) ∧
        actions.map .ok = transactions.flatMap (wrappedActions api blockResult) ∧
        nearBlock' = nearBlock.extend wrappedTxs actions [] := by
  induction transactions with
  | nil => simp [pure, Except.pure, eq_comm]
  | cons t ts ih =>
    intro nearBlock nearBlock'
    simp only [List.foldlM_cons, bind_eq_ok, ih, wrapBlockTransaction_eq_ok, List.flatMap_cons,
      List.map_cons, List.map_eq_cons_iff, List.map_eq_append_iff]
    constructor
    · rintro ⟨_, ⟨w, a₁, hw, h₁, rfl⟩, ws, a₂, hws, h₂, rfl⟩
      exact ⟨w :: ws, a₁ ++ a₂, ⟨w, ws, rfl, hw.symm, hws⟩, ⟨a₁, a₂, rfl, h₁, h₂⟩, by simp⟩
    · rintro ⟨_, _, ⟨w, ws, rfl, hw, hws⟩, ⟨a₁, a₂, rfl, h₁, h₂⟩, rfl⟩
      exact ⟨_, ⟨w, a₁, hw.symm, h₁, rfl⟩, ws, a₂, hws, h₂, by simp⟩

/-- One chunk: the chunk call, the inner loop, then the chunk's receipts. -/
theorem wrapBlockChunk_eq_ok {nearBlock nearBlock' : NearBlock} {chunk : ChunkHeader} :
    wrapBlockChunk api blockResult nearBlock chunk = .ok nearBlock' ↔
      ∃ chunkResult, api.chunk chunk.chunk_hash = .ok chunkResult ∧
        ∃ wrappedTxs actions,
          wrappedTxs.map .ok = chunkResult.transactions.map (wrapTransaction api blockResult) ∧
          actions.map .ok = chunkResult.transactions.flatMap (wrappedActions api blockResult) ∧
          nearBlock' = nearBlock.extend wrappedTxs actions chunkResult.receipts := by
  simp only [wrapBlockChunk, bind_eq_ok, foldlM_wrapBlockTransaction_eq_ok, pure, Except.pure,
    Except.ok.injEq]
  constructor
  · rintro ⟨cr, hcr, _, ⟨ws, a, hws, ha, rfl⟩, rfl⟩
    exact ⟨cr, hcr, ws, a, hws, ha, by simp [NearBlock.extend]⟩
  · rintro ⟨cr, hcr, ws, a, hws, ha, rfl⟩
    exact ⟨cr, hcr, _, ⟨ws, a, hws, ha, rfl⟩, by simp [NearBlock.extend]⟩

/-- The outer loop over the chunks of a block: every chunk call answers, and the inner
loops run over the transactions of the answers, in chunk order. -/
theorem foldlM_wrapBlockChunk_eq_ok {chunks : List ChunkHeader} :
    ∀ {nearBlock nearBlock' : NearBlock},
      chunks.foldlM (wrapBlockChunk api blockResult) nearBlock = .ok nearBlock' ↔
      ∃ chunkResults : List ChunkResult,
        chunkResults.map .ok = chunks.map (fun c => api.chunk c.chunk_hash) ∧
        ∃ wrappedTxs actions, wrappedTxs.map .ok =
            (chunkResults.flatMap (·.transactions)).map (wrapTransaction api blockResult) ∧
          actions.map .ok =
            (chunkResults.flatMap (·.transactions)).flatMap (wrappedActions api blockResult) ∧
          nearBlock' = nearBlock.extend wrappedTxs actions (chunkResults.flatMap (·.receipts)) := by
  induction chunks with
  | nil => simp [pure, Except.pure, eq_comm]
  | cons c cs ih =>
    intro nearBlock nearBlock'
    simp only [List.foldlM_cons, bind_eq_ok, ih, wrapBlockChunk_eq_ok, List.map_cons,
      List.map_eq_cons_iff]
    constructor
    · rintro ⟨_, ⟨cr, hcr, w₁, a₁, hw₁, h₁, rfl⟩, crs, hcrs, w₂, a₂, hw₂, h₂, rfl⟩
      exact ⟨cr :: crs, ⟨cr, crs, rfl, hcr.symm, hcrs⟩, w₁ ++ w₂, a₁ ++ a₂,
        by simp [hw₁, hw₂], by simp [h₁, h₂], by simp⟩
    · rintro ⟨_, ⟨cr, crs, rfl, hcr, hcrs⟩, ws, as, hws, has, rfl⟩
      rw [List.flatMap_cons, List.map_append, List.map_eq_append_iff] at hws
      rw [List.flatMap_cons, List.flatMap_append, List.map_eq_append_iff] at has
      obtain ⟨w₁, w₂, rfl, hw₁, hw₂⟩ := hws
      obtain ⟨a₁, a₂, rfl, h₁, h₂⟩ := has
      exact ⟨_, ⟨cr, hcr.symm, w₁, a₁, hw₁, h₁, rfl⟩, crs, hcrs, w₂, a₂, hw₂, h₂, by simp⟩

/-- The whole block: `wrapBlock` returns exactly when every chunk call and every status
call answers and every action of the answered transactions decodes, and then holds the
wrapped transactions, the decoded actions and the receipts of the answered chunks. -/
theorem wrapBlock_eq_ok {nearBlock : NearBlock} :
    wrapBlock api blockResult = .ok nearBlock ↔
      ∃ chunkResults : List ChunkResult,
        chunkResults.map .ok = blockResult.chunks.map (fun c => api.chunk c.chunk_hash) ∧
        ∃ wrappedTxs actions, wrappedTxs.map .ok =
            (chunkResults.flatMap (·.transactions)).map (wrapTransaction api blockResult) ∧
          actions.map .ok =
            (chunkResults.flatMap (·.transactions)).flatMap (wrappedActions api blockResult) ∧
          nearBlock =
            { author := blockResult.author
              header := blockResult.header
              chunks := blockResult.chunks
              transactions := wrappedTxs
              actions := actions
              receipts := chunkResults.flatMap (·.receipts) } := by
  rw [wrapBlock, foldlM_wrapBlockChunk_eq_ok]
  simp [NearBlock.extend]

/-- The decoded actions of one transaction all return exactly when its status call
answers and each of its wire actions decodes. -/
theorem forall_wrappedActions_ok_iff_of_mem (transaction : Transaction) :
    (∀ x ∈ wrappedActions api blockResult transaction, ∃ y, x = .ok y) ↔
      (∃ outcome, api.txStatusReceipts transaction.hash transaction.signer_id = .ok outcome) ∧
        ∀ a ∈ transaction.actions, a.decodes = true := by
  rcases hw : wrapTransaction api blockResult transaction with e | w
  · have hno : ¬∃ outcome,
        api.txStatusReceipts transaction.hash transaction.signer_id = .ok outcome :=
      fun ⟨o, ho⟩ => by simp [wrapTransaction, ho, bind, Except.bind, pure, Except.pure] at hw
    simp [wrappedActions, hw, hno]
  · obtain ⟨o, ho, -⟩ := (wrapTransaction_eq_ok api blockResult).mp hw
    simp only [wrappedActions_of_ok api blockResult hw, List.mem_map, Prod.exists]
    refine ⟨fun h => ⟨⟨o, ho⟩, fun a ha => ?_⟩, ?_⟩
    · obtain ⟨⟨id, a'⟩, hmem, rfl⟩ : ∃ p ∈ transaction.actions.enum, p.2 = a :=
        List.mem_map.mp ((List.enum_map_snd transaction.actions).symm ▸ ha)
      exact wrapAction_isOk_iff.mp (h _ ⟨id, a', hmem, rfl⟩)
    · rintro ⟨-, h⟩ _ ⟨id, a, hmem, rfl⟩
      exact wrapAction_isOk_iff.mpr (h a (List.snd_mem_of_mem_enum hmem))

/-- Every decoded action of some transactions returns exactly when each transaction's
status call answers and each of its wire actions decodes. -/
theorem forall_wrappedActions_ok_iff {transactions : List Transaction} :
    (∀ x ∈ transactions.flatMap (wrappedActions api blockResult), ∃ y, x = .ok y) ↔
      ∀ t ∈ transactions,
        (∃ outcome, api.txStatusReceipts t.hash t.signer_id = .ok outcome) ∧
          ∀ a ∈ t.actions, a.decodes = true := by
  simp only [List.mem_flatMap]
  exact ⟨fun h t ht => (forall_wrappedActions_ok_iff_of_mem api blockResult t).mp
      fun x hx => h x ⟨t, ht, hx⟩,
    fun h x ⟨t, ht, hx⟩ => (forall_wrappedActions_ok_iff_of_mem api blockResult t).mpr (h t ht) x hx⟩

/-- `wrapBlock` returns exactly when every chunk call answers, and every status call of the
answered transactions answers and each of their wire actions decodes. -/
theorem wrapBlock_isOk_iff :
    (∃ nearBlock, wrapBlock api blockResult = .ok nearBlock) ↔
      ∃ chunkResults : List ChunkResult,
        chunkResults.map .ok = blockResult.chunks.map (fun c => api.chunk c.chunk_hash) ∧
        ∀ t ∈ chunkResults.flatMap (·.transactions),
          (∃ outcome, api.txStatusReceipts t.hash t.signer_id = .ok outcome) ∧
            ∀ a ∈ t.actions, a.decodes = true := by
  constructor
  · rintro ⟨_, h⟩
    obtain ⟨crs, hcrs, _, actions, -, hactions, -⟩ := (wrapBlock_eq_ok api blockResult).mp h
    exact ⟨crs, hcrs, (forall_wrappedActions_ok_iff api blockResult).mp
      (exists_map_ok_iff.mp ⟨actions, hactions⟩)⟩
  · rintro ⟨crs, hcrs, hall⟩
    obtain ⟨actions, hactions⟩ :=
      exists_map_ok_iff.mpr ((forall_wrappedActions_ok_iff api blockResult).mpr hall)
    obtain ⟨wrappedTxs, hws⟩ := exists_map_ok_iff.mpr <| List.forall_mem_map.mpr fun t ht =>
      have ⟨o, ho⟩ := (hall t ht).1
      ⟨_, (wrapTransaction_eq_ok api blockResult).mpr ⟨o, ho, rfl⟩⟩
    exact ⟨_, (wrapBlock_eq_ok api blockResult).mpr ⟨crs, hcrs, wrappedTxs, actions, hws, hactions, rfl⟩⟩

/-- The decoded actions of some transactions whose status calls answered are as many as
their wire actions. -/
theorem length_flatMap_wrappedActions {transactions : List Transaction}
    {wrappedTxs : List NearTransaction}
    (hws : wrappedTxs.map .ok = transactions.map (wrapTransaction api blockResult)) :
    (transactions.flatMap (wrappedActions api blockResult)).length =
      (wrappedTxs.map (·.actions.length)).sum := by
  induction transactions generalizing wrappedTxs with
  | nil => rw [List.map_nil, List.map_eq_nil_iff] at hws; simp [hws]
  | cons t ts ih =>
    obtain ⟨w, ws, rfl, hw, hws⟩ := List.map_eq_cons_iff.mp hws
    rw [List.flatMap_cons, List.length_append, wrappedActions_of_ok api blockResult hw.symm, ih hws]
    simp [actions_of_wrapTransaction api blockResult hw.symm]

end Loops

/-- **`wrapBlock` flattens a block whose actions all decode, and rejects any other**, for an
RPC whose chunk and status answers are fixed functions. It returns exactly when every wire
action of every transaction of the block's chunks decodes. When it returns, its
transactions are the chunks' transactions in chunk order, each wrapped with the block's
hash, height and timestamp and its execution outcome; its actions are, transaction by
transaction, the `id`-th wire action decoded by `wrapAction` with `id` and the wrapped
transaction; its receipts are the chunks' receipts in order; and it has as many actions as
its transactions carry. -/
theorem wrapBlock_flattens_decodable_blocks (api : FixedRpc) (blockResult : BlockResult) :
    let transactions := blockResult.chunks.flatMap fun c => (api.chunk c.chunk_hash).transactions
    let wrap := fun t : Transaction =>
      wrappedTransaction blockResult t (api.txStatusReceipts t.hash t.signer_id)
    ((∃ nearBlock, wrapBlock api.toProvider blockResult = .ok nearBlock) ↔
        ∀ t ∈ transactions, ∀ a ∈ t.actions, a.decodes = true) ∧
    ∀ nearBlock, wrapBlock api.toProvider blockResult = .ok nearBlock →
      nearBlock.transactions = transactions.map wrap ∧
      (∀ t ∈ nearBlock.transactions, t.block_hash = blockResult.header.hash ∧
        t.block_height = blockResult.header.height ∧
        t.timestamp = blockResult.header.timestamp) ∧
      nearBlock.actions.map .ok = (transactions.flatMap fun t =>
        t.actions.enum.map fun (id, action) => wrapAction action id (wrap t)) ∧
      nearBlock.receipts = (blockResult.chunks.flatMap fun c => (api.chunk c.chunk_hash).receipts) ∧
      nearBlock.actions.length = (nearBlock.transactions.map (·.actions.length)).sum := by
  intro transactions wrap
  have htxs : (blockResult.chunks.map fun c => api.chunk c.chunk_hash).flatMap (·.transactions) =
      transactions := by
    simp [transactions, List.flatMap_map]
  refine ⟨?_, fun nearBlock h => ?_⟩
  · rw [wrapBlock_isOk_iff]
    simp only [FixedRpc.map_chunk, map_ok_inj, exists_eq_left, htxs]
    exact forall₂_congr fun t _ => ⟨And.right, fun h => ⟨⟨_, rfl⟩, h⟩⟩
  obtain ⟨crs, hcrs, ws, actions, hws, hactions, rfl⟩ := (wrapBlock_eq_ok _ _).mp h
  obtain rfl := map_ok_inj.mp (hcrs.trans (api.map_chunk _))
  rw [htxs] at hws hactions
  obtain rfl : ws = transactions.map wrap := map_ok_inj.mp (hws.trans (api.map_wrapTransaction _ _))
  refine ⟨rfl, ?_, hactions, by simp [List.flatMap_map], ?_⟩
  · simp only [List.mem_map]
    rintro _ ⟨t, -, rfl⟩
    exact ⟨rfl, rfl, rfl⟩
  · rw [← List.length_map actions Except.ok, hactions,
      length_flatMap_wrappedActions _ _ hws]

/-- A relayed meta transaction: one chunk, whose one transaction carries the `Delegate`
action of NEAR's meta transactions. -/
def delegateBlock : BlockResult :=
  { author := "validator.near"
    header :=
      { height := 100
        hash := "block100"
        timestamp := 1700000000000000000
        gas_price := "100000000" }
    chunks := [{ chunk_hash := "chunk100" }] }

/-- The RPC's answers for `delegateBlock`. -/
def delegateRpc : FixedRpc where
  chunk _ :=
    { transactions :=
        [{ hash := "tx1"
           signer_id := "relayer.near"
           receiver_id := "alice.near"
           nonce := 1
           public_key := "ed25519:relayer"
           signature := "ed25519:sig"
           actions := [.obj [("Delegate", "{}")]] }]
      receipts := [] }
  txStatusReceipts _ _ := { transaction_outcome := { id := "tx1", outcome := ⟨[], 0⟩ } }
  block _ := .ok delegateBlock

/-- **A block with a `Delegate` action is not wrapped**: `wrapBlock` throws
`parseNearAction`'s error instead of returning the block. -/
theorem wrapBlock_rejects_delegate_action :
    wrapBlock delegateRpc.toProvider delegateBlock = .error invalidNearActionType := rfl

/-- What a decoded action is: the action of one of the eight tags, at its position in the
transaction it was decoded with. -/
theorem wrapAction_eq_ok {action : WireAction} {id : Nat} {transaction : NearTransaction}
    {a : NearAction} (h : wrapAction action id transaction = .ok a) :
    a.type ∈ nearActionTypes ∧ a.id = id ∧ a.transaction = transaction := by
  unfold wrapAction at h
  split at h
  · rw [parseNearAction_of_mem _ (by decide)] at h
    cases h
    exact ⟨(by decide : "CreateAccount" ∈ nearActionTypes), rfl, rfl⟩
  · split at h
    · rename_i type value _
      unfold parseNearAction at h
      split at h
      · cases h
        exact ⟨‹_›, rfl, rfl⟩
      · cases h
    · cases h

/-- **Every action of a wrapped block is well formed**: its type is one of the eight tags,
its transaction is one of the block's transactions, and its `id` is its position among
that transaction's wire actions. -/
theorem wrapBlock_actions_well_formed (api : JsonRpcProvider) (blockResult : BlockResult)
    (nearBlock : NearBlock) (h : wrapBlock api blockResult = .ok nearBlock) :
    ∀ a ∈ nearBlock.actions, a.type ∈ nearActionTypes ∧ a.transaction ∈ nearBlock.transactions ∧
      a.id < a.transaction.actions.length := by
  obtain ⟨crs, -, ws, actions, hws, hactions, rfl⟩ := (wrapBlock_eq_ok api blockResult).mp h
  intro a ha
  have hmem : Except.ok a ∈ (crs.flatMap (·.transactions)).flatMap
      (wrappedActions api blockResult) := hactions ▸ List.mem_map_of_mem _ ha
  obtain ⟨t, ht, hwrapped⟩ := List.mem_flatMap.mp hmem
  rcases hw : wrapTransaction api blockResult t with e | w
  · simp [wrappedActions, hw] at hwrapped
  rw [wrappedActions_of_ok api blockResult hw] at hwrapped
  obtain ⟨⟨id, action⟩, henum, hok⟩ := List.mem_map.mp hwrapped
  obtain ⟨htype, hid, htx⟩ := wrapAction_eq_ok hok
  -- the wrapped transaction is the one the block holds for `t`
  have hw_mem : w ∈ ws := by
    have := List.mem_map_of_mem (wrapTransaction api blockResult) ht
    rw [← hws, hw] at this
    simpa using this
  refine ⟨htype, htx ▸ hw_mem, ?_⟩
  rw [htx, hid, actions_of_wrapTransaction api blockResult hw]
  exact List.fst_lt_of_mem_enum henum

/-- The answers of `delegateRpc` with the relayed transaction replaced by one that creates
an account, as the bare string `"CreateAccount"`, and makes a transfer. -/
def accountRpc : FixedRpc :=
  { delegateRpc with
    chunk := fun _ =>
      { transactions :=
          [{ hash := "tx1"
             signer_id := "relayer.near"
             receiver_id := "alice.near"
             nonce := 1
             public_key := "ed25519:relayer"
             signature := "ed25519:sig"
             actions := [.str "CreateAccount", .obj [("Transfer", "{}")]] }]
        receipts := [] } }

/-- `delegateBlock` under `accountRpc` is wrapped, and its actions are well formed. -/
theorem account_block_actions_well_formed :
    ∃ nearBlock, wrapBlock accountRpc.toProvider delegateBlock = .ok nearBlock ∧
      ∀ a ∈ nearBlock.actions, a.type ∈ nearActionTypes ∧
        a.transaction ∈ nearBlock.transactions ∧ a.id < a.transaction.actions.length :=
  ⟨_, rfl, wrapBlock_actions_well_formed accountRpc.toProvider delegateBlock _ rfl⟩

/-! ### Fetching a batch of blocks -/

/-- `BlockContent` as `fetchBlocksBatches` builds it (its `logs` are `null`). -/
structure BlockContent where
  block : NearBlock
  transactions : List NearTransaction
  actions : List NearAction
  deriving DecidableEq, Repr

/-- `fetchBlocksBatches`: fetch every block of the batch by height (`getBlockByHeight`
under `Promise.all`), then wrap each one. One rejection rejects the batch. -/
def fetchBlocksBatches (api : JsonRpcProvider) (blockArray : List Int) :
    Except String (List BlockContent) := do
  let blocks ← blockArray.mapM api.block
  blocks.mapM fun blockResult => do
    let block ← wrapBlock api blockResult
    pure { block := block, transactions := block.transactions, actions := block.actions }

/-- **A batch is fetched only when every call answers and every action decodes.**
`fetchBlocksBatches` returns exactly when, for each height, the block call answers, the
call for each of the block's chunks answers, and for each transaction of the answered
chunks the status call answers and every wire action decodes: one rejected call, or one
block with, say, a `Delegate` action, fails the batch. -/
theorem fetchBlocksBatches_isOk_iff (api : JsonRpcProvider) (blockArray : List Int) :
    (∃ contents, fetchBlocksBatches api blockArray = .ok contents) ↔
      ∀ height ∈ blockArray, ∃ blockResult, api.block height = .ok blockResult ∧
        ∃ chunkResults : List ChunkResult,
          chunkResults.map .ok = blockResult.chunks.map (fun c => api.chunk c.chunk_hash) ∧
          ∀ t ∈ chunkResults.flatMap (·.transactions),
            (∃ outcome, api.txStatusReceipts t.hash t.signer_id = .ok outcome) ∧
              ∀ a ∈ t.actions, a.decodes = true := by
  have hwrap : ∀ blockResult, (∃ content, (do
      let block ← wrapBlock api blockResult
      pure { block := block, transactions := block.transactions, actions := block.actions } :
        Except String BlockContent) = .ok content) ↔
      ∃ nearBlock, wrapBlock api blockResult = .ok nearBlock :=
    fun blockResult => by
      simp only [bind_eq_ok, pure, Except.pure, Except.ok.injEq]
      exact ⟨fun ⟨_, nb, h, _⟩ => ⟨nb, h⟩, fun ⟨nb, h⟩ => ⟨_, nb, h, rfl⟩⟩
  simp only [wrapBlock_isOk_iff] at hwrap
  simp only [fetchBlocksBatches, bind_eq_ok]
  constructor
  · rintro ⟨_, blocks, hblocks, hcontents⟩ height hh
    obtain ⟨blockResult, hb, hfetch⟩ := mapM_ok_result hblocks hh
    exact ⟨blockResult, hfetch, (hwrap blockResult).mp (mapM_isOk_iff.mp ⟨_, hcontents⟩ _ hb)⟩
  · intro h
    obtain ⟨blocks, hblocks⟩ := mapM_isOk_iff.mpr fun height hh =>
      (h height hh).imp fun _ hb => hb.1
    obtain ⟨contents, hcontents⟩ := mapM_isOk_iff.mpr fun blockResult hb => by
      obtain ⟨height, hh, hfetch⟩ := mapM_ok_source hblocks hb
      obtain ⟨blockResult', hfetch', hcalls⟩ := h height hh
      obtain rfl : blockResult' = blockResult := Except.ok.inj (hfetch'.symm.trans hfetch)
      exact (hwrap blockResult').mpr hcalls
    exact ⟨contents, blocks, hblocks, hcontents⟩

end NearIndexer
