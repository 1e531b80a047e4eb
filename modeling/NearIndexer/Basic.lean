import Mathlib.Data.List.Basic

/-!
# The Data Model of the NEAR Indexer

This module fixes the shapes that the fetch scheduler, the filter engine and the worker
read: handler filters, runtime and custom handlers, datasources with their processors,
dictionary query entries, and the unified block with its transactions, actions and
receipts, as `wrapBlock` assembles it from the RPC's answers.

The shapes follow `@subql/types-near` and the validated manifest classes of
`@subql/common-near`, restricted to the fields that a modelled function reads. JSON values
that the engine only passes through (an action payload, a custom handler's filter values)
are kept as their text. Two invariants of the TypeScript types are carried by
construction:

* a runtime datasource holds only the three base handler kinds, each with a filter of its
  own kind (`NearRuntimeHandler`);
* the `baseFilter` of a second-layer handler processor has the shape of its
  `baseHandlerKind` (`BaseFilter`), as `RuntimeFilterMap[K] | RuntimeFilterMap[K][]`
  requires.
-/

namespace NearIndexer

/-- `NearHandlerKind`: the base handler kinds of a runtime datasource. -/
inductive NearHandlerKind where
  | block
  | transaction
  | action
  deriving DecidableEq, Repr

/-- The manifest string of each base handler kind. -/
def NearHandlerKind.toString : NearHandlerKind → String
  | .block => "Near/BlockHandler"
  | .transaction => "Near/TransactionHandler"
  | .action => "Near/ActionHandler"

/-- `isBaseHandler`: a handler kind string names one of the base handler kinds. -/
def isBaseHandlerKind (kind : String) : Bool :=
  kind == "Near/BlockHandler" || kind == "Near/TransactionHandler" ||
    kind == "Near/ActionHandler"

/-! ### The network -/

/-- The fields of the project's `network` that the modelled code reads: the endpoints, the
declared `chainId` and `genesisHash`, the dictionary's URL, and `bypassBlocks` as
`transformBypassBlocks` expands it. -/
structure NetworkConfig where
  endpoint : List String := []
  chainId : Option String := none
  genesisHash : Option String := none
  dictionary : Option String
  bypassBlocks : Option (List Int)

/-! ### Filters -/

/-- `NearBlockFilter`; the cron string of `timestamp` is kept as text. -/
structure NearBlockFilter where
  modulo : Option Int := none
  timestamp : Option String := none
  deriving DecidableEq, Repr

/-- `NearTransactionFilter`. -/
structure NearTransactionFilter where
  sender : Option String := none
  receiver : Option String := none
  deriving DecidableEq, Repr

/-- `NearActionFilter`; the `action` payload is kept as its JSON text. -/
structure NearActionFilter where
  type : Option String := none
  action : Option String := none
  deriving DecidableEq, Repr

/-- `filter | filter[]`, the shape of the filter argument of the array filters. -/
inductive FilterOrFilters (α : Type) where
  | one (filter : α)
  | many (filters : List α)
  deriving DecidableEq, Repr

/-! ### Dictionary query entries -/

/-- `DictionaryQueryCondition`. `matcher` is `'equalTo'` when this package builds it. -/
structure DictionaryQueryCondition where
  field : String
  value : String
  matcher : Option String
  deriving DecidableEq, Repr

/-- `DictionaryQueryEntry`: an entity of the dictionary and the conditions on its rows. -/
structure DictionaryQueryEntry where
  entity : String
  conditions : List DictionaryQueryCondition
  deriving DecidableEq, Repr

/-! ### Handlers and datasources -/

/-- A handler of a runtime datasource: its kind and its optional filter. The name of the
mapping function is not read by any modelled function. -/
inductive NearRuntimeHandler where
  | block (filter : Option NearBlockFilter)
  | transaction (filter : Option NearTransactionFilter)
  | action (filter : Option NearActionFilter)
  deriving DecidableEq, Repr

/-- The base filters of a handler, one list per kind: `[handler.filter]` for a runtime
handler, `processor.baseFilter` (a single filter as the one-element list) for a custom
one. -/
inductive BaseFilter where
  | block (filters : List NearBlockFilter)
  | transaction (filters : List NearTransactionFilter)
  | action (filters : List NearActionFilter)
  deriving DecidableEq, Repr

/-- The handler kind whose filters a `BaseFilter` holds. -/
def BaseFilter.kind : BaseFilter → NearHandlerKind
  | .block _ => .block
  | .transaction _ => .transaction
  | .action _ => .action

/-- `filterList.length === 0`. -/
def BaseFilter.isEmpty : BaseFilter → Bool
  | .block fs => fs.isEmpty
  | .transaction fs => fs.isEmpty
  | .action fs => fs.isEmpty

/-- `[handler.filter].filter(Boolean)`: the filter list of a runtime handler. -/
def NearRuntimeHandler.filterList : NearRuntimeHandler → BaseFilter
  | .block f => .block f.toList
  | .transaction f => .transaction f.toList
  | .action f => .action f.toList

/-- The kind of a runtime handler. -/
def NearRuntimeHandler.kind : NearRuntimeHandler → NearHandlerKind
  | .block _ => .block
  | .transaction _ => .transaction
  | .action _ => .action

/-- A custom handler's filter, `Record<string, unknown>`, values kept as JSON text. -/
abbrev CustomFilter := List (String × String)

/-- `NearCustomHandler`: a handler kind of the datasource's processor and its filter. -/
structure NearCustomHandler where
  kind : String
  filter : Option CustomFilter
  deriving DecidableEq, Repr

/-- A second-layer handler processor: its base filters (whose shape fixes
`baseHandlerKind`) and its optional `dictionaryQuery`. The datasource argument of
`dictionaryQuery` is the datasource that owns the processor, closed over here. -/
structure SecondLayerHandlerProcessor where
  baseFilter : BaseFilter
  dictionaryQuery : Option (Option CustomFilter → Option DictionaryQueryEntry)

/-- `baseHandlerKind`. -/
def SecondLayerHandlerProcessor.baseHandlerKind (p : SecondLayerHandlerProcessor) :
    NearHandlerKind :=
  p.baseFilter.kind

/-- `NearDatasourceProcessor`, as `getDsProcessor` returns it: its handler processors,
keyed by custom handler kind. -/
structure NearDatasourceProcessor where
  handlerProcessors : List (String × SecondLayerHandlerProcessor)

/-- `plugin.handlerProcessors[kind]`. -/
def NearDatasourceProcessor.lookup (plugin : NearDatasourceProcessor) (kind : String) :
    Option SecondLayerHandlerProcessor :=
  (plugin.handlerProcessors.find? (·.1 == kind)).map (·.2)

/-- A datasource: a runtime datasource (`kind: Near/Runtime`) with its mapping file, or a
custom datasource with its kind and its loaded processor. `startBlock` is the value after
the manifest loader's defaulting. -/
inductive NearDataSource where
  | runtime (startBlock : Int) (file : String) (handlers : List NearRuntimeHandler)
  | custom (kind : String) (startBlock : Int) (handlers : List NearCustomHandler)
      (processor : NearDatasourceProcessor)

namespace NearDataSource

/-- `ds.startBlock`. -/
def startBlock : NearDataSource → Int
  | .runtime s _ _ => s
  | .custom _ s _ _ => s

/-- `isCustomDs`. -/
def isCustom : NearDataSource → Bool
  | .runtime .. => false
  | .custom .. => true

/-- `isRuntimeDataSourceV0_3_0(ds) || isRuntimeDataSourceV0_2_0(ds)`: a runtime
datasource with a mapping file. -/
def isRuntimeDataSource : NearDataSource → Bool
  | .runtime _ file _ => file != ""
  | .custom .. => false

/-- The number of handlers, `ds.mapping.handlers.length`. -/
def handlerCount : NearDataSource → Nat
  | .runtime _ _ hs => hs.length
  | .custom _ _ hs _ => hs.length

end NearDataSource

/-! ### Blocks -/

/-- An action as the RPC sends it inside a transaction: the bare string `"CreateAccount"`
(or any other string), or an object `{ [tag]: payload }`. An object is given by its own
enumerable properties in `Object.keys` order, each value kept as its JSON text. -/
inductive WireAction where
  | str (s : String)
  | obj (properties : List (String × String))
  deriving DecidableEq, Repr

/-- `result` of a wrapped transaction: the id and logs of its execution outcome. -/
structure NearTransactionResult where
  id : String
  logs : List String
  deriving DecidableEq, Repr

/-- `NearTransaction`: the RPC transaction (`hash`, `signer_id`, `receiver_id`, `nonce`,
`public_key`, `signature` and its wire `actions`) with the fields `wrapTransaction` adds
from the block and the execution outcome. -/
structure NearTransaction where
  hash : String
  signer_id : String
  receiver_id : String
  nonce : Int := 0
  public_key : String := ""
  signature : String := ""
  actions : List WireAction := []
  gas_price : String := ""
  gas_used : String := ""
  block_hash : String := ""
  block_height : Int := 0
  timestamp : Int := 0
  result : NearTransactionResult := ⟨"", []⟩
  deriving DecidableEq, Repr

/-- `NearAction`: position in its transaction, tag, payload (as JSON text) and owning
transaction. -/
structure NearAction where
  id : Nat
  type : String
  action : String
  transaction : NearTransaction
  deriving DecidableEq, Repr

/-- `BlockHeader`, with the fields the filters and `wrapTransaction` read. -/
structure BlockHeader where
  height : Int
  hash : String
  timestamp : Int
  gas_price : String
  deriving DecidableEq, Repr

/-- `ChunkHeader`, with the hash `wrapBlock` asks the RPC for. -/
structure ChunkHeader where
  chunk_hash : String
  deriving DecidableEq, Repr

/-- `NearBlock`, the unified block: the RPC block (`author`, `header`, `chunks`) with the
transactions, actions and receipts of its chunks. Receipts are kept as JSON text. -/
structure NearBlock where
  author : String
  header : BlockHeader
  chunks : List ChunkHeader
  transactions : List NearTransaction
  actions : List NearAction
  receipts : List String
  deriving DecidableEq, Repr

end NearIndexer
