import Mathlib.Data.Rat.Floor
import NearIndexer.Modulo
import NearIndexer.QueryEntries

/-!
# The Fetch Scheduler's State

`FetchService` decides which heights the block dispatcher buffers next. This module
fixes its constants (`FetchConfig`), its mutable state together with the parts of its
collaborators it reads (`FetchState`), and the helper methods of the service that the
loop calls: the start height, the scaled batch size, the end of a range, the bypass
filter, the dictionary validation and the `useDictionary` getter.

Three collaborators live in `@subql/node-core`, outside this repository. They are
modelled from the specification:

* the block dispatcher is a queue of buffered heights with a fixed capacity; its
  `freeSize` is the capacity left, `enqueueBlocks(heights, h)` appends the heights and
  sets `latestBufferedHeight` to `h`, and `flushQueue(h)` discards the buffered heights
  from `h` on and sets `latestBufferedHeight` to `h - 1` (§4.7);
* the dictionary service keeps the query map that `updateDictionary` rebuilds, one entry
  list per datasource start block, and answers `getDictionaryQueryEntries(h)` with the
  list of the last start block at or below `h` (§5); `scopedDictionaryEntries` sends a
  query with the list at the query's `queryEndBlock`, a height §5 leaves open, taken from
  node-core;
* the dynamic datasource service returns the datasources created so far.

JS numbers enter at three places where they may leave the integers: `Math.max()` of no
argument is `-Infinity` (`Option Int`, with `none` for it), the dispatcher's
`latestBufferedHeight` starts `undefined` (`BufferedHeight`), and `Math.min()` over no
datasource is `Infinity` (`dictionaryLookupBound`).
-/

namespace NearIndexer

/-! ### Constants -/

/-- The fields of `NodeConfig` the scheduler reads (`scale-batch-size` is
`scaleBatchSize`). -/
structure NodeConfig where
  batchSize : Nat
  unfinalizedBlocks : Bool
  scaleBatchSize : Bool

/-- `SubqueryProject`: its network and its static datasources. -/
structure SubqueryProject where
  network : NetworkConfig
  dataSources : List NearDataSource

/-- What a `FetchService` reads and never writes: the project, the node configuration,
`apiService.genesisHash()`, and the capacity of the dispatcher's queue. -/
structure FetchConfig where
  project : SubqueryProject
  nodeConfig : NodeConfig
  genesisHash : String
  queueCapacity : Nat

/-- `DICTIONARY_MAX_QUERY_SIZE`. -/
def DICTIONARY_MAX_QUERY_SIZE : Int := 10000

/-- `MINIMUM_BATCH_SIZE`. -/
def MINIMUM_BATCH_SIZE : Int := 5

/-! ### Dictionary answers -/

/-- The `_metadata` fields the scheduler reads. -/
structure MetaData where
  lastProcessedHeight : Int
  genesisHash : String
  startHeight : Int
  deriving DecidableEq, Repr

/-- An answer of `scopedDictionaryEntries`. -/
structure Dictionary where
  metadata : MetaData
  batchBlocks : List Int
  deriving DecidableEq, Repr

/-! ### State -/

/-- The dispatcher's `latestBufferedHeight`: `undefined` before the first enqueue,
`-Infinity` after an enqueue whose raw batch was empty, or a height. -/
inductive BufferedHeight where
  | undefined
  | negInfinity
  | height (h : Int)
  deriving DecidableEq, Repr

/-- A `Math.max` result, `none` being `-Infinity`, as a buffered height. -/
def BufferedHeight.ofMax : Option Int → BufferedHeight
  | none => .negInfinity
  | some h => .height h

/-- A `fillNextBlockBuffer` pass suspended on `scopedDictionaryEntries`: the locals it
computed before the `await`, and the query entries the dictionary was asked with. -/
structure PendingQuery where
  startBlockHeight : Int
  scaledBatchSize : Int
  queryEndBlock : Int
  moduloBlocks : List Int
  queryEntries : List DictionaryQueryEntry
  deriving DecidableEq, Repr

/-- The fields of `FetchService` and of the collaborators it reads. -/
structure FetchState where
  latestBestHeight : Int
  latestFinalizedHeight : Int
  isShutdown : Bool
  batchSizeScale : ℚ
  templateDynamicDatasouces : List NearDataSource
  dictionaryGenesisMatches : Bool
  bypassBlocks : List Int
  /-- The `initBlockHeight` argument of the loop. -/
  initBlockHeight : Int
  /-- The dictionary service's query map. -/
  queriesMap : List (Int × List DictionaryQueryEntry)
  /-- The dictionary service's `startHeight`, `undefined` until `init` sets it. -/
  dictionaryStartHeight : Option Int
  /-- What the dynamic datasource service returns. -/
  dynamicDatasources : List NearDataSource
  /-- The dispatcher's buffered heights. -/
  queue : List Int
  latestBufferedHeight : BufferedHeight
  /-- The loop's pass suspended on a dictionary query, if any. -/
  pending : Option PendingQuery

variable (cfg : FetchConfig) (s : FetchState)

/-! ### The dispatcher and the dictionary service -/

/-- Modelled from the spec: `blockDispatcher.freeSize`, the capacity left in the queue. -/
def FetchState.freeSize : Int :=
  cfg.queueCapacity - s.queue.length

/-- Modelled from the spec: `blockDispatcher.enqueueBlocks(heights, latestBufferedHeight)`. -/
def FetchState.enqueueBlocks (heights : List Int) (latest : BufferedHeight) : FetchState :=
  { s with queue := s.queue ++ heights, latestBufferedHeight := latest }

/-- Modelled from the spec: `blockDispatcher.flushQueue(height)`. -/
def FetchState.flushQueue (height : Int) : FetchState :=
  { s with queue := s.queue.filter (· < height), latestBufferedHeight := .height (height - 1) }

/-- Modelled from the spec: `buildDictionaryEntryMap`, the entries of every start block
of the datasources, in ascending order of start block. -/
def buildDictionaryEntryMap (dataSources templates : List NearDataSource) :
    Except String (List (Int × List DictionaryQueryEntry)) :=
  ((dataSources ++ templates).map (·.startBlock)).insertionSort (· ≤ ·) |>.mapM fun k =>
    (k, ·) <$> buildDictionaryQueryEntries dataSources templates k

/-- Modelled from the spec: `getDictionaryQueryEntries`, the entries of the last start
block of the map that the bound admits, or `[]`. -/
def getDictionaryQueryEntries (queriesMap : List (Int × List DictionaryQueryEntry))
    (admits : Int → Bool) : List DictionaryQueryEntry :=
  (((queriesMap.filter (admits ·.1)).getLast?).map (·.2)).getD []

/-- `updateDictionary`: rebuild the query map from the project's datasources and the
current templates; a throwing `buildDictionaryQueryEntries` makes it throw. -/
def FetchState.updateDictionary : Except String FetchState := do
  let queriesMap ← buildDictionaryEntryMap cfg.project.dataSources s.templateDynamicDatasouces
  pure { s with queriesMap := queriesMap }

/-! ### The helpers of the loop -/

/-- `getStartBlockHeight`: `latestBufferedHeight + 1` when it is truthy, else
`initBlockHeight`; `none` is `-Infinity`. -/
def FetchState.getStartBlockHeight : Option Int :=
  match s.latestBufferedHeight with
  | .undefined => some s.initBlockHeight
  | .negInfinity => none
  | .height h => if h = 0 then some s.initBlockHeight else some (h + 1)

/-- `Math.round(scale * n)`, computed on the numerator and denominator of the scale
(`jsRoundMul_eq_round`). -/
def jsRoundMul (scale : ℚ) (n : Nat) : Int :=
  (2 * scale.num * n + scale.den) / (2 * (scale.den : Int))

/-- `jsRoundMul` is `Math.round`, which rounds halves up as Mathlib's `round` does. -/
theorem jsRoundMul_eq_round (scale : ℚ) (n : Nat) : jsRoundMul scale n = round (scale * n) := by
  have hden : (scale.den : ℚ) ≠ 0 := by exact_mod_cast scale.den_nz
  have hcast : 2 * (scale.den : Int) = ((2 * scale.den : Nat) : Int) := by push_cast; ring
  rw [round_eq, jsRoundMul, hcast, ← Rat.floor_intCast_div_natCast]
  congr 1
  conv_rhs => rw [← Rat.num_div_den scale]
  push_cast
  field_simp
  ring

/-- `scaledBatchSize`: `Math.max(Math.round(batchSizeScale * batchSize),
Math.min(MINIMUM_BATCH_SIZE, batchSize * 3))`. -/
def FetchState.scaledBatchSize : Int :=
  max (jsRoundMul s.batchSizeScale cfg.nodeConfig.batchSize)
    (min MINIMUM_BATCH_SIZE (cfg.nodeConfig.batchSize * 3))

/-- The loop's `latestHeight`: the best height with unfinalized blocks, else the
finalized one. -/
def FetchState.latestHeight : Int :=
  if cfg.nodeConfig.unfinalizedBlocks then s.latestBestHeight else s.latestFinalizedHeight

/-- `nextEndBlockHeight`. -/
def FetchState.nextEndBlockHeight (startBlockHeight scaledBatchSize : Int) : Int :=
  let endBlockHeight := startBlockHeight + scaledBatchSize - 1
  if endBlockHeight > s.latestFinalizedHeight then
    if cfg.nodeConfig.unfinalizedBlocks then
      if endBlockHeight ≥ s.latestBestHeight then s.latestBestHeight else endBlockHeight
    else s.latestFinalizedHeight
  else endBlockHeight

/-- `getLatestBufferHeight`: `Math.max(...cleanedBatchBlocks, ...rawBatchBlocks)`. -/
def getLatestBufferHeight (cleanedBatchBlocks rawBatchBlocks : List Int) : Option Int :=
  (cleanedBatchBlocks ++ rawBatchBlocks).max?

/-- Modelled from the spec: node-core's `cleanedBatchBlocks`, the batch without the
bypass heights. -/
def cleanedBatchBlocks (bypassBlocks currentBatchBlocks : List Int) : List Int :=
  currentBatchBlocks.filter (· ∉ bypassBlocks)

/-- `filteredBlockBatch` on the bypass list: the cleaned batch and the bypass list after
`without(bypassBlocks, ...pollutedBlocks)`, the polluted blocks being those below the
batch's `Math.max`. -/
def filteredBlockBatch (bypassBlocks currentBatchBlocks : List Int) : List Int × List Int :=
  if bypassBlocks.isEmpty then (currentBatchBlocks, bypassBlocks)
  else
    let pollutedBlocks := bypassBlocks.filter fun b =>
      (currentBatchBlocks.max?).any (b < ·)
    (cleanedBatchBlocks bypassBlocks currentBatchBlocks,
      bypassBlocks.filter (· ∉ pollutedBlocks))

/-- `dictionaryValidation(dictionary, startBlockHeight)` on a present `_metadata`: its
answer and the state after it. A genesis mismatch clears `dictionaryGenesisMatches`. -/
def FetchState.dictionaryValidation (metaData : MetaData) (startBlockHeight : Option Int) :
    Bool × FetchState :=
  if metaData.genesisHash ≠ cfg.genesisHash then
    (false, { s with dictionaryGenesisMatches := false })
  else
    match startBlockHeight with
    | some h => (decide (h ≤ metaData.lastProcessedHeight), s)
    | none => (true, s)

/-- `dictionaryValidation` writes nothing but a cleared `dictionaryGenesisMatches`. -/
theorem FetchState.dictionaryValidation_snd (metaData : MetaData) (h : Option Int) :
    (s.dictionaryValidation cfg metaData h).2 =
      if metaData.genesisHash = cfg.genesisHash then s
      else { s with dictionaryGenesisMatches := false } := by
  unfold dictionaryValidation
  by_cases hg : metaData.genesisHash = cfg.genesisHash
  · cases h <;> simp [hg]
  · simp [hg]

/-- With a matching genesis, `dictionaryValidation` checks the dictionary is not behind. -/
theorem FetchState.dictionaryValidation_fst (metaData : MetaData) (h : Int) :
    (s.dictionaryValidation cfg metaData (some h)).1 =
      (metaData.genesisHash == cfg.genesisHash && decide (h ≤ metaData.lastProcessedHeight)) := by
  unfold dictionaryValidation
  by_cases hg : metaData.genesisHash = cfg.genesisHash <;> simp [hg]

/-- The start blocks at or below `latestBufferedHeight ?? Math.min(...startBlocks)`: none
for `-Infinity`, all for `Math.min()` over no datasource. -/
def FetchState.dictionaryLookupBound : Int → Bool :=
  match s.latestBufferedHeight with
  | .height h => (· ≤ h)
  | .negInfinity => fun _ => false
  | .undefined =>
    match (cfg.project.dataSources.map (·.startBlock)).min? with
    | some m => (· ≤ m)
    | none => fun _ => true

/-- The `useDictionary` getter. -/
def FetchState.useDictionary : Bool :=
  (cfg.project.network.dictionary.getD "" != "") && s.dictionaryGenesisMatches &&
    !(getDictionaryQueryEntries s.queriesMap (s.dictionaryLookupBound cfg)).isEmpty

/-! ### Reading lemmas -/

/-- Without a matching genesis the dictionary is never used. -/
theorem FetchState.useDictionary_eq_false (h : s.dictionaryGenesisMatches = false) :
    s.useDictionary cfg = false := by
  simp [useDictionary, h]

end NearIndexer
