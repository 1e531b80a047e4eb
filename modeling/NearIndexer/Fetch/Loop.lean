import NearIndexer.Fetch.State

/-!
# The Fetch Loop and the Tasks Around It

`fillNextBlockBuffer` is a `while` loop that suspends at two `await`s: the one-millisecond
`delay` when the dispatcher is full or the target is reached, and the dictionary query.
Every other task of the service (the head pollers, the memory check, the dispatcher
processing buffered heights, the resets a processed block triggers) runs only while the
loop is suspended.

The model cuts the loop at its suspension points. `fillNextBlockBuffer` runs one pass of
the body from the loop head to its next `await` or `continue`: it waits, enqueues a batch,
or suspends on a query, recorded in `pending` with the locals it computed before the
`await`. `dictionaryAnswer` resumes that pass with the dictionary's answer (or its
exception) and runs it to its end. Every other action is one of the tasks. A run is any
sequence of actions: the model lets the tasks run between any two passes, more
interleavings than the event loop allows, so what is proved over all runs holds of the
service. A failing run may therefore let a task act between two passes that the loop makes
back to back (`moduloOnly_skips_dynamic_datasource`, `bypass_height_enqueued_after_rewind`):
the service reaches the same failure by a longer run, in which the first pass ends at the
`delay` because the dispatcher is full or the target is reached.

A step returns the scheduler's calls on the dispatcher as events, with the branch that
made each `enqueueBlocks` call, and the `logger.error` of a genesis mismatch.
-/

namespace NearIndexer

/-- The branch of the loop that made an `enqueueBlocks` call. -/
inductive BatchSource where
  | dictionary
  | moduloOnly
  | range
  deriving DecidableEq, Repr

/-- What a step makes visible: the calls on the dispatcher, and the error a genesis
mismatch logs. -/
inductive FetchEvent where
  | enqueueBlocks (heights : List Int) (latestBufferedHeight : BufferedHeight)
      (source : BatchSource)
  | flushQueue (height : Int)
  | genesisMismatch
  deriving DecidableEq, Repr

/-- The actions of a run: a pass of the loop, the answer to its pending query, or a step
of another task (`checkBatchScale` with the scale `checkMemoryUsage` returns, a head
poll with the height it read, the dispatcher processing its first buffered height, a
handler creating a dynamic datasource). -/
inductive FetchAction where
  | fillNextBlockBuffer
  | dictionaryAnswer (result : Except String (Option Dictionary))
  | resetForNewDs (blockHeight : Int)
  | resetForIncorrectBestBlock (blockHeight : Int)
  | getFinalizedBlockHead (height : Int)
  | getBestBlockHead (height : Int)
  | checkBatchScale (scale : ℚ)
  | createDynamicDatasource (ds : NearDataSource)
  | processBlock
  | onApplicationShutdown

variable (cfg : FetchConfig) (s : FetchState)

/-! ### Enqueueing -/

/-- `filteredBlockBatch(enqueuingBlocks)`, then `enqueueBlocks(cleaned,
getLatestBufferHeight(cleaned, enqueuingBlocks))`. -/
def FetchState.enqueueBatch (enqueuingBlocks : List Int) (source : BatchSource) :
    FetchState × List FetchEvent :=
  let filtered := filteredBlockBatch s.bypassBlocks enqueuingBlocks
  let latest := BufferedHeight.ofMax (getLatestBufferHeight filtered.1 enqueuingBlocks)
  ({ s with bypassBlocks := filtered.2 }.enqueueBlocks filtered.1 latest,
    [.enqueueBlocks filtered.1 latest source])

/-- `handlers.length && this.getModulos().length === handlers.length`: every handler of
the project's datasources is a block handler with a truthy modulo. -/
def isModuloOnly : Bool :=
  let handlersLength := (cfg.project.dataSources.map (·.handlerCount)).sum
  handlersLength != 0 && (getModulos cfg.project.dataSources).length == handlersLength

/-- lodash 4 `range(start, end)`. Without a step it steps by 1 when `start < end` and by
-1 otherwise, so it lists `start` up to `end - 1`, or `start` down to `end + 1`; the two
meet in the empty list when `start = end`. -/
def range (start stop : Int) : List Int :=
  if start < stop then intRange start stop else (intRange (stop + 1) (start + 1)).reverse

/-- Up to its end, `range` runs upward: it is `intRange`. -/
theorem range_of_le {a b : Int} (h : a ≤ b) : range a b = intRange a b := by
  unfold range
  split
  · rfl
  · obtain rfl : a = b := by omega
    simp [intRange]

/-- Past its end, `range` counts down from its start. -/
theorem range_of_lt {a b : Int} (h : b < a) :
    range a b = (intRange (b + 1) (a + 1)).reverse :=
  if_neg (by omega)

/-- Every height from the start of a `range` up to its `Math.max` is in it: all of `[a, b)`
upward, the start alone downward. -/
theorem mem_range_of_le_max {a b m x : Int} (hm : (range a b).max? = some m) (hx : a ≤ x)
    (hxm : x ≤ m) : x ∈ range a b := by
  have hmem := List.max?_mem (fun a b => by omega) hm
  by_cases h : a < b <;> simp only [range, h, if_true, if_false, List.mem_reverse,
    mem_intRange] at hmem ⊢ <;> omega

/-- The raw batch of the code after the dictionary block: the modulo-only fast path, or
`range(startBlockHeight, endHeight + 1)` with `endHeight` from `nextEndBlockHeight`. -/
def FetchState.nextBlocks (startBlockHeight scaledBatchSize : Int) : List Int × BatchSource :=
  if isModuloOnly cfg then
    (getEnqueuedModuloBlocks cfg.project.dataSources cfg.nodeConfig.batchSize startBlockHeight,
      .moduloOnly)
  else
    (range startBlockHeight (s.nextEndBlockHeight cfg startBlockHeight scaledBatchSize + 1),
      .range)

/-- The code after the dictionary block: both of its branches filter and enqueue their
raw batch. -/
def FetchState.enqueueNextBlocks (startBlockHeight scaledBatchSize : Int) :
    FetchState × List FetchEvent :=
  let next := s.nextBlocks cfg startBlockHeight scaledBatchSize
  s.enqueueBatch next.1 next.2

/-- The dictionary branch after a valid answer: merge the answer with the modulo heights,
sort, and enqueue up to `freeSize` of them, or advance to the height the dictionary
covers when there is none. `freeSize` is not negative here: it was at least the scaled
batch size when the query was sent, and nothing enqueues while the query is pending. -/
def FetchState.enqueueDictionaryBlocks (q : PendingQuery) (dictionary : Dictionary) :
    FetchState × List FetchEvent :=
  let batchBlocks := (dictionary.batchBlocks ++ q.moduloBlocks).insertionSort (· ≤ ·)
  if batchBlocks.isEmpty then
    let latest := BufferedHeight.height
      (min (q.queryEndBlock - 1) dictionary.metadata.lastProcessedHeight)
    (s.enqueueBlocks [] latest, [.enqueueBlocks [] latest .dictionary])
  else
    s.enqueueBatch (batchBlocks.take (min (batchBlocks.length : Int) (s.freeSize cfg)).toNat)
      .dictionary

/-- The state after `enqueueBatch`. -/
@[simp] theorem FetchState.enqueueBatch_fst (enqueuingBlocks : List Int) (source : BatchSource) :
    (s.enqueueBatch enqueuingBlocks source).1 =
      { s with
        bypassBlocks := (filteredBlockBatch s.bypassBlocks enqueuingBlocks).2
        queue := s.queue ++ (filteredBlockBatch s.bypassBlocks enqueuingBlocks).1
        latestBufferedHeight := .ofMax (getLatestBufferHeight
          (filteredBlockBatch s.bypassBlocks enqueuingBlocks).1 enqueuingBlocks) } :=
  rfl

/-- The one call `enqueueBatch` makes. -/
@[simp] theorem FetchState.enqueueBatch_snd (enqueuingBlocks : List Int) (source : BatchSource) :
    (s.enqueueBatch enqueuingBlocks source).2 =
      [.enqueueBlocks (filteredBlockBatch s.bypassBlocks enqueuingBlocks).1
        (.ofMax (getLatestBufferHeight
          (filteredBlockBatch s.bypassBlocks enqueuingBlocks).1 enqueuingBlocks)) source] :=
  rfl

/-- The non-dictionary way never reports a dictionary batch. -/
theorem FetchState.nextBlocks_source (startBlockHeight scaledBatchSize : Int) :
    (s.nextBlocks cfg startBlockHeight scaledBatchSize).2 ≠ .dictionary := by
  unfold nextBlocks
  split <;> simp

/-! ### The loop -/

/-- The locals a pass computes before `await`ing `scopedDictionaryEntries`, and the
entries the dictionary service sends with the query. Modelled from node-core's
`scopedDictionaryEntries(startBlockHeight, queryEndBlock, scaledBatchSize)`, which the spec
describes without saying at which height the entries are looked up: the service looks them
up at `queryEndBlock`, so a datasource that starts inside the window is queried for from
the window's start. -/
def FetchState.dictionaryQuery (startBlockHeight : Int) : PendingQuery :=
  let queryEndBlock := startBlockHeight + DICTIONARY_MAX_QUERY_SIZE
  { startBlockHeight := startBlockHeight
    scaledBatchSize := s.scaledBatchSize cfg
    queryEndBlock := queryEndBlock
    moduloBlocks := getModuloBlocks cfg.project.dataSources startBlockHeight queryEndBlock
    queryEntries := getDictionaryQueryEntries s.queriesMap (· ≤ queryEndBlock) }

/-- One pass of the `fillNextBlockBuffer` loop body from its head: nothing once the loop
has exited or while its pass is suspended; otherwise wait, suspend on the dictionary, or
enqueue the next blocks. With a `-Infinity` start every branch enqueues nothing. -/
def FetchState.fillNextBlockBuffer : FetchState × List FetchEvent :=
  if s.isShutdown || s.pending.isSome then (s, [])
  else
    let scaledBatchSize := s.scaledBatchSize cfg
    match s.getStartBlockHeight with
    | none =>
      if s.freeSize cfg < scaledBatchSize then (s, [])
      else s.enqueueBatch [] (if isModuloOnly cfg then .moduloOnly else .range)
    | some startBlockHeight =>
      if s.freeSize cfg < scaledBatchSize ∨ startBlockHeight > s.latestHeight cfg then (s, [])
      else if s.useDictionary cfg ∧ s.dictionaryStartHeight.any (· ≤ startBlockHeight) then
        ({ s with pending := some (s.dictionaryQuery cfg startBlockHeight) }, [])
      else s.enqueueNextBlocks cfg startBlockHeight scaledBatchSize

/-- The pending pass resumed by the dictionary's answer. An exception falls back to the
non-dictionary way; a moved start discards the answer; a valid answer is enqueued; an
absent or invalid one falls back. -/
def FetchState.dictionaryAnswer (result : Except String (Option Dictionary)) :
    FetchState × List FetchEvent :=
  match s.pending with
  | none => (s, [])
  | some q =>
    let s := { s with pending := none }
    match result with
    | .error _ => s.enqueueNextBlocks cfg q.startBlockHeight q.scaledBatchSize
    | .ok dictionary =>
      if some q.startBlockHeight ≠ s.getStartBlockHeight then (s, [])
      else
        match dictionary with
        | none => s.enqueueNextBlocks cfg q.startBlockHeight q.scaledBatchSize
        | some d =>
          let v := s.dictionaryValidation cfg d.metadata (some q.startBlockHeight)
          let logged : List FetchEvent :=
            if d.metadata.genesisHash ≠ cfg.genesisHash then [.genesisMismatch] else []
          if v.1 then v.2.enqueueDictionaryBlocks cfg q d
          else
            let r := v.2.enqueueNextBlocks cfg q.startBlockHeight q.scaledBatchSize
            (r.1, logged ++ r.2)

/-! ### What a step of the loop can do -/

/-- **What a pass of the loop can do**: nothing (it waits, the loop has exited, or its
pass is suspended); enqueue nothing from a `-Infinity` start; enqueue the next blocks of
the non-dictionary way from a start at or below the target; or send the dictionary query.
The last three need no query in flight and room for a scaled batch. -/
theorem FetchState.fillNextBlockBuffer_cases :
    s.fillNextBlockBuffer cfg = (s, []) ∨
    (s.pending = none ∧ s.scaledBatchSize cfg ≤ s.freeSize cfg ∧ s.getStartBlockHeight = none ∧
      ∃ source, source ≠ .dictionary ∧ s.fillNextBlockBuffer cfg = s.enqueueBatch [] source) ∨
    (∃ start, s.pending = none ∧ s.scaledBatchSize cfg ≤ s.freeSize cfg ∧
      s.getStartBlockHeight = some start ∧ start ≤ s.latestHeight cfg ∧
      s.fillNextBlockBuffer cfg = s.enqueueNextBlocks cfg start (s.scaledBatchSize cfg)) ∨
    (∃ start, s.pending = none ∧ s.scaledBatchSize cfg ≤ s.freeSize cfg ∧
      s.getStartBlockHeight = some start ∧ start ≤ s.latestHeight cfg ∧
      s.useDictionary cfg = true ∧
      s.fillNextBlockBuffer cfg = ({ s with pending := some (s.dictionaryQuery cfg start) }, [])) := by
  unfold fillNextBlockBuffer
  by_cases hx : (s.isShutdown || s.pending.isSome) = true
  · exact .inl (if_pos hx)
  rw [if_neg hx]
  have hp : s.pending = none := (by simpa using hx : _ ∧ _).2
  rcases hst : s.getStartBlockHeight with _ | start
  · by_cases hf : s.freeSize cfg < s.scaledBatchSize cfg
    · exact .inl (if_pos hf)
    · refine .inr (.inl ⟨hp, by omega, rfl, ?_⟩)
      exact ⟨_, by split <;> simp, if_neg hf⟩
  · by_cases hw : s.freeSize cfg < s.scaledBatchSize cfg ∨ start > s.latestHeight cfg
    · exact .inl (if_pos hw)
    have hf : s.scaledBatchSize cfg ≤ s.freeSize cfg := by omega
    have hl : start ≤ s.latestHeight cfg := by omega
    by_cases hd : s.useDictionary cfg ∧ s.dictionaryStartHeight.any (· ≤ start)
    · exact .inr (.inr (.inr ⟨start, hp, hf, rfl, hl, hd.1, by simp only [if_neg hw, if_pos hd]⟩))
    · exact .inr (.inr (.inl ⟨start, hp, hf, rfl, hl, by simp only [if_neg hw, if_neg hd]⟩))

/-- **What the answer to a query can do.** Without a query in flight, nothing. Otherwise
the query is cleared, and: the pass falls back to the non-dictionary way (an exception,
an absent answer, a lagging one); the answer is discarded because the start moved; a
genesis mismatch clears the flag, is logged, and the pass falls back; or a valid answer
at an unmoved start goes through the dictionary branch. -/
theorem FetchState.dictionaryAnswer_cases (r : Except String (Option Dictionary)) :
    (s.pending = none ∧ s.dictionaryAnswer cfg r = (s, [])) ∨
    ∃ q, s.pending = some q ∧
      ((s.dictionaryAnswer cfg r =
          { s with pending := none }.enqueueNextBlocks cfg q.startBlockHeight q.scaledBatchSize) ∨
        (some q.startBlockHeight ≠ s.getStartBlockHeight ∧
          s.dictionaryAnswer cfg r = ({ s with pending := none }, [])) ∨
        (∃ d, r = .ok (some d) ∧ d.metadata.genesisHash ≠ cfg.genesisHash ∧
          s.dictionaryAnswer cfg r =
            (({ s with pending := none, dictionaryGenesisMatches := false }.enqueueNextBlocks
                cfg q.startBlockHeight q.scaledBatchSize).1,
              .genesisMismatch ::
                ({ s with pending := none, dictionaryGenesisMatches := false }.enqueueNextBlocks
                  cfg q.startBlockHeight q.scaledBatchSize).2)) ∨
        (∃ d, r = .ok (some d) ∧ s.getStartBlockHeight = some q.startBlockHeight ∧
          d.metadata.genesisHash = cfg.genesisHash ∧
          q.startBlockHeight ≤ d.metadata.lastProcessedHeight ∧
          s.dictionaryAnswer cfg r = { s with pending := none }.enqueueDictionaryBlocks cfg q d)) := by
  unfold dictionaryAnswer
  rcases hq : s.pending with _ | q
  · exact .inl ⟨rfl, rfl⟩
  refine .inr ⟨q, rfl, ?_⟩
  rcases r with e | dictionary
  · exact .inl rfl
  by_cases hm : some q.startBlockHeight ≠ ({ s with pending := none } : FetchState).getStartBlockHeight
  · exact .inr (.inl ⟨hm, if_pos hm⟩)
  simp only [if_neg hm]
  rcases dictionary with _ | d
  · exact .inl rfl
  · have hs : s.getStartBlockHeight = some q.startBlockHeight := (not_not.mp hm).symm
    by_cases hg : d.metadata.genesisHash = cfg.genesisHash
    · by_cases hl : q.startBlockHeight ≤ d.metadata.lastProcessedHeight
      · refine .inr (.inr (.inr ⟨d, rfl, hs, hg, hl, ?_⟩))
        simp [dictionaryValidation_fst, dictionaryValidation_snd, hg, hl]
      · refine .inl ?_
        simp [dictionaryValidation_fst, dictionaryValidation_snd, hg, hl]
    · refine .inr (.inr (.inl ⟨d, rfl, hg, ?_⟩))
      simp [dictionaryValidation_fst, dictionaryValidation_snd, hg]

/-! ### The other tasks -/

/-- `syncDynamicDatascourcesFromMeta`. -/
def FetchState.syncDynamicDatascourcesFromMeta : FetchState :=
  { s with templateDynamicDatasouces := s.dynamicDatasources }

/-- The two resets: resync the templates, rebuild the query map, flush the dispatcher.
When the rebuild throws, the reset rejects before its flush. -/
def FetchState.reset (blockHeight : Int) : FetchState × List FetchEvent :=
  let s := s.syncDynamicDatascourcesFromMeta
  match s.updateDictionary cfg with
  | .error _ => (s, [])
  | .ok s => (s.flushQueue blockHeight, [.flushQueue blockHeight])

/-- `resetForNewDs`. Its `deleteTempDsRecords` clears the dynamic datasource service's
store cache, which no modelled function reads. -/
def FetchState.resetForNewDs (blockHeight : Int) : FetchState × List FetchEvent :=
  s.reset cfg blockHeight

/-- `resetForIncorrectBestBlock`. -/
def FetchState.resetForIncorrectBestBlock (blockHeight : Int) : FetchState × List FetchEvent :=
  s.reset cfg blockHeight

/-- **What a reset can do**: resync the templates and, unless the rebuild of the query map
throws, install the new map and flush the dispatcher. -/
theorem FetchState.reset_cases (blockHeight : Int) :
    s.reset cfg blockHeight = (s.syncDynamicDatascourcesFromMeta, []) ∨
    ∃ queriesMap, s.reset cfg blockHeight =
      ({ s.syncDynamicDatascourcesFromMeta with queriesMap := queriesMap }.flushQueue blockHeight,
        [.flushQueue blockHeight]) := by
  unfold reset updateDictionary
  dsimp only
  cases buildDictionaryEntryMap cfg.project.dataSources
    s.syncDynamicDatascourcesFromMeta.templateDynamicDatasouces with
  | error e => exact .inl rfl
  | ok m => exact .inr ⟨m, rfl⟩

/-- `checkBatchScale`, with the scale `checkMemoryUsage` returned. -/
def FetchState.checkBatchScale (scale : ℚ) : FetchState :=
  if cfg.nodeConfig.scaleBatchSize then { s with batchSizeScale := scale } else s

/-- One action. -/
def FetchState.step : FetchAction → FetchState × List FetchEvent
  | .fillNextBlockBuffer => s.fillNextBlockBuffer cfg
  | .dictionaryAnswer result => s.dictionaryAnswer cfg result
  | .resetForNewDs h => s.resetForNewDs cfg h
  | .resetForIncorrectBestBlock h => s.resetForIncorrectBestBlock cfg h
  | .getFinalizedBlockHead h => ({ s with latestFinalizedHeight := h }, [])
  | .getBestBlockHead h => ({ s with latestBestHeight := h }, [])
  | .checkBatchScale scale => (s.checkBatchScale cfg scale, [])
  | .createDynamicDatasource ds => ({ s with dynamicDatasources := s.dynamicDatasources ++ [ds] }, [])
  | .processBlock => ({ s with queue := s.queue.tail }, [])
  | .onApplicationShutdown => ({ s with isShutdown := true }, [])

/-- A run: the actions in order, with the events of each. -/
def FetchState.run : FetchState → List FetchAction → FetchState × List FetchEvent
  | s, [] => (s, [])
  | s, a :: as =>
    let r := s.step cfg a
    let r' := FetchState.run r.1 as
    (r'.1, r.2 ++ r'.2)

@[simp] theorem FetchState.run_nil : s.run cfg [] = (s, []) := rfl

theorem FetchState.run_cons (a : FetchAction) (as : List FetchAction) :
    s.run cfg (a :: as) =
      (((s.step cfg a).1.run cfg as).1, (s.step cfg a).2 ++ ((s.step cfg a).1.run cfg as).2) :=
  rfl

/-- Runs compose. -/
theorem FetchState.run_append (as bs : List FetchAction) :
    s.run cfg (as ++ bs) =
      (((s.run cfg as).1.run cfg bs).1, (s.run cfg as).2 ++ ((s.run cfg as).1.run cfg bs).2) := by
  induction as generalizing s with
  | nil => rfl
  | cons a as ih => simp [run_cons, ih]

/-! ### Initialisation -/

/-- What `init` reads from its collaborators: the start height it is called with, the
dynamic datasources, the dictionary's metadata (absent without a dictionary), and the
first finalized and best heights. -/
structure InitInputs where
  startHeight : Int
  dynamicDatasources : List NearDataSource
  metadata : Option MetaData
  finalizedHeight : Int
  bestHeight : Int

/-- `init(startHeight)`, up to `startLoop`: the bypass list from the start height on, the
synced templates, the query map, the validated dictionary start height and the first
heads. The loop then starts with `initBlockHeight = startHeight`. -/
def FetchState.init (i : InitInputs) : Except String FetchState := do
  let s₀ : FetchState :=
    { latestBestHeight := i.bestHeight
      latestFinalizedHeight := i.finalizedHeight
      isShutdown := false
      batchSizeScale := 1
      templateDynamicDatasouces := i.dynamicDatasources
      dictionaryGenesisMatches := true
      bypassBlocks := (cfg.project.network.bypassBlocks.getD []).filter (· ≥ i.startHeight)
      initBlockHeight := i.startHeight
      queriesMap := []
      dictionaryStartHeight := none
      dynamicDatasources := i.dynamicDatasources
      queue := []
      latestBufferedHeight := .undefined
      pending := none }
  let s₁ ← s₀.updateDictionary cfg
  match i.metadata with
  | none => pure s₁
  | some md =>
    let v := s₁.dictionaryValidation cfg md none
    pure (if v.1 then { v.2 with dictionaryStartHeight := some md.startHeight } else v.2)

/-- `init` leaves no query in flight. -/
theorem FetchState.init_pending {i : InitInputs} {s₀ : FetchState}
    (h : FetchState.init cfg i = .ok s₀) : s₀.pending = none := by
  unfold init updateDictionary at h
  cases hm : buildDictionaryEntryMap cfg.project.dataSources i.dynamicDatasources <;>
    simp only [hm] at h
  · cases h
  · cases hmd : i.metadata <;> simp only [hmd] at h <;> cases h
    · rfl
    · split <;> simp [dictionaryValidation_snd] <;> split <;> rfl

/-- The states a run of the service reaches. -/
def Reachable (s : FetchState) : Prop :=
  ∃ i s₀ acts, FetchState.init cfg i = .ok s₀ ∧ (s₀.run cfg acts).1 = s

end NearIndexer
