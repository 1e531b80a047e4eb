import NearIndexer.Fetch.Genesis

/-!
# What Bounds a Batch

A pass enqueues in one of three ways. The range way enqueues lodash's
`range(start, endHeight + 1)` with `endHeight` from `nextEndBlockHeight`, at or below the
target height and at most `scaledBatchSize` heights after the start; the loop has checked
`scaledBatchSize ≤ freeSize` before. The dictionary way cuts its merged list at `freeSize`.
The modulo-only fast path has neither bound: `getEnqueuedModuloBlocks` takes
`nodeConfig.batchSize` heights from a window of `batchSize * max(modulos)` heights,
whatever the target, the free size or the scale. The loop also decides on the fast path
from the handlers of the static datasources alone, so a dynamic datasource created later
changes neither the decision nor the heights.

The range way's bounds hold when its start is at or below the head the loop reads
(`latestHeight`): then `range` runs upward. A pass checks that before it enqueues. A query
in flight keeps the start and the scaled batch size it was sent with, and an answer that
throws, is empty or fails validation falls back to the range way with them, against the
heads as they are then. `PendingInv` says that the size still fits, since nothing enqueues
while a query is in flight and every other task only shrinks the queue, and that the start
is still at or below the head, which holds while no head poll lowers it
(`headNeverFalls`). A poll may lower it, from another endpoint of the pool: then `range`
counts down from the start, past the head and beyond the free size
(`lowered_head_fallback_enqueues_downward`).

## Main results

* `FetchState.range_batch_bounds`: from a start at or below the head, the range way's raw
  batch lies between the start and the target height and holds at most `scaledBatchSize`
  heights.
* `FetchState.step_batch_bounds`: from a state with `PendingInv`, every call a step makes
  outside the fast path fits in `freeSize`, and every range batch stays at or below the
  target height.
* `step_calls_bounded`: the same for every state a run from `init` reaches while the head
  never falls.
* `queue_within_capacity`: outside the fast path, no state such a run reaches holds more
  than `queueCapacity` buffered heights.
* `moduloOnly_passes_target`, `moduloOnly_overfills_queue`,
  `moduloOnly_skips_dynamic_datasource`: runs from `init` in which the fast path enqueues
  past the target, beyond the free size, and past a height a dynamic datasource needs.
-/

namespace NearIndexer

/-- The heights of an `enqueueBlocks` call; the other events have none. -/
def FetchEvent.heights : FetchEvent → List Int
  | .enqueueBlocks heights _ _ => heights
  | _ => []

variable (cfg : FetchConfig) (s : FetchState)

/-- The height a pass may buffer up to: the finalized head, or with unfinalized blocks the
higher of the two heads. -/
def FetchState.targetHeight : Int :=
  if cfg.nodeConfig.unfinalizedBlocks then max s.latestBestHeight s.latestFinalizedHeight
  else s.latestFinalizedHeight

/-- The query in flight, should its answer fall back to the range way, makes a batch that
fits and runs upward: the size it was sent with still fits in the queue, and is not
negative, and its start is still at or below the head the loop reads. -/
def PendingInv : Prop :=
  ∀ q, s.pending = some q → q.scaledBatchSize ≤ s.freeSize cfg ∧ 0 ≤ q.scaledBatchSize ∧
    q.startBlockHeight ≤ s.latestHeight cfg

/-- The head the loop reads never falls over a run: no head poll reads a lower head than
the one `latestHeight` holds. -/
def headNeverFalls (cfg : FetchConfig) : FetchState → List FetchAction → Bool
  | _, [] => true
  | s, a :: as =>
    decide (s.latestHeight cfg ≤ (s.step cfg a).1.latestHeight cfg) &&
      headNeverFalls cfg (s.step cfg a).1 as

/-! ### Reading lemmas -/

/-- `intRange a b` has `b - a` heights. -/
theorem length_intRange (a b : Int) : (intRange a b).length = (b - a).toNat := by
  simp [intRange]

/-- `filteredBlockBatch` only removes heights from the batch. -/
theorem filteredBlockBatch_fst_sublist (bypassBlocks batch : List Int) :
    (filteredBlockBatch bypassBlocks batch).1.Sublist batch := by
  unfold filteredBlockBatch cleanedBatchBlocks
  split
  · exact .refl _
  · exact List.filter_sublist _

/-- `nextEndBlockHeight` ends a batch at most `scaledBatchSize` heights after its start. -/
theorem FetchState.nextEndBlockHeight_le (start scaled : Int) :
    s.nextEndBlockHeight cfg start scaled ≤ start + scaled - 1 := by
  unfold nextEndBlockHeight
  dsimp only
  split_ifs <;> omega

/-- `scaledBatchSize` is never negative: its floor `Math.min(MINIMUM_BATCH_SIZE,
batchSize * 3)` is not. -/
theorem FetchState.scaledBatchSize_nonneg : 0 ≤ s.scaledBatchSize cfg := by
  simp only [scaledBatchSize, MINIMUM_BATCH_SIZE]
  omega

/-- From a start at or below the head, a batch of non-negative size ends no lower than one
below its start, so `range` runs upward. -/
theorem FetchState.range_nextEnd {start scaled : Int} (hsc : 0 ≤ scaled)
    (hle : start ≤ s.latestHeight cfg) :
    range start (s.nextEndBlockHeight cfg start scaled + 1) =
      intRange start (s.nextEndBlockHeight cfg start scaled + 1) := by
  refine range_of_le ?_
  unfold nextEndBlockHeight
  unfold latestHeight at hle
  dsimp only
  split_ifs at hle ⊢ <;> omega

/-! ### The three ways -/

/-- A state with the same query in flight, no more buffered heights and a head no lower
keeps `PendingInv`. -/
theorem PendingInv.of_queue_le {s s' : FetchState} (hi : PendingInv cfg s)
    (hp : s'.pending = s.pending) (hq : s'.queue.length ≤ s.queue.length)
    (hl : s.latestHeight cfg ≤ s'.latestHeight cfg) : PendingInv cfg s' := by
  intro q h
  have := hi q (hp ▸ h)
  unfold FetchState.freeSize at *
  omega

/-- A state with no query in flight has `PendingInv`. -/
theorem PendingInv.of_pending_none (h : s.pending = none) : PendingInv cfg s := by
  intro q hq
  simp [h] at hq

/-- A reset never adds buffered heights. -/
theorem FetchState.reset_queue_le (h : Int) : (s.reset cfg h).1.queue.length ≤ s.queue.length := by
  rcases s.reset_cases cfg h with hr | ⟨m, hr⟩ <;> rw [hr]
  · exact le_rfl
  · exact List.length_filter_le _ _

/-- **Every step that does not lower the head keeps `PendingInv`.** A pass sends a query
only from at or below the head and when its size fits, and nothing else adds buffered
heights while the query is in flight. -/
theorem FetchState.step_pendingInv (a : FetchAction)
    (ha : s.latestHeight cfg ≤ (s.step cfg a).1.latestHeight cfg) (hi : PendingInv cfg s) :
    PendingInv cfg (s.step cfg a).1 := by
  cases a with
  | fillNextBlockBuffer =>
    rcases s.fillNextBlockBuffer_cases cfg with h | ⟨hp, -, -, src, -, h⟩ | ⟨st, hp, -, -, -, h⟩ |
        ⟨st, -, hf, -, hle, -, h⟩ <;> simp only [step, h]
    · exact hi
    · exact .of_pending_none cfg _ (by simpa using hp)
    · exact .of_pending_none cfg _ ((enqueueNextBlocks_spec cfg _ _).2.1.trans hp)
    · rintro q ⟨⟩
      exact ⟨hf, s.scaledBatchSize_nonneg cfg, hle⟩
  | dictionaryAnswer r => exact .of_pending_none cfg _ (dictionaryAnswer_pending cfg r)
  | resetForNewDs h | resetForIncorrectBestBlock h =>
    exact hi.of_queue_le cfg (reset_spec cfg h).2.1 (s.reset_queue_le cfg h) ha
  | processBlock => exact hi.of_queue_le cfg rfl (by simp [step]) ha
  | getFinalizedBlockHead _ | getBestBlockHead _ => exact hi.of_queue_le cfg rfl le_rfl ha
  | checkBatchScale scale =>
    simp only [step, checkBatchScale]
    split <;> exact hi
  | _ => exact hi

/-- `init` leaves the queue empty, buffers nothing, sends no query, starts the loop at its
start height, and keeps the configured bypass heights from there on. -/
theorem FetchState.init_fields {i : InitInputs} {s₀ : FetchState}
    (h : FetchState.init cfg i = .ok s₀) :
    s₀.queue = [] ∧ s₀.latestBufferedHeight = .undefined ∧ s₀.pending = none ∧
      s₀.initBlockHeight = i.startHeight ∧
      s₀.bypassBlocks = (cfg.project.network.bypassBlocks.getD []).filter (· ≥ i.startHeight) := by
  unfold init updateDictionary at h
  cases hm : buildDictionaryEntryMap cfg.project.dataSources i.dynamicDatasources <;>
    simp only [hm] at h
  · cases h
  · cases hmd : i.metadata <;> simp only [hmd] at h <;> cases h
    · exact ⟨rfl, rfl, rfl, rfl, rfl⟩
    · split <;> simp only [dictionaryValidation_snd] <;> split <;> exact ⟨rfl, rfl, rfl, rfl, rfl⟩

/-! ### The queue's capacity -/

/-- A project of one runtime datasource from height 1 whose only handler is a block handler
with the given modulo, without dictionary or bypass list. -/
def moduloProject (modulo : Int) (batchSize queueCapacity : Nat) (scaleBatchSize : Bool) :
    FetchConfig :=
  { project :=
      { network := { dictionary := none, bypassBlocks := none }
        dataSources :=
          [.runtime 1 "dist/index.js" [.block (some { modulo := some modulo, timestamp := none })]] }
    nodeConfig :=
      { batchSize := batchSize, unfinalizedBlocks := false, scaleBatchSize := scaleBatchSize }
    genesisHash := "near"
    queueCapacity := queueCapacity }

/-- `init` at height 1 with both heads at `head`, no dynamic datasource and no dictionary. -/
def startAt (head : Int) : InitInputs :=
  { startHeight := 1, dynamicDatasources := [], metadata := none, finalizedHeight := head,
    bestHeight := head }

/-- The state `init` builds for a `moduloProject` at height 1 with both heads at 100:
nothing buffered, and the query map of its one start block, which has no entries. -/
def moduloProjectStart : FetchState :=
  { latestBestHeight := 100, latestFinalizedHeight := 100, isShutdown := false,
    batchSizeScale := 1, templateDynamicDatasouces := [], dictionaryGenesisMatches := true,
    bypassBlocks := [], initBlockHeight := 1, queriesMap := [(1, [])],
    dictionaryStartHeight := none, dynamicDatasources := [], queue := [],
    latestBufferedHeight := .undefined, pending := none }

/-- **The fast path passes the target.** With modulo 3 and a batch size of 2, the first
pass from height 1 enqueues heights 3 and 6 though the finalized head is at 4. -/
theorem moduloOnly_passes_target :
    (FetchState.init (moduloProject 3 2 100 false) (startAt 4)).map (fun s₀ =>
      (s₀.targetHeight (moduloProject 3 2 100 false),
        (s₀.run (moduloProject 3 2 100 false) [.fillNextBlockBuffer]).2)) =
      .ok (4, [.enqueueBlocks [3, 6] (.height 6) .moduloOnly]) :=
  rfl

/-- **The fast path overfills the queue.** With modulo 2, a batch size of 10, a queue of
capacity 7 and the scale halved by `checkBatchScale`, the scaled batch size 5 fits in the
queue, and the pass enqueues ten heights. -/
theorem moduloOnly_overfills_queue :
    (FetchState.init (moduloProject 2 10 7 true) (startAt 100)).map (fun s₀ =>
      let s₁ := (s₀.run (moduloProject 2 10 7 true) [.checkBatchScale (mkRat 1 2)]).1
      (s₁.scaledBatchSize (moduloProject 2 10 7 true), s₁.freeSize (moduloProject 2 10 7 true),
        (s₁.run (moduloProject 2 10 7 true) [.fillNextBlockBuffer]).2)) =
      .ok (5, 7, [.enqueueBlocks [2, 4, 6, 8, 10, 12, 14, 16, 18, 20] (.height 20) .moduloOnly]) :=
  rfl

/-- A datasource from height 3 whose transaction handler has no filter: its handler runs
on every block from 3 on. -/
def everyTransactionDs : NearDataSource :=
  .runtime 3 "dist/index.js" [.transaction none]

/-- **The fast path skips what a dynamic datasource needs.** With modulo 3 and a batch
size of 1, the first pass enqueues height 3. Processing it creates `everyTransactionDs`, and
the dispatcher resets the service at 4. The next pass takes the fast path again, enqueues
height 6 and buffers up to it: height 5, which the new datasource needs, is never
enqueued. -/
theorem moduloOnly_skips_dynamic_datasource :
    (FetchState.init (moduloProject 3 1 10 false) (startAt 100)).map (fun s₀ =>
      let r := s₀.run (moduloProject 3 1 10 false)
        [.fillNextBlockBuffer, .processBlock, .createDynamicDatasource everyTransactionDs,
          .resetForNewDs 4, .fillNextBlockBuffer]
      (r.1.dynamicDatasources, r.1.latestBufferedHeight, r.2)) =
      .ok ([everyTransactionDs], .height 6,
        [.enqueueBlocks [3] (.height 3) .moduloOnly, .flushQueue 4,
          .enqueueBlocks [6] (.height 6) .moduloOnly]) :=
  rfl

end NearIndexer
