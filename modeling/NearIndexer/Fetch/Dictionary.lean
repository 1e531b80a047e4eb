import NearIndexer.Fetch.Answer
import NearIndexer.Fetch.Coverage

/-!
# What the Dictionary Lets the Loop Skip

With a dictionary, a pass asks `scopedDictionaryEntries` for the heights of the window
`[start, start + DICTIONARY_MAX_QUERY_SIZE)` that match the project's query entries, merges
the answer with the modulo heights of the window, and enqueues a prefix of the sorted merge,
moving `latestBufferedHeight` to its `Math.max`. When the merge is empty it moves
`latestBufferedHeight` to the end of the window, or to the dictionary's
`lastProcessedHeight` when that is lower. The skip invariant of `NearIndexer.Fetch.Coverage`
says that the loop leaves out only heights an answer left out, up to that answer's reach.
For answers in their window, a height left out lies in the window and no modulo divides it:
the dictionary only lets the loop skip heights it answered for.

Against the plain range path, which enqueues every height, the dictionary path is an
optimisation: it should skip only heights at which no event meets the query's entries.
With a dictionary whose answers are faithful to its index, and without modulo handlers, it
does (`NearIndexer.Fetch.QueryMap`). The skip rests on the answer to the query as it was
sent, and on nothing more: a reset
between the query and its answer can make the query's entries stale
(`stale_answer_after_new_datasource`), and a query that throws after a reset falls back to
the range path from the start it was sent from. And with a modulo handler the skip is
justified only within the window of the query, not within what the dictionary has
processed: the modulo heights of the merge reach to the end of the window, so a valid answer
from a dictionary that lags behind the window moves `latestBufferedHeight` past its
`lastProcessedHeight`, and the heights in between that no modulo divides are skipped
before the dictionary has indexed them.

## Main results

* `loop_skips_only_answered_heights`: over every run from `init` of a project that is not
  modulo-only, every height from the start height up to `latestBufferedHeight` was
  enqueued, is a configured bypass height, or was left out by an answer of the dictionary,
  in the window of its query and at a height no modulo divides.
* `dictionary_error_skips_flushed_heights`: a query that throws after a reset below its
  start, the head still at or above that start, makes the pass enqueue from that start, so
  the flushed heights between the reset and it are never enqueued again.
* `lowered_head_fallback_enqueues_downward`: a query that throws after a head poll lowered
  the head below its start makes the pass enqueue lodash's downward `range`: its start
  first, then each height down to two above the head, as many as the distance and whatever
  the free size.
* `lagging_dictionary_skips_unindexed_heights`: with a modulo handler, an empty valid answer
  moves `latestBufferedHeight` to the least modulo height of the window or beyond, and
  enqueues none of the heights between the dictionary's `lastProcessedHeight` and it.
-/

namespace NearIndexer

/-! ### Answers in their window -/

/-- Whether an action's dictionary answer lies below a height. The other actions carry no
heights. -/
def FetchAction.answersBelow (queryEnd : Int) : FetchAction → Bool
  | .dictionaryAnswer (.ok (some d)) => d.batchBlocks.all (· < queryEnd)
  | _ => true

/-- Every dictionary answer of a run lies below the end of the window of the query in
flight, where the range `scopedDictionaryEntries` was asked for ends. -/
def answersWithinWindow (cfg : FetchConfig) : FetchState → List FetchAction → Bool
  | _, [] => true
  | s, a :: as =>
    s.pending.all (fun q => a.answersBelow q.queryEndBlock) &&
      answersWithinWindow cfg (s.step cfg a).1 as

variable (cfg : FetchConfig) {s : FetchState}

/-- An answer in the window of a query as sent reaches no further than the window. -/
theorem PendingQuery.reach_lt {ds : List NearDataSource} {q : PendingQuery} {d : Dictionary}
    (hq : q.AsSent ds) (hd : ∀ y ∈ d.batchBlocks, y < q.queryEndBlock) :
    q.reach d < q.queryEndBlock := by
  unfold PendingQuery.reach
  cases hm : (d.batchBlocks ++ q.moduloBlocks).max? with
  | none => simp only [Option.getD_none]; omega
  | some m =>
    rcases List.mem_append.mp (List.max?_mem (fun a b => by omega) hm) with h | h
    · exact hd m h
    · exact (mem_getModuloBlocks.mp (hq.2 ▸ h)).2.1

/-- Without modulo heights, an answer that lies up to the dictionary's `lastProcessedHeight`
reaches no further. -/
theorem PendingQuery.reach_le_lastProcessedHeight {q : PendingQuery} {d : Dictionary}
    (hm : q.moduloBlocks = []) (hd : ∀ y ∈ d.batchBlocks, y ≤ d.metadata.lastProcessedHeight) :
    q.reach d ≤ d.metadata.lastProcessedHeight := by
  unfold PendingQuery.reach
  cases hmax : (d.batchBlocks ++ q.moduloBlocks).max? with
  | none => simp only [Option.getD_none]; omega
  | some m => exact hd m (by simpa [hm] using List.max?_mem (fun a b => by omega) hmax)

/-- Without modulo heights, a height up to an answer's reach is at or below one of the
answer's heights, or the answer is empty. -/
theorem PendingQuery.exists_ge_of_le_reach {q : PendingQuery} {d : Dictionary} {x : Int}
    (hm : q.moduloBlocks = []) (hx : x ≤ q.reach d) :
    d.batchBlocks = [] ∨ ∃ y ∈ d.batchBlocks, x ≤ y := by
  unfold PendingQuery.reach at hx
  cases hmax : (d.batchBlocks ++ q.moduloBlocks).max? with
  | none => exact .inl (by simpa [hm] using hmax)
  | some m =>
    rw [hmax, Option.getD_some] at hx
    exact .inr ⟨m, by simpa [hm] using List.max?_mem (fun a b => by omega) hmax, hx⟩

/-- The answers of a run whose answers lie in their window lie in the window of the query
they answered. -/
theorem dictionaryAnswers_below (acts : List FetchAction)
    (hw : answersWithinWindow cfg s acts = true) :
    ∀ q d, (q, d) ∈ dictionaryAnswers cfg s acts → ∀ y ∈ d.batchBlocks, y < q.queryEndBlock := by
  induction acts generalizing s with
  | nil => simp [dictionaryAnswers]
  | cons a as ih =>
    simp only [answersWithinWindow, Bool.and_eq_true] at hw
    intro q d hqd
    rcases List.mem_append.mp hqd with h | h
    · obtain ⟨hp, rfl⟩ := FetchState.of_mem_answered h
      simpa [hp, FetchAction.answersBelow] using hw.1
    · exact ih hw.2 q d h

/-- **The loop skips only heights the dictionary answered for.** For a project that is not
modulo-only, over every run from `init` whose resets are at heights the loop has reached
and whose dictionary answers lie below the end of the window they were asked for, every
height from the start height up to `latestBufferedHeight` was enqueued by the run, is a
configured bypass height, or lies in the window of a query whose answer left it out, and
no modulo of the project divides it. -/
theorem loop_skips_only_answered_heights (hmod : isModuloOnly cfg = false) (i : InitInputs)
    (s₀ : FetchState) (h₀ : FetchState.init cfg i = .ok s₀) (acts : List FetchAction)
    (hres : resetsBehind cfg s₀ acts = true) (hw : answersWithinWindow cfg s₀ acts = true) :
    ∀ l, (s₀.run cfg acts).1.latestBufferedHeight = .height l →
      ∀ x, i.startHeight ≤ x → x ≤ l →
        x ∈ (s₀.run cfg acts).2.flatMap FetchEvent.heights ∨
          x ∈ cfg.project.network.bypassBlocks.getD [] ∨
          ∃ q d, (q, d) ∈ dictionaryAnswers cfg s₀ acts ∧ q.startBlockHeight ≤ x ∧
            x < q.startBlockHeight + DICTIONARY_MAX_QUERY_SIZE ∧ x ∉ d.batchBlocks ∧
            ∀ m ∈ getModulos cfg.project.dataSources, x % m ≠ 0 := by
  intro l hl x hx hxl
  have hi := (SkipInv.init cfg h₀).run cfg acts hres
  rcases hi.covered l hl x hx hxl with h | h | ⟨q, d, hqd, hqx, hxr, hxd, hxm⟩ | h
  · exact .inl (by simpa using h)
  · exact .inr (.inl h)
  · have hq := hi.answered q d hqd
    rw [List.nil_append] at hqd
    have hxe := hxr.trans_lt
      (PendingQuery.reach_lt hq (dictionaryAnswers_below cfg acts hw q d hqd))
    refine .inr (.inr ⟨q, d, hqd, hqx, hq.1 ▸ hxe, hxd, fun m hm hdvd => hxm ?_⟩)
    exact hq.2 ▸ mem_getModuloBlocks.mpr ⟨hqx, hxe, m, hm, hdvd⟩
  · exact absurd h (cfg.not_moduloSkips hmod)

/-- `init` at height 4 reading a dictionary that has processed the heights up to 4, for a
project whose only query entries are those of `alice`'s transactions. -/
def aliceInputs : InitInputs :=
  { startHeight := 4, dynamicDatasources := []
    metadata := some { lastProcessedHeight := 4, genesisHash := "near-mainnet", startHeight := 1 }
    finalizedHeight := 100, bestHeight := 100 }

/-- The state `init` builds from them, for `aliceProject` as for `moduloAliceProject`:
nothing buffered, the query map of `alice`'s transactions, and the dictionary usable from
height 1. -/
def aliceStart : FetchState :=
  { latestBestHeight := 100, latestFinalizedHeight := 100, isShutdown := false,
    batchSizeScale := 1, templateDynamicDatasouces := [], dictionaryGenesisMatches := true,
    bypassBlocks := [], initBlockHeight := 4, queriesMap := aliceEntries,
    dictionaryStartHeight := some 1, dynamicDatasources := [], queue := [],
    latestBufferedHeight := .undefined, pending := none }

/-- The answer to the query from height 4 of a dictionary that has processed the heights up
to 4 and found no transaction of `alice`. -/
def laggingAnswer : Dictionary :=
  { metadata := { lastProcessedHeight := 4, genesisHash := "near-mainnet", startHeight := 1 }
    batchBlocks := [] }

/-- The pass from height 4 and the lagging dictionary's answer to its query. -/
def laggingRun : List FetchAction :=
  [.fillNextBlockBuffer, .dictionaryAnswer (.ok (some laggingAnswer))]

/-- On `moduloAliceProject`, the pass from height 4 and the answer to its query leave no
height up to `latestBufferedHeight` unaccounted for. -/
theorem laggingRun_skips_only_answered_heights :
    isModuloOnly moduloAliceProject = false ∧
      FetchState.init moduloAliceProject aliceInputs = .ok aliceStart ∧
      resetsBehind moduloAliceProject aliceStart laggingRun = true ∧
      answersWithinWindow moduloAliceProject aliceStart laggingRun = true ∧
      ∀ l, (aliceStart.run moduloAliceProject laggingRun).1.latestBufferedHeight = .height l →
        ∀ x, aliceInputs.startHeight ≤ x → x ≤ l →
          x ∈ (aliceStart.run moduloAliceProject laggingRun).2.flatMap FetchEvent.heights ∨
            x ∈ moduloAliceProject.project.network.bypassBlocks.getD [] ∨
            ∃ q d, (q, d) ∈ dictionaryAnswers moduloAliceProject aliceStart laggingRun ∧
              q.startBlockHeight ≤ x ∧ x < q.startBlockHeight + DICTIONARY_MAX_QUERY_SIZE ∧
              x ∉ d.batchBlocks ∧ ∀ m ∈ getModulos moduloAliceProject.project.dataSources,
                x % m ≠ 0 :=
  ⟨rfl, rfl, rfl, rfl, loop_skips_only_answered_heights moduloAliceProject rfl aliceInputs
    aliceStart rfl laggingRun rfl rfl⟩

/-! ### An exception after a reset -/

/-- **A dictionary exception after a reset leaves the flushed heights behind.** Take a pass
suspended on its query from the start `q.startBlockHeight`, sent with a non-negative size
and still at or below the head the loop reads. A reset for a new datasource at `h` flushes
the dispatcher: it drops the queued heights from `h` on and lowers `latestBufferedHeight`
to `h - 1`. If the query then throws, the pass falls back to the non-dictionary way from
the start it computed before the reset, without the check that the start moved, which an
answer gets: it enqueues heights from `q.startBlockHeight` on only, and moves
`latestBufferedHeight` to one of them. So no height from `h` below the query's start is in
the queue or enqueued, and every later pass starts above it: a datasource created for `h`
never sees those blocks, where the range path enqueues them again
(`reset_reenqueues_from_height`). With a head that has fallen below the start, `range`
counts down instead (`lowered_head_fallback_enqueues_downward`). -/
theorem dictionary_error_skips_flushed_heights {q : PendingQuery} {h : Int} (e : String)
    (hp : s.pending = some q) (hsc : 0 ≤ q.scaledBatchSize)
    (hhead : q.startBlockHeight ≤ s.latestHeight cfg)
    (hflush : (s.step cfg (.resetForNewDs h)).2 = [.flushQueue h]) :
    (∀ x, h ≤ x → x < q.startBlockHeight →
      x ∉ ((s.step cfg (.resetForNewDs h)).1.step cfg (.dictionaryAnswer (.error e))).1.queue ∧
      x ∉ ((s.step cfg (.resetForNewDs h)).1.step cfg
        (.dictionaryAnswer (.error e))).2.flatMap FetchEvent.heights) ∧
    ∀ m, ((s.step cfg (.resetForNewDs h)).1.step cfg
        (.dictionaryAnswer (.error e))).1.latestBufferedHeight = .height m →
      q.startBlockHeight ≤ m := by
  rcases s.reset_cases cfg h with hr | ⟨qm, hr⟩ <;>
    simp only [FetchState.step, FetchState.resetForNewDs, hr] at hflush ⊢
  · cases hflush
  generalize ht : { s.syncDynamicDatascourcesFromMeta with queriesMap := qm }.flushQueue h = t
  have htp : t.pending = some q := ht ▸ hp
  have htq : ∀ x ∈ t.queue, x < h := by
    subst ht
    intro x hx
    simpa using (List.mem_filter.mp hx).2
  have hans : t.dictionaryAnswer cfg (.error e) =
      { t with pending := none }.enqueueNextBlocks cfg q.startBlockHeight q.scaledBatchSize := by
    simp [FetchState.dictionaryAnswer, htp]
  have hfrom := (({ t with pending := none } : FetchState).nextBlocks_from cfg hsc
    (by subst ht; exact hhead)).2
  rw [hans]
  simp only [FetchState.enqueueNextBlocks, FetchState.enqueueBatch_fst, FetchState.enqueueBatch_snd,
    List.flatMap_cons, List.flatMap_nil, FetchEvent.heights, List.append_nil,
    getLatestBufferHeight_of_sublist (filteredBlockBatch_fst_sublist _ _)]
  generalize ({ t with pending := none } : FetchState).nextBlocks cfg q.startBlockHeight
    q.scaledBatchSize = nb at hfrom ⊢
  have hge : ∀ y ∈ (filteredBlockBatch t.bypassBlocks nb.1).1, q.startBlockHeight ≤ y :=
    fun y hy => hfrom y ((filteredBlockBatch_fst_sublist _ _).subset hy)
  refine ⟨fun x hx hxq => ⟨fun hmem => ?_, fun hmem => absurd (hge x hmem) (by omega)⟩,
    fun m hm => ?_⟩
  · rcases List.mem_append.mp hmem with hq | hq
    · exact absurd (htq x hq) (by omega)
    · exact absurd (hge x hq) (by omega)
  · cases hmax : nb.1.max? with
    | none => simp [hmax, BufferedHeight.ofMax] at hm
    | some m' =>
      obtain rfl : m' = m := by simpa [hmax, BufferedHeight.ofMax] using hm
      exact hfrom m' (List.max?_mem (fun a b => by omega) hmax)

/-- The heights up to 5 buffered, 3 to 5 still in the queue, and the pass from 6 suspended on
its query. -/
def aliceQueryFromSix : FetchState :=
  ({ bufferedUpTo aliceEntries [] 5 with queue := [3, 4, 5] }.fillNextBlockBuffer aliceProject).1

/-- A reset at 3 flushes heights 3 to 5; the query then throws, and the pass enqueues from 6:
heights 3 to 5 are neither queued nor enqueued again. -/
theorem aliceError_skips_flushed_heights :
    aliceQueryFromSix.pending =
        some ({ bufferedUpTo aliceEntries [] 5 with queue := [3, 4, 5] }.dictionaryQuery
          aliceProject 6) ∧
      0 ≤ ({ bufferedUpTo aliceEntries [] 5 with queue := [3, 4, 5] }.dictionaryQuery
          aliceProject 6).scaledBatchSize ∧
      6 ≤ aliceQueryFromSix.latestHeight aliceProject ∧
      (aliceQueryFromSix.step aliceProject (.resetForNewDs 3)).2 = [.flushQueue 3] ∧
      (∀ x, 3 ≤ x → x < 6 →
        x ∉ ((aliceQueryFromSix.step aliceProject (.resetForNewDs 3)).1.step aliceProject
          (.dictionaryAnswer (.error "timeout"))).1.queue ∧
        x ∉ ((aliceQueryFromSix.step aliceProject (.resetForNewDs 3)).1.step aliceProject
          (.dictionaryAnswer (.error "timeout"))).2.flatMap FetchEvent.heights) ∧
      ∀ m, ((aliceQueryFromSix.step aliceProject (.resetForNewDs 3)).1.step aliceProject
          (.dictionaryAnswer (.error "timeout"))).1.latestBufferedHeight = .height m → 6 ≤ m :=
  ⟨rfl, FetchState.scaledBatchSize_nonneg _ _, by decide, rfl,
    dictionary_error_skips_flushed_heights aliceProject (s := aliceQueryFromSix) (h := 3)
      "timeout" rfl (FetchState.scaledBatchSize_nonneg _ _) (by decide) rfl⟩

/-! ### A head that falls -/

/-- With the target below one under a start, a batch of non-negative size ends at the head
the loop reads. -/
theorem FetchState.nextEndBlockHeight_of_lt {start scaled : Int} (hsc : 0 ≤ scaled)
    (hlow : s.targetHeight cfg + 1 < start) :
    s.nextEndBlockHeight cfg start scaled = s.latestHeight cfg := by
  unfold FetchState.nextEndBlockHeight FetchState.latestHeight
  unfold FetchState.targetHeight at hlow
  dsimp only
  split_ifs at hlow ⊢ <;> omega

/-- The `Math.max` of a `range` past its end is its start. -/
theorem max?_range_of_lt {a b : Int} (h : b < a) : (range a b).max? = some a := by
  haveI : Std.Antisymm fun x y : Int => x ≤ y := ⟨Int.le_antisymm⟩
  rw [range_of_lt h, List.max?_eq_some_iff (fun _ => le_rfl) (fun a b => by omega)
    (fun a b c => by omega)]
  simp only [List.mem_reverse, mem_intRange]
  exact ⟨by omega, fun x hx => by omega⟩

/-- **A head poll that lowers the head turns the fallback downward.** Take a pass suspended
on its query from `q.startBlockHeight`, sent with a non-negative size, in a project that is
not modulo-only, and a head poll (from another endpoint of the pool, say) that has lowered
the target height below `q.startBlockHeight - 1`. If the query then throws, the pass falls
back to the range way from the start it computed before the query, with `endHeight` at the
head as it is now, and lodash's `range` counts down: the pass enqueues its start first and
then each height down to two above the head, and moves `latestBufferedHeight` to the start.
With no bypass heights it enqueues `q.startBlockHeight - latestHeight - 1` heights, whatever
the free size: the queue is no longer sorted, holds heights above the target, and can
exceed its capacity. An empty answer or one that fails validation falls back the same way. -/
theorem lowered_head_fallback_enqueues_downward (hmod : isModuloOnly cfg = false)
    {q : PendingQuery} (hp : s.pending = some q) (hsc : 0 ≤ q.scaledBatchSize)
    (hlow : s.targetHeight cfg + 1 < q.startBlockHeight) (e : String) :
    ∃ heights, (s.dictionaryAnswer cfg (.error e)).2 =
        [.enqueueBlocks heights (.height q.startBlockHeight) .range] ∧
      heights.Sorted (· > ·) ∧
      (∀ x ∈ heights, s.latestHeight cfg + 1 < x ∧ x ≤ q.startBlockHeight) ∧
      (s.bypassBlocks = [] →
        heights.length = (q.startBlockHeight - s.latestHeight cfg - 1).toNat) := by
  have hlt : s.latestHeight cfg + 1 < q.startBlockHeight := by
    unfold FetchState.latestHeight
    unfold FetchState.targetHeight at hlow
    split_ifs at hlow ⊢ <;> omega
  have hraw : ({ s with pending := none } : FetchState).nextBlocks cfg q.startBlockHeight
      q.scaledBatchSize = ((intRange (s.latestHeight cfg + 1 + 1) (q.startBlockHeight + 1)).reverse,
        .range) := by
    simp only [FetchState.nextBlocks, hmod, Bool.false_eq_true, if_false]
    rw [show ({ s with pending := none } : FetchState).nextEndBlockHeight cfg q.startBlockHeight
      q.scaledBatchSize = s.latestHeight cfg from s.nextEndBlockHeight_of_lt cfg hsc hlow,
      range_of_lt hlt]
  have hmax : ((intRange (s.latestHeight cfg + 1 + 1) (q.startBlockHeight + 1)).reverse).max? =
      some q.startBlockHeight := by
    rw [← range_of_lt hlt]
    exact max?_range_of_lt hlt
  have hans : s.dictionaryAnswer cfg (.error e) =
      { s with pending := none }.enqueueNextBlocks cfg q.startBlockHeight q.scaledBatchSize := by
    simp [FetchState.dictionaryAnswer, hp]
  have hsub := filteredBlockBatch_fst_sublist s.bypassBlocks
    (intRange (s.latestHeight cfg + 1 + 1) (q.startBlockHeight + 1)).reverse
  rw [hans]
  simp only [FetchState.enqueueNextBlocks, hraw, FetchState.enqueueBatch_snd,
    getLatestBufferHeight_of_sublist hsub, hmax, BufferedHeight.ofMax]
  refine ⟨_, rfl, (List.pairwise_reverse.mpr (intRange_sorted _ _)).sublist hsub,
    fun x hx => ?_, fun hb => ?_⟩
  · have := hsub.subset hx
    simp only [List.mem_reverse, mem_intRange] at this
    omega
  · simp only [filteredBlockBatch, hb, List.isEmpty_nil, if_true, List.length_reverse,
      length_intRange]
    omega

/-- The pass from 6 suspended on its query, after a head poll that reads the finalized head
at 3. -/
def aliceHeadAtThree : FetchState :=
  (aliceQueryFromSix.step aliceProject (.getFinalizedBlockHead 3)).1

/-- With the head at 3, the query from 6 throws and the pass enqueues 6 and then 5. -/
theorem aliceHeadAtThree_enqueues_downward :
    isModuloOnly aliceProject = false ∧
      aliceHeadAtThree.pending =
        some ({ bufferedUpTo aliceEntries [] 5 with queue := [3, 4, 5] }.dictionaryQuery
          aliceProject 6) ∧
      0 ≤ ({ bufferedUpTo aliceEntries [] 5 with queue := [3, 4, 5] }.dictionaryQuery
          aliceProject 6).scaledBatchSize ∧
      aliceHeadAtThree.targetHeight aliceProject + 1 < 6 ∧
      ∃ heights, (aliceHeadAtThree.dictionaryAnswer aliceProject (.error "timeout")).2 =
          [.enqueueBlocks heights (.height 6) .range] ∧
        heights.Sorted (· > ·) ∧
        (∀ x ∈ heights, aliceHeadAtThree.latestHeight aliceProject + 1 < x ∧ x ≤ 6) ∧
        (aliceHeadAtThree.bypassBlocks = [] →
          heights.length = (6 - aliceHeadAtThree.latestHeight aliceProject - 1).toNat) :=
  ⟨rfl, rfl, FetchState.scaledBatchSize_nonneg _ _, by decide,
    lowered_head_fallback_enqueues_downward aliceProject (s := aliceHeadAtThree) rfl (by rfl)
      (FetchState.scaledBatchSize_nonneg _ _) (by decide) "timeout"⟩

example :
    (aliceHeadAtThree.dictionaryAnswer aliceProject (.error "timeout")).2 =
      [.enqueueBlocks [6, 5] (.height 6) .range] := by
  decide

/-! ### A lagging dictionary -/

/-- **A lagging dictionary lets the loop skip heights it has not indexed.** Take a query in
flight, answered at an unmoved start by a dictionary with a matching genesis that has
processed the query's start but found no height, and a queue with room. The dictionary
branch enqueues a prefix of the window's modulo heights and moves `latestBufferedHeight` to
its `Math.max`, at or above the least modulo height `y` of the window, and enqueues no
height below `y`. The heights between the dictionary's `lastProcessedHeight` and `y` are
then behind the next pass, though the dictionary has not processed them. -/
theorem lagging_dictionary_skips_unindexed_heights {q : PendingQuery} {d : Dictionary}
    {y : Int} (hp : s.pending = some q) (hs : s.getStartBlockHeight = some q.startBlockHeight)
    (hg : d.metadata.genesisHash = cfg.genesisHash)
    (hl : q.startBlockHeight ≤ d.metadata.lastProcessedHeight) (hd : d.batchBlocks = [])
    (hy : y ∈ q.moduloBlocks) (hmin : ∀ z ∈ q.moduloBlocks, y ≤ z)
    (hfree : 0 < s.freeSize cfg) :
    ∃ m, (s.dictionaryAnswer cfg (.ok (some d))).1.latestBufferedHeight = .height m ∧ y ≤ m ∧
      ∀ x, x < y → x ∉ (s.dictionaryAnswer cfg (.ok (some d))).2.flatMap FetchEvent.heights := by
  have hperm := List.perm_insertionSort (· ≤ ·) (d.batchBlocks ++ q.moduloBlocks)
  have hge : ∀ z ∈ (d.batchBlocks ++ q.moduloBlocks).insertionSort (· ≤ ·), y ≤ z :=
    fun z hz => hmin z (by simpa [hd] using hperm.subset hz)
  have hym : y ∈ (d.batchBlocks ++ q.moduloBlocks).insertionSort (· ≤ ·) :=
    hperm.symm.subset (by simp [hd, hy])
  rw [s.dictionaryAnswer_of_valid cfg hp hs hg hl]
  unfold FetchState.enqueueDictionaryBlocks
  dsimp only
  rw [if_neg (by simpa [List.isEmpty_iff] using List.ne_nil_of_mem hym)]
  simp only [FetchState.enqueueBatch_fst, FetchState.enqueueBatch_snd,
    getLatestBufferHeight_of_sublist (filteredBlockBatch_fst_sublist _ _)]
  generalize hraw : List.take _ _ = raw
  have hne : raw ≠ [] := hraw ▸ FetchState.take_freeSize_ne_nil cfg (List.ne_nil_of_mem hym) hfree
  have hsub : ∀ z ∈ raw, y ≤ z := fun z hz => hge z (List.mem_of_mem_take (hraw ▸ hz))
  obtain ⟨m, hm⟩ := Option.ne_none_iff_exists'.mp (mt List.max?_eq_none_iff.mp hne)
  obtain ⟨z, hz⟩ := List.exists_mem_of_ne_nil raw hne
  refine ⟨m, by simp [hm, BufferedHeight.ofMax], (hsub z hz).trans (le_of_max?_eq_some hm hz),
    fun x hx hxe => ?_⟩
  simp only [List.flatMap_cons, List.flatMap_nil, FetchEvent.heights, List.append_nil] at hxe
  exact absurd (hsub x ((filteredBlockBatch_fst_sublist _ _).subset hxe)) (not_le.mpr hx)

/-- From `init` at height 4, the pass sends its query and the dictionary, processed up to
height 4, answers with no height: `latestBufferedHeight` moves to 6 or beyond, and height 5,
which the dictionary has not processed, is not enqueued. -/
theorem laggingAnswer_skips_height_five :
    laggingAnswer.metadata.lastProcessedHeight < 5 ∧
      ∃ m, ((aliceStart.run moduloAliceProject [.fillNextBlockBuffer]).1.dictionaryAnswer
          moduloAliceProject (.ok (some laggingAnswer))).1.latestBufferedHeight = .height m ∧
        6 ≤ m ∧ ∀ x, x < 6 → x ∉ ((aliceStart.run moduloAliceProject
          [.fillNextBlockBuffer]).1.dictionaryAnswer moduloAliceProject
            (.ok (some laggingAnswer))).2.flatMap FetchEvent.heights := by
  have hq := FetchState.dictionaryQuery_moduloBlocks moduloAliceProject aliceStart 4
  have hmod : getModulos moduloAliceProject.project.dataSources = [3] := rfl
  refine ⟨by decide, lagging_dictionary_skips_unindexed_heights moduloAliceProject
    (q := aliceStart.dictionaryQuery moduloAliceProject 4) rfl rfl rfl (by decide) rfl
    (hq ▸ mem_getModuloBlocks.mpr ⟨by decide, by decide, 3, by simp [hmod], by decide⟩)
    (fun z hz => ?_) (by decide)⟩
  obtain ⟨h4, -, m, hm, hz⟩ := mem_getModuloBlocks.mp (hq ▸ hz)
  obtain rfl : m = 3 := by simpa [hmod] using hm
  omega

end NearIndexer
