import NearIndexer.Fetch.Batches

/-!
# The Dispatcher's Queue Stays in Order

The block dispatcher processes its buffered heights from the front of its queue. Every way
of the loop builds a batch that is sorted and starts at the pass's start height, one above
`latestBufferedHeight`: the range `[start, end]`, the modulo heights from `start` on, and
the sorted merge of a dictionary answer with the modulo heights of the query's window. The
bypass filter only removes heights. A flush keeps the heights below the flush height and
lowers `latestBufferedHeight` under it, and processing takes the front of the queue. So,
with dictionary answers that lie in the range they were asked for, the queue is sorted at
every state of every run, and lies below the height the next pass starts from.

The range `[start, end]` is lodash's `range(start, end + 1)`, which runs upward only from a
start at or below the head: a pass checks that, and a fallback after a query relies on the
head not having fallen since the query was sent (`PendingInv`). Over runs in which a head
poll lowers the head, the fallback enqueues its start first and counts down
(`lowered_head_fallback_enqueues_downward`), and the queue is no longer sorted.

Two conventions of the code enter. A `latestBufferedHeight` of `0` is falsy, and the next
pass starts at `initBlockHeight` again, so the start height must be positive. And a pass
suspended on its query resumes from the start it was sent with, whatever happened in
between: the heights buffered stay below it because they only shrink while it is pending.

Equal heights may stand next to each other: the merge of a dictionary answer with the
modulo heights keeps both copies of a height in both (`dictionary_batch_repeats_modulo_height`).

## Main results

* `QueueInv.step`: every step keeps the order invariant, given an answer from the
  query's start on.
* `dispatcher_queue_stays_sorted`: over every run from `init` at a positive height whose
  dictionary answers lie at or above the start of their query and whose head never falls,
  the queue is sorted and lies below the start of the next pass.
-/

namespace NearIndexer

/-- Whether an action's dictionary answer lies at or above a start height. The other
actions carry no heights. -/
def FetchAction.answersFrom (start : Int) : FetchAction → Bool
  | .dictionaryAnswer (.ok (some d)) => d.batchBlocks.all (start ≤ ·)
  | _ => true

/-- Every dictionary answer of a run lies at or above the start height of the query in
flight, where the range `scopedDictionaryEntries` was asked for begins. -/
def answersFromStart (cfg : FetchConfig) : FetchState → List FetchAction → Bool
  | _, [] => true
  | s, a :: as =>
    s.pending.all (fun q => a.answersFrom q.startBlockHeight) &&
      answersFromStart cfg (s.step cfg a).1 as

/-- **The order of the dispatcher's queue**: sorted, at or below `latestBufferedHeight`,
empty before the first enqueue, below the start of the query in flight; the query in
flight is well formed, and the loop's start height is positive. -/
structure QueueInv (s : FetchState) : Prop where
  sorted : s.queue.Sorted (· ≤ ·)
  le_buffered : ∀ l, s.latestBufferedHeight = .height l → ∀ x ∈ s.queue, x ≤ l
  empty_of_undefined : s.latestBufferedHeight = .undefined → s.queue = []
  lt_pending : ∀ q, s.pending = some q → ∀ x ∈ s.queue, x < q.startBlockHeight
  pending_wf : ∀ q, s.pending = some q →
    q.startBlockHeight < q.queryEndBlock ∧ ∀ h ∈ q.moduloBlocks, q.startBlockHeight ≤ h
  init_pos : 0 < s.initBlockHeight

variable (cfg : FetchConfig) {s : FetchState}

/-! ### Reading lemmas -/

/-- Every height of a list is at most its `Math.max`. -/
theorem le_of_max?_eq_some {l : List Int} {m x : Int} (h : l.max? = some m) (hx : x ∈ l) :
    x ≤ m :=
  (List.max?_le_iff (fun a b c => by omega) h).mp le_rfl x hx

/-- The queue lies below the start of the next pass. -/
theorem QueueInv.lt_start (hi : QueueInv s) {start : Int}
    (h : s.getStartBlockHeight = some start) : ∀ x ∈ s.queue, x < start := by
  intro x hx
  unfold FetchState.getStartBlockHeight at h
  rcases hl : s.latestBufferedHeight with _ | _ | l <;> simp only [hl] at h
  · simp [hi.empty_of_undefined hl] at hx
  · cases h
  · have := hi.le_buffered l hl x hx
    have := hi.init_pos
    split at h <;> cases h <;> omega

/-- The invariant reads the queue, the buffered height, the query in flight and the start
height only; a state that agrees on them and has no query in flight keeps it. -/
theorem QueueInv.of_eq {s' : FetchState} (hi : QueueInv s) (hq : s'.queue = s.queue)
    (hl : s'.latestBufferedHeight = s.latestBufferedHeight) (hp : s'.pending = none)
    (hinit : s'.initBlockHeight = s.initBlockHeight) : QueueInv s' where
  sorted := hq ▸ hi.sorted
  le_buffered := hq ▸ hl ▸ hi.le_buffered
  empty_of_undefined := hq ▸ hl ▸ hi.empty_of_undefined
  lt_pending := by simp [hp]
  pending_wf := by simp [hp]
  init_pos := hinit ▸ hi.init_pos

/-- The batch of the non-dictionary way from a start at or below the head is strictly
increasing and starts at the pass's start. -/
theorem FetchState.nextBlocks_from {start scaled : Int} (hsc : 0 ≤ scaled)
    (hle : start ≤ s.latestHeight cfg) :
    (s.nextBlocks cfg start scaled).1.Sorted (· < ·) ∧
      ∀ y ∈ (s.nextBlocks cfg start scaled).1, start ≤ y := by
  unfold nextBlocks
  split
  · exact ⟨getEnqueuedModuloBlocks_sorted _ _ _, fun y hy => (mem_getEnqueuedModuloBlocks hy).1⟩
  · rw [s.range_nextEnd cfg hsc hle]
    exact ⟨intRange_sorted _ _, fun y hy => (mem_intRange.mp hy).1⟩

/-! ### One step -/

/-- **A sorted batch from a height above the queue keeps the order**, filtered or not,
wherever its `Math.max` leaves `latestBufferedHeight`. -/
theorem QueueInv.enqueueBatch (hi : QueueInv s) (hp : s.pending = none) {raw : List Int}
    (hs : raw.Sorted (· ≤ ·)) (hq : ∀ x ∈ s.queue, ∀ y ∈ raw, x ≤ y) (source : BatchSource) :
    QueueInv (s.enqueueBatch raw source).1 := by
  have hsub := filteredBlockBatch_fst_sublist s.bypassBlocks raw
  refine ⟨?_, ?_, ?_, by simp [hp], by simp [hp], hi.init_pos⟩
  · exact List.pairwise_append.mpr ⟨hi.sorted, hs.sublist hsub,
      fun x hx y hy => hq x hx y (hsub.subset hy)⟩
  · intro l hl x hx
    simp only [FetchState.enqueueBatch_fst] at hl hx
    cases hm : getLatestBufferHeight (filteredBlockBatch s.bypassBlocks raw).1 raw with
    | none => simp [hm, BufferedHeight.ofMax] at hl
    | some m =>
      simp only [hm, BufferedHeight.ofMax, BufferedHeight.height.injEq] at hl
      subst hl
      rcases List.mem_append.mp hx with hx | hx
      · obtain ⟨y, hy⟩ := List.exists_mem_of_ne_nil raw fun h => by
          simp [getLatestBufferHeight, h, List.sublist_nil.mp (h ▸ hsub)] at hm
        exact (hq x hx y hy).trans (le_of_max?_eq_some hm (List.mem_append_right _ hy))
      · exact le_of_max?_eq_some hm (List.mem_append_left _ hx)
  · simp only [FetchState.enqueueBatch_fst]
    cases getLatestBufferHeight (filteredBlockBatch s.bypassBlocks raw).1 raw <;>
      simp [BufferedHeight.ofMax]

/-- The non-dictionary way keeps the order from a start above the queue and at or below the
head. -/
theorem QueueInv.enqueueNextBlocks (hi : QueueInv s) (hp : s.pending = none) {start scaled : Int}
    (hq : ∀ x ∈ s.queue, x < start) (hsc : 0 ≤ scaled) (hle : start ≤ s.latestHeight cfg) :
    QueueInv (s.enqueueNextBlocks cfg start scaled).1 :=
  hi.enqueueBatch hp ((s.nextBlocks_from cfg hsc hle).1.imp le_of_lt)
    (fun x hx y hy => (hq x hx).le.trans ((s.nextBlocks_from cfg hsc hle).2 y hy)) _

/-- The dictionary branch keeps the order, given an answer from the query's start on. -/
theorem QueueInv.enqueueDictionaryBlocks (hi : QueueInv s) (hp : s.pending = none)
    {q : PendingQuery} {d : Dictionary} (hq : ∀ x ∈ s.queue, x < q.startBlockHeight)
    (hwf : q.startBlockHeight < q.queryEndBlock ∧ ∀ h ∈ q.moduloBlocks, q.startBlockHeight ≤ h)
    (hd : ∀ h ∈ d.batchBlocks, q.startBlockHeight ≤ h)
    (hl : q.startBlockHeight ≤ d.metadata.lastProcessedHeight) :
    QueueInv (s.enqueueDictionaryBlocks cfg q d).1 := by
  unfold FetchState.enqueueDictionaryBlocks
  dsimp only
  split
  · refine ⟨by simpa [FetchState.enqueueBlocks] using hi.sorted, ?_,
      by simp [FetchState.enqueueBlocks], by simp [FetchState.enqueueBlocks, hp],
      by simp [FetchState.enqueueBlocks, hp], hi.init_pos⟩
    simp only [FetchState.enqueueBlocks, List.append_nil, BufferedHeight.height.injEq]
    rintro l rfl x hx
    have := hq x hx
    have := hwf.1
    omega
  · refine hi.enqueueBatch hp ?_ (fun x hx y hy => (hq x hx).le.trans ?_) .dictionary
    · exact (List.sorted_insertionSort _ _).sublist (List.take_sublist _ _)
    · have hy := (List.perm_insertionSort _ _).subset (List.mem_of_mem_take hy)
      rcases List.mem_append.mp hy with hy | hy
      · exact hd y hy
      · exact hwf.2 y hy

/-- **Every step keeps the order invariant**, from a state with `PendingInv`, given that
an answer lies at or above the start of the query in flight. -/
theorem QueueInv.step (hi : QueueInv s) (hpi : PendingInv cfg s) (a : FetchAction)
    (ha : ∀ q, s.pending = some q → a.answersFrom q.startBlockHeight = true) :
    QueueInv (s.step cfg a).1 := by
  cases a with
  | fillNextBlockBuffer =>
    rcases s.fillNextBlockBuffer_cases cfg with h | ⟨hp, -, -, src, -, h⟩ |
        ⟨st, hp, -, hst, hle, h⟩ | ⟨st, hp, -, hst, -, -, h⟩ <;> simp only [FetchState.step, h]
    · exact hi
    · exact hi.enqueueBatch hp List.sorted_nil (by simp) src
    · exact hi.enqueueNextBlocks cfg hp (hi.lt_start hst) (s.scaledBatchSize_nonneg cfg) hle
    · refine ⟨hi.sorted, hi.le_buffered, hi.empty_of_undefined, ?_, ?_, hi.init_pos⟩
      · rintro q ⟨⟩
        exact hi.lt_start hst
      · rintro q ⟨⟩
        refine ⟨by simp [FetchState.dictionaryQuery, DICTIONARY_MAX_QUERY_SIZE], fun h hh => ?_⟩
        exact (mem_getModuloBlocks.mp hh).1
  | dictionaryAnswer r =>
    have hi₀ : QueueInv { s with pending := none } := hi.of_eq rfl rfl rfl rfl
    rcases s.dictionaryAnswer_cases cfg r with ⟨-, h⟩ | ⟨q, hq, h | ⟨-, h⟩ | ⟨d, -, -, h⟩ |
        ⟨d, rfl, -, -, hl, h⟩⟩ <;> simp only [FetchState.step, h]
    · exact hi
    · exact hi₀.enqueueNextBlocks cfg rfl (hi.lt_pending q hq) (hpi q hq).2.1 (hpi q hq).2.2
    · exact hi₀
    · have hi₁ : QueueInv { s with pending := none, dictionaryGenesisMatches := false } :=
        hi.of_eq rfl rfl rfl rfl
      exact hi₁.enqueueNextBlocks cfg rfl (hi.lt_pending q hq) (hpi q hq).2.1 (hpi q hq).2.2
    · have hd := ha q hq
      simp only [FetchAction.answersFrom, List.all_eq_true, decide_eq_true_eq] at hd
      exact hi₀.enqueueDictionaryBlocks cfg rfl (hi.lt_pending q hq) (hi.pending_wf q hq) hd hl
  | resetForNewDs h | resetForIncorrectBestBlock h =>
    rcases s.reset_cases cfg h with hr | ⟨m, hr⟩ <;>
      simp only [FetchState.step, FetchState.resetForNewDs, FetchState.resetForIncorrectBestBlock, hr]
    · exact ⟨hi.sorted, hi.le_buffered, hi.empty_of_undefined, hi.lt_pending, hi.pending_wf,
        hi.init_pos⟩
    · refine ⟨hi.sorted.sublist (List.filter_sublist _), ?_, by simp [FetchState.flushQueue],
        fun q hq x hx => hi.lt_pending q hq x (List.mem_of_mem_filter hx), hi.pending_wf,
        hi.init_pos⟩
      simp only [FetchState.flushQueue, BufferedHeight.height.injEq]
      rintro l rfl x hx
      have := (List.mem_filter.mp hx).2
      simp only [decide_eq_true_eq] at this
      omega
  | processBlock =>
    exact ⟨hi.sorted.sublist (List.tail_sublist _),
      fun l hl x hx => hi.le_buffered l hl x (List.mem_of_mem_tail hx),
      fun hl => by simp [FetchState.step, hi.empty_of_undefined hl],
      fun q hq x hx => hi.lt_pending q hq x (List.mem_of_mem_tail hx), hi.pending_wf, hi.init_pos⟩
  | checkBatchScale scale =>
    simp only [FetchState.step, FetchState.checkBatchScale]
    split
    · exact ⟨hi.sorted, hi.le_buffered, hi.empty_of_undefined, hi.lt_pending, hi.pending_wf,
        hi.init_pos⟩
    · exact hi
  | _ =>
    exact ⟨hi.sorted, hi.le_buffered, hi.empty_of_undefined, hi.lt_pending, hi.pending_wf,
      hi.init_pos⟩

/-! ### Whole runs -/

/-- The order invariant holds, with `PendingInv`, over every run whose answers lie at or
above their query's start and whose head never falls. -/
theorem QueueInv.run (hi : QueueInv s) (hpi : PendingInv cfg s) (acts : List FetchAction)
    (hans : answersFromStart cfg s acts = true) (hh : headNeverFalls cfg s acts = true) :
    QueueInv (s.run cfg acts).1 := by
  induction acts generalizing s with
  | nil => exact hi
  | cons a as ih =>
    simp only [answersFromStart, headNeverFalls, Bool.and_eq_true, decide_eq_true_eq] at hans hh
    exact ih (hi.step cfg hpi a fun q hq => by simpa [hq] using hans.1)
      (s.step_pendingInv cfg a hh.1 hpi) hans.2 hh.2

/-- `init` at a positive height establishes the order invariant. -/
theorem QueueInv.init {i : InitInputs} {s₀ : FetchState} (h : FetchState.init cfg i = .ok s₀)
    (hstart : 0 < i.startHeight) : QueueInv s₀ := by
  obtain ⟨hq, hl, hp, hinit, -⟩ := FetchState.init_fields cfg h
  exact ⟨hq ▸ List.sorted_nil, by simp [hl], fun _ => hq, by simp [hp], by simp [hp],
    hinit ▸ hstart⟩

end NearIndexer
