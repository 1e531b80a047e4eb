import NearIndexer.Fetch.Genesis
import NearIndexer.Fetch.Order

/-!
# When the Loop Stops Buffering

Two ways the fetch loop stops handing heights to the dispatcher.

`onApplicationShutdown` sets `isShutdown`, and the loop exits at its next test of the
`while` condition. A pass suspended on its dictionary query is not cancelled: the answer
resumes it, and it runs on to its `continue`, which may enqueue one batch. Nothing lowers
`isShutdown` again and no pass starts once it is up, so after the shutdown the loop makes
at most that one `enqueueBlocks` call, and none when no query was in flight.

A project whose block handlers all filter by a negative modulo takes the modulo-only fast
path, and its window `[start, start + batchSize * Math.max(...modulos))` is empty. So every
batch of the non-dictionary way is empty, and `Math.max()` of the empty batch sets
`latestBufferedHeight` to `-Infinity`, from which every later pass starts. The manifest's
`BlockFilter` only asks `modulo` to be an integer, and `filterBlockModulo` passes the
multiples of a negative modulo like those of its absolute value: the handler would fire,
but without a dictionary no run ever buffers a height for it.

## Main results

* `enqueues_after_shutdown`: after `onApplicationShutdown`, any run makes at most one
  `enqueueBlocks` call, and none when no dictionary query is in flight.
* `negative_modulos_enqueue_nothing`: for a modulo-only project whose modulos are all
  negative and that has no dictionary, every `enqueueBlocks` call of every run passes no
  height and sets `latestBufferedHeight` to `-Infinity`.
-/

namespace NearIndexer

/-- Whether an event is an `enqueueBlocks` call. -/
def FetchEvent.isEnqueue : FetchEvent → Bool
  | .enqueueBlocks .. => true
  | _ => false

/-- The number of passes suspended on a dictionary query: one or none. -/
def FetchState.inFlight (s : FetchState) : Nat :=
  if s.pending.isSome then 1 else 0

variable (cfg : FetchConfig) {s : FetchState}

/-! ### After the shutdown -/

/-- The non-dictionary way makes one `enqueueBlocks` call and keeps the flag and the
query. -/
theorem FetchState.enqueueNextBlocks_enqueues (start scaled : Int) :
    (s.enqueueNextBlocks cfg start scaled).2.countP FetchEvent.isEnqueue = 1 ∧
      (s.enqueueNextBlocks cfg start scaled).1.isShutdown = s.isShutdown :=
  ⟨by simp [enqueueNextBlocks, FetchEvent.isEnqueue], rfl⟩

/-- The dictionary branch makes one `enqueueBlocks` call and keeps the flag. -/
theorem FetchState.enqueueDictionaryBlocks_enqueues (q : PendingQuery) (d : Dictionary) :
    (s.enqueueDictionaryBlocks cfg q d).2.countP FetchEvent.isEnqueue = 1 ∧
      (s.enqueueDictionaryBlocks cfg q d).1.isShutdown = s.isShutdown := by
  unfold enqueueDictionaryBlocks
  dsimp only
  split <;> simp [enqueueBlocks, FetchEvent.isEnqueue]

/-- An answer makes at most one `enqueueBlocks` call, none without a query in flight, and
keeps the flag. -/
theorem FetchState.dictionaryAnswer_enqueues (r : Except String (Option Dictionary)) :
    (s.dictionaryAnswer cfg r).2.countP FetchEvent.isEnqueue ≤ s.inFlight ∧
      (s.dictionaryAnswer cfg r).1.isShutdown = s.isShutdown := by
  rcases s.dictionaryAnswer_cases cfg r with ⟨-, h⟩ | ⟨q, hq, h | ⟨-, h⟩ | ⟨d, -, -, h⟩ |
      ⟨d, -, -, -, -, h⟩⟩ <;> rw [h]
  · simp
  · simp [inFlight, hq, enqueueNextBlocks_enqueues]
  · simp [inFlight]
  · simp [inFlight, hq, FetchEvent.isEnqueue, enqueueNextBlocks_enqueues]
  · simp [inFlight, hq, enqueueDictionaryBlocks_enqueues]

/-- **One step after the shutdown.** The flag stays up, and the `enqueueBlocks` calls of
the step together with the query it leaves in flight are no more than the query it found:
a step that enqueues consumes the query. -/
theorem FetchState.step_after_shutdown (a : FetchAction) (hs : s.isShutdown = true) :
    (s.step cfg a).1.isShutdown = true ∧
      (s.step cfg a).2.countP FetchEvent.isEnqueue + (s.step cfg a).1.inFlight ≤ s.inFlight := by
  cases a with
  | fillNextBlockBuffer => simp [step, fillNextBlockBuffer, hs]
  | dictionaryAnswer r =>
    obtain ⟨h1, h2⟩ := s.dictionaryAnswer_enqueues cfg r
    simpa [step, inFlight, dictionaryAnswer_pending, h2, hs] using h1
  | resetForNewDs h | resetForIncorrectBestBlock h =>
    rcases s.reset_cases cfg h with hr | ⟨m, hr⟩ <;>
      simp [step, resetForNewDs, resetForIncorrectBestBlock, hr, hs, inFlight, flushQueue,
        syncDynamicDatascourcesFromMeta, FetchEvent.isEnqueue]
  | checkBatchScale scale =>
    simp only [step, checkBatchScale]
    split <;> simp [hs, inFlight]
  | _ => simp [step, hs, inFlight]

/-- After the shutdown, a run makes no more `enqueueBlocks` calls than there are queries in
flight. -/
theorem FetchState.run_after_shutdown (acts : List FetchAction) (hs : s.isShutdown = true) :
    (s.run cfg acts).2.countP FetchEvent.isEnqueue ≤ s.inFlight := by
  induction acts generalizing s with
  | nil => simp
  | cons a as ih =>
    obtain ⟨h1, h2⟩ := s.step_after_shutdown cfg a hs
    have := ih h1
    rw [run_cons, List.countP_append]
    omega

/-- **Shutdown stops the loop after the pass in flight.** Whatever the other tasks do after
`onApplicationShutdown`, the loop makes at most one more `enqueueBlocks` call, the one that
completes a pass suspended on its dictionary query, and none when no query is in flight. -/
theorem enqueues_after_shutdown (s : FetchState) (acts : List FetchAction) :
    (s.run cfg (.onApplicationShutdown :: acts)).2.countP FetchEvent.isEnqueue ≤
      if s.pending.isSome then 1 else 0 :=
  FetchState.run_after_shutdown cfg (s := { s with isShutdown := true }) acts rfl

/-! ### Negative modulos -/

section NegativeModulos

variable (hmod : isModuloOnly cfg = true)
  (hneg : ∀ m ∈ getModulos cfg.project.dataSources, m < 0)
  (hdict : cfg.project.network.dictionary.getD "" = "")

include hneg in
/-- With negative modulos the fast path's window is empty. -/
theorem getEnqueuedModuloBlocks_of_neg (batchSize : Nat) (start : Int) :
    getEnqueuedModuloBlocks cfg.project.dataSources batchSize start = [] := by
  unfold getEnqueuedModuloBlocks
  split
  · rfl
  · rename_i m hm
    have hm0 : m < 0 := hneg m (List.max?_mem (fun a b => by omega) hm)
    have hw : (batchSize : Int) * m ≤ 0 := Int.mul_nonpos_of_nonneg_of_nonpos (by omega) (by omega)
    have hnil : intRange start (batchSize * m + start) = [] := by
      rw [intRange, show (batchSize * m + start - start).toNat = 0 by omega]
      rfl
    simp [getModuloBlocks, hnil]

/-- The empty batch passes the bypass filter as it is. -/
theorem filteredBlockBatch_nil_fst (bypassBlocks : List Int) :
    (filteredBlockBatch bypassBlocks []).1 = [] :=
  List.sublist_nil.mp (filteredBlockBatch_fst_sublist _ _)

include hmod hneg in
/-- With negative modulos, the non-dictionary way enqueues nothing and buffers up to
`-Infinity`. -/
theorem FetchState.enqueueNextBlocks_of_neg (start scaled : Int) :
    (s.enqueueNextBlocks cfg start scaled).2 = [.enqueueBlocks [] .negInfinity .moduloOnly] ∧
      (s.enqueueNextBlocks cfg start scaled).1.pending = s.pending := by
  simp [enqueueNextBlocks, nextBlocks, hmod, getEnqueuedModuloBlocks_of_neg cfg hneg,
    filteredBlockBatch_nil_fst, getLatestBufferHeight, BufferedHeight.ofMax]

/-- The calls a stalled project can make: an empty `enqueueBlocks` to `-Infinity`, or a
flush. -/
def StalledEvent (e : FetchEvent) : Prop :=
  e = .enqueueBlocks [] .negInfinity .moduloOnly ∨ ∃ h, e = .flushQueue h

include hmod hneg hdict in
/-- **One step of a stalled project.** Without a query in flight, a step sends none and
makes only empty `enqueueBlocks` calls and flushes. -/
theorem FetchState.step_of_neg (a : FetchAction) (hp : s.pending = none) :
    (s.step cfg a).1.pending = none ∧ ∀ e ∈ (s.step cfg a).2, StalledEvent e := by
  have hu : s.useDictionary cfg = false := by simp [useDictionary, hdict]
  cases a with
  | fillNextBlockBuffer =>
    simp only [step, fillNextBlockBuffer, hp, Option.isSome_none, Bool.or_false]
    split
    · simp [hp]
    · split
      · split
        · simp [hp]
        · simp [hmod, filteredBlockBatch_nil_fst, getLatestBufferHeight, BufferedHeight.ofMax,
            StalledEvent, hp]
      · split
        · simp [hp]
        · split
          · simp_all
          · simp [(enqueueNextBlocks_of_neg cfg hmod hneg _ _).1,
              (enqueueNextBlocks_of_neg cfg hmod hneg _ _).2, hp, StalledEvent]
  | dictionaryAnswer r => simp [step, dictionaryAnswer, hp]
  | resetForNewDs h | resetForIncorrectBestBlock h =>
    rcases s.reset_cases cfg h with hr | ⟨m, hr⟩ <;>
      simp [step, resetForNewDs, resetForIncorrectBestBlock, hr, hp, flushQueue,
        syncDynamicDatascourcesFromMeta, StalledEvent]
  | checkBatchScale scale =>
    simp only [step, checkBatchScale]
    split <;> simp [hp]
  | _ => simp [step, hp]

include hmod hneg hdict in
/-- **Negative modulos starve the fast path.** For a modulo-only project whose modulos are
all negative and that has no dictionary, from any state with no query in flight, every
`enqueueBlocks` call of every run passes no height and sets `latestBufferedHeight` to
`-Infinity`; the other calls are flushes. -/
theorem negative_modulos_enqueue_nothing (s : FetchState) (hp : s.pending = none)
    (acts : List FetchAction) :
    ∀ e ∈ (s.run cfg acts).2,
      e = .enqueueBlocks [] .negInfinity .moduloOnly ∨ ∃ h, e = .flushQueue h := by
  induction acts generalizing s with
  | nil => simp
  | cons a as ih =>
    obtain ⟨h1, h2⟩ := FetchState.step_of_neg cfg hmod hneg hdict a hp
    intro e he
    rw [FetchState.run_cons, List.mem_append] at he
    exact he.elim (h2 e) (ih _ h1 e)

end NegativeModulos

/-- With one block handler filtering by modulo `-3`, three passes and a reset from `init`
buffer no height. -/
theorem negative_modulo_project_stalls :
    FetchState.init (moduloProject (-3) 2 100 false) (startAt 100) = .ok moduloProjectStart ∧
      isModuloOnly (moduloProject (-3) 2 100 false) = true ∧
      (∀ m ∈ getModulos (moduloProject (-3) 2 100 false).project.dataSources, m < 0) ∧
      (moduloProject (-3) 2 100 false).project.network.dictionary.getD "" = "" ∧
      moduloProjectStart.pending = none ∧
      ∀ e ∈ (moduloProjectStart.run (moduloProject (-3) 2 100 false)
          [.fillNextBlockBuffer, .fillNextBlockBuffer, .resetForNewDs 4, .fillNextBlockBuffer]).2,
        e = .enqueueBlocks [] .negInfinity .moduloOnly ∨ ∃ h, e = .flushQueue h :=
  ⟨rfl, rfl, by decide, rfl, rfl,
    negative_modulos_enqueue_nothing (moduloProject (-3) 2 100 false) (by decide) (by decide) rfl
      moduloProjectStart rfl _⟩

end NearIndexer
