import NearIndexer.Fetch.Batches

/-!
# The Answer to a Dictionary Query

A pass that sends a dictionary query suspends. When the answer arrives, the pass checks
that `getStartBlockHeight()` has not moved and validates the metadata, then merges the
answer's heights with the modulo heights it computed before the `await`, sorts them, and
enqueues them. Two things get past it.

The merge concatenates and sorts without removing duplicates, so a height that the
dictionary returns and that is also a modulo height is enqueued twice. And the guard
compares start heights only: a reset at the pass's own start flushes the queue down to that
start, `latestBufferedHeight` becomes `start - 1`, and the start has not moved. The answer
to the query built before the reset then goes through, although the reset resynced the
templates and rebuilt the query map.

## Main results

* `FetchState.dictionaryAnswer_of_valid`: a valid answer at an unmoved start goes through
  the dictionary branch.
* `dictionary_batch_repeats_modulo_height`: a dictionary height that is also the least
  modulo height of the window is enqueued twice.
* `stale_answer_enqueued_after_reset`: after a reset at the pass's own start, the answer
  to the query sent before it is enqueued.
-/

namespace NearIndexer

variable (cfg : FetchConfig) (s : FetchState)

/-! ### Reading lemmas -/

/-- `flushQueue(h)` leaves the start at `h`, unless `h - 1` is `0`. -/
theorem FetchState.getStartBlockHeight_flushQueue (h : Int) (hne : h - 1 ≠ 0) :
    (s.flushQueue h).getStartBlockHeight = some h := by
  simp [flushQueue, getStartBlockHeight, hne]

/-- The modulo heights a query is sent with are those of its whole window. -/
theorem FetchState.dictionaryQuery_moduloBlocks (start : Int) :
    (s.dictionaryQuery cfg start).moduloBlocks =
      getModuloBlocks cfg.project.dataSources start (start + DICTIONARY_MAX_QUERY_SIZE) :=
  rfl

/-- A valid answer at an unmoved start goes through the dictionary branch. -/
theorem FetchState.dictionaryAnswer_of_valid {q : PendingQuery} {d : Dictionary}
    (hp : s.pending = some q) (hs : s.getStartBlockHeight = some q.startBlockHeight)
    (hg : d.metadata.genesisHash = cfg.genesisHash)
    (hl : q.startBlockHeight ≤ d.metadata.lastProcessedHeight) :
    s.dictionaryAnswer cfg (.ok (some d)) =
      { s with pending := none }.enqueueDictionaryBlocks cfg q d := by
  have hs' : ({ s with pending := none } : FetchState).getStartBlockHeight =
      some q.startBlockHeight := hs
  simp [dictionaryAnswer, hp, hs', dictionaryValidation, hg, hl]

/-- A filtered call keeps every copy of a height off the bypass list. -/
theorem count_filteredBlockBatch {bypassBlocks batch : List Int} {h : Int}
    (hb : h ∉ bypassBlocks) : (filteredBlockBatch bypassBlocks batch).1.count h = batch.count h := by
  unfold filteredBlockBatch cleanedBatchBlocks
  split
  · rfl
  · exact List.count_filter (by simpa using hb)

/-- A sorted list whose least element occurs twice starts with two copies of it. -/
theorem eq_cons_cons_of_sorted {l : List Int} {h : Int} (hs : l.Sorted (· ≤ ·))
    (hc : 2 ≤ l.count h) (hmin : ∀ x ∈ l, h ≤ x) : ∃ rest, l = h :: h :: rest := by
  rcases l with _ | ⟨a, _ | ⟨b, rest⟩⟩
  · simp at hc
  · have := List.count_le_length h [a]
    simp at this
    omega
  · obtain ⟨ha, hs⟩ := List.sorted_cons.mp hs
    obtain ⟨hb, -⟩ := List.sorted_cons.mp hs
    rw [List.count_cons] at hc
    have hmem : h ∈ b :: rest := List.count_pos_iff.mp (by split at hc <;> omega)
    have hbh : b ≤ h := by
      rcases List.mem_cons.mp hmem with rfl | hr
      · exact le_rfl
      · exact hb h hr
    have hah : a ≤ h := ha h hmem
    have := hmin a (by simp)
    have := hmin b (by simp)
    exact ⟨rest, by rw [show a = h by omega, show b = h by omega]⟩

/-! ### Duplicate heights -/

/-- **A dictionary height that is also a modulo height is enqueued twice.** Take a state
with a query in flight, answered at an unmoved start with valid metadata. If a height of
the answer is also one of the query's modulo heights, at or below every height of both
lists, off the bypass list, and the queue has room for two heights, then the dictionary
call enqueues that height twice. -/
theorem dictionary_batch_repeats_modulo_height {q : PendingQuery} {d : Dictionary} {h : Int}
    (hp : s.pending = some q) (hs : s.getStartBlockHeight = some q.startBlockHeight)
    (hg : d.metadata.genesisHash = cfg.genesisHash)
    (hl : q.startBlockHeight ≤ d.metadata.lastProcessedHeight)
    (hd : h ∈ d.batchBlocks) (hm : h ∈ q.moduloBlocks)
    (hmin : ∀ x ∈ d.batchBlocks ++ q.moduloBlocks, h ≤ x)
    (hb : h ∉ s.bypassBlocks) (hfree : 2 ≤ s.freeSize cfg) :
    ∃ heights latest, (s.dictionaryAnswer cfg (.ok (some d))).2 =
      [.enqueueBlocks heights latest .dictionary] ∧ 2 ≤ heights.count h := by
  have hperm := List.perm_insertionSort (· ≤ ·) (d.batchBlocks ++ q.moduloBlocks)
  have hcount : 2 ≤ ((d.batchBlocks ++ q.moduloBlocks).insertionSort (· ≤ ·)).count h := by
    rw [hperm.count_eq, List.count_append]
    have := List.count_pos_iff.mpr hd
    have := List.count_pos_iff.mpr hm
    omega
  obtain ⟨rest, hrest⟩ := eq_cons_cons_of_sorted (List.sorted_insertionSort _ _) hcount
    fun x hx => hmin x (hperm.subset hx)
  rw [s.dictionaryAnswer_of_valid cfg hp hs hg hl]
  unfold FetchState.enqueueDictionaryBlocks
  simp only [hrest, List.isEmpty_cons, Bool.false_eq_true, if_false, FetchState.enqueueBatch_snd]
  refine ⟨_, _, rfl, ?_⟩
  rw [count_filteredBlockBatch hb]
  simp only [FetchState.freeSize] at hfree ⊢
  obtain ⟨k, hk⟩ : ∃ k, (min ((h :: h :: rest).length : Int)
      (cfg.queueCapacity - s.queue.length)).toNat = k + 2 :=
    ⟨_, (Nat.sub_add_cancel (by simp only [List.length_cons]; omega)).symm⟩
  rw [hk]
  simp

/-- A project with a dictionary whose one datasource has a block handler with modulo 3
and a transaction handler for the sender `alice`. -/
def moduloAliceProject : FetchConfig :=
  { project :=
      { network := { dictionary := some "https://dictionary.example", bypassBlocks := none }
        dataSources := [.runtime 1 "dist/index.js"
          [.block (some { modulo := some 3, timestamp := none }),
            .transaction (some { sender := some "alice" })]] }
    nodeConfig := { batchSize := 5, unfinalizedBlocks := false, scaleBatchSize := false }
    genesisHash := "near-mainnet"
    queueCapacity := 20 }

/-- The query map of a project whose datasources from height 1 only ask for `alice`'s
transactions. -/
def aliceEntries : List (Int × List DictionaryQueryEntry) :=
  [(1, [txFilterToQueryEntry { sender := some "alice" }])]

/-- The service with the heights up to `buffered` enqueued and processed, the dictionary
usable from height 1, and the given query map and dynamic datasources. -/
def bufferedUpTo (queriesMap : List (Int × List DictionaryQueryEntry))
    (dynamicDatasources : List NearDataSource) (buffered : Int) : FetchState :=
  { latestBestHeight := 100, latestFinalizedHeight := 100, isShutdown := false,
    batchSizeScale := 1, templateDynamicDatasouces := [], dictionaryGenesisMatches := true,
    bypassBlocks := [], initBlockHeight := 1, queriesMap := queriesMap,
    dictionaryStartHeight := some 1, dynamicDatasources := dynamicDatasources, queue := [],
    latestBufferedHeight := .height buffered, pending := none }

/-- With the heights up to 5 buffered, the pass at 6 asks the dictionary, which returns
height 6, the first multiple of 3 of the window: 6 is enqueued twice. -/
theorem modulo_height_enqueued_twice :
    let s := ((bufferedUpTo aliceEntries [] 5).fillNextBlockBuffer moduloAliceProject).1
    let d : Dictionary :=
      { metadata := { lastProcessedHeight := 100, genesisHash := "near-mainnet", startHeight := 1 }
        batchBlocks := [6] }
    s.pending = some ((bufferedUpTo aliceEntries [] 5).dictionaryQuery moduloAliceProject 6) ∧
      ∃ heights latest, (s.dictionaryAnswer moduloAliceProject (.ok (some d))).2 =
        [.enqueueBlocks heights latest .dictionary] ∧ 2 ≤ heights.count 6 := by
  have hq := FetchState.dictionaryQuery_moduloBlocks moduloAliceProject
    (bufferedUpTo aliceEntries [] 5) 6
  have hm : (6 : Int) ∈ ((bufferedUpTo aliceEntries [] 5).dictionaryQuery
      moduloAliceProject 6).moduloBlocks :=
    hq ▸ mem_getModuloBlocks.mpr ⟨le_rfl, by decide, 3, by decide, by decide⟩
  refine ⟨rfl, dictionary_batch_repeats_modulo_height moduloAliceProject _
    (q := (bufferedUpTo aliceEntries [] 5).dictionaryQuery moduloAliceProject 6) rfl rfl rfl
    (by decide) (by decide) hm ?_ (by decide) (by decide)⟩
  intro x hx
  rcases List.mem_append.mp hx with hx | hx
  · simp_all
  · exact (mem_getModuloBlocks.mp (hq ▸ hx)).1

/-! ### A reset while the query is in flight -/

/-- **A reset at the pass's own start does not stop its answer.** Take any state in which
a pass sends a dictionary query from `start`, with `start - 1` truthy. A reset at `start`
completes while the query is in flight: it resyncs the templates, rebuilds the query map
and flushes the queue. The answer, with valid metadata, then passes the start-moved guard,
and the dictionary branch enqueues it, merged with the modulo heights of the query sent
before the reset. -/
theorem stale_answer_enqueued_after_reset {start : Int} {d : Dictionary}
    (hsend : (s.fillNextBlockBuffer cfg).1.pending = some (s.dictionaryQuery cfg start))
    (hreset : ((s.fillNextBlockBuffer cfg).1.reset cfg start).2 = [.flushQueue start])
    (hne : start - 1 ≠ 0) (hg : d.metadata.genesisHash = cfg.genesisHash)
    (hl : start ≤ d.metadata.lastProcessedHeight) :
    ((s.fillNextBlockBuffer cfg).1.reset cfg start).1.dictionaryAnswer cfg (.ok (some d)) =
      { ((s.fillNextBlockBuffer cfg).1.reset cfg start).1 with pending := none
        }.enqueueDictionaryBlocks cfg (s.dictionaryQuery cfg start) d := by
  have hstart : ((s.fillNextBlockBuffer cfg).1.reset cfg start).1.getStartBlockHeight =
      some start := by
    rcases (s.fillNextBlockBuffer cfg).1.reset_cases cfg start with hr | ⟨m, hr⟩ <;>
      rw [hr] at hreset ⊢
    · cases hreset
    · exact FetchState.getStartBlockHeight_flushQueue _ start hne
  exact FetchState.dictionaryAnswer_of_valid cfg _
    ((FetchState.reset_spec cfg start).2.1.trans hsend) hstart hg hl

/-- The project of `aliceEntries`, with a dictionary. -/
def aliceProject : FetchConfig :=
  { project :=
      { network := { dictionary := some "https://dictionary.example", bypassBlocks := none }
        dataSources :=
          [.runtime 1 "dist/index.js" [.transaction (some { sender := some "alice" })]] }
    nodeConfig := { batchSize := 5, unfinalizedBlocks := false, scaleBatchSize := false }
    genesisHash := "near-mainnet"
    queueCapacity := 20 }

/-- A datasource the handler of block 5 creates, for the `Transfer` actions from 5 on. -/
def transferDs : NearDataSource :=
  .runtime 5 "dist/index.js" [.action (some { type := some "Transfer" })]

/-- Block 5 was the last one buffered and its handler created `transferDs`. The pass at 6
sends its query; the dispatcher resets the service at 6 before the answer comes. The query
was built without the `Transfer` entry the reset adds, and its answer, height 8, is
enqueued all the same. -/
theorem stale_answer_after_new_datasource :
    let s := bufferedUpTo aliceEntries [transferDs] 5
    let s₂ := ((s.fillNextBlockBuffer aliceProject).1.reset aliceProject 6).1
    let d : Dictionary :=
      { metadata := { lastProcessedHeight := 100, genesisHash := "near-mainnet", startHeight := 1 }
        batchBlocks := [8] }
    (s.dictionaryQuery aliceProject 6).queryEntries ≠
        getDictionaryQueryEntries s₂.queriesMap (· ≤ 6) ∧
      s₂.dictionaryAnswer aliceProject (.ok (some d)) =
        { s₂ with pending := none }.enqueueDictionaryBlocks aliceProject
          (s.dictionaryQuery aliceProject 6) d :=
  ⟨by decide, stale_answer_enqueued_after_reset aliceProject _ rfl rfl (by decide) rfl (by decide)⟩

end NearIndexer
