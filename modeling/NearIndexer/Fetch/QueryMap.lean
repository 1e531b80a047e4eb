import NearIndexer.Fetch.Dictionary
import NearIndexer.Wrap

/-!
# Which Entries a Query Carries

`updateDictionary` builds the dictionary service's query map: for each start block of the
project's datasources and of the current templates, in ascending order, the entries that
`buildDictionaryQueryEntries` gives at that block. `init` builds it, and so does every reset
whose rebuild does not throw; nothing else writes it. So in every reachable state the map is
one that `buildDictionaryEntryMap` built, and the lookup `getDictionaryQueryEntries` at a
height returns the entries built at the last start block at or below it.

A pass reads the map twice. The `useDictionary` getter asks for the entries at
`latestBufferedHeight`, and the query is sent with those at the end of its window,
`DICTIONARY_MAX_QUERY_SIZE` above its start. These are the entries of every datasource that
starts at or before the window's end, unless one of them has a handler the dictionary cannot
serve (a block handler without modulo, a transaction filter without `sender` or `receiver`,
an action filter without `type`): then `buildDictionaryQueryEntries` abandons the
dictionary and the query carries no entry. Below the start block of such a datasource the
map may still hold entries, those of the datasources before it; when it does, the pass from
that start block passes the `useDictionary` test and sends its query with no entry at all.
A faithful answer to it is empty, and the dictionary branch moves `latestBufferedHeight` up
to the dictionary's `lastProcessedHeight`, past blocks that the new datasource's handler
asks for one by one.

Against the plain range path, which enqueues every height, the dictionary path should skip
only heights at which no event meets a handler of the datasources active there. With
answers faithful to the dictionary's index, which may list only the first matching heights
of the window, and without modulo handlers, it does, for every query that carries entries.

## Main results

* `FetchState.step_queriesMap`: only a reset writes the query map, with a map built from the
  synced templates.
* `getDictionaryQueryEntries_of_key_le`: the lookup in a built map at a height at or above a
  start block returns the entries built at the last start block at or below that height.
* `unservable_start_query_has_no_entries`: in every reachable state, the query from the start
  block of a static runtime datasource the dictionary cannot serve carries no entries.
* `dictionaryAnswers_entriesBuilt`: over every run, each answered query carries the entries a
  built map gives at the end of its window.
* `dictionary_skips_only_unmatched_heights`: without modulo handlers and with faithful
  answers, every height the loop skips that is not a bypass height is one the dictionary had
  processed and at which no event meets an entry of the query, nor, unless the query carried
  none, an entry of a handler of a datasource of the project active there.
-/

namespace NearIndexer

variable (cfg : FetchConfig) {s : FetchState}

/-! ### The built map -/

/-- A map of keys paired with what `g` returns at each, built by `mapM`, holds the keys in
order and at each key what `g` returns there. -/
theorem mapM_pair_eq_ok {β : Type} {g : Int → Except String β} :
    ∀ {keys : List Int} {m : List (Int × β)},
      keys.mapM (fun k => (k, ·) <$> g k) = .ok m →
        m.map Prod.fst = keys ∧ ∀ p ∈ m, g p.1 = .ok p.2
  | [], m, h => by
    rw [List.mapM_nil] at h
    cases h
    simp
  | k :: keys, m, h => by
    rw [List.mapM_cons] at h
    obtain ⟨p, hp, h⟩ := bind_eq_ok.mp h
    obtain ⟨ps, hps, h⟩ := bind_eq_ok.mp h
    cases h
    obtain ⟨hkeys, hall⟩ := mapM_pair_eq_ok hps
    cases hg : g k with
    | error e => rw [hg] at hp; cases hp
    | ok es =>
      rw [hg] at hp
      cases hp
      exact ⟨by simp [hkeys], fun q hq => (List.mem_cons.mp hq).elim (· ▸ hg) (hall q)⟩

/-- `buildDictionaryEntryMap` returns the sorted start blocks, each with the entries
`buildDictionaryQueryEntries` builds at it. -/
theorem buildDictionaryEntryMap_eq_ok {dataSources templates : List NearDataSource}
    {m : List (Int × List DictionaryQueryEntry)}
    (h : buildDictionaryEntryMap dataSources templates = .ok m) :
    m.map Prod.fst = ((dataSources ++ templates).map (·.startBlock)).insertionSort (· ≤ ·) ∧
      ∀ p ∈ m, buildDictionaryQueryEntries dataSources templates p.1 = .ok p.2 :=
  mapM_pair_eq_ok h

/-- **The lookup below a bound.** In a built map, the lookup at a bound at or above a start
block of the datasources returns the entries `buildDictionaryQueryEntries` builds at the
last key the bound admits, which lies between the two since the keys are sorted. -/
theorem getDictionaryQueryEntries_of_key_le {dataSources templates : List NearDataSource}
    {m : List (Int × List DictionaryQueryEntry)}
    (h : buildDictionaryEntryMap dataSources templates = .ok m) {k b : Int}
    (hk : k ∈ (dataSources ++ templates).map (·.startBlock)) (hkb : k ≤ b) :
    ∃ k' es, k ≤ k' ∧ k' ≤ b ∧ buildDictionaryQueryEntries dataSources templates k' = .ok es ∧
      getDictionaryQueryEntries m (· ≤ b) = es := by
  obtain ⟨hkeys, hall⟩ := buildDictionaryEntryMap_eq_ok h
  have hsorted : ((m.filter fun p => decide (p.1 ≤ b)).map Prod.fst).Sorted (· ≤ ·) :=
    (hkeys ▸ List.sorted_insertionSort _ _).sublist ((List.filter_sublist _).map _)
  obtain ⟨p, hp, hpk⟩ : ∃ p ∈ m, p.1 = k := by
    rw [← List.mem_map, hkeys]
    exact (List.perm_insertionSort _ _).symm.subset hk
  have hpf : p ∈ m.filter fun p => decide (p.1 ≤ b) :=
    List.mem_filter.mpr ⟨hp, by simpa [hpk] using hkb⟩
  obtain ⟨z, hz⟩ := Option.ne_none_iff_exists'.mp
    (mt List.getLast?_eq_none_iff.mp (List.ne_nil_of_mem hpf))
  obtain ⟨ys, hys⟩ := List.getLast?_eq_some_iff.mp hz
  have hzm := (List.mem_filter.mp (hys ▸ List.mem_append_right ys (List.mem_singleton_self z)))
  -- the last admitted key is at least every admitted one, `k` among them
  have hle : p.1 ≤ z.1 := by
    rw [hys] at hpf hsorted
    rw [List.map_append, List.map_singleton] at hsorted
    rcases List.mem_append.mp hpf with hpy | hpz
    · exact (List.pairwise_append.mp hsorted).2.2 _ (List.mem_map_of_mem _ hpy) _
        (List.mem_singleton_self _)
    · rw [List.mem_singleton.mp hpz]
  exact ⟨z.1, z.2, hpk ▸ hle, by simpa using hzm.2, hall z hzm.1,
    by simp [getDictionaryQueryEntries, hz]⟩

/-- Entries built at a block where a runtime datasource the dictionary cannot serve has
started are none: a non-empty query set makes every such datasource servable. -/
theorem buildDictionaryQueryEntries_eq_nil {dataSources templates : List NearDataSource}
    {k : Int} {es : List DictionaryQueryEntry}
    (h : buildDictionaryQueryEntries dataSources templates k = .ok es) {ds : NearDataSource}
    (hds : ds ∈ dataSources.filter (·.isRuntimeDataSource) ++ templates)
    (hcustom : ds.isCustom = false) (hstart : ds.startBlock ≤ k) (hserv : ds.servable = false) :
    es = [] := by
  by_contra hne
  have := (runtime_servable_of_buildDictionaryQueryEntries h hne ds hds hcustom hstart).1
  simp [hserv] at this

/-! ### Only a reset writes the map -/

/-- A reset keeps the query map, or installs one built from the synced templates. -/
theorem FetchState.reset_queriesMap (h : Int) :
    (s.reset cfg h).1.queriesMap = s.queriesMap ∨
      buildDictionaryEntryMap cfg.project.dataSources s.dynamicDatasources =
        .ok (s.reset cfg h).1.queriesMap := by
  unfold reset updateDictionary
  dsimp only
  cases hb : buildDictionaryEntryMap cfg.project.dataSources
    s.syncDynamicDatascourcesFromMeta.templateDynamicDatasouces with
  | error e => exact .inl rfl
  | ok m => exact .inr hb

/-- **Only a reset writes the query map**, with a map built from the synced templates. -/
theorem FetchState.step_queriesMap (a : FetchAction) :
    (s.step cfg a).1.queriesMap = s.queriesMap ∨
      buildDictionaryEntryMap cfg.project.dataSources s.dynamicDatasources =
        .ok (s.step cfg a).1.queriesMap := by
  cases ha : a.resetHeight with
  | none => exact .inl ((s.step_frame cfg a).2 ha)
  | some h =>
    cases a <;> cases ha
    all_goals exact s.reset_queriesMap cfg h

/-- The query map of a state is one `buildDictionaryEntryMap` built, from the project's
datasources and some templates. -/
def FetchState.MapBuilt (s : FetchState) : Prop :=
  ∃ templates, buildDictionaryEntryMap cfg.project.dataSources templates = .ok s.queriesMap

/-- Every step keeps the query map a built one. -/
theorem FetchState.step_mapBuilt (a : FetchAction) (h : s.MapBuilt cfg) :
    (s.step cfg a).1.MapBuilt cfg := by
  obtain ⟨templates, hb⟩ := h
  rcases s.step_queriesMap cfg a with hq | hq
  · exact ⟨templates, hq ▸ hb⟩
  · exact ⟨_, hq⟩

/-- Every run keeps the query map a built one. -/
theorem FetchState.run_mapBuilt (acts : List FetchAction) (h : s.MapBuilt cfg) :
    (s.run cfg acts).1.MapBuilt cfg := by
  induction acts generalizing s with
  | nil => exact h
  | cons a as ih => exact ih (s.step_mapBuilt cfg a h)

/-- `init` builds the query map from the project's datasources and the dynamic ones. -/
theorem FetchState.init_mapBuilt {i : InitInputs} {s₀ : FetchState}
    (h : FetchState.init cfg i = .ok s₀) : s₀.MapBuilt cfg := by
  refine ⟨i.dynamicDatasources, ?_⟩
  unfold init updateDictionary at h
  cases hm : buildDictionaryEntryMap cfg.project.dataSources i.dynamicDatasources <;>
    simp only [hm] at h
  · cases h
  · cases hmd : i.metadata <;> simp only [hmd] at h <;> cases h
    · rfl
    · split <;> simp only [dictionaryValidation_snd] <;> split <;> rfl

/-- The query map of every reachable state is a built one. -/
theorem Reachable.mapBuilt (h : Reachable cfg s) : s.MapBuilt cfg := by
  obtain ⟨i, s₀, acts, h₀, rfl⟩ := h
  exact FetchState.run_mapBuilt cfg acts (FetchState.init_mapBuilt cfg h₀)

/-! ### A query with no entries -/

/-- **A query from where the dictionary is abandoned carries no entries.** In every reachable
state, the query a pass sends from the start block of a static runtime datasource that the
dictionary cannot serve is sent with no query entries: the lookup at the end of its window
lands on that start block or a later one. `useDictionary` reads the map at
`latestBufferedHeight`, one below that start, where it holds the entries of the datasources
before it; when these are not empty, the pass sends the query. -/
theorem unservable_start_query_has_no_entries (hs : Reachable cfg s) (ds : NearDataSource)
    (hds : ds ∈ cfg.project.dataSources) (hrt : ds.isRuntimeDataSource = true)
    (hserv : ds.servable = false) :
    (s.dictionaryQuery cfg ds.startBlock).queryEntries = [] := by
  obtain ⟨templates, hmap⟩ := hs.mapBuilt cfg
  obtain ⟨k, es, hk, -, hes, hget⟩ := getDictionaryQueryEntries_of_key_le hmap
    (List.mem_map_of_mem _ (List.mem_append_left _ hds))
    (show ds.startBlock ≤ ds.startBlock + DICTIONARY_MAX_QUERY_SIZE from
      le_add_of_nonneg_right (by decide))
  have hcustom : ds.isCustom = false := by
    cases ds <;> simp_all [NearDataSource.isRuntimeDataSource, NearDataSource.isCustom]
  exact hget.trans (buildDictionaryQueryEntries_eq_nil hes
    (List.mem_append_left _ (List.mem_filter.mpr ⟨hds, hrt⟩)) hcustom hk hserv)

/-- A project whose datasource from height 1 asks for `alice`'s transactions, and whose
datasource from height 6 has a block handler without filter, which needs every block. -/
def lateBlockProject : FetchConfig :=
  { project :=
      { network := { dictionary := some "https://dictionary.example", bypassBlocks := none }
        dataSources :=
          [.runtime 1 "dist/index.js" [.transaction (some { sender := some "alice" })],
            .runtime 6 "dist/index.js" [.block none]] }
    nodeConfig := { batchSize := 5, unfinalizedBlocks := false, scaleBatchSize := false }
    genesisHash := "near-mainnet"
    queueCapacity := 20 }

/-- `init` at height 1 with both heads at 100, reading a dictionary that has processed the
heights up to 100. -/
def lateInputs : InitInputs :=
  { startHeight := 1, dynamicDatasources := []
    metadata := some { lastProcessedHeight := 100, genesisHash := "near-mainnet", startHeight := 1 }
    finalizedHeight := 100, bestHeight := 100 }

/-- The state `init` builds from them: the entries of `alice` from height 1, none from 6. -/
def lateStart : FetchState :=
  { latestBestHeight := 100, latestFinalizedHeight := 100, isShutdown := false,
    batchSizeScale := 1, templateDynamicDatasouces := [], dictionaryGenesisMatches := true,
    bypassBlocks := [], initBlockHeight := 1,
    queriesMap := [(1, [txFilterToQueryEntry { sender := some "alice" }]), (6, [])],
    dictionaryStartHeight := some 1, dynamicDatasources := [], queue := [],
    latestBufferedHeight := .undefined, pending := none }

/-- The pass from height 1 and an absent answer, on which it enqueues 1 to 5. -/
def lateRun : List FetchAction := [.fillNextBlockBuffer, .dictionaryAnswer (.ok none)]

/-- With 1 to 5 buffered, `useDictionary` holds and the pass from 6 sends its query, with no
entries. -/
theorem lateBlockHandler_query_has_no_entries :
    FetchState.init lateBlockProject lateInputs = .ok lateStart ∧
      (lateStart.run lateBlockProject lateRun).1.useDictionary lateBlockProject = true ∧
      ((lateStart.run lateBlockProject lateRun).1.fillNextBlockBuffer lateBlockProject).1.pending =
        some ((lateStart.run lateBlockProject lateRun).1.dictionaryQuery lateBlockProject 6) ∧
      ((lateStart.run lateBlockProject lateRun).1.dictionaryQuery lateBlockProject 6).queryEntries =
        [] :=
  ⟨rfl, rfl, rfl, unservable_start_query_has_no_entries lateBlockProject
    ⟨lateInputs, lateStart, lateRun, rfl, rfl⟩ (.runtime 6 "dist/index.js" [.block none])
    (by simp [lateBlockProject]) rfl rfl⟩

/-! ### The entries of the queries in flight -/

/-- A query carries the entries that a built map gives at the end of its window. -/
def PendingQuery.EntriesBuilt (q : PendingQuery) : Prop :=
  ∃ templates m, buildDictionaryEntryMap cfg.project.dataSources templates = .ok m ∧
    q.queryEntries = getDictionaryQueryEntries m (· ≤ q.queryEndBlock)

/-- The query in flight, if any, carries the entries of a built map. -/
def FetchState.QueryBuilt (s : FetchState) : Prop :=
  ∀ q, s.pending = some q → q.EntriesBuilt cfg

/-- A state with no query in flight has `QueryBuilt`. -/
theorem FetchState.QueryBuilt.of_pending_none (h : s.pending = none) : s.QueryBuilt cfg := by
  intro q hq
  simp [h] at hq

/-- A pass sends its query with the entries its state's map gives at the end of the
window. -/
theorem FetchState.dictionaryQuery_entriesBuilt (h : s.MapBuilt cfg) (st : Int) :
    (s.dictionaryQuery cfg st).EntriesBuilt cfg :=
  let ⟨templates, hb⟩ := h
  ⟨templates, _, hb, rfl⟩

/-- **Every step keeps the query in flight one with built entries**: a pass sends its query
from a built map, an answer clears it, and nothing else touches it. -/
theorem FetchState.step_queryBuilt (a : FetchAction) (hm : s.MapBuilt cfg)
    (hi : s.QueryBuilt cfg) : (s.step cfg a).1.QueryBuilt cfg := by
  cases a with
  | fillNextBlockBuffer =>
    rcases s.fillNextBlockBuffer_cases cfg with h | ⟨hp, -, -, src, -, h⟩ | ⟨st, hp, -, -, -, h⟩ |
        ⟨st, -, -, -, -, -, h⟩ <;> simp only [step, h]
    · exact hi
    · exact .of_pending_none cfg (by simpa using hp)
    · exact .of_pending_none cfg ((enqueueNextBlocks_spec cfg _ _).2.1.trans hp)
    · rintro q ⟨⟩
      exact s.dictionaryQuery_entriesBuilt cfg hm st
  | dictionaryAnswer r => exact .of_pending_none cfg (dictionaryAnswer_pending cfg r)
  | resetForNewDs h | resetForIncorrectBestBlock h =>
    exact fun q hq => hi q ((reset_spec cfg h).2.1 ▸ hq)
  | checkBatchScale scale =>
    simp only [step, checkBatchScale]
    split <;> exact hi
  | _ => exact hi

/-- **Every answered query carries the entries of a built map**, over every run from a
state whose map is built and whose query in flight, if any, carries such entries. -/
theorem dictionaryAnswers_entriesBuilt (acts : List FetchAction) (hm : s.MapBuilt cfg)
    (hi : s.QueryBuilt cfg) :
    ∀ q d, (q, d) ∈ dictionaryAnswers cfg s acts → q.EntriesBuilt cfg := by
  induction acts generalizing s with
  | nil => simp [dictionaryAnswers]
  | cons a as ih =>
    intro q d h
    rcases List.mem_append.mp h with h | h
    · exact hi q (s.of_mem_answered h).1
    · exact ih (s.step_mapBuilt cfg a hm) (s.step_queryBuilt cfg a hm hi) q d h

/-- **A query with built entries serves the datasources of its window.** Unless it carries no
entries, a query whose entries a built map gave at the end of its window holds, up to the
dedupe key, every entry that a handler of a runtime datasource of the project, with a mapping
file and started at or below that end, gives. -/
theorem PendingQuery.EntriesBuilt.covers {q : PendingQuery} (hq : q.EntriesBuilt cfg)
    (hne : q.queryEntries ≠ []) {st : Int} {file : String} {handlers : List NearRuntimeHandler}
    (hds : .runtime st file handlers ∈ cfg.project.dataSources) (hfile : file ≠ "")
    (hst : st ≤ q.queryEndBlock) {handler : NearRuntimeHandler} (hh : handler ∈ handlers) {es : List DictionaryQueryEntry}
    (hes : runtimeHandlerEntries handler = some es) :
    ∀ e ∈ es, ∃ e' ∈ q.queryEntries, e'.dedupeKey = e.dedupeKey := by
  obtain ⟨templates, m, hm, hq⟩ := hq
  obtain ⟨k, qs, hk, -, hqs, hget⟩ := getDictionaryQueryEntries_of_key_le hm
    (List.mem_map_of_mem _ (List.mem_append_left _ hds)) hst
  rw [hq, hget] at hne ⊢
  exact (runtime_servable_of_buildDictionaryQueryEntries hqs hne _
    (List.mem_append_left _ (List.mem_filter.mpr ⟨hds, by simpa [NearDataSource.isRuntimeDataSource]
      using hfile⟩)) rfl hk).2 st file handlers rfl
    handler hh es hes

/-! ### Against the plain path -/

/-- A faithful answer to a query, for the dictionary's index `hasEvent` of the heights at
which an event meets an entry: the answer lies in the window, up to the dictionary's
`lastProcessedHeight`, and lists every height of the window up to it, and up to the
answer's own largest height, at which an event meets one of the query's entries. A
dictionary that lists only the first `scaledBatchSize` matching heights answers faithfully;
an empty answer says the processed part of the window has no match. -/
def PendingQuery.AnsweredBy (hasEvent : Int → DictionaryQueryEntry → Prop) (q : PendingQuery)
    (d : Dictionary) : Prop :=
  (∀ y ∈ d.batchBlocks, y < q.queryEndBlock ∧ y ≤ d.metadata.lastProcessedHeight) ∧
    ∀ x, q.startBlockHeight ≤ x → x < q.queryEndBlock → x ≤ d.metadata.lastProcessedHeight →
      (d.batchBlocks = [] ∨ ∃ y ∈ d.batchBlocks, x ≤ y) →
      (∃ e ∈ q.queryEntries, hasEvent x e) → x ∈ d.batchBlocks

/-- A project without modulos is not modulo-only. -/
theorem isModuloOnly_of_getModulos_nil (h : getModulos cfg.project.dataSources = []) :
    isModuloOnly cfg = false := by
  simp only [isModuloOnly, h, List.length_nil]
  cases (cfg.project.dataSources.map (·.handlerCount)).sum <;> rfl

/-- **Without modulo handlers, the dictionary path skips only heights without events.**
For a project without modulos, over every run from `init` whose resets are at heights the
loop has reached and whose answers are faithful to the dictionary's index, every height
from the start height up to `latestBufferedHeight` was enqueued by the run, is a configured
bypass height, or lies at or after the start of an answered query, at or below what the
dictionary had processed, and no event there meets an entry of that query: the plain range
path would have enqueued it for nothing. Unless the query carried no entries at all, no
event there meets an entry of a handler of the project's runtime datasources with a mapping
file active at that height either, for an index that reads an entry through its dedupe
key. -/
theorem dictionary_skips_only_unmatched_heights
    (hnomod : getModulos cfg.project.dataSources = [])
    (hasEvent : Int → DictionaryQueryEntry → Prop)
    (hkey : ∀ x e e', e.dedupeKey = e'.dedupeKey → hasEvent x e → hasEvent x e')
    (i : InitInputs) (s₀ : FetchState) (h₀ : FetchState.init cfg i = .ok s₀)
    (acts : List FetchAction) (hres : resetsBehind cfg s₀ acts = true)
    (hfaith : ∀ q d, (q, d) ∈ dictionaryAnswers cfg s₀ acts → q.AnsweredBy hasEvent d) :
    ∀ l, (s₀.run cfg acts).1.latestBufferedHeight = .height l →
      ∀ x, i.startHeight ≤ x → x ≤ l →
        x ∈ (s₀.run cfg acts).2.flatMap FetchEvent.heights ∨
          x ∈ cfg.project.network.bypassBlocks.getD [] ∨
          ∃ q d, (q, d) ∈ dictionaryAnswers cfg s₀ acts ∧ q.startBlockHeight ≤ x ∧
            x ≤ d.metadata.lastProcessedHeight ∧ (∀ e ∈ q.queryEntries, ¬ hasEvent x e) ∧
            (q.queryEntries = [] ∨ ∀ st file handlers,
              NearDataSource.runtime st file handlers ∈ cfg.project.dataSources → file ≠ "" →
              st ≤ x →
              ∀ handler ∈ handlers, ∀ es, runtimeHandlerEntries handler = some es →
                ∀ e ∈ es, ¬ hasEvent x e) := by
  intro l hl x hx hxl
  have hi := (SkipInv.init cfg h₀).run cfg acts hres
  have hbuilt := dictionaryAnswers_entriesBuilt cfg acts (FetchState.init_mapBuilt cfg h₀)
    (.of_pending_none cfg (FetchState.init_pending cfg h₀))
  rcases hi.covered l hl x hx hxl with h | h | ⟨q, d, hqd, hqx, hxr, hxd, -⟩ | h
  · exact .inl (by simpa using h)
  · exact .inr (.inl h)
  · have hq := hi.answered q d hqd
    rw [List.nil_append] at hqd
    obtain ⟨hd, hall⟩ := hfaith q d hqd
    have hm : q.moduloBlocks = [] := hq.2.trans (getModuloBlocks_eq_nil _ _ hnomod)
    have hxp := hxr.trans (PendingQuery.reach_le_lastProcessedHeight hm fun y hy => (hd y hy).2)
    have hxe := hxr.trans_lt (PendingQuery.reach_lt hq fun y hy => (hd y hy).1)
    -- the answer leaves `x` out, so no entry of the query meets an event there
    have hnone : ∀ e ∈ q.queryEntries, ¬ hasEvent x e := fun e he hev =>
      hxd (hall x hqx hxe hxp (PendingQuery.exists_ge_of_le_reach hm hxr) ⟨e, he, hev⟩)
    refine .inr (.inr ⟨q, d, hqd, hqx, hxp, hnone, ?_⟩)
    refine (eq_or_ne q.queryEntries []).imp id fun hne st file handlers hds hfile hst handler hh
      es hes e he hev => ?_
    obtain ⟨e', he', hk⟩ := (hbuilt q d hqd).covers cfg hne hds hfile (hst.trans hxe.le) hh hes e he
    exact hnone e' he' (hkey x e e' hk.symm hev)
  · exact absurd h (cfg.not_moduloSkips (isModuloOnly_of_getModulos_nil cfg hnomod))

/-- The answer of a dictionary that has processed the heights up to 100 and holds one
transaction of `alice`, at height 8. -/
def aliceAnswer : Dictionary :=
  { metadata := { lastProcessedHeight := 100, genesisHash := "near-mainnet", startHeight := 1 }
    batchBlocks := [8] }

/-- The pass from height 4 and the answer to its query. -/
def aliceRun : List FetchAction :=
  [.fillNextBlockBuffer, .dictionaryAnswer (.ok (some aliceAnswer))]

/-- On `aliceProject`, with `alice`'s one transaction at height 8, the pass from height 4 and
the faithful answer to its query skip only heights without it. -/
theorem aliceRun_skips_only_unmatched_heights :
    getModulos aliceProject.project.dataSources = [] ∧
      FetchState.init aliceProject aliceInputs = .ok aliceStart ∧
      resetsBehind aliceProject aliceStart aliceRun = true ∧
      (∀ q d, (q, d) ∈ dictionaryAnswers aliceProject aliceStart aliceRun →
        q.AnsweredBy (fun x _ => x = 8) d) ∧
      ∀ l, (aliceStart.run aliceProject aliceRun).1.latestBufferedHeight = .height l →
        ∀ x, aliceInputs.startHeight ≤ x → x ≤ l →
          x ∈ (aliceStart.run aliceProject aliceRun).2.flatMap FetchEvent.heights ∨
            x ∈ aliceProject.project.network.bypassBlocks.getD [] ∨
            ∃ q d, (q, d) ∈ dictionaryAnswers aliceProject aliceStart aliceRun ∧
              q.startBlockHeight ≤ x ∧ x ≤ d.metadata.lastProcessedHeight ∧
              (∀ e ∈ q.queryEntries, ¬ x = 8) ∧
              (q.queryEntries = [] ∨ ∀ st file handlers,
                NearDataSource.runtime st file handlers ∈ aliceProject.project.dataSources →
                file ≠ "" → st ≤ x → ∀ handler ∈ handlers, ∀ es, runtimeHandlerEntries handler = some es →
                  ∀ e ∈ es, ¬ x = 8) := by
  have hfaith : ∀ q d, (q, d) ∈ dictionaryAnswers aliceProject aliceStart aliceRun →
      q.AnsweredBy (fun x _ => x = 8) d := by
    have hans : dictionaryAnswers aliceProject aliceStart aliceRun =
        [(aliceStart.dictionaryQuery aliceProject 4, aliceAnswer)] := rfl
    intro q d hqd
    obtain ⟨rfl, rfl⟩ := Prod.mk.inj (List.mem_singleton.mp (hans ▸ hqd))
    refine ⟨fun y hy => ?_, fun x _ _ _ _ ⟨_, _, hx⟩ => by simp [aliceAnswer, hx]⟩
    obtain rfl : y = 8 := List.mem_singleton.mp hy
    decide
  exact ⟨rfl, rfl, rfl, hfaith, dictionary_skips_only_unmatched_heights aliceProject rfl _
    (fun _ _ _ _ h => h) aliceInputs aliceStart rfl aliceRun rfl hfaith⟩

end NearIndexer
