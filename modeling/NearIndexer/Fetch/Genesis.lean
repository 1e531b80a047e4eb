import NearIndexer.Fetch.Loop

/-!
# A Genesis Mismatch Disables the Dictionary for Good

`dictionaryValidation` clears `dictionaryGenesisMatches` when the dictionary's metadata
names another genesis hash, and logs it. Nothing sets the flag again, and `useDictionary`
reads it, so from then on no pass of the loop takes the dictionary branch.

One thing more is needed for "no dictionary list is enqueued after the mismatch": a query
already in flight would be answered later. It cannot be: inside the loop the only
validation runs on the pending query's own answer, which is then dropped. The invariant
`GenesisInv` (no query in flight once the flag is down) holds after `init` and is kept by
every step.

## Main results

* `FetchState.step_genesis`: a step lowers the flag exactly when it logs a mismatch.
* `FetchState.step_genesisInv`: every step keeps `GenesisInv`.
* `dictionary_disabled_after_genesis_mismatch`: after a mismatch, seen by `init` or logged
  by a step, every later state has `useDictionary = false` and no later step enqueues a
  dictionary batch.
-/

namespace NearIndexer

variable (cfg : FetchConfig) {s : FetchState}

/-- An `enqueueBlocks` call made by the dictionary branch. -/
def FetchEvent.isDictionaryBatch : FetchEvent → Bool
  | .enqueueBlocks _ _ .dictionary => true
  | _ => false

/-- No query is in flight once the genesis flag is down. -/
def GenesisInv (s : FetchState) : Prop :=
  s.dictionaryGenesisMatches = false → s.pending = none

/-! ### The sub-steps -/

/-- The non-dictionary way keeps the flag and the pending query, and makes one call,
not a dictionary one. -/
theorem FetchState.enqueueNextBlocks_spec (start scaled : Int) :
    (s.enqueueNextBlocks cfg start scaled).1.dictionaryGenesisMatches =
        s.dictionaryGenesisMatches ∧
      (s.enqueueNextBlocks cfg start scaled).1.pending = s.pending ∧
      ∀ e ∈ (s.enqueueNextBlocks cfg start scaled).2,
        e.isDictionaryBatch = false ∧ e ≠ .genesisMismatch := by
  have hsrc := s.nextBlocks_source cfg start scaled
  refine ⟨rfl, rfl, ?_⟩
  simp only [enqueueNextBlocks, enqueueBatch_snd, List.mem_singleton]
  rintro e rfl
  revert hsrc
  cases (s.nextBlocks cfg start scaled).2 <;> simp [FetchEvent.isDictionaryBatch]

/-- The dictionary branch keeps the flag and the pending query, and logs nothing. -/
theorem FetchState.enqueueDictionaryBlocks_spec (q : PendingQuery) (d : Dictionary) :
    (s.enqueueDictionaryBlocks cfg q d).1.dictionaryGenesisMatches =
        s.dictionaryGenesisMatches ∧
      (s.enqueueDictionaryBlocks cfg q d).1.pending = s.pending ∧
      FetchEvent.genesisMismatch ∉ (s.enqueueDictionaryBlocks cfg q d).2 := by
  unfold enqueueDictionaryBlocks
  dsimp only
  split <;> simp [enqueueBlocks]

/-- A reset keeps the flag and the pending query, and logs nothing. -/
theorem FetchState.reset_spec (h : Int) :
    (s.reset cfg h).1.dictionaryGenesisMatches = s.dictionaryGenesisMatches ∧
      (s.reset cfg h).1.pending = s.pending ∧
      ∀ e ∈ (s.reset cfg h).2, e.isDictionaryBatch = false ∧ e ≠ .genesisMismatch := by
  rcases s.reset_cases cfg h with hr | ⟨m, hr⟩ <;> simp [hr, flushQueue,
    syncDynamicDatascourcesFromMeta, FetchEvent.isDictionaryBatch]

/-- A pass keeps the flag, makes no dictionary call and logs nothing, and it sends a
query only when `useDictionary` holds. -/
theorem FetchState.fillNextBlockBuffer_spec :
    (s.fillNextBlockBuffer cfg).1.dictionaryGenesisMatches = s.dictionaryGenesisMatches ∧
      (∀ e ∈ (s.fillNextBlockBuffer cfg).2,
        e.isDictionaryBatch = false ∧ e ≠ .genesisMismatch) ∧
      ((s.fillNextBlockBuffer cfg).1.pending = s.pending ∨ s.useDictionary cfg = true) := by
  rcases s.fillNextBlockBuffer_cases cfg with h | ⟨-, -, -, src, hsrc, h⟩ |
      ⟨st, -, -, -, -, h⟩ | ⟨st, -, -, -, -, hu, h⟩ <;> rw [h]
  · simp
  · refine ⟨rfl, ?_, .inl rfl⟩
    revert hsrc
    cases src <;> simp [FetchEvent.isDictionaryBatch]
  · obtain ⟨h1, h2, h3⟩ := enqueueNextBlocks_spec cfg (s := s) st (s.scaledBatchSize cfg)
    exact ⟨h1, h3, .inl h2⟩
  · exact ⟨rfl, by simp, .inr hu⟩

/-! ### One step -/

/-- A sub-step that keeps the flag and logs nothing lowers it exactly when it was down. -/
theorem genesis_iff_of_frame {s s' : FetchState} {es : List FetchEvent}
    (h1 : s'.dictionaryGenesisMatches = s.dictionaryGenesisMatches)
    (h3 : FetchEvent.genesisMismatch ∉ es) :
    s'.dictionaryGenesisMatches = false ↔
      s.dictionaryGenesisMatches = false ∨ FetchEvent.genesisMismatch ∈ es := by
  rw [h1]
  simp [h3]

/-- **A step lowers the flag exactly when it logs a mismatch**, and never raises it. -/
theorem FetchState.step_genesis (a : FetchAction) :
    (s.step cfg a).1.dictionaryGenesisMatches = false ↔
      s.dictionaryGenesisMatches = false ∨ FetchEvent.genesisMismatch ∈ (s.step cfg a).2 := by
  cases a with
  | fillNextBlockBuffer =>
    obtain ⟨h1, h2, -⟩ := s.fillNextBlockBuffer_spec cfg
    exact genesis_iff_of_frame h1 fun hm => (h2 _ hm).2 rfl
  | dictionaryAnswer r =>
    rcases s.dictionaryAnswer_cases cfg r with ⟨-, h⟩ | ⟨q, -, h | ⟨-, h⟩ | ⟨d, -, -, h⟩ |
        ⟨d, -, -, -, -, h⟩⟩ <;> simp only [step, h]
    · simp
    · obtain ⟨h1, -, h3⟩ := enqueueNextBlocks_spec cfg
        (s := { s with pending := none }) q.startBlockHeight q.scaledBatchSize
      exact genesis_iff_of_frame h1 fun hm => (h3 _ hm).2 rfl
    · simp
    · simp [(enqueueNextBlocks_spec cfg _ _).1]
    · obtain ⟨h1, -, h3⟩ := enqueueDictionaryBlocks_spec cfg
        (s := { s with pending := none }) q d
      exact genesis_iff_of_frame h1 h3
  | resetForNewDs h | resetForIncorrectBestBlock h =>
    obtain ⟨h1, -, h3⟩ := reset_spec cfg (s := s) h
    exact genesis_iff_of_frame h1 fun hm => (h3 _ hm).2 rfl
  | checkBatchScale scale =>
    simp only [step, checkBatchScale]
    split <;> simp
  | _ => simp [step]

/-- An answer leaves no query in flight. -/
theorem FetchState.dictionaryAnswer_pending (r : Except String (Option Dictionary)) :
    (s.dictionaryAnswer cfg r).1.pending = none := by
  rcases s.dictionaryAnswer_cases cfg r with ⟨hp, h⟩ | ⟨q, -, h | ⟨-, h⟩ | ⟨d, -, -, h⟩ |
      ⟨d, -, -, -, -, h⟩⟩ <;>
    simp only [h, (enqueueNextBlocks_spec cfg _ _).2.1, (enqueueDictionaryBlocks_spec cfg _ _).2.1]
  exact hp

/-- **Every step keeps `GenesisInv`.** A query is sent only with the flag up, and an
answer, the only step that lowers the flag, clears the query. -/
theorem FetchState.step_genesisInv (a : FetchAction) (hi : GenesisInv s) :
    GenesisInv (s.step cfg a).1 := by
  intro hg
  cases a with
  | fillNextBlockBuffer =>
    obtain ⟨h1, -, h3⟩ := s.fillNextBlockBuffer_spec cfg
    have hg' : s.dictionaryGenesisMatches = false := h1 ▸ hg
    rcases h3 with h3 | hu
    · exact h3.trans (hi hg')
    · simp [s.useDictionary_eq_false cfg hg'] at hu
  | dictionaryAnswer r => exact dictionaryAnswer_pending cfg r
  | resetForNewDs h | resetForIncorrectBestBlock h =>
    obtain ⟨h1, h2, -⟩ := reset_spec cfg (s := s) h
    exact h2.trans (hi (h1 ▸ hg))
  | checkBatchScale scale =>
    by_cases hb : cfg.nodeConfig.scaleBatchSize = true <;>
      simp only [step, checkBatchScale, hb, if_true, if_false] at hg ⊢ <;> exact hi hg
  | _ => exact hi hg

/-- With no query in flight, a step makes no dictionary call: only an answer does. -/
theorem FetchState.step_no_dictionary_batch (a : FetchAction) (hp : s.pending = none) :
    ∀ e ∈ (s.step cfg a).2, e.isDictionaryBatch = false := by
  cases a with
  | fillNextBlockBuffer => exact fun e he => ((s.fillNextBlockBuffer_spec cfg).2.1 e he).1
  | dictionaryAnswer r =>
    rcases s.dictionaryAnswer_cases cfg r with ⟨-, h⟩ | ⟨q, hq, -⟩
    · simp [step, h]
    · simp [hp] at hq
  | resetForNewDs h | resetForIncorrectBestBlock h =>
    exact fun e he => ((reset_spec cfg (s := s) h).2.2 e he).1
  | _ => simp [step]

/-! ### Whole runs -/

/-- A lowered flag stays down over a run. -/
theorem FetchState.run_genesis_false (acts : List FetchAction)
    (hg : s.dictionaryGenesisMatches = false) :
    (s.run cfg acts).1.dictionaryGenesisMatches = false := by
  induction acts generalizing s with
  | nil => exact hg
  | cons a as ih => exact ih ((step_genesis cfg a).mpr (.inl hg))

/-- A logged mismatch leaves the flag down at the end of the run. -/
theorem FetchState.run_genesis_of_logged (acts : List FetchAction)
    (h : FetchEvent.genesisMismatch ∈ (s.run cfg acts).2) :
    (s.run cfg acts).1.dictionaryGenesisMatches = false := by
  induction acts generalizing s with
  | nil => simp at h
  | cons a as ih =>
    rw [run_cons, List.mem_append] at h
    rcases h with h | h
    · exact run_genesis_false cfg as ((step_genesis cfg a).mpr (.inr h))
    · exact ih h

/-- `GenesisInv` holds over a run. -/
theorem FetchState.run_genesisInv (acts : List FetchAction) (hi : GenesisInv s) :
    GenesisInv (s.run cfg acts).1 := by
  induction acts generalizing s with
  | nil => exact hi
  | cons a as ih => exact ih (step_genesisInv cfg a hi)

/-- From a state with the flag down and `GenesisInv`, no step of a run makes a
dictionary call and the dictionary stays unused. -/
theorem FetchState.run_no_dictionary (acts : List FetchAction)
    (hg : s.dictionaryGenesisMatches = false) (hi : GenesisInv s) :
    (s.run cfg acts).1.useDictionary cfg = false ∧
      ∀ e ∈ (s.run cfg acts).2, e.isDictionaryBatch = false := by
  induction acts generalizing s with
  | nil => exact ⟨s.useDictionary_eq_false cfg hg, by simp⟩
  | cons a as ih =>
    obtain ⟨h1, h2⟩ := ih ((step_genesis cfg a).mpr (.inl hg)) (step_genesisInv cfg a hi)
    refine ⟨h1, fun e he => ?_⟩
    rw [run_cons, List.mem_append] at he
    exact he.elim (step_no_dictionary_batch cfg a (hi hg) e) (h2 e)

/-! ### From `init` -/

/-- `init` sends no query. -/
theorem FetchState.init_genesisInv {i : InitInputs} {s₀ : FetchState}
    (h : FetchState.init cfg i = .ok s₀) : GenesisInv s₀ :=
  fun _ => init_pending cfg h

/-- `init` lowers the flag on a mismatching metadata. -/
theorem FetchState.init_genesis_mismatch {i : InitInputs} {s₀ : FetchState} {md : MetaData}
    (h : FetchState.init cfg i = .ok s₀) (hmd : i.metadata = some md)
    (hg : md.genesisHash ≠ cfg.genesisHash) : s₀.dictionaryGenesisMatches = false := by
  unfold init updateDictionary at h
  cases hm : buildDictionaryEntryMap cfg.project.dataSources i.dynamicDatasources <;>
    simp only [hm, hmd] at h
  · cases h
  · cases h
    simp [dictionaryValidation, hg]

/-- **A genesis mismatch disables the dictionary for good.** Take any run from `init`
during which `dictionaryValidation` has seen metadata with another genesis hash: on the
metadata `init` read, or in a step that logged it. Then in every later state
`useDictionary` is false, and no later step passes a dictionary list to `enqueueBlocks`. -/
theorem dictionary_disabled_after_genesis_mismatch (i : InitInputs) (s₀ : FetchState)
    (h₀ : FetchState.init cfg i = .ok s₀) (acts : List FetchAction)
    (hseen : (∃ md, i.metadata = some md ∧ md.genesisHash ≠ cfg.genesisHash) ∨
      FetchEvent.genesisMismatch ∈ (s₀.run cfg acts).2)
    (later : List FetchAction) :
    ((s₀.run cfg acts).1.run cfg later).1.useDictionary cfg = false ∧
      ∀ e ∈ ((s₀.run cfg acts).1.run cfg later).2, e.isDictionaryBatch = false := by
  have hg : (s₀.run cfg acts).1.dictionaryGenesisMatches = false := by
    rcases hseen with ⟨md, hmd, hne⟩ | hlog
    · exact FetchState.run_genesis_false cfg acts (FetchState.init_genesis_mismatch cfg h₀ hmd hne)
    · exact FetchState.run_genesis_of_logged cfg acts hlog
  exact FetchState.run_no_dictionary cfg later hg
    (FetchState.run_genesisInv cfg acts (FetchState.init_genesisInv cfg h₀))

/-- A project with no datasources whose dictionary serves another chain. -/
def foreignDictionaryConfig : FetchConfig :=
  { project := { network := { dictionary := some "https://dictionary.example", bypassBlocks := none }
                 dataSources := [] }
    nodeConfig := { batchSize := 10, unfinalizedBlocks := false, scaleBatchSize := false }
    genesisHash := "near-mainnet"
    queueCapacity := 100 }

/-- `init` reading the metadata of a dictionary indexed from the genesis `near-testnet`. -/
def foreignDictionaryInputs : InitInputs :=
  { startHeight := 1, dynamicDatasources := []
    metadata := some { lastProcessedHeight := 500, genesisHash := "near-testnet", startHeight := 1 }
    finalizedHeight := 200, bestHeight := 200 }

/-- The state `init` builds from them: the flag is down. -/
def foreignDictionaryState : FetchState :=
  { latestBestHeight := 200, latestFinalizedHeight := 200, isShutdown := false,
    batchSizeScale := 1, templateDynamicDatasouces := [], dictionaryGenesisMatches := false,
    bypassBlocks := [], initBlockHeight := 1, queriesMap := [], dictionaryStartHeight := none,
    dynamicDatasources := [], queue := [], latestBufferedHeight := .undefined, pending := none }

/-- From that `init`, two passes of the loop and an answer make no dictionary call. -/
theorem foreign_genesis_disables_dictionary :
    FetchState.init foreignDictionaryConfig foreignDictionaryInputs = .ok foreignDictionaryState ∧
      (((foreignDictionaryState.run foreignDictionaryConfig []).1.run foreignDictionaryConfig
          [.fillNextBlockBuffer, .dictionaryAnswer (.ok none), .fillNextBlockBuffer]).1.useDictionary
          foreignDictionaryConfig = false ∧
        ∀ e ∈ ((foreignDictionaryState.run foreignDictionaryConfig []).1.run foreignDictionaryConfig
          [.fillNextBlockBuffer, .dictionaryAnswer (.ok none), .fillNextBlockBuffer]).2,
          e.isDictionaryBatch = false) :=
  ⟨rfl, dictionary_disabled_after_genesis_mismatch foreignDictionaryConfig
    foreignDictionaryInputs foreignDictionaryState
    rfl [] (.inl ⟨_, rfl, by decide⟩) _⟩

end NearIndexer
