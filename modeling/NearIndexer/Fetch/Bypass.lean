import NearIndexer.Fetch.Batches

/-!
# The Bypass List

`init` keeps the bypass heights at or above the start height. `filteredBlockBatch` removes
them from every batch before it is enqueued, and then drops from the list each bypass
height below the batch's maximum: the list is used up as the scan passes it. While a height
is on the list it is never enqueued. Once a batch has passed it, it is off the list, and a
flush that rewinds the dispatcher below it lets a later batch enqueue it.

## Main results

* `getLatestBufferHeight_of_sublist`: a filtered call reports the maximum of the raw batch.
* `FetchState.step_bypassStep`: a step only removes heights from the list, never enqueues a
  height on it, and removes one only with a call that buffers past it.
* `bypass_list_guards_until_passed`: the same over every run, for the list at its end.
* `bypass_height_enqueued_after_rewind`: a run from `init` that enqueues a bypass height.
-/

namespace NearIndexer

/-- What a step does to the bypass list: it only removes heights, enqueues none of those
on it, and removes a height only with a call that buffers past it. -/
structure BypassStep (before after : List Int) (events : List FetchEvent) : Prop where
  sublist : after.Sublist before
  avoids : ∀ b ∈ before, ∀ e ∈ events, b ∉ e.heights
  passed : ∀ b ∈ before, b ∉ after →
    ∃ heights m source, .enqueueBlocks heights (.height m) source ∈ events ∧ b < m

/-- What a run does to the bypass list: as `BypassStep`, with the heights still on the list
at the end never enqueued. -/
structure BypassRun (before after : List Int) (events : List FetchEvent) : Prop where
  sublist : after.Sublist before
  avoids : ∀ b ∈ after, ∀ e ∈ events, b ∉ e.heights
  passed : ∀ b ∈ before, b ∉ after →
    ∃ heights m source, .enqueueBlocks heights (.height m) source ∈ events ∧ b < m

/-! ### Reading lemmas -/

/-- `Math.max` over a list with the heights of one of its sublists added is the list's. -/
theorem getLatestBufferHeight_of_sublist {cleaned raw : List Int} (h : cleaned.Sublist raw) :
    getLatestBufferHeight cleaned raw = raw.max? := by
  have hmax : ∀ a b : Int, max a b = a ∨ max a b = b := fun a b => by omega
  have hle : ∀ a b c : Int, max b c ≤ a ↔ b ≤ a ∧ c ≤ a := fun a b c => by omega
  have hmem : ∀ x, x ∈ cleaned ++ raw ↔ x ∈ raw := fun x =>
    ⟨fun hx => (List.mem_append.mp hx).elim (fun hc => h.subset hc) id, List.mem_append_right _⟩
  unfold getLatestBufferHeight
  rcases hr : raw.max? with _ | m
  · rw [List.max?_eq_none_iff] at hr ⊢
    simp [hr, List.sublist_nil.mp (hr ▸ h)]
  · obtain ⟨m', hm'⟩ := Option.isSome_iff_exists.mp
      (List.isSome_max?_of_mem ((hmem m).mpr (List.max?_mem hmax hr)))
    have h1 := (List.max?_le_iff hle hm').mp le_rfl m ((hmem m).mpr (List.max?_mem hmax hr))
    have h2 := (List.max?_le_iff hle hr).mp le_rfl m' ((hmem m').mp (List.max?_mem hmax hm'))
    rw [hm', show m' = m by omega]

/-- A filtered call enqueues none of the bypass heights. -/
theorem not_mem_filteredBlockBatch {bypassBlocks batch : List Int} {b : Int}
    (hb : b ∈ bypassBlocks) : b ∉ (filteredBlockBatch bypassBlocks batch).1 := by
  unfold filteredBlockBatch cleanedBatchBlocks
  split
  · simp_all
  · simp [hb]

/-- A bypass height leaves the list only below the maximum of the batch. -/
theorem lt_of_mem_filteredBlockBatch {bypassBlocks batch : List Int} {b : Int}
    (hb : b ∈ bypassBlocks) (hout : b ∉ (filteredBlockBatch bypassBlocks batch).2) :
    ∃ m, batch.max? = some m ∧ b < m := by
  unfold filteredBlockBatch at hout
  split at hout
  · exact absurd hb hout
  · simp only [List.mem_filter, hb, true_and, decide_eq_true_eq, not_not] at hout
    rcases hm : batch.max? with _ | m <;> simp_all

/-! ### One step -/

variable (cfg : FetchConfig) (s : FetchState)

/-- A step that keeps the list and enqueues nothing keeps `BypassStep`. -/
theorem BypassStep.of_frame {before : List Int} {events : List FetchEvent}
    (he : ∀ e ∈ events, e.heights = []) : BypassStep before before events where
  sublist := .refl _
  avoids := fun b _ e hev => by simp [he e hev]
  passed := fun b hb hout => absurd hb hout

/-- Logging a mismatch first changes nothing to `BypassStep`. -/
theorem BypassStep.cons_genesisMismatch {before after : List Int} {events : List FetchEvent}
    (h : BypassStep before after events) :
    BypassStep before after (.genesisMismatch :: events) where
  sublist := h.sublist
  avoids := fun b hb e he => by
    rcases List.mem_cons.mp he with rfl | he
    · simp [FetchEvent.heights]
    · exact h.avoids b hb e he
  passed := fun b hb hout => by
    obtain ⟨heights, m, source, he, hlt⟩ := h.passed b hb hout
    exact ⟨heights, m, source, List.mem_cons_of_mem _ he, hlt⟩

/-- **A filtered call keeps the bypass heights out and uses up those it passes.** -/
theorem FetchState.enqueueBatch_bypassStep (raw : List Int) (source : BatchSource) :
    BypassStep s.bypassBlocks (s.enqueueBatch raw source).1.bypassBlocks
      (s.enqueueBatch raw source).2 where
  sublist := by
    simp only [enqueueBatch_fst, filteredBlockBatch]
    split
    · exact .refl _
    · exact List.filter_sublist _
  avoids := fun b hb e he => by
    simp only [enqueueBatch_snd, List.mem_singleton] at he
    exact he ▸ not_mem_filteredBlockBatch hb
  passed := fun b hb hout => by
    obtain ⟨m, hm, hlt⟩ := lt_of_mem_filteredBlockBatch hb hout
    refine ⟨(filteredBlockBatch s.bypassBlocks raw).1, m, source, ?_, hlt⟩
    simp [getLatestBufferHeight_of_sublist (filteredBlockBatch_fst_sublist _ _), hm,
      BufferedHeight.ofMax]

/-- The dictionary way keeps `BypassStep`. -/
theorem FetchState.enqueueDictionaryBlocks_bypassStep (q : PendingQuery) (d : Dictionary) :
    BypassStep s.bypassBlocks (s.enqueueDictionaryBlocks cfg q d).1.bypassBlocks
      (s.enqueueDictionaryBlocks cfg q d).2 := by
  unfold enqueueDictionaryBlocks
  dsimp only
  split
  · exact .of_frame (by simp [FetchEvent.heights])
  · exact s.enqueueBatch_bypassStep _ _

/-- **Every step keeps `BypassStep`.** -/
theorem FetchState.step_bypassStep (a : FetchAction) :
    BypassStep s.bypassBlocks (s.step cfg a).1.bypassBlocks (s.step cfg a).2 := by
  cases a with
  | fillNextBlockBuffer =>
    rcases s.fillNextBlockBuffer_cases cfg with h | ⟨-, -, -, src, -, h⟩ | ⟨st, -, -, -, -, h⟩ |
        ⟨st, -, -, -, -, -, h⟩ <;> simp only [step, h]
    · exact .of_frame (by simp)
    · exact s.enqueueBatch_bypassStep _ _
    · exact s.enqueueBatch_bypassStep _ _
    · exact .of_frame (by simp)
  | dictionaryAnswer r =>
    rcases s.dictionaryAnswer_cases cfg r with ⟨-, h⟩ | ⟨q, -, h | ⟨-, h⟩ | ⟨d, -, -, h⟩ |
        ⟨d, -, -, -, -, h⟩⟩ <;> simp only [step, h]
    · exact .of_frame (by simp)
    · exact enqueueBatch_bypassStep { s with pending := none } _ _
    · exact .of_frame (by simp)
    · exact (enqueueBatch_bypassStep { s with pending := none, dictionaryGenesisMatches := false }
        _ _).cons_genesisMismatch
    · exact enqueueDictionaryBlocks_bypassStep cfg { s with pending := none } q d
  | resetForNewDs h | resetForIncorrectBestBlock h =>
    rcases s.reset_cases cfg h with hr | ⟨m, hr⟩ <;>
      simp only [step, resetForNewDs, resetForIncorrectBestBlock, hr] <;>
      exact .of_frame (by simp [FetchEvent.heights])
  | checkBatchScale scale =>
    simp only [step, checkBatchScale]
    split <;> exact .of_frame (by simp)
  | _ => exact .of_frame (by simp [step])

/-! ### Whole runs -/

/-- The empty run. -/
theorem BypassRun.nil (before : List Int) : BypassRun before before [] where
  sublist := .refl _
  avoids := by simp
  passed := fun _ hb hout => absurd hb hout

/-- A step followed by a run is a run. -/
theorem BypassStep.cons {before mid after : List Int} {events rest : List FetchEvent}
    (h : BypassStep before mid events) (h' : BypassRun mid after rest) :
    BypassRun before after (events ++ rest) where
  sublist := h'.sublist.trans h.sublist
  avoids := fun b hb e he => by
    rcases List.mem_append.mp he with he | he
    · exact h.avoids b (h.sublist.subset (h'.sublist.subset hb)) e he
    · exact h'.avoids b hb e he
  passed := fun b hb hout => by
    by_cases hm : b ∈ mid
    · obtain ⟨heights, m, source, he, hlt⟩ := h'.passed b hm hout
      exact ⟨heights, m, source, List.mem_append_right _ he, hlt⟩
    · obtain ⟨heights, m, source, he, hlt⟩ := h.passed b hb hm
      exact ⟨heights, m, source, List.mem_append_left _ he, hlt⟩

/-- `BypassRun` holds over every run. -/
theorem FetchState.run_bypassRun (acts : List FetchAction) :
    BypassRun s.bypassBlocks (s.run cfg acts).1.bypassBlocks (s.run cfg acts).2 := by
  induction acts generalizing s with
  | nil => exact .nil _
  | cons a as ih => exact (s.step_bypassStep cfg a).cons (ih _)

/-- **The bypass list guards a height until a batch passes it.** Every call that filters
a batch reports the maximum of the raw batch and enqueues no height of the bypass list.
Over any run the list only loses heights, a height still on it at the end was never
enqueued during the run, and a height that left it did so in a call that buffered past
it. -/
theorem bypass_list_guards_until_passed :
    (∀ (s : FetchState) (raw : List Int) (source : BatchSource),
      (s.enqueueBatch raw source).2 =
        [.enqueueBlocks (filteredBlockBatch s.bypassBlocks raw).1 (.ofMax raw.max?) source] ∧
      ∀ b ∈ s.bypassBlocks, b ∉ (filteredBlockBatch s.bypassBlocks raw).1) ∧
    ∀ (s : FetchState) (acts : List FetchAction),
      (s.run cfg acts).1.bypassBlocks.Sublist s.bypassBlocks ∧
      (∀ b ∈ (s.run cfg acts).1.bypassBlocks, ∀ e ∈ (s.run cfg acts).2, b ∉ e.heights) ∧
      (∀ b ∈ s.bypassBlocks, b ∉ (s.run cfg acts).1.bypassBlocks →
        ∃ heights m source,
          .enqueueBlocks heights (.height m) source ∈ (s.run cfg acts).2 ∧ b < m) := by
  refine ⟨fun s raw source => ⟨?_, fun b hb => not_mem_filteredBlockBatch hb⟩, fun s acts => ?_⟩
  · rw [FetchState.enqueueBatch_snd, getLatestBufferHeight_of_sublist (filteredBlockBatch_fst_sublist _ _)]
  · obtain ⟨h1, h2, h3⟩ := s.run_bypassRun cfg acts
    exact ⟨h1, h2, h3⟩

/-- A project whose one datasource handles every transaction from height 1, with height 2
on its bypass list. -/
def bypassProject : FetchConfig :=
  { project :=
      { network := { dictionary := none, bypassBlocks := some [2] }
        dataSources := [.runtime 1 "dist/index.js" [.transaction none]] }
    nodeConfig := { batchSize := 1, unfinalizedBlocks := false, scaleBatchSize := false }
    genesisHash := "near"
    queueCapacity := 10 }

/-- **A rewind re-enqueues a bypass height.** `init` keeps height 2 on the bypass list.
The first pass enqueues 1 and 3 and drops 2 from the list; a reset for an incorrect best
block at 1 rewinds the dispatcher, and the next pass enqueues 1, 2 and 3. -/
theorem bypass_height_enqueued_after_rewind :
    (FetchState.init bypassProject (startAt 100)).map (fun s₀ =>
      (s₀.bypassBlocks, (s₀.run bypassProject
        [.fillNextBlockBuffer, .resetForIncorrectBestBlock 1, .fillNextBlockBuffer]).2)) =
      .ok ([2], [.enqueueBlocks [1, 3] (.height 3) .range, .flushQueue 1,
        .enqueueBlocks [1, 2, 3] (.height 3) .range]) :=
  rfl

end NearIndexer
