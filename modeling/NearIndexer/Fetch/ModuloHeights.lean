import Mathlib.Algebra.Order.BigOperators.Group.List
import Mathlib.Algebra.Order.Ring.Nat
import NearIndexer.Filters
import NearIndexer.Fetch.Dictionary

/-!
# No Modulo Height Is Skipped

A block handler whose filter has a non-zero modulo lets a block through
(`filterBlockModulo`) only at a height that modulo divides, and `getModulos` collects these
modulos from the project's datasources. Each of the three paths of `fillNextBlockBuffer`
enqueues such heights: the range path enqueues every height of its batch; the fast path of
a modulo-only project enqueues a prefix of the sorted modulo heights; and the dictionary
path merges the modulo heights of its window (`getModuloBlocks`) into the dictionary's
answer before it enqueues a prefix of the merge. The skip invariant of
`NearIndexer.Fetch.Coverage` records what each path passes over, and none of it is a modulo
height: the fast path passes over heights no modulo divides, and an answer leaves out only
heights of its window that are not in the merge.

A project is modulo-only (`isModuloOnly`) when its datasources hold as many truthy
block-handler modulos as handlers. No datasource holds more modulos than handlers, so then
every runtime handler is a block handler with a non-zero modulo, and the fast path, which
enqueues nothing else, serves every handler of the project. The datasources a handler
creates on the way are another matter: `getModulos` reads the project's datasources only.

## Main results

* `NearRuntimeHandler.modulo?_of_isModuloOnly`: in a modulo-only project every runtime
  handler has a truthy modulo.
* `modulo_filter_heights_never_skipped`: over every run from `init` whose resets are at
  heights the loop has reached and whose dictionary answers lie in their windows, every
  height from the start height up to `latestBufferedHeight` at which the modulo filter of a
  block handler of the project lets the block through was enqueued or is a bypass height,
  for a handler with a non-zero modulo or any handler of a modulo-only project, with or
  without dictionary.
-/

namespace NearIndexer

variable (cfg : FetchConfig)

/-- `getModulos` collects the modulos of each datasource in turn. -/
theorem length_getModulos (dataSources : List NearDataSource) :
    (getModulos dataSources).length =
      (dataSources.map fun d => (getModulos [d]).length).sum := by
  induction dataSources with
  | nil => rfl
  | cons d ds ih =>
    rw [List.map_cons, List.sum_cons, ← ih]
    simp [getModulos]

/-- A datasource holds at most as many modulos as handlers. -/
theorem length_getModulos_singleton_le (d : NearDataSource) :
    (getModulos [d]).length ≤ d.handlerCount := by
  rcases d with ⟨_, _, hs⟩ | _ <;>
    simp [getModulos, NearDataSource.handlerCount, List.length_filterMap_le]

/-- **A modulo-only project's handlers all have a truthy modulo**: the project holds as many
modulos as handlers, and a handler without one would leave its datasource with fewer. -/
theorem NearRuntimeHandler.modulo?_of_isModuloOnly (h : isModuloOnly cfg = true) {st : Int}
    {file : String} {handlers : List NearRuntimeHandler}
    (hd : .runtime st file handlers ∈ cfg.project.dataSources) {handler : NearRuntimeHandler}
    (hh : handler ∈ handlers) : ∃ m, handler.modulo? = some m := by
  simp only [isModuloOnly, Bool.and_eq_true, bne_iff_ne, ne_eq, beq_iff_eq] at h
  have hlen : (handlers.filterMap (·.modulo?)).length = handlers.length := by
    by_contra hne
    have hlt := List.sum_lt_sum _ (·.handlerCount) (fun d _ => length_getModulos_singleton_le d)
      ⟨_, hd, lt_of_le_of_ne (length_getModulos_singleton_le _)
        (by simpa [getModulos, NearDataSource.handlerCount] using hne)⟩
    rw [← length_getModulos] at hlt
    omega
  rw [List.length_filterMap_eq_countP, List.countP_eq_length] at hlen
  exact Option.isSome_iff_exists.mp (hlen handler hh)

/-- A block handler of the project with a truthy modulo lets a block through only at a
height that one of the project's modulos divides. -/
theorem filterBlockModulo_of_modulo? {st : Int} {file : String}
    {handlers : List NearRuntimeHandler} (hd : .runtime st file handlers ∈ cfg.project.dataSources)
    {f : NearBlockFilter} (hh : NearRuntimeHandler.block (some f) ∈ handlers) {m : Int}
    (hm : (NearRuntimeHandler.block (some f)).modulo? = some m) {block : NearBlock}
    (hpass : filterBlockModulo block f = true) :
    ∃ k ∈ getModulos cfg.project.dataSources, block.header.height % k = 0 := by
  refine ⟨m, List.mem_flatMap.mpr ⟨_, hd, List.mem_filterMap.mpr ⟨_, hh, hm⟩⟩, ?_⟩
  rcases hf : f.modulo with _ | k <;>
    simp only [NearRuntimeHandler.modulo?, hf, Option.filter, Option.none_bind,
      reduceCtorEq] at hm
  split at hm <;> simp_all [filterBlockModulo]

/-- **No height a modulo filter lets through is skipped.** Over every run from `init` whose
resets are at heights the loop has reached and whose dictionary answers lie in the windows
of their queries, every height from the start height up to `latestBufferedHeight` at which
the modulo filter of a block handler of the project's datasources lets the block through
was enqueued by the run or is a configured bypass height, when the handler's modulo is
non-zero or the project is modulo-only. This holds on every path, the dictionary's
included, whatever the dictionary answers. -/
theorem modulo_filter_heights_never_skipped (i : InitInputs) (s₀ : FetchState)
    (h₀ : FetchState.init cfg i = .ok s₀) (acts : List FetchAction)
    (hres : resetsBehind cfg s₀ acts = true) (hw : answersWithinWindow cfg s₀ acts = true) :
    ∀ l, (s₀.run cfg acts).1.latestBufferedHeight = .height l →
      ∀ block : NearBlock, i.startHeight ≤ block.header.height → block.header.height ≤ l →
      ∀ st file handlers, NearDataSource.runtime st file handlers ∈ cfg.project.dataSources →
      ∀ f, NearRuntimeHandler.block (some f) ∈ handlers →
        (isModuloOnly cfg = true ∨ ∃ m, f.modulo = some m ∧ m ≠ 0) →
        filterBlockModulo block f = true →
        block.header.height ∈ (s₀.run cfg acts).2.flatMap FetchEvent.heights ∨
          block.header.height ∈ cfg.project.network.bypassBlocks.getD [] := by
  intro l hl block hx hxl st file handlers hd f hh hf hpass
  obtain ⟨m, hm⟩ : ∃ m, (NearRuntimeHandler.block (some f)).modulo? = some m := by
    rcases hf with hmo | ⟨m, hfm, hm0⟩
    · exact NearRuntimeHandler.modulo?_of_isModuloOnly cfg hmo hd hh
    · exact ⟨m, by simp [NearRuntimeHandler.modulo?, hfm, hm0]⟩
  obtain ⟨k, hk, hdvd⟩ := filterBlockModulo_of_modulo? cfg hd hh hm hpass
  have hi := (SkipInv.init cfg h₀).run cfg acts hres
  rcases hi.covered l hl _ hx hxl with h | h | ⟨q, d, hqd, hqx, hxr, -, hxm⟩ | h
  · exact .inl (by simpa using h)
  · exact .inr h
  · -- the modulo heights merged into the answer reach past what the answer covers
    have hq := hi.answered q d hqd
    rw [List.nil_append] at hqd
    have hxe := hxr.trans_lt
      (PendingQuery.reach_lt hq (dictionaryAnswers_below cfg acts hw q d hqd))
    exact absurd (hq.2 ▸ mem_getModuloBlocks.mpr ⟨hqx, hxe, k, hk, hdvd⟩) hxm
  · exact absurd hdvd (h.2 k hk)

/-- With a dictionary that has processed less than the window of its query, the loop still
enqueues every multiple of 3 it passes. -/
theorem laggingRun_enqueues_modulo_heights :
    FetchState.init moduloAliceProject aliceInputs = .ok aliceStart ∧
      resetsBehind moduloAliceProject aliceStart laggingRun = true ∧
      answersWithinWindow moduloAliceProject aliceStart laggingRun = true ∧
      ∀ l, (aliceStart.run moduloAliceProject laggingRun).1.latestBufferedHeight = .height l →
        ∀ block : NearBlock, aliceInputs.startHeight ≤ block.header.height →
        block.header.height ≤ l →
        ∀ st file handlers, NearDataSource.runtime st file handlers ∈
          moduloAliceProject.project.dataSources →
        ∀ f, NearRuntimeHandler.block (some f) ∈ handlers →
          (isModuloOnly moduloAliceProject = true ∨ ∃ m, f.modulo = some m ∧ m ≠ 0) →
          filterBlockModulo block f = true →
          block.header.height ∈
              (aliceStart.run moduloAliceProject laggingRun).2.flatMap FetchEvent.heights ∨
            block.header.height ∈ moduloAliceProject.project.network.bypassBlocks.getD [] :=
  ⟨rfl, rfl, rfl, modulo_filter_heights_never_skipped moduloAliceProject aliceInputs aliceStart
    rfl laggingRun rfl rfl⟩

end NearIndexer
