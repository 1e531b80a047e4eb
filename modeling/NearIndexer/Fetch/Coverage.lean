import NearIndexer.Fetch.Bypass
import NearIndexer.Fetch.Order

/-!
# No Height Is Lost or Repeated

A pass enqueues a batch and moves `latestBufferedHeight` to its `Math.max`. The next pass
starts one above, or at `initBlockHeight` again when it is falsy, and a flush lowers
`latestBufferedHeight` to one below the flush height. The range path enqueues the range
from its start height to `nextEndBlockHeight`, without the heights of the bypass list. The
fast path of a modulo-only project enqueues a prefix of the sorted modulo heights of its
window. The dictionary branch enqueues a prefix of the sorted merge of an answer with the
modulo heights of its window, or, for an empty merge, moves `latestBufferedHeight` up to
the end of the window or the dictionary's `lastProcessedHeight`. So while every reset is at
a height the loop has reached, every height from the start height up to
`latestBufferedHeight` is accounted for (`Accounted`): the run enqueued it, the
configuration lists it to be bypassed, an answer of the dictionary left it out, from the
start of its query up to the highest height that answer can buffer (`PendingQuery.reach`),
or the fast path passed over it because no modulo divides it. The loop never leaves a gap
of its own; what the dictionary's omissions mean is the subject of
`NearIndexer.Fetch.Dictionary`, and that neither passes over a height a modulo filter
needs that of `NearIndexer.Fetch.ModuloHeights`.

The condition on resets is the dispatcher's: it resets at the height of a block it is
processing, which the loop enqueued. A reset above the next start height lowers nothing,
and `flushQueue` sets `latestBufferedHeight` to one below it, so the heights in between
would never be enqueued.

Without a dictionary no answer is recorded, and the range path loses no height; after a
reset it enqueues every height again from the reset's height. Each batch of the range path
or of the fast path is strictly increasing and starts above every height enqueued before,
so until a reset rewinds the dispatcher no height is enqueued twice. The dictionary way has
no such guarantee: its merge can repeat a modulo height
(`dictionary_batch_repeats_modulo_height`).

## Main results

* `SkipInv.step`: every step keeps the skip invariant, given a reset at a height the loop
  has reached.
* `range_path_loses_no_height`: over every run from `init` of a project without dictionary
  and not modulo-only, whose resets are at heights the loop has reached, every height from
  the start height up to `latestBufferedHeight` was enqueued or is a configured bypass
  height.
* `reset_reenqueues_from_height`: after a reset that flushes at `h`, the same holds from `h`
  for the heights enqueued after the reset.
* `enqueued_heights_strictly_increase`: over every run from `init` at a positive height of a
  project without dictionary, with no reset, the heights enqueued are strictly increasing.
* `range_path_enqueues_interval`: on the range path, such a run has enqueued exactly the
  heights from the start height up to `latestBufferedHeight` that are not bypass heights,
  in order.
-/

namespace NearIndexer

/-- The height a reset flushes at; the other actions flush nothing. -/
def FetchAction.resetHeight : FetchAction → Option Int
  | .resetForNewDs h | .resetForIncorrectBestBlock h => some h
  | _ => none

/-- Every reset of a run is at a height the loop has reached: at most the start height of
the next pass, or `initBlockHeight` from a `-Infinity` start. -/
def resetsBehind (cfg : FetchConfig) : FetchState → List FetchAction → Bool
  | _, [] => true
  | s, a :: as =>
    a.resetHeight.all (· ≤ s.getStartBlockHeight.getD s.initBlockHeight) &&
      resetsBehind cfg (s.step cfg a).1 as

/-! ### What a run accounts for -/

/-- The answer an action brings to the query in flight, paired with that query. -/
def FetchState.answered (s : FetchState) : FetchAction → List (PendingQuery × Dictionary)
  | .dictionaryAnswer (.ok (some d)) => (s.pending.map (·, d)).toList
  | _ => []

/-- The dictionary's answers over a run, each with the query in flight it answered. -/
def dictionaryAnswers (cfg : FetchConfig) :
    FetchState → List FetchAction → List (PendingQuery × Dictionary)
  | _, [] => []
  | s, a :: as => s.answered a ++ dictionaryAnswers cfg (s.step cfg a).1 as

/-- A query as a pass sends it: the window `[start, start + DICTIONARY_MAX_QUERY_SIZE)` and
its modulo heights. -/
def PendingQuery.AsSent (dataSources : List NearDataSource) (q : PendingQuery) : Prop :=
  q.queryEndBlock = q.startBlockHeight + DICTIONARY_MAX_QUERY_SIZE ∧
    q.moduloBlocks = getModuloBlocks dataSources q.startBlockHeight q.queryEndBlock

/-- The highest height an answer can move `latestBufferedHeight` to: the `Math.max` of its
merge with the query's modulo heights, or, for an empty merge, the end of the window or the
dictionary's `lastProcessedHeight`, whichever is lower. -/
def PendingQuery.reach (q : PendingQuery) (d : Dictionary) : Int :=
  ((d.batchBlocks ++ q.moduloBlocks).max?).getD
    (min (q.queryEndBlock - 1) d.metadata.lastProcessedHeight)

/-- A height the fast path of a modulo-only project passes over: no modulo of the project
divides it. -/
def FetchConfig.moduloSkips (cfg : FetchConfig) (x : Int) : Prop :=
  isModuloOnly cfg = true ∧ ∀ m ∈ getModulos cfg.project.dataSources, x % m ≠ 0

/-- **A height the run accounts for**: enqueued, a configured bypass height, left out by
an answer of the dictionary (from the start of its query up to its reach, in neither the
answer nor the query's modulo heights), or passed over by the fast path. -/
def Accounted (cfg : FetchConfig) (bypass enqueued : List Int)
    (answers : List (PendingQuery × Dictionary)) (x : Int) : Prop :=
  x ∈ enqueued ∨ x ∈ bypass ∨
    (∃ q d, (q, d) ∈ answers ∧ q.startBlockHeight ≤ x ∧ x ≤ q.reach d ∧ x ∉ d.batchBlocks ∧
      x ∉ q.moduloBlocks) ∨ cfg.moduloSkips x

/-- **The skip invariant**, from a height `start` at or above the loop's start height, for
the configured bypass heights `bypass`, the heights `enqueued` and the `answers` so far: a
bypass list taken from `bypass`; the query in flight and the answered ones as a pass sends
them; every height from `start` below the start of the query in flight accounted for; and
every height from `start` up to `latestBufferedHeight` accounted for. -/
structure SkipInv (cfg : FetchConfig) (start : Int) (bypass : List Int) (s : FetchState)
    (enqueued : List Int) (answers : List (PendingQuery × Dictionary)) : Prop where
  init_le : s.initBlockHeight ≤ start
  bypass_sub : ∀ b ∈ s.bypassBlocks, b ∈ bypass
  sent : ∀ q, s.pending = some q → q.AsSent cfg.project.dataSources
  answered : ∀ q d, (q, d) ∈ answers → q.AsSent cfg.project.dataSources
  below_query : ∀ q, s.pending = some q → ∀ x, start ≤ x → x < q.startBlockHeight →
    Accounted cfg bypass enqueued answers x
  covered : ∀ l, s.latestBufferedHeight = .height l → ∀ x, start ≤ x → x ≤ l →
    Accounted cfg bypass enqueued answers x

variable (cfg : FetchConfig) {s : FetchState} {start : Int} {bypass enq : List Int}
  {ans : List (PendingQuery × Dictionary)}

/-! ### Reading lemmas -/

/-- A batch height not enqueued by `filteredBlockBatch` is a bypass height. -/
theorem mem_filteredBlockBatch_or (bypassBlocks : List Int) {batch : List Int} {x : Int}
    (hx : x ∈ batch) : x ∈ (filteredBlockBatch bypassBlocks batch).1 ∨ x ∈ bypassBlocks := by
  unfold filteredBlockBatch cleanedBatchBlocks
  split
  · exact .inl hx
  · by_cases hb : x ∈ bypassBlocks
    · exact .inr hb
    · exact .inl (List.mem_filter.mpr ⟨hx, by simpa using hb⟩)

/-- A step keeps the loop's start height, and outside a reset also its query map. -/
theorem FetchState.step_frame (a : FetchAction) :
    (s.step cfg a).1.initBlockHeight = s.initBlockHeight ∧
      (a.resetHeight = none → (s.step cfg a).1.queriesMap = s.queriesMap) := by
  cases a with
  | fillNextBlockBuffer =>
    rcases s.fillNextBlockBuffer_cases cfg with h | ⟨-, -, -, src, -, h⟩ | ⟨st, -, -, -, -, h⟩ |
        ⟨st, -, -, -, -, -, h⟩ <;> simp only [FetchState.step, h, implies_true, and_self] <;>
      exact ⟨rfl, fun _ => rfl⟩
  | dictionaryAnswer r =>
    rcases s.dictionaryAnswer_cases cfg r with ⟨-, h⟩ | ⟨q, -, h | ⟨-, h⟩ | ⟨d, -, -, h⟩ |
        ⟨d, -, -, -, -, h⟩⟩ <;> simp only [FetchState.step, h, implies_true, and_self] <;>
      first
        | exact ⟨rfl, fun _ => rfl⟩
        | (unfold FetchState.enqueueDictionaryBlocks; dsimp only
           split <;> exact ⟨rfl, fun _ => rfl⟩)
  | resetForNewDs h | resetForIncorrectBestBlock h =>
    refine ⟨?_, fun hn => by cases hn⟩
    rcases s.reset_cases cfg h with hr | ⟨m, hr⟩ <;>
      simp only [FetchState.step, FetchState.resetForNewDs, FetchState.resetForIncorrectBestBlock,
        hr] <;> rfl
  | checkBatchScale scale =>
    simp only [FetchState.step, FetchState.checkBatchScale]
    split <;> exact ⟨rfl, fun _ => rfl⟩
  | _ => exact ⟨rfl, fun _ => rfl⟩

/-- No run moves the loop's start height. -/
theorem FetchState.run_initBlockHeight (acts : List FetchAction) :
    (s.run cfg acts).1.initBlockHeight = s.initBlockHeight := by
  induction acts generalizing s with
  | nil => rfl
  | cons a as ih =>
    rw [FetchState.run_cons, ih]
    exact (FetchState.step_frame cfg a).1

variable {cfg} in
/-- A height accounted for stays so as the run enqueues and the dictionary answers. -/
theorem Accounted.mono {enq' : List Int} {ans' : List (PendingQuery × Dictionary)} {x : Int}
    (h : Accounted cfg bypass enq ans x) (henq : enq ⊆ enq') (hans : ans ⊆ ans') :
    Accounted cfg bypass enq' ans' x := by
  rcases h with h | h | ⟨q, d, hqd, h⟩ | h
  · exact .inl (henq h)
  · exact .inr (.inl h)
  · exact .inr (.inr (.inl ⟨q, d, hans hqd, h⟩))
  · exact .inr (.inr (.inr h))

/-- Every height of an answer's merge is at most its reach. -/
theorem PendingQuery.le_reach {q : PendingQuery} {d : Dictionary} {y : Int}
    (hy : y ∈ d.batchBlocks ++ q.moduloBlocks) : y ≤ q.reach d := by
  obtain ⟨m, hm⟩ := Option.ne_none_iff_exists'.mp
    (mt List.max?_eq_none_iff.mp (List.ne_nil_of_mem hy))
  simpa [PendingQuery.reach, hm] using le_of_max?_eq_some hm hy

/-- Outside a modulo-only project the fast path passes over nothing. -/
theorem FetchConfig.not_moduloSkips (hmod : isModuloOnly cfg = false) {x : Int} :
    ¬ cfg.moduloSkips x :=
  fun h => Bool.false_ne_true (hmod ▸ h.1)

variable {cfg} in
/-- With no answer recorded, a height accounted for that the fast path does not pass over
is enqueued or a bypass height. -/
theorem Accounted.of_nil {x : Int} (h : Accounted cfg bypass enq [] x)
    (hx : ¬ cfg.moduloSkips x) : x ∈ enq ∨ x ∈ bypass := by
  rcases h with h | h | ⟨q, d, hqd, -⟩ | h
  · exact .inl h
  · exact .inr h
  · cases hqd
  · exact absurd h hx

/-- In a sorted list, a prefix holds every height below one of its own. -/
theorem mem_take_of_sorted_le {l : List Int} (hl : l.Sorted (· ≤ ·)) {k : Nat} {x y : Int}
    (hy : y ∈ l.take k) (hx : x ∈ l) (hlt : x < y) : x ∈ l.take k := by
  rw [← List.take_append_drop k l] at hl hx
  rcases List.mem_append.mp hx with hx | hx
  · exact hx
  · exact absurd hlt (not_lt.mpr ((List.pairwise_append.mp hl).2.2 y hy x hx))

/-- With room in the queue, the dictionary branch enqueues a non-empty prefix of a
non-empty merge. -/
theorem FetchState.take_freeSize_ne_nil {l : List Int} (hl : l ≠ []) (hfree : 0 < s.freeSize cfg) :
    l.take (min (l.length : Int) (s.freeSize cfg)).toNat ≠ [] := by
  rw [ne_eq, List.take_eq_nil_iff, not_or]
  have := List.length_pos_of_ne_nil hl
  exact ⟨by omega, hl⟩

/-- The invariant reads the query in flight, the start height, the bypass list and the
buffered height only; a state that agrees on them, or has cleared its query, keeps it. -/
theorem SkipInv.of_eq {s' : FetchState} (hi : SkipInv cfg start bypass s enq ans)
    (hp : ∀ q, s'.pending = some q → s.pending = some q)
    (hinit : s'.initBlockHeight = s.initBlockHeight) (hb : s'.bypassBlocks = s.bypassBlocks)
    (hl : s'.latestBufferedHeight = s.latestBufferedHeight) :
    SkipInv cfg start bypass s' enq ans where
  init_le := hinit ▸ hi.init_le
  bypass_sub := hb ▸ hi.bypass_sub
  sent q hq := hi.sent q (hp q hq)
  answered := hi.answered
  below_query q hq := hi.below_query q (hp q hq)
  covered := hl ▸ hi.covered

/-- The invariant holds of a longer list of enqueued heights. -/
theorem SkipInv.mono {enq' : List Int} (hi : SkipInv cfg start bypass s enq ans)
    (henq : enq ⊆ enq') : SkipInv cfg start bypass s enq' ans where
  init_le := hi.init_le
  bypass_sub := hi.bypass_sub
  sent := hi.sent
  answered := hi.answered
  below_query q hq x hx hxq := (hi.below_query q hq x hx hxq).mono henq (List.Subset.refl _)
  covered l hl x hx hxl := (hi.covered l hl x hx hxl).mono henq (List.Subset.refl _)

/-- An answer is recorded only by the action that brings it, with the query in flight. -/
theorem FetchState.of_mem_answered {a : FetchAction} {q : PendingQuery} {d : Dictionary}
    (h : (q, d) ∈ s.answered a) :
    s.pending = some q ∧ a = .dictionaryAnswer (.ok (some d)) := by
  rcases a with _ | (_ | _ | d') <;> simp only [answered, List.not_mem_nil] at h
  rcases hp : s.pending with _ | p <;> simp [hp] at h
  obtain ⟨rfl, rfl⟩ := h
  exact ⟨rfl, rfl⟩

/-- The invariant records the answer an action brings to the query in flight. -/
theorem SkipInv.record (hi : SkipInv cfg start bypass s enq ans) (a : FetchAction) :
    SkipInv cfg start bypass s enq (ans ++ s.answered a) where
  init_le := hi.init_le
  bypass_sub := hi.bypass_sub
  sent := hi.sent
  answered q d hqd := by
    rcases List.mem_append.mp hqd with h | h
    · exact hi.answered q d h
    · exact hi.sent q (FetchState.of_mem_answered h).1
  below_query q hq x hx hxq :=
    (hi.below_query q hq x hx hxq).mono (List.Subset.refl _) (List.subset_append_left _ _)
  covered l hl x hx hxl :=
    (hi.covered l hl x hx hxl).mono (List.Subset.refl _) (List.subset_append_left _ _)

/-- Every height below the start of the next pass is accounted for. -/
theorem SkipInv.below_start (hi : SkipInv cfg start bypass s enq ans) {st : Int}
    (h : s.getStartBlockHeight = some st) :
    ∀ x, start ≤ x → x < st → Accounted cfg bypass enq ans x := by
  intro x hx hxs
  have := hi.init_le
  unfold FetchState.getStartBlockHeight at h
  rcases hl : s.latestBufferedHeight with _ | _ | l <;> simp only [hl] at h
  · cases h
    omega
  · cases h
  · split at h <;> cases h
    · omega
    · exact hi.covered l hl x hx (by omega)

/-! ### One step -/

/-- **A batch with no gap up to its `Math.max` keeps the invariant**: filtered, it
enqueues each of its heights but the bypass ones, and every height from the start of the
pass up to its `Math.max` is in the batch or accounted for already. -/
theorem SkipInv.enqueueBatch (hi : SkipInv cfg start bypass s enq ans) (st : Int)
    {raw : List Int} (hbelow : ∀ x, start ≤ x → x < st → Accounted cfg bypass enq ans x)
    (hraw : ∀ m, raw.max? = some m → ∀ x, st ≤ x → x ≤ m → x ∈ raw ∨ Accounted cfg bypass enq ans x)
    (source : BatchSource) :
    SkipInv cfg start bypass (s.enqueueBatch raw source).1
      (enq ++ (s.enqueueBatch raw source).2.flatMap FetchEvent.heights) ans := by
  have hsub : enq ⊆ enq ++ (s.enqueueBatch raw source).2.flatMap FetchEvent.heights :=
    List.subset_append_left _ _
  refine ⟨hi.init_le,
    fun b hb => hi.bypass_sub b ((s.enqueueBatch_bypassStep raw source).sublist.subset hb),
    hi.sent, hi.answered, (hi.mono cfg hsub).below_query, ?_⟩
  simp only [FetchState.enqueueBatch_fst, FetchState.enqueueBatch_snd, List.flatMap_cons,
    List.flatMap_nil, FetchEvent.heights, List.append_nil,
    getLatestBufferHeight_of_sublist (filteredBlockBatch_fst_sublist _ _)] at hsub ⊢
  intro l hl x hx hxl
  cases hm : raw.max? with
  | none => simp [hm, BufferedHeight.ofMax] at hl
  | some m =>
    obtain rfl : m = l := by simpa [hm, BufferedHeight.ofMax] using hl
    by_cases hxs : x < st
    · exact (hbelow x hx hxs).mono hsub (List.Subset.refl _)
    rcases hraw m hm x (by omega) hxl with hxr | hacc
    · rcases mem_filteredBlockBatch_or s.bypassBlocks hxr with h | h
      · exact .inl (List.mem_append_right _ h)
      · exact .inr (.inl (hi.bypass_sub x h))
    · exact hacc.mono hsub (List.Subset.refl _)

/-- A flush at a height the loop has reached keeps the invariant. -/
theorem SkipInv.flushQueue (hi : SkipInv cfg start bypass s enq ans) {h : Int}
    (hh : h ≤ s.getStartBlockHeight.getD s.initBlockHeight) :
    SkipInv cfg start bypass (s.flushQueue h) enq ans := by
  refine ⟨hi.init_le, hi.bypass_sub, hi.sent, hi.answered, hi.below_query, ?_⟩
  simp only [FetchState.flushQueue, BufferedHeight.height.injEq]
  rintro l rfl x hx hxl
  rcases hst : s.getStartBlockHeight with _ | st <;>
    simp only [hst, Option.getD_none, Option.getD_some] at hh
  · have := hi.init_le
    omega
  · exact hi.below_start cfg hst x hx (by omega)

/-- The fast path's batch holds every modulo height from its start up to its `Math.max`:
it is a prefix of the sorted modulo heights of its window. -/
theorem mem_getEnqueuedModuloBlocks_of_le {dataSources : List NearDataSource}
    {batchSize : Nat} {st m x : Int}
    (hm : (getEnqueuedModuloBlocks dataSources batchSize st).max? = some m) (hx : st ≤ x)
    (hxm : x ≤ m) (hmod : ∃ k ∈ getModulos dataSources, x % k = 0) :
    x ∈ getEnqueuedModuloBlocks dataSources batchSize st := by
  have hmem := List.max?_mem (fun a b => by omega) hm
  rcases lt_or_eq_of_le hxm with hlt | rfl
  · cases hM : (getModulos dataSources).max? with
    | none => simp [getEnqueuedModuloBlocks, hM] at hmem
    | some M =>
      simp only [getEnqueuedModuloBlocks, hM] at hmem ⊢
      have := (mem_getModuloBlocks.mp (List.mem_of_mem_take hmem)).2.1
      exact mem_take_of_lt (getModuloBlocks_sorted _ _ _) hmem
        (mem_getModuloBlocks.mpr ⟨hx, by omega, hmod⟩) hlt
  · exact hmem

/-- **The non-dictionary way keeps the invariant** from a start below which every height is
accounted for: the range path enqueues every height from its start up to its `Math.max`,
upward or, past its end, its start alone, and the fast path every modulo height, passing
over the others. -/
theorem SkipInv.enqueueNextBlocks (hi : SkipInv cfg start bypass s enq ans) {st : Int}
    (hbelow : ∀ x, start ≤ x → x < st → Accounted cfg bypass enq ans x) (scaled : Int) :
    SkipInv cfg start bypass (s.enqueueNextBlocks cfg st scaled).1
      (enq ++ (s.enqueueNextBlocks cfg st scaled).2.flatMap FetchEvent.heights) ans := by
  unfold FetchState.enqueueNextBlocks FetchState.nextBlocks
  cases hmo : isModuloOnly cfg
  case false =>
    exact hi.enqueueBatch cfg st hbelow (fun m hm x hx hxm => .inl (mem_range_of_le_max hm hx hxm)) _
  case true =>
    refine hi.enqueueBatch cfg st hbelow (fun m hm x hx hxm => ?_) _
    by_cases hxmod : ∃ k ∈ getModulos cfg.project.dataSources, x % k = 0
    · exact .inl (mem_getEnqueuedModuloBlocks_of_le hm hx hxm hxmod)
    · exact .inr (.inr (.inr (.inr ⟨hmo, fun k hk hxk => hxmod ⟨k, hk, hxk⟩⟩)))

/-- **The dictionary branch keeps the invariant** for a recorded answer: a height from the
start of the query up to the `Math.max` of the prefix it enqueues is in the prefix, since
the merge is sorted, or is in neither the answer nor the modulo heights; an empty merge
moves `latestBufferedHeight` to the answer's reach and leaves out every height up to it. -/
theorem SkipInv.enqueueDictionaryBlocks (hi : SkipInv cfg start bypass s enq ans)
    {q : PendingQuery} {d : Dictionary} (hqd : (q, d) ∈ ans)
    (hbelow : ∀ x, start ≤ x → x < q.startBlockHeight → Accounted cfg bypass enq ans x) :
    SkipInv cfg start bypass (s.enqueueDictionaryBlocks cfg q d).1
      (enq ++ (s.enqueueDictionaryBlocks cfg q d).2.flatMap FetchEvent.heights) ans := by
  have hperm := List.perm_insertionSort (· ≤ ·) (d.batchBlocks ++ q.moduloBlocks)
  unfold FetchState.enqueueDictionaryBlocks
  dsimp only
  split
  case isTrue hnil =>
    have hout : ∀ y, y ∉ d.batchBlocks ++ q.moduloBlocks := fun y hy =>
      List.not_mem_nil y (List.isEmpty_iff.mp hnil ▸ hperm.symm.subset hy)
    have hreach : q.reach d = min (q.queryEndBlock - 1) d.metadata.lastProcessedHeight := by
      simp [PendingQuery.reach, List.eq_nil_iff_forall_not_mem.mpr hout]
    refine ⟨hi.init_le, hi.bypass_sub, hi.sent, hi.answered,
      (hi.mono cfg (List.subset_append_left _ _)).below_query, ?_⟩
    simp only [FetchState.enqueueBlocks, BufferedHeight.height.injEq]
    rintro l rfl x hx hxl
    by_cases hxs : x < q.startBlockHeight
    · exact (hbelow x hx hxs).mono (List.subset_append_left _ _) (List.Subset.refl _)
    exact .inr (.inr (.inl ⟨q, d, hqd, by omega, by omega,
      fun h => hout x (List.mem_append_left _ h), fun h => hout x (List.mem_append_right _ h)⟩))
  case isFalse =>
    refine hi.enqueueBatch cfg q.startBlockHeight hbelow (fun m hm x hx hxm => ?_) _
    have hmraw := List.max?_mem (fun a b => by omega) hm
    by_cases hxb : x ∈ d.batchBlocks ++ q.moduloBlocks
    · rcases lt_or_eq_of_le hxm with hlt | rfl
      · exact .inl (mem_take_of_sorted_le (List.sorted_insertionSort _ _) hmraw
          (hperm.symm.subset hxb) hlt)
      · exact .inl hmraw
    · exact .inr (.inr (.inr (.inl ⟨q, d, hqd, hx,
        hxm.trans (PendingQuery.le_reach (hperm.subset (List.mem_of_mem_take hmraw))),
        fun h => hxb (List.mem_append_left _ h), fun h => hxb (List.mem_append_right _ h)⟩)))

/-- The answer an action brings to the query in flight is recorded. -/
theorem FetchState.mem_answered {q : PendingQuery} {d : Dictionary} (hq : s.pending = some q) :
    (q, d) ∈ s.answered (.dictionaryAnswer (.ok (some d))) := by
  simp [FetchState.answered, hq]

/-- **Every step keeps the skip invariant**, given a reset at a height the loop has
reached. -/
theorem SkipInv.step (hi : SkipInv cfg start bypass s enq ans) (a : FetchAction)
    (ha : a.resetHeight.all (· ≤ s.getStartBlockHeight.getD s.initBlockHeight) = true) :
    SkipInv cfg start bypass (s.step cfg a).1
      (enq ++ (s.step cfg a).2.flatMap FetchEvent.heights) (ans ++ s.answered a) := by
  have hi' := hi.record cfg a
  cases a with
  | fillNextBlockBuffer =>
    rcases s.fillNextBlockBuffer_cases cfg with h | ⟨-, -, -, src, -, h⟩ |
        ⟨st, -, -, hst, -, h⟩ | ⟨st, -, -, hst, -, -, h⟩ <;>
      simp only [FetchState.step, h]
    · simpa using hi'
    · exact hi'.enqueueBatch cfg start (fun x hx hxs => absurd hx (by omega))
        (fun m hm => by simp at hm) src
    · exact hi'.enqueueNextBlocks cfg (hi'.below_start cfg hst) _
    · simp only [List.flatMap_nil, List.append_nil]
      exact ⟨hi.init_le, hi.bypass_sub, fun q hq => by cases hq; exact ⟨rfl, rfl⟩, hi'.answered,
        fun q hq => by cases hq; exact hi'.below_start cfg hst, hi'.covered⟩
  | dictionaryAnswer r =>
    have hi₀ : SkipInv cfg start bypass { s with pending := none } enq (ans ++ s.answered _) :=
      hi'.of_eq cfg (fun _ h => nomatch h) rfl rfl rfl
    rcases s.dictionaryAnswer_cases cfg r with ⟨-, h⟩ | ⟨q, hq, h | ⟨-, h⟩ | ⟨d, -, -, h⟩ |
        ⟨d, rfl, -, -, -, h⟩⟩ <;> simp only [FetchState.step, h]
    · simpa using hi'
    · exact hi₀.enqueueNextBlocks cfg (hi'.below_query q hq) _
    · simpa using hi₀
    · have hi₁ : SkipInv cfg start bypass
          { s with pending := none, dictionaryGenesisMatches := false } enq
          (ans ++ s.answered _) := hi'.of_eq cfg (fun _ h => nomatch h) rfl rfl rfl
      simpa only [List.flatMap_cons, FetchEvent.heights, List.nil_append] using
        hi₁.enqueueNextBlocks cfg (hi'.below_query q hq) _
    · exact hi₀.enqueueDictionaryBlocks cfg
        (List.mem_append_right _ (FetchState.mem_answered hq)) (hi'.below_query q hq)
  | resetForNewDs h | resetForIncorrectBestBlock h =>
    simp only [FetchAction.resetHeight, Option.all_some, decide_eq_true_eq] at ha
    rcases s.reset_cases cfg h with hr | ⟨m, hr⟩ <;>
      simp only [FetchState.step, FetchState.resetForNewDs, FetchState.resetForIncorrectBestBlock,
        hr, List.flatMap_cons, List.flatMap_nil, FetchEvent.heights, List.append_nil]
    · exact hi'.of_eq cfg (fun _ => id) rfl rfl rfl
    · have hi₁ : SkipInv cfg start bypass
          { s.syncDynamicDatascourcesFromMeta with queriesMap := m } enq (ans ++ s.answered _) :=
        hi'.of_eq cfg (fun _ => id) rfl rfl rfl
      exact hi₁.flushQueue cfg ha
  | checkBatchScale scale =>
    simp only [FetchState.step, FetchState.checkBatchScale, List.flatMap_nil, List.append_nil]
    split
    · exact hi'.of_eq cfg (fun _ => id) rfl rfl rfl
    · exact hi'
  | _ =>
    simp only [FetchState.step, List.flatMap_nil, List.append_nil]
    exact hi'.of_eq cfg (fun _ => id) rfl rfl rfl

/-- The skip invariant holds over every run whose resets are at heights the loop has
reached. -/
theorem SkipInv.run (hi : SkipInv cfg start bypass s enq ans) (acts : List FetchAction)
    (hres : resetsBehind cfg s acts = true) :
    SkipInv cfg start bypass (s.run cfg acts).1
      (enq ++ (s.run cfg acts).2.flatMap FetchEvent.heights)
      (ans ++ dictionaryAnswers cfg s acts) := by
  induction acts generalizing s enq ans with
  | nil => simpa [dictionaryAnswers] using hi
  | cons a as ih =>
    simp only [resetsBehind, Bool.and_eq_true] at hres
    simpa [FetchState.run_cons, dictionaryAnswers, List.flatMap_append, List.append_assoc] using
      ih (hi.step cfg a hres.1) hres.2

/-- `init` establishes the skip invariant, for the configured bypass heights. -/
theorem SkipInv.init {i : InitInputs} {s₀ : FetchState} (h : FetchState.init cfg i = .ok s₀) :
    SkipInv cfg i.startHeight (cfg.project.network.bypassBlocks.getD []) s₀ [] [] := by
  obtain ⟨-, hl, hp, hinit, hb⟩ := FetchState.init_fields cfg h
  exact ⟨hinit.le, fun b hx => (List.mem_filter.mp (hb ▸ hx)).1, by simp [hp], by simp,
    by simp [hp], by simp [hl]⟩
/-! ### The range path -/

section NoQuery


variable (hdict : cfg.project.network.dictionary.getD "" = "")

include hdict in
/-- Without a dictionary no step sends a query. -/
theorem FetchState.step_pending_none (a : FetchAction) (hp : s.pending = none) :
    (s.step cfg a).1.pending = none := by
  have hu : s.useDictionary cfg = false := by simp [FetchState.useDictionary, hdict]
  cases a with
  | fillNextBlockBuffer =>
    rcases (s.fillNextBlockBuffer_spec cfg).2.2 with h | h
    · exact h.trans hp
    · simp [hu] at h
  | dictionaryAnswer r => exact FetchState.dictionaryAnswer_pending cfg r
  | resetForNewDs h | resetForIncorrectBestBlock h =>
    exact (FetchState.reset_spec cfg (s := s) h).2.1.trans hp
  | checkBatchScale scale =>
    simp only [FetchState.step, FetchState.checkBatchScale]
    split <;> exact hp
  | _ => exact hp

include hdict in
/-- Without a dictionary no run sends a query. -/
theorem FetchState.run_pending_none (acts : List FetchAction) (hp : s.pending = none) :
    (s.run cfg acts).1.pending = none := by
  induction acts generalizing s with
  | nil => exact hp
  | cons a as ih => exact ih (FetchState.step_pending_none cfg hdict a hp)

include hdict in
/-- Without a dictionary a run records no answer. -/
theorem dictionaryAnswers_eq_nil (acts : List FetchAction) (hp : s.pending = none) :
    dictionaryAnswers cfg s acts = [] := by
  induction acts generalizing s with
  | nil => rfl
  | cons a as ih =>
    have ha : s.answered a = [] := by
      rcases a with _ | (_ | _ | d) <;> simp [FetchState.answered, hp]
    simp only [dictionaryAnswers, ha, List.nil_append]
    exact ih (FetchState.step_pending_none cfg hdict a hp)

end NoQuery

/-- **The range path loses no height.** For a project without dictionary that is not
modulo-only, over every run from `init` whose resets are at heights the loop has reached,
every height from the start height up to `latestBufferedHeight` has been enqueued by the
run or is one of the configured bypass heights. -/
theorem range_path_loses_no_height (hdict : cfg.project.network.dictionary.getD "" = "")
    (hmod : isModuloOnly cfg = false) (i : InitInputs) (s₀ : FetchState)
    (h₀ : FetchState.init cfg i = .ok s₀) (acts : List FetchAction)
    (hres : resetsBehind cfg s₀ acts = true) :
    ∀ l, (s₀.run cfg acts).1.latestBufferedHeight = .height l →
      ∀ x, i.startHeight ≤ x → x ≤ l →
        x ∈ (s₀.run cfg acts).2.flatMap FetchEvent.heights ∨
          x ∈ cfg.project.network.bypassBlocks.getD [] := by
  intro l hl x hx hxl
  have hi := (SkipInv.init cfg h₀).run cfg acts hres
  rw [dictionaryAnswers_eq_nil cfg hdict acts (FetchState.init_pending cfg h₀)] at hi
  simpa using (hi.covered l hl x hx hxl).of_nil (cfg.not_moduloSkips hmod)

/-- The state `init` builds for `bypassProject` at height 1 with both heads at 100: height 2
on the bypass list, and the query map of its one start block, which has no entries. -/
def bypassProjectStart : FetchState :=
  { latestBestHeight := 100, latestFinalizedHeight := 100, isShutdown := false,
    batchSizeScale := 1, templateDynamicDatasouces := [], dictionaryGenesisMatches := true,
    bypassBlocks := [2], initBlockHeight := 1, queriesMap := [(1, [])],
    dictionaryStartHeight := none, dynamicDatasources := [], queue := [],
    latestBufferedHeight := .undefined, pending := none }

/-- On `bypassProject`, two passes, a processed block and a reset at height 1 leave no gap. -/
theorem bypassProject_loses_no_height :
    FetchState.init bypassProject (startAt 100) = .ok bypassProjectStart ∧
      resetsBehind bypassProject bypassProjectStart
        [.fillNextBlockBuffer, .processBlock, .fillNextBlockBuffer,
          .resetForIncorrectBestBlock 1, .fillNextBlockBuffer] = true ∧
      ∀ l, (bypassProjectStart.run bypassProject
          [.fillNextBlockBuffer, .processBlock, .fillNextBlockBuffer,
            .resetForIncorrectBestBlock 1, .fillNextBlockBuffer]).1.latestBufferedHeight =
            .height l →
        ∀ x, (startAt 100).startHeight ≤ x → x ≤ l →
          x ∈ (bypassProjectStart.run bypassProject
            [.fillNextBlockBuffer, .processBlock, .fillNextBlockBuffer,
              .resetForIncorrectBestBlock 1, .fillNextBlockBuffer]).2.flatMap FetchEvent.heights ∨
            x ∈ bypassProject.project.network.bypassBlocks.getD [] :=
  ⟨rfl, rfl, range_path_loses_no_height bypassProject rfl rfl (startAt 100) bypassProjectStart rfl
    _ rfl⟩

/-! ### After a reset -/

/-- **A reset makes the range path enqueue again from its height.** For a project without
dictionary that is not modulo-only, take any run from `init`, then a reset for a new
datasource at a height `h` at or above the start height that flushes the dispatcher. Over
every later run whose resets are at heights the loop has reached, every height from `h` up
to `latestBufferedHeight` is enqueued after the reset or is a configured bypass height: a
datasource created at `h` sees every block from `h` on. -/
theorem reset_reenqueues_from_height (hdict : cfg.project.network.dictionary.getD "" = "")
    (hmod : isModuloOnly cfg = false) (i : InitInputs) (s₀ : FetchState)
    (h₀ : FetchState.init cfg i = .ok s₀) (acts : List FetchAction) (h : Int)
    (hh : i.startHeight ≤ h) (rest : List FetchAction)
    (hflush : ((s₀.run cfg acts).1.step cfg (.resetForNewDs h)).2 = [.flushQueue h])
    (hres : resetsBehind cfg ((s₀.run cfg acts).1.step cfg (.resetForNewDs h)).1 rest = true) :
    ∀ l, (((s₀.run cfg acts).1.step cfg (.resetForNewDs h)).1.run cfg rest).1.latestBufferedHeight =
        .height l →
      ∀ x, h ≤ x → x ≤ l →
        x ∈ (((s₀.run cfg acts).1.step cfg (.resetForNewDs h)).1.run cfg rest).2.flatMap
            FetchEvent.heights ∨
          x ∈ cfg.project.network.bypassBlocks.getD [] := by
  obtain ⟨-, -, hp₀, hinit₀, hb₀⟩ := FetchState.init_fields cfg h₀
  have hp := FetchState.run_pending_none cfg hdict acts hp₀
  have hinit := (FetchState.run_initBlockHeight cfg acts).trans hinit₀
  have hb : ∀ b ∈ (s₀.run cfg acts).1.bypassBlocks, b ∈ cfg.project.network.bypassBlocks.getD [] :=
    fun b hb =>
      (List.mem_filter.mp (hb₀ ▸ (FetchState.run_bypassRun cfg s₀ acts).sublist.subset hb)).1
  have hp₁ := FetchState.step_pending_none cfg hdict (.resetForNewDs h) hp
  have hi : SkipInv cfg h (cfg.project.network.bypassBlocks.getD [])
      ((s₀.run cfg acts).1.step cfg (.resetForNewDs h)).1 [] [] := by
    rcases (s₀.run cfg acts).1.reset_cases cfg h with hr | ⟨m, hr⟩ <;>
      simp only [FetchState.step, FetchState.resetForNewDs, hr] at hflush ⊢
    · cases hflush
    · refine ⟨hinit ▸ hh, hb, fun q hq => Option.noConfusion (hq.symm.trans hp),
        fun q d hqd => (List.not_mem_nil _ hqd).elim,
        fun q hq => Option.noConfusion (hq.symm.trans hp), ?_⟩
      simp only [FetchState.flushQueue, BufferedHeight.height.injEq]
      rintro l rfl x hx hxl
      omega
  intro l hl x hx hxl
  have hc := (hi.run cfg rest hres).covered l hl x hx hxl
  rw [dictionaryAnswers_eq_nil cfg hdict rest hp₁] at hc
  simpa using hc.of_nil (cfg.not_moduloSkips hmod)

/-- On `bypassProject`, two passes buffer up to 6; a reset at 2 for a new datasource makes
the next pass enqueue from 2 again. -/
theorem bypassProject_reenqueues_after_reset :
    FetchState.init bypassProject (startAt 100) = .ok bypassProjectStart ∧
      (startAt 100).startHeight ≤ 2 ∧
      ((bypassProjectStart.run bypassProject [.fillNextBlockBuffer, .fillNextBlockBuffer]).1.step
          bypassProject (.resetForNewDs 2)).2 = [.flushQueue 2] ∧
      resetsBehind bypassProject ((bypassProjectStart.run bypassProject
          [.fillNextBlockBuffer, .fillNextBlockBuffer]).1.step bypassProject
          (.resetForNewDs 2)).1 [.fillNextBlockBuffer] = true ∧
      ∀ l, (((bypassProjectStart.run bypassProject
          [.fillNextBlockBuffer, .fillNextBlockBuffer]).1.step bypassProject
          (.resetForNewDs 2)).1.run bypassProject [.fillNextBlockBuffer]).1.latestBufferedHeight =
            .height l →
        ∀ x, 2 ≤ x → x ≤ l →
          x ∈ (((bypassProjectStart.run bypassProject
              [.fillNextBlockBuffer, .fillNextBlockBuffer]).1.step bypassProject
              (.resetForNewDs 2)).1.run bypassProject [.fillNextBlockBuffer]).2.flatMap
              FetchEvent.heights ∨
            x ∈ bypassProject.project.network.bypassBlocks.getD [] :=
  ⟨rfl, by decide, rfl, rfl, reset_reenqueues_from_height bypassProject rfl rfl (startAt 100)
    bypassProjectStart rfl _ 2 (by decide) _ rfl rfl⟩

/-! ### Each height once -/

/-- **The order of the enqueued heights** `enqueued` of a run so far, for the configured
bypass heights `bypass`: no query in flight; a positive start height; heights strictly
increasing, from the start height on, below the start of the next pass and none of them a
bypass height; none before
the first enqueue; a positive buffered height; a next start at or above the start height;
and every bypass height off the list below the next start. -/
structure OnceInv (bypass : List Int) (s : FetchState) (enqueued : List Int) : Prop where
  pending : s.pending = none
  init_pos : 0 < s.initBlockHeight
  sorted : enqueued.Sorted (· < ·)
  ge_init : ∀ x ∈ enqueued, s.initBlockHeight ≤ x
  lt_start : ∀ st, s.getStartBlockHeight = some st → ∀ x ∈ enqueued, x < st
  empty_of_undefined : s.latestBufferedHeight = .undefined → enqueued = []
  buffered_pos : ∀ l, s.latestBufferedHeight = .height l → 0 < l
  start_ge : ∀ st, s.getStartBlockHeight = some st → s.initBlockHeight ≤ st
  avoids : ∀ x ∈ enqueued, x ∉ bypass
  passed : ∀ b ∈ bypass, b ∉ s.bypassBlocks →
    ∀ st, s.getStartBlockHeight = some st → b < st

/-- The invariant reads the query in flight, the start height, the bypass list and the
buffered height only. -/
theorem OnceInv.of_eq {s' : FetchState} (hi : OnceInv bypass s enq)
    (hp : s'.pending = s.pending) (hinit : s'.initBlockHeight = s.initBlockHeight)
    (hb : s'.bypassBlocks = s.bypassBlocks)
    (hl : s'.latestBufferedHeight = s.latestBufferedHeight) : OnceInv bypass s' enq := by
  have hst : s'.getStartBlockHeight = s.getStartBlockHeight := by
    unfold FetchState.getStartBlockHeight
    rw [hl, hinit]
  exact ⟨hp ▸ hi.pending, hinit ▸ hi.init_pos, hi.sorted, hinit ▸ hi.ge_init, hst ▸ hi.lt_start,
    hl ▸ hi.empty_of_undefined, hl ▸ hi.buffered_pos, hst ▸ hinit ▸ hi.start_ge, hi.avoids,
    hst ▸ hb ▸ hi.passed⟩

/-- The start of the next pass is positive. -/
theorem OnceInv.start_pos (hi : OnceInv bypass s enq) {st : Int}
    (h : s.getStartBlockHeight = some st) : 0 < st :=
  hi.init_pos.trans_le (hi.start_ge st h)

/-- After a batch from a positive start whose `Math.max` is `m`, the next pass starts at
`m + 1`. -/
theorem FetchState.enqueueBatch_start_eq {raw : List Int} {st m : Int} (source : BatchSource)
    (hge : ∀ y ∈ raw, st ≤ y) (hpos : 0 < st) (hm : raw.max? = some m) :
    (s.enqueueBatch raw source).1.getStartBlockHeight = some (m + 1) := by
  have := hge m (List.max?_mem (fun a b => by omega) hm)
  simp only [FetchState.getStartBlockHeight, FetchState.enqueueBatch_fst,
    getLatestBufferHeight_of_sublist (filteredBlockBatch_fst_sublist _ _), hm,
    BufferedHeight.ofMax]
  rw [if_neg (by omega)]

/-- After a batch from a positive start, the next pass starts one above the batch's
`Math.max`, which lies at or above the start and above every height of the batch. -/
theorem FetchState.enqueueBatch_start {raw : List Int} {st : Int} (source : BatchSource)
    (hge : ∀ y ∈ raw, st ≤ y) (hpos : 0 < st) :
    ∀ st', (s.enqueueBatch raw source).1.getStartBlockHeight = some st' →
      ∃ m, raw.max? = some m ∧ st' = m + 1 ∧ st ≤ m ∧ ∀ y ∈ raw, y ≤ m := by
  intro st' h
  cases hm : raw.max? with
  | none =>
    simp [FetchState.getStartBlockHeight, getLatestBufferHeight_of_sublist
      (filteredBlockBatch_fst_sublist _ _), hm, BufferedHeight.ofMax] at h
  | some m =>
    rw [s.enqueueBatch_start_eq source hge hpos hm, Option.some.injEq] at h
    exact ⟨m, rfl, h.symm, hge m (List.max?_mem (fun a b => by omega) hm),
      fun y hy => le_of_max?_eq_some hm hy⟩

/-- **A strictly increasing batch from the start of the pass keeps the order**, filtered or
not: it lies above every height enqueued before, its `Math.max` is the new buffered height,
and it passes every bypass height it drops from the list. -/
theorem OnceInv.enqueueBatch (hi : OnceInv bypass s enq) {st : Int} {raw : List Int}
    (hst : s.getStartBlockHeight = some st) (hraw : raw.Sorted (· < ·))
    (hge : ∀ y ∈ raw, st ≤ y) (source : BatchSource) :
    OnceInv bypass (s.enqueueBatch raw source).1
      (enq ++ (s.enqueueBatch raw source).2.flatMap FetchEvent.heights) := by
  have hsub := filteredBlockBatch_fst_sublist s.bypassBlocks raw
  have hpos := hi.start_pos hst
  have hnext := s.enqueueBatch_start source hge hpos
  simp only [FetchState.enqueueBatch_snd, List.flatMap_cons, List.flatMap_nil,
    FetchEvent.heights, List.append_nil]
  refine ⟨hi.pending, hi.init_pos, ?_, ?_, ?_, ?_, ?_, ?_, ?_, ?_⟩
  · exact List.pairwise_append.mpr ⟨hi.sorted, hraw.sublist hsub,
      fun x hx y hy => (hi.lt_start st hst x hx).trans_le (hge y (hsub.subset hy))⟩
  · intro x hx
    rcases List.mem_append.mp hx with hx | hx
    · exact hi.ge_init x hx
    · exact (hi.start_ge st hst).trans (hge x (hsub.subset hx))
  · intro st' h x hx
    obtain ⟨m, -, rfl, hmst, hle⟩ := hnext st' h
    rcases List.mem_append.mp hx with hx | hx
    · have := hi.lt_start st hst x hx
      omega
    · have := hle x (hsub.subset hx)
      omega
  · simp only [FetchState.enqueueBatch_fst]
    cases getLatestBufferHeight (filteredBlockBatch s.bypassBlocks raw).1 raw <;>
      simp [BufferedHeight.ofMax]
  · intro l hl
    simp only [FetchState.enqueueBatch_fst, getLatestBufferHeight_of_sublist hsub] at hl
    rcases hm : raw.max? with _ | m <;>
      simp only [hm, BufferedHeight.ofMax, BufferedHeight.height.injEq, reduceCtorEq] at hl
    have := hge m (List.max?_mem (fun a b => by omega) hm)
    omega
  · intro st' h
    obtain ⟨m, -, rfl, hmst, -⟩ := hnext st' h
    have := hi.start_ge st hst
    exact (by omega : s.initBlockHeight ≤ m + 1)
  · intro x hx hb
    rcases List.mem_append.mp hx with hx | hx
    · exact hi.avoids x hx hb
    · by_cases hl : x ∈ s.bypassBlocks
      · exact not_mem_filteredBlockBatch hl hx
      · have := hi.passed x hb hl st hst
        have := hge x (hsub.subset hx)
        omega
  · intro b hb hout st' h
    obtain ⟨m, hm, rfl, hmst, -⟩ := hnext st' h
    by_cases hl : b ∈ s.bypassBlocks
    · obtain ⟨m', hm', hlt⟩ := lt_of_mem_filteredBlockBatch hl hout
      cases hm.symm.trans hm'
      omega
    · have := hi.passed b hb hl st hst
      omega

/-- An empty batch from a `-Infinity` start keeps the order. -/
theorem OnceInv.enqueueBatch_nil (hi : OnceInv bypass s enq)
    (hst : s.getStartBlockHeight = none) (source : BatchSource) :
    OnceInv bypass (s.enqueueBatch [] source).1
      (enq ++ (s.enqueueBatch [] source).2.flatMap FetchEvent.heights) := by
  have hnil := List.sublist_nil.mp (filteredBlockBatch_fst_sublist s.bypassBlocks [])
  have hnone : (s.enqueueBatch [] source).1.getStartBlockHeight = none := by
    simp [FetchState.getStartBlockHeight, getLatestBufferHeight, hnil, BufferedHeight.ofMax]
  have hneg : s.latestBufferedHeight = .negInfinity := by
    unfold FetchState.getStartBlockHeight at hst
    rcases hl : s.latestBufferedHeight with _ | _ | l <;> simp only [hl] at hst
    · cases hst
    · rfl
    · split at hst <;> cases hst
  simp only [FetchState.enqueueBatch_snd, hnil, List.flatMap_cons, List.flatMap_nil,
    FetchEvent.heights, List.append_nil]
  refine ⟨hi.pending, hi.init_pos, hi.sorted, hi.ge_init,
    fun _ h => Option.noConfusion (hnone.symm.trans h), ?_, ?_,
    fun _ h => Option.noConfusion (hnone.symm.trans h), hi.avoids,
    fun _ _ _ _ h => Option.noConfusion (hnone.symm.trans h)⟩
  · simp [getLatestBufferHeight, hnil, BufferedHeight.ofMax]
  · simp [getLatestBufferHeight, hnil, BufferedHeight.ofMax]

section NoDictionary

variable (hdict : cfg.project.network.dictionary.getD "" = "")

include hdict in
/-- **Every step but a reset keeps the order.** -/
theorem OnceInv.step (hi : OnceInv bypass s enq) (a : FetchAction) (ha : a.resetHeight = none) :
    OnceInv bypass (s.step cfg a).1 (enq ++ (s.step cfg a).2.flatMap FetchEvent.heights) := by
  have hu : s.useDictionary cfg = false := by simp [FetchState.useDictionary, hdict]
  cases a with
  | fillNextBlockBuffer =>
    rcases s.fillNextBlockBuffer_cases cfg with h | ⟨-, -, hst, src, -, h⟩ |
        ⟨st, -, -, hst, hle, h⟩ | ⟨st, -, -, -, -, hd, -⟩
    · simpa [FetchState.step, h] using hi
    · simp only [FetchState.step, h]
      exact hi.enqueueBatch_nil hst src
    · simp only [FetchState.step, h, FetchState.enqueueNextBlocks]
      have hfrom := s.nextBlocks_from cfg (s.scaledBatchSize_nonneg cfg) hle
      exact hi.enqueueBatch hst hfrom.1 hfrom.2 _
    · exact absurd hd (by simp [hu])
  | dictionaryAnswer r =>
    simpa [FetchState.step, FetchState.dictionaryAnswer, hi.pending] using hi
  | resetForNewDs h | resetForIncorrectBestBlock h => cases ha
  | checkBatchScale scale =>
    simp only [FetchState.step, FetchState.checkBatchScale, List.flatMap_nil, List.append_nil]
    split
    · exact hi.of_eq rfl rfl rfl rfl
    · exact hi
  | _ =>
    simp only [FetchState.step, List.flatMap_nil, List.append_nil]
    exact hi.of_eq rfl rfl rfl rfl

include hdict in
/-- The order holds over every run without reset. -/
theorem OnceInv.run (hi : OnceInv bypass s enq) (acts : List FetchAction)
    (hres : ∀ a ∈ acts, a.resetHeight = none) :
    OnceInv bypass (s.run cfg acts).1 (enq ++ (s.run cfg acts).2.flatMap FetchEvent.heights) := by
  induction acts generalizing s enq with
  | nil => simpa using hi
  | cons a as ih =>
    simpa [FetchState.run_cons, List.flatMap_append, List.append_assoc] using
      ih (hi.step cfg hdict a (hres a (List.mem_cons_self _ _)))
        fun b hb => hres b (List.mem_cons_of_mem _ hb)

end NoDictionary

/-- `init` at a positive height establishes the order, with nothing enqueued and every
configured bypass height below the start on the list or passed. -/
theorem OnceInv.init {i : InitInputs} {s₀ : FetchState} (h : FetchState.init cfg i = .ok s₀)
    (hstart : 0 < i.startHeight) : OnceInv (cfg.project.network.bypassBlocks.getD []) s₀ [] := by
  obtain ⟨-, hl, hp, hinit, hby⟩ := FetchState.init_fields cfg h
  have hst : s₀.getStartBlockHeight = some i.startHeight := by
    simp [FetchState.getStartBlockHeight, hl, hinit]
  refine ⟨hp, hinit ▸ hstart, List.sorted_nil, by simp, by simp, fun _ => rfl, by simp [hl],
    ?_, by simp, ?_⟩
  · intro st h
    rw [hst, Option.some.injEq] at h
    exact h ▸ hinit.le
  · intro b hb hout st h
    rw [hst, Option.some.injEq] at h
    subst h
    by_contra hlt
    exact hout (hby ▸ List.mem_filter.mpr ⟨hb, by simpa using not_lt.mp hlt⟩)

/-- **Without a dictionary no height is enqueued twice.** For a project without
dictionary, over every run from `init` at a positive height with no reset, the heights the
run enqueues, on the range path or the fast path, are strictly increasing. -/
theorem enqueued_heights_strictly_increase (hdict : cfg.project.network.dictionary.getD "" = "")
    (i : InitInputs) (s₀ : FetchState) (h₀ : FetchState.init cfg i = .ok s₀)
    (hstart : 0 < i.startHeight) (acts : List FetchAction)
    (hres : ∀ a ∈ acts, a.resetHeight = none) :
    ((s₀.run cfg acts).2.flatMap FetchEvent.heights).Sorted (· < ·) := by
  simpa using ((OnceInv.init cfg h₀ hstart).run cfg hdict acts hres).sorted

/-- With modulo 3, two passes and a processed block enqueue increasing heights. -/
theorem moduloProject_enqueues_increasing :
    FetchState.init (moduloProject 3 2 100 false) (startAt 100) = .ok moduloProjectStart ∧
      0 < (startAt 100).startHeight ∧
      (∀ a ∈ ([.fillNextBlockBuffer, .processBlock, .fillNextBlockBuffer] : List FetchAction),
        a.resetHeight = none) ∧
      ((moduloProjectStart.run (moduloProject 3 2 100 false)
          [.fillNextBlockBuffer, .processBlock, .fillNextBlockBuffer]).2.flatMap
          FetchEvent.heights).Sorted (· < ·) :=
  ⟨rfl, by decide, by decide, enqueued_heights_strictly_increase (moduloProject 3 2 100 false) rfl
    (startAt 100) moduloProjectStart rfl (by decide) _ (by decide)⟩

/-- A run without reset has its resets behind. -/
theorem resetsBehind_of_no_reset :
    ∀ (s : FetchState) (acts : List FetchAction), (∀ a ∈ acts, a.resetHeight = none) →
      resetsBehind cfg s acts = true
  | _, [], _ => rfl
  | s, a :: as, h => by
    simp only [resetsBehind, h a (List.mem_cons_self _ _), Option.all_none, Bool.true_and]
    exact resetsBehind_of_no_reset _ as fun b hb => h b (List.mem_cons_of_mem _ hb)

/-- **The range path enqueues the interval, each height once.** For a project without
dictionary that is not modulo-only, over every run from `init` at a positive height with no
reset, once `latestBufferedHeight` is a height `l`, the heights the run has enqueued are, in
order and each once, exactly the heights from the start height to `l` that are not
configured bypass heights. -/
theorem range_path_enqueues_interval (hdict : cfg.project.network.dictionary.getD "" = "")
    (hmod : isModuloOnly cfg = false) (i : InitInputs) (s₀ : FetchState)
    (h₀ : FetchState.init cfg i = .ok s₀) (hstart : 0 < i.startHeight)
    (acts : List FetchAction) (hres : ∀ a ∈ acts, a.resetHeight = none) :
    ∀ l, (s₀.run cfg acts).1.latestBufferedHeight = .height l →
      (s₀.run cfg acts).2.flatMap FetchEvent.heights =
        (intRange i.startHeight (l + 1)).filter (· ∉ cfg.project.network.bypassBlocks.getD []) := by
  intro l hl
  have hc := (SkipInv.init cfg h₀).run cfg acts (resetsBehind_of_no_reset cfg s₀ acts hres)
  rw [dictionaryAnswers_eq_nil cfg hdict acts (FetchState.init_pending cfg h₀)] at hc
  have ho := (OnceInv.init cfg h₀ hstart).run cfg hdict acts hres
  simp only [List.nil_append] at hc ho
  have hinit : (s₀.run cfg acts).1.initBlockHeight = i.startHeight :=
    (FetchState.run_initBlockHeight cfg acts).trans (FetchState.init_fields cfg h₀).2.2.2.1
  have hst : (s₀.run cfg acts).1.getStartBlockHeight = some (l + 1) := by
    simp [FetchState.getStartBlockHeight, hl, (ho.buffered_pos l hl).ne']
  have hsorted : ((intRange i.startHeight (l + 1)).filter
      (· ∉ cfg.project.network.bypassBlocks.getD [])).Sorted (· < ·) :=
    (intRange_sorted _ _).sublist (List.filter_sublist _)
  refine List.eq_of_perm_of_sorted ?_ (ho.sorted.imp le_of_lt) (hsorted.imp le_of_lt)
  rw [List.perm_ext_iff_of_nodup ho.sorted.nodup hsorted.nodup]
  intro x
  simp only [List.mem_filter, mem_intRange, decide_eq_true_eq]
  constructor
  · intro hx
    have := ho.lt_start _ hst x hx
    exact ⟨⟨hinit ▸ ho.ge_init x hx, by omega⟩, ho.avoids x hx⟩
  · rintro ⟨⟨hge, hlt⟩, hnb⟩
    exact ((hc.covered l hl x hge (by omega)).of_nil (cfg.not_moduloSkips hmod)).resolve_right hnb

/-- On `bypassProject`, two passes and a processed block enqueue 1, 3, 4, 5 and 6: the
heights up to 6 but the bypassed 2. -/
theorem bypassProject_enqueues_interval :
    FetchState.init bypassProject (startAt 100) = .ok bypassProjectStart ∧
      0 < (startAt 100).startHeight ∧
      (∀ a ∈ ([.fillNextBlockBuffer, .processBlock, .fillNextBlockBuffer] : List FetchAction),
        a.resetHeight = none) ∧
      ∀ l, (bypassProjectStart.run bypassProject
          [.fillNextBlockBuffer, .processBlock, .fillNextBlockBuffer]).1.latestBufferedHeight =
            .height l →
        (bypassProjectStart.run bypassProject
            [.fillNextBlockBuffer, .processBlock, .fillNextBlockBuffer]).2.flatMap
            FetchEvent.heights =
          (intRange (startAt 100).startHeight (l + 1)).filter
            (· ∉ bypassProject.project.network.bypassBlocks.getD []) :=
  ⟨rfl, by decide, by decide, range_path_enqueues_interval bypassProject rfl rfl (startAt 100)
    bypassProjectStart rfl (by decide) _ (by decide)⟩

example : (bypassProjectStart.run bypassProject
    [.fillNextBlockBuffer, .processBlock, .fillNextBlockBuffer]).2.flatMap FetchEvent.heights =
      [1, 3, 4, 5, 6] := by
  decide

end NearIndexer
