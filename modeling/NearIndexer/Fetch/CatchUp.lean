import NearIndexer.Fetch.Answer
import NearIndexer.Fetch.Coverage

/-!
# The Loop Catches Up With the Head

Liveness of the fetch loop: the dispatcher processing the heights the loop buffered, and
the dictionary answering the queries the loop sends, are all the loop needs to reach the
head of the chain. `catchUp` and `catchUpWith` are those schedules, round by round: the
dispatcher processes up to `queueCapacity` buffered heights, the loop makes one pass, and,
with a dictionary, the dictionary answers the query that pass sent.

A pass from a start at or below `latestHeight` finds room for a scaled batch in the drained
queue. Without the dictionary it enqueues the range from its start to
`nextEndBlockHeight`, which ends at or above the start once `scaledBatchSize` is positive,
or, in a modulo-only project, the first `batchSize` modulo heights from its start. With the
dictionary it sends its query, and every answer moves the start on: an exception, no
answer, a foreign genesis or a lagging index fall back to the non-dictionary way; a valid
answer with no height moves `latestBufferedHeight` to the end of the window or
`lastProcessedHeight`, both at or above the start; and a valid answer with heights at or
above the start enqueues a non-empty prefix of its merge with the modulo heights. So a
round raises the start height by at least one, and once it is above `latestHeight` the
passes wait. Within `latestHeight + 1 - start` rounds the start passes the head; without the
dictionary every height on the way was enqueued or is a bypass height.

The hypotheses are the service's own conditions for a pass to enqueue anything: no query in
flight and the loop running; a positive start (a buffered height of 0 is falsy and sends the
loop back to `initBlockHeight`); a positive `batchSize` (a zero one scales to an empty range
and a `-Infinity` buffered height); and a scaled batch that fits the queue (else
`freeSize < scaledBatchSize` holds for ever and every pass waits). A modulo-only project
also needs positive modulos (with negative ones only, the fast path's window is empty) and
a `batchSize` that fits the queue (the fast path enqueues `batchSize` heights whatever the
scale). An answer with a height below the start of its query can move
`latestBufferedHeight` back, so the dictionary's heights are asked to lie at or above it.

## Main results

* `CatchUpInv.enqueueNextBlocks_advances`, `CatchUpInv.enqueueDictionaryBlocks`,
  `CatchUpInv.dictionaryAnswer`: from a drained queue, each way a pass or an answer can
  enqueue keeps the conditions and starts the next pass above the start.
* `range_path_catches_up`: without dictionary, within `latestHeight + 1 - start` rounds the
  start height is above `latestHeight`, and every height from the start up to it was
  enqueued or bypassed.
* `loop_catches_up_whatever_dictionary_answers`: with or without dictionary, and whatever it
  answers, within `latestHeight + 1 - start` rounds the start height is above
  `latestHeight`.
-/

namespace NearIndexer

/-- The service at work on the range path: `n` rounds in which the dispatcher processes up
to `queueCapacity` buffered heights and the loop then makes one pass. -/
def catchUp (cfg : FetchConfig) : Nat → List FetchAction
  | 0 => []
  | n + 1 =>
    List.replicate cfg.queueCapacity .processBlock ++ .fillNextBlockBuffer :: catchUp cfg n

variable (cfg : FetchConfig) {s : FetchState} {target : Int} {bypass : List Int}

/-- Processing `k` buffered heights drops them from the queue and touches nothing else. -/
theorem FetchState.run_processBlock (k : Nat) :
    s.run cfg (List.replicate k .processBlock) = ({ s with queue := s.queue.drop k }, []) := by
  induction k generalizing s with
  | zero => rfl
  | succ k ih =>
    rw [List.replicate_succ, FetchState.run_cons, ih]
    simp [FetchState.step, List.drop_tail]

/-- `scaledBatchSize` is positive with a positive `batchSize`: its floor
`Math.min(MINIMUM_BATCH_SIZE, batchSize * 3)` is. -/
theorem FetchState.scaledBatchSize_pos (h : 0 < cfg.nodeConfig.batchSize) :
    0 < s.scaledBatchSize cfg := by
  simp only [FetchState.scaledBatchSize, MINIMUM_BATCH_SIZE]
  omega

/-- From a start at or below the head, a positive batch ends at or above its start. -/
theorem FetchState.le_nextEndBlockHeight {st scaled : Int} (hsc : 0 < scaled)
    (hle : st ≤ s.latestHeight cfg) : st ≤ s.nextEndBlockHeight cfg st scaled := by
  unfold FetchState.nextEndBlockHeight FetchState.latestHeight at *
  dsimp only
  split_ifs at * <;> omega

/-- What keeps the rounds enqueueing: no query in flight, the loop running, a queue a round
drains, room for a scaled batch, the head at `target`, and the bypass list within
`bypass`. -/
structure CatchUpInv (target : Int) (bypass : List Int) (s : FetchState) : Prop where
  pending : s.pending = none
  running : s.isShutdown = false
  queue_le : s.queue.length ≤ cfg.queueCapacity
  room : s.scaledBatchSize cfg ≤ cfg.queueCapacity
  head : s.latestHeight cfg = target
  bypass_sub : ∀ b ∈ s.bypassBlocks, b ∈ bypass

/-- The dispatcher processing heights keeps the conditions. -/
theorem CatchUpInv.drain (hi : CatchUpInv cfg target bypass s) (k : Nat) :
    CatchUpInv cfg target bypass { s with queue := s.queue.drop k } :=
  ⟨hi.pending, hi.running, by simpa using le_trans (Nat.sub_le _ _) hi.queue_le, hi.room,
    hi.head, hi.bypass_sub⟩

/-- A drained queue is free up to its capacity. -/
theorem FetchState.freeSize_of_queue_nil (hq : s.queue = []) :
    s.freeSize cfg = cfg.queueCapacity := by
  simp [FetchState.freeSize, hq]

/-- A pass from above the head waits. -/
theorem FetchState.fillNextBlockBuffer_waits {st : Int} (hst : s.getStartBlockHeight = some st)
    (hgt : s.latestHeight cfg < st) : s.fillNextBlockBuffer cfg = (s, []) := by
  simp [FetchState.fillNextBlockBuffer, hst, hgt]

/-- A pass with room from a start at or below the head sends the dictionary query when the
dictionary is in use from there, and otherwise takes the non-dictionary way. -/
theorem FetchState.fillNextBlockBuffer_of_room {st : Int} (hp : s.pending = none)
    (hsd : s.isShutdown = false) (hroom : s.scaledBatchSize cfg ≤ s.freeSize cfg)
    (hst : s.getStartBlockHeight = some st) (hle : st ≤ s.latestHeight cfg) :
    s.fillNextBlockBuffer cfg =
      if s.useDictionary cfg ∧ s.dictionaryStartHeight.any (· ≤ st) then
        ({ s with pending := some (s.dictionaryQuery cfg st) }, [])
      else s.enqueueNextBlocks cfg st (s.scaledBatchSize cfg) := by
  simp only [FetchState.fillNextBlockBuffer, hsd, hp, hst, Option.isSome_none, Bool.or_false,
    Bool.false_eq_true, if_false, not_lt.mpr hroom, gt_iff_lt, not_lt.mpr hle, or_self]

/-- The distance to the head shrinks by a round that raises a start at or below it. -/
theorem toNat_distance_le {target st st' : Int} {n : Nat}
    (hn : (target + 1 - st).toNat ≤ n + 1) (hle : st ≤ st') (hlt : st ≤ target → st < st') :
    (target + 1 - st').toNat ≤ n := by
  rcases le_or_lt st target with h | h
  · have := hlt h
    omega
  · omega

/-- **A batch from the start advances.** From a drained queue, a non-empty batch that fits
the queue and lies at or above a positive start keeps the conditions, and the next pass
starts one above its `Math.max`. -/
theorem CatchUpInv.enqueueBatch (hi : CatchUpInv cfg target bypass s) (hq : s.queue = [])
    {raw : List Int} {st : Int} (hge : ∀ y ∈ raw, st ≤ y) (hpos : 0 < st) (hne : raw ≠ [])
    (hlen : raw.length ≤ cfg.queueCapacity) (source : BatchSource) :
    CatchUpInv cfg target bypass (s.enqueueBatch raw source).1 ∧
      ∃ m, raw.max? = some m ∧ (s.enqueueBatch raw source).1.getStartBlockHeight = some (m + 1) ∧
        st ≤ m := by
  obtain ⟨m, hm⟩ := Option.ne_none_iff_exists'.mp (mt List.max?_eq_none_iff.mp hne)
  have hfl := (filteredBlockBatch_fst_sublist s.bypassBlocks raw).length_le
  refine ⟨⟨hi.pending, hi.running, ?_, hi.room, hi.head, fun b hb => hi.bypass_sub b
    ((s.enqueueBatch_bypassStep raw source).sublist.subset hb)⟩,
    m, hm, s.enqueueBatch_start_eq source hge hpos hm,
    hge m (List.max?_mem (fun a b => by omega) hm)⟩
  simp only [FetchState.enqueueBatch_fst, hq, List.nil_append]
  omega

section Passes

variable (hmod : isModuloOnly cfg = false) (hbatch : 0 < cfg.nodeConfig.batchSize)
  (hpath : isModuloOnly cfg = true →
    (∀ m ∈ getModulos cfg.project.dataSources, 0 < m) ∧
      cfg.nodeConfig.batchSize ≤ cfg.queueCapacity)

include hmod hbatch in
/-- **The range path advances.** From a drained queue, the range from a positive
start at or below the head up to `nextEndBlockHeight` keeps the conditions and starts the
next pass above it, every height between enqueued or bypassed. -/
theorem CatchUpInv.enqueueNextBlocks (hi : CatchUpInv cfg target bypass s) (hq : s.queue = [])
    {st : Int} (hpos : 0 < st) (hle : st ≤ target) :
    CatchUpInv cfg target bypass (s.enqueueNextBlocks cfg st (s.scaledBatchSize cfg)).1 ∧
      ∃ st', (s.enqueueNextBlocks cfg st (s.scaledBatchSize cfg)).1.getStartBlockHeight =
        some st' ∧ st < st' ∧ ∀ x, st ≤ x → x < st' →
          x ∈ (s.enqueueNextBlocks cfg st (s.scaledBatchSize cfg)).2.flatMap FetchEvent.heights ∨
            x ∈ bypass := by
  have hhead : st ≤ s.latestHeight cfg := hi.head ▸ hle
  simp only [FetchState.enqueueNextBlocks, FetchState.nextBlocks, hmod, Bool.false_eq_true,
    if_false, s.range_nextEnd cfg (s.scaledBatchSize_nonneg cfg) hhead]
  have hsc := s.scaledBatchSize_pos cfg hbatch
  have hse := s.le_nextEndBlockHeight cfg hsc hhead
  have hend := s.nextEndBlockHeight_le cfg st (s.scaledBatchSize cfg)
  generalize s.nextEndBlockHeight cfg st (s.scaledBatchSize cfg) = e at hse hend
  have hlen := length_intRange st (e + 1)
  have := hi.room
  have hge : ∀ y ∈ intRange st (e + 1), st ≤ y := fun y hy => (mem_intRange.mp hy).1
  obtain ⟨hi', m, hm, hst', hstm⟩ := hi.enqueueBatch cfg hq hge hpos
    (List.ne_nil_of_mem (mem_intRange.mpr ⟨le_rfl, by omega⟩)) (by omega) .range
  have hme := (mem_intRange.mp (List.max?_mem (fun a b => by omega) hm)).2
  refine ⟨hi', m + 1, hst', by omega, fun x hx hxm => ?_⟩
  simp only [FetchState.enqueueBatch_snd, List.flatMap_cons, List.flatMap_nil,
    FetchEvent.heights, List.append_nil]
  exact (mem_filteredBlockBatch_or s.bypassBlocks (mem_intRange.mpr ⟨hx, by omega⟩)).imp_right
    (hi.bypass_sub x)

include hpath hbatch in
/-- **The non-dictionary way advances**, on the range path, and on the fast path when the
modulos are positive and a batch of `batchSize` heights fits the queue: the fast path
enqueues the first `batchSize` modulo heights from the start. -/
theorem CatchUpInv.enqueueNextBlocks_advances (hi : CatchUpInv cfg target bypass s)
    (hq : s.queue = []) {st : Int} (hpos : 0 < st) (hle : st ≤ target) :
    CatchUpInv cfg target bypass (s.enqueueNextBlocks cfg st (s.scaledBatchSize cfg)).1 ∧
      ∃ st', (s.enqueueNextBlocks cfg st (s.scaledBatchSize cfg)).1.getStartBlockHeight =
        some st' ∧ st < st' := by
  cases hmo : isModuloOnly cfg
  case false =>
    exact (hi.enqueueNextBlocks cfg hmo hbatch hq hpos hle).imp_right
      (Exists.imp fun _ h => ⟨h.1, h.2.1⟩)
  case true =>
    obtain ⟨hposm, hcap⟩ := hpath hmo
    have hge := (s.nextBlocks_from cfg (s.scaledBatchSize_nonneg cfg) (hi.head ▸ hle)).2
    have hne : getModulos cfg.project.dataSources ≠ [] := by
      simp only [isModuloOnly, Bool.and_eq_true, bne_iff_ne, ne_eq, beq_iff_eq] at hmo
      exact List.ne_nil_of_length_pos (by omega)
    obtain ⟨_, -, -, hfirst⟩ :=
      getEnqueuedModuloBlocks_first_batch cfg.nodeConfig.batchSize st hne hposm
    simp only [FetchState.nextBlocks, hmo, if_true] at hge
    simp only [FetchState.enqueueNextBlocks, FetchState.nextBlocks, hmo, if_true]
    generalize getEnqueuedModuloBlocks _ _ _ = raw at hge hfirst
    obtain ⟨hi', m, -, hst', hstm⟩ := hi.enqueueBatch cfg hq hge hpos
      (List.ne_nil_of_length_pos (hfirst.length_eq ▸ hbatch)) (hfirst.length_eq ▸ hcap)
      .moduloOnly
    exact ⟨hi', m + 1, hst', by omega⟩

include hbatch in
/-- **The dictionary branch advances.** From a drained queue, a valid answer whose heights,
like the query's modulo heights, lie at or above the start of the query keeps the
conditions and starts the next pass above that start: an empty merge moves
`latestBufferedHeight` up to the end of the window or `lastProcessedHeight`, and a merge
enqueues a non-empty prefix, the queue having room for a scaled batch. -/
theorem CatchUpInv.enqueueDictionaryBlocks (hi : CatchUpInv cfg target bypass s)
    (hq : s.queue = []) {q : PendingQuery} {d : Dictionary} (hpos : 0 < q.startBlockHeight)
    (hge : ∀ y ∈ d.batchBlocks ++ q.moduloBlocks, q.startBlockHeight ≤ y)
    (hl : q.startBlockHeight ≤ d.metadata.lastProcessedHeight)
    (hend : q.startBlockHeight < q.queryEndBlock) :
    CatchUpInv cfg target bypass (s.enqueueDictionaryBlocks cfg q d).1 ∧
      ∃ st', (s.enqueueDictionaryBlocks cfg q d).1.getStartBlockHeight = some st' ∧
        q.startBlockHeight < st' := by
  have hperm := List.perm_insertionSort (· ≤ ·) (d.batchBlocks ++ q.moduloBlocks)
  have hsc := s.scaledBatchSize_pos cfg hbatch
  have hroom := hi.room
  unfold FetchState.enqueueDictionaryBlocks
  dsimp only
  split
  case isTrue =>
    refine ⟨⟨hi.pending, hi.running, by simp [FetchState.enqueueBlocks, hq], hi.room, hi.head,
      hi.bypass_sub⟩, min (q.queryEndBlock - 1) d.metadata.lastProcessedHeight + 1, ?_, by omega⟩
    simp only [FetchState.getStartBlockHeight, FetchState.enqueueBlocks]
    rw [if_neg (by omega)]
  case isFalse hne =>
    generalize hraw : List.take _ _ = raw
    have hsub : ∀ y ∈ raw, q.startBlockHeight ≤ y := fun y hy =>
      hge y (hperm.subset (List.mem_of_mem_take (hraw ▸ hy)))
    have hfree := s.freeSize_of_queue_nil cfg hq
    have hlen : raw.length ≤ cfg.queueCapacity := by
      rw [← hraw, List.length_take, hfree]
      omega
    have hne' : raw ≠ [] := hraw ▸ s.take_freeSize_ne_nil cfg (mt List.isEmpty_iff.mpr hne)
      (by omega)
    obtain ⟨hi', m, -, hst', hstm⟩ := hi.enqueueBatch cfg hq hsub hpos hne' hlen .dictionary
    exact ⟨hi', m + 1, hst', by omega⟩

include hpath hbatch in
/-- **Every answer to a pass's own query advances.** From a drained queue, after a pass from
a positive start at or below the head sends its query, whatever the dictionary answers (an
exception, no answer, a foreign genesis, a lagging index, or heights at or above the start)
keeps the conditions and starts the next pass above that start. -/
theorem CatchUpInv.dictionaryAnswer (hi : CatchUpInv cfg target bypass s) (hq : s.queue = [])
    {st : Int} (hst : s.getStartBlockHeight = some st) (hpos : 0 < st) (hle : st ≤ target)
    (r : Except String (Option Dictionary))
    (hr : ∀ d, r = .ok (some d) → ∀ y ∈ d.batchBlocks, st ≤ y) :
    CatchUpInv cfg target bypass
        (({ s with pending := some (s.dictionaryQuery cfg st) } : FetchState).dictionaryAnswer
          cfg r).1 ∧
      ∃ st', (({ s with pending := some (s.dictionaryQuery cfg st) } : FetchState).dictionaryAnswer
        cfg r).1.getStartBlockHeight = some st' ∧ st < st' := by
  have hi₀ : CatchUpInv cfg target bypass
      { ({ s with pending := some (s.dictionaryQuery cfg st) } : FetchState) with
        pending := none } :=
    ⟨rfl, hi.running, hi.queue_le, hi.room, hi.head, hi.bypass_sub⟩
  have hi₁ : CatchUpInv cfg target bypass
      { ({ s with pending := some (s.dictionaryQuery cfg st) } : FetchState) with
        pending := none, dictionaryGenesisMatches := false } :=
    ⟨rfl, hi.running, hi.queue_le, hi.room, hi.head, hi.bypass_sub⟩
  rcases FetchState.dictionaryAnswer_cases cfg { s with pending := some (s.dictionaryQuery cfg st) }
      r with ⟨hnone, -⟩ | ⟨q, hq', h | ⟨hne, -⟩ | ⟨d, rfl, -, h⟩ | ⟨d, rfl, -, -, hl, h⟩⟩
  · cases hnone
  all_goals obtain rfl : s.dictionaryQuery cfg st = q := Option.some.inj hq'
  · rw [h]
    exact hi₀.enqueueNextBlocks_advances cfg hbatch hpath hq hpos hle
  · exact absurd hst.symm hne
  · rw [h]
    exact hi₁.enqueueNextBlocks_advances cfg hbatch hpath hq hpos hle
  · rw [h]
    refine hi₀.enqueueDictionaryBlocks cfg hbatch hq hpos (fun y hy => ?_) hl
      (by simp [FetchState.dictionaryQuery, DICTIONARY_MAX_QUERY_SIZE])
    rcases List.mem_append.mp hy with hy | hy
    · exact hr d rfl y hy
    · exact (mem_getModuloBlocks.mp hy).1

end Passes

/-- One round of the service with a dictionary that answers each query with `answer`: the
dispatcher processes up to `queueCapacity` buffered heights, the loop makes one pass, and
the dictionary answers the query that pass sent, if it sent one. -/
def catchUpRound (cfg : FetchConfig) (answer : PendingQuery → Except String (Option Dictionary))
    (s : FetchState) : List FetchAction :=
  let passed := ((s.run cfg (List.replicate cfg.queueCapacity .processBlock)).1.step cfg
    .fillNextBlockBuffer).1
  List.replicate cfg.queueCapacity .processBlock ++
    .fillNextBlockBuffer :: passed.pending.toList.map fun q => .dictionaryAnswer (answer q)

/-- `n` rounds of `catchUpRound`, each from the state the previous one left. -/
def catchUpWith (cfg : FetchConfig) (answer : PendingQuery → Except String (Option Dictionary)) :
    Nat → FetchState → List FetchAction
  | 0, _ => []
  | n + 1, s =>
    catchUpRound cfg answer s ++ catchUpWith cfg answer n (s.run cfg (catchUpRound cfg answer s)).1

section Dictionary

variable (hbatch : 0 < cfg.nodeConfig.batchSize)
  (hpath : isModuloOnly cfg = true →
    (∀ m ∈ getModulos cfg.project.dataSources, 0 < m) ∧
      cfg.nodeConfig.batchSize ≤ cfg.queueCapacity)
  (answer : PendingQuery → Except String (Option Dictionary))
  (hanswer : ∀ q d, answer q = .ok (some d) → ∀ y ∈ d.batchBlocks, q.startBlockHeight ≤ y)

include hbatch hpath hanswer in
/-- **One round advances**, whatever the dictionary answers: from a positive start the
conditions hold after it, and the start is at or above where it was, above it when it was
at or below the head. -/
theorem CatchUpInv.round (hi : CatchUpInv cfg target bypass s) {st : Int}
    (hst : s.getStartBlockHeight = some st) (hpos : 0 < st) :
    CatchUpInv cfg target bypass (s.run cfg (catchUpRound cfg answer s)).1 ∧
      ∃ st', (s.run cfg (catchUpRound cfg answer s)).1.getStartBlockHeight = some st' ∧
        st ≤ st' ∧ (st ≤ target → st < st') := by
  have hid := hi.drain cfg cfg.queueCapacity
  have hd : s.queue.drop cfg.queueCapacity = [] := List.drop_eq_nil_of_le hi.queue_le
  simp only [catchUpRound, FetchState.run_append, FetchState.run_processBlock,
    FetchState.run_cons, FetchState.step]
  generalize hD : ({ s with queue := s.queue.drop cfg.queueCapacity } : FetchState) = D at hid
  have hDq : D.queue = [] := hD ▸ hd
  have hDs : D.getStartBlockHeight = some st := hD ▸ hst
  by_cases hle : st ≤ target
  case neg =>
    rw [D.fillNextBlockBuffer_waits cfg hDs (hid.head ▸ not_le.mp hle), hid.pending]
    exact ⟨hid, st, hDs, le_rfl, fun h => absurd h hle⟩
  case pos =>
    rw [D.fillNextBlockBuffer_of_room cfg hid.pending hid.running
      (hid.room.trans_eq (D.freeSize_of_queue_nil cfg hDq).symm) hDs (hid.head ▸ hle)]
    split
    · simp only [Option.toList_some, List.map_cons, List.map_nil, FetchState.run_cons,
        FetchState.step, FetchState.run_nil]
      obtain ⟨hi', st', hst', hlt⟩ := hid.dictionaryAnswer cfg hbatch hpath hDq hDs hpos hle _
        (fun d h => hanswer (D.dictionaryQuery cfg st) d h)
      exact ⟨hi', st', hst', hlt.le, fun _ => hlt⟩
    · obtain ⟨hi', st', hst', hlt⟩ := hid.enqueueNextBlocks_advances cfg hbatch hpath hDq hpos hle
      rw [hi'.pending]
      exact ⟨hi', st', hst', hlt.le, fun _ => hlt⟩

include hbatch hpath hanswer in
/-- The rounds with the dictionary: after `n` of them from a positive start, the start is
above the head if `n` covered the distance to it. -/
theorem CatchUpInv.run_catchUpWith (n : Nat) (hi : CatchUpInv cfg target bypass s) {st : Int}
    (hst : s.getStartBlockHeight = some st) (hpos : 0 < st) (hn : (target + 1 - st).toNat ≤ n) :
    ∃ st', (s.run cfg (catchUpWith cfg answer n s)).1.getStartBlockHeight = some st' ∧
      target < st' := by
  induction n generalizing s st with
  | zero => exact ⟨st, hst, by omega⟩
  | succ n ih =>
    obtain ⟨hi', st', hst', hle, hlt⟩ := hi.round cfg hbatch hpath answer hanswer hst hpos
    rw [catchUpWith, FetchState.run_append]
    exact ih hi' hst' (by omega) (toNat_distance_le hn hle hlt)

end Dictionary

/-- **The loop catches up with the head whatever the dictionary answers.** Take a project
with a positive `batchSize`, with or without dictionary, whose modulos are positive and
whose `batchSize` fits the queue if it is modulo-only. Take any state with no query in
flight, the loop running, at most `queueCapacity` buffered heights, room in the queue for a
scaled batch and a positive start height, and a dictionary that answers each query by
`answer`: an exception, nothing, a foreign genesis, a lagging index, or heights at or above
the start of the query. Then `latestHeight + 1 - start` rounds of the dispatcher processing
its queue, the loop making one pass and the dictionary answering the query it sent take the
start height above `latestHeight`. -/
theorem loop_catches_up_whatever_dictionary_answers (hbatch : 0 < cfg.nodeConfig.batchSize)
    (hpath : isModuloOnly cfg = true →
      (∀ m ∈ getModulos cfg.project.dataSources, 0 < m) ∧
        cfg.nodeConfig.batchSize ≤ cfg.queueCapacity)
    (answer : PendingQuery → Except String (Option Dictionary))
    (hanswer : ∀ q d, answer q = .ok (some d) → ∀ y ∈ d.batchBlocks, q.startBlockHeight ≤ y)
    (hp : s.pending = none) (hsd : s.isShutdown = false)
    (hq : s.queue.length ≤ cfg.queueCapacity) (hroom : s.scaledBatchSize cfg ≤ cfg.queueCapacity)
    {st : Int} (hst : s.getStartBlockHeight = some st) (hpos : 0 < st) :
    ∃ st', FetchState.getStartBlockHeight
        (s.run cfg (catchUpWith cfg answer (s.latestHeight cfg + 1 - st).toNat s)).1 = some st' ∧
      s.latestHeight cfg < st' :=
  CatchUpInv.run_catchUpWith cfg hbatch hpath answer hanswer _
    (⟨hp, hsd, hq, hroom, rfl, fun _ => id⟩ : CatchUpInv cfg _ s.bypassBlocks s) hst hpos le_rfl

/-- A dictionary that has processed the heights up to 100 and finds a transaction of
`alice` at the start of every query. -/
def aliceAtEveryStart (q : PendingQuery) : Except String (Option Dictionary) :=
  .ok (some
    { metadata := { lastProcessedHeight := 100, genesisHash := "near-mainnet", startHeight := 1 }
      batchBlocks := [q.startBlockHeight] })

/-- With the heights up to 5 buffered and the dictionary in use, `aliceProject` catches up
with its head at 100 in 95 rounds. -/
theorem aliceProject_catches_up :
    0 < aliceProject.nodeConfig.batchSize ∧
      (isModuloOnly aliceProject = true →
        (∀ m ∈ getModulos aliceProject.project.dataSources, 0 < m) ∧
          aliceProject.nodeConfig.batchSize ≤ aliceProject.queueCapacity) ∧
      (∀ q d, aliceAtEveryStart q = .ok (some d) →
        ∀ y ∈ d.batchBlocks, q.startBlockHeight ≤ y) ∧
      (bufferedUpTo aliceEntries [] 5).pending = none ∧
      (bufferedUpTo aliceEntries [] 5).isShutdown = false ∧
      (bufferedUpTo aliceEntries [] 5).queue.length ≤ aliceProject.queueCapacity ∧
      (bufferedUpTo aliceEntries [] 5).scaledBatchSize aliceProject ≤ aliceProject.queueCapacity ∧
      (bufferedUpTo aliceEntries [] 5).getStartBlockHeight = some 6 ∧
      ∃ st', ((bufferedUpTo aliceEntries [] 5).run aliceProject
          (catchUpWith aliceProject aliceAtEveryStart
            ((bufferedUpTo aliceEntries [] 5).latestHeight aliceProject + 1 - 6).toNat
            (bufferedUpTo aliceEntries [] 5))).1.getStartBlockHeight = some st' ∧
        (bufferedUpTo aliceEntries [] 5).latestHeight aliceProject < st' := by
  have hanswer : ∀ q d, aliceAtEveryStart q = .ok (some d) →
      ∀ y ∈ d.batchBlocks, q.startBlockHeight ≤ y := by
    intro q d h y hy
    simp only [aliceAtEveryStart, Except.ok.injEq, Option.some.injEq] at h
    subst h
    exact (List.mem_singleton.mp hy).ge
  have hpath : isModuloOnly aliceProject = true →
      (∀ m ∈ getModulos aliceProject.project.dataSources, 0 < m) ∧
        aliceProject.nodeConfig.batchSize ≤ aliceProject.queueCapacity :=
    fun h => absurd h (by decide)
  exact ⟨by decide, hpath, hanswer, rfl, rfl, by decide, by decide, rfl,
    loop_catches_up_whatever_dictionary_answers aliceProject (by decide) hpath aliceAtEveryStart
      hanswer rfl rfl (by decide) (by decide) rfl (by decide)⟩

section Range

variable (hdict : cfg.project.network.dictionary.getD "" = "") (hmod : isModuloOnly cfg = false)
  (hbatch : 0 < cfg.nodeConfig.batchSize)

include hdict hmod hbatch in
/-- **One pass of a round without dictionary.** From a drained queue, a pass from a positive
start at or below the head enqueues the range up to `nextEndBlockHeight` and starts the
next pass above it, every height between enqueued or bypassed; a pass from above the head
waits. Either way the conditions hold after it. -/
theorem CatchUpInv.fill (hi : CatchUpInv cfg target bypass s) (hq : s.queue = [])
    {st : Int} (hst : s.getStartBlockHeight = some st) (hpos : 0 < st) :
    CatchUpInv cfg target bypass (s.fillNextBlockBuffer cfg).1 ∧
      ∃ st', (s.fillNextBlockBuffer cfg).1.getStartBlockHeight = some st' ∧ st ≤ st' ∧
        (st ≤ target → st < st') ∧ ∀ x, st ≤ x → x < st' →
          x ∈ (s.fillNextBlockBuffer cfg).2.flatMap FetchEvent.heights ∨ x ∈ bypass := by
  by_cases hle : st ≤ target
  case neg =>
    rw [s.fillNextBlockBuffer_waits cfg hst (hi.head ▸ not_le.mp hle)]
    exact ⟨hi, st, hst, le_rfl, fun h => absurd h hle, fun x hx hx' => absurd hx (not_le.mpr hx')⟩
  case pos =>
    have hu : s.useDictionary cfg = false := by simp [FetchState.useDictionary, hdict]
    rw [s.fillNextBlockBuffer_of_room cfg hi.pending hi.running
      (hi.room.trans_eq (s.freeSize_of_queue_nil cfg hq).symm) hst (hi.head ▸ hle),
      if_neg (by simp [hu])]
    obtain ⟨hi', st', hst', hlt, hcov⟩ := hi.enqueueNextBlocks cfg hmod hbatch hq hpos hle
    exact ⟨hi', st', hst', hlt.le, fun _ => hlt, hcov⟩

include hdict hmod hbatch in
/-- The rounds: after `n` of them from a positive start, the start is above the head if `n`
covered the distance to it, every height between enqueued or bypassed. -/
theorem CatchUpInv.run_catchUp (n : Nat) (hi : CatchUpInv cfg target bypass s) {st : Int}
    (hst : s.getStartBlockHeight = some st) (hpos : 0 < st) (hn : (target + 1 - st).toNat ≤ n) :
    ∃ st', (s.run cfg (catchUp cfg n)).1.getStartBlockHeight = some st' ∧ target < st' ∧
      ∀ x, st ≤ x → x < st' →
        x ∈ (s.run cfg (catchUp cfg n)).2.flatMap FetchEvent.heights ∨ x ∈ bypass := by
  induction n generalizing s st with
  | zero => exact ⟨st, hst, by omega, fun x hx hx' => absurd hx (not_le.mpr hx')⟩
  | succ n ih =>
    set d := { s with queue := s.queue.drop cfg.queueCapacity }
    have hd : d.queue = [] := List.drop_eq_nil_of_le hi.queue_le
    obtain ⟨hi', st', hst', hle, hlt, hcov⟩ :=
      (hi.drain cfg cfg.queueCapacity).fill cfg hdict hmod hbatch hd hst hpos
    obtain ⟨st'', hst'', htarget, hcov'⟩ :=
      ih hi' hst' (by omega) (toNat_distance_le hn hle hlt)
    rw [catchUp, FetchState.run_append, FetchState.run_processBlock, FetchState.run_cons]
    refine ⟨st'', hst'', htarget, fun x hx hx'' => ?_⟩
    simp only [List.flatMap_append, List.nil_append, List.mem_append, FetchState.step]
    by_cases hx' : x < st'
    · exact (hcov x hx hx').imp_left .inl
    · exact (hcov' x (not_lt.mp hx') hx'').imp_left .inr

end Range

/-- **The range path catches up with the head.** For a project without dictionary that is
not modulo-only, with a positive `batchSize`, take any state with no query in flight, the
loop running, at most `queueCapacity` buffered heights, room in the queue for a scaled
batch and a positive start height. Then `latestHeight + 1 - start` rounds of the dispatcher
processing its queue and the loop making one pass take the start height above
`latestHeight`, and every height from the start up to it was enqueued in those rounds or is
a bypass height. -/
theorem range_path_catches_up (hdict : cfg.project.network.dictionary.getD "" = "")
    (hmod : isModuloOnly cfg = false) (hbatch : 0 < cfg.nodeConfig.batchSize)
    (hp : s.pending = none) (hsd : s.isShutdown = false)
    (hq : s.queue.length ≤ cfg.queueCapacity) (hroom : s.scaledBatchSize cfg ≤ cfg.queueCapacity)
    {st : Int} (hst : s.getStartBlockHeight = some st) (hpos : 0 < st) :
    ∃ st', (s.run cfg (catchUp cfg (s.latestHeight cfg + 1 - st).toNat)).1.getStartBlockHeight =
        some st' ∧ s.latestHeight cfg < st' ∧ ∀ x, st ≤ x → x < st' →
        x ∈ (s.run cfg (catchUp cfg (s.latestHeight cfg + 1 - st).toNat)).2.flatMap
          FetchEvent.heights ∨ x ∈ s.bypassBlocks :=
  CatchUpInv.run_catchUp cfg hdict hmod hbatch _
    ⟨hp, hsd, hq, hroom, rfl, fun _ => id⟩ hst hpos le_rfl

/-- `bypassProject` from its `init` state, heads at 100, catches up in 100 rounds. -/
theorem bypassProject_catches_up :
    bypassProjectStart.pending = none ∧ bypassProjectStart.isShutdown = false ∧
      bypassProjectStart.queue.length ≤ bypassProject.queueCapacity ∧
      bypassProjectStart.scaledBatchSize bypassProject ≤ bypassProject.queueCapacity ∧
      bypassProjectStart.getStartBlockHeight = some 1 ∧
      ∃ st', (bypassProjectStart.run bypassProject (catchUp bypassProject
          (bypassProjectStart.latestHeight bypassProject + 1 - 1).toNat)).1.getStartBlockHeight =
        some st' ∧ bypassProjectStart.latestHeight bypassProject < st' ∧ ∀ x, 1 ≤ x → x < st' →
        x ∈ (bypassProjectStart.run bypassProject (catchUp bypassProject
          (bypassProjectStart.latestHeight bypassProject + 1 - 1).toNat)).2.flatMap
            FetchEvent.heights ∨ x ∈ bypassProjectStart.bypassBlocks :=
  ⟨rfl, rfl, by decide, by decide, rfl,
    range_path_catches_up bypassProject rfl rfl (by decide) rfl rfl (by decide) (by decide) rfl
      (by decide)⟩

end NearIndexer
