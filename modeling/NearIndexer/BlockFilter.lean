import Mathlib.Data.Set.Card
import Mathlib.Data.Int.Interval
import NearIndexer.Filters

/-!
# The Timestamp Filter of Block Handlers

A block handler's filter may carry a cron string (`timestamp`). When the project is
loaded, each such filter of a runtime datasource gets a compiled schedule
(`cronSchedule`): cron-converter's `Seeker`, started at the timestamp of the datasource's
start block, and a `next` getter that moves the seeker to its next slot and returns the
slot's time. `filterBlock` passes a block when the filter's modulo divides its height and,
for a filter with a cron string, when `filterBlockTimestamp` does: the block's timestamp
must be past the slot after the seeker's.

The seeker is a cursor into the strictly increasing slot times of the cron string.
`filterBlockTimestamp` reads `next` once for the comparison, once more on the match path
(inside the second log message), and steps back once with `prev()`. A call that does not
match leaves the cursor where it was, and a call that matches moves it one slot on: this
is the cursor law `slotMatches`, which the code refines (`filterBlocks_eq_slotMatches`).
Each match uses up one slot below the last timestamp, so the filter fires at most once per
slot. A filter with a cron string but no compiled schedule throws instead
(`filterBlock_unset_schedule`); without a cron string the filter keeps no state.

## Main results

* `filterBlocks_eq_slotMatches`: over any blocks the modulo passes, the calls of
  `filterBlock` return what the cursor law says, and leave the seeker where it says.
* `timestamp_filter_fires_once_per_slot`: over blocks of nondecreasing timestamps, the
  calls follow the cursor law, end with the cursor moved by the number of matches, and
  match no more often than there are slots after the start below the last timestamp.
-/

namespace NearIndexer

/-! ### The cron seeker -/

/-- The compiled schedule of a timestamp filter: cron-converter's `Seeker`, as a cursor
into the strictly increasing times (`Date.parse` of each slot) of the slots of its cron
string. -/
structure CronSeeker where
  slots : ℤ → ℤ
  slots_strictMono : StrictMono slots
  cursor : ℤ

/-- `cronSchedule.next`, the getter over `schedule.next()`: move to the next slot and
return its time. -/
def CronSeeker.next (seeker : CronSeeker) : ℤ × CronSeeker :=
  (seeker.slots (seeker.cursor + 1), { seeker with cursor := seeker.cursor + 1 })

/-- `schedule.prev()`: move back one slot; the slot's time is not read. -/
def CronSeeker.prev (seeker : CronSeeker) : CronSeeker :=
  { seeker with cursor := seeker.cursor - 1 }

/-- A slot time exceeds an earlier one by at least the number of slots between them. -/
theorem CronSeeker.slots_add_le (seeker : CronSeeker) (k : ℤ) (d : ℕ) :
    seeker.slots k + d ≤ seeker.slots (k + d) := by
  induction d with
  | zero => simp
  | succ d ih =>
    have hlt := seeker.slots_strictMono (show k + d < k + (d + 1 : ℕ) by omega)
    omega

/-! ### The filter -/

/-- `SubqlProjectBlockFilter`: a block filter with the compiled schedule that
`generateTimestampReferenceForBlockFilters` sets on a filter with a cron string. -/
structure SubqlProjectBlockFilter extends NearBlockFilter where
  cronSchedule : Option CronSeeker := none

/-- The message of the `TypeError` thrown by reading `next` of an unset `cronSchedule`. -/
def cronScheduleUnsetError : String :=
  "Cannot read properties of undefined (reading \x27next\x27)"

/-- A truthy `filter.timestamp`: a non-empty cron string. -/
def NearBlockFilter.hasTimestamp (filter : NearBlockFilter) : Bool :=
  match filter.timestamp with
  | some t => t != ""
  | none => false

/-- `filterBlockTimestamp`: read `cronSchedule.next` and compare it with the block's
timestamp; on a match the second log message reads `next` again, and either way
`schedule.prev()` steps back once. Returns whether the block passes, and the filter with
its seeker as the call leaves it. -/
def filterBlockTimestamp (block : NearBlock) (filter : SubqlProjectBlockFilter) :
    Except String (Bool × SubqlProjectBlockFilter) :=
  match filter.cronSchedule with
  | none => .error cronScheduleUnsetError
  | some seeker =>
    let (next, seeker) := seeker.next
    if block.header.timestamp > next then
      let (_, seeker) := seeker.next
      .ok (true, { filter with cronSchedule := some seeker.prev })
    else
      .ok (false, { filter with cronSchedule := some seeker.prev })

/-- `filterBlock`: without a filter every block passes; otherwise the modulo decides, then,
for a filter with a cron string, the timestamp. Returns the block when it passes, and the
filter as the call leaves it. -/
def filterBlock (block : NearBlock) :
    Option SubqlProjectBlockFilter →
      Except String (Option NearBlock × Option SubqlProjectBlockFilter)
  | none => .ok (some block, none)
  | some filter =>
    if !filterBlockModulo block filter.toNearBlockFilter then .ok (none, some filter)
    else if filter.hasTimestamp then
      (fun (passes, filter) => (if passes then some block else none, some filter)) <$>
        filterBlockTimestamp block filter
    else .ok (some block, some filter)

/-- `filterBlock` called on each block in turn with one filter, whose seeker each call
moves: the results, and the filter as the last call leaves it. -/
def filterBlocks : List NearBlock → Option SubqlProjectBlockFilter →
    Except String (List (Option NearBlock) × Option SubqlProjectBlockFilter)
  | [], filter => .ok ([], filter)
  | block :: blocks, filter => do
    let (result, filter) ← filterBlock block filter
    let (results, filter) ← filterBlocks blocks filter
    pure (result :: results, filter)

/-- A bind in `Except` on a returned value continues with that value. -/
theorem ok_bind {ε α β : Type} (a : α) (f : α → Except ε β) : (Except.ok a >>= f) = f a := rfl

/-- The filter with its seeker at cursor `k`. -/
def SubqlProjectBlockFilter.withCursor (filter : SubqlProjectBlockFilter)
    (seeker : CronSeeker) (k : ℤ) : SubqlProjectBlockFilter :=
  { filter with cronSchedule := some { seeker with cursor := k } }

/-! ### The cursor law -/

/-- The cursor law of a timestamp filter over slot times `S`: the call on a block of
timestamp `t`, made with the cursor at `k`, matches when `t` is past the slot `S (k + 1)`;
a match moves the cursor one slot on, and a miss leaves it. Returns the matches and the
last cursor. -/
def slotMatches (S : ℤ → ℤ) : ℤ → List ℤ → List Bool × ℤ
  | k, [] => ([], k)
  | k, t :: ts =>
    let hit := decide (S (k + 1) < t)
    let rest := slotMatches S (if hit then k + 1 else k) ts
    (hit :: rest.1, rest.2)

example : slotMatches (10 * ·) 0 [5, 15, 16, 25, 31] = ([false, true, false, true, true], 3) := by
  decide

/-- The cursor moves by the number of matches. -/
theorem slotMatches_cursor (S : ℤ → ℤ) (k : ℤ) (ts : List ℤ) :
    (slotMatches S k ts).2 = k + (slotMatches S k ts).1.count true := by
  induction ts generalizing k with
  | nil => simp [slotMatches]
  | cons t ts ih =>
    by_cases h : S (k + 1) < t <;> simp [slotMatches, h, ih]
    omega

/-- Every slot the cursor passes lies below every bound of the timestamps: a match at
cursor `k` is a timestamp past `S (k + 1)`. -/
theorem slotMatches_passed_lt (S : ℤ → ℤ) {T : ℤ} :
    ∀ (k : ℤ) (ts : List ℤ), (∀ t ∈ ts, t ≤ T) →
      ∀ j, k < j → j ≤ (slotMatches S k ts).2 → S j < T
  | k, [], _, j, hk, hj => absurd hj (by simp [slotMatches]; omega)
  | k, t :: ts, hT, j, hk, hj => by
    have hts : ∀ t ∈ ts, t ≤ T := fun t' ht' => hT t' (List.mem_cons_of_mem _ ht')
    by_cases h : S (k + 1) < t
    · simp only [slotMatches, h, decide_True, if_true] at hj
      rcases eq_or_lt_of_le (show k + 1 ≤ j by omega) with rfl | hlt
      · exact lt_of_lt_of_le h (hT t (List.mem_cons_self _ _))
      · exact slotMatches_passed_lt S (k + 1) ts hts j hlt hj
    · simp only [slotMatches, h, decide_False, if_false] at hj
      exact slotMatches_passed_lt S k ts hts j hk hj

/-- In a nondecreasing list every element is at most the last one. -/
theorem le_of_mem_getLast? {l : List ℤ} (hl : l.Sorted (· ≤ ·)) {x : ℤ}
    (hx : x ∈ l.getLast?) : ∀ y ∈ l, y ≤ x := by
  obtain ⟨init, rfl⟩ := List.getLast?_eq_some_iff.mp hx
  intro y hy
  rcases List.mem_append.mp hy with hy | hy
  · exact (List.pairwise_append.mp hl).2.2 y hy x (List.mem_singleton_self x)
  · exact le_of_eq (List.mem_singleton.mp hy)

/-! ### The code refines the cursor law -/

section Refinement

variable {filter : SubqlProjectBlockFilter} {seeker : CronSeeker}

/-- **One call.** With a cron string and a modulo the block meets, `filterBlock` passes the
block exactly when its timestamp is past the slot after the cursor, and moves the cursor
one slot on exactly then. -/
theorem filterBlock_withCursor (k : ℤ) {block : NearBlock} (ht : filter.hasTimestamp = true)
    (hmod : filterBlockModulo block filter.toNearBlockFilter = true) :
    filterBlock block (some (filter.withCursor seeker k)) =
      .ok (if seeker.slots (k + 1) < block.header.timestamp then some block else none,
        some (filter.withCursor seeker
          (if seeker.slots (k + 1) < block.header.timestamp then k + 1 else k))) := by
  have hmod' : filterBlockModulo block (filter.withCursor seeker k).toNearBlockFilter = true :=
    hmod
  have ht' : (filter.withCursor seeker k).hasTimestamp = true := ht
  simp only [filterBlock, hmod', ht', Bool.not_true, Bool.false_eq_true, if_false, if_true]
  by_cases h : seeker.slots (k + 1) < block.header.timestamp <;>
    simp [filterBlockTimestamp, SubqlProjectBlockFilter.withCursor, CronSeeker.next,
      CronSeeker.prev, h, gt_iff_lt]

/-- A filter with a cron string but no compiled schedule throws at the first block the
modulo passes: `cronSchedule.next` is read on `undefined`. -/
theorem filterBlock_unset_schedule {block : NearBlock} (hc : filter.cronSchedule = none)
    (ht : filter.hasTimestamp = true)
    (hmod : filterBlockModulo block filter.toNearBlockFilter = true) :
    filterBlock block (some filter) = .error cronScheduleUnsetError := by
  simp [filterBlock, hmod, ht, filterBlockTimestamp, hc]

/-- Without a cron string the filter keeps no state: a block passes exactly when the
modulo does, and the filter is left as it was. -/
theorem filterBlock_of_no_timestamp {block : NearBlock} (ht : filter.hasTimestamp = false) :
    filterBlock block (some filter) =
      .ok (if filterBlockModulo block filter.toNearBlockFilter then some block else none,
        some filter) := by
  by_cases hmod : filterBlockModulo block filter.toNearBlockFilter <;>
    simp [filterBlock, hmod, ht]

/-- **The refinement.** Over blocks the filter's modulo passes, the calls of `filterBlock`
from cursor `k` return each block the cursor law matches and nothing for the others, and
leave the seeker at the law's last cursor. -/
theorem filterBlocks_eq_slotMatches (ht : filter.hasTimestamp = true) :
    ∀ (blocks : List NearBlock) (k : ℤ),
      (∀ b ∈ blocks, filterBlockModulo b filter.toNearBlockFilter = true) →
      filterBlocks blocks (some (filter.withCursor seeker k)) =
        .ok ((blocks.zip (slotMatches seeker.slots k
              (blocks.map (·.header.timestamp))).1).map
            (fun p => if p.2 then some p.1 else none),
          some (filter.withCursor seeker
            (slotMatches seeker.slots k (blocks.map (·.header.timestamp))).2))
  | [], k, _ => rfl
  | b :: bs, k, hmod => by
    have hbs : ∀ b' ∈ bs, filterBlockModulo b' filter.toNearBlockFilter = true :=
      fun b' hb' => hmod b' (List.mem_cons_of_mem _ hb')
    rw [filterBlocks, filterBlock_withCursor k ht (hmod b (List.mem_cons_self _ _))]
    by_cases h : seeker.slots (k + 1) < b.header.timestamp <;>
      simp only [h, if_true, if_false, ok_bind, filterBlocks_eq_slotMatches ht bs _ hbs] <;>
      simp [slotMatches, h, pure, Except.pure]

end Refinement

/-- **A timestamp filter fires at most once per slot.** Pass blocks of nondecreasing
timestamps, each meeting the filter's modulo, to `filterBlock` with one filter whose cron
schedule's seeker starts at cursor `k₀`. The calls follow the cursor law: the call made at
cursor `k` returns its block exactly when the timestamp is past the slot `k + 1`, a miss
leaves the cursor and a match moves it one slot on. The seeker ends at `k₀` plus the
number of matches, and there are no more matches than slots after `k₀` below the last
block's timestamp. -/
theorem timestamp_filter_fires_once_per_slot (filter : SubqlProjectBlockFilter)
    (seeker : CronSeeker) (hc : filter.cronSchedule = some seeker)
    (ht : filter.hasTimestamp = true) (blocks : List NearBlock)
    (hmod : ∀ b ∈ blocks, filterBlockModulo b filter.toNearBlockFilter = true)
    (hts : (blocks.map (·.header.timestamp)).Sorted (· ≤ ·)) :
    let run := slotMatches seeker.slots seeker.cursor (blocks.map (·.header.timestamp))
    filterBlocks blocks (some filter) =
        .ok ((blocks.zip run.1).map (fun p => if p.2 then some p.1 else none),
          some (filter.withCursor seeker run.2)) ∧
      run.2 = seeker.cursor + run.1.count true ∧
      ∀ b ∈ blocks.getLast?, run.1.count true ≤
        Set.ncard {j : ℤ | seeker.cursor < j ∧ seeker.slots j < b.header.timestamp} := by
  have hfilter : filter = filter.withCursor seeker seeker.cursor := by
    cases filter
    simp_all [SubqlProjectBlockFilter.withCursor]
  refine ⟨hfilter ▸ filterBlocks_eq_slotMatches ht blocks seeker.cursor hmod,
    slotMatches_cursor _ _ _, fun b hb => ?_⟩
  set run := slotMatches seeker.slots seeker.cursor (blocks.map (·.header.timestamp))
  have hlast : ∀ t ∈ blocks.map (·.header.timestamp), t ≤ b.header.timestamp :=
    le_of_mem_getLast? hts (by rw [List.getLast?_map]; exact Option.mem_map_of_mem _ hb)
  have hpassed : Set.Ioc seeker.cursor run.2 ⊆
      {j : ℤ | seeker.cursor < j ∧ seeker.slots j < b.header.timestamp} :=
    fun j hj => ⟨hj.1, slotMatches_passed_lt _ _ _ hlast j hj.1 hj.2⟩
  have hfinite : {j : ℤ | seeker.cursor < j ∧ seeker.slots j < b.header.timestamp}.Finite :=
    (Set.finite_Ioo seeker.cursor
        (seeker.cursor + (b.header.timestamp - seeker.slots seeker.cursor))).subset
      fun j ⟨hj, hslot⟩ => ⟨hj, by
        have := seeker.slots_add_le seeker.cursor (j - seeker.cursor).toNat
        rw [Int.toNat_of_nonneg (by omega), add_sub_cancel] at this
        omega⟩
  have hcursor : run.2 = seeker.cursor + run.1.count true := slotMatches_cursor _ _ _
  calc run.1.count true = (Set.Ioc seeker.cursor run.2).ncard := by
        rw [← Finset.coe_Ioc, Set.ncard_coe_Finset, Int.card_Ioc, hcursor]
        omega
    _ ≤ _ := Set.ncard_le_ncard hpassed hfinite

/-- A seeker over ten-minute slots, slot `j` at `600000 * j` milliseconds, at cursor `0`. -/
def tenMinuteSeeker : CronSeeker where
  slots j := 600000 * j
  slots_strictMono := fun a b h => by
    show 600000 * a < 600000 * b
    omega
  cursor := 0

/-- A block at a height and a timestamp, with no chunks. -/
def timedBlock (height timestamp : ℤ) : NearBlock :=
  { author := ""
    header := { height := height, hash := "", timestamp := timestamp, gas_price := "" }
    chunks := []
    transactions := []
    actions := []
    receipts := [] }

/-- A block filter on the cron string `*/10 * * * *`, every ten minutes, compiled to
`tenMinuteSeeker`. -/
def tenMinuteFilter : SubqlProjectBlockFilter :=
  { timestamp := some "*/10 * * * *", cronSchedule := some tenMinuteSeeker }

/-- Blocks at minutes 5, 15, 16 and 25 pass the ten-minute filter twice: at 15 (past the
slot of minute 10) and at 25 (past that of minute 20), not at 16. -/
theorem tenMinuteFilter_fires_once_per_slot :
    let blocks := [timedBlock 1 300000, timedBlock 2 900000, timedBlock 3 960000,
      timedBlock 4 1500000]
    let run := slotMatches tenMinuteSeeker.slots tenMinuteSeeker.cursor
      (blocks.map (·.header.timestamp))
    tenMinuteFilter.cronSchedule = some tenMinuteSeeker ∧
      tenMinuteFilter.hasTimestamp = true ∧
      (∀ b ∈ blocks, filterBlockModulo b tenMinuteFilter.toNearBlockFilter = true) ∧
      (blocks.map (·.header.timestamp)).Sorted (· ≤ ·) ∧
      (filterBlocks blocks (some tenMinuteFilter) =
          .ok ((blocks.zip run.1).map (fun p => if p.2 then some p.1 else none),
            some (tenMinuteFilter.withCursor tenMinuteSeeker run.2)) ∧
        run.2 = tenMinuteSeeker.cursor + run.1.count true ∧
        ∀ b ∈ blocks.getLast?, run.1.count true ≤
          Set.ncard {j : ℤ | tenMinuteSeeker.cursor < j ∧
            tenMinuteSeeker.slots j < b.header.timestamp}) :=
  ⟨rfl, rfl, by decide, by decide,
    timestamp_filter_fires_once_per_slot tenMinuteFilter tenMinuteSeeker rfl rfl _ (by decide)
      (by decide)⟩

end NearIndexer
