import Mathlib.Data.List.Nodup

/-!
# The Worker's Fetched Blocks

A worker thread keeps the blocks it has fetched, by height, until the dispatcher asks it to
process them. `fetchBlock(height)` fetches the block unless the map holds a truthy entry
for it, and stores what `apiService.fetchBlocks` returned: `null` for a block the chain does
not have. `processBlock(height)` reads the entry. A `null` entry throws
`BlockUnavailableError`, which it catches and answers with a null block hash; a missing one
throws an error it rethrows; a block is deleted from the map and indexed.

The `null` path throws before the `delete`. Its entry stays, and `numFetchedBlocks` counts
it, until a later fetch of the same height overwrites it. Apart from these entries the map
holds exactly the heights fetched and not yet processed, and a block is indexed at most once
for each fetch that stored it.

The block type is a parameter: the worker only tests whether an entry is truthy.

## Main results

* `FetchedBlocks.run_get`: over any sequence of calls, a height is a key of the map
  exactly when it has been fetched and not processed since, or its entry is `null`.
* `FetchedBlocks.run_indexed_le`: `indexBlock` runs on a height at most once per fetch of
  it that the API answered.
* `unavailable_block_stays_fetched`: a block the chain does not have stays in the map
  after `processBlock` has answered for it.
-/

namespace NearIndexer

/-- `fetchedBlocks: Record<string, BlockContent>`, keyed by height, with no key twice; an
entry is `none` for `null`. -/
structure FetchedBlocks (Block : Type) where
  entries : List (Int × Option Block)
  nodup : (entries.map (·.1)).Nodup

/-- What a worker is asked to do: fetch a height, with what `apiService.fetchBlocks` would
answer (a block, `null`, or an exception), or process a height. -/
inductive WorkerCall (Block : Type) where
  | fetchBlock (height : Int) (answer : Except String (Option Block))
  | processBlock (height : Int)

/-- `ProcessBlockResponse`. -/
structure ProcessBlockResponse where
  blockHash : Option String
  dynamicDsCreated : Bool
  reindexBlockHeight : Option Int
  deriving DecidableEq, Repr

/-- What a call makes visible: a run of `indexBlock`, and what `processBlock` returns or
throws. -/
inductive WorkerEvent where
  | indexBlock (height : Int)
  | processed (height : Int) (response : Except String ProcessBlockResponse)

/-- The height `indexBlock` ran on, if the event is a run of it. -/
def WorkerEvent.indexed? : WorkerEvent → Option Int
  | .indexBlock height => some height
  | .processed .. => none

/-- A fetch of `height` that the API answered. -/
def WorkerCall.fetchedOk {Block : Type} (height : Int) : WorkerCall Block → Bool
  | .fetchBlock h (.ok _) => h == height
  | _ => false

/-- The bookkeeping the map is meant to keep for `height`: a fetch of it that the API
answered holds it, a `processBlock` of it releases it. -/
def WorkerCall.holds {Block : Type} (height : Int) (held : Bool) : WorkerCall Block → Bool
  | .fetchBlock h (.ok _) => if h = height then true else held
  | .fetchBlock _ (.error _) => held
  | .processBlock h => if h = height then false else held

/-- Whether `height` is held after the calls, from `held`. -/
def heldAfter {Block : Type} (height : Int) (held : Bool) (calls : List (WorkerCall Block)) :
    Bool :=
  calls.foldl (fun held c => c.holds height held) held

/-- A map entry agrees with the bookkeeping: a held height has an entry, and an entry
holding a block is held. -/
def tracks {Block : Type} : Bool → Option (Option Block) → Bool
  | true, none => false
  | false, some (some _) => false
  | _, _ => true

namespace FetchedBlocks

variable {Block : Type} (m : FetchedBlocks Block)

/-- The empty map a worker starts with. -/
def empty : FetchedBlocks Block := ⟨[], List.nodup_nil⟩

/-- `fetchedBlocks[height]`: `none` when there is no such key (`undefined`). -/
def get (height : Int) : Option (Option Block) :=
  m.entries.lookup height

/-- The entries without the key `height`. -/
def without (height : Int) : List (Int × Option Block) :=
  m.entries.filter (·.1 != height)

theorem without_nodup (height : Int) : ((m.without height).map (·.1)).Nodup :=
  m.nodup.sublist ((List.filter_sublist _).map _)

/-- `fetchedBlocks[height] = block`. -/
def set (height : Int) (block : Option Block) : FetchedBlocks Block :=
  ⟨(height, block) :: m.without height, by
    refine List.nodup_cons.mpr ⟨?_, m.without_nodup height⟩
    simp [without]⟩

/-- `delete fetchedBlocks[height]`. -/
def delete (height : Int) : FetchedBlocks Block :=
  ⟨m.without height, m.without_nodup height⟩

/-- `numFetchedBlocks`: `Object.keys(fetchedBlocks).length`. -/
def numFetchedBlocks : Nat :=
  m.entries.length

/-! ### Reading lemmas -/

/-- Removing a key from an association list leaves the other keys' entries. -/
theorem lookup_filter_ne {α : Type} (l : List (Int × α)) (height key : Int) :
    (l.filter (·.1 != height)).lookup key = if key = height then none else l.lookup key := by
  induction l with
  | nil => simp
  | cons e es ih =>
    obtain ⟨k, v⟩ := e
    by_cases hk : k = height
    · subst hk
      rw [List.filter_cons_of_neg (by simp), ih, List.lookup_cons]
      by_cases hkey : key = k
      · simp [hkey]
      · simp [hkey, beq_false_of_ne hkey]
    · rw [List.filter_cons_of_pos (by simpa using hk), List.lookup_cons, List.lookup_cons, ih]
      split <;> simp_all

theorem lookup_without (height key : Int) :
    (m.without height).lookup key = if key = height then none else m.get key :=
  lookup_filter_ne m.entries height key

@[simp] theorem get_set (height key : Int) (block : Option Block) :
    (m.set height block).get key = if key = height then some block else m.get key := by
  simp only [get, set, List.lookup_cons, beq_iff_eq]
  split <;> simp_all [lookup_without, get]

@[simp] theorem get_delete (height key : Int) :
    (m.delete height).get key = if key = height then none else m.get key :=
  m.lookup_without height key

/-! ### The calls -/

/-- `fetchBlock(height)`: fetch unless the entry is truthy, and store the answer; a thrown
fetch is caught and changes nothing. -/
def fetchBlock (height : Int) (answer : Except String (Option Block)) : FetchedBlocks Block :=
  if (m.get height).join.isSome then m
  else
    match answer with
    | .ok block => m.set height block
    | .error _ => m

/-- `processBlock(height)`, with what `indexBlock` answers or throws for a block. -/
def processBlock (indexBlock : Block → Except String ProcessBlockResponse) (height : Int) :
    FetchedBlocks Block × List WorkerEvent :=
  match m.get height with
  | some none =>
    (m, [.processed height
      (.ok { blockHash := none, dynamicDsCreated := false, reindexBlockHeight := none })])
  | none => (m, [.processed height (.error ("Block " ++ toString height ++ " has not been fetched"))])
  | some (some block) => (m.delete height, [.indexBlock height, .processed height (indexBlock block)])

/-- One call. -/
def step (indexBlock : Block → Except String ProcessBlockResponse) :
    WorkerCall Block → FetchedBlocks Block × List WorkerEvent
  | .fetchBlock height answer => (m.fetchBlock height answer, [])
  | .processBlock height => m.processBlock indexBlock height

/-- A sequence of calls, with the events of each. -/
def run (indexBlock : Block → Except String ProcessBlockResponse) :
    FetchedBlocks Block → List (WorkerCall Block) → FetchedBlocks Block × List WorkerEvent
  | m, [] => (m, [])
  | m, c :: cs =>
    let r := m.step indexBlock c
    let r' := run indexBlock r.1 cs
    (r'.1, r.2 ++ r'.2)

/-- `1` when the map holds a block for `height`. -/
def truthy (height : Int) : Nat :=
  if (m.get height).join.isSome then 1 else 0

/-! ### One call -/

variable (indexBlock : Block → Except String ProcessBlockResponse)

/-- A fetch of another height leaves the entry of `height`. -/
theorem fetchBlock_get_of_ne {h height : Int} (a : Except String (Option Block))
    (hne : h ≠ height) : (m.fetchBlock h a).get height = m.get height := by
  unfold fetchBlock
  split
  · rfl
  · cases a <;> simp [Ne.symm hne]

/-- Processing another height leaves the entry of `height`. -/
theorem processBlock_get_of_ne {h height : Int} (hne : h ≠ height) :
    (m.processBlock indexBlock h).1.get height = m.get height := by
  unfold processBlock
  split <;> simp [Ne.symm hne]

/-- Processing another height does not index `height`. -/
theorem processBlock_indexed_of_ne {h height : Int} (hne : h ≠ height) :
    ((m.processBlock indexBlock h).2.filterMap WorkerEvent.indexed?).count height = 0 := by
  unfold processBlock
  split <;> simp [WorkerEvent.indexed?, List.count_cons, hne]

/-- **Every call keeps the map in step with the bookkeeping.** -/
theorem step_tracks (c : WorkerCall Block) (height : Int) (held : Bool)
    (h : tracks held (m.get height) = true) :
    tracks (c.holds height held) ((m.step indexBlock c).1.get height) = true := by
  cases c with
  | fetchBlock h' a =>
    by_cases he : h' = height
    · subst he
      rcases hg : m.get h' with _ | _ | b <;> cases a <;> cases held <;>
        simp [step, fetchBlock, hg, WorkerCall.holds, tracks] at h ⊢
    · rw [step, m.fetchBlock_get_of_ne a he]
      cases a <;> simpa [WorkerCall.holds, he] using h
  | processBlock h' =>
    by_cases he : h' = height
    · subst he
      rcases hg : m.get h' with _ | _ | b <;>
        simp [step, processBlock, hg, WorkerCall.holds, tracks] at h ⊢
    · rw [step, m.processBlock_get_of_ne indexBlock he]
      simpa [WorkerCall.holds, he] using h

/-- **Every call indexes a height at most once per answered fetch.** A run of
`indexBlock` on `height` uses up the block the map held for it. -/
theorem step_indexed (c : WorkerCall Block) (height : Int) :
    ((m.step indexBlock c).2.filterMap WorkerEvent.indexed?).count height +
        (m.step indexBlock c).1.truthy height ≤
      (if c.fetchedOk height then 1 else 0) + m.truthy height := by
  cases c with
  | fetchBlock h' a =>
    by_cases he : h' = height
    · subst he
      rcases hg : m.get h' with _ | _ | b <;> rcases a with e | _ | b' <;>
        simp [step, fetchBlock, truthy, hg, WorkerCall.fetchedOk]
    · simp only [step, truthy, m.fetchBlock_get_of_ne a he]
      cases a <;> simp [WorkerCall.fetchedOk, he]
  | processBlock h' =>
    by_cases he : h' = height
    · subst he
      rcases hg : m.get h' with _ | _ | b <;>
        simp [step, processBlock, truthy, hg, WorkerEvent.indexed?, WorkerCall.fetchedOk]
    · simp only [step, truthy, m.processBlock_get_of_ne indexBlock he,
        m.processBlock_indexed_of_ne indexBlock he]
      simp [WorkerCall.fetchedOk]

/-! ### Whole runs -/

/-- The map stays in step with the bookkeeping over a run. -/
theorem run_tracks (calls : List (WorkerCall Block)) (height : Int) (held : Bool)
    (h : tracks held (m.get height) = true) :
    tracks (heldAfter height held calls) ((m.run indexBlock calls).1.get height) = true := by
  induction calls generalizing m held with
  | nil => exact h
  | cons c cs ih => exact ih _ _ (m.step_tracks indexBlock c height held h)

/-- **The map holds the fetched, unprocessed heights, and the unavailable ones.** Over
any sequence of calls from any map, a height is a key of the map exactly when the
bookkeeping holds it or its entry is `null`. -/
theorem run_get (calls : List (WorkerCall Block)) (height : Int) :
    (m.run indexBlock calls).1.get height ≠ none ↔
      heldAfter height (m.get height).isSome calls = true ∨
        (m.run indexBlock calls).1.get height = some none := by
  have h := m.run_tracks indexBlock calls height (m.get height).isSome
    (by rcases m.get height with _ | _ | b <;> rfl)
  generalize (m.run indexBlock calls).1.get height = e at h ⊢
  generalize heldAfter height (m.get height).isSome calls = held at h ⊢
  rcases e with _ | _ | b <;> cases held <;> simp [tracks] at h ⊢

/-- The index count, with the block the map still holds, stays within the answered
fetches. -/
theorem run_indexed (calls : List (WorkerCall Block)) (height : Int) :
    ((m.run indexBlock calls).2.filterMap WorkerEvent.indexed?).count height +
        (m.run indexBlock calls).1.truthy height ≤
      (calls.filter (·.fetchedOk height)).length + m.truthy height := by
  induction calls generalizing m with
  | nil => simp [run]
  | cons c cs ih =>
    have h1 := m.step_indexed indexBlock c height
    have h2 := ih (m.step indexBlock c).1
    simp only [run, List.filterMap_append, List.count_append, List.filter_cons] at h2 ⊢
    cases hc : c.fetchedOk height <;> simp only [hc, if_true, if_false, Bool.false_eq_true,
      List.length_cons] at h1 ⊢ <;> omega

/-- **`indexBlock` runs at most once per answered fetch.** Over any sequence of calls, the
runs of `indexBlock` on a height are at most the fetches of it the API answered, plus one
for a block the map held at the start. -/
theorem run_indexed_le (calls : List (WorkerCall Block)) (height : Int) :
    ((m.run indexBlock calls).2.filterMap WorkerEvent.indexed?).count height ≤
      (calls.filter (·.fetchedOk height)).length + m.truthy height := by
  have := m.run_indexed indexBlock calls height
  omega

end FetchedBlocks

/-- **An unavailable block stays fetched.** From the empty map, fetch height 42, for which
`apiService.fetchBlocks` returns `null`, and process it: `processBlock` answers with a null
block hash, the bookkeeping no longer holds 42, and the map still holds a `null` entry for
it, counted by `numFetchedBlocks`. -/
theorem unavailable_block_stays_fetched {Block : Type}
    (indexBlock : Block → Except String ProcessBlockResponse) :
    let calls : List (WorkerCall Block) := [.fetchBlock 42 (.ok none), .processBlock 42]
    heldAfter 42 false calls = false ∧
      (FetchedBlocks.empty.run indexBlock calls).2 =
        [.processed 42
          (.ok { blockHash := none, dynamicDsCreated := false, reindexBlockHeight := none })] ∧
      (FetchedBlocks.empty.run indexBlock calls).1.get 42 = some none ∧
      (FetchedBlocks.empty.run indexBlock calls).1.numFetchedBlocks = 1 :=
  ⟨rfl, rfl, rfl, rfl⟩

end NearIndexer
