import Mathlib.Data.List.Sort
import NearIndexer.Basic

/-!
# Modulo Heights

The fetch scheduler computes the heights its modulo block handlers fire at locally, with
no dictionary: `getModulos` collects the truthy modulos of the block handlers of the
project's runtime datasources, `getModuloBlocks a b` lists the heights of `[a, b)` that
one of them divides, and `getEnqueuedModuloBlocks` takes the first `batchSize` of them
from a window of `batchSize * max(modulos)` heights.

Only the static datasources are read: the modulo handlers of dynamic datasources never
contribute a height.

When the modulos are positive, the window always holds `batchSize` multiples of the
largest one, so the slice never comes up short: the fast path returns exactly the first
`batchSize` modulo heights at or after the start (`IsFirstModuloHeights`), a list those
words determine (`IsFirstModuloHeights.unique`).

## Main results

* `getEnqueuedModuloBlocks_first_batch`: for a non-empty list of positive modulos, every
  batch size and every start, the window holds at least `batchSize` modulo heights and
  the fast path returns the first `batchSize` of them, in ascending order.
-/

namespace NearIndexer

/-- The loop `for (let i = a; i < b; i++)`: the integers of `[a, b)` in ascending order,
none when `b ≤ a`. -/
def intRange (a b : Int) : List Int :=
  (List.range (b - a).toNat).map fun n : Nat => a + n

/-- The integers of `intRange a b` are those of `[a, b)`. -/
@[simp] theorem mem_intRange {a b x : Int} : x ∈ intRange a b ↔ a ≤ x ∧ x < b := by
  simp only [intRange, List.mem_map, List.mem_range]
  constructor
  · rintro ⟨n, hn, rfl⟩
    omega
  · intro h
    exact ⟨(x - a).toNat, by omega, by omega⟩

/-- `intRange` is strictly increasing. -/
theorem intRange_sorted (a b : Int) : (intRange a b).Sorted (· < ·) := by
  unfold intRange
  exact List.Pairwise.map _ (fun m n (h : m < n) => by omega) (List.pairwise_lt_range _)

/-- The truthy modulo of a runtime handler: a block handler's `filter.modulo` when it is
set and non-zero. -/
def NearRuntimeHandler.modulo? : NearRuntimeHandler → Option Int
  | .block (some f) => f.modulo.filter (· != 0)
  | _ => none

/-- `getModulos`: the truthy modulos of the block handlers of the runtime datasources of
the project, in order. -/
def getModulos (dataSources : List NearDataSource) : List Int :=
  dataSources.flatMap fun
    | .runtime _ _ hs => hs.filterMap (·.modulo?)
    | .custom .. => []

/-- A truthy modulo is non-zero. -/
theorem NearRuntimeHandler.modulo?_ne_zero {handler : NearRuntimeHandler} {m : Int}
    (h : handler.modulo? = some m) : m ≠ 0 := by
  rcases handler with (_ | ⟨⟨_ | k, _⟩⟩) | _ | _ <;>
    simp [NearRuntimeHandler.modulo?, Option.filter] at h
  omega

/-- Every modulo `getModulos` collects is non-zero. -/
theorem ne_zero_of_mem_getModulos {dataSources : List NearDataSource} {m : Int}
    (h : m ∈ getModulos dataSources) : m ≠ 0 := by
  simp only [getModulos, List.mem_flatMap] at h
  obtain ⟨ds, -, hm⟩ := h
  rcases ds with ⟨_, _, hs⟩ | _
  · obtain ⟨handler, -, hmod⟩ := List.mem_filterMap.mp hm
    exact NearRuntimeHandler.modulo?_ne_zero hmod
  · simp at hm

/-- `getModuloBlocks`: the heights of `[startHeight, endHeight)` that some modulo divides
(`modulos.find((m) => i % m === 0)`, truthy because the modulos are). -/
def getModuloBlocks (dataSources : List NearDataSource) (startHeight endHeight : Int) :
    List Int :=
  (intRange startHeight endHeight).filter fun i =>
    ((getModulos dataSources).find? fun m => i % m == 0).isSome

/-- The heights `getModuloBlocks` lists are exactly the multiples of a modulo in range. -/
theorem mem_getModuloBlocks {dataSources : List NearDataSource} {a b h : Int} :
    h ∈ getModuloBlocks dataSources a b ↔
      a ≤ h ∧ h < b ∧ ∃ m ∈ getModulos dataSources, h % m = 0 := by
  simp [getModuloBlocks, and_assoc]

/-- `getModuloBlocks` is strictly increasing. -/
theorem getModuloBlocks_sorted (dataSources : List NearDataSource) (a b : Int) :
    (getModuloBlocks dataSources a b).Sorted (· < ·) :=
  (intRange_sorted a b).filter _

/-- Without modulos, no height is a modulo height. -/
theorem getModuloBlocks_eq_nil {dataSources : List NearDataSource} (a b : Int)
    (h : getModulos dataSources = []) : getModuloBlocks dataSources a b = [] := by
  simp [getModuloBlocks, h]

/-- `getEnqueuedModuloBlocks(startBlockHeight)`: the first `batchSize` modulo heights of
`[start, start + batchSize * Math.max(...modulos))`. With no modulos `Math.max()` is
`-Infinity` and the window is empty. -/
def getEnqueuedModuloBlocks (dataSources : List NearDataSource) (batchSize : Nat)
    (startBlockHeight : Int) : List Int :=
  match (getModulos dataSources).max? with
  | none => []
  | some m =>
    (getModuloBlocks dataSources startBlockHeight (batchSize * m + startBlockHeight)).take
      batchSize

/-- The fast path's heights are modulo heights at or after the start. -/
theorem mem_getEnqueuedModuloBlocks {dataSources : List NearDataSource} {batchSize : Nat}
    {start h : Int} (hh : h ∈ getEnqueuedModuloBlocks dataSources batchSize start) :
    start ≤ h ∧ ∃ m ∈ getModulos dataSources, h % m = 0 := by
  unfold getEnqueuedModuloBlocks at hh
  split at hh
  · simp at hh
  · obtain ⟨h1, -, h3⟩ := mem_getModuloBlocks.mp (List.mem_of_mem_take hh)
    exact ⟨h1, h3⟩

/-- The fast path's heights are strictly increasing. -/
theorem getEnqueuedModuloBlocks_sorted (dataSources : List NearDataSource) (batchSize : Nat)
    (start : Int) : (getEnqueuedModuloBlocks dataSources batchSize start).Sorted (· < ·) := by
  unfold getEnqueuedModuloBlocks
  split
  · exact List.sorted_nil
  · exact (getModuloBlocks_sorted _ _ _).sublist (List.take_sublist _ _)

/-- The fast path enqueues at most `batchSize` heights. -/
theorem length_getEnqueuedModuloBlocks_le (dataSources : List NearDataSource)
    (batchSize : Nat) (start : Int) :
    (getEnqueuedModuloBlocks dataSources batchSize start).length ≤ batchSize := by
  unfold getEnqueuedModuloBlocks
  split
  · simp
  · exact List.length_take_le _ _

/-! ### The first `batchSize` modulo heights -/

/-- The first `n` heights, in ascending order, of those at or after `start` that one of
`modulos` divides: a strictly increasing list of `n` such heights that leaves out none
below one of its own. -/
structure IsFirstModuloHeights (modulos : List Int) (start : Int) (n : Nat) (l : List Int) :
    Prop where
  sorted : l.Sorted (· < ·)
  length_eq : l.length = n
  mem : ∀ h ∈ l, start ≤ h ∧ ∃ m ∈ modulos, h % m = 0
  no_gap : ∀ h x, start ≤ h → (∃ m ∈ modulos, h % m = 0) → x ∈ l → h < x → h ∈ l

/-- The first `n` modulo heights are determined: two lists that both are hold the same
heights in the same order. -/
theorem IsFirstModuloHeights.unique {modulos : List Int} {start : Int} {n : Nat}
    {l₁ l₂ : List Int} (h₁ : IsFirstModuloHeights modulos start n l₁)
    (h₂ : IsFirstModuloHeights modulos start n l₂) : l₁ = l₂ := by
  have hsub : ∀ {l l' : List Int}, IsFirstModuloHeights modulos start n l →
      IsFirstModuloHeights modulos start n l' → ∀ h ∈ l, h ∈ l' := by
    intro l l' hl hl' h hh
    by_contra hnot
    have hbelow : ∀ x ∈ l', x < h := fun x hx =>
      lt_of_le_of_ne (not_lt.mp fun hlt =>
        hnot (hl'.no_gap h x (hl.mem h hh).1 (hl.mem h hh).2 hx hlt))
        fun heq => hnot (heq ▸ hx)
    have hcons : h :: l' ⊆ l := by
      intro x hx
      rcases List.mem_cons.mp hx with rfl | hx
      · exact hh
      · exact hl.no_gap x h (hl'.mem x hx).1 (hl'.mem x hx).2 hh (hbelow x hx)
    have hlen := (List.subperm_of_subset (List.nodup_cons.mpr ⟨hnot, hl'.sorted.nodup⟩)
      hcons).length_le
    simp only [List.length_cons, hl.length_eq, hl'.length_eq] at hlen
    omega
  exact List.eq_of_perm_of_sorted
    ((List.perm_ext_iff_of_nodup h₁.sorted.nodup h₂.sorted.nodup).mpr
      fun h => ⟨hsub h₁ h₂ h, hsub h₂ h₁ h⟩) h₁.sorted h₂.sorted

/-- In a strictly increasing list, a prefix holds every element below one of its own. -/
theorem mem_take_of_lt {l : List Int} (hl : l.Sorted (· < ·)) {k : Nat} {h x : Int}
    (hx : x ∈ l.take k) (hh : h ∈ l) (hlt : h < x) : h ∈ l.take k := by
  rw [← List.take_append_drop k l] at hl hh
  rcases List.mem_append.mp hh with hh | hh
  · exact hh
  · exact absurd hlt (not_lt.mpr (le_of_lt ((List.pairwise_append.mp hl).2.2 x hx h hh)))

/-- A window of `n * M` heights holds at least `n` multiples of a positive `M`: the
first multiple at or after the start, and the `n - 1` after it. -/
theorem le_length_getModuloBlocks {dataSources : List NearDataSource} {M : Int}
    (hM : M ∈ getModulos dataSources) (hpos : 0 < M) (n : Nat) (start : Int) :
    n ≤ (getModuloBlocks dataSources start (n * M + start)).length := by
  obtain ⟨r, hr0, hrM, hfirst⟩ : ∃ r, 0 ≤ r ∧ r < M ∧ (start + r) % M = 0 :=
    ⟨(-start) % M, Int.emod_nonneg _ (ne_of_gt hpos), Int.emod_lt_of_pos _ hpos, by
      rw [Int.add_emod_emod, Int.add_right_neg, Int.zero_emod]⟩
  let multiples := (List.range n).map fun j : Nat => start + r + j * M
  have hinj : Function.Injective fun j : Nat => start + r + j * M := fun i j hij => by
    have := Int.eq_of_mul_eq_mul_right (ne_of_gt hpos) (Int.add_left_cancel hij)
    omega
  have hsub : multiples ⊆ getModuloBlocks dataSources start (n * M + start) := by
    intro h hh
    obtain ⟨j, hj, rfl⟩ := List.mem_map.mp hh
    have hj : (j : Int) + 1 ≤ n := by have := List.mem_range.mp hj; omega
    have hmul := Int.mul_le_mul_of_nonneg_right hj (le_of_lt hpos)
    have hjM : 0 ≤ (j : Int) * M := Int.mul_nonneg (by omega) (le_of_lt hpos)
    rw [Int.add_mul, Int.one_mul] at hmul
    refine mem_getModuloBlocks.mpr ⟨by omega, by omega, M, hM, ?_⟩
    rw [Int.add_mul_emod_self, hfirst]
  simpa [multiples] using (List.subperm_of_subset ((List.nodup_range n).map hinj) hsub).length_le

/-- **The modulo fast path enqueues exactly the next `batchSize` modulo heights.** When
the project's modulos are a non-empty list of positive numbers, the window
`[start, start + batchSize * max)` holds at least `batchSize` modulo heights, and
`getEnqueuedModuloBlocks` returns the first `batchSize` heights at or after `start` that
a modulo divides, in ascending order. -/
theorem getEnqueuedModuloBlocks_first_batch {dataSources : List NearDataSource}
    (batchSize : Nat) (start : Int) (hne : getModulos dataSources ≠ [])
    (hpos : ∀ m ∈ getModulos dataSources, 0 < m) :
    ∃ M, (getModulos dataSources).max? = some M ∧
      batchSize ≤ (getModuloBlocks dataSources start (batchSize * M + start)).length ∧
      IsFirstModuloHeights (getModulos dataSources) start batchSize
        (getEnqueuedModuloBlocks dataSources batchSize start) := by
  obtain ⟨M, hmax⟩ := Option.ne_none_iff_exists'.mp (mt List.max?_eq_none_iff.mp hne)
  have hMmem : M ∈ getModulos dataSources := List.max?_mem (fun a b => by omega) hmax
  have hwindow := le_length_getModuloBlocks hMmem (hpos M hMmem) batchSize start
  refine ⟨M, hmax, hwindow, ⟨getEnqueuedModuloBlocks_sorted _ _ _, ?_,
    fun h hh => mem_getEnqueuedModuloBlocks hh, fun h x hstart hmod hx hlt => ?_⟩⟩
  · simp only [getEnqueuedModuloBlocks, hmax, List.length_take]
    omega
  · simp only [getEnqueuedModuloBlocks, hmax] at hx ⊢
    have hxw := mem_getModuloBlocks.mp (List.mem_of_mem_take hx)
    exact mem_take_of_lt (getModuloBlocks_sorted _ _ _) hx
      (mem_getModuloBlocks.mpr ⟨hstart, by omega, hmod⟩) hlt

/-- A project whose one runtime datasource has a block handler of modulo 3. -/
def moduloThreeSources : List NearDataSource :=
  [.runtime 1 "dist/index.js" [.block (some { modulo := some 3 })]]

/-- From height 4, with a batch of two, the fast path returns the first two multiples of
3 after it. -/
theorem moduloThree_first_batch :
    getModulos moduloThreeSources ≠ [] ∧ (∀ m ∈ getModulos moduloThreeSources, 0 < m) ∧
      ∃ M, (getModulos moduloThreeSources).max? = some M ∧
        2 ≤ (getModuloBlocks moduloThreeSources 4 ((2 : Nat) * M + 4)).length ∧
        IsFirstModuloHeights (getModulos moduloThreeSources) 4 2
          (getEnqueuedModuloBlocks moduloThreeSources 2 4) :=
  ⟨by decide, by decide, getEnqueuedModuloBlocks_first_batch 2 4 (by decide) (by decide)⟩

example : getEnqueuedModuloBlocks moduloThreeSources 2 4 = [6, 9] := by decide

end NearIndexer
