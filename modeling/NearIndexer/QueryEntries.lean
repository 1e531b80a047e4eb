import Mathlib.Data.List.Sort
import Mathlib.Data.String.Basic
import NearIndexer.Filters

/-!
# Building the Dictionary Query Set

`buildDictionaryQueryEntries s` turns the handlers of every datasource active at `s` into
the entries the dictionary is asked for. The function is meant to be all or nothing: a
handler the dictionary cannot serve (a block handler without a modulo, a transaction
filter without `sender` and `receiver`, an action filter without `type`, or no filter at
all) makes it return `[]`, which disables the dictionary for the scan.

The datasources it walks are the runtime datasources of the project followed by the
dynamic templates. A static custom datasource is dropped by the first filter, although
the loop body carries a whole branch for custom datasources, so its handlers never get
the chance to return `[]`.

## Main results

* `runtime_servable_of_buildDictionaryQueryEntries`: a non-empty query set means every
  active runtime datasource has only servable handlers, whose entries are all in the set.
* `buildDictionaryQueryEntries_skips_static_custom`: at a project with one servable runtime
  handler and one unservable static custom handler, the query set is non-empty.
-/

namespace NearIndexer

/-! ### The handler loop -/

/-- `getBaseHandlerKind` on a custom datasource: the `baseHandlerKind` of the handler's
processor, or the error thrown when the processor has none. A handler whose kind string
names a base kind is not a custom handler (`isCustomHandler`), and the function falls off
its end with `undefined`. -/
def getCustomBaseHandlerKind (dsKind : String) (plugin : NearDatasourceProcessor)
    (handler : NearCustomHandler) : Except String (Option NearHandlerKind) :=
  if isBaseHandlerKind handler.kind then .ok none
  else
    match plugin.lookup handler.kind with
    | some p => .ok (some p.baseHandlerKind)
    | none => .error ("handler type " ++ handler.kind ++ " not found in processor for " ++ dsKind)

/-- The `switch (baseHandlerKind)` on a non-empty filter list: `some` of the entries it
pushes, `none` for its `return []`. -/
def baseFilterEntries : BaseFilter → Option (List DictionaryQueryEntry)
  | .block fs => if fs.all (·.modulo.isSome) then some [] else none
  | .transaction fs => fs.mapM fun f =>
      if f.sender.isSome || f.receiver.isSome then some (txFilterToQueryEntry f) else none
  | .action fs => fs.mapM fun f =>
      if f.type.isSome then some (actionFilterToQueryEntry f) else none

/-- The tail of the handler loop: `if (!filterList.length) return []`, then the switch,
whose `default` case (an `undefined` kind) pushes nothing. -/
def handlerSwitch (kind : Option NearHandlerKind) (filterList : BaseFilter) :
    Option (List DictionaryQueryEntry) :=
  if filterList.isEmpty then none
  else if kind.isSome then baseFilterEntries filterList
  else some []

/-- One runtime handler of the loop. -/
def runtimeHandlerEntries (handler : NearRuntimeHandler) : Option (List DictionaryQueryEntry) :=
  handlerSwitch (some handler.kind) handler.filterList

/-- One custom handler of the loop: the processor's `dictionaryQuery` entry when it gives
one (`continue`), else its base filters (`getBaseHandlerFilters`) through the switch. A
handler without processor fails on `processor.dictionaryQuery`. -/
def customHandlerEntries (dsKind : String) (plugin : NearDatasourceProcessor)
    (handler : NearCustomHandler) : Except String (Option (List DictionaryQueryEntry)) := do
  let kind ← getCustomBaseHandlerKind dsKind plugin handler
  match plugin.lookup handler.kind with
  | none => throw "Cannot read properties of undefined (reading 'dictionaryQuery')"
  | some p =>
    match p.dictionaryQuery.bind (· handler.filter) with
    | some queryEntry => pure (some [queryEntry])
    | none => pure (handlerSwitch kind p.baseFilter)

/-- The outcome of each handler of a datasource, in order. -/
def NearDataSource.handlerEntries :
    NearDataSource → List (Except String (Option (List DictionaryQueryEntry)))
  | .runtime _ _ hs => hs.map fun h => .ok (runtimeHandlerEntries h)
  | .custom kind _ hs plugin => hs.map (customHandlerEntries kind plugin)

/-- The handler loop over all handlers in order: the entries pushed, `none` at the first
`return []`, or the first error. -/
def collectEntries :
    List (Except String (Option (List DictionaryQueryEntry))) →
      Except String (Option (List DictionaryQueryEntry))
  | [] => .ok (some [])
  | r :: rs => do
    match ← r with
    | none => pure none
    | some es => return (← collectEntries rs).map (es ++ ·)

/-! ### Deduplication and the whole function -/

/-- `uniqBy`: the first element of each key, in order. -/
def uniqBy {α β : Type} [DecidableEq β] (key : α → β) : List α → List α :=
  go []
where
  /-- The pass with the keys already seen. -/
  go (seen : List β) : List α → List α
    | [] => []
    | x :: xs => if key x ∈ seen then go seen xs else x :: go (key x :: seen) xs

/-- The dedupe key `${entity}|${JSON.stringify(sortBy(conditions, field))}`, as the pair
it encodes; `sortBy` is stable, as `insertionSort` is. -/
def DictionaryQueryEntry.dedupeKey (e : DictionaryQueryEntry) :
    String × List DictionaryQueryCondition :=
  (e.entity, e.conditions.insertionSort fun a b => a.field ≤ b.field)

/-- The datasources the loop walks: the runtime datasources of the project, then the
templates, those starting at or before `startBlock`, stably sorted by start block. -/
def dictionaryDataSources (dataSources templates : List NearDataSource) (startBlock : Int) :
    List NearDataSource :=
  ((dataSources.filter (·.isRuntimeDataSource) ++ templates).filter
    (·.startBlock ≤ startBlock)).insertionSort fun a b => a.startBlock ≤ b.startBlock

/-- `buildDictionaryQueryEntries(startBlock)`, over the project's datasources and the
current `templateDynamicDatasouces`. -/
def buildDictionaryQueryEntries (dataSources templates : List NearDataSource)
    (startBlock : Int) : Except String (List DictionaryQueryEntry) := do
  match ← collectEntries
      ((dictionaryDataSources dataSources templates startBlock).flatMap (·.handlerEntries)) with
  | none => pure []
  | some queryEntries => pure (uniqBy DictionaryQueryEntry.dedupeKey queryEntries)

/-! ### Which handlers the dictionary serves -/

/-- The filters of a handler the dictionary can serve: present, and each with a modulo, a
`sender` or `receiver`, or a `type`, by kind. -/
def BaseFilter.servable : BaseFilter → Bool
  | .block fs => !fs.isEmpty && fs.all (·.modulo.isSome)
  | .transaction fs => !fs.isEmpty && fs.all fun f => f.sender.isSome || f.receiver.isSome
  | .action fs => !fs.isEmpty && fs.all (·.type.isSome)

/-- A handler the dictionary can serve: a runtime handler with servable filters, or a
custom handler whose processor gives a `dictionaryQuery` entry or has servable base
filters. -/
def NearDataSource.servable : NearDataSource → Bool
  | .runtime _ _ hs => hs.all (·.filterList.servable)
  | .custom _ _ hs plugin => hs.all fun h =>
      match plugin.lookup h.kind with
      | none => false
      | some p => (p.dictionaryQuery.bind (· h.filter)).isSome || p.baseFilter.servable

/-! ### What a non-empty query set promises -/

/-- `mapM` in `Option` succeeds only when the function succeeds on every element. -/
theorem isSome_of_mapM_eq_some {α β : Type} {f : α → Option β} :
    ∀ {xs : List α} {ys : List β}, xs.mapM f = some ys → ∀ x ∈ xs, (f x).isSome
  | [], _, _ => by simp
  | x :: xs, ys, h => by
    rw [List.mapM_cons] at h
    cases hx : f x with
    | none => rw [hx] at h; cases h
    | some y =>
      rw [hx] at h
      cases hxs : xs.mapM f with
      | none => rw [hxs] at h; cases h
      | some ys' =>
        intro z hz
        rcases List.mem_cons.mp hz with rfl | hz
        · simp [hx]
        · exact isSome_of_mapM_eq_some hxs z hz

/-- The handler loop ends with entries only when every handler pushed some, all of which
are among them. -/
theorem collectEntries_eq_some :
    ∀ {rs : List (Except String (Option (List DictionaryQueryEntry)))}
      {qs : List DictionaryQueryEntry}, collectEntries rs = .ok (some qs) →
      ∀ r ∈ rs, ∃ es, r = .ok (some es) ∧ ∀ e ∈ es, e ∈ qs
  | [], _, _ => by simp
  | .error _ :: _, _, h => by cases h
  | .ok none :: _, _, h => by cases h
  | .ok (some es) :: rs, qs, h => by
    rw [collectEntries] at h
    cases hc : collectEntries rs with
    | error e => rw [hc] at h; cases h
    | ok o =>
      rw [hc] at h
      cases o with
      | none => cases h
      | some qs' =>
        have hq : es ++ qs' = qs := Option.some.inj (Except.ok.inj h)
        intro r hr
        rcases List.mem_cons.mp hr with rfl | hr
        · exact ⟨es, rfl, fun e he => hq ▸ List.mem_append_left _ he⟩
        · obtain ⟨es', hr', hsub⟩ := collectEntries_eq_some hc r hr
          exact ⟨es', hr', fun e he => hq ▸ List.mem_append_right _ (hsub e he)⟩

/-- A switch that pushed entries for a handler of known kind had a servable filter list. -/
theorem servable_of_handlerSwitch {k : NearHandlerKind} {filterList : BaseFilter}
    {es : List DictionaryQueryEntry} (h : handlerSwitch (some k) filterList = some es) :
    filterList.servable = true := by
  unfold handlerSwitch at h
  split at h
  · cases h
  rename_i hne
  rcases filterList with fs | fs | fs <;>
    simp only [BaseFilter.isEmpty, Option.isSome_some, if_true, baseFilterEntries] at h hne <;>
    simp only [BaseFilter.servable, hne, Bool.not_false, Bool.true_and, List.all_eq_true]
  · split at h
    · rename_i hall
      exact List.all_eq_true.mp hall
    · cases h
  · intro f hf
    simpa using isSome_of_mapM_eq_some h f hf
  · intro f hf
    simpa using isSome_of_mapM_eq_some h f hf

/-- `uniqBy` keeps one element of each key: every element's key is that of a kept one. -/
theorem exists_mem_uniqBy_go {α β : Type} [DecidableEq β] (key : α → β) :
    ∀ (l : List α) (seen : List β) (x : α), x ∈ l →
      key x ∈ seen ∨ ∃ y ∈ uniqBy.go key seen l, key y = key x
  | [], _, _, hx => absurd hx (List.not_mem_nil _)
  | a :: l, seen, x, hx => by
    unfold uniqBy.go
    rcases List.mem_cons.mp hx with rfl | hx
    · split
      · exact .inl ‹_›
      · exact .inr ⟨x, List.mem_cons_self _ _, rfl⟩
    · split
      · exact exists_mem_uniqBy_go key l seen x hx
      · rcases exists_mem_uniqBy_go key l (key a :: seen) x hx with hs | ⟨y, hy, hk⟩
        · rcases List.mem_cons.mp hs with hs | hs
          · exact .inr ⟨a, List.mem_cons_self _ _, hs.symm⟩
          · exact .inl hs
        · exact .inr ⟨y, List.mem_cons_of_mem _ hy, hk⟩

/-- The entries the handlers of an active runtime datasource push, when the query set is
not empty: the datasource is walked, and each handler pushed its entries. -/
theorem handlerEntries_of_buildDictionaryQueryEntries {dataSources templates : List NearDataSource}
    {startBlock : Int} {queryEntries : List DictionaryQueryEntry}
    (h : buildDictionaryQueryEntries dataSources templates startBlock = .ok queryEntries)
    (hne : queryEntries ≠ []) {ds : NearDataSource}
    (hds : ds ∈ dataSources.filter (·.isRuntimeDataSource) ++ templates)
    (hstart : ds.startBlock ≤ startBlock) :
    ∃ qs, queryEntries = uniqBy DictionaryQueryEntry.dedupeKey qs ∧
      ∀ r ∈ ds.handlerEntries, ∃ es, r = .ok (some es) ∧ ∀ e ∈ es, e ∈ qs := by
  unfold buildDictionaryQueryEntries at h
  cases hc : collectEntries
      ((dictionaryDataSources dataSources templates startBlock).flatMap (·.handlerEntries)) with
  | error e => rw [hc] at h; cases h
  | ok o =>
    rw [hc] at h
    cases o with
    | none => exact absurd (Except.ok.inj h).symm hne
    | some qs =>
      have hq : uniqBy DictionaryQueryEntry.dedupeKey qs = queryEntries := Except.ok.inj h
      refine ⟨qs, hq.symm, fun r hr => collectEntries_eq_some hc r ?_⟩
      refine List.mem_flatMap.mpr ⟨ds, ?_, hr⟩
      exact (List.perm_insertionSort _ _).mem_iff.mpr (List.mem_filter.mpr ⟨hds, by simpa using hstart⟩)

/-- **A non-empty query set serves every runtime handler, and holds its entries.** If
`buildDictionaryQueryEntries` gives a non-empty set at `startBlock`, then every runtime
datasource of the project and every runtime template starting at or before `startBlock`
has only handlers the dictionary can serve, and each entry such a handler gives is in the
set, up to the dedupe key. -/
theorem runtime_servable_of_buildDictionaryQueryEntries
    {dataSources templates : List NearDataSource} {startBlock : Int}
    {queryEntries : List DictionaryQueryEntry}
    (h : buildDictionaryQueryEntries dataSources templates startBlock = .ok queryEntries)
    (hne : queryEntries ≠ []) :
    ∀ ds ∈ dataSources.filter (·.isRuntimeDataSource) ++ templates, ds.isCustom = false →
      ds.startBlock ≤ startBlock →
      ds.servable = true ∧
        ∀ s f hs, ds = .runtime s f hs → ∀ handler ∈ hs, ∀ es,
          runtimeHandlerEntries handler = some es → ∀ e ∈ es,
            ∃ e' ∈ queryEntries, e'.dedupeKey = e.dedupeKey := by
  intro ds hds hcustom hstart
  obtain ⟨qs, rfl, hall⟩ := handlerEntries_of_buildDictionaryQueryEntries h hne hds hstart
  rcases ds with ⟨s, f, hs⟩ | _
  · have hrun : ∀ handler ∈ hs, ∃ es, runtimeHandlerEntries handler = some es ∧
        ∀ e ∈ es, e ∈ qs := fun handler hh => by
      obtain ⟨es, hes, hsub⟩ := hall _ (List.mem_map_of_mem _ hh)
      exact ⟨es, Except.ok.inj hes, hsub⟩
    refine ⟨List.all_eq_true.mpr fun handler hh => ?_, ?_⟩
    · obtain ⟨es, hes, -⟩ := hrun handler hh
      exact servable_of_handlerSwitch hes
    · rintro s f hs ⟨⟩ handler hh es hes e he
      obtain ⟨es', hes', hsub⟩ := hrun handler hh
      cases hes.symm.trans hes'
      exact (exists_mem_uniqBy_go _ qs [] e (hsub e he)).resolve_left (List.not_mem_nil _)
  · cases hcustom

/-! ### What the query set holds -/

/-- `uniqBy` keeps elements in their order, dropping some. -/
theorem uniqBy_go_sublist {α β : Type} [DecidableEq β] (key : α → β) :
    ∀ (seen : List β) (l : List α), (uniqBy.go key seen l).Sublist l
  | _, [] => .slnil
  | seen, a :: l => by
    unfold uniqBy.go
    split
    · exact (uniqBy_go_sublist key seen l).cons a
    · exact (uniqBy_go_sublist key _ l).cons₂ a

/-- No element `uniqBy` keeps has a key seen before. -/
theorem uniqBy_go_fresh {α β : Type} [DecidableEq β] (key : α → β) :
    ∀ (seen : List β) (l : List α), ∀ y ∈ uniqBy.go key seen l, key y ∉ seen
  | _, [], _, hy => absurd hy (List.not_mem_nil _)
  | seen, a :: l, y, hy => by
    unfold uniqBy.go at hy
    split at hy
    · exact uniqBy_go_fresh key seen l y hy
    · rcases List.mem_cons.mp hy with rfl | hy
      · assumption
      · exact fun hs => uniqBy_go_fresh key _ l y hy (List.mem_cons_of_mem _ hs)

/-- `uniqBy` keeps one element of each key at most. -/
theorem uniqBy_go_nodup {α β : Type} [DecidableEq β] (key : α → β) :
    ∀ (seen : List β) (l : List α), ((uniqBy.go key seen l).map key).Nodup
  | _, [] => List.nodup_nil
  | seen, a :: l => by
    unfold uniqBy.go
    split
    · exact uniqBy_go_nodup key seen l
    · refine List.nodup_cons.mpr ⟨fun hk => ?_, uniqBy_go_nodup key _ l⟩
      obtain ⟨y, hy, hky⟩ := List.mem_map.mp hk
      exact uniqBy_go_fresh key _ l y hy (hky ▸ List.mem_cons_self _ _)

/-- The handler loop pushes only what some handler pushed. -/
theorem mem_of_collectEntries_eq_some :
    ∀ {rs : List (Except String (Option (List DictionaryQueryEntry)))}
      {qs : List DictionaryQueryEntry}, collectEntries rs = .ok (some qs) →
      ∀ e ∈ qs, ∃ es, .ok (some es) ∈ rs ∧ e ∈ es
  | [], _, h, e, he => by
    cases Option.some.inj (Except.ok.inj h)
    exact absurd he (List.not_mem_nil _)
  | .error _ :: _, _, h, _, _ => by cases h
  | .ok none :: _, _, h, _, _ => by cases h
  | .ok (some es) :: rs, qs, h, e, he => by
    rw [collectEntries] at h
    cases hc : collectEntries rs with
    | error e => rw [hc] at h; cases h
    | ok o =>
      rw [hc] at h
      cases o with
      | none => cases h
      | some qs' =>
        cases Option.some.inj (Except.ok.inj h)
        rcases List.mem_append.mp he with he | he
        · exact ⟨es, List.mem_cons_self _ _, he⟩
        · obtain ⟨es', hr, he'⟩ := mem_of_collectEntries_eq_some hc e he
          exact ⟨es', List.mem_cons_of_mem _ hr, he'⟩

/-- The datasources the loop walks are the runtime datasources and templates active at
`startBlock`. -/
theorem mem_dictionaryDataSources {dataSources templates : List NearDataSource}
    {startBlock : Int} {ds : NearDataSource} :
    ds ∈ dictionaryDataSources dataSources templates startBlock ↔
      ds ∈ dataSources.filter (·.isRuntimeDataSource) ++ templates ∧ ds.startBlock ≤ startBlock := by
  rw [dictionaryDataSources, (List.perm_insertionSort _ _).mem_iff, List.mem_filter,
    decide_eq_true_iff]

/-- **The query set names each condition set once, and only what active handlers push.**
Whatever `buildDictionaryQueryEntries` returns has no two entries with the same dedupe key,
and each of its entries was pushed by a handler of a runtime datasource or template that
starts at or before `startBlock`. -/
theorem buildDictionaryQueryEntries_unique_and_pushed
    {dataSources templates : List NearDataSource} {startBlock : Int}
    {queryEntries : List DictionaryQueryEntry}
    (h : buildDictionaryQueryEntries dataSources templates startBlock = .ok queryEntries) :
    (queryEntries.map DictionaryQueryEntry.dedupeKey).Nodup ∧
      ∀ e ∈ queryEntries, ∃ ds ∈ dataSources.filter (·.isRuntimeDataSource) ++ templates,
        ds.startBlock ≤ startBlock ∧ ∃ es, .ok (some es) ∈ ds.handlerEntries ∧ e ∈ es := by
  unfold buildDictionaryQueryEntries at h
  cases hc : collectEntries
      ((dictionaryDataSources dataSources templates startBlock).flatMap (·.handlerEntries)) with
  | error e => rw [hc] at h; cases h
  | ok o =>
    rw [hc] at h
    cases o with
    | none =>
      cases Except.ok.inj h
      exact ⟨List.nodup_nil, fun e he => absurd he (List.not_mem_nil _)⟩
    | some qs =>
      cases Except.ok.inj h
      refine ⟨uniqBy_go_nodup _ [] qs, fun e he => ?_⟩
      obtain ⟨es, hr, he⟩ :=
        mem_of_collectEntries_eq_some hc e ((uniqBy_go_sublist _ [] qs).subset he)
      obtain ⟨ds, hds, hr⟩ := List.mem_flatMap.mp hr
      obtain ⟨hds, hstart⟩ := mem_dictionaryDataSources.mp hds
      exact ⟨ds, hds, hstart, es, hr, he⟩

/-- A datasource with two transaction handlers on the same sender. -/
def twinSenderDs : NearDataSource :=
  .runtime 1 "dist/index.js"
    [.transaction (some { sender := some "alice" }), .transaction (some { sender := some "alice" })]

/-- The dictionary is asked for the twin handlers' entry once. -/
theorem twin_sender_queried_once :
    buildDictionaryQueryEntries [twinSenderDs] [] 1 =
        .ok [txFilterToQueryEntry { sender := some "alice" }] ∧
      ([txFilterToQueryEntry { sender := some "alice" }].map DictionaryQueryEntry.dedupeKey).Nodup ∧
      ∀ e ∈ [txFilterToQueryEntry { sender := some "alice" }],
        ∃ ds ∈ [twinSenderDs].filter (·.isRuntimeDataSource) ++ [], ds.startBlock ≤ 1 ∧
          ∃ es, .ok (some es) ∈ ds.handlerEntries ∧ e ∈ es :=
  ⟨rfl, buildDictionaryQueryEntries_unique_and_pushed rfl⟩

/-- **The query set ignores static custom datasources.** A project with a runtime
datasource whose transaction handler filters on `sender`, and a static custom datasource
whose only handler has a block base filter without modulo: at height `1` the custom
handler is active and cannot be served, yet the query set holds the transaction entry. -/
theorem buildDictionaryQueryEntries_skips_static_custom :
    let runtimeDs : NearDataSource :=
      .runtime 1 "dist/index.js" [.transaction (some { sender := some "alice" })]
    let plugin : NearDatasourceProcessor :=
      ⟨[("Near/CustomBlock", ⟨.block [{}], none⟩)]⟩
    let customDs : NearDataSource :=
      .custom "Near/Custom" 1 [⟨"Near/CustomBlock", none⟩] plugin
    buildDictionaryQueryEntries [runtimeDs, customDs] [] 1 =
        .ok [txFilterToQueryEntry { sender := some "alice" }] ∧
      customDs.startBlock ≤ 1 ∧ customDs.servable = false := by
  refine ⟨rfl, by decide, rfl⟩

end NearIndexer
