import NearIndexer.Basic

/-!
# The Filter Engine and its Dictionary Counterpart

A handler sees a block's items through two filters that are meant to agree: in process,
`filterTransactions` and `filterActions` keep the items one of the handler's filters
passes; through the dictionary, `txFilterToQueryEntry` and `actionFilterToQueryEntry`
turn each filter into equality conditions on the dictionary's `transactions` and
`actions` rows, whose `sender`, `receiver`, `type` and `action` columns hold a
transaction's `signer_id` and `receiver_id` and an action's tag and payload.

The two do not agree, for two different reasons. `filterTransaction` passes every
transaction whatever its filter, so the in-process side ignores `sender` and `receiver`
(`filterTransactions_eq_self`), while its sibling `filterAction` applies its own filter:
a handler with a transaction filter and no dictionary receives other accounts'
transactions, the asymmetry the spec's design notes leave open as a possible latent bug.
`filterAction` reads only a truthy `type`, while every set field of an action filter,
`action` included, becomes a condition: there the dictionary is the narrower side, and
the payload is a field the spec keeps reserved, never consulted in process.

## Main results

* `filter_engine_vs_dictionary`: the in-process filters keep every item the dictionary
  conditions select; on transactions they keep every transaction, and on actions the two
  agree exactly when the filter sets no `action` and its `type` is unset or non-empty.
* `filterTransactions_keeps_other_senders`: a transaction of another signer kept by a
  `sender` filter.
-/

namespace NearIndexer

/-! ### The in-process filters -/

/-- `filterBlockModulo`: a block passes unless the filter's modulo is set, non-zero
(`!modulo`) and does not divide the height. For a non-zero modulo, JS `%` and Lean's `%`
agree on divisibility. -/
def filterBlockModulo (block : NearBlock) (filter : NearBlockFilter) : Bool :=
  match filter.modulo with
  | none => true
  | some m => m == 0 || block.header.height % m == 0

/-- `filterTransaction`: every transaction passes, whatever the filter. -/
def filterTransaction (_transaction : NearTransaction) (_filter : NearTransactionFilter) :
    Bool :=
  true

/-- `filterAction`: an action passes unless the filter's `type` is a non-empty string
(`filter.type ? … : true`) other than the action's tag. -/
def filterAction (action : NearAction) (filter : NearActionFilter) : Bool :=
  match filter.type with
  | none => true
  | some t => t == "" || action.type == t

/-- The filters of a `filterOrFilters` argument: `none` when it is absent or the empty
array, the early return of the array filters. -/
def filtersOf {α : Type} : Option (FilterOrFilters α) → Option (List α)
  | none => none
  | some (.one f) => some [f]
  | some (.many []) => none
  | some (.many (f :: fs)) => some (f :: fs)

/-- The array filters, `filterTransactions` and `filterActions`, in one: the items that
some filter passes (`filters.find(...)`), or every item when no filter is given. -/
def filterByAny {α F : Type} (pass : α → F → Bool) (items : List α)
    (filterOrFilters : Option (FilterOrFilters F)) : List α :=
  match filtersOf filterOrFilters with
  | none => items
  | some filters => items.filter fun item => (filters.find? (pass item)).isSome

/-- `filterTransactions`. -/
def filterTransactions (transactions : List NearTransaction)
    (filterOrFilters : Option (FilterOrFilters NearTransactionFilter)) :
    List NearTransaction :=
  filterByAny filterTransaction transactions filterOrFilters

/-- `filterActions`. -/
def filterActions (actions : List NearAction)
    (filterOrFilters : Option (FilterOrFilters NearActionFilter)) : List NearAction :=
  filterByAny filterAction actions filterOrFilters

/-- An item is kept by a single filter exactly when that filter passes it. -/
theorem filterByAny_one {α F : Type} (pass : α → F → Bool) (items : List α) (f : F) :
    filterByAny pass items (some (.one f)) = items.filter (pass · f) := by
  simp only [filterByAny, filtersOf]
  congr 1
  funext item
  cases h : pass item f <;> simp [h]

/-- **The transaction filter keeps everything**: whatever the filters, every transaction
of the block reaches the handler. -/
theorem filterTransactions_eq_self (transactions : List NearTransaction)
    (filterOrFilters : Option (FilterOrFilters NearTransactionFilter)) :
    filterTransactions transactions filterOrFilters = transactions := by
  rcases filterOrFilters with _ | _ | _ | _ <;>
    simp [filterTransactions, filterByAny, filtersOf, filterTransaction]

/-! ### Query entries and the dictionary's rows -/

/-- `Object.entries` of a transaction filter: its set fields in declaration order. -/
def NearTransactionFilter.entries (f : NearTransactionFilter) : List (String × String) :=
  (f.sender.map ("sender", ·)).toList ++ (f.receiver.map ("receiver", ·)).toList

/-- `Object.entries` of an action filter: its set fields in declaration order. -/
def NearActionFilter.entries (f : NearActionFilter) : List (String × String) :=
  (f.type.map ("type", ·)).toList ++ (f.action.map ("action", ·)).toList

/-- The two filter-to-entry functions in one: every entry of the filter becomes an
`equalTo` condition on the given entity. -/
def filterToQueryEntry (entity : String) (entries : List (String × String)) :
    DictionaryQueryEntry :=
  { entity := entity
    conditions := entries.map fun e =>
      { field := e.1, value := e.2, matcher := some "equalTo" } }

/-- `txFilterToQueryEntry`. -/
def txFilterToQueryEntry (filter : NearTransactionFilter) : DictionaryQueryEntry :=
  filterToQueryEntry "transactions" filter.entries

/-- `actionFilterToQueryEntry`. -/
def actionFilterToQueryEntry (filter : NearActionFilter) : DictionaryQueryEntry :=
  filterToQueryEntry "actions" filter.entries

/-- The columns of a transaction row of the dictionary. -/
def NearTransaction.column (t : NearTransaction) : String → Option String
  | "sender" => some t.signer_id
  | "receiver" => some t.receiver_id
  | _ => none

/-- The columns of an action row of the dictionary. -/
def NearAction.column (a : NearAction) : String → Option String
  | "type" => some a.type
  | "action" => some a.action
  | _ => none

/-- A row meets an entry when each condition's column holds the condition's value. Every
condition this package builds is an `equalTo` condition. -/
def DictionaryQueryEntry.metBy (e : DictionaryQueryEntry) (row : String → Option String) :
    Bool :=
  e.conditions.all fun c => decide (row c.field = some c.value)

/-- A row meets a filter's entry exactly when each set field of the filter is the row's
column. -/
theorem filterToQueryEntry_metBy (entity : String) (entries : List (String × String))
    (row : String → Option String) :
    (filterToQueryEntry entity entries).metBy row =
      entries.all (fun e => decide (row e.1 = some e.2)) := by
  induction entries with
  | nil => rfl
  | cons e es ih =>
    rw [DictionaryQueryEntry.metBy, filterToQueryEntry, List.map_cons, List.all_cons,
      List.all_cons, ← ih]
    rfl

/-- An action meets the entry of an action filter when its tag and payload are the set
ones. -/
theorem actionFilterToQueryEntry_metBy (g : NearActionFilter) (a : NearAction) :
    (actionFilterToQueryEntry g).metBy a.column =
      ((g.type.all fun t => decide (a.type = t)) && g.action.all fun p => decide (a.action = p)) := by
  rcases g with ⟨_ | t, _ | p⟩ <;>
    simp [actionFilterToQueryEntry, filterToQueryEntry_metBy, NearActionFilter.entries,
      NearAction.column, eq_comm]

/-! ### Agreement -/

/-- **What the filter engine does against the dictionary.** For every transaction filter
the in-process filter returns every transaction: `filterTransaction` ignores its filter,
unlike `filterAction`, so it keeps each transaction the dictionary selects and every other
one. For every action filter it keeps each action the dictionary selects, and returns
exactly those when the filter sets no `action` payload, which it never reads, and its
`type` is unset or a non-empty string. -/
theorem filter_engine_vs_dictionary :
    (∀ (txs : List NearTransaction) (f : NearTransactionFilter),
      filterTransactions txs (some (.one f)) = txs ∧
      ∀ t ∈ txs, (txFilterToQueryEntry f).metBy t.column →
        t ∈ filterTransactions txs (some (.one f))) ∧
    (∀ (acts : List NearAction) (g : NearActionFilter), g.action = none →
      g.type ≠ some "" →
      filterActions acts (some (.one g)) =
        acts.filter fun a => (actionFilterToQueryEntry g).metBy a.column) ∧
    (∀ (acts : List NearAction) (g : NearActionFilter),
      ∀ a ∈ acts, (actionFilterToQueryEntry g).metBy a.column →
        a ∈ filterActions acts (some (.one g))) := by
  refine ⟨fun txs f => ⟨filterTransactions_eq_self _ _, fun t ht _ => ?_⟩, ?_, ?_⟩
  · rwa [filterTransactions_eq_self]
  · intro acts g hact htype
    rw [filterActions, filterByAny_one]
    congr 1
    funext a
    rcases g with ⟨_ | t, _ | p⟩ <;>
      simp_all [actionFilterToQueryEntry_metBy, filterAction, Bool.beq_eq_decide_eq]
  · intro acts g a ha hmet
    rw [filterActions, filterByAny_one, List.mem_filter]
    refine ⟨ha, ?_⟩
    rcases g with ⟨_ | t, _ | p⟩ <;>
      simp_all [actionFilterToQueryEntry_metBy, filterAction]

/-- A `sender` filter keeps a transaction of another signer in process, while its
dictionary entry selects only the sender's transaction. -/
theorem filterTransactions_keeps_other_senders :
    let alice : NearTransaction := { hash := "t1", signer_id := "alice", receiver_id := "pool" }
    let bob : NearTransaction := { hash := "t2", signer_id := "bob", receiver_id := "pool" }
    let f : NearTransactionFilter := { sender := some "alice" }
    filterTransactions [alice, bob] (some (.one f)) ≠
      [alice, bob].filter fun t => (txFilterToQueryEntry f).metBy t.column := by
  simp only [(filter_engine_vs_dictionary.1 _ _).1]
  decide

end NearIndexer
