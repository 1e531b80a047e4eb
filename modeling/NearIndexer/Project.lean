import NearIndexer.Api
import NearIndexer.BlockFilter
import NearIndexer.Wrap

/-!
# Loading the Project

Two steps of loading a `SubqueryProject` shape what the services later read.

**The network.** `loadProjectFromManifestBase` wraps a string `endpoint` of the manifest's
network in a list, spreads the network overrides over the network, and runs
`processChainId`: a network may declare its chain by `chainId` or by `genesisHash`, not
both, and a `genesisHash` alone becomes the `chainId`; the `genesisHash` is deleted. The
network must then have an endpoint. `ApiService.init` compares the first endpoint's chain
with that `chainId`, so a project that declares its chain either way has the first
endpoint checked against it (`loaded_init_checks_declared_chain`). Only the manifest's
endpoint is wrapped: an override of the same type `string | string[]` given as one string
passes the loader, and `init` then throws at `network.endpoint.entries()`. An empty list
of endpoints is truthy, loads, and lets `init` resolve without connecting.

**The cron schedules.** `generateTimestampReferenceForBlockFilters` gives every block
filter with a cron string of a runtime datasource its compiled schedule: cron-converter's
seeker over the slots of the string, started at the timestamp of the datasource's start
block. It rejects when a cron string does not parse or the start block cannot be fetched.
After it, `filterBlock` throws on no filter of the project (`cronScheduleUnsetError` needs
a cron string without a schedule), and the datasources are what they were but for the
schedules (`generated_filters_never_throw`).

The handlers of one datasource run concurrently under `Promise.all`: each handler with a
cron string reaches `if (!block)` before any fetch has returned, so each fetches the start
block itself. The model fetches once per such handler; with the RPC a fixed function of
the height, every handler reads the same timestamp either way. Which error a rejection
carries depends on which promise rejects first, so of a rejected run only the fact is
stated.

cron-converter is outside this repository: `CronConverter` gives, for a cron string, the
seeker `cron.schedule(reference)` returns, or nothing when `cron.fromString` throws.

## Main results

* `loaded_init_checks_declared_chain`: after loading, a resolved `init` found the first
  endpoint on the chain the network declared, by `chainId` or by `genesisHash`.
* `generateTimestampReference_isOk_iff`: the schedules are generated exactly when every
  cron string parses and every start block a cron filter needs is fetched.
* `generated_filters_never_throw`: after generation, every cron filter carries the
  schedule of its string started at its datasource's start block, the datasources are
  otherwise unchanged, and `filterBlock` returns on every filter and block.
-/

namespace NearIndexer

/-! ### The network -/

/-- `endpoint: string | string[]`, as the manifest's network and the overrides give it. -/
inductive Endpoint where
  | one (url : String)
  | many (urls : List String)
  deriving DecidableEq, Repr

/-- `NearProjectNetworkConfig`, as the manifest's `network` or the `networkOverrides` give
it: each field is absent (`undefined`) or set. -/
structure NearProjectNetworkConfig where
  endpoint : Option Endpoint := none
  chainId : Option String := none
  genesisHash : Option String := none
  dictionary : Option String := none
  bypassBlocks : Option (List Int) := none
  deriving DecidableEq, Repr

/-- A JS truthy string: set and not empty. -/
def truthy : Option String → Bool
  | some s => s != ""
  | none => false

/-- `{ ...network, ...networkOverrides }`: every field the overrides set replaces the
network's. -/
def NearProjectNetworkConfig.override (network overrides : NearProjectNetworkConfig) :
    NearProjectNetworkConfig :=
  { endpoint := overrides.endpoint <|> network.endpoint
    chainId := overrides.chainId <|> network.chainId
    genesisHash := overrides.genesisHash <|> network.genesisHash
    dictionary := overrides.dictionary <|> network.dictionary
    bypassBlocks := overrides.bypassBlocks <|> network.bypassBlocks }

/-- The chain a network declares: its `chainId` when that is truthy, else its
`genesisHash` when that is. -/
def NearProjectNetworkConfig.declaredChain (network : NearProjectNetworkConfig) :
    Option String :=
  if truthy network.chainId then network.chainId
  else if truthy network.genesisHash then network.genesisHash
  else none

/-- `processChainId`: reject a network that sets both `chainId` and `genesisHash`; a
`genesisHash` set without a `chainId` becomes the `chainId`; the `genesisHash` is
deleted. -/
def processChainId (network : NearProjectNetworkConfig) : Except String NearProjectNetworkConfig :=
  if truthy network.chainId && truthy network.genesisHash then
    .error "Please only provide one of chainId and genesisHash"
  else if truthy network.genesisHash && !truthy network.chainId then
    .ok { network with chainId := network.genesisHash, genesisHash := none }
  else .ok { network with genesisHash := none }

/-- `!network.endpoint`: no endpoint, or the empty string. A list, even empty, is truthy. -/
def Endpoint.truthy : Option Endpoint → Bool
  | some (.one url) => url != ""
  | some (.many _) => true
  | none => false

/-- The error of a network without an endpoint. -/
def endpointMissingError (chainId : Option String) : String :=
  "Network endpoint must be provided for network. chainId=\"" ++ chainId.getD "undefined" ++ "\""

/-- The network part of `loadProjectFromManifestBase`: a string endpoint of the manifest
becomes a one-element list, the overrides are spread over the network, `processChainId`
runs, and the network must have an endpoint. -/
def loadNetwork (manifest overrides : NearProjectNetworkConfig) :
    Except String NearProjectNetworkConfig := do
  let manifest :=
    match manifest.endpoint with
    | some (.one url) => { manifest with endpoint := some (.many [url]) }
    | _ => manifest
  let network ← processChainId (manifest.override overrides)
  if Endpoint.truthy network.endpoint then pure network
  else .error (endpointMissingError network.chainId)

/-- `for await (const [i, endpoint] of network.endpoint.entries())` in `ApiService.init`:
the endpoints of a list. A string has no `entries` method, and a missing endpoint no
properties at all: each throws the `TypeError` Node gives there. Returns the network as the
services read it. -/
def NearProjectNetworkConfig.toNetworkConfig (network : NearProjectNetworkConfig) :
    Except String NetworkConfig :=
  match network.endpoint with
  | some (.many urls) =>
    .ok { endpoint := urls, chainId := network.chainId, genesisHash := network.genesisHash,
          dictionary := network.dictionary, bypassBlocks := network.bypassBlocks }
  | some (.one _) =>
    .error ("network.endpoint.entries(...) is not a function or its return value is not " ++
      "async iterable")
  | none => .error "Cannot read properties of undefined (reading \x27entries\x27)"

/-- `ApiService.init` on the loaded network: the loop over `network.endpoint.entries()`
throws before its first endpoint when there is no list to walk. -/
def ApiService.initLoaded (api : NearApi) (network : NearProjectNetworkConfig)
    (s : ApiService) : ApiService × Except String Unit :=
  match network.toNetworkConfig with
  | .error e => (s, .error e)
  | .ok network => s.init api network

/-! ### What loading keeps -/

section Network

variable {network network' : NearProjectNetworkConfig} {c : String}

/-- A declared chain is a truthy string. -/
theorem NearProjectNetworkConfig.declaredChain_ne_empty (h : network.declaredChain = some c) :
    c ≠ "" := by
  unfold declaredChain at h
  split at h
  · rename_i ht
    rw [h] at ht
    simpa [truthy] using ht
  · split at h
    · rename_i ht
      rw [h] at ht
      simpa [truthy] using ht
    · cases h

/-- **`processChainId` keeps the declared chain as the `chainId`**, whichever way it was
declared. -/
theorem processChainId_chainId (h : processChainId network = .ok network')
    (hc : network.declaredChain = some c) : network'.chainId = some c := by
  unfold processChainId at h
  unfold NearProjectNetworkConfig.declaredChain at hc
  by_cases h1 : truthy network.chainId <;> by_cases h2 : truthy network.genesisHash <;>
    simp [h1, h2] at h hc <;> cases h <;> simp [hc]

/-- The overrides decide the declared chain the same way whether or not the manifest's
endpoint was wrapped. -/
theorem NearProjectNetworkConfig.declaredChain_override (network overrides : NearProjectNetworkConfig)
    (e : Option Endpoint) :
    ({ network with endpoint := e }.override overrides).declaredChain =
      (network.override overrides).declaredChain :=
  rfl

/-- **Loading keeps the declared chain as the `chainId`.** -/
theorem loadNetwork_chainId {manifest overrides : NearProjectNetworkConfig}
    (h : loadNetwork manifest overrides = .ok network')
    (hc : (manifest.override overrides).declaredChain = some c) : network'.chainId = some c := by
  unfold loadNetwork at h
  obtain ⟨n, hn, h⟩ := bind_eq_ok.mp h
  split at h
  · cases h
    refine processChainId_chainId hn ?_
    split <;> simpa only [NearProjectNetworkConfig.declaredChain_override] using hc
  · cases h

end Network

/-- **A loaded project has its first endpoint checked against its declared chain.** Load
any manifest network under any overrides, and start `ApiService.init` from the service as
its constructor leaves it. If `init` resolves and the network declared a chain, by
`chainId` or by `genesisHash`, the first endpoint connected on that chain. -/
theorem loaded_init_checks_declared_chain (api : NearApi)
    (manifest overrides network : NearProjectNetworkConfig)
    (hload : loadNetwork manifest overrides = .ok network)
    (connections : List (String × NearApiConnection))
    (hinit : ((ApiService.create connections).initLoaded api network).2 = .ok ())
    (c : String) (hc : (manifest.override overrides).declaredChain = some c) :
    ∀ e₁ rest, network.endpoint = some (.many (e₁ :: rest)) →
      ∃ c₁, api.create e₁ = .ok c₁ ∧ c₁.networkMeta.chain = c := by
  intro e₁ rest hend
  have hchain := loadNetwork_chainId hload hc
  have hne := NearProjectNetworkConfig.declaredChain_ne_empty hc
  simp only [ApiService.initLoaded, NearProjectNetworkConfig.toNetworkConfig, hend] at hinit
  rcases ApiService.init_cases api _ (ApiService.create connections) with
    ⟨s', record, hrun, hres⟩ | ⟨s', e, -, hres⟩ <;> rw [hres] at hinit
  · obtain ⟨s₁, c₁, hstep, -⟩ := ApiService.initEndpoints_cons_eq_ok.mp hrun
    obtain ⟨hc₁, hmatch, -⟩ := ApiService.initEndpoint_first rfl hstep
    refine ⟨c₁, hc₁, ?_⟩
    simp only [chainIdMismatch, hchain, Bool.and_eq_false_iff, bne_eq_false_iff_eq] at hmatch
    exact (hmatch.resolve_left (by simpa using hne)).symm
  · cases hinit

/-- A manifest on one endpoint, declaring its chain by genesis hash. -/
def mainnetManifest : NearProjectNetworkConfig :=
  { endpoint := some (.one "https://rpc.mainnet.near.org"), genesisHash := some "mainnet" }

/-- The network loaded from it: the endpoint wrapped, the genesis hash moved to `chainId`. -/
def mainnetNetwork : NearProjectNetworkConfig :=
  { endpoint := some (.many ["https://rpc.mainnet.near.org"]), chainId := some "mainnet" }

/-- Loaded without overrides, the manifest's declared chain is what `init` checks. -/
theorem mainnet_init_checks_declared_chain :
    loadNetwork mainnetManifest {} = .ok mainnetNetwork ∧
      ((ApiService.create []).initLoaded mainnetApi mainnetNetwork).2 = .ok () ∧
      (mainnetManifest.override {}).declaredChain = some "mainnet" ∧
      ∀ e₁ rest, mainnetNetwork.endpoint = some (.many (e₁ :: rest)) →
        ∃ c₁, mainnetApi.create e₁ = .ok c₁ ∧ c₁.networkMeta.chain = "mainnet" :=
  ⟨rfl, rfl, rfl, loaded_init_checks_declared_chain mainnetApi mainnetManifest {} mainnetNetwork
    rfl [] rfl "mainnet" rfl⟩

/-! ### The cron schedules -/

/-- What cron-converter makes of a cron string: nothing when `cron.fromString` throws,
else `cron.schedule(reference)`, the seeker over the string's slot times started at the
reference time. -/
structure CronConverter where
  schedule : String → Option (Int → CronSeeker)

/-- A handler of a runtime datasource, with the schedule
`generateTimestampReferenceForBlockFilters` set on its block filter, if any. -/
structure SubqlProjectHandler where
  handler : NearRuntimeHandler
  cronSchedule : Option CronSeeker := none

/-- `handler.filter` as `filterBlock` reads it: a block filter with its schedule. -/
def SubqlProjectHandler.blockFilter : SubqlProjectHandler → Option SubqlProjectBlockFilter
  | ⟨.block (some f), cronSchedule⟩ => some { toNearBlockFilter := f, cronSchedule := cronSchedule }
  | _ => none

/-- `SubqlProjectDs`, after the timestamp references are generated. -/
inductive SubqlProjectDs where
  | runtime (startBlock : Int) (file : String) (handlers : List SubqlProjectHandler)
  | custom (kind : String) (startBlock : Int) (handlers : List NearCustomHandler)
      (processor : NearDatasourceProcessor)

/-- The datasource without its schedules. -/
def SubqlProjectDs.toNearDataSource : SubqlProjectDs → NearDataSource
  | .runtime startBlock file handlers => .runtime startBlock file (handlers.map (·.handler))
  | .custom kind startBlock handlers processor => .custom kind startBlock handlers processor

/-- `Invalid Cron string: ${timestamp}`. -/
def invalidCronString (timestamp : String) : String :=
  "Invalid Cron string: " ++ timestamp

/-- The handler callback of `generateTimestampReferenceForBlockFilters`: a block handler
whose filter has a cron string fetches the start block (`getBlockByHeight`) and gets the
schedule of its string started at the block's timestamp; every other handler is kept as
it is. -/
def scheduleHandler (api : JsonRpcProvider) (cron : CronConverter) (startBlock : Int)
    (handler : NearRuntimeHandler) : Except String SubqlProjectHandler :=
  match handler with
  | .block (some f) =>
    match f.timestamp with
    | some timestamp =>
      if timestamp != "" then do
        let block ← api.block startBlock
        match cron.schedule timestamp with
        | none => .error (invalidCronString timestamp)
        | some schedule => pure ⟨handler, some (schedule block.header.timestamp)⟩
      else pure ⟨handler, none⟩
    | none => pure ⟨handler, none⟩
  | _ => pure ⟨handler, none⟩

/-- The datasource callback of `generateTimestampReferenceForBlockFilters`: a runtime
datasource has its handlers scheduled from its start block; a custom one is kept as it
is. -/
def scheduleDataSource (api : JsonRpcProvider) (cron : CronConverter) :
    NearDataSource → Except String SubqlProjectDs
  | .runtime startBlock file handlers =>
    SubqlProjectDs.runtime startBlock file <$> handlers.mapM (scheduleHandler api cron startBlock)
  | .custom kind startBlock handlers processor => pure (.custom kind startBlock handlers processor)

/-- `generateTimestampReferenceForBlockFilters`: every datasource through its callback. -/
def generateTimestampReferenceForBlockFilters (api : JsonRpcProvider) (cron : CronConverter)
    (dataSources : List NearDataSource) : Except String (List SubqlProjectDs) :=
  dataSources.mapM (scheduleDataSource api cron)

/-- What a cron filter needs to be scheduled: its start block fetched and its string
parsed. -/
def NearRuntimeHandler.schedulable (api : JsonRpcProvider) (cron : CronConverter)
    (startBlock : Int) : NearRuntimeHandler → Prop
  | .block (some f) => f.hasTimestamp = true →
      (∃ b, api.block startBlock = .ok b) ∧ (cron.schedule (f.timestamp.getD "")).isSome
  | _ => True

section Schedules

variable {api : JsonRpcProvider} {cron : CronConverter} {startBlock : Int}

/-- Each result of a `mapM` in `Except` forgets back to its source, when each result of
`f` does. -/
theorem mapM_ok_map_eq {ε α β : Type} {f : α → Except ε β} {g : β → α}
    (hg : ∀ x y, f x = .ok y → g y = x) :
    ∀ {xs : List α} {ys : List β}, xs.mapM f = .ok ys → ys.map g = xs
  | [], ys, h => by
    rw [List.mapM_nil] at h
    cases h
    rfl
  | x :: xs, ys, h => by
    rw [List.mapM_cons] at h
    obtain ⟨y, hy, h⟩ := bind_eq_ok.mp h
    obtain ⟨ys', hys', h⟩ := bind_eq_ok.mp h
    cases h
    simp [hg x y hy, mapM_ok_map_eq hg hys']

/-- **What scheduling one handler does.** It returns exactly when the handler is
schedulable, keeps the handler, and gives a cron filter the schedule of its string at the
start block's timestamp and every other handler none. -/
theorem scheduleHandler_spec (handler : NearRuntimeHandler) :
    ((∃ h, scheduleHandler api cron startBlock handler = .ok h) ↔
      handler.schedulable api cron startBlock) ∧
    ∀ h, scheduleHandler api cron startBlock handler = .ok h → h.handler = handler ∧
      ∀ f, handler = .block (some f) →
        (f.hasTimestamp = true → ∃ b schedule, api.block startBlock = .ok b ∧
          cron.schedule (f.timestamp.getD "") = some schedule ∧
          h.cronSchedule = some (schedule b.header.timestamp)) ∧
        (f.hasTimestamp = false → h.cronSchedule = none) := by
  rcases handler with (_ | f) | g | g
  · simp [scheduleHandler, NearRuntimeHandler.schedulable, pure, Except.pure]
  · rcases ht : f.timestamp with _ | t
    · simp [scheduleHandler, NearRuntimeHandler.schedulable, NearBlockFilter.hasTimestamp, ht,
        pure, Except.pure]
    · by_cases hne : t = ""
      · simp [scheduleHandler, NearRuntimeHandler.schedulable, NearBlockFilter.hasTimestamp, ht,
          hne, pure, Except.pure]
      · rcases hb : api.block startBlock with e | b <;> rcases hs : cron.schedule t with _ | sch <;>
          simp [scheduleHandler, NearRuntimeHandler.schedulable, NearBlockFilter.hasTimestamp,
            ht, hne, hb, hs, bind, Except.bind, pure, Except.pure]
  · simp [scheduleHandler, NearRuntimeHandler.schedulable, pure, Except.pure]
  · simp [scheduleHandler, NearRuntimeHandler.schedulable, pure, Except.pure]

/-- A filter with a schedule for its cron string never throws. -/
theorem filterBlock_isOk {filter : SubqlProjectBlockFilter}
    (h : filter.hasTimestamp = true → filter.cronSchedule.isSome) (block : NearBlock) :
    ∃ r, filterBlock block (some filter) = .ok r := by
  by_cases hmod : filterBlockModulo block filter.toNearBlockFilter = true
  · by_cases ht : filter.hasTimestamp = true
    · obtain ⟨seeker, hs⟩ := Option.isSome_iff_exists.mp (h ht)
      simp only [filterBlock, hmod, ht, Bool.not_true, Bool.false_eq_true, if_false, if_true,
        filterBlockTimestamp, hs]
      split <;> exact ⟨_, rfl⟩
    · exact ⟨(some block, some filter), by simp [filterBlock, hmod, ht]⟩
  · exact ⟨(none, some filter), by simp [filterBlock, hmod]⟩

/-- A map in `Except` returns exactly when its argument does. -/
theorem map_eq_ok {ε α β : Type} {f : α → β} {x : Except ε α} {y : β} :
    f <$> x = .ok y ↔ ∃ a, x = .ok a ∧ f a = y := by
  cases x <;> simp [Functor.map, Except.map]

/-- A datasource is scheduled exactly when each of its handlers can be. -/
theorem scheduleDataSource_isOk_iff (ds : NearDataSource) :
    (∃ d, scheduleDataSource api cron ds = .ok d) ↔
      ∀ startBlock file handlers, ds = .runtime startBlock file handlers →
        ∀ handler ∈ handlers, handler.schedulable api cron startBlock := by
  rcases ds with ⟨startBlock, file, handlers⟩ | ⟨kind, startBlock, handlers, processor⟩
  · simp only [scheduleDataSource, map_eq_ok, NearDataSource.runtime.injEq]
    constructor
    · rintro ⟨_, hs, hmap, -⟩ _ _ _ ⟨rfl, rfl, rfl⟩ handler hh
      obtain ⟨h, -, hsched⟩ := mapM_ok_result hmap hh
      exact ((scheduleHandler_spec handler).1.mp ⟨h, hsched⟩)
    · intro h
      obtain ⟨hs, hmap⟩ := mapM_isOk_iff.mpr fun handler hh =>
        (scheduleHandler_spec handler).1.mpr (h _ _ _ ⟨rfl, rfl, rfl⟩ handler hh)
      exact ⟨_, hs, hmap, rfl⟩
  · simp [scheduleDataSource, pure, Except.pure]

/-- A scheduled datasource forgets back to its source. -/
theorem scheduleDataSource_toNearDataSource {ds : NearDataSource} {d : SubqlProjectDs}
    (h : scheduleDataSource api cron ds = .ok d) : d.toNearDataSource = ds := by
  rcases ds with ⟨startBlock, file, handlers⟩ | ⟨kind, startBlock, handlers, processor⟩
  · obtain ⟨hs, hmap, rfl⟩ := map_eq_ok.mp h
    simp only [SubqlProjectDs.toNearDataSource,
      mapM_ok_map_eq (fun x y hxy => ((scheduleHandler_spec x).2 y hxy).1) hmap]
  · cases h
    rfl

/-- Each handler of a generated runtime datasource is one of its handlers, scheduled. -/
theorem scheduled_handler_source {dataSources : List NearDataSource}
    {result : List SubqlProjectDs}
    (h : generateTimestampReferenceForBlockFilters api cron dataSources = .ok result)
    {file : String} {handlers : List SubqlProjectHandler}
    (hd : .runtime startBlock file handlers ∈ result) {x : SubqlProjectHandler}
    (hx : x ∈ handlers) : ∃ handler, scheduleHandler api cron startBlock handler = .ok x := by
  obtain ⟨ds, -, hds⟩ := mapM_ok_source h hd
  rcases ds with ⟨sb, f, hs⟩ | ⟨k, sb, hs, p⟩
  · obtain ⟨hs', hmap, heq⟩ := map_eq_ok.mp hds
    cases heq
    obtain ⟨handler, -, hh⟩ := mapM_ok_source hmap hx
    exact ⟨handler, hh⟩
  · cases hds

end Schedules

/-- **Generation returns exactly when every cron filter can be scheduled**: its string
parses, and the start block of its datasource is fetched. -/
theorem generateTimestampReference_isOk_iff (api : JsonRpcProvider) (cron : CronConverter)
    (dataSources : List NearDataSource) :
    (∃ r, generateTimestampReferenceForBlockFilters api cron dataSources = .ok r) ↔
      ∀ startBlock file handlers, .runtime startBlock file handlers ∈ dataSources →
        ∀ handler ∈ handlers, handler.schedulable api cron startBlock := by
  rw [generateTimestampReferenceForBlockFilters, mapM_isOk_iff]
  simp only [scheduleDataSource_isOk_iff]
  exact ⟨fun h startBlock file handlers hds => h _ hds startBlock file handlers rfl,
    fun h ds hds startBlock file handlers heq => h startBlock file handlers (heq ▸ hds)⟩

/-- **After generation no filter throws.** Every datasource is what it was but for the
schedules; every block filter with a cron string carries the schedule of its string,
started at the timestamp of its datasource's start block; and `filterBlock` returns on
every handler's filter and every block. -/
theorem generated_filters_never_throw (api : JsonRpcProvider) (cron : CronConverter)
    (dataSources : List NearDataSource) (result : List SubqlProjectDs)
    (h : generateTimestampReferenceForBlockFilters api cron dataSources = .ok result) :
    result.map SubqlProjectDs.toNearDataSource = dataSources ∧
      ∀ startBlock file handlers, SubqlProjectDs.runtime startBlock file handlers ∈ result →
        ∀ x ∈ handlers,
          (∀ f, x.handler = .block (some f) → f.hasTimestamp = true →
            ∃ b schedule, api.block startBlock = .ok b ∧
              cron.schedule (f.timestamp.getD "") = some schedule ∧
              x.cronSchedule = some (schedule b.header.timestamp)) ∧
          ∀ block, ∃ r, filterBlock block x.blockFilter = .ok r := by
  refine ⟨mapM_ok_map_eq (fun _ _ => scheduleDataSource_toNearDataSource) h,
    fun startBlock file handlers hd x hx => ?_⟩
  obtain ⟨handler, hh⟩ := scheduled_handler_source h hd hx
  obtain ⟨rfl, hspec⟩ := (scheduleHandler_spec handler).2 x hh
  refine ⟨fun f hf => (hspec f hf).1, fun block => ?_⟩
  rcases x with ⟨(_ | f) | _ | _, cronSchedule⟩
  · exact ⟨_, rfl⟩
  · refine filterBlock_isOk (fun ht => ?_) block
    obtain ⟨b, schedule, -, -, hs⟩ := (hspec f rfl).1 ht
    have hs' : cronSchedule = some (schedule b.header.timestamp) := hs
    simp [hs']
  all_goals exact ⟨_, rfl⟩

/-- cron-converter on the one string `*/10 * * * *`: ten-minute slots, the seeker started
at the slot of the reference time. -/
def tenMinuteCron : CronConverter where
  schedule t := if t = "*/10 * * * *" then
    some fun reference => { tenMinuteSeeker with cursor := reference / 600000 } else none

/-- An RPC whose block at height `h` has timestamp `600000 * h`, `h` ten-minute slots
after the epoch. -/
def clockRpc : JsonRpcProvider where
  chunk _ := .ok { transactions := [], receipts := [] }
  txStatusReceipts _ _ :=
    .ok { transaction_outcome := { id := "", outcome := { logs := [], gas_burnt := 0 } } }
  block h := .ok
    { author := ""
      header := { height := h, hash := "", timestamp := 600000 * h, gas_price := "" }
      chunks := [] }

/-- A runtime datasource from height 5 with a ten-minute block filter and an unfiltered
transaction handler. -/
def clockSources : List NearDataSource :=
  [.runtime 5 "dist/index.js"
    [.block (some { timestamp := some "*/10 * * * *" }), .transaction none]]

/-- What generation makes of it: the block filter's seeker starts at the slot of the
timestamp `3000000` of block 5. -/
def clockResult : List SubqlProjectDs :=
  [.runtime 5 "dist/index.js"
    [⟨.block (some { timestamp := some "*/10 * * * *" }),
        some { tenMinuteSeeker with cursor := 5 }⟩,
      ⟨.transaction none, none⟩]]

/-- Generation on `clockSources`, and what follows from it. -/
theorem clockSources_schedules :
    generateTimestampReferenceForBlockFilters clockRpc tenMinuteCron clockSources =
        .ok clockResult ∧
      clockResult.map SubqlProjectDs.toNearDataSource = clockSources ∧
      ∀ startBlock file handlers, SubqlProjectDs.runtime startBlock file handlers ∈ clockResult →
        ∀ x ∈ handlers,
          (∀ f, x.handler = .block (some f) → f.hasTimestamp = true →
            ∃ b schedule, clockRpc.block startBlock = .ok b ∧
              tenMinuteCron.schedule (f.timestamp.getD "") = some schedule ∧
              x.cronSchedule = some (schedule b.header.timestamp)) ∧
          ∀ block, ∃ r, filterBlock block x.blockFilter = .ok r :=
  ⟨rfl, generated_filters_never_throw clockRpc tenMinuteCron clockSources clockResult rfl⟩

end NearIndexer

