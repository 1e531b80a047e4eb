import NearIndexer.Basic

/-!
# Connecting to the Endpoints

`ApiService.init` connects to each endpoint of the project's network in turn. The first
connection fixes the service's network metadata, and its chain must be the project's
`chainId` when one is declared; every later endpoint must give, as the header hash of the
block at `GENESIS_BLOCK`, the genesis hash of that metadata. Only when the loop has
checked every endpoint are the connections handed to the connection pool, all at once
(`addBatchToConnections`), so a rejected `init` adds no endpoint to the pool. The
metadata the first connection set stays set even then.

The RPC's answers (`NearApiConnection.create`, `status`, `block`) are fixed functions of
the endpoint and the connection, any of which may fail. The pool is the list of the
connections added to it.

## Main results

* `init_admits_only_matching_endpoints`: from the service as its constructor leaves it,
  `init` resolves only if the first endpoint's chain is the declared `chainId` and every
  later endpoint agrees on the genesis hash, and a rejected `init` leaves the pool as it
  was.
* `ApiService.init_pools_every_endpoint`: a resolved `init` adds one entry for each
  endpoint to the pool, and no other.
-/

namespace NearIndexer

/-- `GENESIS_BLOCK`: the height whose header hash every later endpoint must agree on. -/
def genesisBlock : Int := 9820210

/-- `NetworkMetadataPayload`, with the chain and genesis hash `init` compares. -/
structure NetworkMetadataPayload where
  chain : String
  genesisHash : String
  deriving DecidableEq, Repr

/-- A connection as `NearApiConnection.create` makes it: its endpoint and the network
metadata it read. -/
structure NearApiConnection where
  endpoint : String
  networkMeta : NetworkMetadataPayload
  deriving DecidableEq, Repr

/-- The RPC calls `init` makes, as fixed answers, each of which may fail:
`NearApiConnection.create(endpoint)`, `api.status()` (its `chain_id`), and the header hash
of `api.block({ blockId })`. -/
structure NearApi where
  create : String → Except String NearApiConnection
  status : NearApiConnection → Except String String
  blockHash : NearApiConnection → Int → Except String String

/-- The state of `ApiService` that `init` reads and writes: `networkMeta`, unset until the
first connection, and the connection pool. -/
structure ApiService where
  networkMeta : Option NetworkMetadataPayload
  connections : List (String × NearApiConnection)
  deriving DecidableEq, Repr

/-- The service as its constructor leaves it, over a connection pool. -/
def ApiService.create (connections : List (String × NearApiConnection)) : ApiService :=
  { networkMeta := none, connections := connections }

/-! ### The loop -/

/-- `metadataMismatchError`. -/
def metadataMismatchError (metadata expected actual : String) : String :=
  "Value of " ++ metadata ++ " does not match across all endpoints\n\n       Expected: " ++
    expected ++ "\n       Actual: " ++ actual

/-- The error `init` throws when the first endpoint is on another chain. -/
def chainIdMismatchError (network : NetworkConfig) (chain : String) : String :=
  "Network chainId doesn\x27t match expected genesisHash. Your SubQuery project is " ++
    "expecting to index data from \"" ++
    ((network.chainId <|> network.genesisHash).getD "undefined") ++
    "\", however the endpoint that you are connecting to is different(\"" ++ chain ++
    "). Please check that the RPC endpoint is actually for your desired network or " ++
    "update the genesisHash."

/-- `network.chainId && network.chainId !== chain`: a chain id is declared and differs. -/
def chainIdMismatch (network : NetworkConfig) (chain : String) : Bool :=
  match network.chainId with
  | some chainId => chainId != "" && chainId != chain
  | none => false

/-- The body of `init`'s loop on one endpoint: connect and read the status; the first
connection sets `networkMeta` and checks the chain, a later one checks the genesis hash.
Returns the state and the connection, or the error that ends the loop. -/
def ApiService.initEndpoint (api : NearApi) (network : NetworkConfig) (s : ApiService)
    (endpoint : String) : ApiService × Except String NearApiConnection :=
  match api.create endpoint with
  | .error e => (s, .error e)
  | .ok connection =>
    match api.status connection with
    | .error e => (s, .error e)
    | .ok _chainId =>
      match s.networkMeta with
      | none =>
        let s := { s with networkMeta := some connection.networkMeta }
        if chainIdMismatch network connection.networkMeta.chain then
          (s, .error (chainIdMismatchError network connection.networkMeta.chain))
        else (s, .ok connection)
      | some networkMeta =>
        match api.blockHash connection genesisBlock with
        | .error e => (s, .error e)
        | .ok genesisHash =>
          if networkMeta.genesisHash != genesisHash then
            (s, .error (metadataMismatchError "Genesis Hash" networkMeta.genesisHash
              genesisHash))
          else (s, .ok connection)

/-- `endpointToApiIndex[endpoint] = connection`: replace the endpoint's entry of the
record, or add one at its end. -/
def recordSet (record : List (String × NearApiConnection)) (endpoint : String)
    (connection : NearApiConnection) : List (String × NearApiConnection) :=
  if record.any (·.1 == endpoint) then
    record.map fun e => if e.1 == endpoint then (endpoint, connection) else e
  else record ++ [(endpoint, connection)]

/-- `init`'s loop over the endpoints, with the record of connections so far
(`endpointToApiIndex`): the state as the loop leaves it, and the record or the error that
ends the loop. -/
def ApiService.initEndpoints (api : NearApi) (network : NetworkConfig) :
    List String → ApiService → List (String × NearApiConnection) →
      ApiService × Except String (List (String × NearApiConnection))
  | [], s, endpointToApiIndex => (s, .ok endpointToApiIndex)
  | endpoint :: endpoints, s, endpointToApiIndex =>
    match s.initEndpoint api network endpoint with
    | (s, .ok connection) =>
      initEndpoints api network endpoints s (recordSet endpointToApiIndex endpoint connection)
    | (s, .error e) => (s, .error e)

/-- `ApiService.init`: run the loop from an empty record, then hand the record to the pool
(`addBatchToConnections`) and resolve. A loop that throws rejects `init` before the pool
is touched. -/
def ApiService.init (api : NearApi) (network : NetworkConfig) (s : ApiService) :
    ApiService × Except String Unit :=
  match initEndpoints api network network.endpoint s [] with
  | (s, .ok endpointToApiIndex) =>
    ({ s with connections := s.connections ++ endpointToApiIndex }, .ok ())
  | (s, .error e) => (s, .error e)

/-! ### What one endpoint checks -/

section Endpoint

variable {api : NearApi} {network : NetworkConfig} {s s' : ApiService} {endpoint : String}

/-- The loop's body never touches the pool. -/
theorem ApiService.initEndpoint_connections (api : NearApi) (network : NetworkConfig)
    (s : ApiService) (endpoint : String) :
    (s.initEndpoint api network endpoint).1.connections = s.connections := by
  unfold initEndpoint
  repeat' split
  all_goals rfl

/-- The first endpoint passes when it connects and is on the declared chain; it sets
`networkMeta`. -/
theorem ApiService.initEndpoint_first {connection : NearApiConnection}
    (hmeta : s.networkMeta = none) (h : s.initEndpoint api network endpoint = (s', .ok connection)) :
    api.create endpoint = .ok connection ∧
      chainIdMismatch network connection.networkMeta.chain = false ∧
      s' = { s with networkMeta := some connection.networkMeta } := by
  unfold initEndpoint at h
  rw [hmeta] at h
  split at h
  · cases h
  · rename_i c hc
    split at h
    · cases h
    · simp only at h
      split at h
      · cases h
      · rename_i hmatch
        cases h
        exact ⟨hc, by simpa using hmatch, rfl⟩

/-- A later endpoint passes when it connects and gives the known genesis hash; the state
is left as it was. -/
theorem ApiService.initEndpoint_later {networkMeta : NetworkMetadataPayload}
    {connection : NearApiConnection} (hmeta : s.networkMeta = some networkMeta)
    (h : s.initEndpoint api network endpoint = (s', .ok connection)) :
    api.create endpoint = .ok connection ∧
      api.blockHash connection genesisBlock = .ok networkMeta.genesisHash ∧ s' = s := by
  unfold initEndpoint at h
  rw [hmeta] at h
  split at h
  · cases h
  · rename_i c hc
    split at h
    · cases h
    · simp only at h
      split at h
      · cases h
      · rename_i hash hhash
        split at h
        · cases h
        · rename_i hsame
          cases h
          exact ⟨hc, by rw [hhash, show networkMeta.genesisHash = hash by simpa using hsame], rfl⟩

end Endpoint

/-! ### The whole loop -/

/-- A loop over `endpoint :: endpoints` resolves exactly when the body passes on
`endpoint` and the loop then resolves on the rest. -/
theorem ApiService.initEndpoints_cons_eq_ok {api : NearApi} {network : NetworkConfig}
    {endpoint : String} {endpoints : List String} {s s' : ApiService}
    {record record' : List (String × NearApiConnection)} :
    initEndpoints api network (endpoint :: endpoints) s record = (s', .ok record') ↔
      ∃ s₁ connection, s.initEndpoint api network endpoint = (s₁, .ok connection) ∧
        initEndpoints api network endpoints s₁ (recordSet record endpoint connection) =
          (s', .ok record') := by
  rw [initEndpoints.eq_2]
  rcases s.initEndpoint api network endpoint with ⟨s₁, _ | connection⟩ <;> simp [and_assoc]

/-- **What `init` can do**: resolve after a loop that resolved, adding its record to the
pool, or reject with the loop's error and state. -/
theorem ApiService.init_cases (api : NearApi) (network : NetworkConfig) (s : ApiService) :
    (∃ s' record, initEndpoints api network network.endpoint s [] = (s', .ok record) ∧
      s.init api network = ({ s' with connections := s'.connections ++ record }, .ok ())) ∨
    (∃ s' e, initEndpoints api network network.endpoint s [] = (s', .error e) ∧
      s.init api network = (s', .error e)) := by
  unfold init
  rcases initEndpoints api network network.endpoint s [] with ⟨s', _ | record⟩
  · exact .inr ⟨s', _, rfl, rfl⟩
  · exact .inl ⟨s', record, rfl, rfl⟩

/-- The loop never touches the pool. -/
theorem ApiService.initEndpoints_connections (api : NearApi) (network : NetworkConfig) :
    ∀ (endpoints : List String) (s : ApiService) (record : List (String × NearApiConnection)),
      (initEndpoints api network endpoints s record).1.connections = s.connections
  | [], _, _ => rfl
  | endpoint :: endpoints, s, record => by
    have hbody := initEndpoint_connections api network s endpoint
    unfold initEndpoints
    rcases hstep : s.initEndpoint api network endpoint with ⟨s₁, _ | connection⟩ <;>
      rw [hstep] at hbody
    · exact hbody
    · exact (initEndpoints_connections api network endpoints s₁ _).trans hbody

/-- Once `networkMeta` is set, a loop that resolves has found every endpoint connected and
agreeing on its genesis hash. -/
theorem ApiService.initEndpoints_later (api : NearApi) (network : NetworkConfig)
    {networkMeta : NetworkMetadataPayload} :
    ∀ (endpoints : List String) (s : ApiService) (record : List (String × NearApiConnection))
      (s' : ApiService) (record' : List (String × NearApiConnection)),
      s.networkMeta = some networkMeta →
      initEndpoints api network endpoints s record = (s', .ok record') →
      ∀ e ∈ endpoints, ∃ c, api.create e = .ok c ∧
        api.blockHash c genesisBlock = .ok networkMeta.genesisHash
  | [], _, _, _, _, _, _, e, he => absurd he (List.not_mem_nil e)
  | endpoint :: endpoints, s, record, s', record', hmeta, h, e, he => by
    obtain ⟨s₁, connection, hstep, hrest⟩ := initEndpoints_cons_eq_ok.mp h
    obtain ⟨hc, hhash, rfl⟩ := initEndpoint_later hmeta hstep
    rcases List.mem_cons.mp he with rfl | he
    · exact ⟨connection, hc, hhash⟩
    · exact initEndpoints_later api network endpoints _ _ s' record' hmeta hrest e he

/-- The keys of the record after `endpointToApiIndex[endpoint] = connection`: the same when
the endpoint is a key already, else the endpoint added at the end. -/
theorem keys_recordSet (record : List (String × NearApiConnection)) (endpoint : String)
    (connection : NearApiConnection) :
    (recordSet record endpoint connection).map Prod.fst =
      if endpoint ∈ record.map Prod.fst then record.map Prod.fst
      else record.map Prod.fst ++ [endpoint] := by
  have hany : record.any (·.1 == endpoint) = true ↔ endpoint ∈ record.map Prod.fst := by
    simp [List.any_eq_true]
  unfold recordSet
  by_cases h : endpoint ∈ record.map Prod.fst
  · rw [if_pos (hany.mpr h), if_pos h, List.map_map]
    exact List.map_congr_left fun p _ => by by_cases hp : p.1 = endpoint <;> simp [hp]
  · rw [if_neg (mt hany.mp h), if_neg h]
    simp

/-- `endpointToApiIndex[endpoint] = connection` keeps every endpoint of the record and adds
its own. -/
theorem mem_keys_recordSet {record : List (String × NearApiConnection)} {endpoint e : String}
    {connection : NearApiConnection} :
    e ∈ (recordSet record endpoint connection).map Prod.fst ↔
      e = endpoint ∨ e ∈ record.map Prod.fst := by
  rw [keys_recordSet]
  split
  · exact ⟨Or.inr, by rintro (rfl | he) <;> assumption⟩
  · simp [or_comm]

/-- `endpointToApiIndex[endpoint] = connection` keeps the keys of the record distinct. -/
theorem nodup_keys_recordSet {record : List (String × NearApiConnection)} {endpoint : String}
    {connection : NearApiConnection} (h : (record.map Prod.fst).Nodup) :
    ((recordSet record endpoint connection).map Prod.fst).Nodup := by
  rw [keys_recordSet]
  split
  · exact h
  · refine List.pairwise_append.mpr ⟨h, List.pairwise_singleton _ _, fun a ha b hb hab => ?_⟩
    rw [List.mem_singleton] at hb
    subst hb hab
    contradiction

/-- A loop that resolves has recorded every endpoint it walked, and kept the record it
started from. -/
theorem ApiService.initEndpoints_keys (api : NearApi) (network : NetworkConfig) :
    ∀ (endpoints : List String) (s : ApiService) (record : List (String × NearApiConnection))
      (s' : ApiService) (record' : List (String × NearApiConnection)),
      initEndpoints api network endpoints s record = (s', .ok record') →
      ∀ e, e ∈ record'.map Prod.fst ↔ e ∈ endpoints ∨ e ∈ record.map Prod.fst
  | [], _, _, _, _, h, e => by
    cases h
    simp
  | endpoint :: endpoints, s, record, s', record', h, e => by
    obtain ⟨s₁, connection, -, hrest⟩ := initEndpoints_cons_eq_ok.mp h
    rw [initEndpoints_keys api network endpoints _ _ s' record' hrest e, mem_keys_recordSet]
    simp only [List.mem_cons]
    tauto

/-- A loop that resolves keeps the keys of its record distinct. -/
theorem ApiService.initEndpoints_nodup (api : NearApi) (network : NetworkConfig) :
    ∀ (endpoints : List String) (s : ApiService) (record : List (String × NearApiConnection))
      (s' : ApiService) (record' : List (String × NearApiConnection)),
      initEndpoints api network endpoints s record = (s', .ok record') →
      (record.map Prod.fst).Nodup → (record'.map Prod.fst).Nodup
  | [], _, _, _, _, h, hn => by
    cases h
    exact hn
  | endpoint :: endpoints, s, record, s', record', h, hn => by
    obtain ⟨s₁, connection, -, hrest⟩ := initEndpoints_cons_eq_ok.mp h
    exact initEndpoints_nodup api network endpoints _ _ s' record' hrest (nodup_keys_recordSet hn)

/-- **A resolved `init` pools every endpoint once.** The pool gains the record of the loop:
one entry for each endpoint of the network, even one the network lists twice, and no
other. -/
theorem ApiService.init_pools_every_endpoint {api : NearApi} {network : NetworkConfig}
    {s : ApiService} (h : (s.init api network).2 = .ok ()) :
    ∃ record, (s.init api network).1.connections = s.connections ++ record ∧
      (record.map Prod.fst).Nodup ∧ ∀ e, e ∈ record.map Prod.fst ↔ e ∈ network.endpoint := by
  rcases init_cases api network s with ⟨s', record, hrun, hinit⟩ | ⟨s', e, hrun, hinit⟩ <;>
    rw [hinit] at h ⊢
  · refine ⟨record, ?_, initEndpoints_nodup api network _ _ _ _ _ hrun List.nodup_nil,
      fun e => by simpa using initEndpoints_keys api network _ _ _ _ _ hrun e⟩
    have hloop := initEndpoints_connections api network network.endpoint s []
    rw [hrun] at hloop
    exact congrArg (· ++ record) hloop
  · cases h

/-- An RPC on which every endpoint connects, on chain `mainnet` with genesis hash
`genesis`. -/
def mainnetApi : NearApi where
  create url := .ok { endpoint := url, networkMeta := { chain := "mainnet", genesisHash := "genesis" } }
  status _ := .ok "mainnet"
  blockHash _ _ := .ok "genesis"

/-- Two endpoints of `mainnetApi`, declared on `mainnet`. -/
def mainnetEndpoints : NetworkConfig :=
  { endpoint := ["https://rpc.mainnet.near.org", "https://archival-rpc.mainnet.near.org"],
    chainId := some "mainnet", dictionary := none, bypassBlocks := none }

/-- The endpoints of `mainnetEndpoints`, the first listed twice. -/
def repeatedEndpoints : NetworkConfig :=
  { mainnetEndpoints with endpoint := mainnetEndpoints.endpoint ++ ["https://rpc.mainnet.near.org"] }

/-- `init` on `repeatedEndpoints` resolves, and pools each of its two endpoints once. -/
theorem mainnet_init_pools_both_endpoints :
    ((ApiService.create []).init mainnetApi repeatedEndpoints).2 = .ok () ∧
      ∃ record, ((ApiService.create []).init mainnetApi repeatedEndpoints).1.connections =
          (ApiService.create []).connections ++ record ∧
        (record.map Prod.fst).Nodup ∧ ∀ e, e ∈ record.map Prod.fst ↔ e ∈ repeatedEndpoints.endpoint :=
  ⟨rfl, ApiService.init_pools_every_endpoint rfl⟩

example :
    ((ApiService.create []).init mainnetApi repeatedEndpoints).1.connections.map Prod.fst =
      ["https://rpc.mainnet.near.org", "https://archival-rpc.mainnet.near.org"] := by
  decide

/-- **`init` admits only matching endpoints, all or nothing.** Start from the service as
its constructor leaves it, over any pool, with any endpoints. If `init` resolves, the
first endpoint connected on the declared `chainId` (when one is declared), and every
later endpoint connected and gave the first one's genesis hash as the header hash of
`GENESIS_BLOCK`. If `init` rejects, the pool is as it was: no endpoint joined it. -/
theorem init_admits_only_matching_endpoints (api : NearApi) (network : NetworkConfig)
    (connections : List (String × NearApiConnection)) :
    let s := ApiService.create connections
    ((s.init api network).2 = .ok () →
      ∀ e₁ rest, network.endpoint = e₁ :: rest →
        ∃ c₁, api.create e₁ = .ok c₁ ∧
          (∀ chainId, network.chainId = some chainId → chainId ≠ "" →
            chainId = c₁.networkMeta.chain) ∧
          ∀ e ∈ rest, ∃ c, api.create e = .ok c ∧
            api.blockHash c genesisBlock = .ok c₁.networkMeta.genesisHash) ∧
    ∀ err, (s.init api network).2 = .error err → (s.init api network).1.connections = connections := by
  intro s
  have hloop := ApiService.initEndpoints_connections api network network.endpoint s []
  rcases ApiService.init_cases api network s with
    ⟨s', record, hrun, hinit⟩ | ⟨s', e, hrun, hinit⟩ <;> rw [hinit] <;> rw [hrun] at hloop
  · refine ⟨fun _ e₁ rest hendpoints => ?_, fun _ herr => by cases herr⟩
    rw [hendpoints] at hrun
    obtain ⟨s₁, c₁, hstep, hrest⟩ := ApiService.initEndpoints_cons_eq_ok.mp hrun
    obtain ⟨hc, hchain, rfl⟩ := ApiService.initEndpoint_first rfl hstep
    refine ⟨c₁, hc, fun chainId hid hne => ?_,
      ApiService.initEndpoints_later api network rest _ _ s' record rfl hrest⟩
    simp only [chainIdMismatch, hid, Bool.and_eq_false_iff, bne_eq_false_iff_eq] at hchain
    exact hchain.resolve_left (by simpa using hne)
  · exact ⟨fun hok => (by cases hok), fun _ _ => hloop⟩

end NearIndexer
