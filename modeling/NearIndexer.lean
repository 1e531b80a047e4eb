import NearIndexer.Basic
import NearIndexer.Filters
import NearIndexer.BlockFilter
import NearIndexer.Wrap
import NearIndexer.Api
import NearIndexer.Project
import NearIndexer.QueryEntries
import NearIndexer.Modulo
import NearIndexer.Fetch.State
import NearIndexer.Fetch.Loop
import NearIndexer.Fetch.Genesis
import NearIndexer.Fetch.Batches
import NearIndexer.Fetch.Bypass
import NearIndexer.Fetch.Answer
import NearIndexer.Fetch.Order
import NearIndexer.Fetch.Progress
import NearIndexer.Fetch.Coverage
import NearIndexer.Fetch.CatchUp
import NearIndexer.Fetch.Dictionary
import NearIndexer.Fetch.ModuloHeights
import NearIndexer.Fetch.QueryMap
import NearIndexer.Worker
