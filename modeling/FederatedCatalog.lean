import FederatedCatalog.Foundation.KeyedMap
import FederatedCatalog.Foundation.Program
import FederatedCatalog.Foundation.Interleaving
import FederatedCatalog.Foundation.RwLock
import FederatedCatalog.Foundation.SortedMap
import FederatedCatalog.Foundation.Bytes
import FederatedCatalog.Foundation.Text
import FederatedCatalog.Foundation.Checks
import FederatedCatalog.Foundation.Supply
import FederatedCatalog.Foundation.Grouping
import FederatedCatalog.Foundation.Acyclic
import FederatedCatalog.Foundation.Traversal
import FederatedCatalog.Foundation.FirstMatch
import FederatedCatalog.Foundation.Settling
import FederatedCatalog.Foundation.Traces
import FederatedCatalog.Json.Value
import FederatedCatalog.Json.Text
import FederatedCatalog.Core.Catalog
import FederatedCatalog.Store.Cache
import FederatedCatalog.Store.Memory
import FederatedCatalog.Store.GraphStore
import FederatedCatalog.Store.Oxigraph
import FederatedCatalog.Store.Refinement
import FederatedCatalog.Store.Ordering
import FederatedCatalog.Store.Stages
import FederatedCatalog.Store.FailedUpsert
import FederatedCatalog.Store.Healing
import FederatedCatalog.Store.Writers
import FederatedCatalog.Store.Readers
import FederatedCatalog.Store.Snapshot
import FederatedCatalog.Store.Locked
import FederatedCatalog.Dcp.Platform
import FederatedCatalog.Dcp.Jws
import FederatedCatalog.Dcp.Did
import FederatedCatalog.Dcp.Issuer
import FederatedCatalog.Dcp.Holder
import FederatedCatalog.Dcp.Verifier
import FederatedCatalog.Dcp.Grants
import FederatedCatalog.Dcp.Expiry
import FederatedCatalog.Dcp.Replay
import FederatedCatalog.Dcp.HonestRun
import FederatedCatalog.Dcp.Disclosure
import FederatedCatalog.Dcp.Traffic
import FederatedCatalog.Dcp.Restart
import FederatedCatalog.Crawler.Parse
import FederatedCatalog.Crawler.Inventory
import FederatedCatalog.Crawler.Crawl
import FederatedCatalog.Crawler.LastKnownGood
import FederatedCatalog.Crawler.Config
import FederatedCatalog.Crawler.Schedules
import FederatedCatalog.Crawler.Recrawl
import FederatedCatalog.Http.Wire
import FederatedCatalog.Http.WireFormat
import FederatedCatalog.Http.Authorize
import FederatedCatalog.Http.CatalogRequest
import FederatedCatalog.Http.Served
import FederatedCatalog.Http.RoundTrip
import FederatedCatalog.Http.ServiceRoundTrip
import FederatedCatalog.Http.Visibility
import FederatedCatalog.Http.DatasetLookup
import FederatedCatalog.Http.LookupIntegrity
import FederatedCatalog.Http.Attribution
import FederatedCatalog.Http.Routes
import FederatedCatalog.Http.Federation
import FederatedCatalog.Http.Convergence
import FederatedCatalog.Http.GatedCrawl
import FederatedCatalog.Http.Service
import FederatedCatalog.Http.Startup
import FederatedCatalog.Http.Unseen
