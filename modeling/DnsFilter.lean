import DnsFilter.Server
import DnsFilter.Filtering.Rebuild
import DnsFilter.Filtering.LinesProof
import DnsFilter.PipelineProof
import DnsFilter.CacheProof
import DnsFilter.CacheEviction
import DnsFilter.UpstreamProof
import DnsFilter.FilterListProof
import DnsFilter.ZoneProof
import DnsFilter.RoundTrip
import DnsFilter.RefreshTasks
import DnsFilter.Chroot
import DnsFilter.ZoneAuthorityProof
import DnsFilter.ConcurrentUpdates
import DnsFilter.Durations
import DnsFilter.ListEndpoints
import DnsFilter.ZoneNames
import DnsFilter.SeedOnce
import DnsFilter.AcmeFlow
import DnsFilter.MergerProof
import DnsFilter.Filtering.RpzProof
import DnsFilter.Filtering.NormalForm
import DnsFilter.ZoneMatching
import DnsFilter.ExactDurations
import DnsFilter.Strategy
import DnsFilter.Expiry
import DnsFilter.DiscoveryProof
import DnsFilter.HexData
import DnsFilter.ExpiryTime
import DnsFilter.X509Safety
import DnsFilter.EndpointProof
import DnsFilter.ZoneSearch
import DnsFilter.ListSources
import DnsFilter.Metrics
import DnsFilter.ServerOrder
import DnsFilter.UpstreamClients
import DnsFilter.RootHints
import DnsFilter.Lib.Trace
import DnsFilter.ControlPlane
import DnsFilter.ApiAuthorization
import DnsFilter.AcmeRenewal
import DnsFilter.ZoneService
import DnsFilter.ServingRuns
import DnsFilter.ConfigStore
import DnsFilter.UpstreamMetrics
