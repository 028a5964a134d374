import NetworkManager.Foundation.Uuid
import NetworkManager.Foundation.Text
import NetworkManager.Foundation.Table
import NetworkManager.Foundation.Traces
import NetworkManager.Foundation.Bytes
import NetworkManager.Foundation.Json
import NetworkManager.Foundation.IpAddr
import NetworkManager.Transaction.Calls
import NetworkManager.Transaction.Interleaving
import NetworkManager.Transaction.Outcomes
import NetworkManager.Security.Audit
import NetworkManager.Observability.Redaction
import NetworkManager.Security.Vault
import NetworkManager.Security.TokenRoundTrip
import NetworkManager.AuditStore.Chain
import NetworkManager.Transaction.Embedding
import NetworkManager.InventoryStore.Records
import NetworkManager.InventoryStore.Declared
import NetworkManager.InventoryStore.DeviceRecords
import NetworkManager.InventoryStore.Commits
import NetworkManager.InventoryStore.Versions
import NetworkManager.InventoryStore.Lifecycles
import NetworkManager.InventoryStore.Retirement
import NetworkManager.InventoryStore.ReviewGate
import NetworkManager.SecurityStore.RoundTrip
import NetworkManager.PlatformEvents.Fencing
import NetworkManager.Backend.RefreshRotation
import NetworkManager.InventoryStore.Store
import NetworkManager.InventoryStore.Matching
import NetworkManager.Backend.RefreshFailure
import NetworkManager.Backend.Authorization
import NetworkManager.Backend.Authenticators
import NetworkManager.Backend.ActiveUsers
import NetworkManager.Backend.Revocation
import NetworkManager.Backend.RowLocks
import NetworkManager.IdentityStore.Store
import NetworkManager.IdentityStore.Authentication
import NetworkManager.IdentityStore.Credentials
import NetworkManager.IdentityStore.SiteBindings
import NetworkManager.Security.Rbac
import NetworkManager.InventoryStore.Search
import NetworkManager.Transaction.Guards
import NetworkManager.Transaction.Tasks
import NetworkManager.Backend.InventoryApi
import NetworkManager.InventoryStore.Scoping
import NetworkManager.Backend.Mediation
import NetworkManager.PlatformEvents.Ledger
import NetworkManager.PlatformEvents.Leases
import NetworkManager.PlatformEvents.Backlog
import NetworkManager.PlatformEvents.Dispatcher
import NetworkManager.PlatformEvents.Deliveries
import NetworkManager.PlatformEvents.Attempts
import NetworkManager.PlatformEvents.Publishing
import NetworkManager.Foundation.AppendOnly
import NetworkManager.AuditStore.Tampering
import NetworkManager.Foundation.JsonText
import NetworkManager.Foundation.JsonMaps
import NetworkManager.Security.AuditCodec
import NetworkManager.AuditStore.ReadBack
import NetworkManager.Foundation.JsonParts
import NetworkManager.Security.Sanitizing
import NetworkManager.Transaction.Runs
import NetworkManager.InventoryStore.RowValidity
import NetworkManager.InventoryStore.Observations
import NetworkManager.InventoryStore.Rediscovery
import NetworkManager.InventoryStore.ManualValues
import NetworkManager.Migrations.InventoryLifecycle
import NetworkManager.InventoryStore.MergeDecisions
import NetworkManager.Backend.DomainRbac
import NetworkManager.Transaction.Relying
import NetworkManager.SecurityStore.Rotation
import NetworkManager.Backend.TenantIsolation
import NetworkManager.Domain.ChangeControl
import NetworkManager.Migrations.AddressScopes
import NetworkManager.Domain.Identifiers
import NetworkManager.Domain.MacAddresses
import NetworkManager.InventoryStore.MacIdentity
import NetworkManager.InventoryStore.Clearing
import NetworkManager.SecurityStore.KeyRings
import NetworkManager.SecurityStore.Transplants
import NetworkManager.Backend.ExactSearch
import NetworkManager.Domain.Trial
import NetworkManager.Security.TokenWindow
import NetworkManager.ExecutorCore.TcpConnect
import NetworkManager.Backend.Cookies
import NetworkManager.PlatformEvents.DispatchCalls
import NetworkManager.Backend.Bootstrap
import NetworkManager.Security.Totp
import NetworkManager.Domain.Monitoring
import NetworkManager.IdentityStore.CidrCast
import NetworkManager.AuditStore.Columns
import NetworkManager.Transaction.Preserving
import NetworkManager.AuditStore.Sealing
import NetworkManager.InventoryStore.AuditTrail
import NetworkManager.Backend.AuditWrites
import NetworkManager.Foundation.Pages
import NetworkManager.InventoryStore.Chronicles
import NetworkManager.InventoryStore.Paging
import NetworkManager.Transaction.Endings
import NetworkManager.Backend.SessionCookies
import NetworkManager.Backend.ReuseAlarms
import NetworkManager.Backend.AccessLifetimes
import NetworkManager.SiteRuntime.Server
import NetworkManager.Foundation.OnceOnly
import NetworkManager.PlatformEvents.Consumptions
import NetworkManager.Foundation.NaturalKeys
import NetworkManager.Backend.ScopeBootstrap
import NetworkManager.SecurityStore.KeyRetirement
import NetworkManager.InventoryStore.Attribution
import NetworkManager.Backend.Accountability
