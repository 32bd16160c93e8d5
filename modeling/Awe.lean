import Awe.Rust.Method
import Awe.Rust.Integer
import Awe.Rust.Map
import Awe.Rust.Run
import Awe.Rust.Hex
import Awe.Rust.Json
import Awe.Rust.JsonText
import Awe.Rust.Serde
import Awe.Crypto
import Awe.Identity
import Awe.Reference
import Awe.Onecoin.Transaction
import Awe.Onecoin.Ledger
import Awe.Onecoin.LedgerLaws
import Awe.Onecoin.Operations
import Awe.Onecoin.Supply
import Awe.Onecoin.Replication
import Awe.Onecoin.TwoNodes
import Awe.Onecoin.LedgerJson
import Awe.Onecoin.Store
import Awe.Onecoin.Backing
import Awe.Onecoin.Persistence
import Awe.Onecoin.Issuance
import Awe.Onecoin.RewardCaps
import Awe.Onecoin.GenesisFailures
import Awe.Onecoin.Consensus
import Awe.Onecoin.ConsensusLaws
import Awe.Onecoin.Quorum
import Awe.Onecoin.Certificates
import Awe.Onecoin.CanonicalBlocks
import Awe.Onecoin.Finality
import Awe.Onecoin.Nonces
import Awe.Onecoin.StateStore
import Awe.Onecoin.Reload
import Awe.Onecoin.ConsensusRuntime
import Awe.Onecoin.RuntimeLaws
import Awe.Onecoin.Voting
import Awe.Onecoin.Reactions
import Awe.Onecoin.Network
import Awe.Onecoin.Agreement
import Awe.Onecoin.Pending
import Awe.Onecoin.Ballots
import Awe.Rust.JsonSize
import Awe.Rust.Net
import Awe.Rust.NetText
import Awe.Transport.Replay
import Awe.Transport.Wire
import Awe.Transport.WireLaws
import Awe.Transport.Handshake
import Awe.Transport.HandshakeLaws
import Awe.Transport.Binding
import Awe.Transport.KeyAgreement
import Awe.Transport.Session
import Awe.Transport.SessionLaws
import Awe.Transport.Freshness
import Awe.Transport.Roundtrip
import Awe.Transport.Limits
import Awe.Transport.Defense
import Awe.Transport.Routing
import Awe.Transport.Node
import Awe.Transport.Delivery
import Awe.Transport.Connections
import Awe.Rust.Window
import Awe.Transport.ReplayLaws
import Awe.Rust.Eviction
import Awe.Transport.ReplayEviction
import Awe.Transport.Allowance
import Awe.Rust.Sort
import Awe.Rust.Balance
import Awe.Storage.Placement
import Awe.Storage.PlacementLaws
import Awe.Storage.LocalStore
import Awe.Storage.Host
import Awe.Storage.HostLaws
import Awe.Rust.Float
import Awe.Storage.Erasure
import Awe.Storage.ErasureLaws
import Awe.Storage.DataPlane
import Awe.Product.Policy
import Awe.Storage.TransferLaws
import Awe.Rust.Commit
import Awe.Onecoin.Durability
import Awe.Onecoin.Payment
import Awe.Product.Wallet
import Awe.Product.WalletLaws
import Awe.Product.Amounts
import Awe.Rust.Utf8
import Awe.Protocol.Canonical
import Awe.Rust.LastWriter
import Awe.Naming.Registry
import Awe.Naming.RegistryLaws
import Awe.Rust.Path
import Awe.Apps.Package
import Awe.Apps.PackageLaws
import Awe.Apps.Store
import Awe.Apps.StoreLaws
import Awe.Apps.Isolation
import Awe.Apps.Addressing
import Awe.Rust.Value
import Awe.Rust.ValueText
import Awe.Product.Messenger
import Awe.Product.Community
import Awe.Product.CommunityLaws
import Awe.Product.Groups
import Awe.Product.Calls
import Awe.Product.Files
import Awe.Product.RepairCycle
import Awe.Product.FilesLaws
import Awe.Onecoin.ConsensusJson
import Awe.Onecoin.ProposalSizes
import Awe.Product.Dispatcher
import Awe.Product.DispatcherLaws
import Awe.Product.ConsensusDispatch
import Awe.Transport.Bans
import Awe.Transport.RateLimits
import Awe.Transport.Inbox
import Awe.Transport.Forgery
import Awe.Transport.NonceUse
import Awe.Rust.Totals
import Awe.Rust.Commuting
import Awe.Onecoin.Fees
import Awe.Onecoin.Deliveries
import Awe.Rust.Threads
import Awe.Storage.Directory
import Awe.Storage.DirectoryLaws
import Awe.Storage.Recovery
import Awe.Storage.ContentMap
import Awe.Storage.Uploads
import Awe.Apps.Paths
import Awe.Vault.LocalVault
import Awe.Vault.Secrecy
import Awe.Messenger.Session
import Awe.Messenger.SessionLaws
import Awe.Messenger.SharedKey
import Awe.Rust.Iteration
import Awe.Discovery.Announcement
import Awe.Discovery.Rollback
import Awe.Discovery.Ownership
import Awe.Rust.Panic
import Awe.Rust.Walk
import Awe.Rust.BreadthFirst
import Awe.Topology.Centre
import Awe.Topology.AweNet
import Awe.Topology.CentreLaws
import Awe.Topology.NetLaws
import Awe.Topology.Routes
import Awe.Topology.Validity
import Awe.Topology.Links
import Awe.Topology.Meshes
import Awe.Topology.TwoWay
import Awe.Transport.Onion
import Awe.Transport.OnionSizes
import Awe.Onecoin.PriceFloor
import Awe.Rust.FirstWriter
import Awe.Onecoin.Governance
import Awe.Onecoin.FloorVotes
import Awe.Rust.Monotone
import Awe.Onebank.Tiers
import Awe.Onebank.Exchange
import Awe.Onebank.Wallet
import Awe.Onebank.ExchangeLaws
import Awe.Onebank.WalletLaws
import Awe.Onebank.WalletView
import Awe.Rust.Selection
import Awe.Storage.Replicas
import Awe.Storage.Repair
import Awe.Rust.Spending
import Awe.Transport.Buckets
import Awe.Transport.DefenseLaws
import Awe.Transport.Breaker
import Awe.Transport.Shield
import Awe.Rust.Nearest
import Awe.Transport.Closest
import Awe.Transport.Lookup
import Awe.Transport.PeerTable
import Awe.Rust.Projection
import Awe.Transport.Ranking
import Awe.Storage.Manifest
import Awe.Storage.RepairLoads
import Awe.Transport.Advertised
import Awe.Rust.Slice
import Awe.Transport.OnionLaws
import Awe.Rust.PrefixCode
import Awe.Storage.RootHash
import Awe.Discovery.Signing
import Awe.Apps.Preimages
import Awe.Rust.Leb128
import Awe.Apps.Wasm
import Awe.Rust.Overflow
import Awe.Health.Reputation
import Awe.Rust.Text
import Awe.Health.Diagnostics
import Awe.Health.Redaction
import Awe.Vault.AweSecret
import Awe.Transport.Datagram
import Awe.Product.Http
import Awe.Transport.Supervisor
import Awe.Rust.Memory
import Awe.Product.Federation
