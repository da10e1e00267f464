import ShadowPanel.Acme.Lockers
import ShadowPanel.Acme.Orders
import ShadowPanel.Api.Attach
import ShadowPanel.Archiver.Manifest
import ShadowPanel.Daemon.FileRead
import ShadowPanel.Daemon.Framing
import ShadowPanel.Daemon.LegacyAnswers
import ShadowPanel.Daemon.StrippedPaths
import ShadowPanel.Games.Eggs
import ShadowPanel.Games.RoundTrip
import ShadowPanel.Grpc.Cluster
import ShadowPanel.Grpc.Gateway
import ShadowPanel.Grpc.Isolation
import ShadowPanel.Grpc.PendingCommands
import ShadowPanel.Grpc.PendingRequests
import ShadowPanel.Metrics.Polling
import ShadowPanel.Metrics.Ring
import ShadowPanel.Plugin.Exact
import ShadowPanel.Plugin.Ids
import ShadowPanel.Plugin.Manager
import ShadowPanel.Plugin.Servers
import ShadowPanel.Pubsub.DeadLetters
import ShadowPanel.Query.GameSpy3
import ShadowPanel.Rbac.Coherence
import ShadowPanel.Rbac.EntityQueries
import ShadowPanel.Rbac.Order
import ShadowPanel.Rcon.Packets
import ShadowPanel.Rcon.PlayerCommands
import ShadowPanel.Repositories.Cached.Frame
import ShadowPanel.Repositories.Cached.Games
import ShadowPanel.Repositories.Cached.Nodes
import ShadowPanel.Repositories.Cached.Tokens
import ShadowPanel.Repositories.Cached.Users
import ShadowPanel.Security.Identity
import ShadowPanel.Security.ParallelLogins
import ShadowPanel.Security.Revocation
import ShadowPanel.Security.SetupKeys
import ShadowPanel.Servers.Autostart
import ShadowPanel.Servers.Settings
import ShadowPanel.Servers.Shortcodes
import ShadowPanel.Servers.StoredSettings
import ShadowPanel.Servers.Updates
import ShadowPanel.Tasks.Indexed
import ShadowPanel.Tasks.Lifecycle
import ShadowPanel.Tasks.Reaper
import ShadowPanel.Tasks.Reports
import ShadowPanel.Tasks.Stream
import ShadowPanel.Transfers.Download
import ShadowPanel.Transfers.Parts
import ShadowPanel.Transfers.Remote
import ShadowPanel.Transfers.State
import ShadowPanel.Upload.Backends
import ShadowPanel.Upload.Chunks
import ShadowPanel.Upload.Completion
import ShadowPanel.Upload.Janitor
