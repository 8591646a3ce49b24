import Holabrain.Core.Dict
import Holabrain.Core.Coroutine
import Holabrain.Core.Trace
import Holabrain.Core.Bits
import Holabrain.Core.Interference
import Holabrain.Core.History
import Holabrain.Core.FixedWindow
import Holabrain.Core.FirstWins
import Holabrain.Core.Utf8
import Holabrain.Core.Related
import Holabrain.Core.Scanning
import Holabrain.Core.Letters
import Holabrain.Cloud.Json
import Holabrain.Cloud.Errors
import Holabrain.Cloud.Number
import Holabrain.Cloud.Transport
import Holabrain.Cloud.Auth
import Holabrain.Cloud.Cooldown
import Holabrain.Cloud.Refusals
import Holabrain.Cloud.RefusedTokens
import Holabrain.Cloud.Device
import Holabrain.Cloud.PushFold
import Holabrain.Cloud.Capability
import Holabrain.Cloud.CapabilityCache
import Holabrain.Cloud.Presence
import Holabrain.Cloud.Bitfield
import Holabrain.Cloud.Resolvers
import Holabrain.Cloud.Catalog
import Holabrain.Registry.Conditions
import Holabrain.Registry.Spec
import Holabrain.Registry.Steadiness
import Holabrain.Registry.Tables
import Holabrain.Registry.ReferencedKeys
import Holabrain.Registry.Kleene
import Holabrain.Coordinator.World
import Holabrain.Coordinator.Capabilities
import Holabrain.Coordinator.ResolverChain
import Holabrain.Coordinator.Refresh
import Holabrain.Coordinator.IdempotentRefresh
import Holabrain.Coordinator.DictionaryOutage
import Holabrain.Coordinator.Provenance
import Holabrain.Coordinator.TruncatedStatus
import Holabrain.Coordinator.LazyAbsorption
import Holabrain.Coordinator.Inventory
import Holabrain.Coordinator.UnknownInventory
import Holabrain.Coordinator.Update
import Holabrain.Coordinator.Push
import Holabrain.Coordinator.Interleaving
import Holabrain.Coordinator.Topics
import Holabrain.Coordinator.LostUpdates
import Holabrain.Coordinator.RequestBudget
import Holabrain.Coordinator.UpdateBlocks
import Holabrain.Coordinator.FetchedFigures
import Holabrain.Coordinator.Snapshots
import Holabrain.Cloud.RefusedRetry
import Holabrain.Cloud.RetryContract
import Holabrain.Cloud.ExpiryBudget
import Holabrain.Cloud.StatusShapes
import Holabrain.Cloud.CatalogOrder
import Holabrain.Cloud.Announcement
import Holabrain.Coordinator.SessionLoss
import Holabrain.Coordinator.Coverage
import Holabrain.Coordinator.OutageCount
import Holabrain.Entity.Gate
import Holabrain.Entity.Controls
import Holabrain.Entity.Readings
import Holabrain.Entity.Native
import Holabrain.Entity.Dishwasher
import Holabrain.Entity.Composer
import Holabrain.Entity.OfferedCodes
import Holabrain.Entity.Oven
import Holabrain.Entity.WriteGuard
import Holabrain.Entity.Modelled
import Holabrain.Entity.FailOpen
import Holabrain.Entity.Footprint
import Holabrain.Entity.Completeness
import Holabrain.Entity.DraftLifecycle
import Holabrain.Entity.CookLimits
import Holabrain.Entity.Discovery
import Holabrain.Entity.GatingTokens
import Holabrain.Coordinator.InventoryRecords
import Holabrain.Cloud.Dictionary
import Holabrain.Core.Numerals
import Holabrain.Coordinator.CapabilityDictionary
import Holabrain.Coordinator.Claiming
import Holabrain.Coordinator.MachineState
import Holabrain.Entity.Overflows
import Holabrain.Core.Rounding
import Holabrain.Core.Runs
import Holabrain.Core.FirstSeen
import Holabrain.Cloud.Statistics
import Holabrain.Cloud.Redact
import Holabrain.Entity.ColorTemperature
import Holabrain.Core.SortedPrefix
import Holabrain.Entity.UnmappedKeys
import Holabrain.Cloud.Printed
import Holabrain.Entity.ReadBack
import Holabrain.Core.Base64
import Holabrain.Core.Throws
import Holabrain.Cloud.TokenExpiry
import Holabrain.Coordinator.TokenExtension
import Holabrain.Core.JoinedNames
import Holabrain.Entity.UniqueIds
import Holabrain.Core.Ledger
import Holabrain.Coordinator.RepairIssues
import Holabrain.Core.Layers
import Holabrain.Core.Suspensions
import Holabrain.Cloud.SessionStore
import Holabrain.Cloud.StoredManager
import Holabrain.Cloud.SessionAgreement
import Holabrain.Cloud.PushClient
import Holabrain.Core.Obligations
import Holabrain.Coordinator.ProfileLoading
import Holabrain.Coordinator.IssueRuns
import Holabrain.Coordinator.PushTopics
import Holabrain.Integration.Panel
import Holabrain.Integration.Accounts
import Holabrain.Coordinator.ProfileStore
import Holabrain.Coordinator.ProfileRestart
import Holabrain.Cloud.Literals
import Holabrain.Cloud.JsonText
import Holabrain.Cloud.IssuedToken
import Holabrain.Coordinator.PushFrames
