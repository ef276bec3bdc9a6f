import Boxplot.Lib.Async
import Boxplot.Domain.Mutation
import Boxplot.Remote.Errors
import Boxplot.Outbox.Calls
import Boxplot.Outbox.MutationRunner
import Boxplot.Outbox.Outbox
import Boxplot.Lib.Ledger
import Boxplot.Outbox.SendContract
import Boxplot.Outbox.AtMostOnce
import Boxplot.Lib.Interleaving
import Boxplot.Outbox.Sealed
import Boxplot.Outbox.Twins
import Boxplot.Outbox.Encrypted
import Boxplot.Lib.Conn
import Boxplot.Net.Dto
import Boxplot.Net.Message
import Boxplot.Net.Smtp
import Boxplot.Net.SmtpOutcome
import Boxplot.Remote.ImapIds
import Boxplot.Remote.Native
import Boxplot.Remote.NativeOutcome
import Boxplot.Jmap.Mail
import Boxplot.Remote.Jmap
import Boxplot.Remote.JmapOutcome
import Boxplot.Jmap.EmailSet
import Boxplot.Remote.JmapEffect
import Boxplot.Domain.Email
import Boxplot.Lib.OrderedMap
import Boxplot.Remote.Collections
import Boxplot.Sync.Port
import Boxplot.Memory.SyncPort
import Boxplot.Sync.Coordinator
import Boxplot.Memory.Effects
import Boxplot.Sync.MailWorld
import Boxplot.Sync.ReconcileContract
import Boxplot.Sync.Reconcile
import Boxplot.Sync.Mirror
import Boxplot.Lib.Serde
import Boxplot.Net.Wire
import Boxplot.Remote.Ipc
import Boxplot.Remote.WireAgreement
import Boxplot.Remote.ImapReconciler
import Boxplot.Bootstrap.Profile
import Boxplot.Bootstrap.Startup
import Boxplot.Bootstrap.Effects
import Boxplot.Bootstrap.ReadyCache
import Boxplot.Bootstrap.CrashRecovery
import Boxplot.Db.Migrations
import Boxplot.Db.CrashAtomicity
import Boxplot.Lib.Sql
import Boxplot.E2ee.Crypto
import Boxplot.E2ee.Authenticity
import Boxplot.Lib.Base64
import Boxplot.E2ee.Service
import Boxplot.Jmap.Reads
import Boxplot.Remote.JmapRemoteMail
import Boxplot.Remote.JmapServer
import Boxplot.Remote.JmapSnapshot
import Boxplot.Remote.JmapTotals
import Boxplot.Remote.JmapDelta
import Boxplot.Lib.BufReader
import Boxplot.Net.ImapCommand
import Boxplot.Net.ImapFraming
import Boxplot.Net.ImapMutation
import Boxplot.Net.Runtime
import Boxplot.App.BodyCapability
import Boxplot.App.Lifecycle
import Boxplot.App.Ownership
import Boxplot.App.SessionRuns
import Boxplot.App.Coherence
import Boxplot.App.CoherenceRuns
import Boxplot.Net.ImapResponses
import Boxplot.Net.ImapServer
import Boxplot.Net.ImapConsistency
import Boxplot.Remote.ImapSync
import Boxplot.Remote.ImapAccountSnapshot
import Boxplot.Lib.Table
import Boxplot.Persistence.Codecs
import Boxplot.Persistence.Engine
import Boxplot.Persistence.Journal
import Boxplot.Persistence.Faithful
import Boxplot.Persistence.FaithfulWrites
import Boxplot.Persistence.Reads
import Boxplot.Domain.Factories
import Boxplot.Ipc.Codecs
import Boxplot.Ipc.MutationRules
import Boxplot.Ipc.MutationDecoding
import Boxplot.Ipc.MutationAgreement
import Boxplot.Ipc.MutationTransitions
import Boxplot.Ipc.RustTransitions
import Boxplot.Persistence.Index
import Boxplot.Persistence.IndexRuns
import Boxplot.Outbox.Stranded
import Boxplot.Remote.JmapMethodErrors
import Boxplot.Domain.Cached
import Boxplot.Memory.Engine
import Boxplot.Memory.Announced
import Boxplot.Net.Mime
import Boxplot.Net.Rendering
import Boxplot.E2ee.Adapter
import Boxplot.E2ee.Transport
import Boxplot.E2ee.Delivery
import Boxplot.Lib.Turns
import Boxplot.Worker.Runtime
import Boxplot.Worker.Effects
import Boxplot.Worker.Requests
import Boxplot.Worker.Protocol
import Boxplot.Lib.Chain
import Boxplot.Lib.Utf8
import Boxplot.Lib.Lines
import Boxplot.Lib.Quoting
import Boxplot.Persistence.Writes
import Boxplot.Persistence.Catalog
import Boxplot.Net.MimeReader
import Boxplot.Net.MimeStructure
import Boxplot.Net.DotStuffing
import Boxplot.Net.MessageIdHeader
import Boxplot.Net.MessageIdSearch
import Boxplot.Net.MailboxNames
import Boxplot.Remote.MessageIds
import Boxplot.Lib.MaximalRuns
import Boxplot.Domain.ViewShape
import Boxplot.Persistence.ViewRules
import Boxplot.Ipc.Views
import Boxplot.Remote.JmapProgress
import Boxplot.Sync.Views
import Boxplot.Remote.JmapViews
import Boxplot.Lib.AddressTokens
import Boxplot.Lib.EncodedWord
import Boxplot.Lib.Spans
import Boxplot.Lib.AddressList
import Boxplot.Lib.MailPath
import Boxplot.Net.AddressFields
import Boxplot.Net.Envelope
import Boxplot.Net.StatusNumbers
import Boxplot.Net.InternalDate
import Boxplot.Remote.ImapIdCodec
import Boxplot.App.CredentialRef
import Boxplot.Lib.Sessions
import Boxplot.E2ee.KeyStore
import Boxplot.E2ee.Wiping
import Boxplot.E2ee.LocalIdentity
import Boxplot.Jmap.Normalizers
import Boxplot.Lib.Search
import Boxplot.Security.Sanitizer
import Boxplot.Security.SafeLinks
import Boxplot.Security.SafeDocuments
import Boxplot.Lib.HeaderText
import Boxplot.Net.Subject
import Boxplot.Lib.Hex
import Boxplot.Security.DekCodec
import Boxplot.Lib.CodeUnits
import Boxplot.Lib.Entities
import Boxplot.Lib.LengthPrefixed
import Boxplot.Memory.Keys
import Boxplot.Lib.Tickets
import Boxplot.App.MutationStatus
import Boxplot.App.MutationRuns
import Boxplot.Outbox.Confirmed
import Boxplot.App.Confirmations
import Boxplot.Lib.Sorting
import Boxplot.Remote.ImapOrder
import Boxplot.Engines.Guarantees
import Boxplot.App.WindowRuns
import Boxplot.App.Connections
import Boxplot.Lib.Replica
import Boxplot.Sync.Carried
import Boxplot.Sync.Convergence
import Boxplot.Lib.Calls
import Boxplot.Worker.Bridge
import Boxplot.Worker.BridgeRuns
