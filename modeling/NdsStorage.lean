import NdsStorage.Server.Transfer
import NdsStorage.Server.SendQueue
import NdsStorage.Server.Acceptance
import NdsStorage.Server.FailedCompletions
import NdsStorage.Server.Threads
import NdsStorage.Client.CreditRuns
import NdsStorage.Client.CompletionRing
import NdsStorage.Client.SendProgress
import NdsStorage.Client.Completions
import NdsStorage.Client.Agreement
import NdsStorage.Client.BatchPrefix
import NdsStorage.Client.SlotLedger
import NdsStorage.Client.BatchTotals
import NdsStorage.Client.HostSubmission
import NdsStorage.Client.SignaledSends
import NdsStorage.Client.PendingWaits
import NdsStorage.Client.BatchLaunch
import NdsStorage.Client.ProviderPosts
import NdsStorage.Client.Opening
import NdsStorage.System.Handshake
import NdsStorage.Negotiation.Agreement
import NdsStorage.Negotiation.WireWords
import NdsStorage.Negotiation.Framing
import NdsStorage.Negotiation.ChannelCalls
import NdsStorage.Negotiation.CodecBytes
import NdsStorage.System.SynchronousClient
import NdsStorage.System.Verdict
import NdsStorage.System.TornRecord
import NdsStorage.System.Served
import NdsStorage.System.Freshness
import NdsStorage.System.AtomicNamespace
import NdsStorage.System.ReceiveWindow
import NdsStorage.System.WindowedClient
import NdsStorage.System.SlotTurns
import NdsStorage.Client.MemoryRuns
import NdsStorage.Client.ControlMemory
import NdsStorage.System.WindowCoverage
