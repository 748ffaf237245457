import X402Facilitator.Lib.Concurrent
import X402Facilitator.Lib.FixedWindow
import X402Facilitator.Lib.Graph
import X402Facilitator.Lib.Program
import X402Facilitator.Lib.Run
import X402Facilitator.Lib.Table
import X402Facilitator.Lib.Text
import X402Facilitator.Lib.Canonical
import X402Facilitator.Lib.Document
import X402Facilitator.Lib.FormEncoding
import X402Facilitator.Near.Receipt
import X402Facilitator.Near.ReceiptGraph
import X402Facilitator.Near.Transaction
import X402Facilitator.Protocol.Request
import X402Facilitator.Protocol.Dialects
import X402Facilitator.Near.Verification
import X402Facilitator.Evm.Transaction
import X402Facilitator.Evm.Receipt
import X402Facilitator.Evm.Quantity
import X402Facilitator.Service.Config
import X402Facilitator.Service.Catalog
import X402Facilitator.Service.Discovery
import X402Facilitator.Service.Listing
import X402Facilitator.Store.ApiKeys
import X402Facilitator.Service.Auth
import X402Facilitator.Evm.Verification
import X402Facilitator.System.KeyLifecycle
import X402Facilitator.Service.Effects
import X402Facilitator.Service.Chain
import X402Facilitator.Service.Failures
import X402Facilitator.Service.RateLimiter
import X402Facilitator.Service.Readers
import X402Facilitator.Service.Journal
import X402Facilitator.Service.Worker
import X402Facilitator.Service.Recovery
import X402Facilitator.Service.Settle
import X402Facilitator.Service.Amounts
import X402Facilitator.Service.Process
import X402Facilitator.Service.Quiet
import X402Facilitator.System.World
import X402Facilitator.System.Runs
import X402Facilitator.System.Knowledge
import X402Facilitator.System.Evidence
import X402Facilitator.Store.Ledger
import X402Facilitator.Store.Lifecycle
import X402Facilitator.Store.Snapshot
import X402Facilitator.System.Observed
import X402Facilitator.System.WorkerEvidence
import X402Facilitator.System.RecoveryEvidence
import X402Facilitator.System.Discipline
import X402Facilitator.System.Rows
import X402Facilitator.System.Broadcast
import X402Facilitator.System.Outcome
import X402Facilitator.System.Phases
import X402Facilitator.System.Lock
import X402Facilitator.System.SingleFlight
import X402Facilitator.System.Leadership
import X402Facilitator.System.Gate
import X402Facilitator.System.Calls
import X402Facilitator.System.Claims
import X402Facilitator.System.Conflicts
import X402Facilitator.System.Budget
import X402Facilitator.System.Signer
import X402Facilitator.System.Origin
import X402Facilitator.System.Recognition
import X402Facilitator.System.NearRecognition
import X402Facilitator.System.Ambiguity
import X402Facilitator.System.Anchors
import X402Facilitator.System.Forwarding
import X402Facilitator.System.Expiry
import X402Facilitator.System.Quarantine
import X402Facilitator.System.Confirmations
import X402Facilitator.System.Liability
import X402Facilitator.System.Sponsorship
import X402Facilitator.System.Replay
import X402Facilitator.System.Rebroadcast
