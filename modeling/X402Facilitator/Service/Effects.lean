import X402Facilitator.Evm.Receipt
import X402Facilitator.Evm.Verification
import X402Facilitator.Lib.Program
import X402Facilitator.Near.Verification
import X402Facilitator.Store.Operations

/-!
# What the service does to the world

A task of the service is a program over the operations of this module: one statement on the shared
database, one load or store of a readiness gate, acquiring or releasing the relayer lock, spawning
another task, answering a request, and one call to anything outside the model. A process can be
interrupted between any two operations.

The answers of an outside call are arbitrary values of its type: RPC nodes may be wrong, late or
unavailable, requests may hold anything. Assumptions about them are hypotheses of the theorems that
need them.
-/

namespace X402Facilitator

/-! ## Chain-neutral values -/

structure VerifyRejection where
  reason : String
  rpcAmbiguous : Bool
deriving DecidableEq

inductive VerifiedDetail where
  | near (payment : NearVerifiedPayment)
  | evm (payment : EvmVerifiedPayment)
deriving DecidableEq

structure Requirements where
  network : String
  asset : String
  payTo : String
  amountDecimal : Nat
deriving DecidableEq

structure VerifiedPayment where
  payer : String
  paymentHash : Hash32
  requirements : Requirements
  detail : VerifiedDetail
deriving DecidableEq

structure SignerHead where
  chainBlockHeight : Nat
  chainBlockRef : String
  signerNonce : Nat
  signerId : String
  signerPublicKey : String
  signerBalanceAtomic : Nat
deriving DecidableEq

inductive PreparedDetail where
  | near (prepared : PreparedTransaction)
  | evm (prepared : EvmPrepared)
deriving DecidableEq

structure Prepared where
  submitBytes : Bytes
  submitHash : String
  signerId : String
  signerPublicKey : String
  signerNonce : Nat
  detail : PreparedDetail
deriving DecidableEq

inductive RecoveryPolicy where
  | nearFinality
  | evmConfirmations (required : Nat)
deriving DecidableEq

structure DurableSubmission where
  submitter : String
  nonce : Nat
  bytes : Bytes
  hash : String
  recoveryPolicy : RecoveryPolicy
deriving DecidableEq

structure TerminalOutcome where
  success : Bool
  txHash : String
  feeAtomic : Nat
  gasUnits : Nat
  failureDetail : Option String
  minedBlockNumber : Option Nat
  minedBlockHash : Option String
  confirmations : Option Nat
deriving DecidableEq

inductive BroadcastOutcome where
  | terminal (outcome : TerminalOutcome)
  | rejected (reason : String)
  | pending
deriving DecidableEq

inductive ReconcileVerdict where
  | terminal (outcome : TerminalOutcome)
  | indeterminate (reason : String)
  | pending
  | unknown
  | conflict
  | ambiguous
deriving DecidableEq

/-! ## Requests and responses -/

/-- The authenticated client, as far as settlement reads it. -/
structure ApiClient where
  id : Uuid
  dailyBudgetYoctoNear : Nat
deriving DecidableEq

structure Response where
  status : Nat
  body : Bytes
  retryAfter : Bool

structure SettleResponse where
  success : Bool
  errorReason : Option String
  errorMessage : Option String
  payer : Option String
  transaction : String
  network : String
deriving DecidableEq

namespace SettleResponse

/-- `SettleResponse::success`. -/
def succeeded (payer transaction network : String) : SettleResponse where
  success := true
  errorReason := none
  errorMessage := none
  payer := some payer
  transaction := transaction
  network := network

/-- `SettleResponse::failure`. -/
def failure (reason : String) (message payer : Option String) (transaction network : String) :
    SettleResponse where
  success := false
  errorReason := some reason
  errorMessage := message
  payer := payer
  transaction := transaction
  network := network

/-- The serialized object; absent members are skipped. -/
def toJson (response : SettleResponse) : Json :=
  let text (key : String) (value : Option String) : List (String × Json) :=
    (value.map fun s => (key, .string s)).toList
  .object ([("success", .bool response.success)] ++ text "errorReason" response.errorReason ++
    text "errorMessage" response.errorMessage ++ text "payer" response.payer ++
    [("transaction", .string response.transaction), ("network", .string response.network)])

/-- `serde_json::to_vec`. -/
def bytes (response : SettleResponse) : Bytes := response.toJson.toBytes

end SettleResponse

/-! ## Outside calls -/

inductive Reader where
  | primary
  | backup
deriving DecidableEq

inductive AccessKeyPermission where
  | fullAccess
  | functionCall
  | gasKeyFunctionCall
  | gasKeyFullAccess
deriving DecidableEq

/-- The access key of a payer. -/
structure PayerKeyView where
  nonce : Nat
  permission : AccessKeyPermission
deriving DecidableEq

/-- A call that something outside the model answers. `nearContract` asks whether an account has a
contract, `nearViewCall` for the JSON value that a view method returns about an account. -/
inductive Query where
  | nearFinalBlock (reader : Reader)
  | nearAccessKey (reader : Reader) (block : CryptoHash) (account : AccountId) (publicKey : String)
  | nearAccount (block : CryptoHash) (account : AccountId)
  | nearNetworkId (reader : Reader)
  | nearTransaction (reader : Reader) (hash : CryptoHash) (signer : AccountId)
  | nearSend (signed : SignedTransaction)
  | nearPayerKey (block : CryptoHash) (account : AccountId) (publicKey : String)
  | nearContract (block : CryptoHash) (account : AccountId)
  | nearViewCall (block : CryptoHash) (contract : AccountId) (method : String) (account : AccountId)
  | evmEndpointHead (reader : Reader) (signer : Address)
  | evmBlockHead (reader : Reader)
  | evmReceipt (reader : Reader) (hash : Hash32)
  | evmTransaction (reader : Reader) (hash : Hash32)
  | evmFees (reader : Reader)
  | evmL1Fee (reader : Reader) (bytes : Bytes)
  | evmSend (bytes : Bytes)
  | evmVerify (payload : Eip3009Payload) (requirements : ExactRequirements)
  | facilitatorVerify (request : Json)
  | authenticate
  | rateCheck (client : Uuid)
  | readBody
  | payeeAllowed (client : Uuid) (network asset payTo : String)
  | utcToday
  | newUuid
  | leadershipConnect
  | tryAdvisoryLock
  | heartbeat
  | shutdownRequested

/-- What the leadership heartbeat reports. -/
inductive Heartbeat where
  | alive
  | lost
  | shutdown
deriving DecidableEq

/-- The type of the answer. -/
@[reducible]
def Query.Answer : Query → Type
  | nearFinalBlock _ => Except NearRpcError FinalBlock
  | nearAccessKey .. => Except NearRpcError AccessKeyView
  | nearAccount .. => Except NearRpcError Nat
  | nearNetworkId _ => Except NearRpcError String
  | nearTransaction .. => Except NearRpcError TransactionLookup
  | nearSend _ => Except NearRpcError TransactionLookup
  | nearPayerKey .. => Except NearRpcError PayerKeyView
  | nearContract .. => Except NearRpcError Bool
  | nearViewCall .. => Except NearRpcError (Option Json)
  | evmEndpointHead .. => Except EvmRpcError EndpointHead
  | evmBlockHead _ => Except EvmRpcError (Nat × Nat)
  | evmReceipt .. => Except EvmRpcError (Option Json)
  | evmTransaction .. => Except EvmRpcError (Option Json)
  | evmFees _ => Except EvmRpcError FeeEstimate
  | evmL1Fee .. => Except EvmRpcError Nat
  | evmSend _ => Except EvmRpcError Unit
  | evmVerify .. => Except EvmFacilitatorError EvmVerifyResponse
  | facilitatorVerify _ => Option Json
  | authenticate => Except Response ApiClient
  | rateCheck _ => Bool
  | readBody => Except Response (Option Json)
  | payeeAllowed .. => Except StoreError Bool
  | utcToday => Day
  | newUuid => Uuid
  | leadershipConnect => Bool
  | tryAdvisoryLock => Except Unit Bool
  | heartbeat => Heartbeat
  | shutdownRequested => Bool

/-! ## Operations -/

/-- The gates of `ReadinessState` that settlement reads. -/
inductive Gate where
  | leadership
  | reconciliation
  | rpc
  | relayer
deriving DecidableEq

/-- A task of a process. Loops are unrolled `fuel` times, with any `fuel`: the run of a loop up to a
given moment is a run of some unrolling. -/
inductive ServiceTask where
  /-- `main`, up to serving requests. -/
  | startup (fuel : Nat)
  | leadership (fuel : Nat)
  /-- The reconciliation loop of `main`. -/
  | reconciliation (fuel : Nat)
  | readinessMonitor (fuel : Nat)
  | settle (fuel : Nat)
  | settlementWorker (settlementId : Uuid) (request : Json)
  /-- The `reconcile` command of the admin binary. -/
  | reconcileCommand (fuel : Nat)

inductive Op where
  | store (op : StoreOp)
  | loadGate (gate : Gate)
  | storeGate (gate : Gate) (ready : Bool)
  | lockRelayer
  | unlockRelayer
  | spawn (task : ServiceTask)
  | respond (response : Response)
  | ask (query : Query)

@[reducible]
def Op.Answer : Op → Type
  | store op => Except StoreError op.Reply
  | loadGate _ => Bool
  | ask query => query.Answer
  | storeGate .. | lockRelayer | unlockRelayer | spawn _ | respond _ => Unit

/-- A program of the service. -/
abbrev Service := Program Op.Answer

namespace Service

def store (op : StoreOp) : Service (Except StoreError op.Reply) := Program.perform (Op.store op)

def ask (query : Query) : Service query.Answer := Program.perform (Op.ask query)

def loadGate (gate : Gate) : Service Bool := Program.perform (Op.loadGate gate)

def storeGate (gate : Gate) (ready : Bool) : Service Unit := Program.perform (Op.storeGate gate ready)

def lockRelayer : Service Unit := Program.perform Op.lockRelayer

def unlockRelayer : Service Unit := Program.perform Op.unlockRelayer

def spawn (task : ServiceTask) : Service Unit := Program.perform (Op.spawn task)

def respond (response : Response) : Service Unit := Program.perform (Op.respond response)

/-- `?`: continue with the value, or return the error. -/
def andThen {ε α β : Type} (x : Except ε α) (f : α → Service (Except ε β)) :
    Service (Except ε β) :=
  match x with
  | .ok a => f a
  | .error e => return .error e

end Service

/-! ## Readiness -/

open Service

def setLeadership (ready : Bool) : Service Unit := do
  storeGate .leadership ready
  if ¬ ready then storeGate .reconciliation false

def setReconciliation (ready : Bool) : Service Unit := storeGate .reconciliation ready

def setRpc (ready : Bool) : Service Unit := storeGate .rpc ready

def setRelayerGate (ready : Bool) : Service Unit := storeGate .relayer ready

structure ReadinessSnapshot where
  leadership : Bool
  reconciliation : Bool
  rpc : Bool
  relayer : Bool

def snapshot : Service ReadinessSnapshot := do
  let leadership ← loadGate .leadership
  let reconciliation ← loadGate .reconciliation
  let rpc ← loadGate .rpc
  let relayer ← loadGate .relayer
  return ⟨leadership, reconciliation, rpc, relayer⟩

def canSettle : Service Bool := do
  let s ← snapshot
  return s.leadership && s.reconciliation && s.rpc && s.relayer

def canReconciliationBroadcast : Service Bool := do
  let s ← snapshot
  return s.leadership && s.rpc && s.relayer

/-- `retry_transient` and `retry_while_transient`: one attempt and at most two more. -/
def retryWhileTransient {α : Type} (call : Service α) (transient : α → Bool) : Service α := do
  let first ← call
  if ¬ transient first then return first
  let second ← call
  if ¬ transient second then return second
  call

end X402Facilitator
