import X402Facilitator.System.Knowledge

/-!
# Evidence

Which operations of the service touch money or decide a payment, and what a thread must have seen
before it issues one. `Justified` is the guarantee that all programs of the service obey:

* bytes go to an RPC node only when the thread knows them as the submission of a row that has been
  marked submitted, and has read the signer's entry as active since it last quarantined it; recovery
  has also checked that nobody knows the transaction and that the signer can still pay for it;
* a row is made `succeeded` only on a success of the row's own transaction, and `failed` only on its
  definitive failure, its rejection or its expiry, or by a worker that has prepared nothing yet; an
  EVM row only at the depth that the journal requires, and on a cost above its reservation only after
  the signer has been quarantined;
* a row is claimed or resumed only for a request that was admitted and verified, and what is
  journaled as prepared carries the verified payment, signed with the process's own key under the
  hash, the key and the nonce of the entry, and is covered by the configured reservation;
* the signer is quarantined, and a confirmation depth raised, only by the tasks that take the relayer
  lock;
* a worker is started only for a row that its own process has claimed or resumed, and the leadership
  task only by the main task of a process; no other task writes the leadership gate;
* the reconciliation gate is opened only by recovery, after it read the journal without an open row.
-/

namespace X402Facilitator

open Program

section
variable [NearPrimitives] [EvmPrimitives]

/-! ## Outcomes on NEAR -/

/-- A reader, or the node that took the transaction, returned this final outcome. -/
def SawFinal (h : History Op.Answer) (hash : CryptoHash) (outcome : FinalExecutionOutcomeView) :
    Prop :=
  (∃ reader signer, Asked h (.nearTransaction reader hash signer) (.ok (.final outcome))) ∨
    ∃ signed, Asked h (.nearSend signed) (.ok (.final outcome))

/-- A final outcome of the row's own transaction. -/
structure SawOwnFinal (h : History Op.Answer) (r : Settlement) (hash : CryptoHash)
    (relayer payer asset : AccountId) (outcome : FinalExecutionOutcomeView) : Prop where
  seen : SawFinal h hash outcome
  identifies : outcome.Identifies hash relayer payer
  hash : ∃ text, r.outerTransactionHash = some text ∧ parseHash text = some hash
  relayer : r.relayerAccountId = some relayer.text
  payer : r.payer = payer.text
  asset : eqIgnoreAsciiCase r.asset asset.text

/-! ## Outcomes on EVM -/

/-- Both readers returned a receipt with these facts. -/
def SawReceipts (h : History Op.Answer) (hash : Hash32) (facts : ReceiptFacts) : Prop :=
  ∀ reader, ∃ value, Asked h (.evmReceipt reader hash) (.ok value) ∧
    parseRawReceipt hash value = .ok (.mined facts)

/-- Both readers are on the chain, and the lower of their heads is `headBlock`. -/
def SawHead (h : History Op.Answer) (chainId headBlock : Nat) : Prop :=
  ∃ primary backup, Asked h (.evmBlockHead .primary) (.ok (chainId, primary)) ∧
    Asked h (.evmBlockHead .backup) (.ok (chainId, backup)) ∧ headBlock = min primary backup

/-- Both readers returned the receipt, then the head, then the same receipt again. -/
def SawConfirmed (h : History Op.Answer) (hash : Hash32) (facts : ReceiptFacts)
    (chainId headBlock : Nat) : Prop :=
  ∃ later middle earlier rest, h = later ++ (middle ++ (earlier ++ rest)) ∧
    SawReceipts earlier hash facts ∧ SawHead middle chainId headBlock ∧
    SawReceipts later hash facts

/-- The depth of a block under a head. -/
def depthUnder (facts : ReceiptFacts) (headBlock : Nat) : Nat :=
  min (headBlock - facts.blockNumber + 1) (2 ^ 64 - 1)

/-- A confirmed receipt of the row's own transaction. -/
structure SawOwnReceipt (h : History Op.Answer) (r : Settlement) (hash : Hash32)
    (facts : ReceiptFacts) (chainId headBlock : Nat) : Prop where
  seen : SawConfirmed h hash facts chainId headBlock
  hash : ∃ text, r.submittedTxHash = some text ∧ parseB256 text = some hash
  signed : r.submittedTxRlp.isSome
  block : facts.blockNumber ≤ headBlock

/-! ## Terminal rows -/

/-- The success of the row's own transaction, as the entry reports it. -/
inductive SawSuccess (state : AppState) (h : History Op.Answer) (r : Settlement)
    (entry : TerminalJournalEntry) : Prop
  | near {relayer : NearProvider} {hash : CryptoHash} {payer asset : AccountId}
      {outcome : FinalExecutionOutcomeView} (hprovider : state.provider = .near relayer)
      (hfinal : SawOwnFinal h r hash relayer.accountId payer asset outcome)
      (htransfer : outcome.TransferSucceeded payer asset)
      (hbody : entry.responseBytes =
        (SettleResponse.succeeded r.payer (hashText hash) state.config.network).bytes)
  | evm {provider : EvmProvider} {hash : Hash32} {facts : ReceiptFacts} {headBlock : Nat}
      (hprovider : state.provider = .evm provider)
      (hreceipt : SawOwnReceipt h r hash facts provider.chainId headBlock)
      (hsuccess : facts.success = true)
      (hdepth : entry.confirmations = toI32 (depthUnder facts headBlock))
      (hbody : entry.responseBytes =
        (SettleResponse.succeeded r.payer (b256Text hash) state.config.network).bytes)

/-- Both readers answered, before the thread gave up on the row: the transaction is unknown, the
relayer's nonce has not reached the prepared one, and the delegate action has expired. -/
structure SawExpired (h : History Op.Answer) (r : Settlement) (relayer : NearProvider) :
    Prop where
  account : r.relayerAccountId = some relayer.accountId.text
  publicKey : r.relayerPublicKey = some relayer.publicKey
  unknown : ∃ text hash signer, r.outerTransactionHash = some text ∧ parseHash text = some hash ∧
    ∀ reader, ∃ answer, Asked h (.nearTransaction reader hash signer) answer ∧
      nearLookupUnknown answer = true
  nonce : ∃ nonce, r.relayerNonce = some nonce ∧ ∀ reader, ∃ block n,
    Asked h (.nearAccessKey reader block relayer.accountId relayer.publicKey) (.ok ⟨n, true⟩) ∧
      n < nonce
  expired : ∃ expiry, r.delegateMaxBlockHeight = some expiry ∧ ∃ reader block,
    Asked h (.nearFinalBlock reader) (.ok block) ∧ expiry ≤ block.height

/-- Evidence that the row's own transaction failed, was rejected or can no longer execute. -/
inductive SawFailure (state : AppState) (h : History Op.Answer) (r : Settlement) : Prop
  | definitive {relayer : NearProvider} {hash : CryptoHash} {payer asset : AccountId}
      {outcome : FinalExecutionOutcomeView} {error : ReceiptValidationError}
      (hprovider : state.provider = .near relayer)
      (hfinal : SawOwnFinal h r hash relayer.accountId payer asset outcome)
      (herror : interpretFinalOutcome outcome payer asset = .error error)
      (hdefinitive : error.isDefinitiveFailure = true)
  | reverted {provider : EvmProvider} {hash : Hash32} {facts : ReceiptFacts} {headBlock : Nat}
      {minimum required : Int} (hprovider : state.provider = .evm provider)
      (hreceipt : SawOwnReceipt h r hash facts provider.chainId headBlock)
      (hreverted : facts.success = false)
      (hrequired : Stored h (.raiseConfirmations r.id minimum) (some required))
      (hdepth : required ≤ depthUnder facts headBlock)
  | rejected {bytes : Bytes} {signed : SignedTransaction}
      (hbytes : r.outerTransactionBytes = some bytes)
      (hdecode : decodeSignedTransaction bytes = .ok signed)
      (hrejected : Asked h (.nearSend signed) (.error .transactionRejected))
  | expired {relayer : NearProvider} (hprovider : state.provider = .near relayer)
      (hexpired : SawExpired h r relayer)

/-! ## The signer -/

/-- The reader returned this head: a final block, and the relayer's access key at that block. -/
def SawRelayerHead (h : History Op.Answer) (relayer : NearProvider) (reader : Reader)
    (head : RelayerHead) : Prop :=
  Asked h (.nearFinalBlock reader) (.ok ⟨head.blockHeight, head.blockHash⟩) ∧
    Asked h (.nearAccessKey reader head.blockHash relayer.accountId relayer.publicKey)
      (.ok ⟨head.accessKeyNonce, true⟩)

/-- Both endpoints reported this pending nonce, and the lower of their balances is `balance`. -/
def SawEndpoints (h : History Op.Answer) (provider : EvmProvider) (nonce balance : Nat) : Prop :=
  ∃ primary backup : EndpointHead,
    Asked h (.evmEndpointHead .primary provider.signerAddress) (.ok primary) ∧
      Asked h (.evmEndpointHead .backup provider.signerAddress) (.ok backup) ∧
      primary.pendingAccountNonce = nonce ∧ backup.pendingAccountNonce = nonce ∧
      balance = min primary.gasBalanceWei backup.gasBalanceWei

/-- Both readers answered that they do not know the NEAR transaction. -/
def SawUnknownNear (h : History Op.Answer) (hash : CryptoHash) (signer : AccountId) : Prop :=
  ∀ reader, ∃ answer, Asked h (.nearTransaction reader hash signer) answer ∧
    nearLookupUnknown answer = true

/-- Both readers have neither a receipt nor the EVM transaction itself. -/
def SawUnknownEvm (h : History Op.Answer) (hash : Hash32) : Prop :=
  ∀ reader, Asked h (.evmReceipt reader hash) (.ok none) ∧
    Asked h (.evmTransaction reader hash) (.ok none)

def Op.quarantines : Op → Bool
  | store (.quarantineRelayer ..) => true
  | _ => false

/-- The thread has read the signer's entry as active, and has not quarantined it since. -/
def Vetted (state : AppState) (h : History Op.Answer) : Prop :=
  ∃ later earlier,
    h = later ++ ⟨.store (.relayerIsActive state.relayerRow), .ok true⟩ :: earlier ∧
      ∀ e ∈ later, e.op.quarantines = false

def Op.looks : Op → Bool
  | loadGate _ => true
  | _ => false

/-- At its last look at the gates, the thread found those open that recovery needs to broadcast. -/
def SawGates (h : History Op.Answer) : Prop :=
  ∃ later earlier reconciliation,
    h = later ++ ⟨.loadGate .relayer, true⟩ :: ⟨.loadGate .rpc, true⟩ ::
      ⟨.loadGate .reconciliation, reconciliation⟩ :: ⟨.loadGate .leadership, true⟩ :: earlier ∧
      ∀ e ∈ later, e.op.looks = false

/-- The signer's nonce is past the one of the row, although just before both readers did not know the
row's transaction. -/
inductive SawAdvance (state : AppState) (h : History Op.Answer) (r : Settlement) : Prop
  | near {relayer : NearProvider} {hash : CryptoHash} {signer : AccountId} {nonce : Nat}
      {reader : Reader} {head : RelayerHead} {later earlier : History Op.Answer}
      (hprovider : state.provider = .near relayer)
      (hhash : ∃ text, r.outerTransactionHash = some text ∧ parseHash text = some hash)
      (hnonce : r.relayerNonce = some nonce) (hsplit : h = later ++ earlier)
      (hunknown : SawUnknownNear earlier hash signer)
      (hhead : SawRelayerHead later relayer reader head) (hadvanced : nonce ≤ head.accessKeyNonce)
  | evm {provider : EvmProvider} {hash : Hash32} {nonce observed balance : Nat}
      {later earlier : History Op.Answer} (hprovider : state.provider = .evm provider)
      (hhash : ∃ text, r.submittedTxHash = some text ∧ parseB256 text = some hash)
      (hnonce : r.signerAccountNonce = some nonce) (hsplit : h = later ++ earlier)
      (hunknown : SawUnknownEvm earlier hash) (hhead : SawEndpoints later provider observed balance)
      (hadvanced : nonce < observed)

/-- What recovery has checked about a row before it sends the bytes again. -/
inductive Rechecked (state : AppState) (h : History Op.Answer) (r : Settlement) : Prop
  | near {relayer : NearProvider} {hash : CryptoHash} {signer : AccountId} {nonce expiry : Nat}
      (hprovider : state.provider = .near relayer)
      (hhash : ∃ text, r.outerTransactionHash = some text ∧ parseHash text = some hash)
      (hunknown : SawUnknownNear h hash signer)
      (hfunded : ∃ block amount, Asked h (.nearAccount block relayer.accountId) (.ok amount) ∧
        signerIsFunded state.config amount = true)
      (hnonce : r.relayerNonce = some nonce) (hexpiry : r.delegateMaxBlockHeight = some expiry)
      -- The heads are read twice; the later ones are compared with the earlier ones by nonce only.
      (hheads : ∀ reader, ∃ later earlier first last, h = later ++ earlier ∧
        SawRelayerHead earlier relayer reader first ∧ SawRelayerHead later relayer reader last ∧
        first.blockHeight < expiry ∧ first.accessKeyNonce < nonce ∧
        last.accessKeyNonce = first.accessKeyNonce)
  | evm {provider : EvmProvider} {hash : Hash32} {nonce balance : Nat}
      (hprovider : state.provider = .evm provider)
      (hhash : ∃ text, r.submittedTxHash = some text ∧ parseB256 text = some hash)
      (hunknown : SawUnknownEvm h hash) (hnonce : r.signerAccountNonce = some nonce)
      (hhead : SawEndpoints h provider nonce balance)
      (hfunded : signerIsFunded state.config balance = true)
      (hcovered : requireEvmRecoveryBalance state r balance = .ok ())

def Op.prepares : Op → Bool
  | store (.markPrepared _) | store (.markPreparedEvm _) => true
  | _ => false

/-- The thread has tried to journal no signed bytes so far. -/
def NothingPrepared (h : History Op.Answer) : Prop :=
  ∀ e ∈ h, e.op.prepares = false

def ServiceTask.isWorker : ServiceTask → Bool
  | settlementWorker .. => true
  | _ => false

def ServiceTask.reconciles : ServiceTask → Bool
  | reconciliation _ | reconcileCommand _ => true
  | _ => false

def ServiceTask.leads : ServiceTask → Bool
  | leadership _ => true
  | _ => false

/-- The main task of a process. -/
def ServiceTask.isMain : ServiceTask → Bool
  | startup _ | reconcileCommand _ => true
  | _ => false

/-- What a thread has established about a row whose bytes it sends. -/
structure MaySend (role : Role) (h : History Op.Answer) (r : Settlement) : Prop where
  knows : Knows h r
  submitted : KnowsSubmitted h r
  vetted : Vetted role.state h
  task : role.task.isWorker = true ∨
    (role.task.reconciles = true ∧ SawGates h ∧ Rechecked role.state h r)

/-- What a thread must have seen before it quarantines a relayer. -/
structure QuarantineJustified (role : Role) (h : History Op.Answer) (key : RelayerKey)
    (reason : String) : Prop where
  task : role.task.isWorker = true ∨ role.task.reconciles = true
  key : key = role.state.relayerRow
  advanced : role.task.reconciles = true →
    reason ≠ "actual Base fee exceeded the sponsorship reservation" →
      ∃ r, Knows h r ∧ SawAdvance role.state h r

/-- One reader returned a final block at which the delegate action of the row had expired and the
relayer's nonce had not reached the row's; the row's bytes are those of its columns. -/
structure SawPassed (h : History Op.Answer) (r : Settlement) (relayer : NearProvider) : Prop where
  stored : ∃ bytes hash signer, r.outerTransactionBytes = some bytes ∧
    validateStoredTransaction r bytes hash signer = .ok ()
  account : r.relayerAccountId = some relayer.accountId.text
  publicKey : r.relayerPublicKey = some relayer.publicKey
  head : ∃ nonce expiry reader head, r.relayerNonce = some nonce ∧
    r.delegateMaxBlockHeight = some expiry ∧ SawRelayerHead h relayer reader head ∧
    expiry ≤ head.blockHeight ∧ head.accessKeyNonce < nonce

/-- Why a cost may be journaled with a row: it is within the reservation, or the signer has been
quarantined. A NEAR reservation is not compared. -/
inductive CostJustified (role : Role) (h : History Op.Answer) (r : Settlement) (burnt : Nat) : Prop
  | near (hnear : r.chainKind = .near ∨ r.relayerAccountId.isSome = true)
  | within (htask : role.task.reconciles = true) (hwithin : burnt ≤ r.reservedYoctoNear)
  | quarantined {provider : EvmProvider} {reason : String} {nonce : Nat}
      (hprovider : role.state.provider = .evm provider)
      (hsigner : r.signerAddress = some role.state.provider.signerAccountId)
      (hnetwork : r.network = role.state.config.network)
      (hstored : Stored h (.quarantineRelayer role.state.relayerRow reason nonce) ())

/-- The depth of an EVM transaction reaches what the journal requires of the row, which is at least
what the process is configured for and what the row was admitted under. -/
def DepthJustified (state : AppState) (h : History Op.Answer) (r : Settlement) (depth : Int) :
    Prop :=
  ∃ provider minimum required gasLimit maxFeePerGas admission, state.provider = .evm provider ∧
    toI32 provider.requiredConfirmations = some minimum ∧
    Stored h (.raiseConfirmations r.id minimum) (some required) ∧
    evmPolicySnapshot r = .ok (gasLimit, maxFeePerGas, admission) ∧
    (admission : Int) ≤ required ∧ required ≤ depth

/-- What a thread must have seen before it writes a terminal row. -/
structure TerminalJustified (role : Role) (h : History Op.Answer) (entry : TerminalJournalEntry) :
    Prop where
  succeeded : entry.state = .succeeded →
    ∃ r, Knows h r ∧ r.id = entry.settlementId ∧ SawSuccess role.state h r entry
  failed : entry.state = .failed → (role.task.isWorker = true ∧ NothingPrepared h) ∨
    ∃ r, Knows h r ∧ r.id = entry.settlementId ∧ SawFailure role.state h r
  expired : role.task.reconciles = true →
    entry.errorCode = some "invalid_exact_near_payload_delegate_action_expired" →
      ∃ r relayer, Knows h r ∧ r.id = entry.settlementId ∧
        role.state.provider = .near relayer ∧ SawPassed h r relayer
  cost : ∀ burnt, entry.tokensBurnt = some burnt → 0 < burnt →
    ∃ r, Knows h r ∧ r.id = entry.settlementId ∧ CostJustified role h r burnt
  depth : ∀ depth, entry.confirmations = some depth →
    ∃ r, Knows h r ∧ r.id = entry.settlementId ∧ DepthJustified role.state h r depth

/-! ## Admitted requests -/

/-- What the provider made of the request: the checks that need no node, with their results, the
answer of the upstream check, and a payment that says no more than they do. -/
inductive VerifiedFrom (h : History Op.Answer) (request : Json) (maxSponsoredGas : Nat) :
    ChainProvider → VerifiedPayment → Prop
  | near {relayer : NearProvider} {offline : OfflineVerified} {asset payTo : AccountId}
      {amount : Nat} (hoffline : verifyOffline relayer request maxSponsoredGas = .ok offline)
      (hasset : AccountId.parse offline.requirements.asset = some asset)
      (hpayTo : AccountId.parse offline.requirements.payTo = some payTo)
      (hamount : parseDecimal offline.requirements.amount = some amount) :
      VerifiedFrom h request maxSponsoredGas (.near relayer)
        (.ofNear (offline.payment asset payTo amount))
  | evm {provider : EvmProvider} {payload : Eip3009Payload} {requirements : ExactRequirements}
      {paymentHash : Hash32} {response : EvmVerifyResponse} {payment : EvmVerifiedPayment}
      (hrequest : eip3009Request provider request = .ok (payload, requirements))
      (hsignature : classifySignatureBeforeRpc payload.authorization payload.signature
        provider.transferDomain = .ok paymentHash)
      (hasked : Asked h (.evmVerify payload requirements) (.ok response))
      (hverified : evmVerified payload paymentHash response = .ok payment) :
      VerifiedFrom h request maxSponsoredGas (.evm provider) (.ofEvm provider payment)

/-- What identifies an admitted request in the journal. -/
def ParsedRequest.key (request : ParsedRequest) (client : ApiClient) (paymentHash : Hash32) :
    RequestKey :=
  ⟨client, request.metadata.paymentIdentifier, paymentHash,
    requestFingerprint request.value paymentHash⟩

/-- A request that `settle_inner` looks up: authenticated, parsed, within the static policy, and with
a payment identity. -/
structure Presented (state : AppState) (h : History Op.Answer) (client : ApiClient)
    (request : ParsedRequest) (paymentHash : Hash32) : Prop where
  authenticated : Asked h .authenticate (.ok client)
  parsed : ∃ body, Asked h .readBody (.ok body) ∧
    parseRequest body state.config.paymentIdentifier state.config.acceptV1 = .ok request
  static : staticFailureReason state.config request.metadata = none
  identity : paymentHashOf state request = .ok paymentHash

/-- A request that `settle_inner` claims or resumes a row for: its payee is allowed, and its payment
is verified. -/
structure Admitted (state : AppState) (h : History Op.Answer) (client : ApiClient)
    (request : ParsedRequest) (paymentHash : Hash32) (verified : VerifiedPayment) : Prop
    extends Presented state h client request paymentHash where
  allowed : Asked h (.payeeAllowed client.id request.metadata.network request.metadata.asset
    request.metadata.payTo) (.ok true)
  verifiedFrom : VerifiedFrom h request.raw state.config.maxInnerGas state.provider verified
  paymentHash_eq : verified.paymentHash = paymentHash

/-- A lookup returned the row as the one of the request with this identity. -/
def Found (h : History Op.Answer) (apiClientId : Uuid) (paymentIdentifier : Option String)
    (paymentHash requestFingerprint : Hash32) (record : Settlement) : Prop :=
  ∃ rows, Stored h (.selectExisting apiClientId paymentIdentifier paymentHash) rows ∧
    classifyExisting apiClientId paymentIdentifier paymentHash requestFingerprint rows =
      some (.existing record)

/-- What `settle_inner` claims. -/
def ClaimJustified (state : AppState) (h : History Op.Answer) (new : NewSettlement) : Prop :=
  ∃ id client request paymentHash verified,
    Admitted state h client request paymentHash verified ∧
      new = newSettlement state id request (request.key client paymentHash) verified

/-- What `settle_inner` resumes: the row of an admitted request, under the present policy. -/
def ResumeJustified (state : AppState) (h : History Op.Answer) (retry : RetryReservation) : Prop :=
  ∃ client request paymentHash verified record,
    Admitted state h client request paymentHash verified ∧
      Found h client.id request.metadata.paymentIdentifier paymentHash
        (requestFingerprint request.value paymentHash) record ∧
      retry = retryReservation state client record.id

/-- The thread has claimed or resumed the row for a request, and read it back. -/
inductive WorkerJustified (state : AppState) (h : History Op.Answer) (id : Uuid) : Prop
  | claimed {new : NewSettlement} {usageDate : Day} {r : Settlement}
      (hclaim : Stored h (.claimReservation new usageDate) ClaimReply.inserted)
      (hnew : ClaimJustified state h new) (hread : Stored h (.settlement new.id) (some r))
      (hid : r.id = id)
  | resumed {retry : RetryReservation} {usageDate : Day} {r : Settlement}
      (hresume : Stored h (.resumeReservation retry usageDate) ResumeReply.resumed)
      (hretry : ResumeJustified state h retry)
      (hread : Stored h (.settlement retry.settlementId) (some r)) (hid : r.id = id)

theorem VerifiedFrom.mono {h h' : History Op.Answer} (hsubset : h ⊆ h') {request : Json}
    {maxSponsoredGas : Nat} {provider : ChainProvider} {payment : VerifiedPayment}
    (hverified : VerifiedFrom h request maxSponsoredGas provider payment) :
    VerifiedFrom h' request maxSponsoredGas provider payment := by
  cases hverified with
  | near hoffline hasset hpayTo hamount => exact .near hoffline hasset hpayTo hamount
  | evm hrequest hsignature hasked hverified =>
    exact .evm hrequest hsignature (hsubset hasked) hverified

theorem Presented.mono {h h' : History Op.Answer} (hsubset : h ⊆ h') {state : AppState}
    {client : ApiClient} {request : ParsedRequest} {paymentHash : Hash32}
    (hpresented : Presented state h client request paymentHash) :
    Presented state h' client request paymentHash :=
  { hpresented with
    authenticated := hsubset hpresented.authenticated
    parsed := hpresented.parsed.imp fun _ hbody => ⟨hsubset hbody.1, hbody.2⟩ }

theorem Admitted.mono {h h' : History Op.Answer} (hsubset : h ⊆ h') {state : AppState}
    {client : ApiClient} {request : ParsedRequest} {paymentHash : Hash32}
    {verified : VerifiedPayment} (hadmitted : Admitted state h client request paymentHash verified) :
    Admitted state h' client request paymentHash verified :=
  { hadmitted.toPresented.mono hsubset with
    allowed := hsubset hadmitted.allowed
    verifiedFrom := hadmitted.verifiedFrom.mono hsubset
    paymentHash_eq := hadmitted.paymentHash_eq }

theorem ClaimJustified.mono {h h' : History Op.Answer} (hsubset : h ⊆ h') {state : AppState}
    {new : NewSettlement} (hnew : ClaimJustified state h new) : ClaimJustified state h' new := by
  obtain ⟨id, client, request, paymentHash, verified, hadmitted, rfl⟩ := hnew
  exact ⟨id, client, request, paymentHash, verified, hadmitted.mono hsubset, rfl⟩

omit [NearPrimitives] [EvmPrimitives] in
theorem Found.mono {h h' : History Op.Answer} (hsubset : h ⊆ h') {apiClientId : Uuid}
    {paymentIdentifier : Option String} {paymentHash requestFingerprint : Hash32}
    {record : Settlement}
    (hfound : Found h apiClientId paymentIdentifier paymentHash requestFingerprint record) :
    Found h' apiClientId paymentIdentifier paymentHash requestFingerprint record :=
  hfound.imp fun _ hrows => ⟨hsubset hrows.1, hrows.2⟩

theorem ResumeJustified.mono {h h' : History Op.Answer} (hsubset : h ⊆ h') {state : AppState}
    {retry : RetryReservation} (hretry : ResumeJustified state h retry) :
    ResumeJustified state h' retry := by
  obtain ⟨client, request, paymentHash, verified, record, hadmitted, hfound, rfl⟩ := hretry
  exact ⟨client, request, paymentHash, verified, record, hadmitted.mono hsubset,
    hfound.mono hsubset, rfl⟩

/-! ## Preparation -/

def ServiceTask.settles (id : Uuid) : ServiceTask → Prop
  | settlementWorker settlementId _ => settlementId = id
  | _ => False

/-- A worker has verified the payment of its request once more, and read the row as the reservation
of exactly this payment. -/
structure Confirmed (role : Role) (h : History Op.Answer) (id : Uuid) (payment : VerifiedPayment) :
    Prop where
  verified : ∃ request, role.task = .settlementWorker id request ∧
    VerifiedFrom h request role.state.config.maxInnerGas role.state.provider payment
  journaled : ∃ journaled, Stored h (.settlement id) (some journaled) ∧
    journaledMatches journaled payment = true

theorem Confirmed.settles {role : Role} {h : History Op.Answer} {id : Uuid}
    {payment : VerifiedPayment} (hconfirmed : Confirmed role h id payment) :
    role.task.settles id := by
  obtain ⟨request, htask, -⟩ := hconfirmed.verified
  rw [htask]
  rfl

theorem Confirmed.mono {role : Role} {h h' : History Op.Answer} (hsubset : h ⊆ h') {id : Uuid}
    {payment : VerifiedPayment} (hconfirmed : Confirmed role h id payment) :
    Confirmed role h' id payment where
  verified := hconfirmed.verified.imp fun _ hrequest => ⟨hrequest.1, hrequest.2.mono hsubset⟩
  journaled := hconfirmed.journaled.imp fun _ hread => ⟨hsubset hread.1, hread.2⟩

/-- The outer transaction of a journal entry carries the payment's delegate action, and is signed
for the relayer's own key with the nonce after the one that the primary reader reported. -/
structure SignedOuter (relayer : NearProvider) (payment : NearVerifiedPayment)
    (h : History Op.Answer) (entry : PreparedJournalEntry) : Prop where
  account : entry.relayerAccountId = relayer.accountId.text
  publicKey : entry.relayerPublicKey = relayer.publicKey
  nonce : ∃ block n, Asked h (.nearAccessKey .primary block relayer.accountId relayer.publicKey)
    (.ok ⟨n, true⟩) ∧ entry.relayerNonce = n + 1
  signed : ∃ (signed : SignedTransaction) (blockHash : CryptoHash),
    entry.transactionBytes = borsh signed ∧
      entry.transactionHash = hashText (transactionHash signed.transaction) ∧
      signed.transaction = outerTransaction relayer payment blockHash entry.relayerNonce

/-- The EVM transaction of a payment at a nonce, under the provider's fee policy. -/
def SignedTransfer (provider : EvmProvider) (payment : EvmVerifiedPayment) (nonce : Nat)
    (signedTxRlp : Bytes) (txHash : Hash32) : Prop :=
  ∃ calldata fees prepared,
    settlementCalldata payment.authorization payment.signature payment.paymentHash = .ok calldata ∧
      fees.Within provider.gasLimit provider.maxFeePerGas ∧
      signSettlementTransaction provider.secretKey provider.chainId nonce fees provider.asset
        calldata = .ok prepared ∧
      signedTxRlp = prepared.signedTxRlp ∧ txHash = prepared.txHash

/-- The transaction of an EVM journal entry transfers what the payment authorizes, under the
process's fee and confirmation policy, signed by its key. -/
structure SignedEvm (provider : EvmProvider) (payment : EvmVerifiedPayment)
    (entry : EvmPreparedJournalEntry) : Prop where
  signed : ∃ txHash, entry.submittedTxHash = b256Text txHash ∧
    SignedTransfer provider payment entry.signerAccountNonce entry.submittedTxRlp txHash
  nonce : entry.signerAccountNonce < 2 ^ 64
  confirmations : toI32 provider.requiredConfirmations = some entry.requiredConfirmations

/-- Both readers' estimates of the layer-one fee of the bytes have been read, and the reservation
covers the larger one on top of the configured gas. -/
def SawCovered (config : ServiceConfig) (h : History Op.Answer) (bytes : Bytes) : Prop :=
  ∃ primary backup, Asked h (.evmL1Fee .primary bytes) (.ok primary) ∧
    Asked h (.evmL1Fee .backup bytes) (.ok backup) ∧
    evmReservationCoversLiability config (max primary backup) = true

omit [NearPrimitives] in
theorem SignedEvm.signer {provider : EvmProvider} {payment : EvmVerifiedPayment}
    {entry : EvmPreparedJournalEntry} (hentry : SignedEvm provider payment entry) :
    signerOfBytes entry.submittedTxRlp = some provider.signerAddress := by
  obtain ⟨_, -, _, _, prepared, -, -, hsigned, hbytes, -⟩ := hentry.signed
  rw [hbytes]
  exact (signSettlementTransaction_ok hsigned).2.2

/-- The guarantee of the service, in terms of what the thread has done in the session. A session ends
where the thread takes or releases the relayer lock. -/
def Justified (role : Role) (h : History Op.Answer) : Op → Prop
  | .ask (.nearSend signed) => ∃ r bytes, MaySend role h r ∧
      r.outerTransactionBytes = some bytes ∧ decodeSignedTransaction bytes = .ok signed
  | .ask (.evmSend bytes) => ∃ r, MaySend role h r ∧ r.submittedTxRlp = some bytes
  | .store (.markTerminal entry) => TerminalJustified role h entry
  | .store (.markPrepared entry) => role.task.settles entry.settlementId ∧
      ∃ relayer payment, role.state.provider = .near relayer ∧
        Confirmed role h entry.settlementId (.ofNear payment) ∧ SignedOuter relayer payment h entry
  | .store (.markPreparedEvm entry) => role.task.settles entry.settlementId ∧
      ∃ provider payment, role.state.provider = .evm provider ∧
        Confirmed role h entry.settlementId (.ofEvm provider payment) ∧
        SignedEvm provider payment entry ∧ SawCovered role.state.config h entry.submittedTxRlp
  | .store (.raiseConfirmations _ minimum) => role.task.reconciles = true ∧
      ∃ provider, role.state.provider = .evm provider ∧
        toI32 provider.requiredConfirmations = some minimum
  | .store (.quarantineRelayer key reason _) => QuarantineJustified role h key reason
  | .store (.claimReservation new _) => ClaimJustified role.state h new
  | .store (.resumeReservation retry _) => ResumeJustified role.state h retry
  | .spawn (.settlementWorker id _) => WorkerJustified role.state h id
  | .spawn (.leadership _) => role.task.isMain = true
  | .spawn (.startup _) | .spawn (.reconcileCommand _) => False
  | .storeGate .leadership _ => role.task.leads = true
  | .storeGate .reconciliation true =>
      role.task.reconciles = true ∧ Stored h .nonterminalSettlements []
  | .lockRelayer | .unlockRelayer => False
  | _ => True

def Op.locks : Op → Bool
  | lockRelayer | unlockRelayer => true
  | _ => false

/-- What a thread has done since it took or released the relayer lock. -/
def session (h : History Op.Answer) : History Op.Answer :=
  h.takeWhile fun e => !e.op.locks

/-- Every operation is justified by the session it belongs to: nothing that a thread saw before it
took the lock counts. -/
def SessionJustified : World.Guarantee :=
  fun role h o => o.locks = true ∨ Justified role (session h) o

end

end X402Facilitator
