import X402Facilitator.Service.Chain
import X402Facilitator.Service.Journal

/-!
# Settlement requests

`settle_inner`: from authentication to the claim or the resume of a dormant row, the wait for a
terminal row, and the translation of the response to the request's wire dialect. A deadline of the
source may pass at any moment: the wait is bounded by `fuel`, and the whole request can be cancelled
at every operation.
-/

namespace X402Facilitator

open Service

/-! ## Responses -/

def errorBody (code message : String) : Bytes :=
  (Json.object [("error", .object [("code", .string code), ("message", .string message)])]).toBytes

/-- `ApiError::new`. -/
def apiError (status : Nat) (code message : String) : Response :=
  ⟨status, errorBody code message, false⟩

/-- `ApiError::unavailable`. -/
def unavailable (code message : String) : Response :=
  ⟨503, errorBody code message, true⟩

/-- `ApiError::rate_limited`. -/
def rateLimited (code message : String) : Response :=
  ⟨429, errorBody code message, true⟩

def databaseUnavailable : Response :=
  unavailable "database_unavailable" "settlement journal is temporarily unavailable"

/-- `protocol_json(StatusCode::OK, _)`. -/
def protocolJson (response : SettleResponse) : Response :=
  ⟨200, response.bytes, false⟩

/-- `StatusCode::from_u16` accepts three-digit numbers. -/
def statusCode? (status : Nat) : Option Nat :=
  if 100 ≤ status ∧ status < 1000 then some status else none

def storedTerminalResponse (record : Settlement) : Response :=
  let status := (record.terminalHttpStatus.bind statusCode?).getD 503
  let body := record.terminalResponseBytes.getD
    (errorBody "journal_incomplete" "terminal settlement response is unavailable")
  ⟨status, body, status = 503⟩

def settlementRetryable : Response :=
  unavailable "settlement_retryable" "settlement can be retried with the same request"

def completedSettlementResponse (record : Settlement) : Response :=
  if record.state.isTerminal then storedTerminalResponse record else settlementRetryable

def settlementPending : Response :=
  unavailable "settlement_pending"
    "settlement is still pending; retry with the same payment identifier"

def settlementBusy : Response :=
  unavailable "settlement_busy" "the configured signer is settling another payment"

def budgetExhausted : Response :=
  rateLimited "sponsorship_budget_exhausted" "sponsorship budget is exhausted"

def identifierConflict : Response :=
  apiError 409 "payment_identifier_conflict"
    "payment identifier was already used for another request"

section
variable [NearPrimitives] [EvmPrimitives]

/-- A protocol failure without a transaction. -/
def settleFailure (state : AppState) (reason : String) (payer : Option String) : Response :=
  protocolJson (.failure reason none payer "" state.config.network)

def staticFailureReason (config : ServiceConfig) (metadata : RequestMeta) : Option String :=
  if metadata.x402Version ≠ 2 then some "invalid_x402_version"
  else if metadata.scheme ≠ "exact" then some "unsupported_scheme"
  else if metadata.network ≠ config.network then some "invalid_network"
  else if metadata.nearAssetTransferMethod.any (· ≠ .delegate) then
    some "unsupported_asset_transfer_method"
  else if ¬ configuredAssetMatches config.chainKind config.asset metadata.asset then
    some "invalid_asset"
  else if metadata.amount < config.minimumAmount then some "amount_below_minimum"
  else none

/-! ## Replays -/

/-- `wait_for_terminal` under its deadline; `none` when the deadline passes first. -/
def waitForTerminal (id : Uuid) : Nat → Service (Option (Except StoreError Settlement))
  | 0 => return none
  | fuel + 1 => do
    match ← store (.settlement id) with
    | .error e => return some (.error e)
    | .ok none => return some (.error (.corrupt "settlement disappeared"))
    | .ok (some record) =>
      if record.state.isTerminal ∨ record.state = .awaitingRetry then return some (.ok record)
      else waitForTerminal id fuel

/-- What identifies a settle request in the journal. -/
structure RequestKey where
  client : ApiClient
  paymentIdentifier : Option String
  paymentHash : Hash32
  fingerprint : Hash32

def priorSettlementResponse (state : AppState) (fuel : Nat) (key : RequestKey) :
    Service (Except StoreError (Option Response)) := do
  match ← findExistingSettlement key.client.id key.paymentIdentifier key.paymentHash
      key.fingerprint with
  | .error e => return .error e
  | .ok none => return .ok none
  | .ok (some (.existing record)) =>
    if record.state = .awaitingRetry then return .ok none
    else if record.state.isTerminal then return .ok (some (storedTerminalResponse record))
    else
      match ← waitForTerminal record.id fuel with
      | some (.ok record) => return .ok (some (completedSettlementResponse record))
      | some (.error e) => return .error e
      | none => return .ok (some settlementPending)
  | .ok (some .identifierConflict) => return .ok (some identifierConflict)
  | .ok (some .duplicateSettlement) =>
    return .ok (some (settleFailure state "duplicate_settlement" none))
  | .ok (some _) =>
    return .error (.corrupt "existing-settlement lookup returned a non-existing outcome")

/-- `prior_settlement_race_response`, with the response when there is no prior settlement. -/
def priorOr (state : AppState) (fuel : Nat) (key : RequestKey) (otherwise : Response) :
    Service Response := do
  match ← priorSettlementResponse state fuel key with
  | .ok (some response) => return response
  | .ok none => return otherwise
  | .error _ => return databaseUnavailable

/-! ## Verification -/

def responseIsRpcAmbiguous (value : Json) : Bool :=
  ((value.get? "invalidReason").bind Json.asStr?).any fun reason => reason ∈ [
    "invalid_exact_near_current_block_height_unavailable",
    "invalid_exact_near_access_key_lookup_failed",
    "invalid_exact_near_account_lookup_failed",
    "invalid_exact_near_token_account_lookup_failed",
    "invalid_exact_near_balance_check_failed",
    "invalid_exact_near_storage_check_failed"]

def settleFromVerifyFailure (state : AppState) (value : Json) : Response :=
  settleFailure state (((value.get? "invalidReason").bind Json.asStr?).getD "invalid_payment")
    ((value.get? "payer").bind Json.asStr?)

/-- `facilitator_verify_gate`, which only a NEAR service has. -/
def facilitatorVerifyGate (state : AppState) (fuel : Nat) (request : ParsedRequest)
    (key : RequestKey) : Service (Option Response) :=
  match state.provider with
  | .evm _ => return none
  | .near _ => do
    let routed ← retryWhileTransient (ask (.facilitatorVerify request.raw)) fun
      | some value => responseIsRpcAmbiguous value
      | none => false
    match routed with
    | none =>
      return some (← priorOr state fuel key (unavailable "verification_unavailable"
        "NEAR verification is temporarily unavailable"))
    | some value =>
      if (Json.get? "isValid" value).bind Json.asBool? = some true then return none
      else if responseIsRpcAmbiguous value then
        return some (← priorOr state fuel key (unavailable "rpc_unavailable"
          "NEAR verification is temporarily unavailable"))
      else
        return some (← priorOr state fuel key (settleFromVerifyFailure state value))

/-! ## The claim -/

/-- The reservation that `settle_inner` claims for a verified payment. -/
def newSettlement (state : AppState) (id : Uuid) (request : ParsedRequest) (key : RequestKey)
    (verified : VerifiedPayment) : NewSettlement :=
  let identity := verified.identity
  let common (chainKind : ChainKind) : NewSettlement := {
    id := id
    apiClientId := key.client.id
    paymentIdentifier := key.paymentIdentifier
    paymentHash := identity.requestHash
    requestFingerprint := key.fingerprint
    anchorScope := identity.anchorScope
    anchorValue := identity.anchorValue
    x402Version := request.metadata.x402Version
    scheme := request.metadata.scheme
    network := request.metadata.network
    asset := request.metadata.asset
    payTo := request.metadata.payTo
    amount := request.metadata.amount
    payer := verified.payer
    chainKind := chainKind
    delegatePublicKey := none
    delegateNonce := none
    delegateMaxBlockHeight := none
    authorizationMetadata := none
    signerAddress := none
    policySnapshot := state.config.policySnapshot
    reservationYoctoNear := state.config.reservationYoctoNear
    globalDailyBudgetYoctoNear := state.config.globalDailyYoctoNear
    clientDailyBudgetYoctoNear := key.client.dailyBudgetYoctoNear }
  match identity.authorization with
  | .near publicKey nonce maxBlockHeight => { common .near with
      delegatePublicKey := some publicKey
      delegateNonce := some nonce
      delegateMaxBlockHeight := some maxBlockHeight }
  | .evm metadata => { common .eip155 with
      authorizationMetadata := some metadata
      signerAddress := some state.provider.signerAccountId }

def retryReservation (state : AppState) (client : ApiClient) (id : Uuid) : RetryReservation where
  settlementId := id
  policySnapshot := state.config.policySnapshot
  reservationYoctoNear := state.config.reservationYoctoNear
  globalDailyBudgetYoctoNear := state.config.globalDailyYoctoNear
  clientDailyBudgetYoctoNear := client.dailyBudgetYoctoNear

/-- A dormant row is resumed; a row that another request resumed in the meantime is joined. The
result is the row to wait for, or the response. -/
def resumeDormant (state : AppState) (client : ApiClient) (record : Settlement)
    (request : ParsedRequest) : Service (Except Response Uuid) := do
  match ← resumeAwaitingRetry (retryReservation state client record.id) with
  | .ok (.resumed resumed) =>
    spawn (.settlementWorker resumed.id request.raw)
    return .ok resumed.id
  | .ok .settlementBusy => return .error settlementBusy
  | .ok .budgetExceeded => return .error budgetExhausted
  | .error (.transition ..) =>
    match ← store (.settlement record.id) with
    | .ok (some current) =>
      if current.state ≠ .awaitingRetry then return .ok current.id
      else return .error settlementRetryable
    | .ok none | .error _ => return .error databaseUnavailable
  | .error _ => return .error databaseUnavailable

/-- The claim of `settle_inner`, with the worker of a new or resumed row. -/
def claimAndSpawn (state : AppState) (request : ParsedRequest) (key : RequestKey)
    (verified : VerifiedPayment) : Service (Except Response Uuid) := do
  let id ← ask .newUuid
  match ← claimSettlement (newSettlement state id request key verified) with
  | .error _ => return .error databaseUnavailable
  | .ok (.new record) =>
    spawn (.settlementWorker record.id request.raw)
    return .ok record.id
  | .ok (.existing record) =>
    if record.state.isTerminal then return .error (storedTerminalResponse record)
    else if record.state = .awaitingRetry then resumeDormant state key.client record request
    else return .ok record.id
  | .ok .identifierConflict => return .error identifierConflict
  | .ok .duplicateSettlement =>
    return .error (settleFailure state "duplicate_settlement" (some verified.payer))
  | .ok .settlementBusy => return .error settlementBusy
  | .ok .budgetExceeded => return .error budgetExhausted

/-- The end of `settle_inner`: claim, then wait. -/
def claimAndWait (state : AppState) (fuel : Nat) (request : ParsedRequest) (key : RequestKey)
    (verified : VerifiedPayment) : Service Response := do
  match ← claimAndSpawn state request key verified with
  | .error response => return response
  | .ok id =>
    match ← waitForTerminal id fuel with
    | some (.ok record) => return completedSettlementResponse record
    | some (.error _) => return databaseUnavailable
    | none => return settlementPending

/-! ## The request -/

/-- `settle_inner` once the request is authentic, admissible and not a replay. -/
def verifyAndClaim (state : AppState) (fuel : Nat) (request : ParsedRequest) (key : RequestKey) :
    Service Response := do
  match ← facilitatorVerifyGate state fuel request key with
  | some response => return response
  | none =>
    match ← state.provider.verify request.raw state.config.maxInnerGas with
    | .error rejection =>
      priorOr state fuel key <| if rejection.rpcAmbiguous then
          unavailable "rpc_unavailable" "verification is temporarily unavailable"
        else settleFailure state rejection.reason none
    | .ok verified =>
      if verified.paymentHash ≠ key.paymentHash then
        return unavailable "verification_inconsistent"
          "payment verification was internally inconsistent"
      else
        claimAndWait state fuel request key verified

/-- `settle_inner` once the request has its key in the journal. -/
def admitAndClaim (state : AppState) (fuel : Nat) (request : ParsedRequest) (key : RequestKey) :
    Service Response := do
  match ← priorSettlementResponse state fuel key with
  | .error _ => return databaseUnavailable
  | .ok (some response) => return response
  | .ok none =>
    if ¬ (← canSettle) then
      priorOr state fuel key
        (unavailable "settlement_unavailable" "settlement is temporarily unavailable")
    else
      let metadata := request.metadata
      match ← ask (.payeeAllowed key.client.id metadata.network metadata.asset metadata.payTo) with
      | .error _ =>
        return unavailable "database_unavailable" "settlement policy is temporarily unavailable"
      | .ok false => priorOr state fuel key (settleFailure state "payee_not_allowed" none)
      | .ok true => verifyAndClaim state fuel request key

/-- The payment identity that a request is looked up under before it is verified. -/
def paymentHashOf (state : AppState) (request : ParsedRequest) : Except String Hash32 :=
  match state.config.chainKind with
  | .near =>
    match decodeSignedDelegate (request.metadata.signedDelegateAction.getD "") with
    | .error failure => .error failure.reason
    | .ok decoded =>
      if ¬ verifyDelegate decoded.signedDelegate then
        .error VerificationFailure.invalidSignature.reason
      else .ok decoded.paymentHash
  | .eip155 => state.provider.offlinePaymentHash request.raw

/-- `settle_inner` once the request is parsed. -/
def settleParsed (state : AppState) (fuel : Nat) (client : ApiClient) (request : ParsedRequest) :
    Service Response :=
  match staticFailureReason state.config request.metadata with
  | some reason => return settleFailure state reason none
  | none =>
    match paymentHashOf state request with
    | .error reason => return settleFailure state reason none
    | .ok paymentHash =>
      admitAndClaim state fuel request ⟨client, request.metadata.paymentIdentifier, paymentHash,
        requestFingerprint request.value paymentHash⟩

def protocolResponseRebufferLimit : Nat := 1048576

/-- `finalize_wire_response`: a successful response to a v1 request names the network by its legacy
alias. -/
def finalizeWireResponse (wire : WireVersion) (response : Response) : Response :=
  if wire = .v2 ∨ response.status ≠ 200 then response
  else if protocolResponseRebufferLimit < response.body.length then
    unavailable "response_serialization_failed" "response serialization failed"
  else
    match EvmPrimitives.jsonFromSlice response.body with
    | none => response
    | some value => { response with body := (translateResponseValueToV1 value).toBytes }

def malformedRequest : Response :=
  apiError 400 "malformed_request" "request body is not a canonical x402 request"

def settleInner (state : AppState) (fuel : Nat) : Service Response := do
  match ← ask .authenticate with
  | .error response => return response
  | .ok client =>
    let withinRate : Bool ← ask (.rateCheck client.id)
    if ¬ withinRate then
      return rateLimited "rate_limit_exceeded" "settlement rate limit exceeded"
    else
      match ← ask .readBody with
      | .error response => return response
      | .ok body =>
        match parseRequest body state.config.paymentIdentifier state.config.acceptV1 with
        | .error _ => return malformedRequest
        | .ok request =>
          return finalizeWireResponse request.wire (← settleParsed state fuel client request)

def settle (state : AppState) (fuel : Nat) : Service Unit := do
  respond (← settleInner state fuel)

end

end X402Facilitator
