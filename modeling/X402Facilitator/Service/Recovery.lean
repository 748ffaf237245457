import X402Facilitator.Service.Journal
import X402Facilitator.Service.Worker

/-!
# Recovery

`reconcile`: the pass over the nonterminal rows that a new leader makes before it settles, and that
every process repeats while its reconciliation gate is closed. It never signs anything: a prepared
or submitted row is looked up on the chain and, when that is safe, its journaled bytes are sent
again.
-/

namespace X402Facilitator

open Service

/-- A field that recovery cannot do without. -/
def orCorrupt {α : Type} (value : Option α) (message : String) : Except StoreError α :=
  match value with
  | some a => .ok a
  | none => .error (.corrupt message)

theorem orCorrupt_ok {α : Type} {value : Option α} {message : String} {a : α}
    (h : orCorrupt value message = .ok a) : value = some a := by
  unfold orCorrupt at h
  split at h
  · rw [Except.ok.inj h]
  · cases h

section
variable [NearPrimitives] [EvmPrimitives]

/-! ## Terminal outcomes -/

/-- The reservation is exceeded by what the transaction cost; only EVM settlements can. -/
def feeOverrun (record : Settlement) (outcome : TerminalOutcome) : Except StoreError Bool :=
  match record.chainKind with
  | .near => .ok false
  | .eip155 =>
    if record.reservedYoctoNear < 2 ^ 128 then .ok (record.reservedYoctoNear < outcome.feeAtomic)
    else .error (.corrupt "EVM reservation is invalid")

/-- The terminal row of a reconciled outcome. -/
def journalReconciled (state : AppState) (record : Settlement) (outcome : TerminalOutcome) :
    Service (Except StoreError Unit) :=
  store (.markTerminal (outcomeEntry record.id record.payer state.config.network outcome))

def finalizeReconciledTerminal (state : AppState) (record : Settlement)
    (outcome : TerminalOutcome) : Service (Except StoreError Unit) :=
  andThen (feeOverrun record outcome) fun overrun =>
    if overrun then do
      -- Quarantine first: the terminal row releases the signer's slot.
      setRelayerGate false
      setReconciliation false
      andThen (← quarantineSigner state "actual Base fee exceeded the sponsorship reservation"
          (record.signerAccountNonce.getD 0)) fun _ => do
        andThen (← journalReconciled state record outcome) fun _ =>
          return .error (.corrupt "Base sponsorship quarantined after reservation overrun")
    else
      journalReconciled state record outcome

/-! ## NEAR rows -/

/-- What recovery reads from a NEAR row before it asks the chain anything. -/
structure NearSubmission where
  hash : CryptoHash
  bytes : Bytes
  signer : AccountId

/-- The relayer columns name the configured relayer. -/
def relayerMatches (state : AppState) (record : Settlement) : Bool :=
  record.relayerAccountId = some state.provider.signerAccountId ∧
    record.relayerPublicKey = some state.provider.signerPublicKey

def nearSubmission (record : Settlement) : Except StoreError NearSubmission := do
  let hashColumn ← orCorrupt record.outerTransactionHash "prepared row has no transaction hash"
  let hash ← orCorrupt (parseHash hashColumn) "prepared row has invalid transaction hash"
  let bytes ← orCorrupt record.outerTransactionBytes "prepared row has no transaction bytes"
  let signerColumn ← orCorrupt record.relayerAccountId "prepared row has no signer"
  let signer ← orCorrupt (AccountId.parse signerColumn) "prepared row has invalid signer"
  return ⟨hash, bytes, signer⟩

omit [EvmPrimitives] in
theorem nearSubmission_ok_iff {record : Settlement} {submission : NearSubmission} :
    nearSubmission record = .ok submission ↔
      record.outerTransactionBytes = some submission.bytes ∧
        (∃ text, record.outerTransactionHash = some text ∧
          parseHash text = some submission.hash) ∧
        record.relayerAccountId = some submission.signer.text := by
  constructor
  · intro h
    obtain ⟨text, htext, h⟩ := Except.exists_of_bind h
    obtain ⟨hash, hhash, h⟩ := Except.exists_of_bind h
    obtain ⟨bytes, hbytes, h⟩ := Except.exists_of_bind h
    obtain ⟨signerText, hsignerText, h⟩ := Except.exists_of_bind h
    obtain ⟨signer, hsigner, h⟩ := Except.exists_of_bind h
    obtain rfl := Except.ok.inj h
    have hparse := AccountId.parse_eq_some.mp (orCorrupt_ok hsigner)
    exact ⟨orCorrupt_ok hbytes, ⟨text, orCorrupt_ok htext, orCorrupt_ok hhash⟩,
      hparse ▸ orCorrupt_ok hsignerText⟩
  · rintro ⟨hbytes, ⟨text, htext, hhash⟩, hsigner⟩
    have hparse : AccountId.parse submission.signer.text = some submission.signer :=
      AccountId.parse_eq_some.mpr rfl
    simp only [nearSubmission, orCorrupt, htext, hhash, hbytes, hsigner, hparse, bind, Except.bind,
      pure, Except.pure]

/-- The heads of both readers; the primary one also refreshes the relayer gate. -/
def bothHeads (state : AppState) (backupFailure : String) :
    Service (Except StoreError (SignerHead × SignerHead)) := do
  andThen (← freshSignerHead state) fun primary => do
    match ← state.provider.backupSignerHead with
    | .error _ => return .error (.corrupt backupFailure)
    | .ok backup => return .ok (primary, backup)

def quarantineUnknown (state : AppState) (record : Settlement) (observedNonce : Nat) :
    Service (Except StoreError Unit) :=
  andThen (orCorrupt record.relayerPublicKey "prepared row has no public key") fun publicKey => do
    let key : RelayerKey := ⟨state.config.network, state.provider.signerAccountId, publicKey⟩
    andThen (← store (.quarantineRelayer key
        "nonce advanced while exact transaction remained unknown" observedNonce)) fun _ => do
      setRelayerGate false
      return .error (.corrupt "relayer key quarantined after unknown nonce advance")

/-- The exact-byte rebroadcast of a NEAR row and what its answer makes of the row. -/
def rebroadcastNear (state : AppState) (record : Settlement) (submission : NearSubmission) :
    Service (Except StoreError Unit) := do
  match ← state.provider.rebroadcast submission.bytes (hashText submission.hash) record.payer
      record.asset with
  | .terminal outcome => finalizeReconciledTerminal state record outcome
  | .rejected _ =>
    terminalTransactionRejected state record.id (some record.payer) (hashText submission.hash)
    return .ok ()
  | .pending => return .ok ()

/-- The checks between the submitted transition and the rebroadcast. -/
def recheckAndRebroadcast (state : AppState) (record : Settlement) (submission : NearSubmission)
    (primary backup : SignerHead) : Service (Except StoreError Unit) := do
  if ¬ (← canReconciliationBroadcast) then
    return .error (.corrupt "leadership lost before reconciliation broadcast")
  else
    andThen (← bothHeads state "backup relayer state unavailable before rebroadcast")
      fun (currentPrimary, currentBackup) => do
        if currentPrimary.signerNonce ≠ primary.signerNonce ∨
            currentBackup.signerNonce ≠ backup.signerNonce then
          setRelayerGate false
          return .error (.corrupt "relayer nonce changed before exact-byte rebroadcast")
        else
          rebroadcastNear state record submission

/-- A prepared row is marked submitted before its bytes are sent; a submitted one already is. -/
def ensureSubmitted (record : Settlement) : Service (Except StoreError Unit) :=
  if record.state = .prepared then store (.markSubmitted record.id) else return .ok ()

def reconcileUnknown (state : AppState) (record : Settlement) (submission : NearSubmission) :
    Service (Except StoreError Unit) := do
  andThen (← bothHeads state "backup relayer state unavailable during reconciliation")
    fun (primary, backup) =>
      andThen (orCorrupt (record.relayerNonce.filter (· < 2 ^ 128))
          "prepared row has invalid nonce") fun preparedNonce =>
        if preparedNonce ≤ primary.signerNonce ∨ preparedNonce ≤ backup.signerNonce then
          quarantineUnknown state record (max primary.signerNonce backup.signerNonce)
        else
          andThen (orCorrupt (parseU64 record.delegateMaxBlockHeight)
              "journal delegate expiry is invalid") fun delegateMaxHeight =>
            if delegateMaxHeight ≤ max primary.chainBlockHeight backup.chainBlockHeight then do
              terminalProtocolFailure state record.id
                "invalid_exact_near_payload_delegate_action_expired" (some record.payer)
                (if record.state = .submitted then some (hashText submission.hash) else none)
              return .ok ()
            else do
              andThen (← ensureSubmitted record) fun _ =>
                recheckAndRebroadcast state record submission primary backup

/-- The NEAR path of `reconcile_prepared`, once the journaled bytes have been validated. -/
def reconcileSubmission (state : AppState) (record : Settlement) (submission : NearSubmission) :
    Service (Except StoreError Unit) := do
  match ← state.provider.reconcileStatus (hashText submission.hash) submission.signer.text
      record.payer record.asset .nearFinality with
  | .conflict =>
    setReconciliation false
    return .error (.corrupt "primary and backup RPCs returned conflicting final outcomes")
  | .terminal outcome => finalizeReconciledTerminal state record outcome
  | .indeterminate _ =>
    setReconciliation false
    return .ok ()
  | .pending => return .ok ()
  | .unknown => reconcileUnknown state record submission
  | .ambiguous =>
    setReconciliation false
    return .error (.corrupt "RPC ambiguity prevented settlement reconciliation")

def reconcilePreparedNear (state : AppState) (record : Settlement) :
    Service (Except StoreError Unit) := do
  if ¬ relayerMatches state record then
    setRelayerGate false
    return .error (.corrupt "journaled relayer identity does not match configured relayer")
  else
    andThen (nearSubmission record) fun submission =>
      match validateStoredTransaction record submission.bytes submission.hash
          submission.signer with
      | .error e => do
        setRelayerGate false
        return .error e
      | .ok () => reconcileSubmission state record submission

/-! ## EVM rows -/

/-- The chain id of an `eip155:` network name. -/
def networkChainId? (network : String) : Option Nat :=
  match network.toList with
  | 'e' :: 'i' :: 'p' :: '1' :: '5' :: '5' :: ':' :: rest => parseUnsigned? 64 (String.ofList rest)
  | _ => none

/-- `evm_policy_snapshot`: gas limit, fee cap and confirmation depth at admission. -/
def evmPolicySnapshot (record : Settlement) : Except StoreError (Nat × Nat × Nat) := do
  let policy := record.policySnapshot
  if (policy.get? "chainKind").bind Json.asStr? ≠ some "eip155" ∨
      (policy.get? "network").bind Json.asStr? ≠ some record.network ∨
      ¬ ((policy.get? "asset").bind Json.asStr?).any (eqIgnoreAsciiCase · record.asset) then
    .error (.corrupt "EVM settlement policy identity is inconsistent")
  else
    let eip155 ← orCorrupt ((policy.get? "eip155").filter Json.isObject)
      "EVM settlement has no stored admission policy"
    let chainId ← orCorrupt ((eip155.get? "chainId").bind Json.asU64?)
      "stored EVM chain id is invalid"
    let networkChainId ← orCorrupt (networkChainId? record.network)
      "journaled EVM network is invalid"
    if chainId ≠ networkChainId then
      .error (.corrupt "stored EVM chain policy does not match the network")
    else
      let gasLimit ← orCorrupt (((eip155.get? "gasLimit").bind Json.asU64?).filter (0 < ·))
        "stored EVM gas limit is invalid"
      let maxFeePerGas ← orCorrupt
        ((((eip155.get? "maxFeePerGasWei").bind Json.asStr?).bind (parseUnsigned? 128)).filter
          (0 < ·)) "stored EVM fee cap is invalid"
      let requiredConfirmations ← orCorrupt
        (((eip155.get? "requiredConfirmations").bind Json.asU64?).filter (0 < ·))
        "stored EVM confirmation policy is invalid"
      return (gasLimit, maxFeePerGas, requiredConfirmations)

/-- `require_evm_recovery_balance`. -/
def requireEvmRecoveryBalance (state : AppState) (record : Settlement) (balance : Nat) :
    Except StoreError Unit :=
  let hardStop := state.config.balanceHardStopYoctoNear
  if 2 ^ 128 ≤ hardStop then .error (.corrupt "configured EVM balance hard stop is invalid")
  else if 2 ^ 128 ≤ record.reservedYoctoNear then
    .error (.corrupt "journaled EVM sponsorship reservation is invalid")
  else if 2 ^ 128 ≤ hardStop + record.reservedYoctoNear then
    .error (.corrupt "EVM recovery balance requirement overflowed")
  else if balance < hardStop + record.reservedYoctoNear then
    .error (.corrupt "EVM signer balance does not cover the durable recovery reservation")
  else .ok ()

/-- What recovery reads from an EVM row before it asks the chain anything. -/
structure EvmSubmission where
  signer : String
  hash : String
  bytes : Bytes
  nonce : Nat

def rebroadcastEvm (state : AppState) (record : Settlement) (submission : EvmSubmission) :
    Service (Except StoreError Unit) := do
  match ← state.provider.rebroadcast submission.bytes submission.hash record.payer
      record.asset with
  | .terminal outcome => finalizeReconciledTerminal state record outcome
  | .rejected _ =>
    terminalTransactionRejected state record.id (some record.payer) submission.hash
    return .ok ()
  | .pending => return .ok ()

/-- The nonce checks before an EVM rebroadcast. -/
def recheckNonceAndRebroadcast (state : AppState) (record : Settlement)
    (submission : EvmSubmission) (currentNonce : Nat) : Service (Except StoreError Unit) := do
  if submission.nonce < currentNonce then
    andThen (← quarantineSigner state
        "signer nonce advanced while exact transaction remained unknown" currentNonce) fun _ => do
      setRelayerGate false
      setReconciliation false
      return .error (.corrupt "EVM signer quarantined after unknown nonce advance")
  else if currentNonce ≠ submission.nonce then
    setReconciliation false
    return .error (.corrupt "EVM signer nonce regressed before exact-byte rebroadcast")
  else if ¬ (← canReconciliationBroadcast) then
    return .error (.corrupt "leadership lost immediately before reconciliation broadcast")
  else
    rebroadcastEvm state record submission

def reconcileUnknownEvm (state : AppState) (record : Settlement) (submission : EvmSubmission) :
    Service (Except StoreError Unit) := do
  andThen (← ensureSubmitted record) fun _ => do
    if ¬ (← canReconciliationBroadcast) then
      return .error (.corrupt "leadership lost before reconciliation broadcast")
    else
      andThen (← freshSignerHead state) fun currentHead =>
        match requireEvmRecoveryBalance state record currentHead.signerBalanceAtomic with
        | .error e => do
          setRelayerGate false
          setReconciliation false
          return .error e
        | .ok () => recheckNonceAndRebroadcast state record submission currentHead.signerNonce

/-- The EVM path of `reconcile_prepared_evm`, once the journaled bytes have been validated. -/
def reconcileSubmissionEvm (state : AppState) (record : Settlement) (submission : EvmSubmission)
    (requiredConfirmations : Nat) : Service (Except StoreError Unit) := do
  match ← state.provider.reconcileStatus submission.hash submission.signer record.payer
      record.asset (.evmConfirmations requiredConfirmations) with
  | .terminal outcome => finalizeReconciledTerminal state record outcome
  | .pending => return .ok ()
  | .indeterminate _ =>
    setReconciliation false
    return .ok ()
  | .unknown => reconcileUnknownEvm state record submission
  | .conflict | .ambiguous =>
    setReconciliation false
    return .error (.corrupt "evm reconciliation was ambiguous")

/-- The fields of an EVM row that its journaled bytes must agree with. -/
def storedEvmSubmission (record : Settlement) (submission : EvmSubmission)
    (metadata : EvmAuthorizationMetadata) (gasLimit maxFeePerGas : Nat) :
    StoredEvmSubmission where
  network := record.network
  hash := submission.hash
  submitter := submission.signer
  nonce := submission.nonce
  asset := record.asset
  payer := record.payer
  payee := record.payTo
  amount := record.amount
  validAfter := metadata.validAfter
  validBefore := metadata.validBefore
  anchorScope := record.anchorScope
  anchorValue := record.anchorValue
  paymentHash := record.paymentHash
  gasLimit := gasLimit
  maxFeePerGas := maxFeePerGas

/-- The part of `reconcile_prepared_evm` between the confirmation policy and the chain. -/
def validateAndReconcileEvm (state : AppState) (record : Settlement) (signer hash : String)
    (bytes : Bytes) (requiredConfirmations : Nat) : Service (Except StoreError Unit) :=
  andThen (orCorrupt record.authorizationMetadata
      "prepared EVM row has no authorization metadata") fun metadata =>
    if metadata.version ≠ 2 then
      return .error (.corrupt "prepared EVM authorization metadata version is invalid")
    else
      andThen (evmPolicySnapshot record) fun (gasLimit, maxFeePerGas, admissionConfirmations) =>
        if requiredConfirmations < admissionConfirmations then
          return .error (.corrupt "journaled EVM confirmation policy was lowered")
        else
          andThen (orCorrupt (record.signerAccountNonce.filter (· < 2 ^ 128))
              "prepared EVM row has invalid nonce") fun nonce =>
            let submission : EvmSubmission := ⟨signer, hash, bytes, nonce⟩
            match validateStoredSubmission state.provider bytes
                (storedEvmSubmission record submission metadata gasLimit maxFeePerGas) with
            | .error e => do
              setRelayerGate false
              return .error (.corrupt e.message)
            | .ok () => reconcileSubmissionEvm state record submission requiredConfirmations

def reconcilePreparedEvm (state : AppState) (record : Settlement) :
    Service (Except StoreError Unit) :=
  andThen (orCorrupt record.signerAddress "prepared row has no signer") fun signer =>
    if signer ≠ state.provider.signerAccountId then do
      setRelayerGate false
      return .error (.corrupt "journaled signer does not match configured signer")
    else
      andThen (orCorrupt record.submittedTxHash "prepared row has no transaction hash")
        fun hash =>
        andThen (orCorrupt record.submittedTxRlp "prepared row has no transaction bytes")
          fun bytes =>
          andThen (orCorrupt (state.provider.requiredConfirmations.bind toI32)
              "configured EVM confirmation depth is invalid") fun configured => do
            andThen (← raiseRequiredConfirmations record.id configured) fun effective =>
              if effective < 0 then
                return .error (.corrupt "journaled EVM confirmation depth is invalid")
              else
                validateAndReconcileEvm state record signer hash bytes effective.toNat

/-! ## The pass -/

def reconcilePrepared (state : AppState) (record : Settlement) :
    Service (Except StoreError Unit) :=
  match state.provider with
  | .evm _ => reconcilePreparedEvm state record
  | .near _ => reconcilePreparedNear state record

/-- The first loop of `reconcile`: release every reservation that was read. -/
def releaseReserved : List Settlement → Service (Except StoreError Unit)
  | [] => return .ok ()
  | record :: records => do
    if record.state = .reserved then
      andThen (← store (.noteReconciliation record.id)) fun _ => do
        retryableServiceFailure record.id "recovered_before_prepare"
        releaseReserved records
    else
      releaseReserved records

/-- The second loop of `reconcile`: resolve the submissions in order, up to the first that stays
open. -/
def reconcileInOrder (state : AppState) : List Settlement → Service (Except StoreError Unit)
  | [] => return .ok ()
  | record :: records =>
    match record.state with
    | .prepared | .submitted => do
      andThen (← store (.noteReconciliation record.id)) fun _ => do
        andThen (← reconcilePrepared state record) fun _ => do
          andThen (← store (.settlement record.id)) fun current =>
            if Option.any (fun row : Settlement => ! row.state.isTerminal) current then
              return .ok ()
            else
              reconcileInOrder state records
    | .awaitingRetry => do
      andThen (← store (.noteReconciliation record.id)) fun _ => reconcileInOrder state records
    | .reserved | .succeeded | .failed => reconcileInOrder state records

/-- `reconcile` under the relayer lock. -/
def reconcileLocked (state : AppState) : Service (Except StoreError Unit) := do
  match ← store .nonterminalSettlements with
  | .error e => return .error e
  | .ok records =>
    andThen (← releaseReserved records) fun _ => do
      andThen (← reconcileInOrder state records) fun _ => do
        match ← store .nonterminalSettlements with
        | .error e => return .error e
        | .ok remaining =>
          setReconciliation (List.isEmpty remaining)
          return .ok ()

def reconcile (state : AppState) : Service (Except StoreError Unit) := do
  if ¬ (← snapshot).leadership then
    return .error (.corrupt "reconciliation requires leadership")
  else
    setReconciliation false
    lockRelayer
    let result ← reconcileLocked state
    unlockRelayer
    return result

end

end X402Facilitator
