import X402Facilitator.Service.Worker

/-!
# Quiet programs

An operation is quiet when it touches neither the journal nor the reconciliation and leadership gates
nor the relayer lock, quarantines no relayer and sends no transaction. Reading the chain, verifying,
preparing and looking at the signer are quiet programs, whatever the chain answers.

Plain operations are more: they do anything except send a transaction, claim a row, journal signed
bytes or a terminal result, raise a confirmation depth, quarantine a relayer, start a worker or a
main task, take or release the relayer lock, write the leadership gate or open the reconciliation
gate.
-/

namespace X402Facilitator

open Program Service

def Query.sends : Query → Bool
  | nearSend _ | evmSend _ => true
  | _ => false

def StoreOp.quiet : StoreOp → Bool
  | selectExisting .. | anchorIsClaimed .. | activeEvmSignerExists .. | settlement _
  | relayerIsActive _ | upsertRelayer _ => true
  | _ => false

def Op.Quiet : Op → Prop
  | store op => op.quiet = true
  | ask query => query.sends = false
  | storeGate gate _ => gate = .rpc ∨ gate = .relayer
  | respond _ => True
  | loadGate _ | lockRelayer | unlockRelayer | spawn _ => False

/-- Every operation of the program is quiet. -/
abbrev Quiet {α : Type} (p : Service α) : Prop := p.Only Op.Quiet

namespace Quiet

variable {α β ε : Type}

theorem ask {query : Query} (h : query.sends = false) : Quiet (Service.ask query) := .perform h

theorem store {op : StoreOp} (h : op.quiet = true) : Quiet (Service.store op) := .perform h

theorem setRelayerGate (ready : Bool) : Quiet (X402Facilitator.setRelayerGate ready) :=
  .perform (.inr rfl)

theorem setRpc (ready : Bool) : Quiet (X402Facilitator.setRpc ready) := .perform (.inl rfl)

theorem andThen {x : Except ε α} {f : α → Service (Except ε β)} (hf : ∀ a, Quiet (f a)) :
    Quiet (Service.andThen x f) := by
  cases x with
  | ok a => exact hf a
  | error e => exact .pure _

theorem retryWhileTransient {call : Service α} {transient : α → Bool} (h : Quiet call) :
    Quiet (X402Facilitator.retryWhileTransient call transient) := by
  refine .bind h fun first => ?_
  split
  · exact .pure _
  refine .bind h fun second => ?_
  split
  · exact .pure _
  exact h

theorem retryRead {read : Service (Except ε α)} (h : Quiet read) :
    Quiet (X402Facilitator.retryRead read) := retryWhileTransient h

/-! ## Reads of the chain -/

theorem relayerHeadFrom (relayer : NearProvider) (reader : Reader) :
    Quiet (X402Facilitator.relayerHeadFrom relayer reader) := by
  refine .bind (ask rfl) fun _ => andThen fun block => ?_
  refine .bind (ask rfl) fun _ => andThen fun accessKey => ?_
  split <;> exact .pure _

theorem relayerStatus (relayer : NearProvider) :
    Quiet (X402Facilitator.relayerStatus relayer) := by
  refine .bind (relayerHeadFrom relayer .primary) fun _ => andThen fun head => ?_
  exact .bind (ask rfl) fun _ => andThen fun _ => .pure _

theorem safeBlockNumber (provider : EvmProvider) :
    Quiet (X402Facilitator.safeBlockNumber provider) :=
  .bind (retryRead (ask rfl)) fun _ => .bind (retryRead (ask rfl)) fun _ => .pure _

theorem feeEnvelope (provider : EvmProvider) :
    Quiet (X402Facilitator.feeEnvelope provider) := by
  refine .bind (retryRead (ask rfl)) fun _ => .bind (retryRead (ask rfl)) fun _ => ?_
  split <;> exact .pure _

theorem estimateL1FeeWei (bytes : Bytes) : Quiet (X402Facilitator.estimateL1FeeWei bytes) :=
  .bind (retryRead (ask rfl)) fun _ => .bind (retryRead (ask rfl)) fun _ => .pure _

section
variable [EvmPrimitives]

theorem evmSnapshot (provider : EvmProvider) : Quiet (X402Facilitator.evmSnapshot provider) :=
  .bind (retryRead (ask rfl)) fun _ => .bind (retryRead (ask rfl)) fun _ => .pure _

theorem evmHead (provider : EvmProvider) : Quiet (X402Facilitator.evmHead provider) := by
  refine .bind (evmSnapshot provider) fun result => ?_
  cases result <;> exact .pure _

theorem mergedReceipt (hash : Hash32) : Quiet (X402Facilitator.mergedReceipt hash) :=
  have once (reader : Reader) : Quiet (receiptOnce reader hash) :=
    .bind (ask rfl) fun _ => andThen fun _ => .pure _
  .bind (retryRead (once .primary)) fun _ => .bind (retryRead (once .backup)) fun _ => .pure _

theorem mergedTransaction (provider : EvmProvider) (hash : Hash32) :
    Quiet (X402Facilitator.mergedTransaction provider hash) :=
  have once (reader : Reader) : Quiet (transactionOnce provider reader hash) :=
    .bind (ask rfl) fun _ => andThen fun _ => .pure _
  .bind (retryRead (once .primary)) fun _ => .bind (retryRead (once .backup)) fun _ => .pure _

theorem reconcileWithConfirmations (provider : EvmProvider) (hash : Hash32) (required : Nat) :
    Quiet (X402Facilitator.reconcileWithConfirmations provider hash required) := by
  unfold X402Facilitator.reconcileWithConfirmations
  split
  · exact .pure _
  refine .bind (mergedReceipt hash) fun _ => .bind (mergedTransaction provider hash) fun _ => ?_
  refine andThen fun receipt => andThen fun _ => ?_
  refine .bind (safeBlockNumber provider) fun _ => andThen fun _ => ?_
  cases receipt with
  | mined facts => exact .bind (mergedReceipt hash) fun _ => andThen fun _ => .pure _
  | _ => exact .pure _

theorem reconcileHashWithConfirmations (provider : EvmProvider) (txHash : String)
    (required : Nat) :
    Quiet (X402Facilitator.reconcileHashWithConfirmations provider txHash required) := by
  unfold X402Facilitator.reconcileHashWithConfirmations
  split
  · exact .pure _
  · exact reconcileWithConfirmations _ _ _

theorem prepareEvm (provider : EvmProvider) (payment : EvmVerifiedPayment) (nonce : Nat) :
    Quiet (X402Facilitator.prepareEvm provider payment nonce) := by
  unfold X402Facilitator.prepareEvm
  split
  · exact .pure _
  refine .bind (feeEnvelope provider) fun _ => andThen fun _ => andThen fun prepared => ?_
  refine .bind (estimateL1FeeWei _) fun fee => ?_
  cases fee <;> exact .pure _

end

section
variable [NearPrimitives] [EvmPrimitives]

omit [NearPrimitives] in
theorem evmSignerHead (provider : EvmProvider) : Quiet (ChainProvider.evmSignerHead provider) := by
  refine .bind (evmHead provider) fun result => ?_
  cases result <;> exact .pure _

theorem signerHead (provider : ChainProvider) : Quiet provider.signerHead := by
  cases provider with
  | near relayer =>
    refine .bind (relayerStatus relayer) fun result => ?_
    cases result <;> exact .pure _
  | evm provider => exact evmSignerHead provider

theorem backupSignerHead (provider : ChainProvider) : Quiet provider.backupSignerHead := by
  cases provider with
  | near relayer =>
    refine .bind (relayerHeadFrom relayer .backup) fun result => ?_
    cases result <;> exact .pure _
  | evm provider => exact evmSignerHead provider

omit [NearPrimitives] [EvmPrimitives] in
theorem verifyNearBalance (offline : OfflineVerified) (block : FinalBlock) (asset : AccountId) :
    Quiet (X402Facilitator.verifyNearBalance offline block asset) := by
  refine .bind (ask rfl) fun balance => ?_
  split
  · split
    · split
      · exact .pure _
      unfold verifyNearStorage
      split
      · exact .pure _
      refine .bind (ask rfl) fun storage => ?_
      split
      · split <;> exact .pure _
      all_goals exact .pure _
    · exact .pure _
  · exact .pure _

omit [NearPrimitives] [EvmPrimitives] in
theorem verifyNearToken (offline : OfflineVerified) (block : FinalBlock) :
    Quiet (X402Facilitator.verifyNearToken offline block) := by
  unfold X402Facilitator.verifyNearToken
  split
  · exact .pure _
  refine .bind (ask rfl) fun hasCode => ?_
  split
  · dsimp only
    split
    · exact .pure _
    · exact verifyNearBalance ..
  all_goals exact .pure _

omit [NearPrimitives] [EvmPrimitives] in
theorem verifyNearPayer (offline : OfflineVerified) (block : FinalBlock) :
    Quiet (X402Facilitator.verifyNearPayer offline block) := by
  refine .bind (ask rfl) fun accessKey => ?_
  split
  · exact .pure _
  · exact .pure _
  split
  · exact .pure _
  split
  · exact .pure _
  · exact .pure _
  · exact .pure _
  refine .bind (ask rfl) fun account => ?_
  split
  · exact verifyNearToken offline block
  all_goals exact .pure _

omit [EvmPrimitives] in
theorem verifyProtoRequest (relayer : NearProvider) (request : Json) (maxSponsoredGas : Nat) :
    Quiet (X402Facilitator.verifyProtoRequest relayer request maxSponsoredGas) := by
  refine andThen fun offline => .bind (ask rfl) fun block => ?_
  cases block with
  | error e => exact .pure _
  | ok block => exact andThen fun _ => verifyNearPayer offline block

omit [NearPrimitives] in
theorem verifyEvm (provider : EvmProvider) (request : Json) :
    Quiet (X402Facilitator.verifyEvm provider request) := by
  refine andThen fun (payload, requirements) => andThen fun paymentHash => ?_
  refine .bind (retryWhileTransient (ask rfl)) fun response => ?_
  cases response <;> exact .pure _

theorem verify (provider : ChainProvider) (request : Json) (maxSponsoredGas : Nat) :
    Quiet (provider.verify request maxSponsoredGas) := by
  cases provider with
  | near relayer =>
    refine .bind (retryWhileTransient (verifyProtoRequest ..)) fun result => ?_
    cases result <;> exact .pure _
  | evm provider =>
    refine .bind (verifyEvm provider request) fun result => ?_
    cases result <;> exact .pure _

theorem prepare (provider : ChainProvider) (payment : VerifiedPayment) (head : SignerHead) :
    Quiet (provider.prepare payment head) := by
  unfold ChainProvider.prepare
  split
  · split
    · exact .pure _
    split
    · exact .pure _
    split <;> exact .pure _
  · split
    · exact .pure _
    refine .bind (prepareEvm _ _ _) fun result => ?_
    cases result <;> exact .pure _
  · exact .pure _

omit [EvmPrimitives] in
theorem reconcileNear (relayer : NearProvider) (hash : CryptoHash)
    (signer payer asset : AccountId) :
    Quiet (ChainProvider.reconcileNear relayer hash signer payer asset) := by
  refine .bind (ask rfl) fun _ => .bind (ask rfl) fun _ => ?_
  dsimp only
  split
  · exact .pure _
  split
  · split <;> exact .pure _
  · split
    · exact .pure _
    split <;> exact .pure _

theorem reconcileStatus (provider : ChainProvider) (submitHash signer payer asset : String)
    (policy : RecoveryPolicy) :
    Quiet (provider.reconcileStatus submitHash signer payer asset policy) := by
  unfold ChainProvider.reconcileStatus
  split
  · split
    · exact reconcileNear ..
    · exact .pure _
  · refine .bind (reconcileHashWithConfirmations _ _ _) fun result => ?_
    split <;> exact .pure _
  · exact .pure _

theorem readinessObservation (provider : ChainProvider) :
    Quiet provider.readinessObservation := by
  cases provider with
  | near relayer =>
    have probe (reader : Reader) : Quiet (ChainProvider.probeRpcReadiness relayer reader) :=
      .bind (ask rfl) fun _ => .bind (ask rfl) fun _ => .pure _
    exact .bind (probe .primary) fun _ => .bind (probe .backup) fun _ =>
      .bind (signerHead _) fun _ => .pure _
  | evm provider =>
    refine .bind (evmSnapshot provider) fun result => ?_
    cases result <;> exact .pure _

theorem freshSignerHead (state : AppState) : Quiet (X402Facilitator.freshSignerHead state) := by
  refine .bind (signerHead _) fun head => ?_
  cases head with
  | error e => exact .bind (setRelayerGate false) fun _ => .pure _
  | ok head =>
    refine .bind (store rfl) fun active => ?_
    cases active with
    | error e => exact .pure _
    | ok active =>
      dsimp only
      split
      · exact .bind (setRelayerGate false) fun _ => .pure _
      · exact .bind (setRelayerGate true) fun _ => .pure _

end

end Quiet

/-! ## Plain programs -/

def Op.Plain : Op → Prop
  | ask query => query.sends = false
  | store (.markTerminal _) | store (.markPrepared _) | store (.markPreparedEvm _)
  | store (.claimReservation ..) | store (.resumeReservation ..) | store (.raiseConfirmations ..)
  | store (.quarantineRelayer ..) => False
  | spawn (.settlementWorker ..) | spawn (.startup _) | spawn (.leadership _)
  | spawn (.reconcileCommand _) => False
  | lockRelayer | unlockRelayer | storeGate .leadership _ | storeGate .reconciliation true => False
  | _ => True

/-- Every operation of the program is plain. -/
abbrev Plain {α : Type} (p : Service α) : Prop := p.Only Op.Plain

theorem Op.Quiet.plain {o : Op} (h : o.Quiet) : o.Plain := by
  cases o with
  | store op => cases op <;> trivial
  | ask query => exact h
  | spawn task => exact h.elim
  | storeGate gate ready => obtain rfl | rfl := h <;> trivial
  | lockRelayer | unlockRelayer => exact h.elim
  | _ => trivial

theorem Quiet.plain {α : Type} {p : Service α} (hp : Quiet p) : Plain p :=
  hp.mono fun _ h => h.plain

namespace Plain

theorem setReconciliation_false : Plain (setReconciliation false) := .perform trivial

theorem snapshot : Plain X402Facilitator.snapshot :=
  .bind (.perform trivial) fun _ => .bind (.perform trivial) fun _ =>
    .bind (.perform trivial) fun _ => .bind (.perform trivial) fun _ => .pure _

theorem canSettle : Plain X402Facilitator.canSettle := .bind snapshot fun _ => .pure _

theorem canReconciliationBroadcast : Plain X402Facilitator.canReconciliationBroadcast :=
  .bind snapshot fun _ => .pure _

theorem retryableServiceFailure (settlementId : Uuid) (code : String) :
    Plain (X402Facilitator.retryableServiceFailure settlementId code) := by
  refine .bind (.perform trivial) fun result => ?_
  cases result with
  | ok _ => exact .pure _
  | error _ => exact setReconciliation_false

end Plain

end X402Facilitator
