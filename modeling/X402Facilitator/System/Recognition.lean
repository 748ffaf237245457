import X402Facilitator.System.Broadcast
import X402Facilitator.System.Origin

/-!
# Recovery recognises what a worker signs

A worker signs the authorization of its request; recovery rebuilds what it expects from the columns
of the row, which the claim copied from the payment requirements in other encodings. Both come from
requests that the upstream check accepted. The two agree when the authorized value is the required
amount. The upstream check only asks for at least this amount, and an authorization of more than the
required amount is signed and sent as a transaction that recovery then refuses.
-/

namespace X402Facilitator

open Program

section
variable [NearPrimitives] [EvmPrimitives]

/-! ## The two checks of recovery -/

/-- The recovery pass gets past the journal: the row names the process's signer, its admission policy
can be read, and its bytes pass the validator. -/
def AppState.recognises (state : AppState) (r : Settlement) : Bool :=
  match r.signerAddress, r.submittedTxHash, r.submittedTxRlp, r.signerAccountNonce,
      r.authorizationMetadata, evmPolicySnapshot r with
  | some signer, some hash, some bytes, some nonce, some metadata,
      .ok (gasLimit, maxFeePerGas, _) =>
    signer = state.provider.signerAccountId ∧ metadata.version = 2 ∧ nonce < 2 ^ 128 ∧
      (validateStoredSubmission state.provider bytes (storedEvmSubmission r
        ⟨signer, hash, bytes, nonce⟩ metadata gasLimit maxFeePerGas)).isOk
  | _, _, _, _, _, _ => false

omit [NearPrimitives] [EvmPrimitives] in
/-- The admission policy of a row that was reserved under a configuration is the configured one. -/
theorem evmPolicySnapshot_of_config {config : ServiceConfig} {eip155 : Eip155Config}
    {r : Settlement} (hkind : config.chainKind = .eip155) (heip155 : config.eip155 = some eip155)
    (hlaunch : config.LaunchesEip155 eip155) (hpolicy : r.policySnapshot = config.policySnapshot)
    (hnetwork : r.network = config.network) (hasset : eqIgnoreAsciiCase config.asset r.asset) :
    evmPolicySnapshot r =
      .ok (eip155.gasLimit, eip155.maxFeePerGasWei, eip155.requiredConfirmations) := by
  obtain ⟨hgas, hgas'⟩ := hlaunch.gasLimit
  obtain ⟨hfee, hfee'⟩ := hlaunch.maxFeePerGasWei
  obtain ⟨hdepth, hdepth'⟩ := hlaunch.confirmations
  have hu64 {n : Nat} (h : n < 2 ^ 64) : (Json.number (.posInt n)).asU64? = some n := if_pos h
  have hdepth64 : eip155.requiredConfirmations < 2 ^ 64 := by omega
  have hchain64 : eip155.chainId < 2 ^ 64 := by
    obtain h | h := hlaunch.chainId <;> rw [h] <;> decide
  have hchain : networkChainId? config.network = some eip155.chainId := by
    rw [hlaunch.network]
    obtain h | h := hlaunch.chainId <;> rw [h] <;> decide
  have hfeeText : parseUnsigned? 128 eip155.maxFeePerGasWei.repr = some eip155.maxFeePerGasWei :=
    parseUnsigned?_toString hfee'
  unfold evmPolicySnapshot
  rw [hpolicy, hnetwork]
  simp [ServiceConfig.policySnapshot, Json.get?, Members.lookup, Json.asStr?, hkind, heip155,
    ChainKind.asStr, hasset, Json.isObject, hu64 hgas', hu64 hdepth64, hu64 hchain64, hchain,
    orCorrupt, Option.filter_some, hgas, hfee, hfeeText, hdepth, bind, Except.bind, pure, Except.pure]

omit [NearPrimitives] in
/-- Recovery accepts the signed bytes of an authorization when every column of the row reads as its
part of the authorization. -/
theorem validateStoredSubmission_of_columns {provider : EvmProvider} {bytes : Bytes}
    {binding : StoredEvmSubmission} {authorization : Erc3009Authorization} {txHash : Hash32}
    (hfits : authorization.Fits)
    (hnetwork : binding.network = provider.caip2)
    (hhash : parseB256 binding.hash = some txHash)
    (hsubmitter : parseAddress binding.submitter = some provider.signerAddress)
    (hnonce : binding.nonce < 2 ^ 64)
    (hasset : parseAddress binding.asset = some provider.asset)
    (hpayer : parseAddress binding.payer = some authorization.payer)
    (hpayee : parseAddress binding.payee = some authorization.payee)
    (hamount : binding.amount = authorization.value)
    (hvalidAfter : parseU256 binding.validAfter = some authorization.validAfter)
    (hvalidBefore : parseU256 binding.validBefore = some authorization.validBefore)
    (hscope : binding.anchorScope =
      Settlement.evmAnchorScope binding.network binding.asset binding.payer)
    (hanchor : binding.anchorValue = authorization.nonce)
    (hpayment : binding.paymentHash = eip712TransferHash authorization provider.transferDomain)
    (hvalid : validateSignedTransaction bytes (expectedSubmission txHash provider.signerAddress
      provider.chainId binding.nonce provider.asset binding.gasLimit binding.maxFeePerGas
      authorization provider.transferDomain) = .ok ()) :
    validateStoredSubmission (.evm provider) bytes binding = .ok () := by
  have hvalue := hfits.1
  simp only [expectedSubmission] at hvalid
  simp only [validateStoredSubmission, hnetwork, hhash, hsubmitter, hasset, hpayer, hpayee, hamount,
    hvalidAfter, hvalidBefore, hscope, hanchor, hpayment, bind, Except.bind, ne_eq,
    not_true_eq_false, if_false, Nat.not_le.mpr hnonce, Nat.not_le.mpr hvalue, hvalid]

/-! ## What upstream accepted -/

/-- What the upstream check accepted. -/
def LogEntry.accepted? (entry : LogEntry) : Option (Eip3009Payload × ExactRequirements) :=
  match entry.event with
  | ⟨.ask (.evmVerify payload requirements), .ok (.valid _)⟩ => some (payload, requirements)
  | _ => none

/-- The payments that the upstream check accepted in the run. -/
def World.accepted (w : World) : List (Eip3009Payload × ExactRequirements) :=
  w.log.filterMap LogEntry.accepted?

/-- What is assumed of the upstream check: the payload accepts the requirements, and authorizes the
payee for at least the required amount. -/
@[mk_iff]
structure UpstreamChecked (payload : Eip3009Payload) (requirements : ExactRequirements) : Prop where
  accepted : payload.accepted = requirements
  payee : payload.authorization.payee = requirements.payTo
  value : requirements.amount ≤ payload.authorization.value

instance (payload : Eip3009Payload) (requirements : ExactRequirements) :
    Decidable (UpstreamChecked payload requirements) :=
  decidable_of_iff _ (upstreamChecked_iff payload requirements).symm

/-- A verified EVM payment carries the authorization of its request, which upstream accepted. -/
structure EvmChecked (h : History Op.Answer) (provider : EvmProvider) (request : Json)
    (payment : EvmVerifiedPayment) (payload : Eip3009Payload) (requirements : ExactRequirements) :
    Prop where
  request : EvmPrimitives.facilitatorRequest request = some (.eip3009 payload requirements)
  asset : payload.accepted.asset = provider.asset
  asked : ∃ payer, Asked h (.evmVerify payload requirements) (.ok (.valid payer))
  payer : payment.payer = payload.authorization.payer
  authorization : payment.authorization = payload.authorization
  paymentHash : payment.paymentHash =
    eip712TransferHash payload.authorization provider.transferDomain

theorem VerifiedFrom.checked {h : History Op.Answer} {request : Json} {maxSponsoredGas : Nat}
    {provider : EvmProvider} {payment : VerifiedPayment}
    (hverified : VerifiedFrom h request maxSponsoredGas (.evm provider) payment) :
    ∃ evm payload requirements, payment = .ofEvm provider evm ∧
      EvmChecked h provider request evm payload requirements := by
  cases hverified with
  | @evm _ payload requirements paymentHash response evm hrequest hsignature hasked hverified =>
    obtain ⟨hrequest, hasset⟩ := eip3009Request_ok hrequest
    obtain ⟨payer, rfl, hpayer, hhash, hauthorization, -⟩ := evmVerified_ok hverified
    exact ⟨evm, payload, requirements, rfl, hrequest, hasset, ⟨payer, hasked⟩, hpayer, hauthorization,
      hhash.trans (classifySignatureBeforeRpc_ok hsignature)⟩

/-- The columns of a row state the authorization, in the encodings of the journal. -/
structure RowIdentity.Authorizes (row : RowIdentity) (config : ServiceConfig)
    (provider : EvmProvider) (authorization : Erc3009Authorization) : Prop where
  chainKind : row.chainKind = .eip155
  network : row.network = config.network
  configured : eqIgnoreAsciiCase config.asset row.asset
  asset : parseAddress row.asset = some provider.asset
  payer : row.payer = addressText authorization.payer
  payTo : parseAddress row.payTo = some authorization.payee
  amount : row.amount = authorization.value
  metadata : row.authorizationMetadata =
    some ⟨2, toString authorization.validAfter, toString authorization.validBefore⟩
  anchorValue : row.anchorValue = authorization.nonce
  paymentHash : row.paymentHash = eip712TransferHash authorization provider.transferDomain
  signer : row.signerAddress = some (addressText provider.signerAddress)

/-- A claim states the authorization of its request. -/
theorem ClaimJustified.authorizes {state : AppState} {provider : EvmProvider}
    {h : History Op.Answer} {new : NewSettlement} (hnew : ClaimJustified state h new)
    (hprovider : state.provider = .evm provider)
    (hchecked : ∀ payload requirements payer,
      Asked h (.evmVerify payload requirements) (.ok (.valid payer)) →
        UpstreamChecked payload requirements ∧
          payload.authorization.value = requirements.amount) :
    ∃ payload requirements payer, Asked h (.evmVerify payload requirements) (.ok (.valid payer)) ∧
      ∀ usageDate now, (new.row usageDate now).identity.Authorizes state.config provider
        payload.authorization := by
  obtain ⟨id, client, request, paymentHash, verified, hadmitted, rfl⟩ := hnew
  have hverified := hadmitted.verifiedFrom
  rw [hprovider] at hverified
  obtain ⟨payment, payload, requirements, rfl, hpayment⟩ := hverified.checked
  obtain ⟨payer, hasked⟩ := hpayment.asked
  refine ⟨payload, requirements, payer, hasked, fun usageDate now => ?_⟩
  obtain ⟨hupstream, hvalue⟩ := hchecked payload requirements payer hasked
  obtain ⟨hreads, -⟩ := EvmPrimitives.facilitatorRequest_reads hpayment.request
  obtain ⟨body, -, hparsed⟩ := hadmitted.parsed
  obtain ⟨value, -, -, hmetadata, hraw⟩ := parseRequest_ok hparsed
  have hrequest := parseMetadata_reads hmetadata
  rw [← hraw] at hrequest
  obtain ⟨text, htext, hdecimal⟩ := hrequest.amount
  have hmeets := meets_of_staticFailureReason hadmitted.static
  have hserves := state.serves hprovider
  have hasset := hmeets.asset
  rw [hserves.chainKind] at hasset
  exact {
    chainKind := rfl
    network := hmeets.network
    configured := (of_decide_eq_true hasset).symm
    asset := by
      rw [← hpayment.asset, hupstream.accepted]
      exact hreads.asset _ hrequest.asset
    payer := congrArg addressText hpayment.payer
    payTo := by
      rw [hupstream.payee]
      exact hreads.payTo _ hrequest.payTo
    amount := by
      rw [hvalue]
      exact (hreads.amount text _ htext hdecimal).symm
    metadata := by
      rw [← hpayment.authorization]
      rfl
    anchorValue := by
      rw [← hpayment.authorization]
      rfl
    paymentHash := hpayment.paymentHash
    signer := by
      change some state.provider.signerAccountId = _
      rw [hprovider]
      rfl }

namespace World

variable {moves : List Move} {config : ServiceConfig} {relayerKey : Bytes}

/-- What an issuing thread was told by upstream is among what upstream accepted. -/
theorem Issued.accepted {t : Thread} {o : Op} (h : Issued moves t o) {payload : Eip3009Payload}
    {requirements : ExactRequirements} {payer : String}
    (hasked : Asked t.past (.evmVerify payload requirements) (.ok (.valid payer))) :
    (payload, requirements) ∈ (after moves).accepted := by
  obtain ⟨entry, hentry, hevent⟩ := h.logged hasked
  exact List.mem_filterMap.mpr ⟨entry, hentry, by rw [LogEntry.accepted?, hevent]⟩

/-- The hash of a payment authorization has no collisions among those that upstream accepted. -/
def CollisionFree (w : World) : Prop :=
  ∀ v ∈ w.accepted, ∀ v' ∈ w.accepted, ∀ domain,
    eip712TransferHash v.1.authorization domain = eip712TransferHash v'.1.authorization domain →
      v.1.authorization = v'.1.authorization

/-- The columns of a prepared EVM row state the authorization that was signed for it. -/
theorem PreparedEvmBy.authorizes {r : Settlement} {t : Thread} {entry : EvmPreparedJournalEntry}
    (hprepared : PreparedEvmBy moves r t entry) (hr : r ∈ (after moves).db.settlements)
    (huses : ∀ m ∈ moves, m.uses config relayerKey)
    (hupstream : ∀ v ∈ (after moves).accepted, UpstreamChecked v.1 v.2)
    (hexact : ∀ v ∈ (after moves).accepted, v.1.authorization.value = v.2.amount)
    (hideal : (after moves).CollisionFree) :
    ∃ provider payment, t.role.state.provider = .evm provider ∧
      SignedEvm provider payment entry ∧ payment.authorization.Fits ∧
      payment.paymentHash = eip712TransferHash payment.authorization provider.transferDomain ∧
      r.identity.Authorizes config provider payment.authorization := by
  obtain ⟨-, provider, payment, hprovider, hconfirmed, hsigned, -⟩ := hprepared.issued.justified
  obtain ⟨request, -, hverified⟩ := hconfirmed.verified
  rw [hprovider] at hverified
  obtain ⟨payment', payload, requirements, hpayment', hpayment⟩ := hverified.checked
  obtain rfl : payment = payment' :=
    VerifiedDetail.evm.inj (congrArg VerifiedPayment.detail hpayment')
  obtain ⟨payer, hasked⟩ := hpayment.asked
  have haccepted := hprepared.issued.accepted (session_subset _ hasked)
  -- The worker compared the payment hash of the row with that of what it then signed.
  obtain ⟨journaled, hread, hmatches⟩ := hconfirmed.journaled
  obtain ⟨hid, hwitnessed⟩ := hprepared.issued.attested (session_subset _ hread) journaled rfl
  have hidentity := (hwitnessed.evolves hr (hprepared.id.symm.trans hid.symm)).identity
  have hmatches := (of_decide_eq_true hmatches).2.1
  have hhash : r.paymentHash = payment.paymentHash :=
    (congrArg RowIdentity.paymentHash hidentity).trans hmatches
  obtain ⟨claimer, new, hclaim⟩ := exists_claim moves r hr
  obtain ⟨usageDate, hissued⟩ := hclaim.issued
  obtain ⟨hconfig, hkey⟩ := hissued.uses huses
  obtain ⟨hconfig', hkey'⟩ := hprepared.issued.uses huses
  have hprovider' : claimer.role.state.provider = .evm provider :=
    (AppState.provider_eq (hconfig.trans hconfig'.symm) (hkey.trans hkey'.symm)).trans hprovider
  obtain ⟨payload', requirements', payer', hasked', hauthorizes⟩ :=
    hclaim.justified.authorizes hprovider' fun payload requirements payer hasked =>
      ⟨hupstream _ (hissued.accepted hasked), hexact _ (hissued.accepted hasked)⟩
  obtain ⟨usageDate', now, hclaimed⟩ := hclaim.identity
  have hauthorizes := hauthorizes usageDate' now
  rw [← hclaimed, hconfig] at hauthorizes
  have hsame : payload'.authorization = payload.authorization := by
    refine hideal _ (hissued.accepted hasked') _ haccepted provider.transferDomain ?_
    exact hauthorizes.paymentHash.symm.trans (hhash.trans hpayment.paymentHash)
  rw [hsame, ← hpayment.authorization] at hauthorizes
  refine ⟨provider, payment, hprovider, hsigned, ?_, ?_, hauthorizes⟩
  · rw [hpayment.authorization]
    exact (EvmPrimitives.facilitatorRequest_reads hpayment.request).2
  · rw [hpayment.authorization]
    exact hpayment.paymentHash

/-- Recovery recognises every prepared row. -/
theorem recognises_of_prepared (huses : ∀ m ∈ moves, m.uses config relayerKey)
    (hupstream : ∀ v ∈ (after moves).accepted, UpstreamChecked v.1 v.2)
    (hexact : ∀ v ∈ (after moves).accepted, v.1.authorization.value = v.2.amount)
    (hideal : (after moves).CollisionFree) {r : Settlement}
    (hr : r ∈ (after moves).db.settlements) (hbytes : r.submittedTxRlp.isSome = true)
    {state : AppState} (hconfig : state.config = config) (hkey : state.relayerKey = relayerKey) :
    state.recognises r = true := by
  obtain ⟨t, entry, hprepared⟩ := exists_prepareEvm moves r hr hbytes
  obtain ⟨provider, payment, hprovider, hsigned, hfits, hhash, hrow⟩ :=
    hprepared.authorizes hr huses hupstream hexact hideal
  obtain ⟨hconfig', hkey'⟩ := hprepared.issued.uses huses
  have hstate : state.provider = .evm provider :=
    (AppState.provider_eq (hconfig.trans hconfig'.symm) (hkey.trans hkey'.symm)).trans hprovider
  have hserves := state.serves hstate
  have hlaunch := ServiceConfig.launchesEip155 state.validated hserves.chainKind hserves.eip155
  rw [hconfig] at hserves hlaunch
  have hcaip2 : r.network = provider.caip2 := hrow.network.trans hlaunch.network
  have hpolicy : evmPolicySnapshot r =
      .ok (provider.gasLimit, provider.maxFeePerGas, provider.requiredConfirmations) := by
    obtain ⟨reserver, op, hissued, hpolicy⟩ := exists_policy moves r hr
    rw [(hissued.uses huses).1] at hpolicy
    exact evmPolicySnapshot_of_config hserves.chainKind hserves.eip155 hlaunch hpolicy hrow.network
      hrow.configured
  obtain ⟨txHash, htext, calldata, fees, prepared, hcalldata, hfees, hsign, hrlp, rfl⟩ :=
    hsigned.signed
  rw [hhash] at hcalldata
  have hvalid := validateSignedTransaction_of_signed hfits rfl rfl rfl hcalldata hfees hsign
  have hscope : r.anchorScope = Settlement.evmAnchorScope r.network r.asset r.payer := by
    obtain ⟨hnear, -⟩ | ⟨-, hscope⟩ := ((after moves).db.constraints.checks r hr).anchorScope
    · cases hnear.symm.trans hrow.chainKind
    · exact hscope
  have hstored : validateStoredSubmission (.evm provider) entry.submittedTxRlp
      (storedEvmSubmission r ⟨addressText provider.signerAddress, entry.submittedTxHash,
        entry.submittedTxRlp, entry.signerAccountNonce⟩
        ⟨2, toString payment.authorization.validAfter, toString payment.authorization.validBefore⟩
        provider.gasLimit provider.maxFeePerGas) = .ok () := by
    refine validateStoredSubmission_of_columns hfits hcaip2 ?_
      (parseAddress_addressText _) hsigned.nonce hrow.asset ?_ hrow.payTo hrow.amount
      (parseU256_toString hfits.2.1) (parseU256_toString hfits.2.2) hscope hrow.anchorValue
      hrow.paymentHash (hrlp ▸ hvalid)
    · exact htext ▸ parseB256_b256Text _
    · exact (congrArg parseAddress hrow.payer).trans (parseAddress_addressText _)
  have hsigner : r.signerAddress = some (addressText provider.signerAddress) := hrow.signer
  have hmetadata : r.authorizationMetadata = some ⟨2, toString payment.authorization.validAfter,
      toString payment.authorization.validBefore⟩ := hrow.metadata
  have hnonce : entry.signerAccountNonce < 2 ^ 128 := hsigned.nonce.trans (by decide)
  simp only [AppState.recognises, hsigner, hprepared.hash, hprepared.bytes, hprepared.nonce, hmetadata,
    hpolicy, hstate, ChainProvider.signerAccountId, hstored, hnonce, true_and, decide_eq_true_eq]
  rfl

end World

open World in
/-- In every run of processes with one configuration and key, in which every payment that upstream
accepts is authorized for exactly the required amount: recovery recognises every EVM row from the
moment it is prepared, and what is sent are the bytes of a row that the sender's own recovery
recognises. -/
theorem recovery_recognises_prepared (moves : List Move) (config : ServiceConfig)
    (relayerKey : Bytes) (huses : ∀ m ∈ moves, m.uses config relayerKey)
    (hupstream : ∀ v ∈ (after moves).accepted, UpstreamChecked v.1 v.2)
    (hideal : (after moves).CollisionFree)
    (hexact : ∀ v ∈ (after moves).accepted, v.1.authorization.value = v.2.amount) :
    (∀ r ∈ (after moves).db.settlements, r.submittedTxRlp.isSome = true →
      ∀ state : AppState, state.config = config → state.relayerKey = relayerKey →
        state.recognises r = true) ∧
    ∀ m t bytes, (after moves).issued? m = some (t, .ask (.evmSend bytes)) →
      ∃ r ∈ (after moves).db.settlements, r.submittedTxRlp = some bytes ∧
        t.role.state.recognises r = true := by
  refine ⟨fun r hr hbytes state hconfig hkey =>
    recognises_of_prepared huses hupstream hexact hideal hr hbytes hconfig hkey, ?_⟩
  intro m t bytes hissued
  obtain ⟨ht, next, hcall⟩ := issued?_eq_some hissued
  obtain ⟨r, hsend, hbytes⟩ := (justified_after moves ht hcall).resolve_left (by simp [Op.locks])
  obtain ⟨row, hrow⟩ := hsend.knows.holds (attested_after moves t ht).session
  have hstored := hrow.submittedTxRlp.trans hbytes
  obtain ⟨p, hp, hstate⟩ := hosted_after moves t ht
  obtain ⟨hconfig, hkey⟩ := processes_use huses p (List.mem_of_getElem? hp)
  rw [hstate] at hconfig hkey
  exact ⟨row, hrow.mem, hstored, recognises_of_prepared huses hupstream hexact hideal hrow.mem
    (by rw [hstored]; rfl) hconfig hkey⟩

end

/-! ## An authorization of more than the required amount -/

section
open Sample World

local instance recognitionNear : NearPrimitives := nearPrimitives
local instance recognitionEvm : EvmPrimitives := evmPrimitives

/-- The worker of a request for 1000 units with an authorization of this value is about to send its
transaction. -/
def Sample.baseSending (value : String) : List Move := baseClaimed value ++ steps answer 33 5

set_option maxRecDepth 100000 in
theorem recovery_recognises_prepared_baseSending :
    ∃ r ∈ (after (baseSending "1000")).db.settlements,
      (after (baseSending "1000")).sends (next 5) = r.submittedTxRlp ∧
      r.submittedTxRlp.isSome = true ∧
      ∀ state : AppState, state.config = baseConfig 1 → state.relayerKey = [1] →
        state.recognises r = true := by
  have hrun : (∀ m ∈ baseSending "1000", m.uses (baseConfig 1) [1]) ∧
      (∀ v ∈ (after (baseSending "1000")).accepted, UpstreamChecked v.1 v.2 ∧
        v.1.authorization = ⟨10, 11, 1000, 0, 500, 9⟩ ∧ v.2.amount = 1000) ∧
      ∃ r ∈ (after (baseSending "1000")).db.settlements,
        (after (baseSending "1000")).sends (next 5) = r.submittedTxRlp ∧
        r.submittedTxRlp.isSome = true := by decide +kernel
  obtain ⟨huses, haccepted, r, hr, hsends, hbytes⟩ := hrun
  refine ⟨r, hr, hsends, hbytes, ?_⟩
  refine (recovery_recognises_prepared _ _ _ huses (fun v hv => (haccepted v hv).1) ?_ ?_).1 r hr hbytes
  · intro v hv v' hv' _ _
    rw [(haccepted v hv).2.1, (haccepted v' hv').2.1]
  · intro v hv
    rw [(haccepted v hv).2.1, (haccepted v hv).2.2]

set_option maxRecDepth 100000 in
/-- An authorization of 2000 units for a requirement of 1000 passes every check; its transaction is
prepared and sent, and recovery does not recognise the row. -/
theorem overpaid_row_is_not_recognised :
    (∀ m ∈ baseSending "2000", m.uses (baseConfig 1) [1]) ∧
    (∀ v ∈ (after (baseSending "2000")).accepted, UpstreamChecked v.1 v.2 ∧
      v.1.authorization = ⟨10, 11, 2000, 0, 500, 9⟩ ∧ v.2.amount = 1000) ∧
    ∃ r ∈ (after (baseSending "2000")).db.settlements, r.amount = 1000 ∧
      (after (baseSending "2000")).sends (next 5) = r.submittedTxRlp ∧
      r.submittedTxRlp.isSome = true ∧
      ∃ p ∈ (after (baseSending "2000")).processes, p.alive = true ∧
        p.state.recognises r = false := by
  decide +kernel

end

end X402Facilitator
