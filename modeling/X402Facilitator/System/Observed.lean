import X402Facilitator.Near.ReceiptGraph
import X402Facilitator.Service.Quiet
import X402Facilitator.System.Evidence

/-!
# What the chain programs have seen

The programs that look at a chain or sign for it, with what their result says about the answers they
got: a signer head about the readers' blocks and access keys, a terminal verdict about the final
outcome or the receipts it was read from, a prepared submission about the key that signed it.
-/

namespace X402Facilitator

open Program Service

variable {G : History Op.Answer → Op → Prop} {α β ε : Type}

/-! ## Combinators -/

theorem Asked.append_left {own h : History Op.Answer} {query : Query} {answer : query.Answer}
    (hasked : Asked h query answer) : Asked (own ++ h) query answer :=
  List.mem_append_right own hasked

theorem Asked.append_right {own h : History Op.Answer} {query : Query} {answer : query.Answer}
    (hasked : Asked own query answer) : Asked (own ++ h) query answer :=
  List.mem_append_left h hasked

theorem andThen_yields {x : Except ε α} {f : α → Service (Except ε β)}
    {Saw : Except ε β → History Op.Answer → Prop} (herror : ∀ e, x = .error e → Saw (.error e) [])
    (hok : ∀ a, x = .ok a → Yields G (f a) Saw) : Yields G (andThen x f) Saw := by
  cases x with
  | error e => exact .pure (herror e rfl)
  | ok a => exact hok a rfl

/-- A repeated call ends with the answer of its last attempt. -/
theorem retryWhileTransient_yields {call : Service α} {transient : α → Bool}
    {Saw : α → History Op.Answer → Prop} (hcall : Yields G call Saw)
    (hmono : ∀ a own own', Saw a own → Saw a (own ++ own')) :
    Yields G (retryWhileTransient call transient) Saw := by
  refine .bind hcall fun first own hfirst => ?_
  split
  · exact .pure hfirst
  refine .bind hcall fun second own' hsecond => ?_
  split
  · exact .pure (hmono _ _ _ hsecond)
  · exact hcall.conseq fun a own'' ha => by
      simpa only [List.append_assoc] using hmono _ _ (own' ++ own) ha

theorem retryRead_yields {read : Service (Except ε α)}
    {Saw : Except ε α → History Op.Answer → Prop} (hread : Yields G read Saw)
    (hmono : ∀ a own own', Saw a own → Saw a (own ++ own')) : Yields G (retryRead read) Saw :=
  retryWhileTransient_yields hread hmono

theorem mergeReads_ok {merge : α → α → Except ε β} {primary backup : Except ε α} {b : β}
    (h : mergeReads merge primary backup = .ok b) :
    ∃ p q, primary = .ok p ∧ backup = .ok q ∧ merge p q = .ok b := by
  cases primary with
  | error e => cases h
  | ok p =>
    cases backup with
    | error e => cases h
    | ok q => exact ⟨p, q, rfl, rfl, h⟩

/-! ## NEAR heads and lookups -/

theorem SawRelayerHead.mono {h h' : History Op.Answer} {relayer : NearProvider} {reader : Reader}
    {head : RelayerHead} (hhead : SawRelayerHead h relayer reader head) (hsubset : h ⊆ h') :
    SawRelayerHead h' relayer reader head :=
  ⟨hsubset hhead.1, hsubset hhead.2⟩

/-- A signer head of a NEAR provider is what the reader returned. -/
def SawSignerHead (h : History Op.Answer) (relayer : NearProvider) (reader : Reader)
    (head : SignerHead) : Prop :=
  ∃ blockHash, SawRelayerHead h relayer reader
    ⟨head.chainBlockHeight, blockHash, head.signerNonce⟩

theorem SawSignerHead.mono {h h' : History Op.Answer} {relayer : NearProvider} {reader : Reader}
    {head : SignerHead} (hhead : SawSignerHead h relayer reader head) (hsubset : h ⊆ h') :
    SawSignerHead h' relayer reader head :=
  hhead.imp fun _ h => h.mono hsubset

theorem SawSignerHead.append_left {own h : History Op.Answer} {relayer : NearProvider}
    {reader : Reader} {head : SignerHead} (hhead : SawSignerHead h relayer reader head) :
    SawSignerHead (own ++ h) relayer reader head :=
  hhead.mono (List.subset_append_right own h)

theorem nearFinalOutcome_eq_some {answer : Except NearRpcError TransactionLookup}
    {outcome : FinalExecutionOutcomeView} (h : nearFinalOutcome answer = some outcome) :
    answer = .ok (.final outcome) := by
  unfold nearFinalOutcome at h
  split at h
  · rw [Option.some.inj h]
  · cases h

section
variable (hG : ∀ h o, o.Quiet → G h o)
include hG

theorem ask_yields {query : Query} (hquery : query.sends = false) :
    Yields G (ask query) fun answer own => Asked own query answer :=
  .perform (fun h => hG h _ hquery) fun _ => List.mem_singleton_self _

theorem Quiet.yields {p : Service α} (hp : Quiet p) : Yields G p fun _ _ => True := by
  intro h
  refine (hp.obeys (G := G) (I := fun h' => ∃ own, h' = own ++ h) (fun h' o _ ho => hG h' o ho) ?_
    ⟨[], rfl⟩).conseq fun _ _ _ ⟨own, hown⟩ => ⟨own, hown, trivial⟩
  rintro e _ ⟨own, rfl⟩ -
  exact ⟨e :: own, rfl⟩

theorem relayerHeadFrom_yields (relayer : NearProvider) (reader : Reader) :
    Yields G (relayerHeadFrom relayer reader) fun result own =>
      ∀ head, result = .ok head → SawRelayerHead own relayer reader head := by
  refine .bind (ask_yields hG rfl) fun block own hblock => ?_
  refine andThen_yields (fun e _ head h => by cases h) fun block' hok => ?_
  subst hok
  refine .bind (ask_yields hG rfl) fun accessKey own' hkey => ?_
  refine andThen_yields (fun e _ head h => by cases h) fun accessKey' hok => ?_
  subst hok
  obtain ⟨nonce, fullAccess⟩ := accessKey'
  cases fullAccess with
  | false => exact .pure fun head h => by cases h
  | true =>
    refine .pure fun head h => ?_
    obtain rfl := Except.ok.inj h
    exact ⟨hblock.append_left, hkey.append_right⟩

theorem relayerStatus_yields (relayer : NearProvider) :
    Yields G (relayerStatus relayer) fun result own => ∀ status, result = .ok status →
      SawRelayerHead own relayer .primary
        ⟨status.blockHeight, status.blockHash, status.accessKeyNonce⟩ ∧
      Asked own (.nearAccount status.blockHash relayer.accountId) (.ok status.amount) := by
  refine .bind (relayerHeadFrom_yields hG relayer .primary) fun head own hhead => ?_
  refine andThen_yields (fun e _ status h => by cases h) fun head' hok => ?_
  refine .bind (ask_yields hG rfl) fun amount own' hamount => ?_
  refine andThen_yields (fun e _ status h => by cases h) fun amount' hok' => .pure ?_
  intro status h
  obtain rfl := Except.ok.inj h
  subst hok'
  exact ⟨(hhead head' hok).mono (List.subset_append_right _ _), hamount.append_right⟩

end

section
variable [NearPrimitives]

/-- A final outcome is terminal when it identifies the transaction and the transfer succeeded or
definitively failed. -/
theorem interpretNearFinal_terminal {outcome : FinalExecutionOutcomeView} {hash : CryptoHash}
    {signer payer asset : AccountId} {terminal : TerminalOutcome}
    (h : interpretNearFinal outcome hash signer payer asset = .terminal terminal) :
    outcome.Identifies hash signer payer ∧
      ((outcome.TransferSucceeded payer asset ∧ terminal = nearTerminal outcome hash none) ∨
        ∃ error, interpretFinalOutcome outcome payer asset = .error error ∧
          error.isDefinitiveFailure = true ∧
          terminal = nearTerminal outcome hash (some error.message)) := by
  unfold interpretNearFinal at h
  split at h
  · cases h
  · rename_i hidentity
    refine ⟨validateFinalOutcomeIdentity_ok.mp hidentity, ?_⟩
    split at h
    · rename_i receipt hreceipt
      exact .inl ⟨interpretFinalOutcome_ok hreceipt, (NearInterpretation.terminal.inj h).symm⟩
    · rename_i error herror
      split at h
      · rename_i hdefinitive
        exact .inr ⟨error, herror, hdefinitive, (NearInterpretation.terminal.inj h).symm⟩
      · cases h

/-- What a verdict on a NEAR transaction says about the two lookups. -/
def SawVerdict (h : History Op.Answer) (relayer : NearProvider) (hash : CryptoHash)
    (signer payer asset : AccountId) : ReconcileVerdict → Prop
  | .terminal terminal => ∃ outcome, SawFinal h hash outcome ∧
      interpretNearFinal outcome hash relayer.accountId payer asset = .terminal terminal
  | .unknown => SawUnknownNear h hash signer
  | _ => True

theorem reconcileNear_yields (hG : ∀ h o, o.Quiet → G h o) (relayer : NearProvider) (hash : CryptoHash)
    (signer payer asset : AccountId) :
    Yields G (ChainProvider.reconcileNear relayer hash signer payer asset) fun verdict own =>
      SawVerdict own relayer hash signer payer asset verdict := by
  refine .bind (ask_yields hG rfl) fun primary own hprimary => ?_
  refine .bind (ask_yields hG rfl) fun backup own' hbackup => ?_
  have hprimary' := List.mem_append_right own' hprimary
  have hbackup' := hbackup.append_right (h := own)
  dsimp only
  split
  · exact .pure trivial
  split
  · rename_i outcome houtcome
    have hseen : SawFinal (own' ++ own) hash outcome := by
      obtain hfinal | ⟨-, hfinal⟩ := Option.or_eq_some_iff.mp houtcome
      · rw [nearFinalOutcome_eq_some hfinal] at hprimary'
        exact .inl ⟨.primary, signer, hprimary'⟩
      · rw [nearFinalOutcome_eq_some hfinal] at hbackup'
        exact .inl ⟨.backup, signer, hbackup'⟩
    split
    · rename_i terminal hterminal
      exact .pure ⟨outcome, hseen, hterminal⟩
    · exact .pure trivial
  · split
    · exact .pure trivial
    split
    · rename_i hunknown
      refine .pure fun reader => ?_
      cases reader with
      | primary => exact ⟨primary, hprimary', hunknown.1⟩
      | backup => exact ⟨backup, hbackup', hunknown.2⟩
    · exact .pure trivial

end

/-! ## EVM receipts -/

section
variable [EvmPrimitives]

theorem SawReceipts.append_left {own h : History Op.Answer} {hash : Hash32} {facts : ReceiptFacts}
    (hseen : SawReceipts h hash facts) : SawReceipts (own ++ h) hash facts :=
  fun reader => (hseen reader).imp fun _ hvalue => ⟨hvalue.1.append_left, hvalue.2⟩

/-- What a terminal verdict on an EVM transaction rests on. -/
def SawTerminal (h : History Op.Answer) (chainId : Nat) (hash : Hash32) (required : Nat)
    (outcome : EvmTerminalOutcome) : Prop :=
  ∃ facts headBlock, SawConfirmed h hash facts chainId headBlock ∧ facts.blockNumber ≤ headBlock ∧
    required ≤ outcome.confirmations ∧ outcome.confirmations = depthUnder facts headBlock ∧
    outcome.success = facts.success ∧ outcome.txHash = hash

variable (hG : ∀ h o, o.Quiet → G h o)
include hG

/-- A receipt that a reader returned, as it is parsed. -/
theorem receiptOnce_yields (reader : Reader) (hash : Hash32) :
    Yields G (receiptOnce reader hash) fun result own => ∀ observation, result = .ok observation →
      ∃ value, Asked own (.evmReceipt reader hash) (.ok value) ∧
        parseRawReceipt hash value = .ok observation := by
  refine .bind (ask_yields hG rfl) fun value own hvalue => ?_
  refine andThen_yields (fun e _ observation h => by cases h) fun value' hok => .pure ?_
  subst hok
  exact fun observation h => ⟨value', hvalue, h⟩

/-- What a merged read of the receipts has seen. -/
theorem mergedReceipt_yields (hash : Hash32) :
    Yields G (mergedReceipt hash) fun result own =>
      (∀ facts, result = .ok (.mined facts) → SawReceipts own hash facts) ∧
        (result = .ok .unknown → ∀ reader, Asked own (.evmReceipt reader hash) (.ok none)) := by
  have hmono : ∀ (reader : Reader) (result : Except EvmRpcError ReceiptObservation)
      (own own' : History Op.Answer),
      (∀ observation, result = .ok observation → ∃ value,
        Asked own (.evmReceipt reader hash) (.ok value) ∧
          parseRawReceipt hash value = .ok observation) →
      ∀ observation, result = .ok observation → ∃ value,
        Asked (own ++ own') (.evmReceipt reader hash) (.ok value) ∧
          parseRawReceipt hash value = .ok observation :=
    fun _ _ _ _ h observation hok =>
      (h observation hok).imp fun _ hvalue => ⟨hvalue.1.append_right, hvalue.2⟩
  refine .bind (retryRead_yields (receiptOnce_yields hG .primary hash) (hmono .primary))
    fun primary own hprimary => ?_
  refine .bind (retryRead_yields (receiptOnce_yields hG .backup hash) (hmono .backup))
    fun backup own' hbackup => ?_
  have hread (observation : ReceiptObservation) (hp : primary = .ok observation)
      (hq : backup = .ok observation) (reader : Reader) :
      ∃ value, Asked (own' ++ own) (.evmReceipt reader hash) (.ok value) ∧
        parseRawReceipt hash value = .ok observation := by
    cases reader with
    | primary =>
      obtain ⟨value, hvalue, hparse⟩ := hprimary _ hp
      exact ⟨value, hvalue.append_left, hparse⟩
    | backup =>
      obtain ⟨value, hvalue, hparse⟩ := hbackup _ hq
      exact ⟨value, hvalue.append_right, hparse⟩
  refine .pure ⟨fun facts h reader => ?_, fun h reader => ?_⟩
  · obtain ⟨p, q, hp, hq, hmerge⟩ := mergeReads_ok h
    obtain ⟨rfl, rfl⟩ := mergeReceipts_mined hmerge
    exact hread _ hp hq reader
  · obtain ⟨p, q, hp, hq, hmerge⟩ := mergeReads_ok h
    obtain ⟨rfl, rfl⟩ := mergeReceipts_unknown hmerge
    obtain ⟨value, hvalue, hparse⟩ := hread _ hp hq reader
    exact parseRawReceipt_unknown hparse ▸ hvalue

theorem transactionOnce_yields (provider : EvmProvider) (reader : Reader) (hash : Hash32) :
    Yields G (transactionOnce provider reader hash) fun result own => result = .ok .missing →
      Asked own (.evmTransaction reader hash) (.ok none) := by
  refine .bind (ask_yields hG rfl) fun value own hvalue => ?_
  refine andThen_yields (fun e _ h => by cases h) fun value' hok => .pure fun h => ?_
  subst hok
  exact parseRawTransaction_missing h ▸ hvalue

theorem mergedTransaction_yields (provider : EvmProvider) (hash : Hash32) :
    Yields G (mergedTransaction provider hash) fun result own => result = .ok .missing →
      ∀ reader, Asked own (.evmTransaction reader hash) (.ok none) := by
  have hread (reader : Reader) : Yields G (retryRead (transactionOnce provider reader hash))
      fun result own => result = .ok .missing →
        Asked own (.evmTransaction reader hash) (.ok none) :=
    retryRead_yields (transactionOnce_yields hG provider reader hash)
      fun _ _ _ h hmissing => (h hmissing).append_right
  refine .bind (hread .primary) fun primary own hprimary => ?_
  refine .bind (hread .backup) fun backup own' hbackup => .pure fun h reader => ?_
  obtain ⟨p, q, hp, hq, hmerge⟩ := mergeReads_ok h
  obtain ⟨rfl, rfl⟩ := mergeTransactions_missing hmerge
  cases reader with
  | primary => exact (hprimary hp).append_left
  | backup => exact (hbackup hq).append_right

omit [EvmPrimitives] in
theorem safeBlockNumber_yields (provider : EvmProvider) :
    Yields G (safeBlockNumber provider) fun result own =>
      ∀ headBlock, result = .ok headBlock → SawHead own provider.chainId headBlock := by
  have hread (reader : Reader) : Yields G (retryRead (ask (.evmBlockHead reader)))
      fun result own => Asked own (.evmBlockHead reader) result :=
    retryRead_yields (ask_yields hG rfl) fun _ _ _ h => h.append_right
  refine .bind (hread .primary) fun primary own hprimary => ?_
  refine .bind (hread .backup) fun backup own' hbackup => .pure fun headBlock h => ?_
  obtain ⟨p, q, rfl, rfl, hmerge⟩ := mergeReads_ok h
  split at hmerge
  · cases hmerge
  · rename_i hchain
    obtain ⟨hp, hq⟩ := not_or.mp hchain
    rw [not_not] at hp hq
    obtain ⟨chain, number⟩ := p
    obtain ⟨chain', number'⟩ := q
    dsimp only at hp hq hmerge
    subst hp hq
    exact ⟨number, number', hprimary.append_left, hbackup.append_right,
      (Except.ok.inj hmerge).symm⟩

/-- What a status of an EVM transaction rests on. -/
def SawStatus (h : History Op.Answer) (chainId : Nat) (hash : Hash32) (required : Nat) :
    EvmReconcileStatus → Prop
  | .terminal outcome => SawTerminal h chainId hash required outcome
  | .unknown => SawUnknownEvm h hash
  | _ => True

theorem reconcileWithConfirmations_yields (provider : EvmProvider) (hash : Hash32)
    (required : Nat) :
    Yields G (reconcileWithConfirmations provider hash required) fun result own =>
      ∀ status, result = .ok status → SawStatus own provider.chainId hash required status := by
  unfold reconcileWithConfirmations
  split
  · exact .pure fun status h => by cases h
  refine .bind (mergedReceipt_yields hG hash) fun first own hfirst => ?_
  refine .bind (mergedTransaction_yields hG provider hash) fun transaction ownT htransaction => ?_
  refine andThen_yields (fun e _ status h => by cases h) fun first' hok => ?_
  refine andThen_yields (fun e _ status h => by cases h) fun transaction' hokT => ?_
  refine .bind (safeBlockNumber_yields hG provider) fun head ownH hhead => ?_
  refine andThen_yields (fun e _ status h => by cases h) fun headBlock hok' => ?_
  cases first' with
  | mined facts =>
    refine .bind (mergedReceipt_yields hG hash) fun second ownS hsecond => ?_
    refine andThen_yields (fun e _ status h => by cases h) fun rechecked hok'' => .pure ?_
    intro status h
    cases status with
    | terminal outcome =>
      obtain ⟨facts', hfacts, hrechecked, hterminal⟩ := classifyReconciliation_terminal h
      obtain rfl := ReceiptObservation.mined.inj hfacts
      obtain ⟨-, hblock, hrequired, hdepth, hsuccess, htx⟩ :=
        classifyConfirmations_terminal hterminal
      have hfirst' := hfirst.1 facts hok
      have hsecond' := hsecond.1 facts (hok''.trans (congrArg _ (Option.some.inj hrechecked)))
      obtain ⟨value, -, hparse⟩ := hfirst' .primary
      obtain ⟨_, -, hreceipt⟩ := parseRawReceipt_mined hparse
      refine ⟨facts, headBlock, ⟨ownS, ownH, ownT ++ own, [], ?_, hfirst'.append_left,
        hhead headBlock hok', hsecond'⟩, hblock, hrequired, hdepth, hsuccess,
        htx.trans hreceipt.txHash⟩
      simp
    | unknown =>
      cases (classifyReconciliation_unknown h).1
    | pending | mined => trivial
  | unknown | pending =>
    refine .pure fun status h => ?_
    cases status with
    | terminal outcome =>
      obtain ⟨facts, hfacts, -⟩ := classifyReconciliation_terminal h
      cases hfacts
    | unknown =>
      obtain ⟨hunknown, rfl⟩ := classifyReconciliation_unknown h
      rw [hunknown] at hok
      exact fun reader => ⟨(hfirst.2 hok reader).append_left,
        (htransaction hokT reader).append_left.append_right⟩
    | pending | mined => trivial

end

/-! ## Signer heads -/

section
variable [NearPrimitives] [EvmPrimitives] (hG : ∀ h o, o.Quiet → G h o)
include hG

/-- The head of the provider's signer is what its nodes reported. -/
inductive SawSigner (h : History Op.Answer) : ChainProvider → SignerHead → Prop
  | near {relayer : NearProvider} {head : SignerHead} {block : CryptoHash}
      (hhead : SawSignerHead h relayer .primary head)
      (hkey : head.signerPublicKey = relayer.publicKey)
      (hbalance : Asked h (.nearAccount block relayer.accountId) (.ok head.signerBalanceAtomic)) :
      SawSigner h (.near relayer) head
  | evm {provider : EvmProvider} {head : SignerHead}
      (hhead : SawEndpoints h provider head.signerNonce head.signerBalanceAtomic)
      (hkey : head.signerPublicKey = addressText provider.signerAddress) :
      SawSigner h (.evm provider) head

omit [NearPrimitives] hG in
theorem SawEndpoints.mono {h h' : History Op.Answer} {provider : EvmProvider} {nonce balance : Nat}
    (hhead : SawEndpoints h provider nonce balance) (hsubset : h ⊆ h') :
    SawEndpoints h' provider nonce balance := by
  obtain ⟨primary, backup, hprimary, hbackup, hrest⟩ := hhead
  exact ⟨primary, backup, hsubset hprimary, hsubset hbackup, hrest⟩

omit [NearPrimitives] hG in
theorem SawSigner.mono {h h' : History Op.Answer} {provider : ChainProvider} {head : SignerHead}
    (hseen : SawSigner h provider head) (hsubset : h ⊆ h') : SawSigner h' provider head := by
  cases hseen with
  | near hhead hkey hbalance => exact .near (hhead.mono hsubset) hkey (hsubset hbalance)
  | evm hhead hkey => exact .evm (hhead.mono hsubset) hkey

omit [NearPrimitives] hG in
theorem SawSigner.head_near {h : History Op.Answer} {relayer : NearProvider} {head : SignerHead}
    (hseen : SawSigner h (.near relayer) head) : SawSignerHead h relayer .primary head := by
  cases hseen with
  | near hhead hkey hbalance => exact hhead

omit [NearPrimitives] hG in
theorem SawSigner.balance_near {h : History Op.Answer} {relayer : NearProvider} {head : SignerHead}
    (hseen : SawSigner h (.near relayer) head) :
    ∃ block, Asked h (.nearAccount block relayer.accountId) (.ok head.signerBalanceAtomic) := by
  cases hseen with
  | near hhead hkey hbalance => exact ⟨_, hbalance⟩

omit [NearPrimitives] hG in
theorem SawSigner.head_evm {h : History Op.Answer} {provider : EvmProvider} {head : SignerHead}
    (hseen : SawSigner h (.evm provider) head) :
    SawEndpoints h provider head.signerNonce head.signerBalanceAtomic := by
  cases hseen with
  | evm hhead hkey => exact hhead

omit [NearPrimitives] hG in
theorem SawSigner.signerPublicKey {h : History Op.Answer} {provider : ChainProvider}
    {head : SignerHead} (hseen : SawSigner h provider head) :
    head.signerPublicKey = provider.signerPublicKey := by
  cases hseen with
  | near hhead hkey hbalance => exact hkey
  | evm hhead hkey => exact hkey

omit [NearPrimitives] in
theorem evmSnapshot_yields (provider : EvmProvider) :
    Yields G (evmSnapshot provider) fun result own => ∀ head, result = .ok head →
      SawEndpoints own provider head.accountNonce head.gasBalanceWei ∧
        head.signerAddress = provider.signerAddress := by
  have hread (reader : Reader) :
      Yields G (retryRead (ask (.evmEndpointHead reader provider.signerAddress)))
        fun result own => Asked own (.evmEndpointHead reader provider.signerAddress) result :=
    retryRead_yields (ask_yields hG rfl) fun _ _ _ h => h.append_right
  refine .bind (hread .primary) fun primary own hprimary => ?_
  refine .bind (hread .backup) fun backup own' hbackup => .pure fun head h => ?_
  unfold mergeHeadSnapshot at h
  split at h
  · cases h
  · cases h
  · cases h
  · rename_i primary backup
    obtain ⟨-, h⟩ := Except.of_ite_error h
    obtain ⟨hnonce, h⟩ := Except.of_ite_error h
    obtain rfl := Except.ok.inj h
    exact ⟨⟨primary, backup, hprimary.append_left, hbackup.append_right, rfl,
      (not_not.mp hnonce).symm, rfl⟩, rfl⟩

theorem signerHead_yields (provider : ChainProvider) :
    Yields G provider.signerHead fun result own =>
      ∀ head, result = .ok head → SawSigner own provider head := by
  cases provider with
  | near relayer =>
    refine .bind (relayerStatus_yields hG relayer) fun status own hstatus => ?_
    cases status with
    | error e => exact .pure fun head h => by cases h
    | ok status =>
      refine .pure fun head h => ?_
      obtain rfl := Except.ok.inj h
      obtain ⟨hhead, hbalance⟩ := hstatus status rfl
      exact .near ⟨status.blockHash, hhead⟩ rfl hbalance
  | evm provider =>
    have hhead : Yields G (evmHead provider) fun result own => ∀ head, result = .ok head →
        SawEndpoints own provider head.accountNonce head.gasBalanceWei ∧
          head.signerAddress = provider.signerAddress := by
      refine .bind (evmSnapshot_yields hG provider) fun result own hresult => ?_
      cases result with
      | error e => exact .pure fun head h => by cases h
      | ok head => exact .pure fun head' h => Except.ok.inj h ▸ hresult head rfl
    refine .bind hhead fun result own hresult => ?_
    cases result with
    | error e => exact .pure fun head h => by cases h
    | ok evmHead =>
      refine .pure fun head h => ?_
      obtain rfl := Except.ok.inj h
      obtain ⟨hseen, haddress⟩ := hresult evmHead rfl
      exact .evm hseen (congrArg addressText haddress)

theorem backupSignerHead_yields (relayer : NearProvider) :
    Yields G (ChainProvider.near relayer).backupSignerHead fun result own =>
      ∀ head, result = .ok head → SawSignerHead own relayer .backup head := by
  refine .bind (relayerHeadFrom_yields hG relayer .backup) fun head own hhead => ?_
  cases head with
  | error e => exact .pure fun head h => by cases h
  | ok relayerHead =>
    refine .pure fun head h => ?_
    obtain rfl := Except.ok.inj h
    exact ⟨relayerHead.blockHash, hhead relayerHead rfl⟩

omit hG in
theorem Vetted.append_right {state : AppState} {own h : History Op.Answer}
    (hvetted : Vetted state own) : Vetted state (own ++ h) := by
  obtain ⟨later, earlier, rfl, hlater⟩ := hvetted
  exact ⟨later, earlier ++ h, by simp, hlater⟩

omit hG in
theorem Vetted.append_left {state : AppState} {own h : History Op.Answer}
    (hown : ∀ e ∈ own, e.op.quarantines = false) (hvetted : Vetted state h) :
    Vetted state (own ++ h) := by
  obtain ⟨later, earlier, rfl, hlater⟩ := hvetted
  refine ⟨own ++ later, earlier, by simp, fun e he => ?_⟩
  exact (List.mem_append.mp he).elim (hown e) (hlater e)

/-- What `fresh_signer_head` has established about the head that it returns. -/
structure FreshHead (state : AppState) (h : History Op.Answer) (head : SignerHead) : Prop where
  vetted : Vetted state h
  funded : signerIsFunded state.config head.signerBalanceAtomic = true
  signer : SawSigner h state.provider head

theorem freshSignerHead_yields (state : AppState) :
    Yields G (freshSignerHead state) fun result own =>
      ∀ head, result = .ok head → FreshHead state own head := by
  unfold freshSignerHead
  refine .bind (signerHead_yields hG state.provider) fun head own hhead => ?_
  cases head with
  | error e =>
    exact .bind (Quiet.yields hG (Quiet.setRelayerGate false)) fun _ _ _ =>
      .pure fun head h => by cases h
  | ok head =>
    have hsigner := hhead head rfl
    dsimp only
    rw [hsigner.signerPublicKey]
    have hread : Yields G (store (.relayerIsActive state.relayerRow)) fun answer own =>
        own = [⟨.store (.relayerIsActive state.relayerRow), answer⟩] :=
      .perform (fun h => hG h _ rfl) fun _ => rfl
    refine .bind hread fun active own' hown' => ?_
    cases active with
    | error e => exact .pure fun head h => by cases h
    | ok active =>
      dsimp only
      split
      · exact .bind (Quiet.yields hG (Quiet.setRelayerGate false)) fun _ _ _ =>
          .pure fun head h => by cases h
      · rename_i hchecked
        obtain ⟨hactive, hfunded⟩ := not_or.mp hchecked
        rw [not_not] at hactive hfunded
        have hgate : Yields G (setRelayerGate true) fun _ own =>
            ∀ e ∈ own, e.op.quarantines = false :=
          .perform (fun h => hG h _ (.inr rfl)) fun _ => by simp [Op.quarantines]
        refine .bind hgate fun _ own'' hown'' => .pure fun head' h => ?_
        obtain rfl := Except.ok.inj h
        subst hown' hactive
        exact ⟨⟨own'', own, by simp, hown''⟩, hfunded,
          hsigner.mono (List.subset_append_right _ own)⟩

/-! ## Verdicts -/

/-- A verdict on a NEAR row, in terms of the columns it was asked for. -/
theorem reconcileStatus_near_yields (relayer : NearProvider)
    (submitHash signer payer asset : String) :
    Yields G ((ChainProvider.near relayer).reconcileStatus submitHash signer payer asset
      .nearFinality) fun verdict own => verdict = .ambiguous ∨
        ∃ hash signer' payer' asset', parseHash submitHash = some hash ∧ payer = payer'.text ∧
          asset = asset'.text ∧ SawVerdict own relayer hash signer' payer' asset' verdict := by
  unfold ChainProvider.reconcileStatus
  dsimp only
  split
  · rename_i hash signer' payer' asset' hhash _ hpayer hasset
    refine (reconcileNear_yields hG relayer hash signer' payer' asset').conseq fun verdict own h => ?_
    exact .inr ⟨hash, signer', payer', asset', hhash, (AccountId.parse_eq_some.mp hpayer).symm,
      (AccountId.parse_eq_some.mp hasset).symm, h⟩
  · exact .pure (.inl rfl)

/-- What a verdict on an EVM row rests on. -/
def SawVerdictEvm (h : History Op.Answer) (provider : EvmProvider) (submitHash : String)
    (required : Nat) : ReconcileVerdict → Prop
  | .terminal terminal => ∃ hash outcome, parseB256 submitHash = some hash ∧
      SawTerminal h provider.chainId hash required outcome ∧ terminal = evmTerminalToNeutral outcome
  | .unknown => ∃ hash, parseB256 submitHash = some hash ∧ SawUnknownEvm h hash
  | _ => True

theorem reconcileStatus_evm_yields (provider : EvmProvider)
    (submitHash signer payer asset : String) (required : Nat) :
    Yields G ((ChainProvider.evm provider).reconcileStatus submitHash signer payer asset
      (.evmConfirmations required)) fun verdict own =>
        SawVerdictEvm own provider submitHash required verdict := by
  have hstatus : Yields G (reconcileHashWithConfirmations provider submitHash required)
      fun result own => ∀ status, result = .ok status → ∃ hash,
        parseB256 submitHash = some hash ∧
          SawStatus own provider.chainId hash required status := by
    unfold reconcileHashWithConfirmations
    split
    · exact .pure fun status h => by cases h
    · rename_i hash hhash
      refine (reconcileWithConfirmations_yields hG provider hash required).conseq ?_
      exact fun result own h status hresult => ⟨hash, hhash, h status hresult⟩
  refine .bind hstatus fun result own hresult => ?_
  split
  · rename_i outcome
    obtain ⟨hash, hhash, hseen⟩ := hresult _ rfl
    exact .pure ⟨hash, outcome, hhash, hseen, rfl⟩
  all_goals first
    | exact .pure trivial
    | exact .pure (hresult _ rfl)

/-! ## Verification and preparation -/

/-- A payment of the provider's own chain. -/
inductive VerifiedBy : ChainProvider → VerifiedPayment → Prop
  | near (relayer : NearProvider) (nearPayment : NearVerifiedPayment) :
      VerifiedBy (.near relayer) (.ofNear nearPayment)
  | evm (provider : EvmProvider) (evmPayment : EvmVerifiedPayment) :
      VerifiedBy (.evm provider) (.ofEvm provider evmPayment)

omit hG in
theorem VerifiedFrom.verifiedBy {h : History Op.Answer} {request : Json} {maxSponsoredGas : Nat}
    {provider : ChainProvider} {payment : VerifiedPayment}
    (hverified : VerifiedFrom h request maxSponsoredGas provider payment) :
    VerifiedBy provider payment := by
  cases hverified with
  | near => exact .near _ _
  | evm => exact .evm _ _

section
variable {offline : OfflineVerified} {block : FinalBlock}

/-- The payment is the offline one, with its accounts and its amount parsed. -/
def OfflineVerified.Gives (offline : OfflineVerified)
    (result : Except VerificationFailure NearVerifiedPayment) : Prop :=
  ∀ payment, result = .ok payment → ∃ asset payTo amount,
    AccountId.parse offline.requirements.asset = some asset ∧
      AccountId.parse offline.requirements.payTo = some payTo ∧
      parseDecimal offline.requirements.amount = some amount ∧
      payment = offline.payment asset payTo amount

omit [NearPrimitives] [EvmPrimitives] hG in
theorem OfflineVerified.gives_error (offline : OfflineVerified)
    (failure : VerificationFailure) : offline.Gives (.error failure) :=
  fun _ h => by cases h

omit [NearPrimitives] [EvmPrimitives] in
theorem verifyNearStorage_yields {asset : AccountId} {amount : Nat}
    (hasset : AccountId.parse offline.requirements.asset = some asset)
    (hamount : parseDecimal offline.requirements.amount = some amount) :
    Yields G (verifyNearStorage offline block asset amount) fun result _ => offline.Gives result := by
  unfold verifyNearStorage
  split
  · exact .pure (offline.gives_error _)
  · rename_i payTo hpayTo
    have hgives : offline.Gives (.ok (offline.payment asset payTo amount)) := fun payment h =>
      ⟨asset, payTo, amount, hasset, hpayTo, hamount, (Except.ok.inj h).symm⟩
    refine .bind (Quiet.yields hG (Quiet.ask rfl)) fun answer _ _ => ?_
    split
    · split
      · exact .pure (offline.gives_error _)
      · exact .pure hgives
    · exact .pure hgives
    all_goals exact .pure (offline.gives_error _)

omit [NearPrimitives] [EvmPrimitives] in
theorem verifyNearBalance_yields {asset : AccountId}
    (hasset : AccountId.parse offline.requirements.asset = some asset) :
    Yields G (verifyNearBalance offline block asset) fun result _ => offline.Gives result := by
  refine .bind (Quiet.yields hG (Quiet.ask rfl)) fun answer _ _ => ?_
  split
  · split
    · rename_i hamount
      split
      · exact .pure (offline.gives_error _)
      · exact verifyNearStorage_yields hG hasset hamount
    · exact .pure (offline.gives_error _)
  · exact .pure (offline.gives_error _)

omit [NearPrimitives] [EvmPrimitives] in
theorem verifyNearToken_yields :
    Yields G (verifyNearToken offline block) fun result _ => offline.Gives result := by
  unfold verifyNearToken
  split
  · exact .pure (offline.gives_error _)
  · rename_i asset hasset
    refine .bind (Quiet.yields hG (Quiet.ask rfl)) fun answer _ _ => ?_
    split
    · dsimp only
      split
      · exact .pure (offline.gives_error _)
      · exact verifyNearBalance_yields hG hasset
    all_goals exact .pure (offline.gives_error _)

omit [NearPrimitives] [EvmPrimitives] in
theorem verifyNearPayer_yields :
    Yields G (verifyNearPayer offline block) fun result _ => offline.Gives result := by
  refine .bind (Quiet.yields hG (Quiet.ask rfl)) fun answer _ _ => ?_
  split
  · exact .pure (offline.gives_error _)
  · exact .pure (offline.gives_error _)
  split
  · exact .pure (offline.gives_error _)
  split
  · exact .pure (offline.gives_error _)
  · exact .pure (offline.gives_error _)
  · exact .pure (offline.gives_error _)
  · refine .bind (Quiet.yields hG (Quiet.ask rfl)) fun answer _ _ => ?_
    split
    · exact verifyNearToken_yields hG
    all_goals exact .pure (offline.gives_error _)

end

theorem verifyProtoRequest_yields (relayer : NearProvider) (request : Json)
    (maxSponsoredGas : Nat) :
    Yields G (verifyProtoRequest relayer request maxSponsoredGas) fun result own =>
      ∀ payment, result = .ok payment →
        VerifiedFrom own request maxSponsoredGas (.near relayer) (.ofNear payment) := by
  refine andThen_yields (fun e _ payment h => by cases h) fun offline hoffline => ?_
  refine .bind (Quiet.yields hG (Quiet.ask rfl)) fun answer _ _ => ?_
  split
  · exact .pure fun payment h => by cases h
  refine andThen_yields (fun e _ payment h => by cases h) fun _ _ => ?_
  refine (verifyNearPayer_yields hG).conseq fun result own hgives payment h => ?_
  obtain ⟨asset, payTo, amount, hasset, hpayTo, hamount, rfl⟩ := hgives payment h
  exact .near hoffline hasset hpayTo hamount

theorem verifyEvm_yields (provider : EvmProvider) (request : Json) (maxSponsoredGas : Nat) :
    Yields G (verifyEvm provider request) fun result own => ∀ payment, result = .ok payment →
      VerifiedFrom own request maxSponsoredGas (.evm provider) (.ofEvm provider payment) := by
  refine andThen_yields (fun e _ payment h => by cases h) fun ⟨payload, requirements⟩ hrequest => ?_
  refine andThen_yields (fun e _ payment h => by cases h) fun paymentHash hsignature => ?_
  refine .bind (retryWhileTransient_yields (ask_yields hG rfl) fun _ _ _ h => h.append_right)
    fun response own hasked => ?_
  cases response with
  | error e => exact .pure fun payment h => by cases h
  | ok response => exact .pure fun payment h => .evm hrequest hsignature hasked h

theorem verify_yields (provider : ChainProvider) (request : Json) (maxSponsoredGas : Nat) :
    Yields G (provider.verify request maxSponsoredGas) fun result own =>
      ∀ payment, result = .ok payment → VerifiedFrom own request maxSponsoredGas provider payment := by
  cases provider with
  | near relayer =>
    refine .bind (retryWhileTransient_yields (verifyProtoRequest_yields hG relayer request _)
      fun result own own' h payment hok =>
        (h payment hok).mono (List.subset_append_left own own')) fun result own hresult => ?_
    cases result with
    | error failure => exact .pure fun payment h => by cases h
    | ok nearPayment =>
      exact .pure fun payment h => Except.ok.inj h ▸ hresult nearPayment rfl
  | evm provider =>
    refine .bind (verifyEvm_yields hG provider request maxSponsoredGas) fun result own hresult => ?_
    cases result with
    | error rejection => exact .pure fun payment h => by cases h
    | ok evmPayment => exact .pure fun payment h => Except.ok.inj h ▸ hresult evmPayment rfl

/-- What the NEAR provider prepares for a payment at a head. -/
structure PreparedOuter (relayer : NearProvider) (payment : VerifiedPayment) (head : SignerHead)
    (prepared : Prepared) : Prop where
  signerId : prepared.signerId = relayer.accountId.text
  signerPublicKey : prepared.signerPublicKey = relayer.publicKey
  signerNonce : prepared.signerNonce = head.signerNonce + 1
  detail : ∃ nearPrepared nearPayment, prepared.detail = .near nearPrepared ∧
    payment.detail = .near nearPayment ∧
    nearPrepared.signedTransactionBytes = prepared.submitBytes ∧
    prepared.submitHash = hashText nearPrepared.transactionHash
  signed : ∀ nearPayment, payment.detail = .near nearPayment →
    ∃ (signed : SignedTransaction) (blockHash : CryptoHash), prepared.submitBytes = borsh signed ∧
      prepared.submitHash = hashText (transactionHash signed.transaction) ∧
      signed.transaction = outerTransaction relayer nearPayment blockHash (head.signerNonce + 1)

omit hG in
theorem prepare_near_yields (relayer : NearProvider) (payment : VerifiedPayment)
    (head : SignerHead) :
    Yields G ((ChainProvider.near relayer).prepare payment head) fun result _ =>
      ∀ prepared, result = .ok prepared → PreparedOuter relayer payment head prepared := by
  unfold ChainProvider.prepare
  split
  · rename_i relayer' _ nearPayment hprovider hpayment
    obtain rfl := ChainProvider.near.inj hprovider
    split
    · exact .pure fun prepared h => by cases h
    split
    · exact .pure fun prepared h => by cases h
    split
    · exact .pure fun prepared h => by cases h
    · rename_i blockHash _ _ _ nearPrepared hprepared
      obtain ⟨hsigner, hkey, hnonce, signed, htransaction, hhash, hbytes⟩ :=
        prepareOuterTransaction_ok hprepared
      refine .pure fun prepared h => ?_
      obtain rfl := Except.ok.inj h
      refine ⟨by rw [hsigner], hkey, hnonce, ⟨nearPrepared, nearPayment, rfl, hpayment, rfl, rfl⟩,
        fun nearPayment' hpayment' => ?_⟩
      obtain rfl := VerifiedDetail.near.inj (hpayment.symm.trans hpayment')
      exact ⟨signed, blockHash, hbytes, by rw [hhash], htransaction⟩
  · rename_i hprovider _
    cases hprovider
  · exact .pure fun prepared h => by cases h

/-- What the EVM provider prepares for a payment. -/
structure PreparedEvm (provider : EvmProvider) (payment : EvmVerifiedPayment)
    (prepared : Prepared) : Prop where
  nonce : prepared.signerNonce < 2 ^ 64
  detail : ∃ evmPrepared, prepared.detail = .evm evmPrepared ∧
    evmPrepared.signedTxRlp = prepared.submitBytes ∧
    prepared.submitHash = b256Text evmPrepared.txHash ∧
    SignedTransfer provider payment prepared.signerNonce prepared.submitBytes evmPrepared.txHash

omit [NearPrimitives] [EvmPrimitives] in
theorem feeEnvelope_yields (provider : EvmProvider) :
    Yields G (feeEnvelope provider) fun result _ => ∀ fees, result = .ok fees →
      fees.Within provider.gasLimit provider.maxFeePerGas := by
  have hread (reader : Reader) : Quiet (retryRead (ask (.evmFees reader))) :=
    Quiet.retryWhileTransient (Quiet.ask rfl)
  refine .bind (Quiet.yields hG (hread .primary)) fun primary _ _ => ?_
  refine .bind (Quiet.yields hG (hread .backup)) fun backup _ _ => ?_
  split
  · exact .pure fun fees h => boundedFeeEnvelope_within h
  all_goals exact .pure fun fees h => by cases h

/-- Both readers estimated the layer-one fee of the bytes, the larger estimate being `fee`. -/
def SawEstimates (h : History Op.Answer) (bytes : Bytes) (fee : Nat) : Prop :=
  ∃ primary backup, Asked h (.evmL1Fee .primary bytes) (.ok primary) ∧
    Asked h (.evmL1Fee .backup bytes) (.ok backup) ∧ fee = max primary backup

omit [NearPrimitives] [EvmPrimitives] hG in
theorem SawEstimates.mono {h h' : History Op.Answer} {bytes : Bytes} {fee : Nat}
    (hseen : SawEstimates h bytes fee) (hsubset : h ⊆ h') : SawEstimates h' bytes fee := by
  obtain ⟨primary, backup, hprimary, hbackup, hfee⟩ := hseen
  exact ⟨primary, backup, hsubset hprimary, hsubset hbackup, hfee⟩

omit [NearPrimitives] [EvmPrimitives] in
theorem estimateL1FeeWei_yields (bytes : Bytes) :
    Yields G (estimateL1FeeWei bytes) fun result own => ∀ fee, result = .ok fee →
      SawEstimates own bytes fee := by
  have hread (reader : Reader) : Yields G (retryRead (ask (.evmL1Fee reader bytes)))
      fun result own => Asked own (.evmL1Fee reader bytes) result :=
    retryRead_yields (ask_yields hG rfl) fun _ _ _ h => h.append_right
  refine .bind (hread .primary) fun primary own hprimary => ?_
  refine .bind (hread .backup) fun backup own' hbackup => .pure fun fee h => ?_
  obtain ⟨p, q, rfl, rfl, hmerge⟩ := mergeReads_ok h
  exact ⟨p, q, hprimary.append_left, hbackup.append_right, (Except.ok.inj hmerge).symm⟩

omit [NearPrimitives] in
theorem prepareEvm_yields (provider : EvmProvider) (payment : EvmVerifiedPayment) (nonce : Nat) :
    Yields G (prepareEvm provider payment nonce) fun result own => ∀ prepared,
      result = .ok prepared → prepared.accountNonce = nonce ∧
        SignedTransfer provider payment nonce prepared.signedTxRlp prepared.txHash ∧
        ∀ fee, prepared.estimatedL1FeeWei = some fee →
          SawEstimates own prepared.signedTxRlp fee := by
  unfold prepareEvm
  split
  · exact .pure fun prepared h => by cases h
  rename_i calldata hcalldata
  refine .bind (feeEnvelope_yields hG provider) fun fees _ hfees => ?_
  refine andThen_yields (fun e _ prepared h => by cases h) fun fees' hok => ?_
  refine andThen_yields (fun e _ prepared h => by cases h) fun signed hsigned => ?_
  refine .bind (estimateL1FeeWei_yields hG _) fun fee own hestimate => ?_
  cases fee with
  | error e => exact .pure fun prepared h => by cases h
  | ok fee =>
    refine .pure fun prepared h => ?_
    obtain rfl := Except.ok.inj h
    refine ⟨(signSettlementTransaction_ok hsigned).2.1, ⟨calldata, fees', signed, hcalldata,
      hfees fees' hok, hsigned, rfl, rfl⟩, fun fee' hfee => ?_⟩
    obtain rfl := Option.some.inj hfee
    exact (hestimate fee rfl).mono (List.subset_append_left own _)

theorem prepare_evm_yields (provider : EvmProvider) (payment : EvmVerifiedPayment)
    (head : SignerHead) :
    Yields G ((ChainProvider.evm provider).prepare (.ofEvm provider payment) head) fun result own =>
      ∀ prepared, result = .ok prepared → PreparedEvm provider payment prepared ∧
        ∀ evmPrepared fee, prepared.detail = .evm evmPrepared →
          evmPrepared.estimatedL1FeeWei = some fee → SawEstimates own prepared.submitBytes fee := by
  unfold ChainProvider.prepare
  dsimp only [VerifiedPayment.ofEvm]
  split
  · exact .pure fun prepared h => by cases h
  rename_i hnonce
  refine .bind (prepareEvm_yields hG provider payment head.signerNonce) fun result own hresult => ?_
  cases result with
  | error e => exact .pure fun prepared h => by cases h
  | ok evmPrepared =>
    refine .pure fun prepared h => ?_
    obtain rfl := Except.ok.inj h
    obtain ⟨haccount, hsigned, hestimates⟩ := hresult evmPrepared rfl
    refine ⟨⟨?_, evmPrepared, rfl, rfl, rfl, ?_⟩, fun evmPrepared' fee hdetail hfee => ?_⟩
    · change evmPrepared.accountNonce < 2 ^ 64
      omega
    · rw [← haccount] at hsigned
      exact hsigned
    · obtain rfl := PreparedDetail.evm.inj hdetail
      exact (hestimates fee hfee).mono (List.subset_append_right _ _)

end

end X402Facilitator
