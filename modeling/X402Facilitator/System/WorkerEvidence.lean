import X402Facilitator.System.Observed

/-!
# The worker is justified

`run_new_settlement` obeys the guarantee of the service, along the NEAR and the EVM path. The row it
broadcasts for is the one it read as reserved and journaled the bytes on; before that it has prepared
nothing.
-/

namespace X402Facilitator

open Program Service

section
variable [NearPrimitives] [EvmPrimitives]

theorem Op.Plain.justified {o : Op} (h : o.Plain) (role : Role) (past : History Op.Answer) :
    Justified role past o := by
  cases o with
  | store op => cases op <;> trivial
  | ask query => cases query <;> trivial
  | spawn task => cases task <;> trivial
  | storeGate gate ready => cases gate <;> cases ready <;> trivial
  | lockRelayer | unlockRelayer => exact h.elim
  | _ => trivial

theorem Op.Quiet.justified {o : Op} (role : Role) (past : History Op.Answer) (h : o.Quiet) :
    Justified role past o :=
  h.plain.justified role past

variable {role : Role} {h : History Op.Answer}

omit [NearPrimitives] [EvmPrimitives] in
theorem NothingPrepared.cons_plain (e : Event Op.Answer) (h : History Op.Answer)
    (hh : NothingPrepared h) (he : e.op.Plain) : NothingPrepared (e :: h) := by
  refine List.forall_mem_cons.mpr ⟨?_, hh⟩
  obtain ⟨o, answer⟩ := e
  cases o with
  | store op => cases op <;> first | rfl | exact he.elim
  | _ => rfl

/-- A plain program is allowed anything it does, and prepares nothing. -/
theorem Plain.obeys {α : Type} {p : Service α} (hp : Plain p) (hh : NothingPrepared h) :
    p.Obeys (Justified role) h fun _ h' => NothingPrepared h' :=
  Only.obeys hp (fun h' _ _ ho => ho.justified role h') (NothingPrepared.cons_plain) hh

theorem Plain.obeys_any {α : Type} {p : Service α} (hp : Plain p) :
    p.Obeys (Justified role) h fun _ _ => True :=
  Only.obeys hp (fun h' _ _ ho => ho.justified role h') (fun _ _ _ _ => trivial) trivial

omit [NearPrimitives] [EvmPrimitives] in
theorem Op.Plain.quarantines {o : Op} (ho : o.Plain) : o.quarantines = false := by
  cases o with
  | store op => cases op <;> first | rfl | exact ho.elim
  | _ => rfl

theorem Vetted.cons {state : AppState} {e : Event Op.Answer} (he : e.op.quarantines = false)
    (hvetted : Vetted state h) : Vetted state (e :: h) := by
  obtain ⟨later, earlier, rfl, hlater⟩ := hvetted
  exact ⟨e :: later, earlier, rfl, List.forall_mem_cons.mpr ⟨he, hlater⟩⟩

/-- A plain program does not touch the signer's entry. -/
theorem Plain.obeys_vetted {α : Type} {p : Service α} {state : AppState} (hp : Plain p)
    (hvetted : Vetted state h) : p.Obeys (Justified role) h fun _ h' => Vetted state h' :=
  Only.obeys hp (I := Vetted state) (fun h' _ _ ho => ho.justified role h')
    (fun _ _ hh he => hh.cons he.quarantines) hvetted

theorem freshSignerHead_obeys :
    (freshSignerHead role.state).Obeys (Justified role) h fun result h' =>
      ∀ head, result = .ok head → FreshHead role.state h' head := by
  refine (freshSignerHead_yields (fun h o => Op.Quiet.justified role h) role.state h).conseq ?_
  rintro result h' - ⟨own, rfl, hfresh⟩ head hok
  have hhead := hfresh head hok
  exact ⟨hhead.vetted.append_right, hhead.funded,
    hhead.signer.mono (List.subset_append_left own h)⟩

omit [NearPrimitives] [EvmPrimitives] in
/-- No task both settles a new request and reconciles. -/
theorem ServiceTask.reconciles_of_isWorker {task : ServiceTask} (h : task.isWorker = true) :
    task.reconciles = false := by
  cases task with
  | settlementWorker => rfl
  | _ => cases h

omit [NearPrimitives] [EvmPrimitives] in
theorem ServiceTask.settles.isWorker {task : ServiceTask} {id : Uuid} (h : task.settles id) :
    task.isWorker = true := by
  cases task with
  | settlementWorker => rfl
  | _ => exact h.elim

/-- A worker may quarantine its signer whenever it sees the nonce move. -/
theorem pauseOnNonceDrift_obeys (htask : role.task.isWorker = true) (reason : String)
    (observedNonce : Nat) :
    (pauseOnNonceDrift role.state reason observedNonce).Obeys (Justified role) h
      fun _ _ => True := by
  refine .step ⟨.inl htask, rfl, fun hreconciles => ?_⟩ fun _ => ?_
  · rw [ServiceTask.reconciles_of_isWorker htask] at hreconciles
    cases hreconciles
  · exact .bind (Quiet.setRelayerGate false).plain.obeys_any fun _ _ _ _ =>
      Plain.setReconciliation_false.obeys_any

/-! ## Terminal writes -/

theorem journalTerminal_obeys {entry : TerminalJournalEntry} (hentry : TerminalJustified role h entry) :
    (journalTerminal entry).Obeys (Justified role) h fun _ _ => True := by
  refine .step hentry fun result => ?_
  cases result with
  | ok _ => exact .pure trivial
  | error _ => exact Plain.setReconciliation_false.obeys_any

/-- A worker that has prepared nothing may fail its row. -/
theorem failureEntry_justified_unprepared {settlementId : Uuid} {code : String}
    {response : SettleResponse} (htask : role.task.isWorker = true) (hh : NothingPrepared h) :
    TerminalJustified role h (failureEntry settlementId code response) where
  succeeded hstate := by cases hstate
  failed _ := .inl ⟨htask, hh⟩
  expired hreconciles := by
    rw [ServiceTask.reconciles_of_isWorker htask] at hreconciles
    cases hreconciles
  cost burnt hburnt hpositive := by
    obtain rfl := Option.some.inj hburnt
    cases hpositive
  depth depth hdepth := by cases hdepth

theorem failureEntry_justified {r : Settlement} {code : String} {response : SettleResponse}
    (hr : Knows h r) (hfailure : SawFailure role.state h r)
    (hexpired : role.task.reconciles = true →
      code = "invalid_exact_near_payload_delegate_action_expired" →
        ∃ relayer, role.state.provider = .near relayer ∧ SawPassed h r relayer) :
    TerminalJustified role h (failureEntry r.id code response) where
  succeeded hstate := by cases hstate
  failed _ := .inr ⟨r, hr, rfl, hfailure⟩
  expired hreconciles hcode := by
    obtain ⟨relayer, hpassed⟩ := hexpired hreconciles (Option.some.inj hcode)
    exact ⟨r, relayer, hr, rfl, hpassed⟩
  cost burnt hburnt hpositive := by
    obtain rfl := Option.some.inj hburnt
    cases hpositive
  depth depth hdepth := by cases hdepth

omit [NearPrimitives] [EvmPrimitives] in
/-- An outcome is never journaled under the code of an expiry. -/
theorem outcomeEntry_errorCode {settlementId : Uuid} {payer network : String}
    {outcome : TerminalOutcome} : (outcomeEntry settlementId payer network outcome).errorCode ≠
      some "invalid_exact_near_payload_delegate_action_expired" := by
  unfold outcomeEntry
  dsimp only
  split
  · nofun
  · decide

/-- The terminal outcome of a row's own NEAR transaction may be journaled. -/
theorem outcomeEntry_justified_near {r : Settlement} {relayer : NearProvider} {hash : CryptoHash}
    {payer asset : AccountId} {outcome : FinalExecutionOutcomeView} {terminal : TerminalOutcome}
    (hprovider : role.state.provider = .near relayer) (hr : Knows h r) (hseen : SawFinal h hash outcome)
    (hhash : ∃ text, r.outerTransactionHash = some text ∧ parseHash text = some hash)
    (hrelayer : r.relayerAccountId = some relayer.accountId.text) (hpayer : r.payer = payer.text)
    (hasset : eqIgnoreAsciiCase r.asset asset.text)
    (hterminal : interpretNearFinal outcome hash relayer.accountId payer asset
      = .terminal terminal) :
    TerminalJustified role h
      (outcomeEntry r.id r.payer role.state.config.network terminal) := by
  obtain ⟨hidentifies, hresult⟩ := interpretNearFinal_terminal hterminal
  have hfinal : SawOwnFinal h r hash relayer.accountId payer asset outcome :=
    ⟨hseen, hidentifies, hhash, hrelayer, hpayer, hasset⟩
  have hcost (burnt : Nat) : CostJustified role h r burnt :=
    .near (.inr (by rw [hrelayer]; rfl))
  obtain ⟨htransfer, rfl⟩ | ⟨error, herror, hdefinitive, rfl⟩ := hresult
  · exact {
      succeeded := fun _ => ⟨r, hr, rfl, .near hprovider hfinal htransfer rfl⟩
      failed := fun hstate => by cases hstate
      expired := fun _ hcode => absurd hcode outcomeEntry_errorCode
      cost := fun burnt _ _ => ⟨r, hr, rfl, hcost burnt⟩
      depth := fun depth hdepth => by cases hdepth }
  · exact {
      succeeded := fun hstate => by cases hstate
      failed := fun _ => .inr ⟨r, hr, rfl, .definitive hprovider hfinal herror hdefinitive⟩
      expired := fun _ hcode => absurd hcode outcomeEntry_errorCode
      cost := fun burnt _ _ => ⟨r, hr, rfl, hcost burnt⟩
      depth := fun depth hdepth => by cases hdepth }

/-! ## NEAR broadcasts -/

omit [EvmPrimitives] in
theorem decodeSignedTransaction_error {bytes : Bytes} {e : NearRpcError}
    (herror : decodeSignedTransaction bytes = .error e) : e = .invalidSignedTransaction := by
  unfold decodeSignedTransaction at herror
  split at herror
  · exact (Except.error.inj herror).symm
  · split at herror
    · cases herror
    · exact (Except.error.inj herror).symm

/-- The bytes of a row that is known to be submitted may be sent; a rejection or a final outcome was
answered to exactly these bytes. -/
theorem broadcastExact_obeys {r : Settlement} {bytes : Bytes} (hsend : MaySend role h r)
    (hbytes : r.outerTransactionBytes = some bytes) :
    (ChainProvider.broadcastExact bytes).Obeys (Justified role) h fun answer h' =>
      (answer = .error .transactionRejected → ∃ signed, decodeSignedTransaction bytes = .ok signed ∧
        Asked h' (.nearSend signed) (.error .transactionRejected)) ∧
      ∀ outcome, answer = .ok (.final outcome) → ∃ signed,
        Asked h' (.nearSend signed) (.ok (.final outcome)) := by
  unfold ChainProvider.broadcastExact
  split
  · rename_i e herror
    obtain rfl := decodeSignedTransaction_error herror
    exact ⟨fun hrejected => (by cases hrejected), fun outcome hfinal => (by cases hfinal)⟩
  · rename_i signed hdecode
    refine .perform ⟨r, bytes, hsend, hbytes, hdecode⟩ fun answer => ⟨?_, ?_⟩
    · rintro rfl
      exact ⟨signed, hdecode, List.mem_cons_self⟩
    · rintro outcome rfl
      exact ⟨signed, List.mem_cons_self⟩

omit [NearPrimitives] [EvmPrimitives] in
theorem classifyBroadcast_terminal {interpret : FinalExecutionOutcomeView → NearInterpretation}
    {answer : Except NearRpcError TransactionLookup} {terminal : TerminalOutcome}
    (hresult : ChainProvider.classifyBroadcast interpret answer = .terminal terminal) :
    ∃ outcome, answer = .ok (.final outcome) ∧ interpret outcome = .terminal terminal := by
  unfold ChainProvider.classifyBroadcast at hresult
  split at hresult
  · rename_i outcome
    split at hresult
    · rename_i terminal' hinterpret
      exact ⟨outcome, rfl, BroadcastOutcome.terminal.inj hresult ▸ hinterpret⟩
    · cases hresult
  all_goals cases hresult

omit [NearPrimitives] [EvmPrimitives] in
theorem classifyBroadcast_rejected {interpret : FinalExecutionOutcomeView → NearInterpretation}
    {answer : Except NearRpcError TransactionLookup} {reason : String}
    (hresult : ChainProvider.classifyBroadcast interpret answer = .rejected reason) :
    answer = .error .transactionRejected := by
  unfold ChainProvider.classifyBroadcast at hresult
  split at hresult
  · split at hresult <;> cases hresult
  · rfl
  · cases hresult

/-- What the outcome of a broadcast justifies about the row. -/
structure BroadcastSeen (role : Role) (r : Settlement) (result : BroadcastOutcome)
    (h : History Op.Answer) : Prop where
  knows : Knows h r
  rejected : ∀ reason, result = .rejected reason → SawFailure role.state h r
  terminal : ∀ terminal, result = .terminal terminal → ∀ h', h <:+ h' → TerminalJustified role h'
    (outcomeEntry r.id r.payer role.state.config.network terminal)

/-- The answer to a NEAR broadcast, read by an interpretation that binds it to the row. -/
theorem classifyBroadcast_obeys {r : Settlement} {relayer : NearProvider} {bytes : Bytes}
    {interpret : FinalExecutionOutcomeView → NearInterpretation}
    (hprovider : role.state.provider = .near relayer) (hsend : MaySend role h r)
    (hbytes : r.outerTransactionBytes = some bytes)
    (hrelayer : r.relayerAccountId = some relayer.accountId.text)
    (hinterpret : ∀ outcome terminal, interpret outcome = .terminal terminal →
      ∃ hash payer asset, interpretNearFinal outcome hash relayer.accountId payer asset
          = .terminal terminal ∧
        (∃ text, r.outerTransactionHash = some text ∧ parseHash text = some hash) ∧
        r.payer = payer.text ∧ eqIgnoreAsciiCase r.asset asset.text) :
    (ChainProvider.broadcastExact bytes >>= fun answer =>
      pure (ChainProvider.classifyBroadcast interpret answer)).Obeys (Justified role) h
        (BroadcastSeen role r) := by
  have hr := hsend.knows
  refine .bind (broadcastExact_obeys hsend hbytes) fun answer h' hsuffix hanswer => ?_
  refine .pure ⟨hr.mono hsuffix, fun reason hresult => ?_, fun terminal hresult h'' hlater => ?_⟩
  · obtain ⟨signed, hdecode, hrejected⟩ := hanswer.1 (classifyBroadcast_rejected hresult)
    exact .rejected hbytes hdecode hrejected
  · obtain ⟨outcome, hfinal, hterminal⟩ := classifyBroadcast_terminal hresult
    obtain ⟨signed, hseen⟩ := hanswer.2 outcome hfinal
    obtain ⟨hash, payer, asset, hnear, hhash, hpayer, hasset⟩ := hinterpret outcome terminal hterminal
    exact outcomeEntry_justified_near hprovider (hr.mono (hsuffix.trans hlater))
      (.inr ⟨signed, hseen.mono hlater⟩) hhash hrelayer hpayer hasset hnear

/-! ## The NEAR path -/

/-- The row of a worker's NEAR submission, as far as the outcome is judged by it. -/
structure WorkerRow (relayer : NearProvider) (prepared : Prepared) (payment : VerifiedPayment)
    (r : Settlement) : Prop where
  bytes : r.outerTransactionBytes = some prepared.submitBytes
  hash : r.outerTransactionHash = some prepared.submitHash
  relayer : r.relayerAccountId = some relayer.accountId.text
  payer : r.payer = payment.payer
  asset : eqIgnoreAsciiCase r.asset payment.requirements.asset

theorem broadcast_near_obeys {r : Settlement} {relayer : NearProvider} {prepared : Prepared}
    {nearPayment : NearVerifiedPayment} {head : SignerHead}
    (hprovider : role.state.provider = .near relayer) (hsend : MaySend role h r)
    (hprepared : PreparedOuter relayer (.ofNear nearPayment) head prepared)
    (hrow : WorkerRow relayer prepared (.ofNear nearPayment) r) :
    (role.state.provider.broadcast prepared (.ofNear nearPayment)).Obeys (Justified role) h
      (BroadcastSeen role r) := by
  obtain ⟨nearPrepared, nearPayment', hdetail, hpayment, hbytes, hhash⟩ := hprepared.detail
  obtain rfl := VerifiedDetail.near.inj hpayment
  have hown : r.outerTransactionBytes = some nearPrepared.signedTransactionBytes :=
    hbytes ▸ hrow.bytes
  rw [hprovider]
  unfold ChainProvider.broadcast
  rw [hdetail]
  refine classifyBroadcast_obeys hprovider hsend hown hrow.relayer ?_
  exact fun outcome terminal hterminal => ⟨_, _, _, hterminal,
    ⟨_, hrow.hash, hhash ▸ parseHash_hashText _⟩, hrow.payer, hrow.asset⟩

theorem broadcastSubmittedNear_obeys {r : Settlement} {relayer : NearProvider}
    {prepared : Prepared} {nearPayment : NearVerifiedPayment} {head : SignerHead}
    (hprovider : role.state.provider = .near relayer) (htask : role.task.isWorker = true)
    (hr : Knows h r) (hsubmitted : KnowsSubmitted h r) (hvetted : Vetted role.state h)
    (hprepared : PreparedOuter relayer (.ofNear nearPayment) head prepared)
    (hrow : WorkerRow relayer prepared (.ofNear nearPayment) r) :
    (broadcastSubmittedNear role.state r.id prepared (.ofNear nearPayment)).Obeys (Justified role)
      h fun _ _ => True := by
  refine .bind (Plain.canSettle.obeys_vetted hvetted) fun ready h₁ hsuffix hvetted => ?_
  split
  · exact Plain.setReconciliation_false.obeys_any
  refine .bind (broadcast_near_obeys hprovider ⟨hr.mono hsuffix, hsubmitted.mono hsuffix, hvetted,
    .inl htask⟩ hprepared hrow) fun result h₂ _ hseen => ?_
  cases result with
  | terminal outcome =>
    refine journalTerminal_obeys ?_
    rw [← hrow.payer]
    exact hseen.terminal outcome rfl h₂ List.suffix_rfl
  | rejected reason =>
    refine journalTerminal_obeys (failureEntry_justified hseen.knows (hseen.rejected reason rfl) ?_)
    rw [ServiceTask.reconciles_of_isWorker htask]
    nofun
  | pending => exact Plain.setReconciliation_false.obeys_any

omit [NearPrimitives] [EvmPrimitives] in
/-- The comparison of `run_new_settlement` between the row and the payment. -/
theorem journaledMatches_iff {journaled : Settlement} {payment : VerifiedPayment}
    (hmatches : journaledMatches journaled payment = true) :
    journaled.state = .reserved ∧ journaled.payer = payment.payer ∧
      eqIgnoreAsciiCase journaled.asset payment.requirements.asset := by
  simp only [journaledMatches, decide_eq_true_eq] at hmatches
  obtain ⟨hstate, -, -, -, hpayer, -, hasset, -⟩ := hmatches
  exact ⟨hstate, hpayer, hasset⟩

theorem settlePreparedNear_obeys {id : Uuid} {relayer : NearProvider} {prepared : Prepared}
    {nearPayment : NearVerifiedPayment} {head : SignerHead}
    (hconfirmed : Confirmed role h id (.ofNear nearPayment))
    (hprovider : role.state.provider = .near relayer)
    (hhead : SawSignerHead h relayer .primary head)
    (hprepared : PreparedOuter relayer (.ofNear nearPayment) head prepared) :
    (settlePreparedNear role.state id head prepared
      (role.state.provider.durableSubmission prepared) (.ofNear nearPayment)).Obeys (Justified role)
        h fun _ _ => True := by
  obtain ⟨journaled, hread, hmatches⟩ := hconfirmed.journaled
  obtain ⟨hreserved, hpayer, hasset⟩ := journaledMatches_iff hmatches
  obtain ⟨blockHash, -, hkey⟩ := hhead
  have hentry : SignedOuter relayer nearPayment h (nearJournalEntry id prepared
      (role.state.provider.durableSubmission prepared)) := by
    obtain ⟨signed, reference, hbytes, hhash, htransaction⟩ := hprepared.signed nearPayment rfl
    rw [← hprepared.signerNonce] at htransaction
    exact ⟨hprepared.signerId, hprepared.signerPublicKey,
      ⟨blockHash, head.signerNonce, hkey, hprepared.signerNonce⟩,
      signed, reference, hbytes, hhash, htransaction⟩
  refine .step ⟨hconfirmed.settles, relayer, nearPayment, hprovider, hconfirmed, hentry⟩
    fun result => ?_
  cases result with
  | error _ => exact Plain.setReconciliation_false.obeys_any
  | ok u =>
    -- The row as the worker knows it: its own reading, with the entry it has just journaled.
    have hknows : Knows (_ :: h) (RowUpdate.applyTo (.prepare (nearJournalEntry id prepared
        (role.state.provider.durableSubmission prepared))) id journaled) :=
      .prepared (hread.mono (List.suffix_cons _ h)) hreserved List.mem_cons_self
    have hrow : WorkerRow relayer prepared (.ofNear nearPayment) (RowUpdate.applyTo
        (.prepare (nearJournalEntry id prepared (role.state.provider.durableSubmission prepared)))
        id journaled) :=
      ⟨rfl, rfl, congrArg some hprepared.signerId, hpayer, hasset⟩
    have htask := hconfirmed.settles.isWorker
    refine .bind freshSignerHead_obeys fun current h₂ hsuffix₂ hfresh => ?_
    cases current with
    | error _ => exact Plain.setReconciliation_false.obeys_any
    | ok currentHead =>
      dsimp only
      split
      · exact pauseOnNonceDrift_obeys htask _ _
      refine .bind (Plain.canSettle.obeys_vetted (hfresh currentHead rfl).vetted)
        fun ready h₃ hsuffix₃ hvetted => ?_
      split
      · exact Plain.setReconciliation_false.obeys_any
      refine .step trivial fun result => ?_
      cases result with
      | error _ => exact Plain.setReconciliation_false.obeys_any
      | ok u =>
        exact broadcastSubmittedNear_obeys hprovider htask
          (hknows.mono ((hsuffix₂.trans hsuffix₃).trans (List.suffix_cons _ _)))
          (.inr List.mem_cons_self) (hvetted.cons rfl) hprepared hrow

/-! ## The EVM path -/

/-- An EVM broadcast sends the bytes of the row and decides nothing. -/
theorem broadcast_evm_obeys {r : Settlement} {provider : EvmProvider} {prepared : Prepared}
    {evmPayment : EvmVerifiedPayment} (hprovider : role.state.provider = .evm provider)
    (hsend : MaySend role h r) (hprepared : PreparedEvm provider evmPayment prepared)
    (hrlp : r.submittedTxRlp = some prepared.submitBytes) (payment : VerifiedPayment) :
    (role.state.provider.broadcast prepared payment).Obeys (Justified role) h
      fun result _ => result = .pending := by
  obtain ⟨evmPrepared, hdetail, hbytes, -⟩ := hprepared.detail
  rw [hprovider]
  unfold ChainProvider.broadcast
  rw [hdetail]
  exact .step ⟨r, hsend, hbytes ▸ hrlp⟩ fun _ => .pure rfl

theorem broadcastSubmittedEvm_obeys {r : Settlement} {provider : EvmProvider}
    {prepared : Prepared} {submission : DurableSubmission} {payment : VerifiedPayment}
    {evmPayment : EvmVerifiedPayment} (hprovider : role.state.provider = .evm provider)
    (htask : role.task.isWorker = true) (hr : Knows h r) (hsubmitted : KnowsSubmitted h r)
    (hprepared : PreparedEvm provider evmPayment prepared)
    (hrlp : r.submittedTxRlp = some prepared.submitBytes) :
    (broadcastSubmittedEvm role.state r.id prepared submission payment).Obeys (Justified role) h
      fun _ _ => True := by
  refine .bind Plain.canSettle.obeys_any fun ready h₁ hsuffix₁ _ => ?_
  split
  · exact Plain.setReconciliation_false.obeys_any
  refine .bind freshSignerHead_obeys fun head h₂ hsuffix₂ hfresh => ?_
  cases head with
  | error _ => exact Plain.setReconciliation_false.obeys_any
  | ok currentHead =>
    dsimp only
    split
    · exact pauseOnNonceDrift_obeys htask _ _
    refine .bind (Plain.canSettle.obeys_vetted (hfresh currentHead rfl).vetted)
      fun ready' h₃ hsuffix₃ hvetted => ?_
    split
    · exact Plain.setReconciliation_false.obeys_any
    have hsuffix := (hsuffix₁.trans hsuffix₂).trans hsuffix₃
    refine .bind (broadcast_evm_obeys hprovider ⟨hr.mono hsuffix, hsubmitted.mono hsuffix, hvetted,
      .inl htask⟩ hprepared hrlp payment) fun result _ _ hpending => ?_
    subst hpending
    exact Plain.setReconciliation_false.obeys_any

theorem settlePreparedEvm_obeys {id : Uuid} {provider : EvmProvider} {prepared : Prepared}
    {evmPayment : EvmVerifiedPayment}
    (hconfirmed : Confirmed role h id (.ofEvm provider evmPayment))
    (hprovider : role.state.provider = .evm provider)
    (hprepared : PreparedEvm provider evmPayment prepared)
    (hcovered : SawCovered role.state.config h prepared.submitBytes) :
    (settlePreparedEvm role.state id prepared (role.state.provider.durableSubmission prepared)
      (.ofEvm provider evmPayment)).Obeys (Justified role) h fun _ _ => True := by
  obtain ⟨journaled, hread, hmatches⟩ := hconfirmed.journaled
  have hreserved := (journaledMatches_iff hmatches).1
  unfold settlePreparedEvm
  split
  · exact Plain.setReconciliation_false.obeys_any
  rename_i depth hpolicy
  split
  · exact Plain.setReconciliation_false.obeys_any
  rename_i required hrequired
  have hentry : SignedEvm provider evmPayment (evmJournalEntry id
      (role.state.provider.durableSubmission prepared) required) := by
    obtain ⟨evmPrepared, -, -, hhash, hsigned⟩ := hprepared.detail
    refine ⟨⟨evmPrepared.txHash, hhash, hsigned⟩, hprepared.nonce, ?_⟩
    rw [hprovider] at hpolicy
    rw [RecoveryPolicy.evmConfirmations.inj hpolicy]
    exact hrequired
  refine .step ⟨hconfirmed.settles, provider, evmPayment, hprovider, hconfirmed, hentry, hcovered⟩
    fun result => ?_
  cases result with
  | error _ => exact Plain.setReconciliation_false.obeys_any
  | ok u =>
    obtain ⟨r, hr⟩ : ∃ r, r = RowUpdate.applyTo (.prepareEvm (evmJournalEntry id
        (role.state.provider.durableSubmission prepared) required)) id journaled := ⟨_, rfl⟩
    have hknows : Knows (⟨.store (.markPreparedEvm (evmJournalEntry id
        (role.state.provider.durableSubmission prepared) required)), .ok u⟩ :: h) r := by
      subst hr
      exact .preparedEvm (hread.mono (List.suffix_cons _ h)) hreserved List.mem_cons_self
    have hid : r.id = id := congrArg Settlement.id hr
    have hrlp : r.submittedTxRlp = some prepared.submitBytes :=
      congrArg Settlement.submittedTxRlp hr
    refine .bind Plain.canSettle.obeys_any fun ready h₂ hsuffix₂ _ => ?_
    split
    · exact Plain.setReconciliation_false.obeys_any
    rw [← hid]
    refine .step trivial fun result => ?_
    cases result with
    | error _ => exact Plain.setReconciliation_false.obeys_any
    | ok u =>
      exact broadcastSubmittedEvm_obeys hprovider hconfirmed.settles.isWorker
        (hknows.mono (hsuffix₂.trans (List.suffix_cons _ _))) (.inr List.mem_cons_self)
        hprepared hrlp

/-! ## The worker -/

theorem prepareAndSettle_near_obeys {id : Uuid} {relayer : NearProvider}
    {nearPayment : NearVerifiedPayment}
    (hconfirmed : Confirmed role h id (.ofNear nearPayment))
    (hprovider : role.state.provider = .near relayer) :
    (prepareAndSettle role.state id (.ofNear nearPayment)).Obeys (Justified role) h
      fun _ _ => True := by
  refine .bind freshSignerHead_obeys fun head h₁ hsuffix₁ hfresh => ?_
  cases head with
  | error _ => exact (Plain.retryableServiceFailure id _).obeys_any
  | ok signerHead =>
    have hprepare := prepare_near_yields (G := Justified role) relayer (.ofNear nearPayment)
      signerHead h₁
    rw [← hprovider] at hprepare
    refine .bind hprepare fun result h₂ hsuffix₂ ⟨_, _, hresult⟩ => ?_
    cases result with
    | error _ => exact (Plain.retryableServiceFailure id _).obeys_any
    | ok prepared =>
      have hprepared := hresult prepared rfl
      obtain ⟨nearPrepared, _, hdetail, -⟩ := hprepared.detail
      dsimp only
      rw [hdetail]
      have hsigner := (hfresh signerHead rfl).signer
      rw [hprovider] at hsigner
      exact settlePreparedNear_obeys (hconfirmed.mono (hsuffix₁.trans hsuffix₂).subset) hprovider
        (hsigner.head_near.mono hsuffix₂.subset) hprepared

theorem prepareAndSettle_evm_obeys {id : Uuid} {provider : EvmProvider}
    {evmPayment : EvmVerifiedPayment}
    (hconfirmed : Confirmed role h id (.ofEvm provider evmPayment))
    (hprovider : role.state.provider = .evm provider) :
    (prepareAndSettle role.state id (.ofEvm provider evmPayment)).Obeys (Justified role) h
      fun _ _ => True := by
  refine .bind (Quiet.freshSignerHead role.state).plain.obeys_any fun head h₁ hsuffix₁ _ => ?_
  cases head with
  | error _ => exact (Plain.retryableServiceFailure id _).obeys_any
  | ok signerHead =>
    have hprepare := prepare_evm_yields (fun h o => Op.Quiet.justified role h) provider evmPayment
      signerHead h₁
    rw [← hprovider] at hprepare
    refine .bind hprepare fun result h₂ hsuffix₂ ⟨own, hown, hresult⟩ => ?_
    cases result with
    | error _ => exact (Plain.retryableServiceFailure id _).obeys_any
    | ok prepared =>
      obtain ⟨hprepared, hestimates⟩ := hresult prepared rfl
      obtain ⟨evmPrepared, hdetail, -⟩ := hprepared.detail
      dsimp only
      rw [hdetail]
      dsimp only
      split
      · exact (Plain.retryableServiceFailure id _).obeys_any
      rename_i fee hfee
      split
      · exact (Plain.retryableServiceFailure id _).obeys_any
      rename_i hcovers
      obtain ⟨primary, backup, hprimary, hbackup, rfl⟩ := hestimates evmPrepared fee hdetail hfee
      have hsubset : own ⊆ h₂ := hown ▸ List.subset_append_left own h₁
      exact settlePreparedEvm_obeys (hconfirmed.mono (hsuffix₁.trans hsuffix₂).subset) hprovider
        hprepared ⟨primary, backup, hsubset hprimary, hsubset hbackup, not_not.mp hcovers⟩

/-- A worker under the lock does nothing that is not justified. -/
theorem settleLocked_obeys {id : Uuid} {request : Json}
    (htask : role.task = .settlementWorker id request) (hh : NothingPrepared h) :
    (settleLocked role.state id request).Obeys (Justified role) h fun _ _ => True := by
  have hworker : role.task.isWorker = true := by rw [htask]; rfl
  refine .bind (Plain.canSettle.obeys hh) fun ready h₁ hsuffix₁ hh₁ => ?_
  split
  · exact (Plain.retryableServiceFailure id _).obeys_any
  refine .bind (((Quiet.verify _ request _).plain.obeys hh₁).and
    (verify_yields (fun h o => Op.Quiet.justified role h) _ request _ h₁))
    fun result h₂ hsuffix₂ ⟨hh₂, own, hown, hpayment⟩ => ?_
  cases result with
  | error rejection =>
    dsimp only
    split
    · exact (Plain.retryableServiceFailure id _).obeys_any
    · exact journalTerminal_obeys (failureEntry_justified_unprepared hworker hh₂)
  | ok payment =>
    refine .step trivial fun reply => ?_
    have hh₃ := NothingPrepared.cons_plain ⟨.store (.settlement id), reply⟩ h₂ hh₂ trivial
    match reply with
    | .error _ | .ok none => exact (Plain.retryableServiceFailure id _).obeys_any
    | .ok (some journaled) =>
      dsimp only
      split
      · exact journalTerminal_obeys (failureEntry_justified_unprepared hworker hh₃)
      rename_i hmatches
      rw [not_not] at hmatches
      have hverified := (hpayment payment rfl).mono (hown ▸ List.subset_append_left own h₁)
      have hconfirmed : Confirmed role (⟨.store (.settlement id), .ok (some journaled)⟩ :: h₂) id
          payment :=
        ⟨⟨request, htask, hverified.mono (List.subset_cons_self _ _)⟩,
          journaled, List.mem_cons_self, hmatches⟩
      have hpaid := hverified.verifiedBy
      generalize hprovider : role.state.provider = provider at hpaid
      cases hpaid with
      | near relayer nearPayment => exact prepareAndSettle_near_obeys hconfirmed hprovider
      | evm provider evmPayment => exact prepareAndSettle_evm_obeys hconfirmed hprovider

end

end X402Facilitator
