import X402Facilitator.System.WorkerEvidence

/-!
# Recovery is justified

`reconcile` obeys the guarantee of the service. A pass knows the rows with signed bytes because it
has read them; every terminal row it writes rests on a verdict about the columns of the row, or on
the answer to the row's own bytes.
-/

namespace X402Facilitator

open Program Service

section
variable [NearPrimitives] [EvmPrimitives] {role : Role} {h : History Op.Answer}

omit [NearPrimitives] [EvmPrimitives] in
/-- An early return with an error needs no justification. -/
theorem andThen_obeys {ε α β : Type} {G : History Op.Answer → Op → Prop} {x : Except ε α}
    {f : α → Service (Except ε β)}
    (hok : ∀ a, x = .ok a → (f a).Obeys G h fun _ _ => True) :
    (andThen x f).Obeys G h fun _ _ => True := by
  cases x with
  | error e => exact .pure trivial
  | ok a => exact hok a rfl

omit [NearPrimitives] [EvmPrimitives] in
theorem Plain.andThen {ε α β : Type} {x : Except ε α} {f : α → Service (Except ε β)}
    (hf : ∀ a, Plain (f a)) : Plain (Service.andThen x f) := by
  cases x with
  | ok a => exact hf a
  | error e => exact .pure _

/-! ## Terminal outcomes -/

theorem quarantineSigner_obeys {reason : String} {nonce : Nat}
    (hquarantine : QuarantineJustified role h role.state.relayerRow reason) :
    (quarantineSigner role.state reason nonce).Obeys (Justified role) h fun result h' =>
      ∀ u, result = .ok u → Stored h' (.quarantineRelayer role.state.relayerRow reason nonce) u :=
  .perform hquarantine fun _ _ hok => hok ▸ List.mem_cons_self

/-- A reconciled outcome is journaled once its cost is accounted for: beyond the reservation of an EVM
row, the signer is quarantined first. -/
theorem finalizeReconciledTerminal_obeys {record : Settlement} {outcome : TerminalOutcome}
    (htask : role.task.reconciles = true)
    (hrow : record.relayerAccountId.isSome = true ∨
      ((∃ provider, role.state.provider = .evm provider) ∧
        record.signerAddress = some role.state.provider.signerAccountId ∧
        record.network = role.state.config.network))
    (hentry : ∀ h', h <:+ h' → CostJustified role h' record outcome.feeAtomic →
      TerminalJustified role h'
        (outcomeEntry record.id record.payer role.state.config.network outcome)) :
    (finalizeReconciledTerminal role.state record outcome).Obeys (Justified role) h
      fun _ _ => True := by
  refine andThen_obeys fun overrun hoverrun => ?_
  split
  · refine .bind (Quiet.setRelayerGate false).plain.obeys_any fun _ h₁ hsuffix₁ _ => ?_
    refine .bind Plain.setReconciliation_false.obeys_any fun _ h₂ hsuffix₂ _ => ?_
    refine .bind (quarantineSigner_obeys ⟨.inr htask, rfl, fun _ hreason => absurd rfl hreason⟩)
      fun result h₃ hsuffix₃ hstored => ?_
    refine andThen_obeys fun u hok => ?_
    have hcost : CostJustified role h₃ record outcome.feeAtomic := by
      obtain hnear | ⟨⟨provider, hprovider⟩, hsigner, hnetwork⟩ := hrow
      · exact .near (.inr hnear)
      · exact .quarantined hprovider hsigner hnetwork (hstored u hok)
    refine .bind (.perform (hentry h₃ ((hsuffix₁.trans hsuffix₂).trans hsuffix₃) hcost)
      fun _ => trivial) fun _ _ _ (_ : True) => ?_
    exact andThen_obeys fun _ _ => .pure trivial
  · rename_i hwithin
    refine .perform (hentry h List.suffix_rfl ?_) fun _ => trivial
    unfold feeOverrun at hoverrun
    split at hoverrun
    · exact .near (.inl ‹_›)
    · split at hoverrun
      · have hle := Except.ok.inj hoverrun
        rw [← hle] at hwithin
        exact .within htask (by simpa using hwithin)
      · cases hoverrun

/-! ## NEAR rows -/

omit [NearPrimitives] [EvmPrimitives] in
theorem SawFinal.mono {h h' : History Op.Answer} (hsuffix : h <:+ h') {hash : CryptoHash}
    {outcome : FinalExecutionOutcomeView} (hseen : SawFinal h hash outcome) :
    SawFinal h' hash outcome :=
  hseen.imp (fun ⟨reader, signer, hasked⟩ => ⟨reader, signer, hasked.mono hsuffix⟩)
    fun ⟨signed, hasked⟩ => ⟨signed, hasked.mono hsuffix⟩

/-- A NEAR row whose columns recovery has checked. -/
structure NearRow (relayer : NearProvider) (submission : NearSubmission) (r : Settlement) :
    Prop where
  bytes : r.outerTransactionBytes = some submission.bytes
  hash : ∃ text, r.outerTransactionHash = some text ∧ parseHash text = some submission.hash
  account : r.relayerAccountId = some relayer.accountId.text
  publicKey : r.relayerPublicKey = some relayer.publicKey
  stored : validateStoredTransaction r submission.bytes submission.hash submission.signer = .ok ()

/-- The exact bytes of a submitted row are sent again, and their answer may decide the row. -/
theorem rebroadcastNear_obeys {relayer : NearProvider} {record : Settlement}
    {submission : NearSubmission} (hprovider : role.state.provider = .near relayer)
    (htask : role.task.reconciles = true) (hsend : MaySend role h record)
    (hrow : NearRow relayer submission record) :
    (rebroadcastNear role.state record submission).Obeys (Justified role) h fun _ _ => True := by
  have hbroadcast : (role.state.provider.rebroadcast submission.bytes (hashText submission.hash)
      record.payer record.asset).Obeys (Justified role) h (BroadcastSeen role record) := by
    rw [hprovider]
    refine classifyBroadcast_obeys hprovider hsend hrow.bytes hrow.account ?_
    intro outcome terminal hterminal
    rw [parseHash_hashText] at hterminal
    split at hterminal
    · rename_i hash payer asset hhash hpayer hasset
      obtain rfl := Option.some.inj hhash
      exact ⟨submission.hash, payer, asset, hterminal, hrow.hash,
        (AccountId.parse_eq_some.mp hpayer).symm,
        by rw [AccountId.parse_eq_some.mp hasset]; rfl⟩
    · cases hterminal
  refine .bind hbroadcast fun result h₁ _ hseen => ?_
  cases result with
  | terminal outcome =>
    exact finalizeReconciledTerminal_obeys htask (.inl (by rw [hrow.account]; rfl))
      fun h' hlater _ => hseen.terminal outcome rfl h' hlater
  | rejected reason =>
    exact .bind (journalTerminal_obeys (failureEntry_justified hseen.knows
      (hseen.rejected reason rfl) fun _ hcode => absurd hcode (by decide))) fun _ _ _ _ => .pure trivial
  | pending => exact .pure trivial

/-- What both heads of a relayer have established. -/
structure BothHeads (state : AppState) (relayer : NearProvider) (h : History Op.Answer)
    (primary backup : SignerHead) : Prop where
  fresh : FreshHead state h primary
  primaryHead : SawSignerHead h relayer .primary primary
  backupHead : SawSignerHead h relayer .backup backup
  looks : ∀ e ∈ h, e.op.looks = false

omit [NearPrimitives] [EvmPrimitives] in
theorem Op.Quiet.looks {o : Op} (ho : o.Quiet) : o.looks = false := by
  cases o with
  | loadGate gate => exact ho.elim
  | _ => rfl

omit [NearPrimitives] [EvmPrimitives] in
theorem Op.Quiet.quarantines {o : Op} (ho : o.Quiet) : o.quarantines = false :=
  ho.plain.quarantines

omit [NearPrimitives] [EvmPrimitives] in
/-- What a quiet program does itself is quiet. -/
theorem Quiet.yields_quiet {α : Type} {G : History Op.Answer → Op → Prop}
    (hG : ∀ h o, o.Quiet → G h o) {p : Service α} (hp : Quiet p) :
    Yields G p fun _ own => ∀ e ∈ own, e.op.Quiet := by
  intro h
  refine (hp.obeys (G := G) (I := fun h' => ∃ own, h' = own ++ h ∧ ∀ e ∈ own, e.op.Quiet)
    (fun h' o _ ho => hG h' o ho) ?_ ⟨[], rfl, List.forall_mem_nil _⟩).conseq fun _ _ _ h => h
  rintro e _ ⟨own, rfl, hown⟩ he
  exact ⟨e :: own, rfl, List.forall_mem_cons.mpr ⟨he, hown⟩⟩

theorem Quiet.bothHeads (state : AppState) (backupFailure : String) :
    Quiet (X402Facilitator.bothHeads state backupFailure) := by
  refine .bind (Quiet.freshSignerHead state) fun head => Quiet.andThen fun primary => ?_
  refine .bind (Quiet.backupSignerHead _) fun backup => ?_
  cases backup <;> exact .pure _

theorem bothHeads_yields {G : History Op.Answer → Op → Prop} (hG : ∀ h o, o.Quiet → G h o)
    {state : AppState} {relayer : NearProvider} (hprovider : state.provider = .near relayer)
    (backupFailure : String) :
    Yields G (bothHeads state backupFailure) fun result own => ∀ primary backup,
      result = .ok (primary, backup) → BothHeads state relayer own primary backup := by
  have hheads : Yields G (bothHeads state backupFailure) fun result own => ∀ primary backup,
      result = .ok (primary, backup) → FreshHead state own primary ∧
        SawSignerHead own relayer .backup backup := by
    refine .bind (freshSignerHead_yields hG state) fun head own hhead => ?_
    refine andThen_yields (fun e _ primary backup h => by cases h) fun primary hok => ?_
    have hbackup := (backupSignerHead_yields hG relayer).and
      (Quiet.yields_quiet hG (Quiet.backupSignerHead (.near relayer)))
    rw [← hprovider] at hbackup
    refine .bind hbackup fun result own' ⟨hresult, hquiet⟩ => ?_
    cases result with
    | error e => exact .pure fun primary backup h => by cases h
    | ok backup =>
      refine .pure fun primary' backup' h => ?_
      obtain ⟨rfl, rfl⟩ := Prod.mk.inj (Except.ok.inj h)
      have hfresh := hhead primary hok
      exact ⟨⟨hfresh.vetted.append_left fun e he => (hquiet e he).quarantines, hfresh.funded,
        hfresh.signer.mono (List.subset_append_right _ _)⟩,
        (hresult backup rfl).mono (List.subset_append_left _ _)⟩
  refine (hheads.and (Quiet.yields_quiet hG (Quiet.bothHeads state backupFailure))).conseq ?_
  rintro result own ⟨h, hquiet⟩ primary backup hok
  obtain ⟨hfresh, hbackup⟩ := h primary backup hok
  have hsigner := hfresh.signer
  rw [hprovider] at hsigner
  exact ⟨hfresh, hsigner.head_near, hbackup, fun e he => (hquiet e he).looks⟩

theorem snapshot_obeys : snapshot.Obeys (Justified role) h fun current h' =>
    h' = ⟨.loadGate .relayer, current.relayer⟩ :: ⟨.loadGate .rpc, current.rpc⟩ ::
      ⟨.loadGate .reconciliation, current.reconciliation⟩ ::
        ⟨.loadGate .leadership, current.leadership⟩ :: h :=
  .step trivial fun _ => .step trivial fun _ => .step trivial fun _ => .step trivial fun _ =>
    .pure rfl

/-- Where recovery may broadcast, its last look at the gates found them open. -/
theorem canReconciliationBroadcast_obeys :
    canReconciliationBroadcast.Obeys (Justified role) h fun ready h' =>
      ready = true → SawGates h' := by
  refine .bind snapshot_obeys fun current h' _ hread => .pure fun hready => ?_
  obtain ⟨⟨hleadership, hrpc⟩, hrelayer⟩ := (by simpa using hready :
    (current.leadership = true ∧ current.rpc = true) ∧ current.relayer = true)
  rw [hleadership, hrpc, hrelayer] at hread
  exact ⟨[], h, current.reconciliation, hread, List.forall_mem_nil _⟩

omit [NearPrimitives] [EvmPrimitives] in
theorem SawGates.append_left {own : History Op.Answer} (hown : ∀ e ∈ own, e.op.looks = false)
    (hgates : SawGates h) : SawGates (own ++ h) := by
  obtain ⟨later, earlier, reconciliation, rfl, hlater⟩ := hgates
  refine ⟨own ++ later, earlier, reconciliation, by simp, fun e he => ?_⟩
  exact (List.mem_append.mp he).elim (hown e) (hlater e)

/-- What the first heads of a pass have shown about a row: the transaction is unknown, the nonce
unused, and the delegate action not expired. -/
structure Unexpired (relayer : NearProvider) (h : History Op.Answer) (record : Settlement)
    (primary backup : SignerHead) : Prop where
  unknown : ∃ hash signer, (∃ text, record.outerTransactionHash = some text ∧
    parseHash text = some hash) ∧ SawUnknownNear h hash signer
  primaryHead : SawSignerHead h relayer .primary primary
  backupHead : SawSignerHead h relayer .backup backup
  columns : ∃ nonce expiry, record.relayerNonce = some nonce ∧
    record.delegateMaxBlockHeight = some expiry ∧ primary.signerNonce < nonce ∧
    backup.signerNonce < nonce ∧ primary.chainBlockHeight < expiry ∧
    backup.chainBlockHeight < expiry

omit [NearPrimitives] [EvmPrimitives] in
theorem SawUnknownNear.mono {h h' : History Op.Answer} (hsubset : h ⊆ h') {hash : CryptoHash}
    {signer : AccountId} (hunknown : SawUnknownNear h hash signer) :
    SawUnknownNear h' hash signer :=
  fun reader => (hunknown reader).imp fun _ hanswer => ⟨hsubset hanswer.1, hanswer.2⟩

omit [EvmPrimitives] in
theorem Unexpired.mono {relayer : NearProvider} {h h' : History Op.Answer} {record : Settlement}
    {primary backup : SignerHead} (hsubset : h ⊆ h')
    (hunexpired : Unexpired relayer h record primary backup) :
    Unexpired relayer h' record primary backup where
  unknown := hunexpired.unknown.imp fun _ ⟨signer, hhash, hunknown⟩ =>
    ⟨signer, hhash, hunknown.mono hsubset⟩
  primaryHead := hunexpired.primaryHead.mono hsubset
  backupHead := hunexpired.backupHead.mono hsubset
  columns := hunexpired.columns

/-- The second heads repeat the nonces of the first ones. -/
theorem Unexpired.rechecked {state : AppState} {relayer : NearProvider}
    {own : History Op.Answer} {record : Settlement}
    {primary backup currentPrimary currentBackup : SignerHead}
    (hprovider : state.provider = .near relayer)
    (hunexpired : Unexpired relayer h record primary backup)
    (hheads : BothHeads state relayer own currentPrimary currentBackup)
    (hprimary : currentPrimary.signerNonce = primary.signerNonce)
    (hbackup : currentBackup.signerNonce = backup.signerNonce) :
    Rechecked state (own ++ h) record := by
  obtain ⟨hash, signer, hhash, hunknown⟩ := hunexpired.unknown
  obtain ⟨nonce, expiry, hnonce, hexpiry, hprimaryNonce, hbackupNonce, hprimaryHeight,
    hbackupHeight⟩ := hunexpired.columns
  have hsigner := hheads.fresh.signer
  rw [hprovider] at hsigner
  obtain ⟨block, hbalance⟩ := hsigner.balance_near
  refine .near hprovider hhash (hunknown.mono (List.subset_append_right own h))
    ⟨block, _, hbalance.append_right, hheads.fresh.funded⟩ hnonce hexpiry fun reader => ?_
  cases reader with
  | primary =>
    obtain ⟨firstHash, hfirst⟩ := hunexpired.primaryHead
    obtain ⟨lastHash, hlast⟩ := hheads.primaryHead
    exact ⟨own, h, _, _, rfl, hfirst, hlast, hprimaryHeight, hprimaryNonce, hprimary⟩
  | backup =>
    obtain ⟨firstHash, hfirst⟩ := hunexpired.backupHead
    obtain ⟨lastHash, hlast⟩ := hheads.backupHead
    exact ⟨own, h, _, _, rfl, hfirst, hlast, hbackupHeight, hbackupNonce, hbackup⟩

theorem recheckAndRebroadcast_obeys {relayer : NearProvider} {record : Settlement}
    {submission : NearSubmission} {primary backup : SignerHead}
    (hprovider : role.state.provider = .near relayer) (htask : role.task.reconciles = true)
    (hr : Knows h record) (hsubmitted : KnowsSubmitted h record)
    (hrow : NearRow relayer submission record)
    (hunexpired : Unexpired relayer h record primary backup) :
    (recheckAndRebroadcast role.state record submission primary backup).Obeys (Justified role) h
      fun _ _ => True := by
  refine .bind canReconciliationBroadcast_obeys fun ready h₁ hsuffix₁ hgates => ?_
  split
  · exact .pure trivial
  rename_i hready
  refine .bind (bothHeads_yields (fun h o => Op.Quiet.justified role h) hprovider _ h₁)
    fun heads h₂ hsuffix₂ ⟨own, hown, hheads⟩ => andThen_obeys fun heads' hok => ?_
  obtain ⟨currentPrimary, currentBackup⟩ := heads'
  have hboth := hheads currentPrimary currentBackup hok
  dsimp only
  split
  · exact .bind (Quiet.setRelayerGate false).plain.obeys_any fun _ _ _ _ => .pure trivial
  · rename_i hnonces
    obtain ⟨hprimary, hbackup⟩ := not_or.mp hnonces
    rw [not_not] at hprimary hbackup
    subst hown
    refine rebroadcastNear_obeys hprovider htask ⟨hr.mono (hsuffix₁.trans hsuffix₂),
      hsubmitted.mono (hsuffix₁.trans hsuffix₂), hboth.fresh.vetted.append_right,
      .inr ⟨htask, (hgates (not_not.mp hready)).append_left hboth.looks, ?_⟩⟩ hrow
    exact (hunexpired.mono hsuffix₁.subset).rechecked hprovider hboth hprimary hbackup

/-- After `ensure_submitted`, the row is known to be submitted. -/
theorem ensureSubmitted_obeys {record : Settlement} (hstate : record.state.inFlight = true) :
    (ensureSubmitted record).Obeys (Justified role) h fun result h' =>
      ∀ u, result = .ok u → KnowsSubmitted h' record := by
  by_cases hprepared : record.state = .prepared
  · rw [ensureSubmitted, if_pos hprepared]
    exact .perform trivial fun answer u hok => .inr (hok ▸ List.mem_cons_self)
  · rw [ensureSubmitted, if_neg hprepared]
    refine .pure fun _ _ => .inl ?_
    generalize record.state = state at hstate hprepared ⊢
    cases state <;> first | rfl | exact absurd rfl hprepared | cases hstate

omit [EvmPrimitives] in
/-- The delegate action has expired on a head that a reader returned, before the nonce was used. -/
theorem sawExpired_of_heads {relayer : NearProvider} {record : Settlement}
    {submission : NearSubmission} {signer : AccountId} {primary backup : SignerHead}
    {preparedNonce delegateMaxHeight : Nat} (hrow : NearRow relayer submission record)
    (hunknown : SawUnknownNear h submission.hash signer)
    (hprimary : SawSignerHead h relayer .primary primary)
    (hbackup : SawSignerHead h relayer .backup backup)
    (hnonce : record.relayerNonce = some preparedNonce)
    (hunused : ¬ (preparedNonce ≤ primary.signerNonce ∨ preparedNonce ≤ backup.signerNonce))
    (hexpiry : record.delegateMaxBlockHeight = some delegateMaxHeight)
    (hexpired : delegateMaxHeight ≤ max primary.chainBlockHeight backup.chainBlockHeight) :
    SawExpired h record relayer := by
  obtain ⟨text, htext, hhash⟩ := hrow.hash
  obtain ⟨primaryHash, hprimaryBlock, hprimaryKey⟩ := hprimary
  obtain ⟨backupHash, hbackupBlock, hbackupKey⟩ := hbackup
  refine ⟨hrow.account, hrow.publicKey, ⟨text, submission.hash, signer, htext, hhash, hunknown⟩,
    ⟨preparedNonce, hnonce, fun reader => ?_⟩, ⟨delegateMaxHeight, hexpiry, ?_⟩⟩
  · cases reader with
    | primary => exact ⟨primaryHash, primary.signerNonce, hprimaryKey, by omega⟩
    | backup => exact ⟨backupHash, backup.signerNonce, hbackupKey, by omega⟩
  · have hreached : delegateMaxHeight ≤ primary.chainBlockHeight ∨
        delegateMaxHeight ≤ backup.chainBlockHeight := by omega
    obtain hle | hle := hreached
    · exact ⟨.primary, _, hprimaryBlock, hle⟩
    · exact ⟨.backup, _, hbackupBlock, hle⟩

omit [EvmPrimitives] in
/-- The reader with the higher head is the one whose block shows both the expiry and the nonce. -/
theorem sawPassed_of_heads {relayer : NearProvider} {record : Settlement}
    {submission : NearSubmission} {primary backup : SignerHead}
    {preparedNonce delegateMaxHeight : Nat} (hrow : NearRow relayer submission record)
    (hprimary : SawSignerHead h relayer .primary primary)
    (hbackup : SawSignerHead h relayer .backup backup)
    (hnonce : record.relayerNonce = some preparedNonce)
    (hunused : ¬ (preparedNonce ≤ primary.signerNonce ∨ preparedNonce ≤ backup.signerNonce))
    (hexpiry : record.delegateMaxBlockHeight = some delegateMaxHeight)
    (hexpired : delegateMaxHeight ≤ max primary.chainBlockHeight backup.chainBlockHeight) :
    SawPassed h record relayer := by
  refine ⟨⟨_, _, _, hrow.bytes, hrow.stored⟩, hrow.account, hrow.publicKey, preparedNonce,
    delegateMaxHeight, ?_⟩
  obtain ⟨primaryHash, hprimaryHead⟩ := hprimary
  obtain ⟨backupHash, hbackupHead⟩ := hbackup
  have hreached : delegateMaxHeight ≤ primary.chainBlockHeight ∨
      delegateMaxHeight ≤ backup.chainBlockHeight := by omega
  have hprimaryNonce : primary.signerNonce < preparedNonce := by omega
  have hbackupNonce : backup.signerNonce < preparedNonce := by omega
  obtain hle | hle := hreached
  · exact ⟨.primary, _, hnonce, hexpiry, hprimaryHead, hle, hprimaryNonce⟩
  · exact ⟨.backup, _, hnonce, hexpiry, hbackupHead, hle, hbackupNonce⟩

/-- The key of the row is the configured one, so the entry that is quarantined is the signer's. -/
theorem quarantineUnknown_obeys {record : Settlement} {observedNonce : Nat}
    (hkey : record.relayerPublicKey = some role.state.provider.signerPublicKey)
    (hquarantine : QuarantineJustified role h role.state.relayerRow
      "nonce advanced while exact transaction remained unknown") :
    (quarantineUnknown role.state record observedNonce).Obeys (Justified role) h
      fun _ _ => True := by
  refine andThen_obeys fun publicKey hpublicKey => ?_
  obtain rfl := Option.some.inj (hkey.symm.trans (orCorrupt_ok hpublicKey))
  refine .step hquarantine fun _ => andThen_obeys fun _ _ => ?_
  exact .bind (Quiet.setRelayerGate false).plain.obeys_any fun _ _ _ _ => .pure trivial

theorem reconcileUnknown_obeys {relayer : NearProvider} {record : Settlement}
    {submission : NearSubmission} {signer : AccountId}
    (hprovider : role.state.provider = .near relayer) (htask : role.task.reconciles = true)
    (hr : Knows h record) (hstate : record.state.inFlight = true)
    (hrow : NearRow relayer submission record)
    (hunknown : SawUnknownNear h submission.hash signer) :
    (reconcileUnknown role.state record submission).Obeys (Justified role) h
      fun _ _ => True := by
  refine .bind (bothHeads_yields (fun h o => Op.Quiet.justified role h) hprovider _ h)
    fun heads h₁ hsuffix₁ ⟨own, hown, hheads⟩ => andThen_obeys fun heads' hok => ?_
  obtain ⟨primary, backup⟩ := heads'
  have hboth := hheads primary backup hok
  subst hown
  have hprimary := hboth.primaryHead.mono (List.subset_append_left own h)
  have hbackup := hboth.backupHead.mono (List.subset_append_left own h)
  have hunknown' := hunknown.mono (List.subset_append_right own h)
  refine andThen_obeys fun preparedNonce hnonce => ?_
  obtain ⟨hnonce, -⟩ := Option.filter_eq_some_iff.mp (orCorrupt_ok hnonce)
  split
  · rename_i hadvanced
    refine quarantineUnknown_obeys (by rw [hprovider]; exact hrow.publicKey)
      ⟨.inr htask, rfl, fun _ _ => ⟨record, hr.mono hsuffix₁, ?_⟩⟩
    obtain hadvanced | hadvanced := hadvanced
    · obtain ⟨blockHash, hhead⟩ := hboth.primaryHead
      exact .near hprovider hrow.hash hnonce rfl hunknown hhead hadvanced
    · obtain ⟨blockHash, hhead⟩ := hboth.backupHead
      exact .near hprovider hrow.hash hnonce rfl hunknown hhead hadvanced
  rename_i hunused
  refine andThen_obeys fun delegateMaxHeight hexpiry => ?_
  obtain ⟨hexpiry, -⟩ := Option.filter_eq_some_iff.mp (orCorrupt_ok hexpiry)
  split
  · rename_i hexpired
    refine .bind (journalTerminal_obeys (failureEntry_justified (hr.mono hsuffix₁)
      (.expired hprovider ?_) fun _ _ => ⟨relayer, hprovider, ?_⟩)) fun _ _ _ _ => .pure trivial
    · exact sawExpired_of_heads hrow hunknown' hprimary hbackup hnonce hunused hexpiry hexpired
    · exact sawPassed_of_heads hrow hprimary hbackup hnonce hunused hexpiry hexpired
  · rename_i hvalid
    refine .bind (ensureSubmitted_obeys hstate) fun result h₂ hsuffix₂ hresult => ?_
    refine andThen_obeys fun _ hok => ?_
    have hunexpired : Unexpired relayer (own ++ h) record primary backup :=
      ⟨⟨submission.hash, signer, hrow.hash, hunknown'⟩, hprimary, hbackup, preparedNonce,
        delegateMaxHeight, hnonce, hexpiry, by omega, by omega, by omega, by omega⟩
    exact recheckAndRebroadcast_obeys hprovider htask (hr.mono (hsuffix₁.trans hsuffix₂))
      (hresult _ hok) hrow (hunexpired.mono hsuffix₂.subset)

theorem reconcileSubmission_obeys {relayer : NearProvider} {record : Settlement}
    {submission : NearSubmission} (hprovider : role.state.provider = .near relayer)
    (htask : role.task.reconciles = true) (hr : Knows h record)
    (hstate : record.state.inFlight = true) (hrow : NearRow relayer submission record) :
    (reconcileSubmission role.state record submission).Obeys (Justified role) h
      fun _ _ => True := by
  have hstatus := reconcileStatus_near_yields (fun h o => Op.Quiet.justified role h) relayer
    (hashText submission.hash) submission.signer.text record.payer record.asset h
  rw [← hprovider] at hstatus
  refine .bind hstatus fun verdict h₁ hsuffix₁ ⟨own, hown, hverdict⟩ => ?_
  subst hown
  obtain rfl | ⟨hash, signer, payer, asset, hhash, hpayer, hasset, hseen⟩ := hverdict
  · exact .bind Plain.setReconciliation_false.obeys_any fun _ _ _ _ => .pure trivial
  rw [parseHash_hashText] at hhash
  obtain rfl := Option.some.inj hhash
  have happend {query : Query} {answer : query.Answer} (hasked : Asked own query answer) :
      Asked (own ++ h) query answer := hasked.append_right
  cases verdict with
  | terminal outcome =>
    obtain ⟨final, hfinal, hterminal⟩ := hseen
    refine finalizeReconciledTerminal_obeys htask (.inl (by rw [hrow.account]; rfl))
      fun h' hlater _ => ?_
    refine outcomeEntry_justified_near hprovider (hr.mono (hsuffix₁.trans hlater)) ?_ hrow.hash
      hrow.account hpayer (hasset ▸ rfl) hterminal
    exact SawFinal.mono hlater (hfinal.imp (fun ⟨reader, signer, hasked⟩ => ⟨reader, signer, happend hasked⟩)
      fun ⟨signed, hasked⟩ => ⟨signed, happend hasked⟩)
  | unknown =>
    exact reconcileUnknown_obeys hprovider htask (hr.mono hsuffix₁) hstate hrow
      fun reader => (hseen reader).imp fun _ h => ⟨happend h.1, h.2⟩
  | pending => exact .pure trivial
  | conflict | ambiguous =>
    exact .bind Plain.setReconciliation_false.obeys_any fun _ _ _ _ => .pure trivial
  | indeterminate _ =>
    exact .bind Plain.setReconciliation_false.obeys_any fun _ _ _ _ => .pure trivial

theorem reconcilePreparedNear_obeys {relayer : NearProvider} {record : Settlement}
    (hprovider : role.state.provider = .near relayer) (htask : role.task.reconciles = true)
    (hr : Knows h record)
    (hstate : record.state.inFlight = true) :
    (reconcilePreparedNear role.state record).Obeys (Justified role) h fun _ _ => True := by
  unfold reconcilePreparedNear
  split
  · exact .bind (Quiet.setRelayerGate false).plain.obeys_any fun _ _ _ _ => .pure trivial
  rename_i hmatches
  rw [not_not] at hmatches
  refine andThen_obeys fun submission hsubmission => ?_
  obtain ⟨hbytes, hhash, -⟩ := nearSubmission_ok_iff.mp hsubmission
  split
  · exact .bind (Quiet.setRelayerGate false).plain.obeys_any fun _ _ _ _ => .pure trivial
  · rename_i hstored
    obtain ⟨haccount, hkey⟩ := of_decide_eq_true hmatches
    rw [hprovider] at haccount hkey
    exact reconcileSubmission_obeys hprovider htask hr hstate
      ⟨hbytes, hhash, haccount, hkey, hstored⟩

/-! ## EVM rows -/

omit [NearPrimitives] in
theorem SawConfirmed.mono {h h' : History Op.Answer} (hsuffix : h <:+ h') {hash : Hash32}
    {facts : ReceiptFacts} {chainId headBlock : Nat}
    (hseen : SawConfirmed h hash facts chainId headBlock) :
    SawConfirmed h' hash facts chainId headBlock := by
  obtain ⟨newer, rfl⟩ := hsuffix
  obtain ⟨later, middle, earlier, rest, rfl, hfirst, hhead, hsecond⟩ := hseen
  exact ⟨newer ++ later, middle, earlier, rest, (List.append_assoc ..).symm, hfirst, hhead,
    hsecond.append_left⟩

omit [NearPrimitives] in
theorem SawConfirmed.append_right {own h : History Op.Answer} {hash : Hash32}
    {facts : ReceiptFacts} {chainId headBlock : Nat}
    (hseen : SawConfirmed own hash facts chainId headBlock) :
    SawConfirmed (own ++ h) hash facts chainId headBlock := by
  obtain ⟨later, middle, earlier, rest, rfl, hfirst, hhead, hsecond⟩ := hseen
  exact ⟨later, middle, earlier, rest ++ h, by simp, hfirst, hhead, hsecond⟩

/-- The depth that the journal requires of the row is at least the one it was admitted under, and the
one of the configuration was brought to the journal. -/
def EvmPolicy (state : AppState) (r : Settlement) (minimum required : Int) : Prop :=
  ∃ provider gasLimit maxFeePerGas admission, state.provider = .evm provider ∧
    toI32 provider.requiredConfirmations = some minimum ∧
    evmPolicySnapshot r = .ok (gasLimit, maxFeePerGas, admission) ∧ (admission : Int) ≤ required

omit [NearPrimitives] [EvmPrimitives] in
theorem toI32_eq_some {n : Nat} {i : Int} (h : toI32 n = some i) : i = n := by
  unfold toI32 at h
  split at h
  · exact (Option.some.inj h).symm
  · cases h

/-- The terminal outcome of a row's own EVM transaction may be journaled. -/
theorem outcomeEntry_justified_evm {r : Settlement} {provider : EvmProvider} {hash : Hash32}
    {minimum required : Int} {facts : ReceiptFacts} {headBlock : Nat} {outcome : EvmTerminalOutcome}
    (hprovider : role.state.provider = .evm provider) (hr : Knows h r)
    (hreceipt : SawOwnReceipt h r hash facts provider.chainId headBlock)
    (hrequired : Stored h (.raiseConfirmations r.id minimum) (some required))
    (hdepth : required ≤ outcome.confirmations)
    (hconfirmations : outcome.confirmations = depthUnder facts headBlock)
    (hsuccess : outcome.success = facts.success) (htx : outcome.txHash = hash)
    (hpolicy : EvmPolicy role.state r minimum required)
    (hcost : CostJustified role h r outcome.feeWei) :
    TerminalJustified role h
      (outcomeEntry r.id r.payer role.state.config.network (evmTerminalToNeutral outcome)) where
  succeeded hstate := by
    have hneutral : outcome.success = true := by
      by_contra hfailed
      simp [outcomeEntry, evmTerminalToNeutral, hfailed] at hstate
    refine ⟨r, hr, rfl, .evm hprovider hreceipt (hsuccess.symm.trans hneutral) ?_ ?_⟩
    · rw [← hconfirmations]
      rfl
    · simp only [outcomeEntry, outcomeResponse, evmTerminalToNeutral, hneutral, if_true, ← htx]
  failed hstate := by
    have hneutral : outcome.success = false := by
      rw [← Bool.not_eq_true]
      intro hsucceeded
      simp [outcomeEntry, evmTerminalToNeutral, hsucceeded] at hstate
    exact .inr ⟨r, hr, rfl, .reverted hprovider hreceipt (hsuccess.symm.trans hneutral) hrequired
      (hconfirmations ▸ hdepth)⟩
  expired _ hcode := absurd hcode outcomeEntry_errorCode
  cost burnt hburnt _ := by
    obtain rfl := Option.some.inj hburnt
    exact ⟨r, hr, rfl, hcost⟩
  depth depth hrecorded := by
    obtain ⟨provider, gasLimit, maxFeePerGas, admission, hprovider, hminimum, hsnapshot,
      hadmission⟩ := hpolicy
    refine ⟨r, hr, rfl, provider, minimum, required, gasLimit, maxFeePerGas, admission, hprovider,
      hminimum, hrequired, hsnapshot, hadmission, ?_⟩
    obtain rfl : depth = outcome.confirmations := toI32_eq_some hrecorded
    exact hdepth

/-- An EVM row whose columns recovery has checked. -/
structure EvmRow (state : AppState) (submission : EvmSubmission) (r : Settlement) : Prop where
  bytes : r.submittedTxRlp = some submission.bytes
  hash : r.submittedTxHash = some submission.hash
  nonce : r.signerAccountNonce = some submission.nonce
  signer : r.signerAddress = some state.provider.signerAccountId
  network : r.network = state.config.network

omit [NearPrimitives] [EvmPrimitives] in
theorem SawUnknownEvm.mono {h h' : History Op.Answer} (hsubset : h ⊆ h') {hash : Hash32}
    (hunknown : SawUnknownEvm h hash) : SawUnknownEvm h' hash :=
  fun reader => (hunknown reader).imp (fun h => hsubset h) fun h => hsubset h

theorem rebroadcastEvm_obeys {provider : EvmProvider} {record : Settlement}
    {submission : EvmSubmission} (hprovider : role.state.provider = .evm provider)
    (hsend : MaySend role h record) (hbytes : record.submittedTxRlp = some submission.bytes) :
    (rebroadcastEvm role.state record submission).Obeys (Justified role) h fun _ _ => True := by
  have hbroadcast : (role.state.provider.rebroadcast submission.bytes submission.hash record.payer
      record.asset).Obeys (Justified role) h fun result _ => result = .pending := by
    rw [hprovider]
    exact .step ⟨record, hsend, hbytes⟩ fun _ => .pure rfl
  refine .bind hbroadcast fun result _ _ hpending => ?_
  subst hpending
  exact .pure trivial

theorem recheckNonceAndRebroadcast_obeys {provider : EvmProvider} {record : Settlement}
    {submission : EvmSubmission} {hash : Hash32} {head : SignerHead}
    {later earlier : History Op.Answer} (hprovider : role.state.provider = .evm provider)
    (htask : role.task.reconciles = true) (hr : Knows h record)
    (hsubmitted : KnowsSubmitted h record) (hrow : EvmRow role.state submission record)
    (hhash : parseB256 submission.hash = some hash) (hsplit : h = later ++ earlier)
    (hunknown : SawUnknownEvm earlier hash) (hfresh : FreshHead role.state later head)
    (hcovered : requireEvmRecoveryBalance role.state record head.signerBalanceAtomic = .ok ()) :
    (recheckNonceAndRebroadcast role.state record submission head.signerNonce).Obeys
      (Justified role) h fun _ _ => True := by
  have hhead := hfresh.signer
  rw [hprovider] at hhead
  have hown : ∃ text, record.submittedTxHash = some text ∧ parseB256 text = some hash :=
    ⟨_, hrow.hash, hhash⟩
  unfold recheckNonceAndRebroadcast
  split
  · rename_i hadvanced
    refine .bind (quarantineSigner_obeys ⟨.inr htask, rfl, fun _ _ => ⟨record, hr, ?_⟩⟩)
      fun _ _ _ _ => andThen_obeys ?_
    · exact .evm hprovider hown hrow.nonce hsplit hunknown hhead.head_evm hadvanced
    · exact fun _ _ => .bind (Quiet.setRelayerGate false).plain.obeys_any fun _ _ _ _ =>
        .bind Plain.setReconciliation_false.obeys_any fun _ _ _ _ => .pure trivial
  split
  · exact .bind Plain.setReconciliation_false.obeys_any fun _ _ _ _ => .pure trivial
  rename_i hnonce
  rw [not_not] at hnonce
  have hvetted : Vetted role.state h := hsplit ▸ hfresh.vetted.append_right
  refine .bind (canReconciliationBroadcast_obeys.and
    (Plain.canReconciliationBroadcast.obeys_vetted hvetted))
    fun ready h₁ hsuffix₁ ⟨hgates, hvetted⟩ => ?_
  split
  · exact .pure trivial
  rename_i hready
  refine rebroadcastEvm_obeys hprovider ⟨hr.mono hsuffix₁, hsubmitted.mono hsuffix₁, hvetted,
    .inr ⟨htask, hgates (not_not.mp hready), ?_⟩⟩ hrow.bytes
  have hsubset : later ++ earlier ⊆ h₁ := hsplit ▸ hsuffix₁.subset
  refine .evm hprovider hown (hunknown.mono fun e he => hsubset (List.mem_append_right _ he))
    (hnonce ▸ hrow.nonce) ?_ hfresh.funded hcovered
  exact hhead.head_evm.mono fun e he => hsubset (List.mem_append_left _ he)

theorem reconcileUnknownEvm_obeys {provider : EvmProvider} {record : Settlement}
    {submission : EvmSubmission} {hash : Hash32} (hprovider : role.state.provider = .evm provider)
    (htask : role.task.reconciles = true) (hr : Knows h record)
    (hstate : record.state.inFlight = true) (hrow : EvmRow role.state submission record)
    (hhash : parseB256 submission.hash = some hash) (hunknown : SawUnknownEvm h hash) :
    (reconcileUnknownEvm role.state record submission).Obeys (Justified role) h
      fun _ _ => True := by
  refine .bind (ensureSubmitted_obeys hstate) fun result h₁ hsuffix₁ hresult => ?_
  refine andThen_obeys fun u hok => ?_
  have hsubmitted := hresult u hok
  refine .bind Plain.canReconciliationBroadcast.obeys_any fun _ h₂ hsuffix₂ _ => ?_
  split
  · exact .pure trivial
  refine .bind (freshSignerHead_yields (fun h o => Op.Quiet.justified role h) role.state h₂)
    fun _ h₃ hsuffix₃ ⟨own, hown, hfresh⟩ => ?_
  refine andThen_obeys fun currentHead hok => ?_
  split
  · exact .bind (Quiet.setRelayerGate false).plain.obeys_any fun _ _ _ _ =>
      .bind Plain.setReconciliation_false.obeys_any fun _ _ _ _ => .pure trivial
  · rename_i hcovered
    exact recheckNonceAndRebroadcast_obeys hprovider htask
      (hr.mono ((hsuffix₁.trans hsuffix₂).trans hsuffix₃))
      (hsubmitted.mono (hsuffix₂.trans hsuffix₃)) hrow hhash hown
      (hunknown.mono (hsuffix₁.trans hsuffix₂).subset) (hfresh currentHead hok) hcovered

theorem reconcileSubmissionEvm_obeys {provider : EvmProvider} {record : Settlement}
    {submission : EvmSubmission} {minimum required : Int}
    (hprovider : role.state.provider = .evm provider) (htask : role.task.reconciles = true)
    (hr : Knows h record) (hstate : record.state.inFlight = true)
    (hrow : EvmRow role.state submission record)
    (hrequired : Stored h (.raiseConfirmations record.id minimum) (some required))
    (hpolicy : EvmPolicy role.state record minimum required) :
    (reconcileSubmissionEvm role.state record submission required.toNat).Obeys (Justified role) h
      fun _ _ => True := by
  have hstatus := reconcileStatus_evm_yields (fun h o => Op.Quiet.justified role h) provider
    submission.hash submission.signer record.payer record.asset required.toNat h
  rw [← hprovider] at hstatus
  refine .bind hstatus fun verdict h₁ hsuffix₁ ⟨own, hown, hverdict⟩ => ?_
  subst hown
  cases verdict with
  | terminal outcome =>
    obtain ⟨hash, evmOutcome, hparse, ⟨facts, headBlock, hseen, hblock, hdepth, hconfirmations,
      hsuccess, htx⟩, rfl⟩ := hverdict
    refine finalizeReconciledTerminal_obeys htask
      (.inr ⟨⟨_, hprovider⟩, hrow.signer, hrow.network⟩) fun h' hlater hcost => ?_
    exact outcomeEntry_justified_evm hprovider (hr.mono (hsuffix₁.trans hlater))
      ⟨hseen.append_right.mono hlater, ⟨_, hrow.hash, hparse⟩, by rw [hrow.bytes]; rfl, hblock⟩
      (hrequired.mono (hsuffix₁.trans hlater)) (by omega) hconfirmations hsuccess htx hpolicy hcost
  | unknown =>
    obtain ⟨hash, hhash, hunknown⟩ := hverdict
    exact reconcileUnknownEvm_obeys hprovider htask (hr.mono hsuffix₁) hstate hrow hhash
      (hunknown.mono (List.subset_append_left own h))
  | pending => exact .pure trivial
  | conflict | ambiguous =>
    exact .bind Plain.setReconciliation_false.obeys_any fun _ _ _ _ => .pure trivial
  | indeterminate _ =>
    exact .bind Plain.setReconciliation_false.obeys_any fun _ _ _ _ => .pure trivial

omit [NearPrimitives] in
theorem validateStoredSubmission_network {provider : EvmProvider} {bytes : Bytes}
    {binding : StoredEvmSubmission}
    (h : validateStoredSubmission (.evm provider) bytes binding = .ok ()) :
    binding.network = provider.caip2 := by
  by_contra hnetwork
  simp only [validateStoredSubmission, if_pos hnetwork] at h
  cases h

theorem validateAndReconcileEvm_obeys {provider : EvmProvider} {record : Settlement}
    {signer hash : String} {bytes : Bytes} {minimum required : Int}
    (hprovider : role.state.provider = .evm provider) (htask : role.task.reconciles = true)
    (hr : Knows h record) (hstate : record.state.inFlight = true)
    (hbytes : record.submittedTxRlp = some bytes) (hhash : record.submittedTxHash = some hash)
    (hsigner : record.signerAddress = some role.state.provider.signerAccountId)
    (hminimum : toI32 provider.requiredConfirmations = some minimum) (hpositive : ¬ required < 0)
    (hrequired : Stored h (.raiseConfirmations record.id minimum) (some required)) :
    (validateAndReconcileEvm role.state record signer hash bytes required.toNat).Obeys
      (Justified role) h fun _ _ => True := by
  refine andThen_obeys fun metadata _ => ?_
  split
  · exact .pure trivial
  refine andThen_obeys fun policy hpolicy => ?_
  obtain ⟨gasLimit, maxFeePerGas, admission⟩ := policy
  dsimp only
  split
  · exact .pure trivial
  rename_i hadmission
  refine andThen_obeys fun nonce hnonce => ?_
  obtain ⟨hnonce, -⟩ := Option.filter_eq_some_iff.mp (orCorrupt_ok hnonce)
  split
  · exact .bind (Quiet.setRelayerGate false).plain.obeys_any fun _ _ _ _ => .pure trivial
  · rename_i hvalid
    rw [hprovider] at hvalid
    have hnetwork := (validateStoredSubmission_network hvalid).trans
      (role.state.network_of_evm hprovider).symm
    exact reconcileSubmissionEvm_obeys hprovider htask hr hstate
      ⟨hbytes, hhash, hnonce, hsigner, hnetwork⟩ hrequired
      ⟨provider, gasLimit, maxFeePerGas, admission, hprovider, hminimum, hpolicy, by omega⟩

/-- A raised confirmation depth is the one the journal holds. -/
theorem raiseRequiredConfirmations_obeys {provider : EvmProvider} (id : Uuid) {minimum : Int}
    (hprovider : role.state.provider = .evm provider) (htask : role.task.reconciles = true)
    (hminimum : toI32 provider.requiredConfirmations = some minimum) :
    (raiseRequiredConfirmations id minimum).Obeys (Justified role) h fun result h' =>
      ∀ required, result = .ok required →
        Stored h' (.raiseConfirmations id minimum) (some required) := by
  unfold raiseRequiredConfirmations
  split
  · exact .pure fun required h => by cases h
  refine .step ⟨htask, provider, hprovider, hminimum⟩ fun result => ?_
  match result with
  | .error e => exact .pure fun required h => by cases h
  | .ok (some required) =>
    refine .pure fun required' h => ?_
    obtain rfl := Except.ok.inj h
    exact List.mem_cons_self
  | .ok none =>
    refine .step trivial fun result => ?_
    match result with
    | .error e => exact .pure fun required h => by cases h
    | .ok none => exact .pure fun required h => by cases h
    | .ok (some row) => exact .pure fun required h => by cases h

theorem reconcilePreparedEvm_obeys {provider : EvmProvider} {record : Settlement}
    (hprovider : role.state.provider = .evm provider) (htask : role.task.reconciles = true)
    (hr : Knows h record) (hstate : record.state.inFlight = true) :
    (reconcilePreparedEvm role.state record).Obeys (Justified role) h fun _ _ => True := by
  refine andThen_obeys fun signer hsigner => ?_
  split
  · exact .bind (Quiet.setRelayerGate false).plain.obeys_any fun _ _ _ _ => .pure trivial
  rename_i hconfigured
  rw [not_not] at hconfigured
  refine andThen_obeys fun hash hhash => andThen_obeys fun bytes hbytes => ?_
  refine andThen_obeys fun configured hdepth => ?_
  have hminimum : toI32 provider.requiredConfirmations = some configured := by
    have hdepth := orCorrupt_ok hdepth
    rwa [hprovider] at hdepth
  refine .bind (raiseRequiredConfirmations_obeys record.id hprovider htask hminimum)
    fun result h₁ hsuffix₁ hresult => andThen_obeys fun effective hok => ?_
  split
  · exact .pure trivial
  · rename_i hpositive
    exact validateAndReconcileEvm_obeys hprovider htask (hr.mono hsuffix₁) hstate
      (orCorrupt_ok hbytes) (orCorrupt_ok hhash) (hconfigured ▸ orCorrupt_ok hsigner) hminimum
      hpositive (hresult effective hok)

/-! ## The pass -/

theorem reconcilePrepared_obeys {record : Settlement} (htask : role.task.reconciles = true)
    (hr : Knows h record) (hstate : record.state.inFlight = true) :
    (reconcilePrepared role.state record).Obeys (Justified role) h fun _ _ => True := by
  cases hprovider : role.state.provider with
  | near relayer =>
    rw [reconcilePrepared, hprovider]
    exact reconcilePreparedNear_obeys hprovider htask hr hstate
  | evm provider =>
    rw [reconcilePrepared, hprovider]
    exact reconcilePreparedEvm_obeys hprovider htask hr hstate

omit [NearPrimitives] [EvmPrimitives] in
theorem Plain.releaseReserved (records : List Settlement) :
    Plain (X402Facilitator.releaseReserved records) := by
  induction records with
  | nil => exact .pure _
  | cons record records ih =>
    unfold X402Facilitator.releaseReserved
    split
    · refine .bind (.perform trivial) fun _ => Plain.andThen fun _ => ?_
      exact .bind (Plain.retryableServiceFailure _ _) fun _ => ih
    · exact ih

/-- Every prepared or submitted record in turn: it was read, so it is known. -/
theorem reconcileInOrder_obeys {records : List Settlement} (htask : role.task.reconciles = true)
    (hknown : ∀ r ∈ records, r.state.inFlight = true → Knows h r) :
    (reconcileInOrder role.state records).Obeys (Justified role) h fun _ _ => True := by
  induction records generalizing h with
  | nil => exact .pure trivial
  | cons record records ih =>
    have hrest : ∀ h', h <:+ h' → (reconcileInOrder role.state records).Obeys (Justified role) h'
        fun _ _ => True := fun h' hsuffix =>
      ih fun r hr hstate => (hknown r (List.mem_cons_of_mem _ hr) hstate).mono hsuffix
    have hopen (hstate : record.state.inFlight = true) :
        (store (.noteReconciliation record.id) >>= fun noted => andThen noted fun _ => do
          andThen (← reconcilePrepared role.state record) fun _ => do
            andThen (← store (.settlement record.id)) fun current =>
              if Option.any (fun row : Settlement => ! row.state.isTerminal) current then
                return .ok ()
              else
                reconcileInOrder role.state records).Obeys (Justified role) h fun _ _ => True := by
      refine .step trivial fun _ => andThen_obeys fun _ _ => ?_
      refine .bind (reconcilePrepared_obeys htask ((hknown record List.mem_cons_self hstate).mono
        (List.suffix_cons _ h)) hstate) fun _ h₁ hsuffix₁ _ => andThen_obeys fun _ _ => ?_
      refine .step trivial fun _ => andThen_obeys fun _ _ => ?_
      split
      · exact .pure trivial
      · exact hrest _ (((List.suffix_cons _ h).trans hsuffix₁).trans (List.suffix_cons _ _))
    unfold reconcileInOrder
    cases hstate : record.state with
    | prepared => exact hopen (by rw [hstate]; rfl)
    | submitted => exact hopen (by rw [hstate]; rfl)
    | awaitingRetry =>
      exact .step trivial fun _ => andThen_obeys fun _ _ => hrest _ (List.suffix_cons _ h)
    | reserved | succeeded | failed => exact hrest h List.suffix_rfl

/-- A pass under the lock does nothing that is not justified. -/
theorem reconcileLocked_obeys (htask : role.task.reconciles = true) :
    (reconcileLocked role.state).Obeys (Justified role) h fun _ _ => True := by
  refine .step trivial fun result => ?_
  cases result with
  | error e => exact .pure trivial
  | ok records =>
    refine .bind (Plain.releaseReserved records).obeys_any fun _ h₁ hsuffix₁ _ => ?_
    refine andThen_obeys fun _ _ => ?_
    refine .bind (reconcileInOrder_obeys htask fun r hr hstate =>
      .read (hsuffix₁.subset List.mem_cons_self) hr hstate) fun _ h₂ _ _ => ?_
    refine andThen_obeys fun _ _ => .step trivial fun result => ?_
    cases result with
    | error e => exact .pure trivial
    | ok remaining =>
      refine .bind (.perform (Q := fun _ _ => True) ?_ fun _ => trivial)
        fun _ _ _ _ => .pure trivial
      cases remaining with
      | nil => exact ⟨htask, List.mem_cons_self⟩
      | cons => trivial

end

end X402Facilitator
