import X402Facilitator.Service.Process
import X402Facilitator.System.RecoveryEvidence

/-!
# Every task is justified

Requests claim rows of their own network and start a worker only for a row that they have claimed or
resumed. With the worker and the recovery pass, every program of the service obeys the guarantee, in
every session: what a thread saw before it took the relayer lock is not used after it.
-/

namespace X402Facilitator

open Program Service

section
variable [NearPrimitives] [EvmPrimitives] {role : Role} {h : History Op.Answer}

/-! ## Requests -/

namespace Plain

omit [NearPrimitives] [EvmPrimitives] in
theorem findExistingSettlement (apiClientId : Uuid) (paymentIdentifier : Option String)
    (paymentHash requestFingerprint : Hash32) :
    Plain (X402Facilitator.findExistingSettlement apiClientId paymentIdentifier paymentHash
      requestFingerprint) := by
  refine .bind (.perform trivial) fun result => ?_
  cases result <;> exact .pure _

omit [NearPrimitives] [EvmPrimitives] in
theorem waitForTerminal (id : Uuid) (fuel : Nat) :
    Plain (X402Facilitator.waitForTerminal id fuel) := by
  induction fuel with
  | zero => exact .pure _
  | succ fuel ih =>
    refine .bind (.perform trivial) fun result => ?_
    match result with
    | .error e => exact .pure _
    | .ok none => exact .pure _
    | .ok (some record) =>
      dsimp only
      split
      · exact .pure _
      · exact ih

theorem priorSettlementResponse (state : AppState) (fuel : Nat) (key : RequestKey) :
    Plain (X402Facilitator.priorSettlementResponse state fuel key) := by
  refine .bind (findExistingSettlement _ _ _ _) fun result => ?_
  match result with
  | .error e => exact .pure _
  | .ok none => exact .pure _
  | .ok (some (.existing record)) =>
    dsimp only
    split
    · exact .pure _
    split
    · exact .pure _
    refine .bind (waitForTerminal _ fuel) fun result => ?_
    match result with
    | none => exact .pure _
    | some (.ok _) => exact .pure _
    | some (.error _) => exact .pure _
  | .ok (some (.new _)) => exact .pure _
  | .ok (some .identifierConflict) => exact .pure _
  | .ok (some .duplicateSettlement) => exact .pure _
  | .ok (some .settlementBusy) => exact .pure _
  | .ok (some .budgetExceeded) => exact .pure _

theorem priorOr (state : AppState) (fuel : Nat) (key : RequestKey) (otherwise : Response) :
    Plain (X402Facilitator.priorOr state fuel key otherwise) := by
  refine .bind (priorSettlementResponse state fuel key) fun result => ?_
  match result with
  | .error e => exact .pure _
  | .ok none => exact .pure _
  | .ok (some response) => exact .pure _

theorem facilitatorVerifyGate (state : AppState) (fuel : Nat) (request : ParsedRequest)
    (key : RequestKey) : Plain (X402Facilitator.facilitatorVerifyGate state fuel request key) := by
  unfold X402Facilitator.facilitatorVerifyGate
  split
  · exact .pure _
  refine .bind (Quiet.retryWhileTransient (Quiet.ask rfl)).plain fun routed => ?_
  split
  · exact .bind (priorOr ..) fun _ => .pure _
  split
  · exact .pure _
  split
  · exact .bind (priorOr ..) fun _ => .pure _
  · exact .bind (priorOr ..) fun _ => .pure _

end Plain

/-- What a claim's outcome rests on: a new row has a worker coming, and an existing one was found
under the identity of the claim. -/
structure ClaimSeen (state : AppState) (new : NewSettlement)
    (result : Except StoreError ClaimOutcome) (h : History Op.Answer) : Prop where
  worker : ∀ record, result = .ok (.new record) → WorkerJustified state h record.id
  found : ∀ record, result = .ok (.existing record) →
    Found h new.apiClientId new.paymentIdentifier new.paymentHash new.requestFingerprint record

/-- The outcome comes without a row. -/
def ClaimOutcome.refuses : ClaimOutcome → Bool
  | new _ | existing _ => false
  | _ => true

theorem ClaimSeen.error {state : AppState} {new : NewSettlement} (e : StoreError) :
    ClaimSeen state new (.error e) h :=
  ⟨fun _ hrecord => (by cases hrecord), fun _ hrecord => (by cases hrecord)⟩

theorem ClaimSeen.refused {state : AppState} {new : NewSettlement} {outcome : ClaimOutcome}
    (houtcome : outcome.refuses = true) : ClaimSeen state new (.ok outcome) h where
  worker record hrecord := by
    rw [Except.ok.inj hrecord] at houtcome
    cases houtcome
  found record hrecord := by
    rw [Except.ok.inj hrecord] at houtcome
    cases houtcome

theorem findExistingSettlement_obeys (apiClientId : Uuid) (paymentIdentifier : Option String)
    (paymentHash requestFingerprint : Hash32) :
    (findExistingSettlement apiClientId paymentIdentifier paymentHash requestFingerprint).Obeys
      (Justified role) h fun result h' => (∀ record, result ≠ .ok (some (.new record))) ∧
        ∀ record, result = .ok (some (.existing record)) →
          Found h' apiClientId paymentIdentifier paymentHash requestFingerprint record := by
  refine .step trivial fun result => ?_
  cases result with
  | error e => exact .pure ⟨fun _ h => (by cases h), fun _ h => by cases h⟩
  | ok rows =>
    refine .pure ⟨fun record hnew => ?_, fun record hexisting => ?_⟩
    · exact classifyExisting_ne_new _ _ record (Except.ok.inj hnew)
    · exact ⟨rows, List.mem_cons_self, Except.ok.inj hexisting⟩

theorem findExistingOr_obeys {new : NewSettlement}
    {otherwise : Service (Except StoreError ClaimOutcome)}
    (hotherwise : ∀ h', h <:+ h' →
      otherwise.Obeys (Justified role) h' (ClaimSeen role.state new)) :
    (findExistingOr new otherwise).Obeys (Justified role) h (ClaimSeen role.state new) := by
  refine .bind (findExistingSettlement_obeys _ _ _ _) fun result h₁ hsuffix₁ ⟨hnew, hfound⟩ => ?_
  match result with
  | .error e => exact .pure (.error e)
  | .ok none => exact hotherwise h₁ hsuffix₁
  | .ok (some existing) =>
    refine .pure ⟨fun record hrecord => ?_, fun record hrecord => ?_⟩
    · obtain rfl := Except.ok.inj hrecord
      exact absurd rfl (hnew record)
    · obtain rfl := Except.ok.inj hrecord
      exact hfound record rfl

omit [NearPrimitives] [EvmPrimitives] in
theorem Plain.activeEvmSigner (new : NewSettlement) :
    Plain (X402Facilitator.activeEvmSigner new) := by
  unfold X402Facilitator.activeEvmSigner
  split
  · exact .perform trivial
  · exact .pure _

theorem claimConflicted_obeys (new : NewSettlement) :
    (claimConflicted new).Obeys (Justified role) h (ClaimSeen role.state new) := by
  refine findExistingOr_obeys fun h₁ _ => .step trivial fun result => ?_
  match result with
  | .error e => exact .pure (.error e)
  | .ok true => exact .pure (.refused rfl)
  | .ok false =>
    refine .bind (Plain.activeEvmSigner new).obeys_any fun result _ _ _ => ?_
    match result with
    | .error e => exact .pure (.error e)
    | .ok true => exact .pure (.refused rfl)
    | .ok false => exact .pure (.error _)

theorem claimNew_obeys {new : NewSettlement} (hnew : ClaimJustified role.state h new) :
    (claimNew new).Obeys (Justified role) h (ClaimSeen role.state new) := by
  refine .step trivial fun usageDate => ?_
  refine .step (hnew.mono (List.subset_cons_self _ _)) fun result => ?_
  match result with
  | .error e => exact .pure (.error e)
  | .ok .conflicted => exact claimConflicted_obeys new
  | .ok .budgetExceeded => exact .pure (.refused rfl)
  | .ok .inserted =>
    refine .step trivial fun result => ?_
    match result with
    | .error e => exact .pure (.error e)
    | .ok none => exact .pure (.error _)
    | .ok (some record) =>
      refine .pure ⟨fun record' hrecord => ?_, fun record' hrecord => by cases hrecord⟩
      obtain rfl := ClaimOutcome.new.inj (Except.ok.inj hrecord)
      refine .claimed (List.mem_cons_of_mem _ List.mem_cons_self) (hnew.mono fun e he => ?_)
        List.mem_cons_self rfl
      exact List.mem_cons_of_mem _ (List.mem_cons_of_mem _ (List.mem_cons_of_mem _ he))

theorem claimSettlement_obeys {new : NewSettlement} (hnew : ClaimJustified role.state h new) :
    (claimSettlement new).Obeys (Justified role) h (ClaimSeen role.state new) := by
  unfold claimSettlement
  split
  · exact .pure (.error _)
  refine findExistingOr_obeys fun h₁ hsuffix₁ => .step trivial fun result => ?_
  match result with
  | .error e => exact .pure (.error e)
  | .ok true => exact findExistingOr_obeys fun _ _ => .pure (.refused rfl)
  | .ok false =>
    refine .bind (Plain.activeEvmSigner new).obeys_any fun result _ hsuffix₂ _ => ?_
    match result with
    | .error e => exact .pure (.error e)
    | .ok true => exact findExistingOr_obeys fun _ _ => .pure (.refused rfl)
    | .ok false =>
      exact claimNew_obeys (hnew.mono
        ((hsuffix₁.trans (List.suffix_cons _ _)).trans hsuffix₂).subset)

theorem resumeAwaitingRetry_obeys {retry : RetryReservation}
    (hretry : ResumeJustified role.state h retry) :
    (resumeAwaitingRetry retry).Obeys (Justified role) h fun result h' =>
      ∀ record, result = .ok (.resumed record) →
        WorkerJustified role.state h' record.id := by
  refine .step trivial fun usageDate => ?_
  refine .step (hretry.mono (List.subset_cons_self _ _)) fun result => ?_
  match result with
  | .error e => exact .pure fun record hnew => by cases hnew
  | .ok .settlementBusy => exact .pure fun record hnew => by cases hnew
  | .ok .budgetExceeded => exact .pure fun record hnew => by cases hnew
  | .ok .resumed =>
    refine .step trivial fun result => ?_
    match result with
    | .error e => exact .pure fun record hnew => by cases hnew
    | .ok none => exact .pure fun record hnew => by cases hnew
    | .ok (some record) =>
      refine .pure fun record' hrecord => ?_
      obtain rfl := RetryOutcome.resumed.inj (Except.ok.inj hrecord)
      refine .resumed (List.mem_cons_of_mem _ List.mem_cons_self) (hretry.mono fun e he => ?_)
        List.mem_cons_self rfl
      exact List.mem_cons_of_mem _ (List.mem_cons_of_mem _ (List.mem_cons_of_mem _ he))

/-- The request is for the configured network and asset, and for enough of it. -/
structure RequestMeta.Meets (metadata : RequestMeta) (config : ServiceConfig) : Prop where
  network : metadata.network = config.network
  asset : configuredAssetMatches config.chainKind config.asset metadata.asset = true
  amount : config.minimumAmount ≤ metadata.amount

omit [NearPrimitives] [EvmPrimitives] in
theorem meets_of_staticFailureReason {config : ServiceConfig} {metadata : RequestMeta}
    (hstatic : staticFailureReason config metadata = none) : metadata.Meets config := by
  unfold staticFailureReason at hstatic
  split_ifs at hstatic with _ _ hnetwork _ hasset hamount
  exact ⟨not_not.mp hnetwork, hasset, Nat.not_lt.mp hamount⟩

/-- A NEAR claim is for an asset that is an account id. -/
theorem ClaimJustified.near {state : AppState} {new : NewSettlement}
    (hnew : ClaimJustified state h new) (hkind : new.chainKind = .near) :
    validAccountId new.asset = true := by
  obtain ⟨id, client, request, paymentHash, verified, hadmitted, rfl⟩ := hnew
  have hverified := hadmitted.verifiedFrom.verifiedBy
  generalize hprovider : state.provider = provider at hverified
  cases hverified with
  | near relayer nearPayment =>
    have hnear := state.chainKind_of_near hprovider
    have hasset := (meets_of_staticFailureReason hadmitted.static).asset
    rw [hnear] at hasset
    have hasset' : request.metadata.asset = state.config.asset := of_decide_eq_true hasset
    change validAccountId request.metadata.asset = true
    rw [hasset']
    exact ServiceConfig.validAccountId_asset state.validated hnear
  | evm provider evmPayment => cases hkind

/-- An EVM claim names the process's signer. -/
theorem ClaimJustified.evm {state : AppState} {new : NewSettlement}
    (hnew : ClaimJustified state h new) (hkind : new.chainKind = .eip155) :
    new.signerAddress = some state.provider.signerAccountId := by
  obtain ⟨id, client, request, paymentHash, verified, hadmitted, rfl⟩ := hnew
  have hverified := hadmitted.verifiedFrom.verifiedBy
  generalize hprovider : state.provider = provider at hverified
  cases hverified with
  | near relayer nearPayment => cases hkind
  | evm provider evmPayment =>
    rw [← hprovider]
    rfl

theorem resumeDormant_obeys {client : ApiClient} {record : Settlement} (request : ParsedRequest)
    (hretry : ResumeJustified role.state h (retryReservation role.state client record.id)) :
    (resumeDormant role.state client record request).Obeys (Justified role) h
      fun _ _ => True := by
  refine .bind (resumeAwaitingRetry_obeys hretry) fun result h₁ _ hresult => ?_
  match result with
  | .ok (.resumed resumed) => exact .step (hresult resumed rfl) fun _ => .pure trivial
  | .ok .settlementBusy => exact .pure trivial
  | .ok .budgetExceeded => exact .pure trivial
  | .error (.transition ..) =>
    refine .step trivial fun result => ?_
    match result with
    | .ok (some current) =>
      dsimp only
      split <;> exact .pure trivial
    | .ok none => exact .pure trivial
    | .error _ => exact .pure trivial
  | .error (.corrupt _) => exact .pure trivial
  | .error (.invalidInput _) => exact .pure trivial
  | .error (.database _) => exact .pure trivial

omit [NearPrimitives] [EvmPrimitives] in
theorem VerifiedPayment.identity_requestHash (verified : VerifiedPayment) :
    verified.identity.requestHash = verified.paymentHash := by
  unfold VerifiedPayment.identity
  split <;> rfl

/-- What a claim has of the request, whatever its chain. -/
theorem newSettlement_request (state : AppState) (id : Uuid) (request : ParsedRequest)
    (key : RequestKey) (verified : VerifiedPayment) :
    (newSettlement state id request key verified).apiClientId = key.client.id ∧
      (newSettlement state id request key verified).paymentIdentifier = key.paymentIdentifier ∧
      (newSettlement state id request key verified).paymentHash = verified.paymentHash ∧
      (newSettlement state id request key verified).requestFingerprint = key.fingerprint := by
  rw [← verified.identity_requestHash]
  unfold newSettlement
  dsimp only
  split <;> exact ⟨rfl, rfl, rfl, rfl⟩

theorem newSettlement_policySnapshot (state : AppState) (id : Uuid) (request : ParsedRequest)
    (key : RequestKey) (verified : VerifiedPayment) :
    (newSettlement state id request key verified).policySnapshot = state.config.policySnapshot := by
  unfold newSettlement
  dsimp only
  split <;> rfl

theorem claimAndSpawn_obeys {client : ApiClient} {request : ParsedRequest} {paymentHash : Hash32}
    {verified : VerifiedPayment}
    (hadmitted : Admitted role.state h client request paymentHash verified) :
    (claimAndSpawn role.state request (request.key client paymentHash) verified).Obeys
      (Justified role) h fun _ _ => True := by
  refine .step trivial fun id => ?_
  have hnew : ClaimJustified role.state (⟨.ask .newUuid, id⟩ :: h)
      (newSettlement role.state id request (request.key client paymentHash) verified) :=
    ⟨id, client, request, paymentHash, verified, hadmitted.mono (List.subset_cons_self _ _), rfl⟩
  refine .bind (claimSettlement_obeys hnew) fun result h₁ hsuffix₁ hresult => ?_
  match result with
  | .error _ => exact .pure trivial
  | .ok (.new record) => exact .step (hresult.worker record rfl) fun _ => .pure trivial
  | .ok (.existing record) =>
    dsimp only
    split
    · exact .pure trivial
    split
    · have hfound := hresult.found record rfl
      obtain ⟨hclient, hidentifier, hhash, hfingerprint⟩ := newSettlement_request role.state id request
        (request.key client paymentHash) verified
      rw [hclient, hidentifier, hhash, hfingerprint, hadmitted.paymentHash_eq] at hfound
      exact resumeDormant_obeys request ⟨client, request, paymentHash, verified, record,
        hadmitted.mono ((List.suffix_cons _ _).trans hsuffix₁).subset, hfound, rfl⟩
    · exact .pure trivial
  | .ok .identifierConflict => exact .pure trivial
  | .ok .duplicateSettlement => exact .pure trivial
  | .ok .settlementBusy => exact .pure trivial
  | .ok .budgetExceeded => exact .pure trivial

theorem claimAndWait_obeys {fuel : Nat} {client : ApiClient} {request : ParsedRequest}
    {paymentHash : Hash32} {verified : VerifiedPayment}
    (hadmitted : Admitted role.state h client request paymentHash verified) :
    (claimAndWait role.state fuel request (request.key client paymentHash) verified).Obeys
      (Justified role) h fun _ _ => True := by
  refine .bind (claimAndSpawn_obeys hadmitted) fun result _ _ _ => ?_
  cases result with
  | error _ => exact .pure trivial
  | ok id =>
    refine .bind (Plain.waitForTerminal id fuel).obeys_any fun result _ _ _ => ?_
    match result with
    | none => exact .pure trivial
    | some (.ok _) => exact .pure trivial
    | some (.error _) => exact .pure trivial

theorem verifyAndClaim_obeys {fuel : Nat} {client : ApiClient} {request : ParsedRequest}
    {paymentHash : Hash32} (hpresented : Presented role.state h client request paymentHash)
    (hallowed : Asked h (.payeeAllowed client.id request.metadata.network request.metadata.asset
      request.metadata.payTo) (.ok true)) :
    (verifyAndClaim role.state fuel request (request.key client paymentHash)).Obeys
      (Justified role) h fun _ _ => True := by
  refine .bind (Plain.facilitatorVerifyGate ..).obeys_any fun gate h₁ hsuffix₁ _ => ?_
  cases gate with
  | some response => exact .pure trivial
  | none =>
    refine .bind (verify_yields (fun h o => Op.Quiet.justified role h) _ _ _ h₁)
      fun result h₂ hsuffix₂ ⟨own, hown, hresult⟩ => ?_
    cases result with
    | error _ => exact (Plain.priorOr ..).obeys_any
    | ok verified =>
      dsimp only
      split
      · exact .pure trivial
      rename_i hhash
      have hsubset := (hsuffix₁.trans hsuffix₂).subset
      exact claimAndWait_obeys
        { hpresented.mono hsubset with
          allowed := hsubset hallowed
          verifiedFrom := (hresult verified rfl).mono (hown ▸ List.subset_append_left own h₁)
          paymentHash_eq := not_not.mp hhash }

theorem admitAndClaim_obeys {fuel : Nat} {client : ApiClient} {request : ParsedRequest}
    {paymentHash : Hash32} (hpresented : Presented role.state h client request paymentHash) :
    (admitAndClaim role.state fuel request (request.key client paymentHash)).Obeys
      (Justified role) h fun _ _ => True := by
  refine .bind (Plain.priorSettlementResponse ..).obeys_any fun prior h₁ hsuffix₁ _ => ?_
  match prior with
  | .error _ => exact .pure trivial
  | .ok (some _) => exact .pure trivial
  | .ok none =>
    refine .bind Plain.canSettle.obeys_any fun ready h₂ hsuffix₂ _ => ?_
    split
    · exact (Plain.priorOr ..).obeys_any
    refine .step trivial fun allowed => ?_
    match allowed with
    | .error _ => exact .pure trivial
    | .ok false => exact (Plain.priorOr ..).obeys_any
    | .ok true =>
      exact verifyAndClaim_obeys (hpresented.mono
        ((hsuffix₁.trans hsuffix₂).trans (List.suffix_cons _ _)).subset) List.mem_cons_self

theorem settleParsed_obeys {fuel : Nat} {client : ApiClient} {request : ParsedRequest}
    {body : Option Json} (hclient : Asked h .authenticate (.ok client))
    (hbody : Asked h .readBody (.ok body))
    (hparsed : parseRequest body role.state.config.paymentIdentifier role.state.config.acceptV1 =
      .ok request) :
    (settleParsed role.state fuel client request).Obeys (Justified role) h fun _ _ => True := by
  unfold settleParsed
  split
  · exact .pure trivial
  rename_i hstatic
  split
  · exact .pure trivial
  rename_i hidentity
  exact admitAndClaim_obeys ⟨hclient, ⟨body, hbody, hparsed⟩, hstatic, hidentity⟩

theorem settleInner_obeys (fuel : Nat) :
    (settleInner role.state fuel).Obeys (Justified role) h fun _ _ => True := by
  refine .step trivial fun client => ?_
  match client with
  | .error _ => exact .pure trivial
  | .ok client =>
    refine .step trivial fun withinRate => ?_
    split
    · exact .pure trivial
    refine .step trivial fun body => ?_
    match body with
    | .error _ => exact .pure trivial
    | .ok body =>
      dsimp only
      split
      · exact .pure trivial
      rename_i hparsed
      refine .bind (settleParsed_obeys ?_ List.mem_cons_self hparsed) fun _ _ _ _ => .pure trivial
      exact List.mem_cons_of_mem _ (List.mem_cons_of_mem _ List.mem_cons_self)

theorem settle_obeys (fuel : Nat) :
    (settle role.state fuel).Obeys (Justified role) h fun _ _ => True :=
  .bind (settleInner_obeys fuel) fun _ _ _ _ => .perform trivial fun _ => trivial

/-! ## Sessions -/

omit [NearPrimitives] [EvmPrimitives] in
theorem session_cons {e : Event Op.Answer} {h : History Op.Answer} (he : e.op.locks = false) :
    session (e :: h) = e :: session h := by
  simp [session, he]

omit [NearPrimitives] [EvmPrimitives] in
theorem session_lock {u : Unit} {h : History Op.Answer} : session (⟨.lockRelayer, u⟩ :: h) = [] :=
  rfl

omit [NearPrimitives] [EvmPrimitives] in
theorem session_subset (h : History Op.Answer) : session h ⊆ h :=
  (List.takeWhile_sublist _).subset

omit [NearPrimitives] [EvmPrimitives] in
theorem History.Attested.session {h : History Op.Answer} {db : Db}
    (hdb : History.Attested h db) : History.Attested (session h) db :=
  fun op reply hstored => hdb op reply (session_subset h hstored)

theorem Justified.locks {o : Op} (ho : Justified role h o) : o.locks = false := by
  cases o with
  | lockRelayer | unlockRelayer => exact ho.elim
  | _ => rfl

/-- A program that is justified by the session is so by the whole history. -/
theorem session_obeys {α : Type} {p : Service α} {Q : α → History Op.Answer → Prop}
    (hp : p.Obeys (Justified role) (session h) Q) :
    p.Obeys (SessionJustified role) h fun a h' => Q a (session h') :=
  (Obeys.frame (v := session) (fun _ _ ho => session_cons ho.locks) hp).mono
    (fun _ _ _ ho => .inr ho) fun _ _ _ hQ => hQ

theorem Plain.session_obeys {α : Type} {p : Service α} (hp : Plain p) :
    p.Obeys (SessionJustified role) h fun _ _ => True :=
  X402Facilitator.session_obeys hp.obeys_any

/-- What is done under the lock is justified by a fresh session. -/
theorem underLock_obeys {α β : Type} {p : Service α} {f : α → Service β}
    (hp : p.Obeys (Justified role) [] fun _ _ => True)
    (hf : ∀ a h', (f a).Obeys (SessionJustified role) h' fun _ _ => True) :
    (lockRelayer >>= fun _ => p >>= f).Obeys (SessionJustified role) h fun _ _ => True :=
  .step (.inl rfl) fun _ => .bind (session_obeys hp) fun a h' _ _ => hf a h'

theorem reconcile_obeys (htask : role.task.reconciles = true) :
    (reconcile role.state).Obeys (SessionJustified role) h fun _ _ => True := by
  refine .bind Plain.snapshot.session_obeys fun current _ _ _ => ?_
  split
  · exact .pure trivial
  refine .bind Plain.setReconciliation_false.session_obeys fun _ _ _ _ => ?_
  exact underLock_obeys (reconcileLocked_obeys htask) fun _ _ => .step (.inl rfl) fun _ => .pure trivial

theorem runNewSettlement_obeys {id : Uuid} {request : Json}
    (htask : role.task = .settlementWorker id request) :
    (runNewSettlement role.state id request).Obeys (SessionJustified role) h fun _ _ => True :=
  underLock_obeys (settleLocked_obeys htask fun e he => (by cases he))
    fun _ _ => .perform (.inl rfl) fun _ => trivial

/-! ## Background tasks -/

/-- What the leadership task does: it writes its gate, and is plain otherwise. -/
def Op.Leading (o : Op) : Prop := o.Plain ∨ ∃ ready, o = storeGate .leadership ready

/-- Every operation of the program is one of the leadership task. -/
abbrev Leading {α : Type} (p : Service α) : Prop := p.Only Op.Leading

namespace Leading

omit [NearPrimitives] [EvmPrimitives]

theorem setLeadership (held : Bool) : Leading (X402Facilitator.setLeadership held) := by
  refine .bind (.perform (.inr ⟨held, rfl⟩)) fun _ => ?_
  split
  · exact .perform (.inl trivial)
  · exact .pure _

theorem holdLeadership (fuel : Nat) : Leading (X402Facilitator.holdLeadership fuel) := by
  induction fuel with
  | zero => exact .pure _
  | succ fuel ih =>
    refine .bind (.perform (.inl rfl)) fun heartbeat => ?_
    match heartbeat with
    | .alive => exact ih
    | .lost => exact .bind (setLeadership false) fun _ => .pure _
    | .shutdown => exact .bind (setLeadership false) fun _ => .pure _

theorem runLeadership (fuel : Nat) : Leading (X402Facilitator.runLeadership fuel) := by
  induction fuel with
  | zero => exact .pure _
  | succ fuel ih =>
    refine .bind (.perform (.inl rfl)) fun shutdown => ?_
    split
    · exact setLeadership false
    refine .bind (setLeadership false) fun _ => .bind (.perform (.inl rfl)) fun connected => ?_
    split
    · exact ih
    refine .bind (.perform (.inl rfl)) fun acquired => ?_
    match acquired with
    | .ok true =>
      refine .bind (setLeadership true) fun _ => .bind (holdLeadership fuel) fun shutdown => ?_
      match shutdown with
      | none => exact .pure _
      | some true => exact setLeadership false
      | some false => exact ih
    | .ok false => exact ih
    | .error _ => exact ih

end Leading

theorem runLeadership_obeys (htask : role.task.leads = true) (fuel : Nat) :
    (runLeadership fuel).Obeys (SessionJustified role) h fun _ _ => True := by
  refine Only.obeys (Leading.runLeadership fuel) (I := fun _ => True) (fun h' o _ ho => ?_)
    (fun _ _ _ _ => trivial) trivial
  obtain hplain | ⟨ready, rfl⟩ := ho
  · exact .inr (hplain.justified role _)
  · exact .inr htask

namespace Plain

theorem refreshChainReadiness (state : AppState) :
    Plain (X402Facilitator.refreshChainReadiness state) := by
  refine .bind (Quiet.readinessObservation _).plain fun _ => ?_
  refine .bind (Quiet.setRpc _).plain fun _ => .bind (.perform trivial) fun _ => ?_
  exact .bind (Quiet.setRelayerGate _).plain fun _ => .pure _

theorem runReadinessMonitor (state : AppState) (fuel : Nat) :
    Plain (X402Facilitator.runReadinessMonitor state fuel) := by
  induction fuel with
  | zero => exact .pure _
  | succ fuel ih => exact .bind (refreshChainReadiness state) fun _ => ih

omit [NearPrimitives] [EvmPrimitives] in
theorem awaitLeadership (fuel : Nat) : Plain (X402Facilitator.awaitLeadership fuel) := by
  induction fuel with
  | zero => exact .pure _
  | succ fuel ih =>
    refine .bind snapshot fun current => ?_
    split
    · exact .pure _
    · exact ih

end Plain

theorem reconciliationLoop_obeys (htask : role.task.reconciles = true) (fuel : Nat) :
    (reconciliationLoop role.state fuel).Obeys (SessionJustified role) h fun _ _ => True := by
  induction fuel generalizing h with
  | zero => exact .pure trivial
  | succ fuel ih =>
    refine .bind Plain.snapshot.session_obeys fun current _ _ _ => ?_
    split
    · exact .bind (reconcile_obeys htask) fun _ _ _ _ => ih
    · exact ih

theorem startup_obeys (htask : role.task.isMain = true) (fuel : Nat) :
    (startup role.state fuel).Obeys (SessionJustified role) h fun _ _ => True := by
  refine .step (.inr trivial) fun result => ?_
  cases result with
  | error e => exact .pure trivial
  | ok _ =>
    refine .bind (Plain.refreshChainReadiness role.state).session_obeys fun _ _ _ _ => ?_
    refine .step (.inr htask) fun _ => .step (.inr trivial) fun _ => ?_
    exact .perform (.inr trivial) fun _ => trivial

theorem reconcileCommand_obeys (htask : role.task.reconciles = true)
    (hmain : role.task.isMain = true) (fuel : Nat) :
    (reconcileCommand role.state fuel).Obeys (SessionJustified role) h fun _ _ => True := by
  refine .bind (Plain.refreshChainReadiness role.state).session_obeys fun _ _ _ _ => ?_
  refine .step (.inr hmain) fun _ => ?_
  refine .bind (Plain.awaitLeadership fuel).session_obeys fun held _ _ _ => ?_
  split
  · exact .bind (reconcile_obeys htask) fun _ _ _ _ => .pure trivial
  · exact .pure trivial

/-- Every thread starts with a program that is justified in every session. -/
theorem Role.follows (role : Role) : role.thread.Follows SessionJustified := by
  unfold Thread.Follows Role.thread
  cases htask : role.task with
  | startup fuel => exact startup_obeys (congrArg ServiceTask.isMain htask) fuel
  | leadership fuel => exact runLeadership_obeys (congrArg ServiceTask.leads htask) fuel
  | reconciliation fuel => exact reconciliationLoop_obeys (congrArg ServiceTask.reconciles htask) fuel
  | readinessMonitor fuel => exact (Plain.runReadinessMonitor role.state fuel).session_obeys
  | settle fuel => exact session_obeys (settle_obeys fuel)
  | settlementWorker id request => exact runNewSettlement_obeys htask
  | reconcileCommand fuel =>
    exact reconcileCommand_obeys (congrArg ServiceTask.reconciles htask)
      (congrArg ServiceTask.isMain htask) fuel

/-- In every run, every operation that a thread is about to issue is justified by its session. -/
theorem World.justified_after (moves : List Move) {t : X402Facilitator.Thread}
    (ht : t ∈ (World.after moves).threads) {o : Op} {next : Op.Answer o → Service Unit}
    (hcall : t.program = .call o next) : SessionJustified t.role t.past o :=
  (World.follows_after Role.follows moves t ht).allowed hcall

end

end X402Facilitator
