import X402Facilitator.Store.Commit

/-!
# The life of a row

Two kinds of facts about a journal row. `Settlement.Evolves` relates a row to what any later call
can make of it: its identity is fixed, its submission is fixed once it has left the states before
preparation, and a terminal row does not change. `Db.Audited` is an invariant of the database: the
audit events of a row lead from nothing to the state it is in, the submission columns are absent
before preparation, and the attempt counter counts the resumes.
-/

namespace X402Facilitator

/-! ## Columns of a row -/

/-- The columns that are written by the claim and by nothing else. -/
structure RowIdentity where
  id : Uuid
  apiClientId : Uuid
  paymentIdentifier : Option String
  paymentHash : Hash32
  requestFingerprint : Hash32
  network : String
  asset : String
  payTo : String
  amount : Nat
  payer : String
  chainKind : ChainKind
  anchorScope : String
  anchorValue : Hash32
  delegatePublicKey : Option String
  delegateNonce : Option Nat
  delegateMaxBlockHeight : Option Nat
  authorizationMetadata : Option EvmAuthorizationMetadata
  signerAddress : Option String
deriving DecidableEq

/-- The columns that are written when a signed transaction is journaled. -/
structure RowSubmission where
  relayerAccountId : Option String
  relayerPublicKey : Option String
  relayerNonce : Option Nat
  outerTransactionBytes : Option Bytes
  outerTransactionHash : Option String
  signerAccountNonce : Option Nat
  submittedTxRlp : Option Bytes
  submittedTxHash : Option String
deriving DecidableEq

namespace Settlement

def identity (r : Settlement) : RowIdentity where
  id := r.id
  apiClientId := r.apiClientId
  paymentIdentifier := r.paymentIdentifier
  paymentHash := r.paymentHash
  requestFingerprint := r.requestFingerprint
  network := r.network
  asset := r.asset
  payTo := r.payTo
  amount := r.amount
  payer := r.payer
  chainKind := r.chainKind
  anchorScope := r.anchorScope
  anchorValue := r.anchorValue
  delegatePublicKey := r.delegatePublicKey
  delegateNonce := r.delegateNonce
  delegateMaxBlockHeight := r.delegateMaxBlockHeight
  authorizationMetadata := r.authorizationMetadata
  signerAddress := r.signerAddress

def submission (r : Settlement) : RowSubmission where
  relayerAccountId := r.relayerAccountId
  relayerPublicKey := r.relayerPublicKey
  relayerNonce := r.relayerNonce
  outerTransactionBytes := r.outerTransactionBytes
  outerTransactionHash := r.outerTransactionHash
  signerAccountNonce := r.signerAccountNonce
  submittedTxRlp := r.submittedTxRlp
  submittedTxHash := r.submittedTxHash

/-- The signed transaction of the row's chain. -/
def submissionBytes (r : Settlement) : Option Bytes :=
  match r.chainKind with
  | .near => r.outerTransactionBytes
  | .eip155 => r.submittedTxRlp

end Settlement

/-- The states of a row that has never been prepared since its last reservation. -/
def SettlementState.beforePrepare : SettlementState → Bool
  | reserved | awaitingRetry => true
  | _ => false

/-! ## What later calls can make of a row -/

/-- `r'` is what some later calls have made of `r`. -/
structure Settlement.Evolves (r r' : Settlement) : Prop where
  identity : r'.identity = r.identity
  attempts : r.attemptCount ≤ r'.attemptCount
  prepared : r.state.beforePrepare = false →
    r'.submission = r.submission ∧ r'.state.beforePrepare = false
  submitted : r.state = .submitted → r'.state ≠ .prepared
  reservation : r.state.beforePrepare = false →
    r'.reservedYoctoNear = r.reservedYoctoNear ∧ r'.policySnapshot = r.policySnapshot
  confirmations : r.state.beforePrepare = false → ∀ n ∈ r.requiredConfirmations,
    ∃ m ∈ r'.requiredConfirmations, n ≤ m
  terminal : r.state.isTerminal = true → r'.state = r.state ∧
    r'.terminalHttpStatus = r.terminalHttpStatus ∧
    r'.terminalResponseBytes = r.terminalResponseBytes ∧
    r'.requiredConfirmations = r.requiredConfirmations ∧ r'.confirmations = r.confirmations ∧
    r'.errorCode = r.errorCode ∧ r'.tokensBurnt = r.tokensBurnt ∧
    r'.reservedYoctoNear = r.reservedYoctoNear

namespace Settlement.Evolves

theorem refl (r : Settlement) : r.Evolves r where
  identity := rfl
  attempts := Nat.le_refl _
  prepared h := ⟨rfl, h⟩
  submitted h := by simp [h]
  reservation _ := ⟨rfl, rfl⟩
  confirmations _ n hn := ⟨n, hn, Int.le_refl n⟩
  terminal _ := ⟨rfl, rfl, rfl, rfl, rfl, rfl, rfl, rfl⟩

theorem id_eq {r r' : Settlement} (h : r.Evolves r') : r'.id = r.id :=
  congrArg RowIdentity.id h.identity

/-- Before preparation an update may write the submission, but not the identity. -/
theorem of_beforePrepare {r r' : Settlement} (hbefore : r.state.beforePrepare = true)
    (hidentity : r'.identity = r.identity) (hattempts : r.attemptCount ≤ r'.attemptCount) :
    r.Evolves r' where
  identity := hidentity
  attempts := hattempts
  prepared hr := by simp [hbefore] at hr
  submitted hr := by simp [hr, SettlementState.beforePrepare] at hbefore
  reservation hr := by simp [hbefore] at hr
  confirmations hr := by simp [hbefore] at hr
  terminal hr := by
    cases hs : r.state <;> simp_all [SettlementState.isTerminal, SettlementState.beforePrepare]

end Settlement.Evolves

theorem not_beforePrepare_of_isTerminal {s : SettlementState} (h : s.isTerminal = true) :
    s.beforePrepare = false := by
  cases s <;> simp_all [SettlementState.isTerminal, SettlementState.beforePrepare]

theorem not_beforePrepare_of_inFlight {s : SettlementState} (h : s.inFlight = true) :
    s.beforePrepare = false := by
  cases s <;> simp_all [SettlementState.inFlight, SettlementState.beforePrepare]

theorem Settlement.Evolves.trans {r r' r'' : Settlement} (h : r.Evolves r') (h' : r'.Evolves r'') :
    r.Evolves r'' where
  identity := h'.identity.trans h.identity
  attempts := h.attempts.trans h'.attempts
  prepared hr := by
    obtain ⟨hsub, hstate⟩ := h.prepared hr
    obtain ⟨hsub', hstate'⟩ := h'.prepared hstate
    exact ⟨hsub'.trans hsub, hstate'⟩
  submitted hr := by
    have hne := h.submitted hr
    obtain ⟨-, hbefore⟩ := h.prepared (by simp [hr, SettlementState.beforePrepare])
    -- A row past submission is submitted still, or terminal.
    cases hstate : r'.state with
    | submitted => exact h'.submitted hstate
    | succeeded | failed =>
      have hterminal := (h'.terminal (by simp [hstate, SettlementState.isTerminal])).1
      simp [hterminal, hstate]
    | prepared => exact absurd hstate hne
    | reserved | awaitingRetry => simp [hstate, SettlementState.beforePrepare] at hbefore
  reservation hr := by
    obtain ⟨hreserved, hpolicy⟩ := h.reservation hr
    obtain ⟨hreserved', hpolicy'⟩ := h'.reservation (h.prepared hr).2
    exact ⟨hreserved'.trans hreserved, hpolicy'.trans hpolicy⟩
  confirmations hr n hn := by
    obtain ⟨m, hm, hle⟩ := h.confirmations hr n hn
    obtain ⟨k, hk, hle'⟩ := h'.confirmations (h.prepared hr).2 m hm
    exact ⟨k, hk, hle.trans hle'⟩
  terminal hr := by
    obtain ⟨h₁, h₂, h₃, h₄, h₅, h₆, h₇, h₈⟩ := h.terminal hr
    obtain ⟨k₁, k₂, k₃, k₄, k₅, k₆, k₇, k₈⟩ := h'.terminal (h₁ ▸ hr)
    exact ⟨k₁.trans h₁, k₂.trans h₂, k₃.trans h₃, k₄.trans h₄, k₅.trans h₅, k₆.trans h₆,
      k₇.trans h₇, k₈.trans h₈⟩

/-- No update changes the identity of a row. -/
theorem RowUpdate.apply_identity (r : Settlement) (u : RowUpdate) :
    (u.apply r).identity = r.identity := by
  cases u <;> rfl

/-- Every update that the store allows is an evolution of the row. -/
theorem RowUpdate.Allowed.evolves {r : Settlement} {u : RowUpdate} (h : u.Allowed r) :
    r.Evolves (u.apply r) := by
  cases u with
  | note => exact { Settlement.Evolves.refl r with }
  | raise minimum =>
    have hlive : r.state.isTerminal = false := by
      have := h.2
      cases hs : r.state <;> simp_all [SettlementState.inFlight, SettlementState.isTerminal]
    exact {
      identity := rfl
      attempts := Nat.le_refl _
      prepared := fun hr => ⟨rfl, hr⟩
      submitted := fun hr => by simp [apply, hr]
      reservation := fun _ => ⟨rfl, rfl⟩
      confirmations := fun _ n hn => by
        refine ⟨max n minimum, ?_, Int.le_max_left n minimum⟩
        simp [apply, Option.mem_def.mp hn]
      terminal := fun hr => by simp [hlive] at hr }
  | submit =>
    have hstate : r.state = .prepared := h
    exact {
      identity := rfl
      attempts := Nat.le_refl _
      prepared := fun _ => ⟨rfl, rfl⟩
      submitted := fun hr => by simp [hstate] at hr
      reservation := fun _ => ⟨rfl, rfl⟩
      confirmations := fun _ n hn => ⟨n, hn, Int.le_refl n⟩
      terminal := fun hr => by simp [hstate, SettlementState.isTerminal] at hr }
  | terminate entry =>
    obtain ⟨hterminal, htransition, -⟩ := h
    have hlive := not_isTerminal_of_transitionAllowed htransition
    exact {
      identity := rfl
      attempts := Nat.le_refl _
      prepared := fun _ => ⟨rfl, not_beforePrepare_of_isTerminal hterminal⟩
      submitted := fun _ hprepared => by
        have hstate : entry.state = .prepared := hprepared
        simp [hstate, SettlementState.isTerminal] at hterminal
      reservation := fun _ => ⟨rfl, rfl⟩
      confirmations := fun _ n hn => ⟨n, hn, Int.le_refl n⟩
      terminal := fun hr => by simp [hlive] at hr }
  | release retryCode => exact .of_beforePrepare (by rw [h.2]; rfl) rfl (Nat.le_refl _)
  | resume retry usageDate =>
    have hstate : r.state = .awaitingRetry := h
    exact .of_beforePrepare (by rw [hstate]; rfl) rfl (Nat.le_succ _)
  | prepare entry =>
    have hstate : r.state = .reserved := h
    exact .of_beforePrepare (by rw [hstate]; rfl) rfl (Nat.le_refl _)
  | prepareEvm entry => exact .of_beforePrepare (by rw [h.2]; rfl) rfl (Nat.le_refl _)

/-! ## The database over time -/

/-- `db'` is what some later calls have made of `db`: no row is lost, each is an evolution of what
it was, and the audit log has only grown. -/
structure Db.Evolves (db db' : Db) : Prop where
  rows : ∀ r ∈ db.settlements, ∃ r' ∈ db'.settlements, r.Evolves r'
  events : ∀ e ∈ db.events, e ∈ db'.events

theorem Db.Evolves.refl (db : Db) : db.Evolves db where
  rows r hr := ⟨r, hr, .refl r⟩
  events _ he := he

theorem Db.Evolves.trans {db db' db'' : Db} (h : db.Evolves db') (h' : db'.Evolves db'') :
    db.Evolves db'' where
  rows r hr := by
    obtain ⟨r', hr', hevolves⟩ := h.rows r hr
    obtain ⟨r'', hr'', hevolves'⟩ := h'.rows r' hr'
    exact ⟨r'', hr'', hevolves.trans hevolves'⟩
  events e he := h'.events e (h.events e he)

theorem SameJournal.evolves {db db' : Db} (h : SameJournal db db') : db.Evolves db' where
  rows r hr := ⟨r, h.settlements ▸ hr, .refl r⟩
  events _ he := h.events ▸ he

theorem Claimed.evolves {db db' : Db} {new : NewSettlement} {usageDate : Day} {now : Nat}
    (h : Claimed db db' new usageDate now) : db.Evolves db' where
  rows r hr := ⟨r, by simp [h.settlements, hr], .refl r⟩
  events e he := by simp [h.events, he]

theorem Updated.evolves {db db' : Db} {r : Settlement} {u : RowUpdate} (h : Updated db db' r u) :
    db.Evolves db' where
  rows r' hr' := by
    by_cases hr : r' = r
    · subst hr
      exact ⟨_, h.apply_mem, h.allowed.evolves⟩
    · exact ⟨r', h.mem_of_ne hr' hr, .refl r'⟩
  events e he := by simp [h.events, he]

theorem StoreOp.exec_evolves (op : StoreOp) (now : Nat) (db : Db) :
    db.Evolves (op.exec now db).2 := by
  obtain ⟨h, -, -⟩ | ⟨-, h, -, -⟩ | ⟨-, h, -, -⟩ := op.exec_cases now db
  · exact h.evolves
  · exact h.evolves
  · exact h.evolves

/-! ## The audit log -/

/-- The life cycle of a row. -/
def lifecycleEdge : Option SettlementState → SettlementState → Bool
  | none, .reserved => true
  | some .reserved, .awaitingRetry | some .reserved, .prepared | some .reserved, .failed => true
  | some .awaitingRetry, .reserved => true
  | some .prepared, .submitted | some .prepared, .succeeded | some .prepared, .failed => true
  | some .submitted, .succeeded | some .submitted, .failed => true
  | _, _ => false

/-- The events lead along the edges of the life cycle from one state to another. -/
def IsPath (start : Option SettlementState) : List SettlementEvent → Option SettlementState → Prop
  | [], finish => finish = start
  | e :: es, finish => e.fromState = start ∧ lifecycleEdge e.fromState e.toState = true ∧
      IsPath (some e.toState) es finish

theorem IsPath.concat {start finish : Option SettlementState} {es : List SettlementEvent}
    (h : IsPath start es finish) {e : SettlementEvent} (hfrom : e.fromState = finish)
    (hedge : lifecycleEdge e.fromState e.toState = true) :
    IsPath start (es ++ [e]) (some e.toState) := by
  induction es generalizing start with
  | nil => exact ⟨hfrom.trans h, hedge, rfl⟩
  | cons a es ih => exact ⟨h.1, h.2.1, ih h.2.2⟩

/-- The audit events of a row, in order. -/
def Db.trail (db : Db) (id : Uuid) : List SettlementEvent :=
  db.events.filter (·.settlementId = id)

/-- An awaiting-retry row was reserved again. -/
def SettlementEvent.isResume (e : SettlementEvent) : Bool :=
  e.fromState = some .awaitingRetry ∧ e.toState = .reserved

/-- The audit log and the columns of a row agree with its state. -/
structure Db.AuditedRow (db : Db) (r : Settlement) : Prop where
  path : IsPath none (db.trail r.id) (some r.state)
  attempts : r.attemptCount = 1 + (db.trail r.id).countP (·.isResume)
  unsubmitted : r.state.beforePrepare = true → r.unsubmitted
  oneChain : r.outerTransactionBytes = none ∨ r.submittedTxRlp = none

structure Db.Audited (db : Db) : Prop where
  rows : ∀ r ∈ db.settlements, db.AuditedRow r
  /-- An event refers to a row, as its foreign key says. -/
  references : ∀ e ∈ db.events, ∃ r ∈ db.settlements, r.id = e.settlementId

theorem RowUpdate.events_settlementId (r : Settlement) (u : RowUpdate) :
    ∀ e ∈ u.events r, e.settlementId = r.id := by
  cases u <;> simp [events]

theorem Updated.trail_of_ne {db db' : Db} {r : Settlement} {u : RowUpdate} (h : Updated db db' r u)
    {id : Uuid} (hid : id ≠ r.id) : db'.trail id = db.trail id := by
  have hnone : (u.events r).filter (·.settlementId = id) = [] := by
    simpa using fun e he => (u.events_settlementId r e he).trans_ne hid.symm
  rw [Db.trail, h.events, List.filter_append, hnone, List.append_nil, Db.trail]

theorem Updated.trail_self {db db' : Db} {r : Settlement} {u : RowUpdate} (h : Updated db db' r u) :
    db'.trail r.id = db.trail r.id ++ u.events r := by
  have hall : (u.events r).filter (·.settlementId = r.id) = u.events r :=
    List.filter_eq_self.mpr fun e he => by simpa using u.events_settlementId r e he
  rw [Db.trail, h.events, List.filter_append, hall, Db.trail]

theorem lifecycleEdge_of_transitionAllowed {s t : SettlementState}
    (h : transitionAllowed s t = true) : lifecycleEdge (some s) t = true := by
  cases s <;> cases t <;> simp_all [transitionAllowed, lifecycleEdge]

/-- A row stays audited when it is updated. -/
theorem Updated.auditedRow {db db' : Db} {r : Settlement} {u : RowUpdate} (h : Updated db db' r u)
    (hrow : db.AuditedRow r) : db'.AuditedRow (u.apply r) := by
  have htrail : db'.trail (u.apply r).id = db.trail r.id ++ u.events r := by
    rw [u.apply_id, h.trail_self]
  have hallowed := h.allowed
  obtain ⟨hpath, hattempts, hcolumns, hchain⟩ := hrow
  refine ⟨?_, ?_, ?_, ?_⟩
  · rw [htrail]
    cases u with
    | raise | note => simpa [RowUpdate.events, RowUpdate.apply] using hpath
    | terminate entry =>
      exact hpath.concat rfl (lifecycleEdge_of_transitionAllowed hallowed.2.1)
    | resume | prepare | submit =>
      have hstate : r.state = _ := hallowed
      exact (hstate ▸ hpath).concat rfl rfl
    | release | prepareEvm => exact (hallowed.2 ▸ hpath).concat rfl rfl
  · rw [htrail, List.countP_append, ← Nat.add_assoc, ← hattempts]
    cases u with
    | terminate entry =>
      obtain ⟨hterminal, -, -⟩ := hallowed
      have hne : entry.state ≠ .reserved := by
        rintro hstate
        simp [hstate, SettlementState.isTerminal] at hterminal
      simp [RowUpdate.events, RowUpdate.apply, SettlementEvent.isResume, hne]
    | _ => simp [RowUpdate.events, RowUpdate.apply, SettlementEvent.isResume]
  · cases u with
    | prepare | prepareEvm | submit => simp [RowUpdate.apply, SettlementState.beforePrepare]
    | terminate entry =>
      intro hbefore
      have hterminal := not_beforePrepare_of_isTerminal hallowed.1
      have hstate : ((RowUpdate.terminate entry).apply r).state = entry.state := rfl
      simp [hstate, hterminal] at hbefore
    | raise | note => exact hcolumns
    | release =>
      intro _
      exact hcolumns (by rw [hallowed.2]; rfl)
    | resume =>
      intro _
      have hstate : r.state = .awaitingRetry := hallowed
      exact hcolumns (by rw [hstate]; rfl)
  · cases u with
    | prepare =>
      have hstate : r.state = .reserved := hallowed
      obtain ⟨-, -, -, -, -, -, hrlp, -⟩ := hcolumns (by rw [hstate]; rfl)
      exact .inr hrlp
    | prepareEvm =>
      obtain ⟨-, -, -, hbytes, -⟩ := hcolumns (by rw [hallowed.2]; rfl)
      exact .inl hbytes
    | _ => exact hchain

theorem Db.AuditedRow.of_trail_eq {db db' : Db} {r : Settlement} (h : db.AuditedRow r)
    (htrail : db'.trail r.id = db.trail r.id) : db'.AuditedRow r :=
  ⟨htrail ▸ h.path, htrail ▸ h.attempts, h.unsubmitted, h.oneChain⟩

theorem Updated.audited {db db' : Db} {r : Settlement} {u : RowUpdate} (h : Updated db db' r u)
    (hdb : db.Audited) : db'.Audited where
  rows r' hr' := by
    rcases h.mem_cases hr' with rfl | ⟨hold, hid⟩
    · exact h.auditedRow (hdb.rows r h.mem)
    · exact (hdb.rows r' hold).of_trail_eq (h.trail_of_ne hid)
  references e he := by
    rw [h.events, List.mem_append] at he
    rcases he with he | he
    · obtain ⟨r', hr', hid⟩ := hdb.references e he
      obtain ⟨r'', hr'', hevolves⟩ := h.evolves.rows r' hr'
      exact ⟨r'', hr'', hevolves.id_eq.trans hid⟩
    · exact ⟨u.apply r, h.apply_mem, (u.apply_id r).trans (u.events_settlementId r e he).symm⟩

theorem Claimed.audited {db db' : Db} {new : NewSettlement} {usageDate : Day} {now : Nat}
    (h : Claimed db db' new usageDate now) (hdb : db.Audited) : db'.Audited := by
  have hfresh : ∀ r ∈ db.settlements, r.id ≠ new.id := by
    have hunique := db'.constraints.primaryKey
    rw [h.settlements] at hunique
    exact fun r hr hid => hunique.of_concat hr (congrArg some hid) rfl
  have htrail : ∀ id, db'.trail id = db.trail id ++ if id = new.id then
      [⟨new.id, none, .reserved, some "claimed", none⟩] else [] := by
    intro id
    rw [Db.trail, h.events, List.filter_append, Db.trail]
    by_cases hid : id = new.id
    · simp [hid]
    · simp [hid, Ne.symm hid]
  have hempty : db.trail new.id = [] := by
    refine List.filter_eq_nil_iff.mpr fun e he hid => ?_
    obtain ⟨r, hr, hr'⟩ := hdb.references e he
    exact hfresh r hr (hr'.trans (by simpa using hid))
  refine ⟨fun r hr => ?_, fun e he => ?_⟩
  · rw [h.settlements, List.mem_append, List.mem_singleton] at hr
    rcases hr with hr | rfl
    · exact (hdb.rows r hr).of_trail_eq (by simp [htrail, hfresh r hr])
    · have hself : db'.trail (new.row usageDate now).id =
          [⟨new.id, none, .reserved, some "claimed", none⟩] := by
        simp [htrail, hempty, NewSettlement.row]
      refine ⟨hself ▸ ⟨rfl, rfl, rfl⟩, by rw [hself]; rfl, fun _ => ?_, .inl rfl⟩
      exact ⟨rfl, rfl, rfl, rfl, rfl, rfl, rfl, rfl⟩
  · rw [h.events, List.mem_append, List.mem_singleton] at he
    rcases he with he | rfl
    · obtain ⟨r, hr, hid⟩ := hdb.references e he
      exact ⟨r, by simp [h.settlements, hr], hid⟩
    · exact ⟨new.row usageDate now, by simp [h.settlements], rfl⟩

theorem SameJournal.audited {db db' : Db} (h : SameJournal db db') (hdb : db.Audited) :
    db'.Audited where
  rows r hr := (hdb.rows r (h.settlements ▸ hr)).of_trail_eq (by rw [Db.trail, h.events, Db.trail])
  references e he := by
    rw [h.settlements]
    exact hdb.references e (h.events ▸ he)

theorem Db.Audited.call {db : Db} (hdb : db.Audited) (call : StoreCall) :
    (db.call call).Audited := by
  obtain ⟨h, -, -⟩ | ⟨-, h, -, -⟩ | ⟨-, h, -, -⟩ := call.op.exec_cases call.now db
  · exact h.audited hdb
  · exact h.audited hdb
  · exact h.audited hdb

theorem Db.empty_audited : Db.empty.Audited where
  rows r hr := by simp [Db.empty] at hr
  references e he := by simp [Db.empty] at he

theorem Db.audited_after (calls : List StoreCall) : (Db.after calls).Audited :=
  Run.invariant Db.empty_audited (fun _ call hdb => hdb.call call) calls

theorem Db.evolves_after (calls more : List StoreCall) :
    (Db.after calls).Evolves (Db.after (calls ++ more)) := by
  rw [Db.after, Db.after, Run.after_append]
  exact Run.related Db.Evolves.refl Db.Evolves.trans
    (fun db call => call.op.exec_evolves call.now db) _ more

/-- In every interleaving of store calls a row's audit events lead along the life cycle to the state
it is in, its terminal result and its identity are final, its submission columns are absent before
preparation and present for its chain while it is prepared, submitted or succeeded, and it has been
attempted once more than it has been resumed. -/
theorem settlement_lifecycle (calls more : List StoreCall) (r : Settlement)
    (hr : r ∈ (Db.after calls).settlements) :
    IsPath none ((Db.after calls).trail r.id) (some r.state) ∧
      (∃ r' ∈ (Db.after (calls ++ more)).settlements, r'.id = r.id) ∧
      (∀ r' ∈ (Db.after (calls ++ more)).settlements, r'.id = r.id →
        r'.identity = r.identity ∧
          (r.state.isTerminal = true → r'.state = r.state ∧
            r'.terminalHttpStatus = r.terminalHttpStatus ∧
            r'.terminalResponseBytes = r.terminalResponseBytes)) ∧
      (r.state = .reserved ∨ r.state = .awaitingRetry → r.unsubmitted) ∧
      (r.state = .prepared ∨ r.state = .submitted ∨ r.state = .succeeded →
        match r.chainKind with
        | .near => r.nearSubmitted
        | .eip155 => r.evmSubmitted) ∧
      r.attemptCount = 1 + ((Db.after calls).trail r.id).countP (·.isResume) := by
  obtain ⟨hpath, hattempts, hcolumns, -⟩ := (Db.audited_after calls).rows r hr
  obtain ⟨later, hlater, hevolves⟩ := (Db.evolves_after calls more).rows r hr
  refine ⟨hpath, ⟨later, hlater, hevolves.id_eq⟩, ?_, ?_, ?_, hattempts⟩
  · intro r' hr' hid
    rw [Db.eq_of_id _ hr' hlater (hid.trans hevolves.id_eq.symm)]
    refine ⟨hevolves.identity, fun hterminal => ?_⟩
    obtain ⟨hstate, hstatus, hbytes, -⟩ := hevolves.terminal hterminal
    exact ⟨hstate, hstatus, hbytes⟩
  · rintro (hstate | hstate) <;> exact hcolumns (by rw [hstate]; rfl)
  · intro hstate
    have hchecks := ((Db.after calls).constraints.checks r hr).nonterminalSubmission
    have hsubmitted : r.nearSubmitted ∨ r.evmSubmitted := by
      rcases hstate with hstate | hstate | hstate <;> simpa [hstate] using hchecks
    rcases hsubmitted with hnear | hevm
    · rw [hnear.1]
      exact hnear
    · rw [hevm.1]
      exact hevm

/-- A claim that is released, resumed, prepared, submitted and terminalized. -/
def sampleLife : List StoreCall :=
  [⟨.createClient 7, 0⟩, ⟨.claimReservation (sampleNearClaim 1 5 10) 3, 1⟩,
    ⟨.markAwaitingRetry 1 "rpc_unavailable", 2⟩,
    ⟨.resumeReservation ⟨1, .null, 6, 10, 10⟩ 4, 3⟩,
    ⟨.markPrepared ⟨1, "relayer.testnet", "ed25519:relayer", 9, [1, 2, 3], "hash"⟩, 4⟩,
    ⟨.markSubmitted 1, 5⟩,
    ⟨.markTerminal ⟨1, .succeeded, 200, [7], none, none, some 1, some 2, 2, none, none, none⟩, 6⟩]

theorem settlement_lifecycle_sampleLife :
    ∃ r ∈ (Db.after sampleLife).settlements, r.state = .succeeded ∧ r.nearSubmitted ∧
      r.attemptCount = 1 + ((Db.after sampleLife).trail r.id).countP (·.isResume) := by
  have hstates : (Db.after sampleLife).settlements.map (fun r => (r.state, r.chainKind))
      = [(.succeeded, .near)] := by decide
  obtain ⟨r, hr, hstate⟩ := List.mem_map.mp (hstates ▸ List.mem_singleton_self _)
  obtain ⟨hsucceeded, hnear⟩ := Prod.mk.inj hstate
  obtain ⟨-, -, -, -, hsubmitted, hattempts⟩ := settlement_lifecycle sampleLife [] r hr
  rw [hnear] at hsubmitted
  exact ⟨r, hr, hsucceeded, hsubmitted (.inr (.inr hsucceeded)), hattempts⟩

end X402Facilitator
