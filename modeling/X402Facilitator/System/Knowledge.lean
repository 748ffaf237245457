import X402Facilitator.Store.Snapshot
import X402Facilitator.System.Runs

/-!
# What a thread knows

A thread has read rows and got replies, and the rows may have changed since. What its history says
about a prepared or submitted row stays true: `Knows` lists how a thread comes to know such a row,
and `World.knows_after` says that the journal then has this row, with the same identity and the same
submission, whatever all other processes have done.
-/

namespace X402Facilitator

open Program

/-- The statement succeeded with this reply. -/
def Stored (h : History Op.Answer) (op : StoreOp) (reply : op.Reply) : Prop :=
  ⟨.store op, .ok reply⟩ ∈ h

/-- The call was answered so. -/
def Asked (h : History Op.Answer) (query : Query) (answer : query.Answer) : Prop :=
  ⟨.ask query, answer⟩ ∈ h

/-- The row `id` after the update, going by an earlier reading of it. -/
def RowUpdate.applyTo (u : RowUpdate) (id : Uuid) (journaled : Settlement) : Settlement :=
  { u.apply journaled with id := id }

/-- How a thread comes to know a row that carries signed bytes: it read the row in that state, or it
read the reserved row and journaled the bytes itself. -/
inductive Knows (h : History Op.Answer) : Settlement → Prop
  | read {records : List Settlement} {r : Settlement}
      (hread : Stored h .nonterminalSettlements records) (hr : r ∈ records)
      (hstate : r.state.inFlight = true) : Knows h r
  | prepared {journaled : Settlement} {entry : PreparedJournalEntry}
      (hread : Stored h (.settlement entry.settlementId) (some journaled))
      (hreserved : journaled.state = .reserved) (hprepared : Stored h (.markPrepared entry) ()) :
      Knows h ((RowUpdate.prepare entry).applyTo entry.settlementId journaled)
  | preparedEvm {journaled : Settlement} {entry : EvmPreparedJournalEntry}
      (hread : Stored h (.settlement entry.settlementId) (some journaled))
      (hreserved : journaled.state = .reserved) (hprepared : Stored h (.markPreparedEvm entry) ()) :
      Knows h ((RowUpdate.prepareEvm entry).applyTo entry.settlementId journaled)

/-- The thread knows that the row has been marked submitted. -/
def KnowsSubmitted (h : History Op.Answer) (r : Settlement) : Prop :=
  r.state = .submitted ∨ Stored h (.markSubmitted r.id) ()

theorem Stored.mono {h h' : History Op.Answer} (hsuffix : h <:+ h') {op : StoreOp}
    {reply : op.Reply} (hstored : Stored h op reply) : Stored h' op reply :=
  hsuffix.subset hstored

theorem Asked.mono {h h' : History Op.Answer} (hsuffix : h <:+ h') {query : Query}
    {answer : query.Answer} (hasked : Asked h query answer) : Asked h' query answer :=
  hsuffix.subset hasked

theorem Knows.mono {h h' : History Op.Answer} (hsuffix : h <:+ h') {r : Settlement}
    (hr : Knows h r) : Knows h' r := by
  cases hr with
  | read hread hr hstate => exact .read (hread.mono hsuffix) hr hstate
  | prepared hread hreserved hprepared =>
    exact .prepared (hread.mono hsuffix) hreserved (hprepared.mono hsuffix)
  | preparedEvm hread hreserved hprepared =>
    exact .preparedEvm (hread.mono hsuffix) hreserved (hprepared.mono hsuffix)

theorem KnowsSubmitted.mono {h h' : History Op.Answer} (hsuffix : h <:+ h') {r : Settlement}
    (hr : KnowsSubmitted h r) : KnowsSubmitted h' r :=
  hr.imp_right (·.mono hsuffix)

/-! ## The journal agrees -/

/-- The journal has the row `r`, as far as the row can no longer change. -/
structure Db.Holds (db : Db) (r row : Settlement) : Prop where
  mem : row ∈ db.settlements
  identity : row.identity = r.identity
  submission : row.submission = r.submission
  beforePrepare : row.state.beforePrepare = false
  near : row.outerTransactionBytes.isSome → row.chainKind = .near
  evm : row.submittedTxRlp.isSome → row.chainKind = .eip155

namespace Db.Holds

variable {db : Db} {r row : Settlement}

theorem id_eq (h : db.Holds r row) : row.id = r.id :=
  congrArg RowIdentity.id h.identity

theorem congr {r' : Settlement} (h : db.Holds r row) (hidentity : r.identity = r'.identity)
    (hsubmission : r.submission = r'.submission) : db.Holds r' row :=
  { h with
    identity := h.identity.trans hidentity
    submission := h.submission.trans hsubmission }

theorem outerTransactionBytes (h : db.Holds r row) :
    row.outerTransactionBytes = r.outerTransactionBytes :=
  congrArg RowSubmission.outerTransactionBytes h.submission

theorem submittedTxRlp (h : db.Holds r row) : row.submittedTxRlp = r.submittedTxRlp :=
  congrArg RowSubmission.submittedTxRlp h.submission

theorem submissionBytes_near (h : db.Holds r row) {bytes : Bytes}
    (hbytes : r.outerTransactionBytes = some bytes) : row.submissionBytes = some bytes := by
  have hrow := h.outerTransactionBytes.trans hbytes
  rw [Settlement.submissionBytes, h.near (by simp [hrow])]
  exact hrow

theorem submissionBytes_evm (h : db.Holds r row) {bytes : Bytes}
    (hbytes : r.submittedTxRlp = some bytes) : row.submissionBytes = some bytes := by
  have hrow := h.submittedTxRlp.trans hbytes
  rw [Settlement.submissionBytes, h.evm (by simp [hrow])]
  exact hrow

end Db.Holds

theorem Db.Witnessed.holds {db : Db} {r : Settlement} (hr : db.Witnessed r)
    (hstate : r.state.inFlight = true) : ∃ row, db.Holds r row := by
  obtain ⟨row, hrow, hevolves⟩ := hr.row
  obtain ⟨hsubmission, hbefore⟩ := hevolves.prepared (not_beforePrepare_of_inFlight hstate)
  have hbytes : row.outerTransactionBytes = r.outerTransactionBytes :=
    congrArg RowSubmission.outerTransactionBytes hsubmission
  have hrlp : row.submittedTxRlp = r.submittedTxRlp :=
    congrArg RowSubmission.submittedTxRlp hsubmission
  have hkind : row.chainKind = r.chainKind := congrArg RowIdentity.chainKind hevolves.identity
  refine ⟨row, hrow, hevolves.identity, hsubmission, hbefore, ?_, ?_⟩ <;> intro hsome
  · obtain hnear | ⟨-, -, -, hevm, -⟩ := hr.submitted hstate
    · exact hkind.trans hnear.1
    · rcases hr.oneChain with hnone | hnone
      · simp [hbytes, hnone] at hsome
      · simp [hnone] at hevm
  · obtain ⟨-, -, -, -, hnear, -⟩ | hevm := hr.submitted hstate
    · rcases hr.oneChain with hnone | hnone
      · simp [hnone] at hnear
      · simp [hrlp, hnone] at hsome
    · exact hkind.trans hevm.1

/-- Preparing two unsubmitted versions of a row gives the same submission. -/
theorem RowUpdate.submission_prepare {r r' : Settlement} (hr : r.unsubmitted)
    (hr' : r'.unsubmitted) (entry : PreparedJournalEntry) :
    ((prepare entry).apply r).submission = ((prepare entry).apply r').submission := by
  obtain ⟨-, -, -, -, -, h₁, h₂, h₃⟩ := hr
  obtain ⟨-, -, -, -, -, h₁', h₂', h₃'⟩ := hr'
  simp [apply, Settlement.submission, h₁, h₂, h₃, h₁', h₂', h₃']

theorem RowUpdate.submission_prepareEvm {r r' : Settlement} (hr : r.unsubmitted)
    (hr' : r'.unsubmitted) (entry : EvmPreparedJournalEntry) :
    ((prepareEvm entry).apply r).submission = ((prepareEvm entry).apply r').submission := by
  obtain ⟨h₁, h₂, h₃, h₄, h₅, -⟩ := hr
  obtain ⟨h₁', h₂', h₃', h₄', h₅', -⟩ := hr'
  simp [apply, Settlement.submission, h₁, h₂, h₃, h₄, h₅, h₁', h₂', h₃', h₄', h₅']

/-- A thread that read the reserved row and journaled `u` on it knows the prepared row, although the
row may have changed between the two statements. -/
theorem Db.WitnessedPrepared.holds {db : Db} {id : Uuid} {journaled : Settlement} {u : RowUpdate}
    (hprepared : db.WitnessedPrepared id u) (hread : journaled.id = id ∧ db.Witnessed journaled)
    (hreserved : journaled.state = .reserved) (hstate : ∀ r, (u.apply r).state.inFlight = true)
    (hidentity : ∀ r, (u.apply r).identity = r.identity)
    (hsubmission : ∀ {r r'}, r.unsubmitted → r'.unsubmitted →
      (u.apply r).submission = (u.apply r').submission) :
    ∃ row, db.Holds (u.applyTo id journaled) row := by
  obtain ⟨r, hid, hr, hwitnessed, hwitnessed'⟩ := hprepared
  obtain ⟨row, hrow⟩ := hwitnessed'.holds (hstate r)
  have hself : u.applyTo id journaled = u.apply journaled := by
    rw [RowUpdate.applyTo, ← hread.1, ← u.apply_id journaled]
  rw [hself]
  refine ⟨row, hrow.congr ?_ (hsubmission (hwitnessed.unsubmitted (by rw [hr]; rfl))
    (hread.2.unsubmitted (by rw [hreserved]; rfl)))⟩
  rw [hidentity, hidentity, hwitnessed.identity_eq hread.2 (hid.trans hread.1.symm)]

/-- The replies in a history still hold of the database. -/
def History.Attested (h : History Op.Answer) (db : Db) : Prop :=
  ∀ op reply, Stored h op reply → op.Attests db reply

/-- What a thread knows about a row, the journal confirms. -/
theorem Knows.holds {db : Db} {h : History Op.Answer} (hdb : History.Attested h db)
    {r : Settlement} (hr : Knows h r) : ∃ row, db.Holds r row := by
  cases hr with
  | read hread hr hstate => exact (hdb _ _ hread r hr).holds hstate
  | prepared hread hreserved hprepared =>
    exact Db.WitnessedPrepared.holds (hdb _ _ hprepared) (hdb _ _ hread _ rfl) hreserved
      (fun _ => rfl) (fun _ => rfl) fun h₁ h₂ => RowUpdate.submission_prepare h₁ h₂ _
  | preparedEvm hread hreserved hprepared =>
    exact Db.WitnessedPrepared.holds (hdb _ _ hprepared) (hdb _ _ hread _ rfl) hreserved
      (fun _ => rfl) (fun _ => rfl) fun h₁ h₂ => RowUpdate.submission_prepareEvm h₁ h₂ _

/-- A row that a thread knows to be submitted has a submitted event in the audit log. -/
theorem KnowsSubmitted.event {db : Db} {h : History Op.Answer} (hdb : History.Attested h db)
    {r : Settlement} (hr : Knows h r) (hsubmitted : KnowsSubmitted h r) :
    ∃ e ∈ db.events, e.settlementId = r.id ∧ e.toState = .submitted := by
  obtain hstate | hstored := hsubmitted
  · cases hr with
    | read hread hr _ =>
      obtain ⟨e, he, hid, hto⟩ := (hdb _ _ hread r hr).event
      exact ⟨e, he, hid, hto.trans hstate⟩
    | prepared | preparedEvm => cases hstate
  · obtain ⟨r', hid, hstate, hwitnessed⟩ := hdb _ _ hstored
    obtain ⟨e, he, hid', hto⟩ := hwitnessed.event
    exact ⟨e, he, hid'.trans hid, hto.trans hstate⟩

theorem History.Attested.mono {db db' : Db} (h : db.Evolves db') {past : History Op.Answer}
    (hpast : History.Attested past db) : History.Attested past db' :=
  fun op reply hstored => (hpast op reply hstored).mono h

/-- A successful reply attests to the database that the statement leaves. -/
theorem History.Attested.answer {db : Db} (hdb : db.Audited) {past : History Op.Answer}
    (hpast : History.Attested past db) (o : Op) (env : Env) (gates : ReadinessSnapshot)
    (hevolves : db.Evolves (o.commit env db)) :
    History.Attested (⟨o, o.answer env db gates⟩ :: past) (o.commit env db) := by
  intro op reply hstored
  obtain hnew | hold := List.mem_cons.mp hstored
  · obtain ⟨rfl, hanswer⟩ := Event.mk.inj hnew
    have hreply : env.fate.reply op env.now db = .ok reply := (eq_of_heq hanswer).symm
    cases hfate : env.fate with
    | replied =>
      rw [hfate] at hreply
      simpa [Op.commit, hfate, Fate.commit] using StoreOp.attests_exec hdb hreply
    | replyLost | failed =>
      rw [hfate] at hreply
      cases hreply
  · exact (hpast op reply hold).mono hevolves

/-- In every run the replies in every thread's history hold of the database as it is now. -/
theorem World.attested_after [NearPrimitives] [EvmPrimitives] (moves : List Move) :
    ∀ t ∈ (after moves).threads, History.Attested t.past (after moves).db := by
  induction moves using List.reverseRecOn with
  | nil => simp [after, init]
  | append_singleton moves m ih =>
    rw [after_concat]
    have hstep := (after moves).stepped m
    intro t' ht'
    cases hstep.threadStep ht' with
    | kept h => exact (ih t' h).mono hstep.db_evolves
    | new role h =>
      subst h
      intro op reply hstored
      cases hstored
    | stopped t ht h =>
      subst h
      exact (ih t ht).mono hstep.db_evolves
    | resumed t ht env gates hcall hdb h =>
      subst h
      rw [hdb]
      exact (ih t ht).answer (audited_after moves) _ env gates (hdb ▸ hstep.db_evolves)

end X402Facilitator
