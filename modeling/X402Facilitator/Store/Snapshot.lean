import X402Facilitator.Store.Lifecycle

/-!
# What a reply says about the database later

A process acts on rows it has read or written earlier, while others go on changing them. A row that
was in the table once is `Witnessed` by every later state of the database: it is still there, under
the same identity, and with the same submission once it had one. `StoreOp.Attests` collects what
each successful reply witnesses, in terms that stay true.
-/

namespace X402Facilitator

/-- The row `r` was in the table at this or an earlier moment. -/
structure Db.Witnessed (db : Db) (r : Settlement) : Prop where
  checks : r.Checks
  unsubmitted : r.state.beforePrepare = true → r.unsubmitted
  oneChain : r.outerTransactionBytes = none ∨ r.submittedTxRlp = none
  event : ∃ e ∈ db.events, e.settlementId = r.id ∧ e.toState = r.state
  row : ∃ row ∈ db.settlements, r.Evolves row

theorem IsPath.exists_toState {es : List SettlementEvent} {start : Option SettlementState}
    {s : SettlementState} (h : IsPath start es (some s)) (hstart : start ≠ some s) :
    ∃ e ∈ es, e.toState = s := by
  induction es generalizing start with
  | nil => exact absurd h.symm hstart
  | cons e es ih =>
    by_cases hs : e.toState = s
    · exact ⟨e, List.mem_cons_self, hs⟩
    · obtain ⟨e', he', hs'⟩ := ih h.2.2 (by simpa using hs)
      exact ⟨e', List.mem_cons_of_mem e he', hs'⟩

namespace Db.Witnessed

theorem of_mem {db : Db} (hdb : db.Audited) {r : Settlement} (hr : r ∈ db.settlements) :
    db.Witnessed r where
  checks := db.constraints.checks r hr
  unsubmitted := (hdb.rows r hr).unsubmitted
  oneChain := (hdb.rows r hr).oneChain
  event := by
    obtain ⟨e, he, hstate⟩ := (hdb.rows r hr).path.exists_toState (by simp)
    obtain ⟨hmem, hid⟩ := List.mem_filter.mp he
    exact ⟨e, hmem, by simpa using hid, hstate⟩
  row := ⟨r, hr, .refl r⟩

theorem mono {db db' : Db} (h : db.Evolves db') {r : Settlement} (hr : db.Witnessed r) :
    db'.Witnessed r where
  checks := hr.checks
  unsubmitted := hr.unsubmitted
  oneChain := hr.oneChain
  event := by
    obtain ⟨e, he, hevent⟩ := hr.event
    exact ⟨e, h.events e he, hevent⟩
  row := by
    obtain ⟨row, hrow, hevolves⟩ := hr.row
    obtain ⟨row', hrow', hevolves'⟩ := h.rows row hrow
    exact ⟨row', hrow', hevolves.trans hevolves'⟩

/-- Rows witnessed under one id are the same row at two moments. -/
theorem identity_eq {db : Db} {r r' : Settlement} (hr : db.Witnessed r) (hr' : db.Witnessed r')
    (hid : r.id = r'.id) : r.identity = r'.identity := by
  obtain ⟨row, hrow, hevolves⟩ := hr.row
  obtain ⟨row', hrow', hevolves'⟩ := hr'.row
  have hsame : row = row' :=
    db.eq_of_id hrow hrow' (hevolves.id_eq.trans (hid.trans hevolves'.id_eq.symm))
  rw [← hevolves.identity, ← hevolves'.identity, hsame]

/-- The row in the table is an evolution of every witnessed row of its id. -/
theorem evolves {db : Db} {r row : Settlement} (hr : db.Witnessed r) (hrow : row ∈ db.settlements)
    (hid : row.id = r.id) : r.Evolves row := by
  obtain ⟨row', hrow', hevolves⟩ := hr.row
  rwa [db.eq_of_id hrow hrow' (hid.trans hevolves.id_eq.symm)]

/-- A prepared, submitted or succeeded row carries the submission of exactly one chain. -/
theorem submitted {db : Db} {r : Settlement} (hr : db.Witnessed r)
    (hstate : r.state.inFlight = true) : r.nearSubmitted ∨ r.evmSubmitted := by
  have hchecks := hr.checks.nonterminalSubmission
  cases hs : r.state <;> simp_all [SettlementState.inFlight]

end Db.Witnessed

/-- What the row of a prepared journal entry was, and what it became. -/
def Db.WitnessedPrepared (db : Db) (id : Uuid) (update : RowUpdate) : Prop :=
  ∃ r, r.id = id ∧ r.state = .reserved ∧ db.Witnessed r ∧ db.Witnessed (update.apply r)

/-- What a successful reply says about every later state of the database. -/
def StoreOp.Attests (db : Db) : (op : StoreOp) → op.Reply → Prop
  | settlement id, reply => ∀ r : Settlement, reply = some r → r.id = id ∧ db.Witnessed r
  | nonterminalSettlements, records => ∀ r : Settlement, List.Mem r records → db.Witnessed r
  | claimReservation new usageDate, reply =>
      reply = ClaimReply.inserted → ∃ now, db.Witnessed (new.row usageDate now)
  | resumeReservation retry usageDate, reply => reply = ResumeReply.resumed →
      ∃ r, r.id = retry.settlementId ∧ db.Witnessed ((RowUpdate.resume retry usageDate).apply r)
  | markPrepared entry, _ => db.WitnessedPrepared entry.settlementId (.prepare entry)
  | markPreparedEvm entry, _ => db.WitnessedPrepared entry.settlementId (.prepareEvm entry)
  | markSubmitted id, _ => ∃ r, r.id = id ∧ r.state = .submitted ∧ db.Witnessed r
  | markTerminal entry, _ =>
      ∃ r, r.id = entry.settlementId ∧ r.state.isTerminal = true ∧ db.Witnessed r
  | _, _ => True

theorem Db.WitnessedPrepared.mono {db db' : Db} (h : db.Evolves db') {id : Uuid} {u : RowUpdate}
    (hu : db.WitnessedPrepared id u) : db'.WitnessedPrepared id u := by
  obtain ⟨r, hid, hstate, hr, hr'⟩ := hu
  exact ⟨r, hid, hstate, hr.mono h, hr'.mono h⟩

theorem StoreOp.Attests.mono {db db' : Db} (h : db.Evolves db') {op : StoreOp} {reply : op.Reply}
    (hop : op.Attests db reply) : op.Attests db' reply := by
  cases op with
  | settlement id => exact fun r hr => ⟨(hop r hr).1, (hop r hr).2.mono h⟩
  | nonterminalSettlements => exact fun r hr => (hop r hr).mono h
  | claimReservation new usageDate =>
    intro hreply
    obtain ⟨now, hr⟩ := hop hreply
    exact ⟨now, hr.mono h⟩
  | resumeReservation retry usageDate =>
    intro hreply
    obtain ⟨r, hid, hr⟩ := hop hreply
    exact ⟨r, hid, hr.mono h⟩
  | markPrepared | markPreparedEvm => exact Db.WitnessedPrepared.mono h hop
  | markSubmitted | markTerminal =>
    obtain ⟨r, hid, hstate, hr⟩ := hop
    exact ⟨r, hid, hstate, hr.mono h⟩
  | _ => trivial

theorem Updated.witnessedPrepared {db db' : Db} {r : Settlement} {u : RowUpdate}
    (h : Updated db db' r u) (hdb : db.Audited) {id : Uuid} (hid : r.id = id)
    (hstate : r.state = .reserved) : db'.WitnessedPrepared id u :=
  ⟨r, hid, hstate, (Db.Witnessed.of_mem hdb h.mem).mono h.evolves,
    .of_mem (h.audited hdb) h.apply_mem⟩

/-- Every successful reply attests what it says when it is given. -/
theorem StoreOp.attests_exec {op : StoreOp} {now : Nat} {db : Db} {reply : op.Reply}
    (hdb : db.Audited) (h : (op.exec now db).1 = .ok reply) :
    op.Attests (op.exec now db).2 reply := by
  have hrun : (op.txn now).run db = .ok (reply, (op.exec now db).2) := Txn.exec_ok h
  generalize (op.exec now db).2 = db' at hrun
  cases op with
  | settlement id =>
    obtain ⟨rfl, rfl⟩ := Prod.mk.inj (Except.ok.inj hrun)
    intro r hr
    obtain ⟨hmem, hid⟩ := Db.settlement?_eq_some.mp hr
    exact ⟨hid, .of_mem hdb hmem⟩
  | nonterminalSettlements =>
    obtain ⟨rfl, rfl⟩ := Prod.mk.inj (Except.ok.inj hrun)
    intro r hr
    exact .of_mem hdb (mem_nonterminalSettlements.mp hr).1
  | claimReservation new usageDate =>
    rintro rfl
    obtain ⟨-, hclaimed⟩ | ⟨hne, -⟩ := claimReservation_ok hrun
    · exact ⟨now, .of_mem (hclaimed.audited hdb) (by simp [hclaimed.settlements])⟩
    · exact absurd rfl hne
  | resumeReservation retry usageDate =>
    rintro rfl
    obtain ⟨-, r, hr, hid, hupdated⟩ | ⟨hne, -⟩ := resumeReservation_ok hrun
    · exact ⟨r, hid, .of_mem (hupdated.audited hdb) hupdated.apply_mem⟩
    · exact absurd rfl hne
  | markPrepared entry =>
    obtain ⟨r, hr, hid, hupdated⟩ := markPrepared_ok hrun
    exact hupdated.witnessedPrepared hdb hid hupdated.allowed
  | markPreparedEvm entry =>
    obtain ⟨r, hr, hid, hupdated⟩ := markPreparedEvm_ok hrun
    exact hupdated.witnessedPrepared hdb hid hupdated.allowed.2
  | markSubmitted id =>
    obtain ⟨r, hr, hid, hupdated⟩ := markSubmitted_ok hrun
    exact ⟨RowUpdate.submit.apply r, hid, rfl, .of_mem (hupdated.audited hdb) hupdated.apply_mem⟩
  | markTerminal entry =>
    obtain ⟨r, hr, hid, hupdated | ⟨hterminal, -, -, rfl⟩⟩ := markTerminal_ok hrun
    · exact ⟨(RowUpdate.terminate entry).apply r, hid, hupdated.allowed.1,
        .of_mem (hupdated.audited hdb) hupdated.apply_mem⟩
    · exact ⟨r, hid, hterminal, .of_mem hdb hr⟩
  | _ => trivial

end X402Facilitator
