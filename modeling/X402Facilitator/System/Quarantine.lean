import X402Facilitator.Store.Relayers
import X402Facilitator.System.Lock
import X402Facilitator.System.Origin

/-!
# Quarantine

Recovery quarantines the signer in one transaction and makes the row terminal in the next one, so that
the row's slot is released only when the entry is no longer active, wherever the process stops. Nothing
ends a quarantine, and a process that has quarantined its signer does not send with it again: it sends
only after it has read the entry as active in the same session under the relayer lock, and it is under
that lock that the entry was quarantined.
-/

namespace X402Facilitator

open Program

section
variable [NearPrimitives] [EvmPrimitives]

/-! ## The entry -/

theorem World.Stepped.quarantined {w w' : World} {m : Move} (h : w.Stepped m w') {key : RelayerKey}
    (hkey : w.db.Quarantined key) : w'.db.Quarantined key := by
  obtain hdb | ⟨call, hdb⟩ := h.db
  · rwa [hdb]
  · rw [hdb]
    exact StoreOp.exec_quarantined hkey

theorem World.quarantined_after (moves more : List Move) {key : RelayerKey}
    (hkey : (after moves).db.Quarantined key) : (after (moves ++ more)).db.Quarantined key :=
  invariant_from (P := fun w => w.db.Quarantined key) (fun _ _ _ hstep h => hstep.quarantined h)
    hkey more

/-- A quarantine that the thread was told of is in force. -/
theorem World.quarantined_of_stored (moves : List Move) {t : Thread}
    (ht : t ∈ (after moves).threads) {key : RelayerKey} {reason : String} {nonce : Nat} {u : Unit}
    (hstored : Stored t.past (.quarantineRelayer key reason nonce) u) :
    (after moves).db.Quarantined key := by
  obtain ⟨tid, past, ⟨x⟩⟩ := exists_moment_of_mem moves ht hstored
  have hkey := quarantined_after x.upTo x.rest (quarantineRelayer_ok x.run).1
  rwa [x.upTo_append] at hkey

/-! ## Overruns -/

/-- The entry of a signer that the row names, where the address doubles as the public key. -/
def Settlement.signerEntry (r : Settlement) (signer : String) : RelayerKey :=
  ⟨r.network, signer, signer⟩

/-- The transaction of the row has cost more than was reserved for it. -/
def Settlement.Overrun (r : Settlement) : Prop :=
  ∃ burnt, r.tokensBurnt = some burnt ∧ r.reservedYoctoNear < burnt

/-- Whoever makes an EVM row terminal on a cost above its reservation has quarantined its signer. -/
theorem TerminalJustified.quarantined {moves : List Move} {t : Thread} {entry : TerminalJournalEntry}
    {old : Settlement} (ht : t ∈ (World.after moves).threads)
    (hentry : TerminalJustified t.role (session t.past) entry)
    (hold : old ∈ (World.after moves).db.settlements) (hid : entry.settlementId = old.id)
    (hkind : old.chainKind = .eip155) {burnt : Nat} (hburnt : entry.tokensBurnt = some burnt)
    (hover : old.reservedYoctoNear < burnt) :
    ∃ signer, old.signerAddress = some signer ∧
      (World.after moves).db.Quarantined (old.signerEntry signer) := by
  obtain ⟨r, hr, hrid, hcost⟩ := hentry.cost burnt hburnt (Nat.zero_lt_of_lt hover)
  obtain ⟨row, hholds⟩ := hr.holds (World.attested_after moves t ht).session
  obtain rfl : row = old := Db.eq_of_id _ hholds.mem hold (hholds.id_eq.trans (hrid.trans hid))
  have hrow : row.chainKind = r.chainKind := congrArg RowIdentity.chainKind hholds.identity
  cases hcost with
  | near hnear =>
    exfalso
    obtain hnear | hsome := hnear
    · cases hkind.symm.trans (hrow.trans hnear)
    · have haccount : row.relayerAccountId = r.relayerAccountId :=
        congrArg RowSubmission.relayerAccountId hholds.submission
      have hbytes := World.relayer_signed moves row hold (by rw [haccount]; exact hsome)
      cases hkind.symm.trans (hholds.near hbytes)
  | within htask hwithin =>
    -- What was compared is the reservation as it was read, and it has not changed since.
    exfalso
    obtain ⟨hwitnessed, hstate⟩ := World.witnessed_of_reconciles moves ht htask hr
    have hevolves := hwitnessed.evolves hold hholds.id_eq
    have hreserved := (hevolves.reservation (not_beforePrepare_of_inFlight hstate)).1
    omega
  | quarantined hprovider hsigner hnetwork hstored =>
    refine ⟨_, (congrArg RowIdentity.signerAddress hholds.identity).trans hsigner, ?_⟩
    have hkey := World.quarantined_of_stored moves ht (session_subset _ hstored)
    have hsame : row.network = r.network := congrArg RowIdentity.network hholds.identity
    have hentry : t.role.state.relayerRow = row.signerEntry t.role.state.provider.signerAccountId := by
      rw [Settlement.signerEntry, hsame, hnetwork]
      simp only [AppState.relayerRow, hprovider, ChainProvider.signerPublicKey,
        ChainProvider.signerAccountId]
    rwa [← hentry]

/-- In every run, the signer of an EVM row that ended in an overrun is quarantined. -/
theorem World.overrun_quarantined (moves : List Move) : ∀ r ∈ (after moves).db.settlements,
    r.chainKind = .eip155 → r.state.isTerminal = true → r.Overrun →
      ∃ signer, r.signerAddress = some signer ∧
        (after moves).db.Quarantined (r.signerEntry signer) := by
  induction moves using List.reverseRecOn with
  | nil => simp [after, init, Run.after_nil, Db.empty]
  | append_singleton moves m ih =>
    rw [after_concat]
    intro row hrow hkind hterminal hover
    have hstep := (after moves).stepped m
    obtain hkept | ⟨now, -, -, rfl⟩ | ⟨hissued, htarget, hupdated, rfl⟩ := hstep.rowStep hrow
    · obtain ⟨signer, hsigner, hkey⟩ := ih row hkept hkind hterminal hover
      exact ⟨signer, hsigner, hstep.quarantined hkey⟩
    · cases hterminal
    · rename_i t op old u
      cases u with
      | terminate entry =>
        obtain ⟨rfl, hid⟩ := StoreOp.eq_of_target_terminate htarget
        obtain ⟨ht, next, hcall⟩ := issued?_eq_some hissued
        obtain ⟨burnt, hburnt, hlt⟩ := hover
        have hcost : entry.tokensBurnt = some burnt := by
          simp only [RowUpdate.apply, Option.some.injEq] at hburnt hlt
          cases hentry : entry.tokensBurnt with
          | none =>
            rw [hentry, Option.getD_none] at hburnt
            omega
          | some n => rw [hentry, Option.getD_some] at hburnt; rw [hburnt]
        obtain ⟨signer, hsigner, hkey⟩ := TerminalJustified.quarantined ht
          (justified_after moves ht hcall).store hupdated.mem hid hkind hcost hlt
        exact ⟨signer, hsigner, hstep.quarantined hkey⟩
      | note =>
        obtain ⟨signer, hsigner, hkey⟩ := ih old hupdated.mem hkind hterminal hover
        exact ⟨signer, hsigner, hstep.quarantined hkey⟩
      | raise minimum =>
        obtain ⟨signer, hsigner, hkey⟩ := ih old hupdated.mem hkind hterminal hover
        exact ⟨signer, hsigner, hstep.quarantined hkey⟩
      | release | resume | prepare | prepareEvm | submit => cases hterminal

/-! ## Sending after a quarantine -/

/-- The entry is quarantined, and no thread of the process that holds the lock has read it as active
since it quarantined the entry or took the lock. -/
structure World.Barred (w : World) (pid : Nat) (key : RelayerKey) : Prop where
  quarantined : w.db.Quarantined key
  unread : ∀ t ∈ w.threads, t.role.process = pid → t.role.state.relayerRow = key →
    ∀ {o : Op} {next : o.Answer → Service Unit}, t.program = .call o next →
    phase t.past ≠ .free → ¬ Vetted t.role.state (session t.past)

theorem not_vetted_nil {state : AppState} : ¬ Vetted state [] := by
  rintro ⟨later, earlier, hsplit, -⟩
  simp at hsplit

/-- The last thing that a vetted thread did is to read the entry, or it was vetted before. -/
theorem Vetted.of_cons {state : AppState} {h : History Op.Answer} {e : Event Op.Answer}
    (hvetted : Vetted state (e :: h)) : e.op.quarantines = false ∧
      (e = ⟨.store (.relayerIsActive state.relayerRow), .ok true⟩ ∨ Vetted state h) := by
  obtain ⟨later, earlier, hsplit, hlater⟩ := hvetted
  cases later with
  | nil =>
    obtain ⟨rfl, -⟩ := List.cons.inj hsplit
    exact ⟨rfl, .inl rfl⟩
  | cons e' later =>
    obtain ⟨rfl, hrest⟩ := List.cons.inj hsplit
    exact ⟨hlater e List.mem_cons_self,
      .inr ⟨later, earlier, hrest, fun e' he' => hlater e' (List.mem_cons_of_mem _ he')⟩⟩

omit [NearPrimitives] [EvmPrimitives] in
/-- A quarantined entry is not read as active. -/
theorem Db.Quarantined.answer_ne {db : Db} {key : RelayerKey} (hkey : db.Quarantined key) {o : Op}
    {env : Env} {gates : ReadinessSnapshot} :
    (⟨o, o.answer env db gates⟩ : Event Op.Answer) ≠ ⟨.store (.relayerIsActive key), .ok true⟩ := by
  intro heq
  obtain ⟨rfl, hanswer⟩ := Event.mk.inj heq
  have hreply : env.fate.reply (.relayerIsActive key) env.now db = .ok true := eq_of_heq hanswer
  have hactive := (Fate.exec_of_reply hreply).1
  change Except.ok (relayerIsActive db key) = _ at hactive
  cases hkey.not_active.symm.trans (Except.ok.inj hactive)

theorem World.Barred.step {w w' : World} {m : Move} {pid : Nat} {key : RelayerKey}
    (h : w.Barred pid key) (hstep : w.Stepped m w') : w'.Barred pid key := by
  refine ⟨hstep.quarantined h.quarantined, fun t' ht' hpid hrow o' next' hcall' hphase hvetted => ?_⟩
  cases hstep.threadStep ht' with
  | kept ht => exact h.unread t' ht hpid hrow hcall' hphase hvetted
  | new role hnew =>
    subst hnew
    exact hphase rfl
  | stopped t ht hstop =>
    subst hstop
    cases hcall'
  | resumed t ht env gates hcall hdb hresume =>
    subst hresume
    rename_i o next
    cases hlocks : o.locks with
    | true =>
      cases o with
      | lockRelayer => exact not_vetted_nil hvetted
      | unlockRelayer => exact hphase rfl
      | _ => cases hlocks
    | false =>
      have hheld : phase t.past ≠ .free := by
        refine fun hfree => hphase (phase_cons_of_free hfree ?_)
        rintro hlock
        rw [show o = .lockRelayer from hlock] at hlocks
        cases hlocks
      change Vetted t.role.state (session (⟨o, o.answer env w.db gates⟩ :: t.past)) at hvetted
      rw [session_cons hlocks] at hvetted
      obtain hread | hvetted := hvetted.of_cons.2
      · rw [show t.role.state.relayerRow = key from hrow] at hread
        exact h.quarantined.answer_ne hread
      · exact h.unread t ht hpid hrow hcall hheld hvetted

/-- Whoever quarantines an entry holds the lock, so no other thread of the process does. -/
theorem World.barred_of_quarantine {moves : List Move} {m : Move} {t : Thread} {key : RelayerKey}
    {reason : String} {nonce : Nat}
    (hissued : (after moves).issued? m = some (t, .store (.quarantineRelayer key reason nonce)))
    (hkey : (after (moves ++ [m])).db.Quarantined key) :
    (after (moves ++ [m])).Barred t.role.process key := by
  refine ⟨hkey, fun s hs hpid hrow o' next' hcall' hphase hvetted => ?_⟩
  obtain ⟨tid, env, p, next, rfl, ht, hp, hcall, hpermits⟩ := exists_of_issued? hissued
  rw [after_concat, step_of_call env ht hp hcall hpermits] at hs
  obtain ⟨i, hi⟩ := List.getElem?_of_mem hs
  obtain ⟨-, rfl⟩ | ⟨hne, hi⟩ | ⟨role, -, -, -, -, rfl⟩ := perform_thread_cases ht hi
  · change Vetted t.role.state (session (⟨.store (.quarantineRelayer key reason nonce), _⟩ :: t.past))
      at hvetted
    rw [session_cons rfl] at hvetted
    cases hvetted.of_cons.1
  · have hexclusive := exclusive_after moves
    have hholder := hexclusive.holder ht hcall hp (held_of_needsLock moves ht hcall rfl)
    have hother := hexclusive.holder hi hcall' (hpid ▸ hp) hphase
    exact hne (Option.some.inj (hother.symm.trans hholder))
  · exact hphase rfl

theorem World.barred_after {moves : List Move} {pid : Nat} {key : RelayerKey}
    (h : (after moves).Barred pid key) (more : List Move) :
    (after (moves ++ more)).Barred pid key :=
  invariant_from (P := fun w => w.Barred pid key) (fun _ _ _ hstep h => h.step hstep) h more

/-- What sends bytes has read the entry of its process as active. -/
theorem World.vetted_of_sends (moves : List Move) {t : Thread} (ht : t ∈ (after moves).threads)
    {query : Query} {next : query.Answer → Service Unit} (hcall : t.program = .call (.ask query) next)
    (hsends : query.sends = true) : Vetted t.role.state (session t.past) := by
  have hjustified := (justified_after moves ht hcall).resolve_left (by simp [Op.locks])
  cases query with
  | nearSend signed =>
    obtain ⟨r, -, hsend, -⟩ := hjustified
    exact hsend.vetted
  | evmSend bytes =>
    obtain ⟨r, hsend, -⟩ := hjustified
    exact hsend.vetted
  | _ => cases hsends

/-- An overrun row is terminal only while the entry of its signer is not active. A quarantined entry
stays quarantined, and after a process has quarantined an entry, it sends no more. -/
theorem quarantine_before_release (moves : List Move) :
    (∀ r ∈ (World.after moves).db.settlements, r.chainKind = .eip155 → r.state.isTerminal = true →
      ∀ burnt, r.tokensBurnt = some burnt → r.reservedYoctoNear < burnt →
        ∃ signer, r.signerAddress = some signer ∧
          relayerIsActive (World.after moves).db ⟨r.network, signer, signer⟩ = false) ∧
    (∀ before rest key, moves = before ++ rest → (World.after before).db.Quarantined key →
      (World.after moves).db.Quarantined key ∧
        relayerIsActive (World.after moves).db key = false) ∧
    ∀ before m mid m' rest t s key reason nonce query, moves = before ++ m :: (mid ++ m' :: rest) →
      (World.after before).issued? m = some (t, .store (.quarantineRelayer key reason nonce)) →
      (World.after (before ++ [m])).db.Quarantined key →
      (World.after (before ++ m :: mid)).issued? m' = some (s, .ask query) →
      s.role.process = t.role.process → query.sends = false := by
  refine ⟨fun r hr hkind hterminal burnt hburnt hover => ?_, ?_, ?_⟩
  · obtain ⟨signer, hsigner, hkey⟩ :=
      World.overrun_quarantined moves r hr hkind hterminal ⟨burnt, hburnt, hover⟩
    exact ⟨signer, hsigner, hkey.not_active⟩
  · rintro before rest key rfl hkey
    have hkey := World.quarantined_after before rest hkey
    exact ⟨hkey, hkey.not_active⟩
  · rintro before m mid m' rest t s key reason nonce query - hissued hkey hissued' hpid
    by_contra hsends
    have hsends : query.sends = true := by simpa using hsends
    have hbarred := World.barred_after (World.barred_of_quarantine hissued hkey) mid
    rw [show before ++ [m] ++ mid = before ++ m :: mid by simp] at hbarred
    obtain ⟨tid, env, p, next, -, hs, -, hcall, -⟩ := World.exists_of_issued? hissued'
    have hmem := List.mem_of_getElem? hs
    -- The threads of a process share its state, so the entry is the one of the sender.
    have hrow : s.role.state.relayerRow = key := by
      obtain ⟨ht, nextQuarantine, hcallQuarantine⟩ := World.issued?_eq_some hissued
      have hquarantine : QuarantineJustified t.role (session t.past) key reason :=
        (World.justified_after before ht hcallQuarantine).store
      rw [hquarantine.key, World.state_eq_of_process ht hmem hpid]
    exact hbarred.unread s hmem hpid hrow hcall
      (World.held_of_needsLock _ hs hcall hsends) (World.vetted_of_sends _ hmem hcall hsends)

end

end X402Facilitator
