import X402Facilitator.System.Calls

/-!
# Races between claims

`claim_settlement` reads up to six times around one insert that five unique indexes may refuse. Which
index refused it and what the other calls do in between does not matter: a call that returns a new row
has inserted it, and the row keeps its keys, so no second call can; a call that returns an existing row
has read it as the caller's own.
-/

namespace X402Facilitator

open Program Service

/-! ## Reading the rows -/

section
variable {client : Uuid} {identifier : String} {hash fingerprint : Hash32}

/-- Rows that only match the payment hash do not hide a conflict, wherever they stand. -/
theorem classifyIdentified_conflict {seen : Bool} {rows : List Settlement}
    (hmem : ∃ r ∈ rows, r.Under client identifier)
    (hother : ∀ r ∈ rows, r.Under client identifier → r.requestFingerprint ≠ fingerprint) :
    classifyIdentified client identifier hash fingerprint seen rows = some .identifierConflict := by
  induction rows generalizing seen with
  | nil =>
    obtain ⟨r, hr, -⟩ := hmem
    cases hr
  | cons row rows ih =>
    simp only [classifyIdentified]
    split
    · rename_i hunder
      rw [if_neg (hother row List.mem_cons_self hunder)]
    · rename_i hunder
      refine ih ?_ fun r hr => hother r (List.mem_cons_of_mem _ hr)
      obtain ⟨r, hr, hunder'⟩ := hmem
      obtain rfl | hr := List.mem_cons.mp hr
      · exact absurd hunder' hunder
      · exact ⟨r, hr, hunder'⟩

/-- The caller's identifier is taken by a row with another fingerprint. -/
def Db.IdentifierTaken (db : Db) (new : NewSettlement) : Prop :=
  ∃ identifier, new.paymentIdentifier = some identifier ∧ ∃ r ∈ db.settlements,
    r.Under new.apiClientId identifier ∧ r.requestFingerprint ≠ new.requestFingerprint

theorem Db.IdentifierTaken.mono {db db' : Db} (h : db.Evolves db') {new : NewSettlement}
    (hnew : db.IdentifierTaken new) : db'.IdentifierTaken new := by
  obtain ⟨identifier, hidentifier, r, hr, ⟨hclient, hunder⟩, hfingerprint⟩ := hnew
  obtain ⟨row, hrow, hevolves⟩ := h.rows r hr
  have hidentity := hevolves.identity
  refine ⟨identifier, hidentifier, row, hrow, ⟨?_, ?_⟩, ?_⟩
  · exact (congrArg RowIdentity.apiClientId hidentity).trans hclient
  · exact (congrArg RowIdentity.paymentIdentifier hidentity).trans hunder
  · exact fun heq => hfingerprint
      ((congrArg RowIdentity.requestFingerprint hidentity).symm.trans heq)

/-- The lookup reports the conflict, whatever other rows it returns and in whatever order. -/
theorem Db.IdentifierTaken.classify {db : Db} {new : NewSettlement} (h : db.IdentifierTaken new)
    {rows : List Settlement}
    (hrows : rows.Perm (selectExisting db new.apiClientId new.paymentIdentifier new.paymentHash)) :
    classifyExisting new.apiClientId new.paymentIdentifier new.paymentHash new.requestFingerprint rows
      = some .identifierConflict := by
  obtain ⟨identifier, hidentifier, r, hr, hunder, hfingerprint⟩ := h
  rw [hidentifier] at hrows ⊢
  refine classifyIdentified_conflict ⟨r, hrows.mem_iff.mpr ?_, hunder⟩ fun r' hr' hunder' => ?_
  · exact List.mem_filter.mpr ⟨hr, by simpa using .inl hunder⟩
  · have hmem := (List.mem_filter.mp (hrows.mem_iff.mp hr')).1
    have hkey {row : Settlement} (hrow : row.Under new.apiClientId identifier) :
        row.paymentIdentifierKey = some (new.apiClientId, identifier) := by
      rw [Settlement.paymentIdentifierKey, hrow.2, ← hrow.1]
      rfl
    rwa [db.constraints.clientPaymentIdentifier.eq_of_key hmem hr (hkey hunder') (hkey hunder)]

end

/-! ## What a claim has seen -/

/-- What a call that returned `outcome` has done. -/
structure ClaimSaw (new : NewSettlement) (outcome : Except StoreError ClaimOutcome)
    (h : History Op.Answer) : Prop where
  claimed : ∀ r, outcome = .ok (.new r) →
    (∃ usageDate, Stored h (.claimReservation new usageDate) ClaimReply.inserted) ∧
      Stored h (.settlement new.id) (some r)
  existing : ∀ r, outcome = .ok (.existing r) → ∃ rows, classifyExisting new.apiClientId
    new.paymentIdentifier new.paymentHash new.requestFingerprint rows = some (.existing r)
  harmless : (∀ r, outcome ≠ .ok (.new r)) →
    (∀ e, outcome = .error e → ∃ source target, e = .transition source target) →
      (∀ e ∈ h, Harmless e) ∨ ∃ e ∈ h, MisreadTransition e

namespace ClaimSaw

variable {new : NewSettlement} {h : History Op.Answer}

theorem error (hh : ∀ e ∈ h, Harmless e) (e : StoreError) : ClaimSaw new (.error e) h :=
  ⟨fun _ h => (by cases h), fun _ h => (by cases h), fun _ _ => .inl hh⟩

/-- An outcome that returns no row. -/
theorem refused (hh : ∀ e ∈ h, Harmless e) {outcome : ClaimOutcome}
    (hnew : ∀ r, outcome ≠ .new r) (hexisting : ∀ r, outcome ≠ .existing r) :
    ClaimSaw new (.ok outcome) h :=
  ⟨fun r h => absurd (Except.ok.inj h) (hnew r), fun r h => absurd (Except.ok.inj h) (hexisting r),
    fun _ _ => .inl hh⟩

/-- What the lookup returned is returned. -/
theorem found (hh : ∀ e ∈ h, Harmless e) {rows : List Settlement} {outcome : ClaimOutcome}
    (hfound : classifyExisting new.apiClientId new.paymentIdentifier new.paymentHash
      new.requestFingerprint rows = some outcome) : ClaimSaw new (.ok outcome) h := by
  refine ⟨fun r hnew => ?_, fun r hr => ⟨rows, by rw [hfound, Except.ok.inj hr]⟩, fun _ _ => .inl hh⟩
  rw [Except.ok.inj hnew] at hfound
  exact absurd hfound (classifyExisting_ne_new _ _ _)

end ClaimSaw

section
variable {new : NewSettlement} {h : History Op.Answer}

/-- Reads are allowed, and everything else: only the outcome is of interest here. -/
def Anything (_ : History Op.Answer) (_ : Op) : Prop := True

theorem harmless_cons {e : Event Op.Answer} (he : Harmless e) (hh : ∀ e ∈ h, Harmless e) :
    ∀ e' ∈ e :: h, Harmless e' :=
  List.forall_mem_cons.mpr ⟨he, hh⟩

theorem harmless_read {op : StoreOp} (hop : op.reads = true) (answer : Except StoreError op.Reply) :
    Harmless ⟨.store op, answer⟩ := by
  cases answer with
  | error e => cases op <;> exact .inl hop
  | ok reply => cases op <;> first | exact hop | cases hop

theorem findExistingSettlement_saw (hh : ∀ e ∈ h, Harmless e) :
    (findExistingSettlement new.apiClientId new.paymentIdentifier new.paymentHash
      new.requestFingerprint).Obeys Anything h fun result h' => (∀ e ∈ h', Harmless e) ∧
        ∀ outcome, result = .ok (some outcome) → ∃ rows, classifyExisting new.apiClientId
          new.paymentIdentifier new.paymentHash new.requestFingerprint rows = some outcome := by
  refine .step trivial fun reply => ?_
  have hh' := harmless_cons (harmless_read rfl reply) hh
  match reply with
  | .error e => exact .pure ⟨hh', fun _ h => by cases h⟩
  | .ok rows => exact .pure ⟨hh', fun _ h => ⟨rows, Except.ok.inj h⟩⟩

theorem findExistingOr_saw {otherwise : Service (Except StoreError ClaimOutcome)}
    (hh : ∀ e ∈ h, Harmless e)
    (hotherwise : ∀ h', (∀ e ∈ h', Harmless e) → otherwise.Obeys Anything h' (ClaimSaw new)) :
    (findExistingOr new otherwise).Obeys Anything h (ClaimSaw new) := by
  refine .bind (findExistingSettlement_saw hh) fun result h' _ ⟨hh', hfound⟩ => ?_
  match result with
  | .error e => exact .pure (.error hh' e)
  | .ok none => exact hotherwise h' hh'
  | .ok (some outcome) =>
    obtain ⟨rows, hrows⟩ := hfound outcome rfl
    exact .pure (.found hh' hrows)

theorem activeEvmSigner_saw (hh : ∀ e ∈ h, Harmless e) :
    (activeEvmSigner new).Obeys Anything h fun _ h' => ∀ e ∈ h', Harmless e := by
  unfold activeEvmSigner
  split
  · exact .perform trivial fun reply => harmless_cons (harmless_read rfl reply) hh
  · exact .pure hh

theorem claimConflicted_saw (hh : ∀ e ∈ h, Harmless e) :
    (claimConflicted new).Obeys Anything h (ClaimSaw new) := by
  refine findExistingOr_saw hh fun h₁ hh₁ => .step trivial fun reply => ?_
  have hh₂ := harmless_cons (harmless_read rfl reply) hh₁
  match reply with
  | .error e => exact .pure (.error hh₂ e)
  | .ok true => exact .pure (.refused hh₂ (by simp) (by simp))
  | .ok false =>
    refine .bind (activeEvmSigner_saw hh₂) fun active h₃ _ hh₃ => ?_
    match active with
    | .error e => exact .pure (.error hh₃ e)
    | .ok true => exact .pure (.refused hh₃ (by simp) (by simp))
    | .ok false => exact .pure (.error hh₃ _)

theorem claimNew_saw (hh : ∀ e ∈ h, Harmless e) :
    (claimNew new).Obeys Anything h (ClaimSaw new) := by
  refine .step trivial fun usageDate => .step trivial fun reply => ?_
  have hh₁ := harmless_cons (e := ⟨.ask .utcToday, usageDate⟩) trivial hh
  cases reply with
  | error e =>
    refine .pure ⟨fun _ h => (by cases h), fun _ h => (by cases h), fun _ htransition => .inl ?_⟩
    exact harmless_cons (.inr (htransition e rfl)) hh₁
  | ok reply =>
    cases reply with
    | conflicted =>
      exact claimConflicted_saw (harmless_cons (by simp [Harmless, StoreOp.Refused]) hh₁)
    | budgetExceeded =>
      exact .pure (.refused (harmless_cons (by simp [Harmless, StoreOp.Refused]) hh₁) (by simp)
        (by simp))
    | inserted =>
      refine .step trivial fun read => ?_
      cases read with
      | error e =>
        refine .pure ⟨fun _ h => (by cases h), fun _ h => (by cases h), fun _ htransition => .inr ?_⟩
        obtain ⟨source, target, rfl⟩ := htransition e rfl
        exact ⟨_, List.mem_cons_self, rfl, source, target, rfl⟩
      | ok row =>
        cases row with
        | none =>
          refine .pure ⟨fun _ h => (by cases h), fun _ h => (by cases h), fun _ htransition => ?_⟩
          obtain ⟨source, target, h⟩ := htransition _ rfl
          cases h
        | some record =>
          refine .pure ⟨fun r hr => ?_, fun _ h => (by cases h), fun hnew =>
            absurd rfl (hnew record)⟩
          obtain rfl := ClaimOutcome.new.inj (Except.ok.inj hr)
          exact ⟨⟨usageDate, by simp [Stored]⟩, List.mem_cons_self⟩

/-- What `claim_settlement` returns is borne out by what it has done. -/
theorem claimSettlement_saw (new : NewSettlement) :
    (claimSettlement new).Obeys Anything [] (ClaimSaw new) := by
  have hnil : ∀ e ∈ ([] : History Op.Answer), Harmless e := by simp
  unfold claimSettlement
  split
  · exact .pure (.error hnil _)
  refine findExistingOr_saw hnil fun h₁ hh₁ => .step trivial fun reply => ?_
  have hh₂ := harmless_cons (harmless_read rfl reply) hh₁
  match reply with
  | .error e => exact .pure (.error hh₂ e)
  | .ok true =>
    exact findExistingOr_saw hh₂ fun h₃ hh₃ => .pure (.refused hh₃ (by simp) (by simp))
  | .ok false =>
    refine .bind (activeEvmSigner_saw hh₂) fun active h₃ _ hh₃ => ?_
    match active with
    | .error e => exact .pure (.error hh₃ e)
    | .ok true =>
      exact findExistingOr_saw hh₃ fun h₄ hh₄ => .pure (.refused hh₄ (by simp) (by simp))
    | .ok false => exact claimNew_saw hh₃

end

/-! ## Every interleaving -/

/-- The call has inserted the row `id`. -/
def CallState.Inserted (s : CallState) (id : Uuid) : Prop :=
  ∃ new usageDate, new.id = id ∧ Stored s.past (.claimReservation new usageDate) ClaimReply.inserted

namespace Calls

/-- An insert that succeeds finds no row with its id. -/
theorem fresh_of_inserted {c : Calls} {s : CallState} {env : Env} {order : RowOrder} {o : Op}
    {next : o.Answer → Service (Except StoreError s.call.Outcome)} {id : Uuid}
    (h : (s.resume c.db env order o next).Inserted id) (hold : ¬ s.Inserted id) :
    ∀ row ∈ c.db.settlements, row.id ≠ id := by
  obtain ⟨new, usageDate, rfl, hstored⟩ := h
  obtain hnew | hpast := List.mem_cons.mp hstored
  · obtain ⟨rfl, hanswer⟩ := Event.mk.inj hnew
    have hreply : env.fate.reply (.claimReservation new usageDate) env.now c.db
        = .ok ClaimReply.inserted := (eq_of_heq hanswer).symm
    cases hfate : env.fate with
    | replyLost | failed =>
      rw [hfate] at hreply
      cases hreply
    | replied =>
      rw [hfate] at hreply
      obtain ⟨-, hclaimed⟩ | ⟨hne, -⟩ := claimReservation_ok (Txn.exec_ok hreply)
      · intro row hrow hid
        have hunique := ((claimReservation new usageDate env.now).exec c.db).2.constraints.primaryKey
        rw [hclaimed.settlements] at hunique
        exact hunique.of_concat hrow rfl (congrArg some hid.symm)
      · exact absurd rfl hne
  · exact absurd ⟨new, usageDate, rfl, hpast⟩ hold

/-- No two calls insert one row. -/
theorem inserted_unique (moves : List CallMove) : ∀ (i j : Nat) (s s' : CallState) (id : Uuid),
    (after moves).calls[i]? = some s → (after moves).calls[j]? = some s' → s.Inserted id →
      s'.Inserted id → i = j := by
  induction moves using List.reverseRecOn with
  | nil => simp [after, init]
  | append_singleton moves m ih =>
    rw [after_concat]
    have hstep := (after moves).stepped m
    generalize (after moves).step m = c' at hstep ⊢
    have hnone {call : PgCall} {db : Db} {id : Uuid} :
        ¬ CallState.Inserted ⟨call, db, call.program, []⟩ id := by
      rintro ⟨new, usageDate, -, hstored⟩
      cases hstored
    -- A call that has inserted the row is witness that the row is in the table.
    have hrow {s : CallState} (hs : s ∈ (after moves).calls) {id : Uuid} (h : s.Inserted id) :
        ∃ row ∈ (after moves).db.settlements, row.id = id := by
      obtain ⟨new, usageDate, rfl, hstored⟩ := h
      obtain ⟨now, hwitnessed⟩ := attested_after moves s hs _ _ hstored rfl
      obtain ⟨row, hrow, hevolves⟩ := hwitnessed.row
      exact ⟨row, hrow, hevolves.id_eq⟩
    cases hstep with
    | idle => exact ih
    | begun call =>
      intro i j s s' id hi hj hs hs'
      obtain hi | ⟨-, rfl⟩ := Pool.getElem?_concat_cases hi
      · obtain hj | ⟨-, rfl⟩ := Pool.getElem?_concat_cases hj
        · exact ih i j s s' id hi hj hs hs'
        · exact absurd hs' hnone
      · exact absurd hs hnone
    | advanced env order hk hcall =>
      rename_i k s₀ o next
      have hlt := (List.getElem?_eq_some_iff.mp hk).1
      -- The advanced call inserted the row before, or the row was in no table before.
      have hnew {j : Nat} {s' : CallState} {id : Uuid} (hj : (after moves).calls[j]? = some s')
          (hs : (s₀.resume (after moves).db env order o next).Inserted id) (hs' : s'.Inserted id) :
          k = j := by
        by_cases hold : s₀.Inserted id
        · exact ih k j s₀ s' id hk hj hold hs'
        · obtain ⟨row, hmem, hid⟩ := hrow (List.mem_of_getElem? hj) hs'
          exact absurd hid (fresh_of_inserted hs hold row hmem)
      intro i j s s' id hi hj hs hs'
      obtain ⟨rfl, rfl⟩ | ⟨-, hi'⟩ := Pool.getElem?_set_cases hlt hi <;>
        obtain ⟨rfl, rfl⟩ | ⟨-, hj'⟩ := Pool.getElem?_set_cases hlt hj
      · rfl
      · exact hnew hj' hs hs'
      · exact (hnew hi' hs' hs).symm
      · exact ih i j s s' id hi' hj' hs hs'

/-- A call that returned a new row has inserted it: the row in the table is the caller's. -/
theorem exists_row_of_new (moves : List CallMove) {s : CallState} (hs : s ∈ (after moves).calls)
    {new : NewSettlement} {r : Settlement} (h : s.Returned (.claim new) (.ok (.new r))) :
    s.Inserted new.id ∧ ∃ row ∈ (after moves).db.settlements, ∃ usageDate now,
      row.identity = (new.row usageDate now).identity ∧ r.identity = row.identity := by
  obtain ⟨⟨usageDate, hinserted⟩, hread⟩ :=
    (returned_after (claimSettlement_saw new) moves hs h).claimed r rfl
  have hattested := attested_after moves s hs
  obtain ⟨now, hwitnessed⟩ := hattested _ _ hinserted rfl
  obtain ⟨hid, hwitnessed'⟩ := hattested _ _ hread r rfl
  obtain ⟨row, hrow, hevolves⟩ := hwitnessed.row
  refine ⟨⟨new, usageDate, rfl, hinserted⟩, row, hrow, usageDate, now, hevolves.identity, ?_⟩
  rw [hwitnessed'.identity_eq hwitnessed hid, hevolves.identity]

/-- Two calls that both returned a new row have different keys in every unique index over what they
were asked to claim. -/
theorem new_unique (moves : List CallMove) {κ : Type} {key : Settlement → Option κ}
    (hunique : Table.UniqueOn key (after moves).db.settlements)
    (hkey : ∀ r r' : Settlement, r.identity = r'.identity → key r = key r') {i j : Nat}
    {s s' : CallState} (hi : (after moves).calls[i]? = some s)
    (hj : (after moves).calls[j]? = some s') {new new' : NewSettlement} {r r' : Settlement}
    (h : s.Returned (.claim new) (.ok (.new r))) (h' : s'.Returned (.claim new') (.ok (.new r')))
    {k : κ} (hk : ∀ usageDate now, key (new.row usageDate now) = some k)
    (hk' : ∀ usageDate now, key (new'.row usageDate now) = some k) : i = j := by
  obtain ⟨hinserted, row, hrow, usageDate, now, hidentity, -⟩ :=
    exists_row_of_new moves (List.mem_of_getElem? hi) h
  obtain ⟨hinserted', row', hrow', usageDate', now', hidentity', -⟩ :=
    exists_row_of_new moves (List.mem_of_getElem? hj) h'
  have hsame : row = row' := hunique.eq_of_key hrow hrow'
    ((hkey _ _ hidentity).trans (hk usageDate now)) ((hkey _ _ hidentity').trans (hk' usageDate' now'))
  have hid : new.id = new'.id := by
    have hid := congrArg RowIdentity.id hidentity
    rw [hsame, congrArg RowIdentity.id hidentity' |>.trans rfl] at hid
    exact hid.symm
  exact inserted_unique moves i j s s' new.id hi hj hinserted (hid ▸ hinserted')

end Calls

/-- The first statement of a claim decides it when the lookup finds something. -/
theorem claimSettlement_first {new : NewSettlement} (hcanonical : metadataIsCanonical new = true) :
    ∃ next, claimSettlement new = .call (.store (.selectExisting new.apiClientId
        new.paymentIdentifier new.paymentHash)) next ∧
      (∀ e, next (.error e) = .done (.error e)) ∧
      ∀ rows outcome, classifyExisting new.apiClientId new.paymentIdentifier new.paymentHash
        new.requestFingerprint rows = some outcome → next (.ok rows) = .done (.ok outcome) := by
  rw [claimSettlement, if_neg (by simp [hcanonical])]
  refine ⟨_, rfl, fun e => rfl, fun rows outcome h => ?_⟩
  change (Program.done (.ok (classifyExisting new.apiClientId new.paymentIdentifier new.paymentHash
    new.requestFingerprint rows)) : Service (Except StoreError (Option ClaimOutcome))).bind _ = _
  rw [h]
  rfl

namespace Calls

/-- The answer to the lookup, when the identifier is taken. -/
theorem lookup_taken {db : Db} {new : NewSettlement} (htaken : db.IdentifierTaken new) {env : Env}
    (hfate : env.fate = .replied) (order : RowOrder) :
    ∃ rows, order.answer env db (.store (.selectExisting new.apiClientId new.paymentIdentifier
        new.paymentHash)) = .ok rows ∧
      classifyExisting new.apiClientId new.paymentIdentifier new.paymentHash new.requestFingerprint
        rows = some .identifierConflict := by
  refine ⟨_, ?_, htaken.classify (order.perm _)⟩
  simp only [RowOrder.answer, RowOrder.reply, hfate, Fate.reply]
  rfl

/-- A claim whose identifier was taken when it began has done nothing yet, has returned the conflict,
or its statement has failed. -/
theorem conflict_after (moves : List CallMove) {new : NewSettlement} :
    ∀ s ∈ (after moves).calls, s.call = .claim new → s.began.IdentifierTaken new →
      s = ⟨.claim new, s.began, claimSettlement new, []⟩ ∨
        s.Returned (.claim new) (.ok .identifierConflict) ∨
        ∃ e, s.Returned (.claim new) (.error e) ∧
          ⟨.store (.selectExisting new.apiClientId new.paymentIdentifier new.paymentHash),
            .error e⟩ ∈ s.past := by
  induction moves using List.reverseRecOn with
  | nil => simp [after, init]
  | append_singleton moves m ih =>
    rw [after_concat]
    have hstep := (after moves).stepped m
    intro s' hs' hcall htaken
    generalize (after moves).step m = c' at hstep hs'
    cases hstep with
    | idle => exact ih s' hs' hcall htaken
    | begun call =>
      obtain hs' | hs' := List.mem_append.mp hs'
      · exact ih s' hs' hcall htaken
      · obtain rfl := List.mem_singleton.mp hs'
        obtain rfl : call = .claim new := hcall
        exact .inl rfl
    | advanced env order hs hprogram =>
      rename_i i s o next
      obtain hs' | rfl := List.mem_or_eq_of_mem_set hs'
      · exact ih s' hs' hcall htaken
      have hmem := List.mem_of_getElem? hs
      have hdb := htaken.mono (began_evolves moves s hmem)
      have hbefore := ih s hmem hcall htaken
      obtain ⟨call, began, program, statements⟩ := s
      obtain hfresh | ⟨began', statements', h⟩ | ⟨e, ⟨began', statements', h⟩, -⟩ := hbefore
      · cases hfresh
        by_cases hcanonical : metadataIsCanonical new = true
        · obtain ⟨first, hfirst, herror, hfound⟩ := claimSettlement_first hcanonical
          cases hfirst.symm.trans hprogram
          cases hfate : env.fate with
          | replied =>
            obtain ⟨rows, hanswer, hrows⟩ := lookup_taken hdb hfate order
            exact .inr (.inl (CallState.resume_returned (by rw [hanswer, hfound rows _ hrows])))
          | replyLost | failed =>
            have hanswer : order.answer env (after moves).db (.store (.selectExisting
                new.apiClientId new.paymentIdentifier new.paymentHash))
                = .error (.database .unavailable) := by
              simp only [RowOrder.answer, RowOrder.reply, hfate, Fate.reply]
              rfl
            refine .inr (.inr ⟨_, CallState.resume_returned (by rw [hanswer, herror]), ?_⟩)
            rw [← hanswer]
            exact List.mem_cons_self
        · rw [claimSettlement, if_pos hcanonical] at hprogram
          cases hprogram
      · cases h
        cases hprogram
      · cases h
        cases hprogram

end Calls

/-- Concurrent claims, interleaved statement by statement with anything else the store does. At most
one call returns a new row for a payment hash, for an anchor and for an identifier of a client. A row
that a call returns as existing belongs to the calling client and carries its fingerprint, and its
identifier when it gave one; a new row is the caller's own. A call that begins after its identifier
was taken for another request returns nothing but the conflict, whatever else the lookup finds and in
whatever order: its first answered statement returns it. -/
theorem claim_races (moves : List CallMove) :
    (∀ (i j : Nat) (s s' : CallState) new new' r r', (Calls.after moves).calls[i]? = some s →
      (Calls.after moves).calls[j]? = some s' → s.Returned (.claim new) (.ok (.new r)) →
      s'.Returned (.claim new') (.ok (.new r')) →
      new.paymentHash = new'.paymentHash ∨
        (new.anchorScope = new'.anchorScope ∧ new.anchorValue = new'.anchorValue) ∨
        (new.apiClientId = new'.apiClientId ∧ ∃ identifier,
          new.paymentIdentifier = some identifier ∧ new'.paymentIdentifier = some identifier) →
      i = j) ∧
    (∀ s ∈ (Calls.after moves).calls, ∀ new r, s.Returned (.claim new) (.ok (.existing r)) →
      r.apiClientId = new.apiClientId ∧ r.requestFingerprint = new.requestFingerprint ∧
      ∀ identifier, new.paymentIdentifier = some identifier →
        r.paymentIdentifier = some identifier) ∧
    (∀ s ∈ (Calls.after moves).calls, ∀ new r, s.Returned (.claim new) (.ok (.new r)) →
      r.id = new.id ∧ r.apiClientId = new.apiClientId ∧ r.paymentHash = new.paymentHash ∧
      r.requestFingerprint = new.requestFingerprint) ∧
    ∀ (i : Nat) (s : CallState) new, (Calls.after moves).calls[i]? = some s → s.call = .claim new →
      s.began.IdentifierTaken new →
      (∀ outcome, s.Returned (.claim new) (.ok outcome) → outcome = .identifierConflict) ∧
      (s.statements = [] → metadataIsCanonical new = true → ∀ env order, env.fate = .replied →
        ∃ s', ((Calls.after moves).step (.advance i env order)).calls[i]? = some s' ∧
          s'.Returned (.claim new) (.ok .identifierConflict)) := by
  refine ⟨?_, ?_, ?_, ?_⟩
  · intro i j s s' new new' r r' hi hj h h' hkeys
    have hrows := (Calls.after moves).db.constraints
    obtain hhash | ⟨hscope, hvalue⟩ | ⟨hclient, identifier, hidentifier, hidentifier'⟩ := hkeys
    · exact Calls.new_unique moves hrows.paymentHash
        (fun _ _ h => congrArg (fun x => some x.paymentHash) h) hi hj h h' (fun _ _ => rfl)
        fun _ _ => congrArg some hhash.symm
    · exact Calls.new_unique moves hrows.anchor
        (fun _ _ h => congrArg (fun x => some (x.anchorScope, x.anchorValue)) h) hi hj h h'
        (k := (new.anchorScope, new.anchorValue)) (fun _ _ => rfl)
        fun _ _ => by rw [hscope, hvalue]; rfl
    · refine Calls.new_unique moves (k := (new.apiClientId, identifier))
        hrows.clientPaymentIdentifier (fun _ _ h => congrArg
          (fun x => x.paymentIdentifier.map fun identifier => (x.apiClientId, identifier)) h) hi hj h h'
        (fun _ _ => ?_) fun _ _ => ?_
      · simp [Settlement.paymentIdentifierKey, NewSettlement.row, hidentifier]
      · simp [Settlement.paymentIdentifierKey, NewSettlement.row, hidentifier', hclient]
  · intro s hs new r h
    obtain ⟨rows, hrows⟩ :=
      (Calls.returned_after (claimSettlement_saw new) moves hs h).existing r rfl
    exact classifyExisting_existing hrows
  · intro s hs new r h
    obtain ⟨-, row, -, usageDate, now, hidentity, hr⟩ := Calls.exists_row_of_new moves hs h
    have hown := hr.trans hidentity
    exact ⟨congrArg RowIdentity.id hown, congrArg RowIdentity.apiClientId hown,
      congrArg RowIdentity.paymentHash hown, congrArg RowIdentity.requestFingerprint hown⟩
  · intro i s new hi hcall htaken
    have hs := List.mem_of_getElem? hi
    have hcases := Calls.conflict_after moves s hs hcall htaken
    have hdb := htaken.mono (Calls.began_evolves moves s hs)
    obtain ⟨call, began, program, statements⟩ := s
    obtain rfl : call = .claim new := hcall
    refine ⟨fun outcome h => ?_, fun hstatements hcanonical env order hfate => ?_⟩
    · obtain ⟨began', statements', h⟩ := h
      cases h
      obtain h | ⟨_, _, h⟩ | ⟨e, ⟨_, _, h⟩, -⟩ := hcases
      · -- A claim that has done nothing has returned nothing but a refusal of its input.
        by_cases hcanonical : metadataIsCanonical new = true
        · obtain ⟨first, hfirst, -⟩ := claimSettlement_first hcanonical
          cases (eq_of_heq (CallState.mk.inj h).2.2.1).trans hfirst
        · have hprogram := eq_of_heq (CallState.mk.inj h).2.2.1
          rw [claimSettlement, if_pos hcanonical] at hprogram
          cases hprogram
      · cases h
        rfl
      · cases h
    · obtain rfl : program = claimSettlement new := Calls.fresh_after moves _ hs hstatements
      obtain ⟨first, hfirst, -, hfound⟩ := claimSettlement_first hcanonical
      obtain ⟨rows, hanswer, hrows⟩ := Calls.lookup_taken hdb hfate order
      rw [hfirst] at hi
      have hstep : ((Calls.after moves).step (.advance i env order)).calls[i]? =
          some (CallState.resume ⟨.claim new, began, .call _ first, statements⟩ (Calls.after moves).db
            env order _ first) := by
        simp only [Calls.step, hi]
        exact List.getElem?_set_self (List.getElem?_eq_some_iff.mp hi).1
      exact ⟨_, hstep,
        CallState.resume_returned ((congrArg first hanswer).trans (hfound rows _ hrows))⟩

end X402Facilitator
