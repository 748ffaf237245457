import X402Facilitator.System.Claims

/-!
# Lost inserts

An insert of `claim_settlement` that a unique index refuses is explained by three reads that follow
it. What the first two look for stays in the table. The third one looks for an active row of the same
signer, and such a row can be released or finished in between: then nothing explains the refusal, and
the call reports a corrupt journal.
-/

namespace X402Facilitator

open Program Service

/-! ## The refused insert -/

theorem insertSettlement_refused {row : Settlement} {db db' : Db}
    (h : (insertSettlement row).run db = .ok (false, db')) :
    row.Checks ∧ ¬ Constraints (db.settlements ++ [row]) := by
  dsimp only [insertSettlement] at h
  split at h
  · cases h
  · rename_i hchecks
    split at h
    · split at h
      · cases congrArg Prod.fst (Except.ok.inj h)
      · cases h
    · exact ⟨not_not.mp hchecks, ‹_›⟩

theorem claimReservation_conflicted {new : NewSettlement} {usageDate : Day} {createdAt : Nat}
    {db db' : Db}
    (h : (claimReservation new usageDate createdAt).run db = .ok (.conflicted, db')) :
    (new.row usageDate createdAt).Checks ∧
      ¬ Constraints (db.settlements ++ [new.row usageDate createdAt]) := by
  rw [claimReservation, Txn.bind_ok] at h
  obtain ⟨before, db₀, hget, h⟩ := h
  obtain ⟨rfl, rfl⟩ := Txn.get_ok.mp hget
  rw [Txn.bind_ok] at h
  obtain ⟨inserted, db₁, hinsert, h⟩ := h
  cases inserted with
  | false => exact insertSettlement_refused hinsert
  | true =>
    rw [if_pos rfl, Txn.bind_ok] at h
    obtain ⟨granted, db₂, -, h⟩ := h
    cases granted with
    | true =>
      rw [if_pos rfl, Txn.bind_ok] at h
      obtain ⟨_, db₃, -, h⟩ := h
      cases (Txn.pure_ok.mp h).1
    | false =>
      rw [if_neg (by decide), Txn.bind_ok] at h
      obtain ⟨_, db₃, -, h⟩ := h
      cases (Txn.pure_ok.mp h).1

/-- The lookup of the claim returns a row. -/
def Db.Found (db : Db) (new : NewSettlement) : Prop :=
  ∃ r ∈ db.settlements, r.paymentHash = new.paymentHash ∨
    ∃ identifier, new.paymentIdentifier = some identifier ∧ r.Under new.apiClientId identifier

/-- The anchor of the claim is taken. -/
def Db.Anchored (db : Db) (new : NewSettlement) : Prop :=
  ∃ r ∈ db.settlements, r.anchorScope = new.anchorScope ∧ r.anchorValue = new.anchorValue

/-- The signer of the claim has an active row. -/
def Db.slotTaken (db : Db) (new : NewSettlement) : Bool :=
  match new.chainKind, new.signerAddress with
  | .eip155, some signer => activeEvmSignerExists db new.network signer
  | _, _ => false

theorem Db.Found.mono {db db' : Db} (h : db.Evolves db') {new : NewSettlement}
    (hfound : db.Found new) : db'.Found new := by
  obtain ⟨r, hr, hkey⟩ := hfound
  obtain ⟨row, hrow, hevolves⟩ := h.rows r hr
  have hidentity := hevolves.identity
  refine ⟨row, hrow, hkey.imp (congrArg RowIdentity.paymentHash hidentity).trans ?_⟩
  rintro ⟨identifier, hidentifier, hclient, hunder⟩
  exact ⟨identifier, hidentifier, (congrArg RowIdentity.apiClientId hidentity).trans hclient,
    (congrArg RowIdentity.paymentIdentifier hidentity).trans hunder⟩

theorem Db.Anchored.mono {db db' : Db} (h : db.Evolves db') {new : NewSettlement}
    (hanchored : db.Anchored new) : db'.Anchored new := by
  obtain ⟨r, hr, hscope, hvalue⟩ := hanchored
  obtain ⟨row, hrow, hevolves⟩ := h.rows r hr
  exact ⟨row, hrow, (congrArg RowIdentity.anchorScope hevolves.identity).trans hscope,
    (congrArg RowIdentity.anchorValue hevolves.identity).trans hvalue⟩

/-- A row with a fresh id that no index refuses can be inserted. -/
theorem exists_reason {new : NewSettlement} {usageDate : Day} {createdAt : Nat} {db db' : Db}
    (hfresh : ∀ r ∈ db.settlements, r.id ≠ new.id)
    (h : (claimReservation new usageDate createdAt).run db = .ok (.conflicted, db')) :
    db.Found new ∨ db.Anchored new ∨ db.slotTaken new = true := by
  obtain ⟨hchecks, hrefused⟩ := claimReservation_conflicted h
  by_contra hnone
  obtain ⟨hfound, hnone⟩ := not_or.mp hnone
  obtain ⟨hanchored, hslot⟩ := not_or.mp hnone
  refine hrefused {
    checks := List.forall_mem_append.mpr ⟨db.constraints.checks, List.forall_mem_singleton.mpr hchecks⟩
    primaryKey := db.constraints.primaryKey.concat fun r hr k hk hk' => ?_
    paymentHash := db.constraints.paymentHash.concat fun r hr k hk hk' => ?_
    clientPaymentIdentifier := db.constraints.clientPaymentIdentifier.concat fun r hr k hk hk' => ?_
    relayerNonce := db.constraints.relayerNonce.concat fun r hr k hk hk' => ?_
    anchor := db.constraints.anchor.concat fun r hr k hk hk' => ?_
    evmActiveSigner := db.constraints.evmActiveSigner.concat fun r hr k hk hk' => ?_
    evmSignerNonce := db.constraints.evmSignerNonce.concat fun r hr k hk hk' => ?_ }
  · exact hfresh r hr (Option.some.inj (Eq.trans hk (Eq.symm hk')))
  · exact hfound ⟨r, hr, .inl (Option.some.inj (Eq.trans hk (Eq.symm hk')))⟩
  · obtain ⟨identifier, hidentifier, rfl⟩ := Option.map_eq_some_iff.mp hk'
    obtain ⟨identifier', hidentifier', heq⟩ := Option.map_eq_some_iff.mp hk
    obtain ⟨hclient, rfl⟩ := Prod.mk.inj heq
    exact hfound ⟨r, hr, .inr ⟨identifier', hidentifier, hclient, hidentifier'⟩⟩
  -- A row that is being inserted has no nonce.
  · cases hk'
  · obtain ⟨hscope, hvalue⟩ := Prod.mk.inj (Option.some.inj (Eq.trans hk (Eq.symm hk')))
    exact hanchored ⟨r, hr, hscope, hvalue⟩
  · refine hslot ?_
    have hkey : (new.row usageDate createdAt).evmActiveSignerKey = some k := hk'
    rw [Settlement.evmActiveSignerKey, Option.ite_none_right_eq_some] at hkey
    obtain ⟨⟨hkind, -⟩, hmap⟩ := hkey
    obtain ⟨signer, hsigner, rfl⟩ := Option.map_eq_some_iff.mp hmap
    rw [Db.slotTaken, show new.chainKind = .eip155 from hkind,
      show new.signerAddress = some signer from hsigner]
    exact List.any_eq_true.mpr ⟨r, hr, decide_eq_true hk⟩
  · have hkey : (new.row usageDate createdAt).evmSignerNonceKey = none := by
      unfold Settlement.evmSignerNonceKey
      split <;> rfl
    cases hkey.symm.trans hk'

/-! ## Looking for the reason -/

/-- The error of a lost insert that nothing explains. -/
def notVisible : StoreError :=
  .corrupt "settlement insert conflicted but conflicting row was not visible"

/-- What a lost insert is reported as. -/
def ClaimOutcome.explains : ClaimOutcome → Bool
  | existing _ | identifierConflict | duplicateSettlement | settlementBusy => true
  | new _ | budgetExceeded => false

/-- The end of `claim_settlement`, from the lookup of the signer's active row. -/
def explainSlot (new : NewSettlement) : Service (Except StoreError ClaimOutcome) := do
  match ← activeEvmSigner new with
  | .error e => return .error e
  | .ok true => return .ok .settlementBusy
  | .ok false => return .error notVisible

/-- The end of `claim_settlement`, from the lookup of the anchor. -/
def explainAnchor (new : NewSettlement) : Service (Except StoreError ClaimOutcome) := do
  match ← store (.anchorIsClaimed new.anchorScope new.anchorValue) with
  | .error e => return .error e
  | .ok true => return .ok .duplicateSettlement
  | .ok false => explainSlot new

theorem findExistingOr_eq (new : NewSettlement)
    (otherwise : Service (Except StoreError ClaimOutcome)) :
    findExistingOr new otherwise = .call (.store (.selectExisting new.apiClientId
      new.paymentIdentifier new.paymentHash)) fun
        | .error e => .done (.error e)
        | .ok rows =>
          match classifyExisting new.apiClientId new.paymentIdentifier new.paymentHash
              new.requestFingerprint rows with
          | some outcome => .done (.ok outcome)
          | none => otherwise := by
  refine congrArg (Program.call _) (funext fun reply => ?_)
  cases reply with
  | error e => rfl
  | ok rows =>
    change (Program.done (.ok (classifyExisting new.apiClientId new.paymentIdentifier
      new.paymentHash new.requestFingerprint rows)) :
        Service (Except StoreError (Option ClaimOutcome))).bind _ = _
    dsimp only
    generalize classifyExisting new.apiClientId new.paymentIdentifier new.paymentHash
      new.requestFingerprint rows = found
    cases found <;> rfl

theorem claimConflicted_eq (new : NewSettlement) :
    claimConflicted new = findExistingOr new (explainAnchor new) := rfl

theorem explainAnchor_eq (new : NewSettlement) :
    explainAnchor new = .call (.store (.anchorIsClaimed new.anchorScope new.anchorValue)) fun
      | .error e => .done (.error e)
      | .ok true => .done (.ok .duplicateSettlement)
      | .ok false => explainSlot new := by
  refine congrArg (Program.call _) (funext fun reply => ?_)
  match reply with
  | .error e => rfl
  | .ok true => rfl
  | .ok false => rfl

theorem explainSlot_eq {new : NewSettlement} {db : Db} (h : db.slotTaken new = true) :
    ∃ signer, activeEvmSignerExists db new.network signer = true ∧
      explainSlot new = .call (.store (.activeEvmSignerExists new.network signer)) fun
        | .error e => .done (.error e)
        | .ok true => .done (.ok .settlementBusy)
        | .ok false => .done (.error notVisible) := by
  unfold Db.slotTaken at h
  split at h
  · rename_i signer hkind hsigner
    refine ⟨signer, h, ?_⟩
    rw [explainSlot, activeEvmSigner, hkind, hsigner]
    refine congrArg (Program.call _) (funext fun reply => ?_)
    match reply with
    | .error e => rfl
    | .ok true => rfl
    | .ok false => rfl
  · cases h

/-- Where a claim that lost its insert can be, with what the database still shows of the reason. -/
inductive Explaining (new : NewSettlement) (db : Db) :
    Service (Except StoreError ClaimOutcome) → Prop
  | lookup (h : db.Found new ∨ db.Anchored new ∨ db.slotTaken new = true) :
      Explaining new db (claimConflicted new)
  | anchor (h : db.Anchored new ∨ db.slotTaken new = true) : Explaining new db (explainAnchor new)
  | slot (h : db.slotTaken new = true) : Explaining new db (explainSlot new)
  | explained {outcome : ClaimOutcome} (h : outcome.explains = true) :
      Explaining new db (.done (.ok outcome))
  | unavailable : Explaining new db (.done (.error (.database .unavailable)))

/-- The program has not ended. -/
def Running {α : Type} : Service α → Bool
  | .done _ => false
  | .call .. => true

/-- Others can take the reason away only by freeing the signer's slot. -/
theorem Explaining.mono {new : NewSettlement} {db db' : Db}
    {program : Service (Except StoreError ClaimOutcome)} (h : Explaining new db program)
    (hevolves : db.Evolves db')
    (hslot : Running program = true → db.slotTaken new = true → db'.slotTaken new = true) :
    Explaining new db' program := by
  cases h with
  | lookup h =>
    exact .lookup (h.imp (·.mono hevolves) (Or.imp (·.mono hevolves)
      (hslot (by rw [claimConflicted_eq, findExistingOr_eq]; rfl))))
  | anchor h =>
    exact .anchor (h.imp (·.mono hevolves) (hslot (by rw [explainAnchor_eq]; rfl)))
  | slot h =>
    obtain ⟨signer, -, hprogram⟩ := explainSlot_eq h
    exact .slot (hslot (by rw [hprogram]; rfl) h)
  | explained h => exact .explained h
  | unavailable => exact .unavailable

section
variable {client : Uuid} {identifier : String} {hash fingerprint : Hash32}

theorem classifyIdentified_explains {seen : Bool} {rows : List Settlement} {outcome : ClaimOutcome}
    (h : classifyIdentified client identifier hash fingerprint seen rows = some outcome) :
    outcome.explains = true := by
  induction rows generalizing seen with
  | nil =>
    simp only [classifyIdentified] at h
    split at h
    · obtain rfl := Option.some.inj h
      rfl
    · cases h
  | cons row rows ih =>
    simp only [classifyIdentified] at h
    split at h
    · split at h <;> (obtain rfl := Option.some.inj h; rfl)
    · exact ih h

/-- The lookup finds nothing only among rows that have nothing to do with the request. -/
theorem classifyIdentified_none {seen : Bool} {rows : List Settlement}
    (h : classifyIdentified client identifier hash fingerprint seen rows = none) :
    seen = false ∧ ∀ r ∈ rows, r.paymentHash ≠ hash ∧ ¬ r.Under client identifier := by
  induction rows generalizing seen with
  | nil =>
    simp only [classifyIdentified] at h
    split at h
    · cases h
    · exact ⟨by simpa using ‹¬ seen = true›, by simp⟩
  | cons row rows ih =>
    simp only [classifyIdentified] at h
    split at h
    · split at h <;> cases h
    · rename_i hunder
      obtain ⟨hseen, hrows⟩ := ih h
      obtain ⟨hseen, hhash⟩ := Bool.or_eq_false_iff.mp hseen
      exact ⟨hseen, List.forall_mem_cons.mpr ⟨⟨by simpa using hhash, hunder⟩, hrows⟩⟩

end

theorem classifyExisting_explains {client : Uuid} {identifier : Option String}
    {hash fingerprint : Hash32} {rows : List Settlement} {outcome : ClaimOutcome}
    (h : classifyExisting client identifier hash fingerprint rows = some outcome) :
    outcome.explains = true := by
  cases identifier with
  | some identifier => exact classifyIdentified_explains h
  | none =>
    simp only [classifyExisting] at h
    split at h
    · cases h
    split at h <;> (obtain rfl := Option.some.inj h; rfl)

theorem Db.Found.classify {db : Db} {new : NewSettlement} (h : db.Found new) {rows : List Settlement}
    (hrows : rows.Perm (selectExisting db new.apiClientId new.paymentIdentifier new.paymentHash)) :
    classifyExisting new.apiClientId new.paymentIdentifier new.paymentHash new.requestFingerprint rows
      ≠ none := by
  obtain ⟨r, hr, hkey⟩ := h
  intro hnone
  cases hidentifier : new.paymentIdentifier with
  | some identifier =>
    rw [hidentifier] at hrows hnone hkey
    have hmem : r ∈ rows := by
      refine hrows.mem_iff.mpr (List.mem_filter.mpr ⟨hr, ?_⟩)
      obtain hhash | ⟨_, ⟨⟩, hunder⟩ := hkey
      · simpa using .inr hhash
      · simpa using .inl hunder
    obtain ⟨hhash, hunder⟩ := (classifyIdentified_none hnone).2 r hmem
    obtain hhash' | ⟨_, ⟨⟩, hunder'⟩ := hkey
    · exact hhash hhash'
    · exact hunder hunder'
  | none =>
    rw [hidentifier] at hrows hnone hkey
    have hmem : r ∈ rows := by
      refine hrows.mem_iff.mpr (List.mem_filter.mpr ⟨hr, ?_⟩)
      obtain hhash | ⟨_, ⟨⟩, -⟩ := hkey
      simpa using hhash
    obtain ⟨row, rows, rfl⟩ := List.exists_cons_of_ne_nil (List.ne_nil_of_mem hmem)
    simp only [classifyExisting, List.head?_cons] at hnone
    split at hnone <;> cases hnone

/-! ## The answers -/

theorem Fate.reply_cases (fate : Fate) (op : StoreOp) (now : Nat) (db : Db) :
    fate.reply op now db = (op.exec now db).1 ∨
      fate.reply op now db = .error (.database .unavailable) := by
  cases fate with
  | replied => exact .inl rfl
  | replyLost | failed => exact .inr rfl

theorem commit_of_reads {op : StoreOp} (h : op.reads = true) (env : Env) (db : Db) :
    (Op.store op).commit env db = db := by
  cases hfate : env.fate <;>
    simp [Op.commit, Fate.commit, hfate, (StoreOp.exec_of_reads h env.now db).1]

section
variable (order : RowOrder) (env : Env) (db : Db)

theorem answer_selectExisting (client : Uuid) (identifier : Option String) (hash : Hash32) :
    (∃ rows, rows.Perm (selectExisting db client identifier hash) ∧
      order.answer env db (.store (.selectExisting client identifier hash)) = .ok rows) ∨
    order.answer env db (.store (.selectExisting client identifier hash)) =
      .error (.database .unavailable) := by
  obtain h | h := env.fate.reply_cases (.selectExisting client identifier hash) env.now db
  · refine .inl ⟨_, order.perm (selectExisting db client identifier hash), ?_⟩
    rw [RowOrder.answer, h]
    rfl
  · refine .inr ?_
    rw [RowOrder.answer, h]
    rfl

theorem answer_anchorIsClaimed (scope : String) (value : Hash32) :
    order.answer env db (.store (.anchorIsClaimed scope value)) =
      .ok (anchorIsClaimed db scope value) ∨
    order.answer env db (.store (.anchorIsClaimed scope value)) =
      .error (.database .unavailable) :=
  env.fate.reply_cases (.anchorIsClaimed scope value) env.now db

theorem answer_activeEvmSignerExists (network signer : String) :
    order.answer env db (.store (.activeEvmSignerExists network signer)) =
      .ok (activeEvmSignerExists db network signer) ∨
    order.answer env db (.store (.activeEvmSignerExists network signer)) =
      .error (.database .unavailable) :=
  env.fate.reply_cases (.activeEvmSignerExists network signer) env.now db

end

/-- Each read finds the reason that it looks for, as long as it is there. -/
theorem Explaining.step {new : NewSettlement} {db : Db} {o : Op}
    {next : o.Answer → Service (Except StoreError ClaimOutcome)}
    (h : Explaining new db (.call o next)) (env : Env) (order : RowOrder) :
    Explaining new (o.commit env db) (next (order.answer env db o)) := by
  generalize hprogram : Program.call o next = program at h
  cases h with
  | lookup h =>
    rw [claimConflicted_eq, findExistingOr_eq] at hprogram
    cases hprogram
    rw [commit_of_reads rfl]
    obtain ⟨rows, hrows, hanswer⟩ | hanswer := answer_selectExisting order env db new.apiClientId
      new.paymentIdentifier new.paymentHash
    · rw [hanswer]
      dsimp only
      split
      · rename_i outcome hfound
        exact .explained (classifyExisting_explains hfound)
      · rename_i hnone
        exact .anchor (h.resolve_left fun hfound => hfound.classify hrows hnone)
    · rw [hanswer]
      exact .unavailable
  | anchor h =>
    rw [explainAnchor_eq] at hprogram
    cases hprogram
    rw [commit_of_reads rfl]
    obtain hanswer | hanswer :=
      answer_anchorIsClaimed order env db new.anchorScope new.anchorValue
    · rw [hanswer]
      cases hclaimed : anchorIsClaimed db new.anchorScope new.anchorValue with
      | true => exact .explained rfl
      | false =>
        refine .slot (h.resolve_left fun ⟨r, hr, hanchor⟩ => ?_)
        exact Bool.false_ne_true
          (hclaimed.symm.trans (List.any_eq_true.mpr ⟨r, hr, decide_eq_true hanchor⟩))
    · rw [hanswer]
      exact .unavailable
  | slot h =>
    obtain ⟨signer, hactive, hslot⟩ := explainSlot_eq h
    rw [hslot] at hprogram
    cases hprogram
    obtain hanswer | hanswer := answer_activeEvmSignerExists order env db new.network signer
    · rw [hanswer, hactive]
      exact .explained rfl
    · rw [hanswer]
      exact .unavailable
  | explained => cases hprogram
  | unavailable => cases hprogram

/-! ## Before the insert -/

/-- The operation is an insert that an index refused. -/
def isConflict : Event Op.Answer → Bool
  | ⟨.store (.claimReservation ..), .ok .conflicted⟩ => true
  | _ => false

/-- A claim whose insert no index has refused so far: it does not report a lost insert, and when its
insert is refused it goes on to look for the reason. -/
def Unlost (new : NewSettlement) : Service (Except StoreError ClaimOutcome) → Prop
  | .done outcome => outcome ≠ .error notVisible
  | .call o next => ∀ (env : Env) (order : RowOrder) (db : Db),
      if isConflict ⟨o, order.answer env db o⟩ then
        (∃ usageDate, o = .store (.claimReservation new usageDate)) ∧
          next (order.answer env db o) = claimConflicted new
      else Unlost new (next (order.answer env db o))

theorem Unlost.read {new : NewSettlement} {op : StoreOp}
    {next : (Op.store op).Answer → Service (Except StoreError ClaimOutcome)} (hop : op.reads = true)
    (h : ∀ (env : Env) (order : RowOrder) (db : Db),
      Unlost new (next (order.answer env db (.store op)))) :
    Unlost new (.call (.store op) next) := by
  intro env order db
  have hread : isConflict ⟨.store op, order.answer env db (.store op)⟩ = false := by
    cases op <;> first | rfl | cases hop
  rw [hread]
  exact h env order db

theorem unlost_unavailable {new : NewSettlement} :
    Unlost new (.done (.error (.database .unavailable))) := nofun

theorem unlost_findExistingOr {new : NewSettlement}
    {otherwise : Service (Except StoreError ClaimOutcome)} (h : Unlost new otherwise) :
    Unlost new (findExistingOr new otherwise) := by
  rw [findExistingOr_eq]
  refine .read rfl fun env order db => ?_
  obtain ⟨rows, -, hanswer⟩ | hanswer := answer_selectExisting order env db new.apiClientId
    new.paymentIdentifier new.paymentHash
  · rw [hanswer]
    dsimp only
    split
    · exact nofun
    · exact h
  · rw [hanswer]
    exact unlost_unavailable

/-- The transaction fails with errors of the database only. -/
def Txn.FailsInDatabase {α : Type} (x : Txn α) : Prop :=
  ∀ db e, x.run db = .error e → ∃ cause, e = .database cause

namespace Txn.FailsInDatabase

variable {α β : Type}

theorem of_ok {x : Txn α} (h : ∀ db, ∃ r, x.run db = .ok r) : x.FailsInDatabase := by
  intro db e herror
  obtain ⟨r, hr⟩ := h db
  cases hr.symm.trans herror

theorem bind {x : Txn α} {f : α → Txn β} (hx : x.FailsInDatabase)
    (hf : ∀ a, (f a).FailsInDatabase) : (x >>= f).FailsInDatabase := by
  intro db e h
  change (Txn.bind x f).run db = _ at h
  cases hrun : x.run db with
  | error e' =>
    simp only [Txn.bind, hrun] at h
    exact Except.error.inj h ▸ hx db e' hrun
  | ok r =>
    simp only [Txn.bind, hrun] at h
    exact hf r.1 r.2 e h

theorem reserveUsage {reservation limit : Nat} {usage : Option SponsorshipUsage} {e : StoreError}
    (h : X402Facilitator.reserveUsage reservation limit usage = .error e) :
    ∃ cause, e = .database cause := by
  unfold X402Facilitator.reserveUsage at h
  split at h
  · cases h
  split at h
  · exact ⟨_, (Except.error.inj h).symm⟩
  cases usage with
  | none => cases h
  | some usage =>
    dsimp only at h
    split_ifs at h
    exact ⟨_, (Except.error.inj h).symm⟩

theorem reserveGlobalBudget (usageDate : Day) (reservation limit : Nat) :
    (X402Facilitator.reserveGlobalBudget usageDate reservation limit).FailsInDatabase := by
  intro db e h
  dsimp only [X402Facilitator.reserveGlobalBudget] at h
  split at h
  · exact Except.error.inj h ▸ reserveUsage ‹_›
  · cases h
  · cases h

theorem reserveClientBudget (usageDate : Day) (client : Uuid) (reservation limit : Nat) :
    (X402Facilitator.reserveClientBudget usageDate client reservation limit).FailsInDatabase := by
  intro db e h
  dsimp only [X402Facilitator.reserveClientBudget] at h
  split at h
  · exact Except.error.inj h ▸ reserveUsage ‹_›
  · cases h
  · cases h

theorem reserveBudgets (usageDate : Day) (client : Uuid) (reservation globalLimit clientLimit : Nat) :
    (X402Facilitator.reserveBudgets usageDate client reservation globalLimit
      clientLimit).FailsInDatabase := by
  refine .bind (reserveGlobalBudget _ _ _) fun granted => ?_
  cases granted with
  | false => exact .of_ok fun db => ⟨_, rfl⟩
  | true => exact reserveClientBudget _ _ _ _

theorem insertSettlement (row : Settlement) :
    (X402Facilitator.insertSettlement row).FailsInDatabase := by
  intro db e h
  dsimp only [X402Facilitator.insertSettlement] at h
  split_ifs at h <;> exact ⟨_, (Except.error.inj h).symm⟩

theorem claimReservation (new : NewSettlement) (usageDate : Day) (createdAt : Nat) :
    (X402Facilitator.claimReservation new usageDate createdAt).FailsInDatabase := by
  refine .bind (.of_ok fun db => ⟨_, rfl⟩) fun before => .bind (insertSettlement _) fun inserted => ?_
  cases inserted with
  | false => exact .of_ok fun db => ⟨_, rfl⟩
  | true =>
    refine .bind (reserveBudgets _ _ _ _ _) fun granted => ?_
    cases granted with
    | false => exact .of_ok fun db => ⟨_, rfl⟩
    | true => exact .of_ok fun db => ⟨_, rfl⟩

end Txn.FailsInDatabase

theorem answer_claimReservation (order : RowOrder) (env : Env) (db : Db) (new : NewSettlement)
    (usageDate : Day) :
    (∃ reply, (claimReservation new usageDate env.now).run db =
        .ok (reply, (Op.store (.claimReservation new usageDate)).commit env db) ∧
      order.answer env db (.store (.claimReservation new usageDate)) = .ok reply) ∨
    ∃ cause, order.answer env db (.store (.claimReservation new usageDate)) =
      .error (.database cause) := by
  obtain ⟨answer, fate, now⟩ := env
  cases fate with
  | replied =>
    cases hreply : ((StoreOp.claimReservation new usageDate).exec now db).1 with
    | ok reply => exact .inl ⟨reply, Txn.exec_ok hreply, hreply⟩
    | error e =>
      obtain ⟨cause, rfl⟩ := Txn.FailsInDatabase.claimReservation new usageDate now db e
        (Txn.exec_error hreply).1
      exact .inr ⟨cause, hreply⟩
  | replyLost | failed => exact .inr ⟨_, rfl⟩

theorem unlost_claimNew (new : NewSettlement) : Unlost new (claimNew new) := by
  intro env order db
  rw [if_neg (by exact Bool.false_ne_true)]
  intro env' order' db'
  generalize order.answer env db (.ask .utcToday) = usageDate
  obtain ⟨reply, -, hanswer⟩ | ⟨cause, hanswer⟩ :=
    answer_claimReservation order' env' db' new usageDate
  · rw [hanswer]
    cases reply with
    | conflicted => exact ⟨⟨usageDate, rfl⟩, rfl⟩
    | budgetExceeded => exact nofun
    | inserted =>
      rw [if_neg (by exact Bool.false_ne_true)]
      change Unlost new (.call (.store (.settlement new.id)) _)
      refine .read rfl fun env'' order'' db'' => ?_
      obtain hread | hread := env''.fate.reply_cases (.settlement new.id) env''.now db''
      · rw [show order''.answer env'' db'' (.store (.settlement new.id)) =
          .ok (db''.settlement? new.id) from hread]
        cases db''.settlement? new.id with
        | none => exact fun h => absurd (StoreError.corrupt.inj (Except.error.inj h)) (by decide)
        | some record => exact nofun
      · rw [show order''.answer env'' db'' (.store (.settlement new.id)) =
          .error (.database .unavailable) from hread]
        exact unlost_unavailable
  · rw [hanswer]
    exact nofun

theorem unlost_claimSettlement (new : NewSettlement) : Unlost new (claimSettlement new) := by
  unfold claimSettlement
  split
  · exact nofun
  refine unlost_findExistingOr (.read rfl fun env order db => ?_)
  obtain hanswer | hanswer := answer_anchorIsClaimed order env db new.anchorScope new.anchorValue
  · rw [hanswer]
    cases anchorIsClaimed db new.anchorScope new.anchorValue with
    | true => exact unlost_findExistingOr nofun
    | false =>
      change Unlost new ((activeEvmSigner new).bind _)
      unfold activeEvmSigner
      split
      · refine .read rfl fun env order db => ?_
        obtain hanswer | hanswer := answer_activeEvmSignerExists order env db new.network _
        · rw [hanswer]
          cases activeEvmSignerExists db new.network _ with
          | true => exact unlost_findExistingOr nofun
          | false => exact unlost_claimNew new
        · rw [hanswer]
          exact unlost_unavailable
      · exact unlost_claimNew new
  · rw [hanswer]
    exact unlost_unavailable

/-! ## Every interleaving -/

/-- The claim that has lost its insert and is looking for the reason. -/
def CallState.losing? : CallState → Option NewSettlement
  | ⟨.claim new, _, program, statements⟩ =>
    if Running program && statements.any (isConflict ·.event) then some new else none
  | _ => none

namespace Calls

/-- An insert is made with an id that no row has. -/
def freshId (c : Calls) : CallMove → Bool
  | .begin _ => true
  | .advance i _ _ =>
    match c.calls[i]? with
    | some ⟨_, _, .call (.store (.claimReservation new _)) _, _⟩ =>
      c.db.settlements.all (·.id ≠ new.id)
    | _ => true

/-- The slot of a signer is not freed while a claim that lost its insert looks for the reason. -/
def keepsSlots (c : Calls) (m : CallMove) : Bool :=
  c.calls.all fun s => s.losing?.all fun new => !c.db.slotTaken new || (c.step m).db.slotTaken new

/-- Where a claim can be. -/
def Claiming (db : Db) (s : CallState) : Prop :=
  ∀ new began program statements, s = ⟨.claim new, began, program, statements⟩ →
    (statements.any (isConflict ·.event) = false ∧ Unlost new program) ∨
      (statements.any (isConflict ·.event) = true ∧ Explaining new db program)

/-- What others do to the database keeps a claim where it is. -/
theorem Claiming.mono {c : Calls} {m : CallMove} {s : CallState} (h : Claiming c.db s)
    (hs : s ∈ c.calls) (hkeeps : c.keepsSlots m = true) (hevolves : c.db.Evolves (c.step m).db) :
    Claiming (c.step m).db s := by
  rintro new began program statements rfl
  refine (h new began program statements rfl).imp id fun ⟨hlost, hexplaining⟩ => ⟨hlost, ?_⟩
  refine hexplaining.mono hevolves fun hrunning htaken => ?_
  have hkept := List.all_eq_true.mp hkeeps _ hs
  simpa [CallState.losing?, hrunning, hlost, htaken] using hkept

theorem step_evolves (c : Calls) (m : CallMove) : c.db.Evolves (c.step m).db := by
  have hstep := c.stepped m
  generalize c.step m = c' at hstep ⊢
  cases hstep with
  | idle | begun => exact .refl _
  | advanced env order hs hcall => exact commit_evolves env c.db _

/-- A claim whose insert is refused knows the reason. -/
theorem explaining_of_conflict {db : Db} {new : NewSettlement} {usageDate : Day} {env : Env}
    {order : RowOrder} (hfresh : ∀ r ∈ db.settlements, r.id ≠ new.id)
    (h : isConflict ⟨.store (.claimReservation new usageDate),
      order.answer env db (.store (.claimReservation new usageDate))⟩ = true) :
    Explaining new ((Op.store (.claimReservation new usageDate)).commit env db)
      (claimConflicted new) := by
  obtain ⟨reply, hrun, hanswer⟩ | ⟨cause, hanswer⟩ :=
    answer_claimReservation order env db new usageDate
  · rw [hanswer] at h
    cases reply with
    | conflicted =>
      obtain ⟨hinserted, -⟩ | ⟨-, hdb⟩ := claimReservation_ok hrun
      · cases hinserted
      · rw [hdb]
        exact .lookup (exists_reason hfresh hrun)
    | inserted | budgetExceeded => cases h
  · rw [hanswer] at h
    cases h

theorem claiming_after {moves : List CallMove}
    (h : Run.Always step (fun c m => c.freshId m = true ∧ c.keepsSlots m = true) init moves) :
    ∀ s ∈ (after moves).calls, Claiming (after moves).db s := by
  induction moves using List.reverseRecOn with
  | nil => simp [after, init]
  | append_singleton moves m ih =>
    obtain ⟨hmoves, ⟨hfresh, hkeeps⟩, -⟩ := Run.always_append.mp h
    have ih := ih hmoves
    change (after moves).freshId m = true at hfresh
    change (after moves).keepsSlots m = true at hkeeps
    rw [after_concat]
    have hothers {s : CallState} (hs : s ∈ (after moves).calls) :
        Claiming ((after moves).step m).db s :=
      (ih s hs).mono hs hkeeps ((after moves).step_evolves m)
    have hstep := (after moves).stepped m
    generalize (after moves).step m = c' at hstep hothers ⊢
    intro s' hs'
    cases hstep with
    | idle => exact hothers hs'
    | begun call =>
      obtain hs' | hs' := List.mem_append.mp hs'
      · exact hothers hs'
      · rw [List.mem_singleton.mp hs']
        rintro new began program statements heq
        cases heq
        exact .inl ⟨rfl, unlost_claimSettlement new⟩
    | advanced env order hs hcall =>
      rename_i i s o next
      obtain hs' | rfl := List.mem_or_eq_of_mem_set hs'
      · exact hothers hs'
      have hclaiming := ih s (List.mem_of_getElem? hs)
      obtain ⟨call, began, program, statements⟩ := s
      intro new began' program' statements' heq
      cases heq
      have hcases := hclaiming new began program statements rfl
      rw [show program = .call o next from hcall] at hcases
      obtain ⟨hnone, hunlost⟩ | ⟨hlost, hexplaining⟩ := hcases
      · have hanswered := hunlost env order (after moves).db
        by_cases hconflict : isConflict ⟨o, order.answer env (after moves).db o⟩ = true
        · rw [if_pos hconflict] at hanswered
          obtain ⟨⟨usageDate, rfl⟩, hnext⟩ := hanswered
          refine .inr ⟨by rw [List.any_cons, hconflict, Bool.true_or], ?_⟩
          rw [hnext]
          refine explaining_of_conflict (fun r hr => ?_) hconflict
          rw [show program = Program.call _ next from hcall] at hs
          simp only [freshId, hs] at hfresh
          simpa using List.all_eq_true.mp hfresh r hr
        · rw [if_neg hconflict] at hanswered
          refine .inl ⟨?_, hanswered⟩
          rw [List.any_cons, Bool.not_eq_true _ |>.mp hconflict, hnone, Bool.false_or]
      · refine .inr ⟨by rw [List.any_cons, hlost, Bool.or_true], hexplaining.step env order⟩

end Calls

/-- A lost insert is explained, unless the reason goes away. In every interleaving of calls in which
inserts are made with fresh ids, and the slot of a signer is not freed while a claim that lost its
insert looks for the reason, no claim reports a conflict without a visible row. A claim that lost its
insert returns the existing row, the conflict of identifiers, a duplicate or a busy signer, if its
reads are answered. -/
theorem lost_insert_is_explained (moves : List CallMove)
    (h : Run.Always Calls.step (fun c m => c.freshId m = true ∧ c.keepsSlots m = true) Calls.init
      moves) :
    ∀ s ∈ (Calls.after moves).calls, ∀ new outcome, s.Returned (.claim new) outcome →
      outcome ≠ .error notVisible ∧
        ((∃ e ∈ s.past, isConflict e = true) →
          (∃ explanation, outcome = .ok explanation ∧ explanation.explains = true) ∨
            outcome = .error (.database .unavailable)) := by
  rintro s hs new outcome ⟨began, statements, rfl⟩
  obtain ⟨hnone, hunlost⟩ | ⟨-, hexplaining⟩ :=
    Calls.claiming_after h _ hs new began _ statements rfl
  · refine ⟨hunlost, fun ⟨e, he, hconflict⟩ => ?_⟩
    obtain ⟨statement, hstatement, rfl⟩ := List.mem_map.mp he
    exact absurd (List.any_eq_true.mpr ⟨statement, hstatement, hconflict⟩)
      (Bool.not_eq_true _ ▸ hnone)
  · generalize hprogram : Program.done outcome = program at hexplaining
    cases hexplaining with
    | explained hexplains =>
      obtain rfl := Program.done.inj hprogram
      exact ⟨nofun, fun _ => .inl ⟨_, rfl, hexplains⟩⟩
    | unavailable =>
      obtain rfl := Program.done.inj hprogram
      exact ⟨nofun, fun _ => .inr rfl⟩
    | lookup =>
      rw [claimConflicted_eq, findExistingOr_eq] at hprogram
      cases hprogram
    | anchor =>
      rw [explainAnchor_eq] at hprogram
      cases hprogram
    | slot hslot =>
      obtain ⟨_, -, hcall⟩ := explainSlot_eq hslot
      rw [hcall] at hprogram
      cases hprogram

/-! ## A slot that is freed in between -/

/-- The error that the call has returned. -/
def CallState.error? (s : CallState) : Option StoreError :=
  match s.program with
  | .done (.error e) => some e
  | _ => none

def CallMove.begun? : CallMove → Option PgCall
  | .begin asked => some asked
  | .advance .. => none

namespace Calls

/-- The calls of a run are the ones that were begun, in their order. -/
theorem map_call (moves : List CallMove) :
    (after moves).calls.map (·.call) = moves.filterMap (·.begun?) := by
  induction moves using List.reverseRecOn with
  | nil => rfl
  | append_singleton moves m ih =>
    rw [after_concat, List.filterMap_append, ← ih]
    cases m with
    | begin asked => exact List.map_append
    | advance i env order =>
      refine Eq.trans ?_ (List.append_nil _).symm
      simp only [step]
      split
      · rfl
      split
      · rfl
      rename_i s hs _ o next _
      -- A call that is resumed stays the same call.
      obtain ⟨hlt, rfl⟩ := List.getElem?_eq_some_iff.mp hs
      rw [List.map_set]
      change (List.map (·.call) (after moves).calls).set i (after moves).calls[i].call = _
      rw [← List.map_set, List.set_getElem_self]

end Calls

namespace Sample

/-- A claim of the one EVM signer, for a payment of its own. -/
def slotClaim (id : Uuid) : NewSettlement :=
  { sampleNearClaim id 10 1000 with
    network := "eip155:84532"
    asset := "0xa"
    payer := "0xb"
    anchorScope := "eip155:84532:0xa:0xb"
    chainKind := .eip155
    delegatePublicKey := none
    delegateNonce := none
    delegateMaxBlockHeight := none
    authorizationMetadata := some ⟨2, "0", "500"⟩
    signerAddress := some "0xd" }

/-- The next statement of a call. -/
def statement (call : Nat) : CallMove := .advance call ⟨answer, .replied, 1⟩ ⟨id, fun _ => .refl _⟩

/-- Two claims find the slot of their signer free. The claim of row 1 takes it, and the insert of the
claim of row 2 is refused. -/
def lostRace : List CallMove :=
  [.begin (.single (.createClient 7)), statement 0, .begin (.claim (slotClaim 1)),
      .begin (.claim (slotClaim 2))] ++
    List.replicate 4 (statement 2) ++ List.replicate 6 (statement 1) ++ [statement 2]

/-- The other claim looks for the reason while row 1 is active. -/
def explainedRace : List CallMove := lostRace ++ List.replicate 3 (statement 2)

/-- Row 1 is released before the other claim looks for the reason. -/
def releasedRace : List CallMove :=
  lostRace ++ [.begin (.single (.markAwaitingRetry 1 "relayer_unavailable")), statement 3] ++
    List.replicate 3 (statement 2)

end Sample

set_option maxRecDepth 100000 in
theorem lost_insert_is_explained_explainedRace :
    ∃ s ∈ (Calls.after Sample.explainedRace).calls, (∃ e ∈ s.past, isConflict e = true) ∧
      Running s.program = false ∧
      ∀ new outcome, s.Returned (.claim new) outcome → outcome ≠ .error notVisible := by
  have hrun : Run.Always Calls.step (fun c m => c.freshId m = true ∧ c.keepsSlots m = true)
        Calls.init Sample.explainedRace ∧
      (Calls.after Sample.explainedRace).calls[2]?.any (fun s =>
        s.past.any isConflict && !Running s.program) = true := by
    decide +kernel
  obtain ⟨s, hs, hlost⟩ := Option.any_eq_true _ _ |>.mp hrun.2
  obtain ⟨hconflict, hended⟩ := Bool.and_eq_true_iff.mp hlost
  have hmem := List.mem_of_getElem? hs
  exact ⟨s, hmem, List.any_eq_true.mp hconflict, by simpa using hended, fun new outcome hreturned =>
    (lost_insert_is_explained Sample.explainedRace hrun.1 s hmem new outcome hreturned).1⟩

set_option maxRecDepth 100000 in
theorem freed_slot_is_reported_as_corrupt :
    Run.Always Calls.step (fun c m => c.freshId m = true) Calls.init Sample.releasedRace ∧
    ∃ s ∈ (Calls.after Sample.releasedRace).calls,
      s.Returned (.claim (Sample.slotClaim 2)) (.error notVisible) := by
  have hrun : Run.Always Calls.step (fun c m => c.freshId m = true) Calls.init
        Sample.releasedRace ∧
      ((Calls.after Sample.releasedRace).calls[2]?.bind (·.error?)) = some notVisible := by
    decide +kernel
  obtain ⟨s, hs, herror⟩ := Option.bind_eq_some_iff.mp hrun.2
  refine ⟨hrun.1, s, List.mem_of_getElem? hs, ?_⟩
  have hcall : s.call = .claim (Sample.slotClaim 2) := by
    have hbegun := congrArg (·[2]?) (Calls.map_call Sample.releasedRace)
    rw [List.getElem?_map, hs] at hbegun
    exact Option.some.inj hbegun
  obtain ⟨call, began, program, statements⟩ := s
  obtain rfl : call = .claim (Sample.slotClaim 2) := hcall
  unfold CallState.error? at herror
  split at herror
  · rename_i hprogram
    obtain rfl := Option.some.inj herror
    exact ⟨began, statements, by rw [show program = _ from hprogram]⟩
  · cases herror

end X402Facilitator
