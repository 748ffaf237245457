import X402Facilitator.System.Confirmations

/-!
# What a signed transaction can cost

The L2 price that the bytes of an EVM row allow and the larger of the readers' L1 estimates fit in the
reservation of the row. The worker compares them with the reservation that its own process is
configured for, and not with the row's. The two are the same when processes run one at a time: the
request that started the worker claimed or resumed the row in the same process, and until the bytes
are journaled nobody else can have resumed it.
-/

namespace X402Facilitator

open Program

section
variable [NearPrimitives] [EvmPrimitives]

/-! ## The reservation of a reserved row -/

/-- If the row is reserved, then for what the configuration reserves. -/
def Settlement.ReservedUnder (r : Settlement) (config : ServiceConfig) : Prop :=
  r.state = .reserved → r.reservedYoctoNear = config.reservationYoctoNear

omit [NearPrimitives] [EvmPrimitives] in
/-- Only a resume makes a row reserved. -/
theorem Settlement.ReservedUnder.apply {r : Settlement} {config : ServiceConfig}
    (h : r.ReservedUnder config) {u : RowUpdate} (hallowed : u.Allowed r)
    (hresume : ∀ retry usageDate, u = .resume retry usageDate →
      retry.reservationYoctoNear = config.reservationYoctoNear) :
    (u.apply r).ReservedUnder config := by
  intro hreserved
  cases u with
  | resume retry usageDate => exact hresume retry usageDate rfl
  | raise | note => exact h hreserved
  | release | prepare | prepareEvm | submit => cases hreserved
  | terminate entry =>
    have hterminal := hallowed.1
    rw [show entry.state = .reserved from hreserved] at hterminal
    cases hterminal

theorem ClaimJustified.reserved {state : AppState} {h : History Op.Answer} {new : NewSettlement}
    (hnew : ClaimJustified state h new) :
    new.reservationYoctoNear = state.config.reservationYoctoNear := by
  obtain ⟨id, client, request, paymentHash, verified, -, rfl⟩ := hnew
  unfold newSettlement
  dsimp only
  split <;> rfl

theorem ResumeJustified.reserved {state : AppState} {h : History Op.Answer}
    {retry : RetryReservation} (hretry : ResumeJustified state h retry) :
    retry.reservationYoctoNear = state.config.reservationYoctoNear := by
  obtain ⟨client, request, paymentHash, verified, record, -, -, rfl⟩ := hretry
  rfl

namespace World

variable {moves : List Move}

/-- Whatever is done in the second part of the run is done under the configuration. -/
def Configured (before mid : List Move) (config : ServiceConfig) : Prop :=
  ∀ done m rest, mid = done ++ m :: rest → ∀ s o,
    (after (before ++ done)).issued? m = some (s, o) → s.role.state.config = config

theorem Configured.init {before mid : List Move} {config : ServiceConfig} {m : Move}
    (h : Configured before (mid ++ [m]) config) : Configured before mid config := by
  intro done m' rest hmid
  exact h done m' (rest ++ [m]) (by simp [hmid])

/-- As long as everything is done under one configuration, a row keeps its reservation. -/
theorem reservedUnder_after {before mid : List Move} {config : ServiceConfig} {id : Uuid}
    (hstart : ∀ r ∈ (after before).db.settlements, r.id = id → r.ReservedUnder config)
    (hmid : Configured before mid config) :
    ∀ r ∈ (after (before ++ mid)).db.settlements, r.id = id → r.ReservedUnder config := by
  induction mid using List.reverseRecOn with
  | nil => simpa using hstart
  | append_singleton mid m ih =>
    have hconfig {t : Thread} {o : Op} (h : (after (before ++ mid)).issued? m = some (t, o)) :
        t.role.state.config = config := hmid mid m [] rfl t o h
    intro row hrow hid
    rw [← List.append_assoc, after_concat] at hrow
    obtain hkept | ⟨now, hissued, -, rfl⟩ | ⟨hissued, htarget, hupd, rfl⟩ :=
      ((after (before ++ mid)).stepped m).rowStep hrow
    · exact ih hmid.init row hkept hid
    · intro _
      rw [← hconfig hissued]
      exact ClaimJustified.reserved (Issued.last hissued).justified
    · rename_i t op old u
      refine (ih hmid.init old hupd.mem (by rwa [u.apply_id] at hid)).apply hupd.allowed ?_
      rintro retry usageDate rfl
      obtain ⟨rfl, -⟩ := StoreOp.eq_of_target_resume htarget
      rw [← hconfig hissued]
      exact ResumeJustified.reserved (Issued.last hissued).justified

/-- A worker was started by a thread of its own process, which had claimed or resumed the row. -/
theorem exists_workerJustified (moves : List Move) {t : Thread} (ht : t ∈ (after moves).threads)
    {id : Uuid} (hsettles : t.role.task.settles id) :
    ∃ before rest s, moves = before ++ rest ∧ s ∈ (after before).threads ∧
      s.role.process = t.role.process ∧ s.role.state = t.role.state ∧
      WorkerJustified s.role.state (session s.past) id := by
  obtain ⟨tid, htid⟩ := List.getElem?_of_mem ht
  obtain ⟨before, m, rest, hsplit, hlaunched⟩ := exists_launch moves htid
  have notWorker {task : ServiceTask} (htask : t.role.task = task) (h : ¬ task.settles id) : False :=
    h (htask ▸ hsettles)
  cases hlaunched with
  | main fuel htask =>
    obtain htask | htask := htask
    · exact (notWorker htask not_false).elim
    · exact (notWorker htask not_false).elim
  | request fuel htask => exact (notWorker htask not_false).elim
  | spawned hm hs hp hcall hpermits hprocess hstate =>
    rename_i tid env s p next
    have hs := List.mem_of_getElem? hs
    refine ⟨before, m :: rest, s, hsplit, hs, hprocess.symm, hstate.symm, ?_⟩
    have hjustified := justified_after before hs hcall
    cases htask : t.role.task with
    | settlementWorker id' request =>
      rw [htask] at hsettles hjustified
      obtain rfl : id' = id := hsettles
      obtain hlocks | hjustified := hjustified
      · cases hlocks
      · exact hjustified
    | _ => exact (notWorker htask not_false).elim

/-- The request that starts a worker leaves the row reserved for what its process reserves. -/
theorem exists_reservedUnder (moves : List Move) {s : Thread} (hs : s ∈ (after moves).threads)
    {id : Uuid} (hjustified : WorkerJustified s.role.state (session s.past) id) :
    ∃ before rest, moves = before ++ rest ∧
      (∃ p, (after before).processes[s.role.process]? = some p ∧ p.state = s.role.state) ∧
      ∀ r ∈ (after before).db.settlements, r.id = id → r.ReservedUnder s.role.state.config := by
  have hattests := attested_after moves s hs
  have hosted {tid : Nat} {past : History Op.Answer} {e : Event Op.Answer}
      (x : Moment moves tid s.role past e) :
      ∃ p, (after x.upTo).processes[s.role.process]? = some p ∧ p.state = s.role.state := by
    obtain ⟨p, hp, hstate⟩ := hosted_after _ _ (List.mem_of_getElem? x.threads)
    rw [x.role_eq] at hp hstate
    obtain ⟨p', hp', hstate'⟩ := process_after x.before [.step tid x.env] hp
    exact ⟨p', hp', hstate'.trans hstate⟩
  cases hjustified with
  | claimed hclaim hnew hread hid =>
    rename_i new usageDate r
    obtain ⟨tid, past, ⟨x⟩⟩ := exists_moment_of_mem moves hs (session_subset _ hclaim)
    refine ⟨x.upTo, x.rest, x.upTo_append.symm, hosted x, fun row hrow hrowid _ => ?_⟩
    obtain ⟨-, hclaimed⟩ | ⟨hne, -⟩ := claimReservation_ok x.run
    · have hrid : r.id = new.id := (hattests _ _ (session_subset _ hread) r rfl).1
      have hmem : new.row usageDate x.env.now ∈ (after x.upTo).db.settlements := by
        simp [hclaimed.settlements]
      obtain rfl := Db.eq_of_id _ hrow hmem (hrowid.trans (hid.symm.trans hrid))
      exact hnew.reserved
    · exact absurd rfl hne
  | resumed hresume hretry hread hid =>
    rename_i retry usageDate r
    obtain ⟨tid, past, ⟨x⟩⟩ := exists_moment_of_mem moves hs (session_subset _ hresume)
    refine ⟨x.upTo, x.rest, x.upTo_append.symm, hosted x, fun row hrow hrowid _ => ?_⟩
    obtain ⟨-, old, -, holdid, hupdated⟩ | ⟨hne, -⟩ := resumeReservation_ok x.run
    · have hrid : r.id = retry.settlementId := (hattests _ _ (session_subset _ hread) r rfl).1
      obtain rfl := Db.eq_of_id _ hrow hupdated.apply_mem
        (hrowid.trans (hid.symm.trans (hrid.trans holdid.symm)))
      exact hretry.reserved
    · exact absurd rfl hne

/-- One process at a time: the row that a worker finds reserved is reserved for what the worker's own
process reserves. -/
theorem reservedUnder_of_worker {before rest : List Move} {m : Move}
    (hsolo : Always (fun w m => w.solo m = true) (before ++ m :: rest)) {t : Thread} {o : Op}
    (hissued : (after before).issued? m = some (t, o)) {id : Uuid}
    (hsettles : t.role.task.settles id) :
    ∀ r ∈ (after before).db.settlements, r.id = id → r.ReservedUnder t.role.state.config := by
  obtain ⟨tid, env, p, next, -, ht, hp, -, hpermits⟩ := exists_of_issued? hissued
  obtain ⟨launch, rest₁, s, hlaunch, hs, hprocess, hstate, hjustified⟩ :=
    exists_workerJustified before (List.mem_of_getElem? ht) hsettles
  obtain ⟨start, rest₀, hstart, ⟨p₀, hp₀, hstate₀⟩, hreserved⟩ :=
    exists_reservedUnder launch hs hjustified
  have hbefore : before = start ++ (rest₀ ++ rest₁) := by rw [hlaunch, hstart, List.append_assoc]
  rw [hbefore] at hp hsolo ⊢
  rw [hprocess] at hp₀
  rw [hstate] at hreserved hstate₀
  refine reservedUnder_after hreserved fun done m' rest' hmid s' o' hissued' => ?_
  rw [hmid] at hp hsolo
  have hrun : Always (fun w m => w.solo m = true) (start ++ done) := by
    simp only [List.append_assoc] at hsolo
    rw [← List.append_assoc] at hsolo
    exact (Run.always_append.mp hsolo).1
  rw [state_eq_of_solo hrun hp₀ hp (Process.alive_of_permits hpermits) hissued', hstate₀]

end World

/-! ## The liability of a signed transaction -/

omit [NearPrimitives] in
/-- The bytes of a transfer decode to a transaction within the provider's gas policy. -/
theorem SignedTransfer.exists_decoded {provider : EvmProvider} {payment : EvmVerifiedPayment}
    {nonce : Nat} {bytes : Bytes} {txHash : Hash32}
    (h : SignedTransfer provider payment nonce bytes txHash) :
    ∃ signed, decode2718 bytes = some (.eip1559 signed, []) ∧
      signed.tx.gasLimit = provider.gasLimit ∧ signed.tx.maxFeePerGas ≤ provider.maxFeePerGas := by
  obtain ⟨calldata, fees, prepared, -, hfees, hsigned, rfl, -⟩ := h
  unfold signSettlementTransaction at hsigned
  split at hsigned
  · cases hsigned
  · rename_i signed hsigns
    obtain rfl := Except.ok.inj hsigned
    obtain ⟨htx, hdecode, -⟩ := recoverSigner_signTransaction hsigns
    refine ⟨signed, hdecode, ?_, ?_⟩
    · rw [htx]
      exact hfees.gasLimit
    · rw [htx]
      exact hfees.cap

omit [NearPrimitives] [EvmPrimitives] in
/-- The check that the worker makes before it journals the bytes. -/
theorem le_reservation_of_covers {config : ServiceConfig} {eip155 : Eip155Config} {l1Fee : Nat}
    (heip155 : config.eip155 = some eip155)
    (h : evmReservationCoversLiability config l1Fee = true) :
    eip155.gasLimit * eip155.maxFeePerGasWei + l1Fee ≤ config.reservationYoctoNear ∧
      config.reservationYoctoNear < 2 ^ 128 := by
  simp only [evmReservationCoversLiability, heip155, decide_eq_true_eq] at h
  exact ⟨h.2.2.2.2, h.2.1⟩

omit [NearPrimitives] in
/-- A receipt that charges no more than the bytes allow and the readers estimated is within the
reservation. -/
theorem feeOverrun_of_within {row : Settlement} {gasLimit maxFeePerGas l1Fee : Nat}
    (hreserved : gasLimit * maxFeePerGas + l1Fee ≤ row.reservedYoctoNear)
    (hfits : row.reservedYoctoNear < 2 ^ 128) {hash : Hash32} {object : Json} {facts : ReceiptFacts}
    (hreceipt : parseRawReceipt hash (some object) = .ok (.mined facts))
    (hgas : facts.gasUsed ≤ gasLimit)
    (hprice : ∀ price, HasQuantity object "effectiveGasPrice" price → price ≤ maxFeePerGas)
    (hl1 : facts.l1FeeWei ≤ l1Fee) (depth : Nat) :
    feeOverrun row (evmTerminalToNeutral (facts.terminalOutcome depth)) = .ok false := by
  obtain ⟨_, hobject, hdescribes⟩ := parseRawReceipt_mined hreceipt
  obtain rfl := Option.some.inj hobject
  obtain ⟨price, hquantity, -, hfee⟩ := hdescribes.fee
  have hcost : facts.feeWei ≤ row.reservedYoctoNear :=
    calc facts.feeWei = facts.gasUsed * price + facts.l1FeeWei := hfee
      _ ≤ gasLimit * maxFeePerGas + l1Fee :=
        Nat.add_le_add (Nat.mul_le_mul hgas (hprice price hquantity)) hl1
      _ ≤ row.reservedYoctoNear := hreserved
  unfold feeOverrun
  split
  · rfl
  · rw [if_pos hfits]
    exact congrArg Except.ok (decide_eq_false (Nat.not_lt.mpr hcost))

/-- In every run in which processes follow one another, the bytes that an EVM row journals decode to a
transaction whose gas at its highest price, with the larger of the L1 fees that the readers estimated
for these very bytes, fits in the reservation of the row. So a receipt is an overrun only if the chain
charged more gas, a higher price or a larger L1 fee than that. -/
theorem reservation_covers_liability (moves : List Move)
    (hsolo : World.Always (fun w m => w.solo m = true) moves) (row : Settlement)
    (hrow : row ∈ (World.after moves).db.settlements) (bytes : Bytes)
    (hbytes : row.submittedTxRlp = some bytes) :
    ∃ signed primary backup, decode2718 bytes = some (.eip1559 signed, []) ∧
      (∃ e ∈ (World.after moves).log, e.event = ⟨.ask (.evmL1Fee .primary bytes), .ok primary⟩) ∧
      (∃ e ∈ (World.after moves).log, e.event = ⟨.ask (.evmL1Fee .backup bytes), .ok backup⟩) ∧
      signed.tx.gasLimit * signed.tx.maxFeePerGas + max primary backup ≤ row.reservedYoctoNear ∧
      row.reservedYoctoNear < 2 ^ 128 ∧
      ∀ hash object facts depth, parseRawReceipt hash (some object) = .ok (.mined facts) →
        facts.gasUsed ≤ signed.tx.gasLimit →
        (∀ price, HasQuantity object "effectiveGasPrice" price → price ≤ signed.tx.maxFeePerGas) →
        facts.l1FeeWei ≤ max primary backup →
          feeOverrun row (evmTerminalToNeutral (facts.terminalOutcome depth)) = .ok false := by
  obtain ⟨t, old, entry, hrewrote, hid⟩ :=
    World.exists_preparedEvm moves hrow (Option.isSome_of_eq_some hbytes)
  have hevolves := hrewrote.evolves hrow hid.symm
  obtain ⟨before, m, rest, op, rfl, hissued, htarget, hupdated⟩ := hrewrote
  obtain ⟨rfl, hentryid⟩ := StoreOp.eq_of_target_prepareEvm htarget
  have hprepare : World.Issued (before ++ m :: rest) t (.store (.markPreparedEvm entry)) :=
    ⟨before, m, rest, rfl, hissued⟩
  obtain ⟨hsettles, provider, payment, hprovider, -, hsigned, primary, backup, hprimary, hbackup,
    hcovers⟩ := hprepare.justified
  -- The bytes are still those of the entry, and the reservation is the one it found.
  have hentry : entry.submittedTxRlp = bytes := by
    have hsubmission := congrArg RowSubmission.submittedTxRlp (hevolves.prepared rfl).1
    exact Option.some.inj (hsubmission.symm.trans hbytes)
  have hreserved : row.reservedYoctoNear = t.role.state.config.reservationYoctoNear :=
    (hevolves.reservation rfl).1.trans (World.reservedUnder_of_worker hsolo hissued hsettles old
      hupdated.mem hentryid.symm hupdated.allowed.2)
  rw [hentry] at hprimary hbackup
  obtain ⟨txHash, -, htransfer⟩ := hsigned.signed
  obtain ⟨signed, hdecode, hgas, hfee⟩ := htransfer.exists_decoded
  obtain ⟨hcost, hfits⟩ := le_reservation_of_covers (t.role.state.serves hprovider).eip155 hcovers
  have hliability : signed.tx.gasLimit * signed.tx.maxFeePerGas + max primary backup ≤
      row.reservedYoctoNear :=
    calc signed.tx.gasLimit * signed.tx.maxFeePerGas + max primary backup
        ≤ provider.gasLimit * provider.maxFeePerGas + max primary backup :=
          Nat.add_le_add_right (Nat.mul_le_mul hgas.le hfee) _
      _ ≤ row.reservedYoctoNear := hreserved ▸ hcost
  refine ⟨signed, primary, backup, hentry ▸ hdecode, hprepare.logged (session_subset _ hprimary),
    hprepare.logged (session_subset _ hbackup), hliability, hreserved ▸ hfits, ?_⟩
  intro hash object facts depth hreceipt hused hprice hl1
  exact feeOverrun_of_within hliability (hreserved ▸ hfits) hreceipt hused hprice hl1 depth

end

section
open Sample

attribute [local instance] confirmationsNear confirmationsEvm

set_option maxRecDepth 100000 in
/-- The settled payment of a Base process. -/
theorem reservation_covers_liability_mined :
    ∃ row ∈ (World.after baseMined).db.settlements, row.state = .succeeded ∧
      ∃ bytes signed primary backup, row.submittedTxRlp = some bytes ∧
        decode2718 bytes = some (.eip1559 signed, []) ∧
        signed.tx.gasLimit * signed.tx.maxFeePerGas + max primary backup ≤
          row.reservedYoctoNear := by
  obtain ⟨-, row, hrow, -, hstate, -, hsome⟩ := baseMined_settled
  have hsolo : World.Always (fun w m => w.solo m = true) baseMined := by decide +kernel
  obtain ⟨bytes, hbytes⟩ := Option.isSome_iff_exists.mp hsome
  obtain ⟨signed, primary, backup, hdecode, -, -, hliability, -⟩ :=
    reservation_covers_liability baseMined hsolo row hrow bytes hbytes
  exact ⟨row, hrow, hstate, bytes, signed, primary, backup, hbytes, hdecode, hliability⟩

end

end X402Facilitator
