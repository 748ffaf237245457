import X402Facilitator.System.Succession
import X402Facilitator.System.Broadcast

/-!
# What the relayer pays for

Every NEAR transaction that the system sends, first or again, carries one delegate action of the row's
payer: an `ft_transfer` of the row's amount of the row's asset to the row's recipient, with a deposit of
one yocto and no more gas than the preparing process sponsors. The worker checks the request that it
was given; the journal carries the result to whoever sends the bytes later.
-/

namespace X402Facilitator

open Program

section
variable [NearPrimitives] [EvmPrimitives]

/-! ## The delegated call -/

/-- The delegate action is one call of `ft_transfer` with these arguments, within the sponsored gas. -/
structure SignedDelegateAction.Transfers (delegate : SignedDelegateAction) (receiverId amount : String)
    (maxSponsoredGas : Nat) : Prop where
  call : ∃ call, delegate.actions = [.functionCall call] ∧ call.methodName = "ft_transfer" ∧
    NearPrimitives.ftTransferArgs call.args = some (receiverId, amount) ∧ call.deposit = 1 ∧
    call.gas ≤ maxSponsoredGas

omit [EvmPrimitives] in
theorem decodeFtTransferArgs_ok {input : Bytes} {args : String × String}
    (h : decodeFtTransferArgs input = .ok args) : NearPrimitives.ftTransferArgs input = some args := by
  unfold decodeFtTransferArgs at h
  split at h
  · cases h
  · rename_i hargs
    obtain ⟨-, h⟩ := Except.of_ite_error h
    rw [hargs, Except.ok.inj h]

omit [EvmPrimitives] in
theorem checkTransfer_ok {delegate : SignedDelegateAction} {requirements : WireRequirements}
    {maxSponsoredGas : Nat} (h : checkTransfer delegate requirements maxSponsoredGas = .ok ()) :
    delegate.receiverId.text = requirements.asset ∧
      delegate.Transfers requirements.payTo requirements.amount maxSponsoredGas := by
  unfold checkTransfer at h
  split at h
  · rename_i call hactions
    obtain ⟨hmethod, h⟩ := Except.of_ite_error h
    obtain ⟨hasset, h⟩ := Except.of_ite_error h
    obtain ⟨⟨receiverId, amount⟩, hargs, h⟩ := Except.exists_of_bind h
    obtain ⟨hpayTo, h⟩ := Except.of_ite_error h
    obtain ⟨hamount, h⟩ := Except.of_ite_error h
    obtain ⟨hdeposit, h⟩ := Except.of_ite_error h
    obtain ⟨hgas, -⟩ := Except.of_ite_error h
    obtain rfl := not_not.mp hpayTo
    obtain rfl := not_not.mp hamount
    exact ⟨not_not.mp hasset, call, hactions, not_not.mp hmethod, decodeFtTransferArgs_ok hargs,
      not_not.mp hdeposit, Nat.not_lt.mp hgas⟩
  · cases h
  · cases h

/-- What a NEAR payment that was verified offline asks the relayer to send. -/
structure NearVerifiedPayment.Sponsored (payment : NearVerifiedPayment) (relayer : NearProvider)
    (maxSponsoredGas : Nat) : Prop where
  signature : verifyDelegate payment.signedDelegate = true
  sender : payment.signedDelegate.senderId = payment.payer
  sender_ne : payment.payer ≠ relayer.accountId
  asset : payment.signedDelegate.receiverId = payment.requirements.asset
  transfer : ∃ amount, payment.signedDelegate.Transfers payment.requirements.payTo.text amount
      maxSponsoredGas ∧ parseDecimal amount = some payment.requirements.amount
  paymentHash : signedDelegateHash payment.signedDelegate = some payment.paymentHash

theorem VerifiedFrom.sponsored {h : History Op.Answer} {request : Json} {maxSponsoredGas : Nat}
    {relayer : NearProvider} {payment : NearVerifiedPayment}
    (hverified : VerifiedFrom h request maxSponsoredGas (.near relayer) (.ofNear payment)) :
    payment.Sponsored relayer maxSponsoredGas := by
  generalize hof : VerifiedPayment.ofNear payment = verified at hverified
  cases hverified with
  | near hoffline hasset hpayTo hamount =>
    rename_i offline asset payTo amount
    obtain rfl := VerifiedDetail.near.inj (congrArg VerifiedPayment.detail hof)
    obtain ⟨wire, encoded, hchecked⟩ := verifyOffline_ok hoffline
    have htransfer := hchecked.transfer_ok
    rw [← hchecked.requirements_eq] at htransfer
    obtain ⟨hreceiver, hcall⟩ := checkTransfer_ok htransfer
    have hpayTo := AccountId.parse_eq_some.mp hpayTo
    have hasset := (AccountId.parse_eq_some.mpr hreceiver).symm.trans hasset
    exact {
      signature := hchecked.signature
      sender := rfl
      sender_ne := hchecked.sender
      asset := Option.some.inj hasset
      transfer := ⟨_, hpayTo ▸ hcall, hamount⟩
      paymentHash := signedDelegateHash_of_decode hchecked.decoded_ok }

/-! ## The row -/

/-- The signed transaction pays for the transfer of the row, and for nothing else: `relayer` is who
signs, and `maxSponsoredGas` what it pays for at most. -/
structure Settlement.Sponsors (row : Settlement) (relayer : NearProvider) (maxSponsoredGas : Nat)
    (signed : SignedTransaction) (delegate : SignedDelegateAction) : Prop where
  signerId : signed.transaction.signerId = relayer.accountId
  publicKey : signed.transaction.publicKey = relayer.publicKey
  receiverId : signed.transaction.receiverId.text = row.payer
  actions : signed.transaction.actions = [.delegate delegate]
  signature : verifyDelegate delegate = true
  sender : delegate.senderId.text = row.payer
  sender_ne : delegate.senderId ≠ relayer.accountId
  asset : delegate.receiverId.text = row.asset
  transfer : ∃ payTo amount, delegate.Transfers payTo amount maxSponsoredGas ∧
    eqIgnoreAsciiCase row.payTo payTo ∧ parseDecimal amount = some row.amount
  paymentHash : signedDelegateHash delegate = some row.paymentHash

/-- The request that a row was claimed for was for the configured asset, for no less than the
configured minimum, and to a payee that its client was allowed to have paid. -/
structure Settlement.AdmittedBy (row : Settlement) (t : Thread) : Prop where
  network : row.network = t.role.state.config.network
  asset : configuredAssetMatches t.role.state.config.chainKind t.role.state.config.asset row.asset = true
  amount : t.role.state.config.minimumAmount ≤ row.amount
  allowed : Asked t.past (.payeeAllowed row.apiClientId row.network row.asset row.payTo) (.ok true)

/-- The columns of a claim that come from the request as it was parsed. -/
theorem newSettlement_requested (state : AppState) (id : Uuid) (request : ParsedRequest)
    (key : RequestKey) (verified : VerifiedPayment) (usageDate : Day) (now : Nat) :
    let row := (newSettlement state id request key verified).row usageDate now
    row.apiClientId = key.client.id ∧ row.network = request.metadata.network ∧
      row.asset = request.metadata.asset ∧ row.payTo = request.metadata.payTo ∧
      row.amount = request.metadata.amount := by
  unfold newSettlement
  dsimp only
  split <;> exact ⟨rfl, rfl, rfl, rfl, rfl⟩

theorem World.ClaimOf.admittedBy {moves : List Move} {row : Settlement} {t : Thread}
    {new : NewSettlement} (h : World.ClaimOf moves row t new) : row.AdmittedBy t := by
  obtain ⟨id, client, request, paymentHash, verified, hadmitted, rfl⟩ := h.justified
  obtain ⟨usageDate, now, hidentity⟩ := h.identity
  obtain ⟨hclient, hnetwork, hasset, hpayTo, hamount⟩ := newSettlement_requested t.role.state id
    request (request.key client paymentHash) verified usageDate now
  have hclient : row.apiClientId = client.id :=
    (congrArg RowIdentity.apiClientId hidentity).trans hclient
  have hnetwork : row.network = request.metadata.network :=
    (congrArg RowIdentity.network hidentity).trans hnetwork
  have hasset : row.asset = request.metadata.asset :=
    (congrArg RowIdentity.asset hidentity).trans hasset
  have hpayTo : row.payTo = request.metadata.payTo :=
    (congrArg RowIdentity.payTo hidentity).trans hpayTo
  have hamount : row.amount = request.metadata.amount :=
    (congrArg RowIdentity.amount hidentity).trans hamount
  have hmeets := meets_of_staticFailureReason hadmitted.static
  exact {
    network := hnetwork.trans hmeets.network
    asset := hasset ▸ hmeets.asset
    amount := hamount ▸ hmeets.amount
    allowed := by
      rw [hclient, hnetwork, hasset, hpayTo]
      exact hadmitted.allowed }

namespace World

variable {moves : List Move}

/-- The signed bytes of a NEAR row were journaled by one thread. -/
theorem exists_prepared (moves : List Move) {row : Settlement}
    (hrow : row ∈ (after moves).db.settlements) (hbytes : row.outerTransactionBytes.isSome) :
    ∃ t old entry, Rewrote moves t old (.prepare entry) ∧ old.id = row.id := by
  have hupdated (r : Settlement) (u : RowUpdate) (hr : (u.apply r).outerTransactionBytes.isSome) :
      r.outerTransactionBytes.isSome ∨ ∃ entry, u = .prepare entry := by
    cases u with
    | prepare entry => exact .inr ⟨entry, rfl⟩
    | _ => exact .inl hr
  obtain ⟨t, old, u, h, ⟨entry, rfl⟩, hid⟩ :=
    exists_rewrote (P := fun r => r.outerTransactionBytes.isSome) (fun _ _ _ hnew => by cases hnew)
      hupdated moves row hrow hbytes
  exact ⟨t, old, entry, h, hid⟩

/-- The bytes of a NEAR row are a transaction that the preparing process sponsors for the row. -/
theorem exists_sponsors (moves : List Move) {row : Settlement}
    (hrow : row ∈ (after moves).db.settlements) (hkind : row.chainKind = .near) {bytes : Bytes}
    (hbytes : row.outerTransactionBytes = some bytes) :
    ∃ t entry relayer signed delegate, Issued moves t (.store (.markPrepared entry)) ∧
      entry.settlementId = row.id ∧ t.role.state.provider = .near relayer ∧ bytes = borsh signed ∧
      row.Sponsors relayer t.role.state.config.maxInnerGas signed delegate := by
  obtain ⟨t, old, entry, hrewrote, hid⟩ := exists_prepared moves hrow (Option.isSome_of_eq_some hbytes)
  have hevolves := hrewrote.evolves hrow hid.symm
  obtain ⟨before, m, rest, op, rfl, hissued, htarget, hupdated⟩ := hrewrote
  obtain ⟨rfl, hentryid⟩ := StoreOp.eq_of_target_prepare htarget
  have hprepare : Issued (before ++ m :: rest) t (.store (.markPrepared entry)) :=
    ⟨before, m, rest, rfl, hissued⟩
  obtain ⟨-, relayer, payment, hprovider, hconfirmed, hsigned⟩ := hprepare.justified
  obtain ⟨signed, blockHash, hentry, -, htransaction⟩ := hsigned.signed
  have hentrybytes : entry.transactionBytes = bytes := by
    have hsubmission := congrArg RowSubmission.outerTransactionBytes (hevolves.prepared rfl).1
    exact Option.some.inj (hsubmission.symm.trans hbytes)
  -- What the worker compared the payment with is the identity of the row, which never changes.
  obtain ⟨journaled, hread, hmatches⟩ := hconfirmed.journaled
  obtain ⟨hjournaledid, hwitnessed⟩ := hprepare.attested (session_subset _ hread) journaled rfl
  have hidentity := (hwitnessed.evolves hrow
    (hid.symm.trans (hentryid.symm.trans hjournaledid.symm))).identity
  obtain ⟨request, -, hverified⟩ := hconfirmed.verified
  rw [hprovider] at hverified
  have hsponsored := hverified.sponsored
  obtain ⟨-, hhash, -, -, hpayer, -, hasset, hpayTo, hle, hge⟩ := of_decide_eq_true hmatches
  have hpayer : row.payer = payment.payer.text :=
    (congrArg RowIdentity.payer hidentity).trans hpayer
  have hasset : eqIgnoreAsciiCase row.asset payment.requirements.asset.text := by
    rwa [show row.asset = journaled.asset from congrArg RowIdentity.asset hidentity]
  have hpayTo : eqIgnoreAsciiCase row.payTo payment.requirements.payTo.text := by
    rwa [show row.payTo = journaled.payTo from congrArg RowIdentity.payTo hidentity]
  have hamount : row.amount = payment.requirements.amount :=
    (congrArg RowIdentity.amount hidentity).trans (Nat.le_antisymm hge hle)
  refine ⟨t, entry, relayer, signed, payment.signedDelegate, hprepare, hentryid.trans hid, hprovider,
    hentrybytes.symm.trans hentry, ?_⟩
  obtain ⟨amount, hcall, hdecimal⟩ := hsponsored.transfer
  have hvalid := (sound_after _ row hrow).asset hkind
  exact {
    signerId := by rw [htransaction]; rfl
    publicKey := by rw [htransaction]; rfl
    receiverId := by rw [htransaction, hpayer]; rfl
    actions := by rw [htransaction]; rfl
    signature := hsponsored.signature
    sender := by rw [hsponsored.sender, hpayer]
    sender_ne := by rw [hsponsored.sender]; exact hsponsored.sender_ne
    asset := by
      rw [hsponsored.asset]
      exact (eq_of_eqIgnoreAsciiCase hvalid payment.requirements.asset.valid hasset).symm
    transfer := ⟨_, amount, hcall, hpayTo, by rw [hdecimal, hamount]⟩
    paymentHash := hsponsored.paymentHash.trans
      (congrArg some (hhash.symm.trans (congrArg RowIdentity.paymentHash hidentity).symm)) }

/-- What is sent to a NEAR node is the signed transaction of a row of the journal. -/
theorem exists_row_of_nearSend {t : Thread} {signed : SignedTransaction}
    (h : Issued moves t (.ask (.nearSend signed))) :
    ∃ row ∈ (after moves).db.settlements, row.chainKind = .near ∧
      ∃ bytes, row.outerTransactionBytes = some bytes ∧ decodeSignedTransaction bytes = .ok signed := by
  obtain ⟨before, m, rest, rfl, hissued⟩ := h
  obtain ⟨ht, next, hcall⟩ := issued?_eq_some hissued
  obtain hlocks | ⟨r, bytes, hsend, hbytes, hdecode⟩ := justified_after before ht hcall
  · cases hlocks
  obtain ⟨row₀, hholds⟩ := hsend.knows.holds (attested_after before t ht).session
  have hbytes₀ : row₀.outerTransactionBytes = some bytes :=
    (congrArg RowSubmission.outerTransactionBytes hholds.submission).trans hbytes
  obtain ⟨row, hrow, hevolves⟩ := (db_evolves before (m :: rest)).rows row₀ hholds.mem
  refine ⟨row, hrow, ?_, bytes, ?_, hdecode⟩
  · exact (congrArg RowIdentity.chainKind hevolves.identity).trans
      (hholds.near (Option.isSome_of_eq_some hbytes₀))
  · exact (congrArg RowSubmission.outerTransactionBytes
      (hevolves.prepared hholds.beforePrepare).1).trans hbytes₀

end World

/-- In every run, whatever is sent to a NEAR node, by a worker or by recovery, is validly signed by the
relayer of a process that prepared it, and pays for exactly one thing: the transfer, delegated and
signed by the payer of a row of the journal, of the row's amount of the row's asset to the row's
recipient, within the gas that this process sponsors. The row was claimed for the asset that the
claiming process is configured for, for no less than its minimum, and to an allowed payee. -/
theorem sponsorship_confined (moves : List Move) (t : Thread) (signed : SignedTransaction)
    (h : World.Issued moves t (.ask (.nearSend signed))) :
    verifySignature signed.signature (transactionHash signed.transaction)
        signed.transaction.publicKey = true ∧
      ∃ row ∈ (World.after moves).db.settlements, row.outerTransactionBytes = some (borsh signed) ∧
        ∃ s entry relayer delegate, World.Issued moves s (.store (.markPrepared entry)) ∧
          entry.settlementId = row.id ∧ s.role.state.provider = .near relayer ∧
          row.Sponsors relayer s.role.state.config.maxInnerGas signed delegate ∧
          ∃ c new, World.ClaimOf moves row c new ∧ row.AdmittedBy c := by
  obtain ⟨row, hrow, hkind, bytes, hbytes, hdecode⟩ := World.exists_row_of_nearSend h
  obtain ⟨hslice, hsignature⟩ := decodeSignedTransaction_ok_iff.mp hdecode
  obtain ⟨s, entry, relayer, signed', delegate, hprepare, hid, hprovider, rfl, hsponsors⟩ :=
    World.exists_sponsors moves hrow hkind hbytes
  obtain rfl := NearPrimitives.eq_of_tryFromSlice_borsh hslice
  obtain ⟨c, new, hclaim⟩ := World.exists_claim moves row hrow
  exact ⟨hsignature, row, hrow, hbytes, s, entry, relayer, delegate, hprepare, hid, hprovider,
    hsponsors, c, new, hclaim, hclaim.admittedBy⟩

end

/-- The transaction that a move sends to a NEAR node. -/
def Sample.nearSent? : Op → Option SignedTransaction
  | .ask (.nearSend signed) => some signed
  | _ => none

section
open Sample

local instance sponsorshipNear : NearPrimitives := nearPrimitives
local instance sponsorshipEvm : EvmPrimitives := evmPrimitives

set_option maxRecDepth 100000 in
/-- The worker of a claimed row sends its transaction. -/
theorem sponsorship_confined_sent :
    ∃ t signed, World.Issued (claimed ++ steps answer 33 5) t (.ask (.nearSend signed)) ∧
      ∃ row ∈ (World.after (claimed ++ steps answer 33 5)).db.settlements,
        row.outerTransactionBytes = some (borsh signed) ∧
        ∃ relayer maxSponsoredGas delegate,
          row.Sponsors relayer maxSponsoredGas signed delegate := by
  have hsends : ((World.after (claimed ++ steps answer 32 5)).issued? (next 5)).any
      (fun (_, o) => (nearSent? o).isSome) = true := by decide +kernel
  obtain ⟨⟨t, o⟩, hissued, ho⟩ := (Option.any_eq_true _ _).mp hsends
  obtain ⟨signed, ho⟩ := Option.isSome_iff_exists.mp ho
  obtain rfl : o = .ask (.nearSend signed) := by
    unfold nearSent? at ho
    split at ho
    · rw [Option.some.inj ho]
    · cases ho
  have hsent : World.Issued (claimed ++ steps answer 33 5) t (.ask (.nearSend signed)) :=
    ⟨claimed ++ steps answer 32 5, next 5, [], by
      rw [List.append_assoc, steps, steps, next, List.replicate_succ'], hissued⟩
  obtain ⟨-, row, hrow, hbytes, s, -, relayer, delegate, -, -, -, hsponsors, -⟩ :=
    sponsorship_confined _ t signed hsent
  exact ⟨t, signed, hsent, row, hrow, hbytes, relayer, _, delegate, hsponsors⟩

end

end X402Facilitator
