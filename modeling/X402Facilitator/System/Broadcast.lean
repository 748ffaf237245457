import X402Facilitator.System.Rows

/-!
# No double submission

Whatever goes to an RPC node is the journaled submission of a row that has been committed as
submitted. The journal fixes a submission when it is first written and holds one row for each payment
anchor and one NEAR submission for each nonce of a relayer key, so at most one signed transaction is
ever sent for either, in any interleaving of any number of processes.
-/

namespace X402Facilitator

open Program

section
variable [NearPrimitives] [EvmPrimitives]

/-- The bytes that an operation hands to an RPC node. -/
def Op.sentBytes : Op → Option Bytes
  | ask (.nearSend signed) => some (borsh signed)
  | ask (.evmSend bytes) => some bytes
  | _ => none

/-- The bytes that a move hands to an RPC node. -/
def World.sends (w : World) (m : Move) : Option Bytes :=
  (w.issued? m).bind fun (_, o) => o.sentBytes

/-- What is sent is known to be the submission of a submitted row. -/
theorem Justified.sent {role : Role} {h : History Op.Answer} {o : Op} {bytes : Bytes}
    (ho : Justified role h o) (hbytes : o.sentBytes = some bytes) :
    ∃ r, MaySend role h r ∧
      (r.outerTransactionBytes = some bytes ∨ r.submittedTxRlp = some bytes) := by
  unfold Op.sentBytes at hbytes
  split at hbytes
  · obtain ⟨r, stored, hsend, hstored, hdecode⟩ := ho
    obtain rfl := Option.some.inj hbytes
    exact ⟨r, hsend, .inl (hstored.trans
      (congrArg some (borsh_of_decodeSignedTransaction hdecode).symm))⟩
  · obtain ⟨r, hsend, hstored⟩ := ho
    obtain rfl := Option.some.inj hbytes
    exact ⟨r, hsend, .inr hstored⟩
  · cases hbytes

namespace World

/-- What a move sends is the submission of a row that has been committed as submitted. -/
theorem exists_submitted_of_sends {moves : List Move} {m : Move} {bytes : Bytes}
    (h : (after moves).sends m = some bytes) :
    ∃ row ∈ (after moves).db.settlements, row.submissionBytes = some bytes ∧
      ∃ e ∈ (after moves).db.trail row.id, e.toState = .submitted := by
  obtain ⟨⟨t, o⟩, hissued, hbytes⟩ := Option.bind_eq_some_iff.mp h
  obtain ⟨ht, next, hcall⟩ := issued?_eq_some hissued
  have hattested := (attested_after moves t ht).session
  obtain hlock | hjustified := justified_after moves ht hcall
  · cases o with
    | lockRelayer | unlockRelayer => cases hbytes
    | _ => cases hlock
  obtain ⟨r, ⟨hr, hsubmitted, -, -⟩, hstored⟩ := hjustified.sent hbytes
  obtain ⟨row, hrow⟩ := hr.holds hattested
  obtain ⟨e, he, hid, hto⟩ := hsubmitted.event hattested hr
  refine ⟨row, hrow.mem, hstored.elim hrow.submissionBytes_near hrow.submissionBytes_evm, e, ?_, hto⟩
  exact List.mem_filter.mpr ⟨he, by simp [hid, hrow.id_eq]⟩

/-- A submission is written once: it is absent, or what it is at every later moment. -/
theorem submission_eq_of_later (moves more : List Move) {row row' : Settlement}
    (hrow : row ∈ (after moves).db.settlements)
    (hrow' : row' ∈ (after (moves ++ more)).db.settlements) (hid : row'.id = row.id) :
    row.unsubmitted ∨ row'.submission = row.submission := by
  obtain ⟨later, hlater, hevolves⟩ := (db_evolves moves more).rows row hrow
  obtain rfl : row' = later := Db.eq_of_id _ hrow' hlater (hid.trans hevolves.id_eq.symm)
  cases hbefore : row.state.beforePrepare with
  | true => exact .inl (((audited_after moves).rows row hrow).unsubmitted hbefore)
  | false => exact .inr (hevolves.prepared hbefore).1

/-- One row for each anchor, over time. -/
theorem id_eq_of_anchor (moves more : List Move) {row row' : Settlement}
    (hrow : row ∈ (after moves).db.settlements)
    (hrow' : row' ∈ (after (moves ++ more)).db.settlements) (hanchor : row'.anchor = row.anchor) :
    row'.id = row.id := by
  obtain ⟨later, hlater, hevolves⟩ := (db_evolves moves more).rows row hrow
  have hsame : later.anchor = row.anchor := by
    rw [Settlement.anchor, Settlement.anchor,
      show later.anchorScope = row.anchorScope from congrArg RowIdentity.anchorScope hevolves.identity,
      show later.anchorValue = row.anchorValue from congrArg RowIdentity.anchorValue hevolves.identity]
  have heq : row' = later := (after (moves ++ more)).db.constraints.anchor.eq_of_key hrow' hlater rfl
    (congrArg some (hsame.trans hanchor.symm))
  rw [heq, hevolves.id_eq]

/-- The row of an earlier submission still has it, and its place in the audit log. -/
theorem exists_later_submission (moves more : List Move) {row : Settlement} {bytes : Bytes}
    (hrow : row ∈ (after moves).db.settlements) (hbytes : row.submissionBytes = some bytes)
    (hevent : ∃ e ∈ (after moves).db.trail row.id, e.toState = .submitted) :
    ∃ row' ∈ (after (moves ++ more)).db.settlements, row'.submissionBytes = some bytes ∧
      ∃ e ∈ (after (moves ++ more)).db.trail row'.id, e.toState = .submitted := by
  have hdb := db_evolves moves more
  obtain ⟨row', hrow', hevolves⟩ := hdb.rows row hrow
  obtain ⟨e, he, hto⟩ := hevent
  obtain ⟨he, hid⟩ := List.mem_filter.mp he
  refine ⟨row', hrow', ?_, e, List.mem_filter.mpr ⟨hdb.events e he, ?_⟩, hto⟩
  · have hkind : row'.chainKind = row.chainKind := congrArg RowIdentity.chainKind hevolves.identity
    obtain ⟨-, -, -, hnone, -, -, hnone', -⟩ | hsame :=
      submission_eq_of_later moves more hrow hrow' hevolves.id_eq
    · cases hchain : row.chainKind <;> simp [Settlement.submissionBytes, hchain, hnone, hnone'] at hbytes
    · rw [← hbytes, Settlement.submissionBytes, Settlement.submissionBytes, hkind,
        show row'.outerTransactionBytes = row.outerTransactionBytes from
          congrArg RowSubmission.outerTransactionBytes hsame,
        show row'.submittedTxRlp = row.submittedTxRlp from congrArg RowSubmission.submittedTxRlp hsame]
  · simpa [hevolves.id_eq] using hid

/-- The bytes were handed to an RPC node in the run. -/
def Sent (moves : List Move) (bytes : Bytes) : Prop :=
  ∃ before m rest, moves = before ++ m :: rest ∧ (after before).sends m = some bytes

/-- The bytes were sent in the run, and `row` is a row that holds them at its end. -/
structure SentFor (moves : List Move) (bytes : Bytes) (row : Settlement) : Prop where
  sent : Sent moves bytes
  mem : row ∈ (after moves).db.settlements
  bytes : row.submissionBytes = some bytes

/-- Whatever was sent in a run is the submission of a row that was committed as submitted. -/
theorem Sent.exists_row {moves : List Move} {bytes : Bytes} (h : Sent moves bytes) :
    ∃ row, SentFor moves bytes row ∧
      ∃ e ∈ (after moves).db.trail row.id, e.toState = .submitted := by
  obtain ⟨before, m, rest, rfl, hsends⟩ := id h
  obtain ⟨row, hrow, hbytes, hevent⟩ := exists_submitted_of_sends hsends
  obtain ⟨row', hrow', hbytes', hevent'⟩ :=
    exists_later_submission before (m :: rest) hrow hbytes hevent
  exact ⟨row', ⟨h, hrow', hbytes'⟩, hevent'⟩

theorem SentFor.bytes_eq_of_anchor {moves : List Move} {bytes bytes' : Bytes}
    {row row' : Settlement} (h : SentFor moves bytes row) (h' : SentFor moves bytes' row')
    (hanchor : row.anchor = row'.anchor) : bytes = bytes' := by
  obtain rfl := (after moves).db.constraints.anchor.eq_of_key h.mem h'.mem rfl
    (congrArg some hanchor.symm)
  exact Option.some.inj (h.bytes.symm.trans h'.bytes)

/-- A NEAR submission is one signed transaction, under the nonce key of its row. -/
theorem SentFor.exists_signed {moves : List Move} {bytes : Bytes} {row : Settlement}
    (h : SentFor moves bytes row) (hnear : row.chainKind = .near) :
    ∃ signed : SignedTransaction, bytes = borsh signed ∧
      row.relayerNonceKey = some (row.network, signed.transaction.signerId.text,
        signed.transaction.publicKey, signed.transaction.nonce) := by
  have hbytes := h.bytes
  simp only [Settlement.submissionBytes, hnear] at hbytes
  obtain ⟨-, hnone, -⟩ | ⟨signed, hsigned, -, haccount, hkey, hnonce⟩ :=
    (sound_after moves row h.mem).near
  · simp [hnone] at hbytes
  · refine ⟨signed, Option.some.inj (hbytes.symm.trans hsigned), ?_⟩
    simp [Settlement.relayerNonceKey, haccount, hkey, hnonce]

theorem SentFor.bytes_eq_of_nonce {moves : List Move} {bytes bytes' : Bytes}
    {row row' : Settlement} (h : SentFor moves bytes row) (h' : SentFor moves bytes' row')
    (hnear : row.chainKind = .near) (hkey : row.relayerNonceKey = row'.relayerNonceKey) :
    bytes = bytes' := by
  obtain ⟨signed, -, hsigned⟩ := h.exists_signed hnear
  obtain rfl := (after moves).db.constraints.relayerNonce.eq_of_key h.mem h'.mem hsigned
    (hkey ▸ hsigned)
  exact Option.some.inj (h.bytes.symm.trans h'.bytes)

end World

open World in
/-- For every interleaving of any number of processes, with crashes and lost replies: what goes to an
RPC node is the submission of a row that has been committed as submitted; a submission is written at
most once; a payment anchor has at most one row. Hence whatever is sent in a run belongs to a row,
and two things sent for one anchor, or for one NEAR nonce of one relayer key, are the same
transaction. -/
theorem no_double_submission (moves more : List Move) :
    (∀ m bytes, (after moves).sends m = some bytes →
      ∃ row ∈ (after moves).db.settlements, row.submissionBytes = some bytes ∧
        ∃ e ∈ (after moves).db.trail row.id, e.toState = .submitted) ∧
    (∀ row ∈ (after moves).db.settlements, ∀ row' ∈ (after (moves ++ more)).db.settlements,
      (row'.id = row.id → row.unsubmitted ∨ row'.submission = row.submission) ∧
      (row'.anchor = row.anchor → row'.id = row.id)) ∧
    (∀ bytes, Sent moves bytes → ∃ row, SentFor moves bytes row ∧
      ∃ e ∈ (after moves).db.trail row.id, e.toState = .submitted) ∧
    (∀ bytes bytes' row row', SentFor moves bytes row → SentFor moves bytes' row' →
      row.anchor = row'.anchor → bytes = bytes') ∧
    (∀ bytes row, SentFor moves bytes row → row.chainKind = .near →
      ∃ signed : SignedTransaction, bytes = borsh signed ∧
        row.relayerNonceKey = some (row.network, signed.transaction.signerId.text,
          signed.transaction.publicKey, signed.transaction.nonce)) ∧
    ∀ bytes bytes' row row', SentFor moves bytes row → SentFor moves bytes' row' →
      row.chainKind = .near → row.relayerNonceKey = row'.relayerNonceKey → bytes = bytes' :=
  ⟨fun _ _ => exists_submitted_of_sends,
    fun _ hrow _ hrow' => ⟨submission_eq_of_later moves more hrow hrow',
      id_eq_of_anchor moves more hrow hrow'⟩,
    fun _ => Sent.exists_row,
    fun _ _ _ _ => SentFor.bytes_eq_of_anchor,
    fun _ _ => SentFor.exists_signed,
    fun _ _ _ _ => SentFor.bytes_eq_of_nonce⟩

end

section
local instance broadcastNear : NearPrimitives := Sample.nearPrimitives
local instance broadcastEvm : EvmPrimitives := Sample.evmPrimitives

-- The relayer is at nonce 7 and an encoded transaction is its nonce.
set_option maxRecDepth 100000 in
example : (World.after (Sample.claimed ++ Sample.steps Sample.answer 32 5)).sends (Sample.next 5) =
    some [8] := by
  decide +kernel

end

end X402Facilitator
