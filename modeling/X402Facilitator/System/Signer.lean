import X402Facilitator.System.Rows

/-!
# The key behind an EVM row

The column `signer_address` is written when a row is claimed; the key is used when it is prepared. In
between the row may go dormant and come back under a process that signs with another key, and
`resume_awaiting_retry` does not rewrite the column. As long as no process resumes a row of another
signer, the column names the key that signed the row's bytes, and the two unique indexes over it
constrain that key.
-/

namespace X402Facilitator

open Program

section
variable [NearPrimitives] [EvmPrimitives]

/-! ## The signer of a row -/

/-- The journal has the row `id`, and if it is an EVM row, its column names `signer`. -/
def Db.SignsFor (db : Db) (id : Uuid) (signer : String) : Prop :=
  ∃ r ∈ db.settlements, r.id = id ∧ (r.chainKind = .eip155 → r.signerAddress = some signer)

namespace Db.SignsFor

variable {db db' : Db} {id : Uuid} {signer : String}

omit [NearPrimitives] [EvmPrimitives]

theorem mono (h : db.Evolves db') (hsigns : db.SignsFor id signer) : db'.SignsFor id signer := by
  obtain ⟨r, hr, hid, hsigner⟩ := hsigns
  obtain ⟨row, hrow, hevolves⟩ := h.rows r hr
  have hkind : row.chainKind = r.chainKind := congrArg RowIdentity.chainKind hevolves.identity
  have hcolumn : row.signerAddress = r.signerAddress :=
    congrArg RowIdentity.signerAddress hevolves.identity
  exact ⟨row, hrow, hevolves.id_eq.trans hid, fun h => hcolumn.trans (hsigner (hkind ▸ h))⟩

theorem signerAddress (h : db.SignsFor id signer) {r : Settlement} (hr : r ∈ db.settlements)
    (hid : r.id = id) (hkind : r.chainKind = .eip155) : r.signerAddress = some signer := by
  obtain ⟨r', hr', hid', hsigner⟩ := h
  obtain rfl := db.eq_of_id hr hr' (hid.trans hid'.symm)
  exact hsigner hkind

end Db.SignsFor

/-- The address recovered from the row's EVM transaction. -/
def Settlement.signedBy? (r : Settlement) : Option Address :=
  r.submittedTxRlp.bind signerOfBytes

/-- The column of an EVM row names the key that signed its bytes. -/
def Settlement.NamesSigner (r : Settlement) : Prop :=
  r.chainKind = .eip155 → r.submittedTxRlp.isSome = true →
    ∃ address, r.signedBy? = some address ∧ r.signerAddress = some (addressText address)

/-! ## Resumes -/

namespace World

/-- The move resumes a dormant EVM row whose column names another signer than the resuming process
has. -/
def foreignResume (w : World) (m : Move) : Bool :=
  match w.issued? m with
  | some (t, .store (.resumeReservation retry _)) =>
    (w.db.settlement? retry.settlementId).any (fun r => r.chainKind = .eip155 ∧
        r.state = .awaitingRetry ∧ r.signerAddress ≠ some t.role.state.provider.signerAccountId) &&
      ((w.step m).db.settlement? retry.settlementId).any (·.state = .reserved)
  | _ => false

/-- No move resumes a row of another signer. -/
def OwnResumes (moves : List Move) : Prop := Always (fun w m => w.foreignResume m = false) moves

instance (moves : List Move) : Decidable (OwnResumes moves) :=
  inferInstanceAs (Decidable (Always _ moves))

/-- A resume that commits and is not foreign is for the process's own signer. -/
theorem signsFor_of_resumed {w : World} {m : Move} {t : Thread} {retry : RetryReservation}
    {usageDate : Day} {r : Settlement}
    (hissued : w.issued? m = some (t, .store (.resumeReservation retry usageDate)))
    (hid : r.id = retry.settlementId)
    (hupdated : Updated w.db (w.step m).db r (.resume retry usageDate))
    (hown : w.foreignResume m = false) :
    (w.step m).db.SignsFor retry.settlementId t.role.state.provider.signerAccountId := by
  refine ⟨_, hupdated.apply_mem, hid, fun hkind => ?_⟩
  by_contra hsigner
  have hbefore : w.db.settlement? retry.settlementId = some r :=
    Db.settlement?_eq_some.mpr ⟨hupdated.mem, hid⟩
  have hafter : (w.step m).db.settlement? retry.settlementId =
      some ((RowUpdate.resume retry usageDate).apply r) :=
    Db.settlement?_eq_some.mpr ⟨hupdated.apply_mem, hid⟩
  have hdormant : r.state = .awaitingRetry := hupdated.allowed
  have hkind' : r.chainKind = .eip155 := hkind
  have hsigner' : r.signerAddress ≠ some t.role.state.provider.signerAccountId := hsigner
  have hforeign : w.foreignResume m = true := by
    simp [foreignResume, hissued, hbefore, hafter, hkind', hdormant, hsigner', RowUpdate.apply]
  simp [hown] at hforeign

/-- A resume that a thread has been told of was for its own signer. -/
theorem signsFor_of_stored {moves : List Move} (hown : OwnResumes moves) {t : Thread}
    (ht : t ∈ (after moves).threads) {retry : RetryReservation} {usageDate : Day}
    (hstored : Stored t.past (.resumeReservation retry usageDate) ResumeReply.resumed) :
    (after moves).db.SignsFor retry.settlementId t.role.state.provider.signerAccountId := by
  obtain ⟨tid, past, ⟨x⟩⟩ := exists_moment_of_mem moves ht hstored
  obtain ⟨-, r, -, hid, hupdated⟩ | ⟨hne, -⟩ := resumeReservation_ok x.run
  · have hm := Always.at (x.split ▸ hown)
    rw [Moment.upTo, after_concat] at hupdated
    have hsigns := signsFor_of_resumed x.issued hid hupdated hm
    rw [← after_concat, x.role_eq] at hsigns
    exact hsigns.mono x.evolves
  · exact absurd rfl hne

/-- The row that a worker is started for is of its process's signer. -/
theorem signsFor_of_justified {moves : List Move} (hown : OwnResumes moves) {t : Thread}
    (ht : t ∈ (after moves).threads) {id : Uuid}
    (hworker : WorkerJustified t.role.state (session t.past) id) :
    (after moves).db.SignsFor id t.role.state.provider.signerAccountId := by
  have hattested := (attested_after moves t ht).session
  cases hworker with
  | claimed hclaim hnew hread hid =>
    obtain ⟨now, hrow⟩ := hattested _ _ hclaim rfl
    obtain ⟨hid', -⟩ := hattested _ _ hread _ rfl
    obtain ⟨row, hmem, hevolves⟩ := hrow.row
    refine Db.SignsFor.mono (.refl _) ⟨row, hmem, ?_, fun hkind => ?_⟩
    · exact hevolves.id_eq.trans (hid'.symm.trans hid)
    · have hidentity := hevolves.identity
      have hcolumn : row.signerAddress = _ := congrArg RowIdentity.signerAddress hidentity
      exact hcolumn.trans (hnew.evm ((congrArg RowIdentity.chainKind hidentity).symm.trans hkind))
  | resumed hresume hretry hread hid =>
    obtain ⟨hid', -⟩ := hattested _ _ hread _ rfl
    rw [← hid, hid']
    exact signsFor_of_stored hown ht (session_subset _ hresume)

/-- Every worker settles a row of its process's signer. -/
theorem signsFor_worker {moves : List Move} (hown : OwnResumes moves) {t : Thread}
    (ht : t ∈ (after moves).threads) {id : Uuid} (hsettles : t.role.task.settles id) :
    (after moves).db.SignsFor id t.role.state.provider.signerAccountId := by
  obtain ⟨i, hi⟩ := List.getElem?_of_mem ht
  obtain ⟨before, m, rest, rfl, hlaunched⟩ := exists_launch moves hi
  have hown' : OwnResumes before := (Run.always_append.mp hown).1
  cases htask : t.role.task with
  | settlementWorker id' request =>
    rw [htask] at hsettles
    obtain rfl : id' = id := hsettles
    cases hlaunched with
    | main fuel htask' hprocess =>
      rw [htask] at htask'
      obtain htask' | htask' := htask' <;> cases htask'
    | request fuel htask' hp hstate =>
      rw [htask] at htask'
      cases htask'
    | spawned hm hs hp hcall hpermits hprocess hstate =>
      have hjustified := justified_after before (List.mem_of_getElem? hs) hcall
      rw [htask] at hjustified
      have hworker := hjustified.resolve_left (by simp [Op.locks])
      have hsigns := signsFor_of_justified hown' (List.mem_of_getElem? hs) hworker
      rw [hstate]
      exact hsigns.mono (db_evolves before (m :: rest))
  | _ =>
    rw [htask] at hsettles
    exact hsettles.elim

/-- In a run without foreign resumes, every EVM row names the key that signed it. -/
theorem namesSigner_after {moves : List Move} (hown : OwnResumes moves) :
    ∀ r ∈ (after moves).db.settlements, r.NamesSigner := by
  induction moves using List.reverseRecOn with
  | nil => simp [after, init, Run.after_nil, Db.empty]
  | append_singleton moves m ih =>
    obtain ⟨hown, -⟩ := Always.concat hown
    rw [after_concat]
    intro row hrow
    obtain h | ⟨now, hissued, hclaimed, rfl⟩ | ⟨hissued, htarget, hupdated, rfl⟩ :=
      ((after moves).stepped m).rowStep hrow
    · exact ih hown row h
    · intro _ hsome
      cases hsome
    · rename_i t op r u
      cases u with
      | prepareEvm entry =>
        obtain ⟨rfl, hid⟩ := StoreOp.eq_of_target_prepareEvm htarget
        obtain ⟨ht, next, hcall⟩ := issued?_eq_some hissued
        obtain ⟨hsettles, provider, payment, hprovider, -, hsigned, -⟩ :=
          (justified_after moves ht hcall).store
        intro hkind _
        have hsigns := signsFor_worker hown ht hsettles
        refine ⟨provider.signerAddress, hsigned.signer, ?_⟩
        rw [hprovider] at hsigns
        exact (hsigns.signerAddress hupdated.mem hid.symm hkind :)
      | _ => exact ih hown r hupdated.mem

omit [NearPrimitives] in
/-- Two rows signed by one key carry the same text in the column. -/
theorem exists_signerAddress {r r' : Settlement} (hr : r.NamesSigner) (hr' : r'.NamesSigner)
    (hkind : r.chainKind = .eip155) (hkind' : r'.chainKind = .eip155) {address : Address}
    (hsigned : r.signedBy? = some address) (hsigned' : r'.signedBy? = some address) :
    ∃ signer, r.signerAddress = some signer ∧ r'.signerAddress = some signer := by
  have names {r : Settlement} (hr : r.NamesSigner) (hkind : r.chainKind = .eip155)
      (hsigned : r.signedBy? = some address) : r.signerAddress = some (addressText address) := by
    obtain ⟨bytes, hbytes, -⟩ := Option.bind_eq_some_iff.mp hsigned
    obtain ⟨address', hsigned', hcolumn⟩ := hr hkind (by simp [hbytes])
    obtain rfl := Option.some.inj (hsigned.symm.trans hsigned')
    exact hcolumn
  exact ⟨_, names hr hkind hsigned, names hr' hkind' hsigned'⟩

end World

open World in
/-- In every run in which no process resumes a row of another signer, the column `signer_address` of
a prepared or submitted EVM row is the address that signed its bytes. So the unique indexes bind the
key itself: it has one row in flight and uses a nonce once. And the process that prepared a row finds
its own signer in the column. -/
theorem journaled_signer_signs (moves : List Move) (hown : OwnResumes moves) :
    (∀ r ∈ (after moves).db.settlements, r.chainKind = .eip155 → r.state.inFlight = true →
      ∃ address, r.signedBy? = some address ∧ r.signerAddress = some (addressText address)) ∧
    (∀ r ∈ (after moves).db.settlements, ∀ r' ∈ (after moves).db.settlements,
      r.chainKind = .eip155 → r'.chainKind = .eip155 → r.network = r'.network →
      ∀ address, r.signedBy? = some address → r'.signedBy? = some address →
        (r.state.inFlight = true → r'.state.inFlight = true → r = r') ∧
        (∀ nonce, r.signerAccountNonce = some nonce → r'.signerAccountNonce = some nonce → r = r')) ∧
    ∀ before m rest, moves = before ++ m :: rest →
      ∀ t entry, (after before).issued? m = some (t, .store (.markPreparedEvm entry)) →
        ∀ r ∈ (after moves).db.settlements, r.id = entry.settlementId → r.chainKind = .eip155 →
          r.signerAddress = some t.role.state.provider.signerAccountId := by
  have hnames := namesSigner_after hown
  refine ⟨fun r hr hkind hstate => ?_, fun r hr r' hr' hkind hkind' hnetwork address hsigned hsigned' =>
    ?_, ?_⟩
  · obtain hnear | hevm := (Db.Witnessed.of_mem (audited_after moves) hr).submitted hstate
    · cases hkind.symm.trans hnear.1
    · exact hnames r hr hkind hevm.2.2.2.1
  · obtain ⟨signer, hcolumn, hcolumn'⟩ :=
      exists_signerAddress (hnames r hr) (hnames r' hr') hkind hkind' hsigned hsigned'
    refine ⟨fun hstate hstate' => ?_, fun nonce hnonce hnonce' => ?_⟩
    · have hkey {row : Settlement} (hkind : row.chainKind = .eip155)
          (hcolumn : row.signerAddress = some signer) (hstate : row.state.inFlight = true) :
          row.evmActiveSignerKey = some (row.network, asciiLower signer) := by
        have hholds : row.state.holdsReservation = true := by
          cases hs : row.state <;> simp_all [SettlementState.inFlight, SettlementState.holdsReservation]
        simp [Settlement.evmActiveSignerKey, hkind, hholds, hcolumn]
      refine (after moves).db.constraints.evmActiveSigner.eq_of_key hr hr'
        (hkey hkind hcolumn hstate) ?_
      rw [hkey hkind' hcolumn' hstate', hnetwork]
    · have hkey {row : Settlement} (hkind : row.chainKind = .eip155)
          (hcolumn : row.signerAddress = some signer) (hnonce : row.signerAccountNonce = some nonce) :
          row.evmSignerNonceKey = some (row.network, asciiLower signer, nonce) := by
        simp [Settlement.evmSignerNonceKey, hkind, hcolumn, hnonce]
      refine (after moves).db.constraints.evmSignerNonce.eq_of_key hr hr'
        (hkey hkind hcolumn hnonce) ?_
      rw [hkey hkind' hcolumn' hnonce', hnetwork]
  · rintro before m rest rfl t entry hissued r hr hid hkind
    obtain ⟨ht, next, hcall⟩ := issued?_eq_some hissued
    obtain ⟨hsettles, -⟩ := (justified_after before ht hcall).store
    have hsigns := signsFor_worker (Run.always_append.mp hown).1 ht hsettles
    exact (hsigns.mono (db_evolves before (m :: rest))).signerAddress hr hid hkind

end

/-! ## A row that comes back under another key -/

section
open Sample World

local instance signerNear : NearPrimitives := nearPrimitives
local instance signerEvm : EvmPrimitives := evmPrimitives

namespace Sample

/-- The leadership session is lost. -/
def sessionLost : (query : Query) → query.Answer
  | .heartbeat => .lost
  | query => answer query

/-- The same answers a day later. -/
def tomorrow (answer : (query : Query) → query.Answer) : (query : Query) → query.Answer
  | .utcToday => (2 : Nat)
  | query => answer query

/-- The worker of the claimed row journals its signed transaction. -/
def basePrepared : List Move := baseClaimed "1000" ++ steps answer 16 5

/-- The process loses its leadership before the worker has the lock, so the worker lets the row go
dormant. The service is started again with another signer, the client retries the next day, and the
new worker prepares the row. -/
def resigned : List Move :=
  baseClaimed "1000" ++ steps sessionLost 3 1 ++ steps answer 7 5 ++ [.crash 0] ++ baseStart 2 6 ++
    [.request 1 3] ++ steps (tomorrow (baseAnswer "1000")) 16 10 ++ steps answer 16 11

end Sample

set_option maxRecDepth 100000 in
theorem journaled_signer_signs_basePrepared : OwnResumes basePrepared ∧
    ∃ r ∈ (after basePrepared).db.settlements, r.chainKind = .eip155 ∧ r.state = .prepared ∧
      ∃ address, r.signedBy? = some address ∧ r.signerAddress = some (addressText address) := by
  have hrun : OwnResumes basePrepared ∧ ∃ r ∈ (after basePrepared).db.settlements,
      r.chainKind = .eip155 ∧ r.state = .prepared := by decide +kernel
  obtain ⟨hown, r, hr, hkind, hstate⟩ := hrun
  exact ⟨hown, r, hr, hkind, hstate,
    (journaled_signer_signs basePrepared hown).1 r hr hkind (by rw [hstate]; rfl)⟩

set_option maxRecDepth 100000 in
/-- The row is prepared with bytes that the address 2 signed, under the signer address 1: the signer
check of its own process will refuse it. -/
theorem resumed_row_names_former_signer :
    ∃ r ∈ (after resigned).db.settlements, r.chainKind = .eip155 ∧ r.state = .prepared ∧
      r.signedBy? = some 2 ∧ r.signerAddress = some (addressText 1) ∧
      ∃ p ∈ (after resigned).processes, p.alive = true ∧
        p.state.provider.signerAccountId = addressText 2 := by
  decide +kernel

end

end X402Facilitator
