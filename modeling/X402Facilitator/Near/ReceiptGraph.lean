import X402Facilitator.Near.Receipt

/-!
# What the receipt walk decides

The walk over the receipts of a final outcome against a declarative reading of it: which outcomes are
accepted, that both loops end, that no hash table order shows, and what a definitive failure means.
-/

namespace X402Facilitator

open Relation

/-! ## The graph of an outcome -/

/-- The status neither failed nor is it unknown. -/
def ExecutionStatusView.Completed (status : ExecutionStatusView) : Prop :=
  executionFailure status = none ∧ status ≠ .unknown

/-- The receipt `parent` has an outcome that created the receipt `child`. -/
def CreatedBy (outcomes : List ExecutionOutcomeView) (parent child : CryptoHash) : Prop :=
  ∃ receipt ∈ outcomes, receipt.id = parent ∧ child ∈ receipt.receiptIds

def ExecutedOn (outcomes : List ExecutionOutcomeView) (account : AccountId) (id : CryptoHash) :
    Prop :=
  ∃ receipt ∈ outcomes, receipt.id = id ∧ receipt.executorId = account

instance {outcomes : List ExecutionOutcomeView} {account : AccountId} :
    DecidablePred (ExecutedOn outcomes account) :=
  fun _ => inferInstanceAs (Decidable (∃ _ ∈ _, _))

/-- The outcome proves the transfer: the transaction created one receipt, the payer's delegate
receipt; everything that follows from it has an outcome, completed, and is free of cycles; and one
direct child of the delegate receipt executed on the asset and returned a value. -/
structure FinalExecutionOutcomeView.ProvesTransfer (outcome : FinalExecutionOutcomeView)
    (payer asset : AccountId) (delegate token : ExecutionOutcomeView)
    (receipt : SuccessfulTransferReceipt) : Prop where
  status : ∃ value, outcome.status = .successValue value
  transaction : outcome.transactionOutcome.status.Completed
  child : outcome.transactionOutcome.receiptIds = [delegate.id]
  distinct : (outcome.receiptsOutcome.map (·.id)).Nodup
  delegate_mem : delegate ∈ outcome.receiptsOutcome
  executor : delegate.executorId = payer
  completed : ∀ id, ReflTransGen (CreatedBy outcome.receiptsOutcome) delegate.id id →
    ∃ receipt ∈ outcome.receiptsOutcome, receipt.id = id ∧ receipt.status.Completed
  acyclic : ∀ id, ReflTransGen (CreatedBy outcome.receiptsOutcome) delegate.id id →
    ¬ TransGen (CreatedBy outcome.receiptsOutcome) id id
  token_mem : token ∈ outcome.receiptsOutcome
  token_child : token.id ∈ delegate.receiptIds
  token_executor : token.executorId = asset
  token_unique : delegate.receiptIds.countP (ExecutedOn outcome.receiptsOutcome asset) = 1
  token_status : token.status = .successValue receipt.value
  token_receipt : receipt.receiptId = token.id

/-! ## The table of outcomes -/

section Table

variable {outcomes : List ExecutionOutcomeView} {id : CryptoHash} {receipt : ExecutionOutcomeView}

theorem lookupOutcome_some (h : lookupOutcome outcomes id = some receipt) :
    receipt ∈ outcomes ∧ receipt.id = id :=
  ⟨List.mem_of_find?_eq_some h, by simpa using List.find?_some h⟩

theorem lookupOutcome_none (h : lookupOutcome outcomes id = none) :
    ∀ receipt ∈ outcomes, receipt.id ≠ id := by
  intro receipt hmem hid
  have := List.find?_eq_none.mp h receipt hmem
  simp [hid] at this

theorem lookupOutcome_of_mem (hdistinct : (outcomes.map (·.id)).Nodup) (hmem : receipt ∈ outcomes) :
    lookupOutcome outcomes receipt.id = some receipt := by
  cases hlookup : lookupOutcome outcomes receipt.id with
  | none => exact absurd rfl (lookupOutcome_none hlookup receipt hmem)
  | some found =>
    obtain ⟨hfound, hid⟩ := lookupOutcome_some hlookup
    rw [List.inj_on_of_nodup_map hdistinct hfound hmem hid]

theorem lookupOutcome_eq_some_iff (hdistinct : (outcomes.map (·.id)).Nodup) :
    lookupOutcome outcomes id = some receipt ↔ receipt ∈ outcomes ∧ receipt.id = id := by
  refine ⟨lookupOutcome_some, ?_⟩
  rintro ⟨hmem, rfl⟩
  exact lookupOutcome_of_mem hdistinct hmem

/-- The table does not depend on the order of the outcomes it was built from. -/
theorem lookupOutcome_perm {outcomes' : List ExecutionOutcomeView}
    (hdistinct : (outcomes.map (·.id)).Nodup) (hperm : outcomes'.Perm outcomes) :
    lookupOutcome outcomes' = lookupOutcome outcomes := by
  have hdistinct' : (outcomes'.map (·.id)).Nodup := (hperm.map _).nodup_iff.mpr hdistinct
  funext id
  apply Option.ext
  intro receipt
  rw [lookupOutcome_eq_some_iff hdistinct, lookupOutcome_eq_some_iff hdistinct', hperm.mem_iff]

theorem byId_ok {indexed : List ExecutionOutcomeView} (h : byId outcomes = .ok indexed) :
    indexed = outcomes ∧ (outcomes.map (·.id)).Nodup := by
  unfold byId at h
  split at h
  · rename_i hdistinct
    exact ⟨(Except.ok.inj h).symm, hdistinct⟩
  · cases h

/-- The receipts a receipt created, and none if it has no outcome. -/
def createdIds (outcomes : List ExecutionOutcomeView) (id : CryptoHash) : List CryptoHash :=
  ((lookupOutcome outcomes id).map (·.receiptIds)).getD []

theorem childrenOf_of_mem (hdistinct : (outcomes.map (·.id)).Nodup) (hmem : receipt ∈ outcomes) :
    childrenOf outcomes receipt.id = .ok (createdIds outcomes receipt.id) := by
  simp only [childrenOf, createdIds, lookupOutcome_of_mem hdistinct hmem, Option.map_some,
    Option.getD_some]

theorem mem_createdIds (hdistinct : (outcomes.map (·.id)).Nodup) {parent child : CryptoHash} :
    child ∈ createdIds outcomes parent ↔ CreatedBy outcomes parent child := by
  constructor
  · intro hchild
    unfold createdIds at hchild
    cases hlookup : lookupOutcome outcomes parent with
    | none => simp [hlookup] at hchild
    | some receipt =>
      obtain ⟨hmem, hid⟩ := lookupOutcome_some hlookup
      exact ⟨receipt, hmem, hid, by simpa [hlookup] using hchild⟩
  · rintro ⟨receipt, hmem, rfl, hchild⟩
    simpa [createdIds, lookupOutcome_of_mem hdistinct hmem] using hchild

end Table

/-! ## The graph check -/

section Check

variable {outcomes : List ExecutionOutcomeView} {root token id : CryptoHash}

/-- The walk may pass this outcome: only the token receipt can still be unknown. -/
def ExecutionOutcomeView.Passable (receipt : ExecutionOutcomeView) (token : CryptoHash) : Prop :=
  executionFailure receipt.status = none ∧ (receipt.status = .unknown → receipt.id = token)

theorem expandReceipt_ok {children : List CryptoHash}
    (h : expandReceipt outcomes token id = .ok children) :
    ∃ receipt ∈ outcomes, receipt.id = id ∧ receipt.Passable token ∧
      children = receipt.receiptIds := by
  unfold expandReceipt at h
  split at h
  · cases h
  · rename_i receipt hlookup
    obtain ⟨hmem, hid⟩ := lookupOutcome_some hlookup
    split at h
    · cases h
    · rename_i hfailure
      split at h
      · cases h
      · rename_i hknown
        refine ⟨receipt, hmem, hid, ⟨hfailure, fun hunknown => ?_⟩, (Except.ok.inj h).symm⟩
        by_contra hne
        exact hknown ⟨hne, hunknown⟩

theorem expandReceipt_error {error : ReceiptValidationError}
    (h : expandReceipt outcomes token id = .error error) :
    (∀ receipt, lookupOutcome outcomes id = some receipt → ¬ receipt.Passable token) ∧
    (error.isDefinitiveFailure → ∃ receipt failure, lookupOutcome outcomes id = some receipt ∧
      receipt.status = .failure failure) := by
  unfold expandReceipt at h
  split at h
  · rename_i hlookup
    obtain rfl := Except.error.inj h
    exact ⟨fun receipt hreceipt => by simp [hlookup] at hreceipt, nofun⟩
  · rename_i receipt hlookup
    split at h
    · rename_i failure hfailure
      refine ⟨fun receipt' hreceipt hpass => ?_, fun _ => ⟨receipt, failure, hlookup, ?_⟩⟩
      · obtain rfl := Option.some.inj (hlookup.symm.trans hreceipt)
        exact absurd (hfailure.symm.trans hpass.1) (Option.some_ne_none failure)
      · revert hfailure
        cases receipt.status <;> simp [executionFailure]
    · split at h
      · rename_i hunknown
        obtain rfl := Except.error.inj h
        refine ⟨fun receipt' hreceipt hpass => ?_, nofun⟩
        obtain rfl := Option.some.inj (hlookup.symm.trans hreceipt)
        exact hunknown.1 (hpass.2 hunknown.2)
      · cases h

theorem createdBy_of_child {a b : CryptoHash}
    (h : Graph.Child (expandReceipt outcomes token) a b) : CreatedBy outcomes a b := by
  obtain ⟨children, hexpand, hmem⟩ := h
  obtain ⟨receipt, hreceipt, hid, -, rfl⟩ := expandReceipt_ok hexpand
  exact ⟨receipt, hreceipt, hid, hmem⟩

/-- The walk takes at most one round for each edge and one for its root. -/
theorem exists_walk (hdistinct : (outcomes.map (·.id)).Nodup) (root token : CryptoHash) :
    ∃ walked, (Graph.walk (expandReceipt outcomes token)
      ((outcomes.map (·.receiptIds.length)).sum + 1) [root] []).run = some walked := by
  apply Graph.walk_isSome (outcomes.map (·.id))
  · intro id children hexpand
    obtain ⟨receipt, hmem, rfl, -⟩ := expandReceipt_ok hexpand
    exact List.mem_map_of_mem hmem
  · rw [List.length_singleton, Nat.add_comm, Nat.add_le_add_iff_right, Graph.openEdges,
      List.filter_eq_self.mpr (by simp), List.map_map]
    apply List.sum_le_sum
    intro receipt hmem
    simp only [Function.comp_apply, Graph.degree]
    split
    · exact Nat.zero_le _
    · rename_i children hexpand
      obtain ⟨receipt', hmem', hid, -, rfl⟩ := expandReceipt_ok hexpand
      rw [List.inj_on_of_nodup_map hdistinct hmem' hmem hid]

/-- The visited receipts are those that follow from the root, and the walk could pass them all. -/
structure Surveyed (outcomes : List ExecutionOutcomeView) (root token : CryptoHash)
    (visited : List CryptoHash) : Prop where
  nodup : visited.Nodup
  mem_iff : ∀ id, id ∈ visited ↔ ReflTransGen (CreatedBy outcomes) root id
  passable : ∀ id ∈ visited, ∃ receipt ∈ outcomes, receipt.id = id ∧ receipt.Passable token

theorem surveyed_of_walk {rounds : Nat} {visited : List CryptoHash}
    (hdistinct : (outcomes.map (·.id)).Nodup)
    (h : (Graph.walk (expandReceipt outcomes token) rounds [root] []).run = some (.ok visited)) :
    Surveyed outcomes root token visited := by
  obtain ⟨hnodup, hmem, hclosed⟩ := Graph.walk_ok h
  refine ⟨hnodup, fun id => ⟨fun hid => ?_, fun hreach => ?_⟩, fun id hid => ?_⟩
  · obtain ⟨root', hroot, hreach⟩ := (hmem id).mp hid
    obtain rfl := List.mem_singleton.mp hroot
    exact ReflTransGen.mono (fun _ _ => createdBy_of_child) _ _ hreach
  · induction hreach with
    | refl => exact (hmem root).mpr ⟨root, List.mem_singleton_self root, .refl⟩
    | tail _ hchild ih =>
      obtain ⟨children, hexpand, hsubset⟩ := hclosed _ ih
      obtain ⟨receipt, hreceipt, hid, -, rfl⟩ := expandReceipt_ok hexpand
      obtain ⟨receipt', hreceipt', hid', hmem'⟩ := hchild
      obtain rfl := List.inj_on_of_nodup_map hdistinct hreceipt hreceipt' (hid.trans hid'.symm)
      exact hsubset hmem'
  · obtain ⟨children, hexpand, -⟩ := hclosed id hid
    obtain ⟨receipt, hreceipt, hid, hpass, -⟩ := expandReceipt_ok hexpand
    exact ⟨receipt, hreceipt, hid, hpass⟩

namespace Surveyed

variable {visited : List CryptoHash}

theorem length_le (h : Surveyed outcomes root token visited) : visited.length ≤ outcomes.length := by
  have hsubperm : visited.Subperm (outcomes.map (·.id)) := by
    apply h.nodup.subperm
    intro id hid
    obtain ⟨receipt, hmem, rfl, -⟩ := h.passable id hid
    exact List.mem_map_of_mem hmem
  simpa using hsubperm.length_le

/-- Whatever the orders of the hash tables, the sort takes off all receipts exactly if no cycle is
among them. -/
theorem checkReceiptGraph_run (h : Surveyed outcomes root token visited)
    (hdistinct : (outcomes.map (·.id)).Nodup) (orders : HashOrders) {rounds : Nat}
    (hwalk : (Graph.walk (expandReceipt outcomes token) rounds [root] []).run = some (.ok visited))
    (hrounds : outcomes.length ≤ rounds) :
    ∃ sorted, (checkReceiptGraph orders rounds outcomes [root] token).run =
        some (if sorted ≠ visited.length then .error .cyclicReceiptGraph else .ok ()) ∧
      (sorted = visited.length ↔
        ∀ id, ReflTransGen (CreatedBy outcomes) root id → ¬ TransGen (CreatedBy outcomes) id id) := by
  have hperm := orders.visited_perm visited
  have hchildren : ∀ id ∈ orders.visited visited,
      childrenOf outcomes id = .ok (createdIds outcomes id) := by
    intro id hid
    obtain ⟨receipt, hmem, rfl, -⟩ := h.passable id (hperm.mem_iff.mp hid)
    exact childrenOf_of_mem hdistinct hmem
  have hclosed : ∀ id ∈ orders.visited visited, createdIds outcomes id ⊆ orders.visited visited := by
    intro id hid child hchild
    have hreach := (h.mem_iff id).mp (hperm.mem_iff.mp hid)
    have hcreated := (mem_createdIds hdistinct).mp hchild
    exact hperm.mem_iff.mpr ((h.mem_iff child).mpr (hreach.tail hcreated))
  have hrelation : (fun a b => b ∈ createdIds outcomes a) = CreatedBy outcomes := by
    funext a b
    exact propext (mem_createdIds hdistinct)
  obtain ⟨sorted, hsort, hcomplete⟩ := Graph.sortCount_complete_iff
    (hperm.nodup_iff.mpr h.nodup) hchildren hclosed (.of_eq List.flatMap_def.symm)
    (orders.indegrees_perm _) (hperm.length_eq.trans_le (h.length_le.trans hrounds))
  refine ⟨sorted, ?_, ?_⟩
  · rw [checkReceiptGraph, Graph.run_bind_of_ok hwalk, Graph.mapM_expand hchildren,
      Graph.liftExcept_ok, pure_bind, Graph.run_bind_of_ok hsort]
    split <;> rfl
  · rw [← hperm.length_eq, hcomplete, hrelation]
    simp only [hperm.mem_iff, h.mem_iff]

end Surveyed

/-- What a graph check from a root has found out. -/
structure GraphChecked (outcomes : List ExecutionOutcomeView) (root token : CryptoHash)
    (result : Except ReceiptValidationError Unit) : Prop where
  ok_iff : result = .ok () ↔
    (∀ id, ReflTransGen (CreatedBy outcomes) root id →
      ∃ receipt ∈ outcomes, receipt.id = id ∧ receipt.Passable token) ∧
    ∀ id, ReflTransGen (CreatedBy outcomes) root id → ¬ TransGen (CreatedBy outcomes) id id
  failed : ∀ error, result = .error error → error.isDefinitiveFailure →
    ∃ receipt ∈ outcomes, ReflTransGen (CreatedBy outcomes) root receipt.id ∧
      ∃ failure, receipt.status = .failure failure

/-- The check ends with one result, whatever the orders of the hash tables. -/
theorem exists_graphChecked (hdistinct : (outcomes.map (·.id)).Nodup) (root token : CryptoHash) :
    ∃ result, GraphChecked outcomes root token result ∧ ∀ orders rounds,
      (outcomes.map (·.receiptIds.length)).sum + outcomes.length + 1 ≤ rounds →
        (checkReceiptGraph orders rounds outcomes [root] token).run = some result := by
  obtain ⟨walked, hwalk⟩ := exists_walk hdistinct root token
  have hwalk : ∀ rounds, (outcomes.map (·.receiptIds.length)).sum + 1 ≤ rounds →
      (Graph.walk (expandReceipt outcomes token) rounds [root] []).run = some walked :=
    fun rounds => Graph.walk_mono hwalk
  cases walked with
  | error e =>
    obtain ⟨root', hroot, x, hreach, herror⟩ := Graph.walk_error (hwalk _ le_rfl)
    obtain rfl := List.mem_singleton.mp hroot
    have hreach := ReflTransGen.mono (fun _ _ => createdBy_of_child) _ _ hreach
    obtain ⟨hbad, hfailed⟩ := expandReceipt_error herror
    refine ⟨.error e, ⟨⟨nofun, fun ⟨hpass, _⟩ => ?_⟩, fun error he hdefinitive => ?_⟩,
      fun orders rounds hrounds => Graph.run_bind_of_error (hwalk rounds (by omega))⟩
    · obtain ⟨receipt, hmem, rfl, hpass⟩ := hpass x hreach
      exact absurd hpass (hbad receipt (lookupOutcome_of_mem hdistinct hmem))
    · obtain rfl := Except.error.inj he
      obtain ⟨receipt, failure, hlookup, hstatus⟩ := hfailed hdefinitive
      obtain ⟨hmem, rfl⟩ := lookupOutcome_some hlookup
      exact ⟨receipt, hmem, hreach, failure, hstatus⟩
  | ok visited =>
    have hsurvey := surveyed_of_walk hdistinct (hwalk _ le_rfl)
    have hrun := fun orders rounds hrounds =>
      hsurvey.checkReceiptGraph_run hdistinct orders (hwalk rounds hrounds)
    have hpass : ∀ id, ReflTransGen (CreatedBy outcomes) root id →
        ∃ receipt ∈ outcomes, receipt.id = id ∧ receipt.Passable token :=
      fun id hid => hsurvey.passable id ((hsurvey.mem_iff id).mpr hid)
    by_cases hacyclic : ∀ id, ReflTransGen (CreatedBy outcomes) root id →
        ¬ TransGen (CreatedBy outcomes) id id
    · refine ⟨.ok (), ⟨⟨fun _ => ⟨hpass, hacyclic⟩, fun _ => rfl⟩, nofun⟩,
        fun orders rounds hrounds => ?_⟩
      obtain ⟨sorted, hcheck, hcomplete⟩ := hrun orders rounds (by omega) (by omega)
      rw [hcheck, if_neg (not_not.mpr (hcomplete.mpr hacyclic))]
    · refine ⟨.error .cyclicReceiptGraph, ⟨⟨nofun, fun h => absurd h.2 hacyclic⟩, ?_⟩,
        fun orders rounds hrounds => ?_⟩
      · intro error he hdefinitive
        obtain rfl := Except.error.inj he
        cases hdefinitive
      · obtain ⟨sorted, hcheck, hcomplete⟩ := hrun orders rounds (by omega) (by omega)
        rw [hcheck, if_pos fun hall => hacyclic (hcomplete.mp hall)]

end Check

/-! ## The whole outcome -/

section Outcome

variable {outcome : FinalExecutionOutcomeView} {payer asset : AccountId}
  {delegate token : ExecutionOutcomeView}

theorem executionFailure_eq_some {status : ExecutionStatusView} {error : String} :
    executionFailure status = some error ↔ status = .failure error := by
  cases status <;> simp [executionFailure]

theorem executionFailure_eq_none {status : ExecutionStatusView} :
    executionFailure status = none ↔ ∀ error, status ≠ .failure error := by
  cases status <;> simp [executionFailure]

/-- The checks before the walk have found the delegate receipt and the token receipt. -/
structure FinalExecutionOutcomeView.Locates (outcome : FinalExecutionOutcomeView)
    (payer asset : AccountId) (delegate token : ExecutionOutcomeView) : Prop where
  status : ∃ value, outcome.status = .successValue value
  transaction : outcome.transactionOutcome.status.Completed
  child : outcome.transactionOutcome.receiptIds = [delegate.id]
  distinct : (outcome.receiptsOutcome.map (·.id)).Nodup
  delegate_mem : delegate ∈ outcome.receiptsOutcome
  executor : delegate.executorId = payer
  completed : delegate.status.Completed
  present : ∀ id ∈ delegate.receiptIds, lookupOutcome outcome.receiptsOutcome id ≠ none
  token : (delegate.receiptIds.filterMap (lookupOutcome outcome.receiptsOutcome)).filter
    (·.executorId = asset) = [token]

theorem locateReceipts_ok_iff :
    locateReceipts outcome payer asset = .ok (delegate, token) ↔
      outcome.Locates payer asset delegate token := by
  constructor
  · intro h
    unfold locateReceipts at h
    split at h <;> try cases h
    rename_i value hstatus
    split at h <;> try cases h
    rename_i hsent
    split at h <;> try cases h
    rename_i hknown
    split at h <;> try cases h
    rename_i delegateId hchild
    obtain ⟨outcomes, hindexed, hrest⟩ := Except.exists_of_bind h
    obtain ⟨rfl, hdistinct⟩ := byId_ok hindexed
    split at hrest <;> try cases hrest
    rename_i found hfound
    obtain ⟨hmem, rfl⟩ := lookupOutcome_some hfound
    split at hrest <;> try cases hrest
    rename_i hexecutor
    split at hrest <;> try cases hrest
    rename_i hcompleted
    split at hrest <;> try cases hrest
    rename_i hdelegate
    split at hrest <;> try cases hrest
    rename_i hpresent
    split at hrest <;> try cases hrest
    rename_i htoken
    exact ⟨⟨value, hstatus⟩, ⟨hsent, hknown⟩, hchild, hdistinct, hmem, not_not.mp hexecutor,
      ⟨hcompleted, hdelegate⟩, by simpa [Option.isNone_iff_eq_none] using hpresent, htoken⟩
  · rintro ⟨⟨value, hstatus⟩, ⟨hsent, hknown⟩, hchild, hdistinct, hmem, hexecutor,
      ⟨hcompleted, hdelegate⟩, hpresent, htoken⟩
    have hbyId : byId outcome.receiptsOutcome = .ok outcome.receiptsOutcome := if_pos hdistinct
    have hany : (delegate.receiptIds.any fun id =>
        (lookupOutcome outcome.receiptsOutcome id).isNone) = false := by
      simpa [Option.isNone_iff_eq_none] using hpresent
    simp only [locateReceipts, hstatus, hsent, if_neg hknown, hchild, hbyId, bind, Except.bind,
      lookupOutcome_of_mem hdistinct hmem, hexecutor, ne_eq, not_true_eq_false, if_false,
      hcompleted, if_neg hdelegate, hany, Bool.false_eq_true, htoken]

/-- A status that is read before the walk says that the payment failed: that of the whole execution,
of the transaction, or of the delegate receipt. -/
def FinalExecutionOutcomeView.FailedEarly (outcome : FinalExecutionOutcomeView) : Prop :=
  (∃ error, outcome.status = .failure error) ∨
    (∃ error, outcome.transactionOutcome.status = .failure error) ∨
    ∃ delegate ∈ outcome.receiptsOutcome,
      outcome.transactionOutcome.receiptIds = [delegate.id] ∧
      ∃ error, delegate.status = .failure error

theorem failedEarly_of_locateReceipts {error : ReceiptValidationError}
    (h : locateReceipts outcome payer asset = .error error) (hdefinitive : error.isDefinitiveFailure) :
    outcome.FailedEarly := by
  unfold locateReceipts at h
  split at h <;> try (cases h; cases hdefinitive)
  · rename_i failure hstatus
    exact .inl ⟨failure, hstatus⟩
  · split at h
    · rename_i failure hsent
      exact .inr (.inl ⟨failure, executionFailure_eq_some.mp hsent⟩)
    · split at h <;> try (cases h; cases hdefinitive)
      split at h <;> try (cases h; cases hdefinitive)
      rename_i delegateId hchild
      cases hindexed : byId outcome.receiptsOutcome with
      | error refusal =>
        unfold byId at hindexed
        split at hindexed <;> cases hindexed
        rename_i hduplicate
        rw [byId, if_neg hduplicate] at h
        cases h
        cases hdefinitive
      | ok outcomes =>
        obtain ⟨rfl, -⟩ := byId_ok hindexed
        simp only [hindexed, bind, Except.bind] at h
        split at h <;> try (cases h; cases hdefinitive)
        rename_i delegate hlookup
        obtain ⟨hmem, rfl⟩ := lookupOutcome_some hlookup
        split at h <;> try (cases h; cases hdefinitive)
        split at h
        · rename_i failure hfailure
          exact .inr (.inr ⟨delegate, hmem, hchild, failure, executionFailure_eq_some.mp hfailure⟩)
        · split at h <;> try (cases h; cases hdefinitive)
          split at h <;> try (cases h; cases hdefinitive)
          split at h
          · cases h
          · cases h
            cases hdefinitive

/-- An outcome on which the receipts were found is decided by the walk, then by the status of the
token receipt. -/
theorem FinalExecutionOutcomeView.Locates.exists_result
    (h : outcome.Locates payer asset delegate token) :
    ∃ result, GraphChecked outcome.receiptsOutcome delegate.id token.id result ∧
      ∀ orders rounds, outcome.graphRounds ≤ rounds →
        (interpretFinalOutcomeWithin orders rounds outcome payer asset).run =
          some (result.bind fun _ => transferReceipt token) := by
  obtain ⟨result, hchecked, hrun⟩ := exists_graphChecked h.distinct delegate.id token.id
  refine ⟨result, hchecked, fun orders rounds hrounds => ?_⟩
  rw [interpretFinalOutcomeWithin, locateReceipts_ok_iff.mpr h, h.child, Graph.liftExcept_ok,
    pure_bind]
  cases result with
  | error e => exact Graph.run_bind_of_error (hrun orders rounds hrounds)
  | ok =>
    rw [Graph.run_bind_of_ok (hrun orders rounds hrounds)]
    cases transferReceipt token <;> rfl

/-- The loops end within `graphRounds` rounds, and the result is the same whatever the orders of the
hash tables are. -/
theorem interpretFinalOutcomeWithin_run (outcome : FinalExecutionOutcomeView)
    (payer asset : AccountId) (orders : HashOrders) {rounds : Nat}
    (hrounds : outcome.graphRounds ≤ rounds) :
    (interpretFinalOutcomeWithin orders rounds outcome payer asset).run =
      some (interpretFinalOutcome outcome payer asset) := by
  unfold interpretFinalOutcome
  cases hlocate : locateReceipts outcome payer asset with
  | error e => simp only [interpretFinalOutcomeWithin, hlocate]; rfl
  | ok receipts =>
    obtain ⟨delegate, token⟩ := receipts
    obtain ⟨result, -, hrun⟩ := (locateReceipts_ok_iff.mp hlocate).exists_result
    rw [hrun orders rounds hrounds, hrun _ _ le_rfl]
    rfl

theorem interpretFinalOutcome_cases (outcome : FinalExecutionOutcomeView) (payer asset : AccountId) :
    (∃ error, locateReceipts outcome payer asset = .error error ∧
      interpretFinalOutcome outcome payer asset = .error error) ∨
    ∃ delegate token result, outcome.Locates payer asset delegate token ∧
      GraphChecked outcome.receiptsOutcome delegate.id token.id result ∧
      interpretFinalOutcome outcome payer asset = result.bind fun _ => transferReceipt token := by
  cases hlocate : locateReceipts outcome payer asset with
  | error e =>
    refine .inl ⟨e, rfl, ?_⟩
    simp only [interpretFinalOutcome, interpretFinalOutcomeWithin, hlocate]
    rfl
  | ok receipts =>
    obtain ⟨delegate, token⟩ := receipts
    have hlocates := locateReceipts_ok_iff.mp hlocate
    obtain ⟨result, hchecked, hrun⟩ := hlocates.exists_result
    refine .inr ⟨delegate, token, result, hlocates, hchecked, ?_⟩
    rw [interpretFinalOutcome, hrun _ _ le_rfl]
    rfl

/-! ### The token receipt -/

theorem mem_tokens_iff (hdistinct : (outcome.receiptsOutcome.map (·.id)).Nodup)
    {ids : List CryptoHash} :
    token ∈ (ids.filterMap (lookupOutcome outcome.receiptsOutcome)).filter (·.executorId = asset) ↔
      token ∈ outcome.receiptsOutcome ∧ token.id ∈ ids ∧ token.executorId = asset := by
  simp only [List.mem_filter, List.mem_filterMap, lookupOutcome_eq_some_iff hdistinct,
    decide_eq_true_eq]
  constructor
  · rintro ⟨⟨id, hid, hmem, rfl⟩, hexecutor⟩
    exact ⟨hmem, hid, hexecutor⟩
  · rintro ⟨hmem, hid, hexecutor⟩
    exact ⟨⟨token.id, hid, hmem, rfl⟩, hexecutor⟩

theorem length_tokens (hdistinct : (outcome.receiptsOutcome.map (·.id)).Nodup)
    (ids : List CryptoHash) :
    ((ids.filterMap (lookupOutcome outcome.receiptsOutcome)).filter (·.executorId = asset)).length =
      ids.countP (ExecutedOn outcome.receiptsOutcome asset) := by
  induction ids with
  | nil => rfl
  | cons id ids ih =>
    rw [List.countP_cons, ← ih]
    cases hlookup : lookupOutcome outcome.receiptsOutcome id with
    | none =>
      have hnot : ¬ ExecutedOn outcome.receiptsOutcome asset id := by
        rintro ⟨receipt, hmem, hid, -⟩
        exact lookupOutcome_none hlookup receipt hmem hid
      simp [hlookup, hnot]
    | some receipt =>
      obtain ⟨hmem, hid⟩ := lookupOutcome_some hlookup
      have hiff : ExecutedOn outcome.receiptsOutcome asset id ↔ receipt.executorId = asset := by
        constructor
        · rintro ⟨other, hother, hid', hexecutor⟩
          rwa [List.inj_on_of_nodup_map hdistinct hmem hother (hid.trans hid'.symm)]
        · exact fun hexecutor => ⟨receipt, hmem, hid, hexecutor⟩
      by_cases hexecutor : receipt.executorId = asset
      · simp [hlookup, hiff, hexecutor]
      · simp [hlookup, hiff, hexecutor]

/-- One occurrence among the children executed on the asset, and it is the token receipt. -/
theorem tokens_eq_singleton_iff (hdistinct : (outcome.receiptsOutcome.map (·.id)).Nodup)
    {ids : List CryptoHash} :
    (ids.filterMap (lookupOutcome outcome.receiptsOutcome)).filter (·.executorId = asset) = [token] ↔
      (token ∈ outcome.receiptsOutcome ∧ token.id ∈ ids ∧ token.executorId = asset) ∧
        ids.countP (ExecutedOn outcome.receiptsOutcome asset) = 1 := by
  rw [← mem_tokens_iff hdistinct, ← length_tokens hdistinct]
  constructor
  · intro h
    rw [h]
    exact ⟨List.mem_singleton_self token, rfl⟩
  · rintro ⟨hmem, hlength⟩
    obtain ⟨other, hother⟩ := List.length_eq_one_iff.mp hlength
    rw [hother, List.mem_singleton] at hmem
    rw [hother, hmem]

theorem transferReceipt_ok_iff {receipt : SuccessfulTransferReceipt} :
    transferReceipt token = .ok receipt ↔
      token.status = .successValue receipt.value ∧ receipt.receiptId = token.id := by
  obtain ⟨receiptId, value⟩ := receipt
  cases hstatus : token.status <;> simp [transferReceipt, hstatus, and_comm, eq_comm]

/-! ### Acceptance -/

theorem interpretFinalOutcome_eq_ok_iff {receipt : SuccessfulTransferReceipt} :
    interpretFinalOutcome outcome payer asset = .ok receipt ↔
      ∃ delegate token, outcome.ProvesTransfer payer asset delegate token receipt := by
  constructor
  · intro h
    obtain ⟨error, -, herror⟩ | ⟨delegate, token, result, hlocates, hchecked, heq⟩ :=
      interpretFinalOutcome_cases outcome payer asset
    · cases herror.symm.trans h
    · rw [heq] at h
      cases result with
      | error e => cases h
      | ok =>
        obtain ⟨hstatus, hid⟩ := transferReceipt_ok_iff.mp h
        obtain ⟨hpass, hacyclic⟩ := hchecked.ok_iff.mp rfl
        obtain ⟨⟨hmem, hchild, hexecutor⟩, hunique⟩ :=
          (tokens_eq_singleton_iff hlocates.distinct).mp hlocates.token
        refine ⟨delegate, token, hlocates.status, hlocates.transaction, hlocates.child,
          hlocates.distinct, hlocates.delegate_mem, hlocates.executor, fun id hreach => ?_, hacyclic,
          hmem, hchild, hexecutor, hunique, hstatus, hid⟩
        obtain ⟨other, hother, hid, hfailure, hunknown⟩ := hpass id hreach
        refine ⟨other, hother, hid, hfailure, fun hstatus' => ?_⟩
        -- Only the token receipt may be unknown, and it is not.
        rw [List.inj_on_of_nodup_map hlocates.distinct hother hmem (hunknown hstatus'), hstatus]
          at hstatus'
        cases hstatus'
  · rintro ⟨delegate, token, h⟩
    have hlocates : outcome.Locates payer asset delegate token := by
      refine ⟨h.status, h.transaction, h.child, h.distinct, h.delegate_mem, h.executor, ?_, ?_, ?_⟩
      · obtain ⟨other, hother, hid, hcompleted⟩ := h.completed delegate.id .refl
        rwa [← List.inj_on_of_nodup_map h.distinct hother h.delegate_mem hid]
      · intro id hid hnone
        obtain ⟨other, hother, hid, -⟩ :=
          h.completed id (.single ⟨delegate, h.delegate_mem, rfl, hid⟩)
        exact lookupOutcome_none hnone other hother hid
      · exact (tokens_eq_singleton_iff h.distinct).mpr
          ⟨⟨h.token_mem, h.token_child, h.token_executor⟩, h.token_unique⟩
    obtain ⟨result, hchecked, hrun⟩ := hlocates.exists_result
    have hok : result = .ok () := by
      refine hchecked.ok_iff.mpr ⟨fun id hreach => ?_, h.acyclic⟩
      obtain ⟨other, hother, hid, hfailure, hknown⟩ := h.completed id hreach
      exact ⟨other, hother, hid, hfailure, fun hunknown => absurd hunknown hknown⟩
    rw [interpretFinalOutcome, hrun _ _ le_rfl, hok]
    exact transferReceipt_ok_iff.mpr ⟨h.token_status, h.token_receipt⟩

theorem interpretFinalOutcome_ok {receipt : SuccessfulTransferReceipt}
    (h : interpretFinalOutcome outcome payer asset = .ok receipt) :
    outcome.TransferSucceeded payer asset := by
  obtain ⟨delegate, token, h⟩ := interpretFinalOutcome_eq_ok_iff.mp h
  exact ⟨delegate.id, delegate, token, receipt.value, h.child,
    lookupOutcome_of_mem h.distinct h.delegate_mem, h.executor,
    (tokens_eq_singleton_iff h.distinct).mpr
      ⟨⟨h.token_mem, h.token_child, h.token_executor⟩, h.token_unique⟩, h.token_status⟩

/-- The order in which the RPC lists the receipt outcomes does not show. -/
theorem interpretFinalOutcomeWithin_perm {receipts : List ExecutionOutcomeView}
    (hperm : receipts.Perm outcome.receiptsOutcome) (orders : HashOrders) (rounds : Nat) :
    interpretFinalOutcomeWithin orders rounds { outcome with receiptsOutcome := receipts } payer
        asset = interpretFinalOutcomeWithin orders rounds outcome payer asset := by
  by_cases hdistinct : (outcome.receiptsOutcome.map (·.id)).Nodup
  · have hdistinct' : (receipts.map (·.id)).Nodup := (hperm.map _).nodup_iff.mpr hdistinct
    have hlookup := lookupOutcome_perm hdistinct hperm
    have hexpand : expandReceipt receipts = expandReceipt outcome.receiptsOutcome := by
      funext token id
      simp only [expandReceipt, hlookup]
    have hchildren : childrenOf receipts = childrenOf outcome.receiptsOutcome := by
      funext id
      simp only [childrenOf, hlookup]
    have hlocate : locateReceipts { outcome with receiptsOutcome := receipts } payer asset =
        locateReceipts outcome payer asset := by
      simp only [locateReceipts, byId, if_pos hdistinct, if_pos hdistinct', bind, Except.bind,
        hlookup]
    simp only [interpretFinalOutcomeWithin, hlocate, checkReceiptGraph, hexpand, hchildren]
  · have hdistinct' : ¬ (receipts.map (·.id)).Nodup := (hperm.map _).nodup_iff.not.mpr hdistinct
    have hlocate : locateReceipts { outcome with receiptsOutcome := receipts } payer asset =
        locateReceipts outcome payer asset := by
      simp only [locateReceipts, byId, if_neg hdistinct, if_neg hdistinct', bind, Except.bind]
    rw [interpretFinalOutcomeWithin, interpretFinalOutcomeWithin, hlocate]
    cases hresult : locateReceipts outcome payer asset with
    | error e => rfl
    | ok found => exact absurd (locateReceipts_ok_iff.mp hresult).distinct hdistinct

theorem graphRounds_perm {receipts : List ExecutionOutcomeView}
    (hperm : receipts.Perm outcome.receiptsOutcome) :
    { outcome with receiptsOutcome := receipts }.graphRounds = outcome.graphRounds := by
  simp only [FinalExecutionOutcomeView.graphRounds, (hperm.map _).sum_eq, hperm.length_eq]

end Outcome

/-- The walk over the receipt graph of any final outcome ends, whatever the orders of its hash
tables, with one result; it accepts exactly the outcomes that prove the transfer, and returns their
token receipt; and the result does not depend on the order of the outcomes. -/
theorem interpretFinalOutcome_decides (outcome : FinalExecutionOutcomeView)
    (payer asset : AccountId) :
    (∀ orders rounds, outcome.graphRounds ≤ rounds →
      (interpretFinalOutcomeWithin orders rounds outcome payer asset).run =
        some (interpretFinalOutcome outcome payer asset)) ∧
    (∀ receipt, interpretFinalOutcome outcome payer asset = .ok receipt ↔
      ∃ delegate token, outcome.ProvesTransfer payer asset delegate token receipt) ∧
    ∀ receipts, receipts.Perm outcome.receiptsOutcome →
      interpretFinalOutcome { outcome with receiptsOutcome := receipts } payer asset =
        interpretFinalOutcome outcome payer asset := by
  refine ⟨fun orders rounds => interpretFinalOutcomeWithin_run outcome payer asset orders,
    fun receipt => interpretFinalOutcome_eq_ok_iff, fun receipts hperm => ?_⟩
  rw [interpretFinalOutcome, interpretFinalOutcomeWithin_perm hperm, graphRounds_perm hperm]
  rfl

end X402Facilitator
