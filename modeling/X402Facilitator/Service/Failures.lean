import X402Facilitator.Near.ReceiptGraph
import X402Facilitator.Service.Chain

/-!
# Definitive failures on NEAR

What a verdict that ends a NEAR settlement as a failure rests on: a failure that the final outcome
shows.
-/

namespace X402Facilitator

open Relation Service

/-- The receipt is a direct child of the delegate receipt and executed on the asset. -/
def ExecutionOutcomeView.IsTransfer (receipt delegate : ExecutionOutcomeView) (asset : AccountId) :
    Prop :=
  receipt.id ∈ delegate.receiptIds ∧ receipt.executorId = asset

/-- A failure other than that of the transfer is shown: that of the whole execution, of the
transaction, of the delegate receipt, or of a receipt that follows from it and is no transfer. -/
def FinalExecutionOutcomeView.FailedBesideTransfer (outcome : FinalExecutionOutcomeView)
    (asset : AccountId) : Prop :=
  (∃ error, outcome.status = .failure error) ∨
    (∃ error, outcome.transactionOutcome.status = .failure error) ∨
    ∃ delegate ∈ outcome.receiptsOutcome,
      outcome.transactionOutcome.receiptIds = [delegate.id] ∧
      ∃ receipt ∈ outcome.receiptsOutcome,
        ReflTransGen (CreatedBy outcome.receiptsOutcome) delegate.id receipt.id ∧
        (∃ error, receipt.status = .failure error) ∧
        (receipt = delegate ∨ ¬ receipt.IsTransfer delegate asset)

/-- The transfer itself failed: the delegate receipt has one child on the asset, and it failed. -/
def FinalExecutionOutcomeView.TransferFailed (outcome : FinalExecutionOutcomeView)
    (asset : AccountId) : Prop :=
  ∃ delegate ∈ outcome.receiptsOutcome,
    outcome.transactionOutcome.receiptIds = [delegate.id] ∧
    ∃ token ∈ outcome.receiptsOutcome, token.IsTransfer delegate asset ∧
      (∃ error, token.status = .failure error) ∧
      ∀ receipt ∈ outcome.receiptsOutcome, receipt.IsTransfer delegate asset → receipt = token

/-- A receipt that transfers the asset for the payment succeeded. -/
def FinalExecutionOutcomeView.TransferCompleted (outcome : FinalExecutionOutcomeView)
    (asset : AccountId) : Prop :=
  ∃ delegate ∈ outcome.receiptsOutcome,
    outcome.transactionOutcome.receiptIds = [delegate.id] ∧
    ∃ receipt ∈ outcome.receiptsOutcome, receipt.IsTransfer delegate asset ∧
      ∃ value, receipt.status = .successValue value

section Near

variable {outcome : FinalExecutionOutcomeView} {payer asset : AccountId}

theorem FinalExecutionOutcomeView.TransferFailed.not_completed (h : outcome.TransferFailed asset)
    (hdistinct : (outcome.receiptsOutcome.map (·.id)).Nodup) : ¬ outcome.TransferCompleted asset := by
  obtain ⟨delegate, hmem, hchild, token, -, -, ⟨error, hfailed⟩, hunique⟩ := h
  rintro ⟨delegate', hmem', hchild', receipt, hreceipt, htransfer, value, hvalue⟩
  have hid : delegate.id = delegate'.id := (List.cons.inj (hchild.symm.trans hchild')).1
  obtain rfl := List.inj_on_of_nodup_map hdistinct hmem hmem' hid
  rw [hunique receipt hreceipt htransfer, hfailed] at hvalue
  cases hvalue

theorem failed_of_definitive {error : ReceiptValidationError}
    (h : interpretFinalOutcome outcome payer asset = .error error)
    (hdefinitive : error.isDefinitiveFailure) :
    outcome.FailedBesideTransfer asset ∨
      outcome.TransferFailed asset ∧ ¬ outcome.TransferCompleted asset := by
  obtain ⟨early, hlocate, hearly⟩ | ⟨delegate, token, result, hlocates, hchecked, heq⟩ :=
    interpretFinalOutcome_cases outcome payer asset
  · obtain rfl := Except.error.inj (hearly.symm.trans h)
    obtain hfailed | hfailed | ⟨delegate, hmem, hchild, hfailed⟩ :=
      failedEarly_of_locateReceipts hlocate hdefinitive
    · exact .inl (.inl hfailed)
    · exact .inl (.inr (.inl hfailed))
    · exact .inl (.inr (.inr ⟨delegate, hmem, hchild, delegate, hmem, .refl, hfailed, .inl rfl⟩))
  -- A failed receipt that was walked over is the token receipt or no transfer.
  · have htokens : ∀ receipt ∈ outcome.receiptsOutcome, receipt.IsTransfer delegate asset →
        receipt = token := by
      intro receipt hreceipt htransfer
      have hmem := (mem_tokens_iff hlocates.distinct).mpr ⟨hreceipt, htransfer⟩
      rw [hlocates.token, List.mem_singleton] at hmem
      exact hmem
    have htoken := (mem_tokens_iff hlocates.distinct).mp
      (hlocates.token ▸ List.mem_singleton_self token)
    have hfailed : (∃ failure, token.status = .failure failure) →
        outcome.TransferFailed asset ∧ ¬ outcome.TransferCompleted asset := by
      intro hstatus
      have hfailed : outcome.TransferFailed asset :=
        ⟨delegate, hlocates.delegate_mem, hlocates.child, token, htoken.1, htoken.2, hstatus, htokens⟩
      exact ⟨hfailed, hfailed.not_completed hlocates.distinct⟩
    rw [heq] at h
    cases result with
    | ok =>
      right
      apply hfailed
      change transferReceipt token = .error error at h
      cases hstatus : token.status with
      | failure failure => exact ⟨failure, rfl⟩
      | unknown | successReceiptId _ =>
        simp only [transferReceipt, hstatus] at h
        cases h
        cases hdefinitive
      | successValue _ =>
        simp only [transferReceipt, hstatus] at h
        cases h
    | error e =>
      obtain rfl : e = error := Except.error.inj h
      obtain ⟨receipt, hreceipt, hreach, hstatus⟩ := hchecked.failed e rfl hdefinitive
      by_cases htransfer : receipt.IsTransfer delegate asset
      · exact .inr (hfailed (htokens receipt hreceipt htransfer ▸ hstatus))
      · exact .inl (.inr (.inr ⟨delegate, hlocates.delegate_mem, hlocates.child, receipt, hreceipt,
          hreach, hstatus, .inr htransfer⟩))

end Near

/-- A definitive failure is one that the outcome shows: that of something beside the transfer, or of
the transfer itself, and then no transfer receipt succeeded. A NEAR settlement ends as a failure only
on such an outcome. -/
theorem definitive_failure_is_shown [NearPrimitives] (outcome : FinalExecutionOutcomeView)
    (payer asset : AccountId) :
    (∀ error, interpretFinalOutcome outcome payer asset = .error error →
      error.isDefinitiveFailure →
        outcome.FailedBesideTransfer asset ∨
          outcome.TransferFailed asset ∧ ¬ outcome.TransferCompleted asset) ∧
    ∀ hash signer terminal,
      interpretNearFinal outcome hash signer payer asset = .terminal terminal →
      terminal.success = false →
        outcome.FailedBesideTransfer asset ∨
          outcome.TransferFailed asset ∧ ¬ outcome.TransferCompleted asset := by
  refine ⟨fun error => failed_of_definitive, fun hash signer terminal h hfailed => ?_⟩
  unfold interpretNearFinal at h
  split at h
  · cases h
  · split at h
    · cases h
      cases hfailed
    · rename_i error herror
      split at h
      · rename_i hdefinitive
        exact failed_of_definitive herror hdefinitive
      · cases h

namespace Sample

def aliceTestnet : AccountId := ⟨"alice.testnet", rfl⟩
def usdcTestnet : AccountId := ⟨"usdc.testnet", by decide⟩
def relayerTestnet : AccountId := ⟨"relayer.testnet", rfl⟩

/-- A final outcome whose token receipt succeeded and created a receipt elsewhere, which failed. -/
def failedDescendant : FinalExecutionOutcomeView :=
  let receipt (id : CryptoHash) (receiptIds : List CryptoHash) (executorId : AccountId)
      (status : ExecutionStatusView) : ExecutionOutcomeView :=
    ⟨id, receiptIds, 0, 0, executorId, status, []⟩
  { status := .successValue []
    transactionHash := 1
    signerId := relayerTestnet
    receiverId := aliceTestnet
    transactionOutcome := receipt 1 [2] relayerTestnet (.successReceiptId 2)
    receiptsOutcome := [receipt 2 [3] aliceTestnet (.successReceiptId 3),
      receipt 3 [4] usdcTestnet (.successValue []),
      receipt 4 [] relayerTestnet (.failure "InvalidSignature")]
    rest := [] }

end Sample

/-- The transfer receipt succeeded, and still the settlement ends as a failure. -/
theorem failed_descendant_ends_completed_transfer :
    (Sample.failedDescendant.receiptsOutcome.map (·.id)).Nodup ∧
      Sample.failedDescendant.TransferCompleted Sample.usdcTestnet ∧
      interpretFinalOutcome Sample.failedDescendant Sample.aliceTestnet Sample.usdcTestnet =
        .error (.reachableReceiptFailure "InvalidSignature") ∧
      ∀ [NearPrimitives], ∃ terminal, interpretNearFinal Sample.failedDescendant 1
          Sample.relayerTestnet Sample.aliceTestnet Sample.usdcTestnet = .terminal terminal ∧
        terminal.success = false := by
  refine ⟨by decide, ?_, by decide, ?_⟩
  · refine ⟨_, List.mem_cons_self, rfl, _, List.mem_cons_of_mem _ List.mem_cons_self, ?_, [], rfl⟩
    exact ⟨by decide, rfl⟩
  · intro _
    exact ⟨_, rfl, rfl⟩

end X402Facilitator
