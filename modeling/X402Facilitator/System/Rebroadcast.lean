import X402Facilitator.System.Confirmations
import X402Facilitator.System.Broadcast

/-!
# Sending again

Recovery hands the bytes of a row to a node once more only when it has, since it took the relayer lock,
checked everything that it sends them on: both readers do not know the transaction, the signer is
active and funded, its nonce is still the one of the transaction, a NEAR delegate action has not
expired, and the gates were open at the last look. What it compared with is the row as it still is.
-/

namespace X402Facilitator

open Program

section
variable [NearPrimitives] [EvmPrimitives]

/-- Of a row, the balance check reads only the reservation. -/
theorem requireEvmRecoveryBalance_congr {state : AppState} {r row : Settlement} {balance : Nat}
    (hreserved : row.reservedYoctoNear = r.reservedYoctoNear) :
    requireEvmRecoveryBalance state row balance = requireEvmRecoveryBalance state r balance := by
  unfold requireEvmRecoveryBalance
  rw [hreserved]

/-- What was checked of a row as it was read holds of the row as it is. -/
theorem Rechecked.of_evolves {state : AppState} {h : History Op.Answer} {r row : Settlement}
    (hr : Rechecked state h r) (hevolves : r.Evolves row) (hstate : r.state.beforePrepare = false) :
    Rechecked state h row := by
  have hsubmission := (hevolves.prepared hstate).1
  cases hr with
  | near hprovider hhash hunknown hfunded hnonce hexpiry hheads =>
    refine .near hprovider ?_ hunknown hfunded ?_ ?_ hheads
    · rwa [show row.outerTransactionHash = r.outerTransactionHash from
        congrArg RowSubmission.outerTransactionHash hsubmission]
    · exact (congrArg RowSubmission.relayerNonce hsubmission).trans hnonce
    · exact (congrArg RowIdentity.delegateMaxBlockHeight hevolves.identity).trans hexpiry
  | evm hprovider hhash hunknown hnonce hhead hfunded hcovered =>
    refine .evm hprovider ?_ hunknown ?_ hhead hfunded ?_
    · rwa [show row.submittedTxHash = r.submittedTxHash from
        congrArg RowSubmission.submittedTxHash hsubmission]
    · exact (congrArg RowSubmission.signerAccountNonce hsubmission).trans hnonce
    · rwa [requireEvmRecoveryBalance_congr (hevolves.reservation hstate).1]

/-- In every run, when recovery hands bytes to a node, they are those of a row that has been committed
as submitted, and recovery holds the relayer lock. Since it took the lock it has read the signer as
active and not quarantined it, found the leadership, RPC and relayer gates open at its last look, and
checked the row, as it still is, against what the chain says. -/
theorem resends_are_checked (moves : List Move) (m : Move) (t : Thread) (query : Query)
    (bytes : Bytes) (hissued : (World.after moves).issued? m = some (t, .ask query))
    (hbytes : (Op.ask query).sentBytes = some bytes) (htask : t.role.task.reconciles = true) :
    phase t.past ≠ .free ∧ Vetted t.role.state (session t.past) ∧ SawGates (session t.past) ∧
      ∃ row ∈ (World.after moves).db.settlements, row.submissionBytes = some bytes ∧
        (∃ e ∈ (World.after moves).db.trail row.id, e.toState = .submitted) ∧
        Rechecked t.role.state (session t.past) row := by
  obtain ⟨tid, env, p, next, -, htid, -, hcall, -⟩ := World.exists_of_issued? hissued
  have ht := List.mem_of_getElem? htid
  have hattested := (World.attested_after moves t ht).session
  have hneeds : (Op.ask query).needsLock = true := by
    unfold Op.sentBytes at hbytes
    split at hbytes
    · rename_i heq
      cases heq
      rfl
    · rename_i heq
      cases heq
      rfl
    · cases hbytes
  obtain hlocks | hjustified := World.justified_after moves ht hcall
  · cases hlocks
  obtain ⟨r, hsend, hstored⟩ := hjustified.sent hbytes
  have hvetted := hsend.vetted
  obtain hworker | ⟨-, hgates, hchecked⟩ := hsend.task
  · cases htask' : t.role.task with
    | settlementWorker => rw [htask'] at htask; cases htask
    | _ => rw [htask'] at hworker; cases hworker
  obtain ⟨hwitnessed, hflight⟩ := World.witnessed_of_reconciles moves ht htask hsend.knows
  obtain ⟨row, hholds⟩ := hsend.knows.holds hattested
  obtain ⟨e, he, hid, hto⟩ := hsend.submitted.event hattested hsend.knows
  refine ⟨World.held_of_needsLock moves htid hcall hneeds, hvetted, hgates, row, hholds.mem,
    hstored.elim hholds.submissionBytes_near hholds.submissionBytes_evm, ⟨e, ?_, hto⟩, ?_⟩
  · exact List.mem_filter.mpr ⟨he, by simp [hid, hholds.id_eq]⟩
  · exact hchecked.of_evolves (hwitnessed.evolves hholds.mem hholds.id_eq)
      (not_beforePrepare_of_inFlight hflight)

end

section
open Sample

local instance resendNear : NearPrimitives := nearPrimitives
local instance resendEvm : EvmPrimitives := evmPrimitives

/-- A second process finds the transaction of the first one unknown in its first pass, and is about to
send it again. -/
def Sample.resending : List Move :=
  restarted ++ steps answer 14 6 ++ steps answer 6 7 ++ steps answer 32 8

set_option maxRecDepth 100000 in
theorem resends_are_checked_restarted :
    ∃ t query bytes, (World.after resending).issued? (next 8) = some (t, .ask query) ∧
      (Op.ask query).sentBytes = some bytes ∧ SawGates (session t.past) ∧
      ∃ row ∈ (World.after resending).db.settlements, row.submissionBytes = some bytes ∧
        Rechecked t.role.state (session t.past) row := by
  have hrun : ((World.after resending).issued? (next 8)).any (fun (t, o) =>
      t.role.task.reconciles && o.sentBytes.isSome) = true := by decide +kernel
  obtain ⟨⟨t, o⟩, hissued, hboth⟩ := (Option.any_eq_true _ _).mp hrun
  obtain ⟨htask, hsome⟩ := Bool.and_eq_true_iff.mp hboth
  obtain ⟨bytes, hbytes⟩ := Option.isSome_iff_exists.mp hsome
  cases o with
  | ask query =>
    obtain ⟨-, -, hgates, row, hrow, hrowbytes, -, hchecked⟩ :=
      resends_are_checked resending (next 8) t query bytes hissued hbytes htask
    exact ⟨t, query, bytes, hissued, hbytes, hgates, row, hrow, hrowbytes, hchecked⟩
  | _ => cases hbytes

end

end X402Facilitator
