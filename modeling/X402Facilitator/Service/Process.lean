import X402Facilitator.Service.Recovery
import X402Facilitator.Service.Settle

/-!
# The tasks of a process

The leadership task, the reconciliation loop, the readiness monitor, the start of the service and
the `reconcile` command of the admin binary. A loop that runs out of `fuel` stops where it is, without
the steps that would follow it in the source.
-/

namespace X402Facilitator

open Service

/-! ## Leadership -/

/-- `hold_leadership`: whether the service shuts down, or `none` when the unrolling ends. -/
def holdLeadership : Nat → Service (Option Bool)
  | 0 => return none
  | fuel + 1 => do
    match ← ask .heartbeat with
    | .alive => holdLeadership fuel
    | .lost =>
      setLeadership false
      return some false
    | .shutdown =>
      setLeadership false
      return some true

def runLeadership : Nat → Service Unit
  | 0 => return ()
  | fuel + 1 => do
    let shutdown : Bool ← ask .shutdownRequested
    if shutdown then
      setLeadership false
    else
      setLeadership false
      let connected : Bool ← ask .leadershipConnect
      if ¬ connected then
        runLeadership fuel
      else
        match ← ask .tryAdvisoryLock with
        | .ok true =>
          setLeadership true
          match ← holdLeadership fuel with
          | some true => setLeadership false
          | some false => runLeadership fuel
          | none => return ()
        | .ok false | .error _ => runLeadership fuel

section
variable [NearPrimitives] [EvmPrimitives]

/-! ## The background loops -/

def refreshChainReadiness (state : AppState) : Service Bool := do
  let (rpcReady, signer) ← state.provider.readinessObservation
  setRpc rpcReady
  let policyActive : Bool := match ← store (.relayerIsActive state.relayerRow) with
    | .ok active => active
    | .error _ => false
  let signerFunded : Bool := match signer with
    | .ok head => signerIsFunded state.config head.signerBalanceAtomic
    | .error _ => false
  let relayerReady := signerFunded && policyActive
  setRelayerGate relayerReady
  return rpcReady && relayerReady

/-- The reconciliation task of `main`. -/
def reconciliationLoop (state : AppState) : Nat → Service Unit
  | 0 => return ()
  | fuel + 1 => do
    let current ← snapshot
    if current.leadership && !current.reconciliation then
      let _ ← reconcile state
    reconciliationLoop state fuel

def runReadinessMonitor (state : AppState) : Nat → Service Unit
  | 0 => return ()
  | fuel + 1 => do
    let _ ← refreshChainReadiness state
    runReadinessMonitor state fuel

/-! ## Entry points -/

/-- `main` from the registration of the relayer until it serves requests. -/
def startup (state : AppState) (fuel : Nat) : Service Unit := do
  match ← store (.upsertRelayer state.relayerRow) with
  | .error _ => return ()
  | .ok _ =>
    let _ ← refreshChainReadiness state
    spawn (.leadership fuel)
    spawn (.reconciliation fuel)
    spawn (.readinessMonitor fuel)

/-- The bounded wait of `reconcile_command` for leadership. -/
def awaitLeadership : Nat → Service Bool
  | 0 => return false
  | fuel + 1 => do
    if (← snapshot).leadership then return true else awaitLeadership fuel

def reconcileCommand (state : AppState) (fuel : Nat) : Service Unit := do
  let _ ← refreshChainReadiness state
  spawn (.leadership fuel)
  if ← awaitLeadership fuel then
    let _ ← reconcile state

/-- The program of a task. -/
def ServiceTask.program (state : AppState) : ServiceTask → Service Unit
  | startup fuel => X402Facilitator.startup state fuel
  | leadership fuel => runLeadership fuel
  | reconciliation fuel => reconciliationLoop state fuel
  | readinessMonitor fuel => runReadinessMonitor state fuel
  | settle fuel => X402Facilitator.settle state fuel
  | settlementWorker id request => runNewSettlement state id request
  | reconcileCommand fuel => X402Facilitator.reconcileCommand state fuel

end

end X402Facilitator
