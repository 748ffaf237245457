import X402Facilitator.Lib.Graph
import X402Facilitator.Store.Schema

/-!
# NEAR final outcomes

How a final execution outcome of the NEAR chain is read: the identity check that binds it to the
prepared outer transaction, and the walk over its receipt graph that decides whether the token
transfer went through, definitively failed, or cannot be judged.
-/

namespace X402Facilitator

abbrev CryptoHash := BitVec 256

/-! ## Account ids -/

/-- The scan of `AccountId::validate`: lower-case alphanumerics with single separators between. -/
def validAccountIdChars : (lastIsSeparator : Bool) → List Char → Bool
  | last, [] => !last
  | last, c :: cs =>
    if c.isLower || c.isDigit then validAccountIdChars false cs
    else if c = '-' || c = '_' || c = '.' then !last && validAccountIdChars true cs
    else false

def validAccountId (text : String) : Bool :=
  2 ≤ text.toList.length && text.toList.length ≤ 64 && validAccountIdChars true text.toList

/-- A NEAR account id; only valid ones can be built. -/
structure AccountId where
  text : String
  valid : validAccountId text = true
deriving DecidableEq

def AccountId.parse (text : String) : Option AccountId :=
  if h : validAccountId text = true then some ⟨text, h⟩ else none

theorem AccountId.parse_eq_some {text : String} {id : AccountId} :
    AccountId.parse text = some id ↔ id.text = text := by
  obtain ⟨t, ht⟩ := id
  unfold parse
  split
  · simp [eq_comm]
  · rename_i hinvalid
    simp only [reduceCtorEq, false_iff]
    rintro rfl
    exact hinvalid ht

theorem toLower_of_isUpper_eq_false {c : Char} (h : c.isUpper = false) : c.toLower = c := by
  refine dif_neg fun hupper => ?_
  have htrue : c.isUpper = true := decide_eq_true hupper
  rw [htrue] at h
  cases h

theorem isUpper_eq_false_of_isLower_or_isDigit {c : Char} (h : (c.isLower || c.isDigit) = true) :
    c.isUpper = false := by
  have hrange {low high : Nat} (h : (decide (low ≤ c.toNat) && decide (c.toNat ≤ high)) = true) :
      low ≤ c.toNat ∧ c.toNat ≤ high := by simpa using h
  rw [Bool.eq_false_iff]
  intro hupper
  have hletter : 65 ≤ c.toNat ∧ c.toNat ≤ 90 := of_decide_eq_true hupper
  obtain hlower | hdigit := (Bool.or_eq_true _ _).mp h
  · have hsmall : 97 ≤ c.toNat ∧ c.toNat ≤ 122 := hrange hlower
    omega
  · have hsmall : 48 ≤ c.toNat ∧ c.toNat ≤ 57 := hrange hdigit
    omega

/-- A valid account id has no upper-case letter. -/
theorem map_toLower_of_validAccountIdChars {last : Bool} {cs : List Char}
    (h : validAccountIdChars last cs = true) : cs.map Char.toLower = cs := by
  induction cs generalizing last with
  | nil => rfl
  | cons c cs ih =>
    unfold validAccountIdChars at h
    split at h
    · rename_i hc
      rw [List.map_cons, ih h,
        toLower_of_isUpper_eq_false (isUpper_eq_false_of_isLower_or_isDigit hc)]
    · split at h
      · rename_i hc
        rw [List.map_cons, ih (Bool.and_eq_true_iff.mp h).2, toLower_of_isUpper_eq_false]
        simp only [Bool.or_eq_true, decide_eq_true_eq] at hc
        obtain (rfl | rfl) | rfl := hc <;> decide
      · cases h

theorem eq_of_eqIgnoreAsciiCase {s t : String} (hs : validAccountId s = true)
    (ht : validAccountId t = true) (h : eqIgnoreAsciiCase s t) : s = t := by
  have hlower : ∀ {s : String}, validAccountId s = true → asciiLower s = s := by
    intro s hs
    rw [asciiLower, map_toLower_of_validAccountIdChars (Bool.and_eq_true_iff.mp hs).2]
    simp
  rwa [eqIgnoreAsciiCase, hlower hs, hlower ht] at h

/-! ## Outcome views -/

inductive ExecutionStatusView where
  | unknown
  | failure (error : String)
  | successValue (value : Bytes)
  | successReceiptId (id : CryptoHash)
deriving DecidableEq

inductive FinalExecutionStatus where
  | notStarted
  | started
  | failure (error : String)
  | successValue (value : Bytes)
deriving DecidableEq

/-- `ExecutionOutcomeWithIdView`; `rest` stands for its other fields, which only equality sees. -/
structure ExecutionOutcomeView where
  id : CryptoHash
  receiptIds : List CryptoHash
  gasBurnt : Nat
  tokensBurnt : Nat
  executorId : AccountId
  status : ExecutionStatusView
  rest : Bytes
deriving DecidableEq

structure FinalExecutionOutcomeView where
  status : FinalExecutionStatus
  transactionHash : CryptoHash
  signerId : AccountId
  receiverId : AccountId
  transactionOutcome : ExecutionOutcomeView
  receiptsOutcome : List ExecutionOutcomeView
  rest : Bytes
deriving DecidableEq

structure SuccessfulTransferReceipt where
  receiptId : CryptoHash
  value : Bytes
deriving DecidableEq

inductive ReceiptValidationError where
  | notStarted
  | pending
  | finalFailure (error : String)
  | transactionFailure (error : String)
  | invalidDelegateReceiptCount
  | missingDelegateReceipt
  | invalidDelegateExecutor
  | delegateFailure (error : String)
  | incompleteReceiptGraph
  | duplicateReceiptOutcome
  | cyclicReceiptGraph
  | reachableReceiptFailure (error : String)
  | invalidTokenReceiptCount
  | tokenReceiptNotSuccessful
  | tokenReceiptFailure (error : String)
  | transactionHashMismatch
  | transactionOutcomeIdMismatch
  | transactionSignerMismatch
  | invalidTransactionExecutor
  | transactionReceiverMismatch
deriving DecidableEq

namespace ReceiptValidationError

def message : ReceiptValidationError → String
  | notStarted => "final execution has not started"
  | pending => "final execution is still pending"
  | finalFailure _ => "final execution failed"
  | transactionFailure _ => "transaction outcome failed"
  | invalidDelegateReceiptCount => "outer transaction did not create exactly one delegate receipt"
  | missingDelegateReceipt => "delegate receipt outcome is missing"
  | invalidDelegateExecutor => "delegate receipt executed on an unexpected account"
  | delegateFailure _ => "delegate receipt failed"
  | incompleteReceiptGraph => "receipt graph contains a missing outcome"
  | duplicateReceiptOutcome => "receipt graph contains duplicate outcome identifiers"
  | cyclicReceiptGraph => "receipt graph contains a cycle"
  | reachableReceiptFailure _ => "reachable receipt failed"
  | invalidTokenReceiptCount =>
    "delegate receipt did not create exactly one token-contract receipt"
  | tokenReceiptNotSuccessful => "token receipt was not successful"
  | tokenReceiptFailure _ => "token receipt failed"
  | transactionHashMismatch =>
    "final outcome transaction hash does not match the submitted transaction"
  | transactionOutcomeIdMismatch =>
    "transaction outcome ID does not match the submitted transaction"
  | transactionSignerMismatch => "final outcome transaction signer does not match the relayer"
  | invalidTransactionExecutor => "transaction outcome executed on an unexpected account"
  | transactionReceiverMismatch => "final outcome transaction receiver does not match the payer"

def isDefinitiveFailure : ReceiptValidationError → Bool
  | finalFailure _ | transactionFailure _ | delegateFailure _ | reachableReceiptFailure _
  | tokenReceiptFailure _ => true
  | _ => false

end ReceiptValidationError

/-! ## The receipt graph -/

def executionFailure : ExecutionStatusView → Option String
  | .failure error => some error
  | _ => none

/-- `by_id`: the outcomes, if their ids are distinct. -/
def byId (outcomes : List ExecutionOutcomeView) :
    Except ReceiptValidationError (List ExecutionOutcomeView) :=
  if (outcomes.map (·.id)).Nodup then .ok outcomes else .error .duplicateReceiptOutcome

def lookupOutcome (outcomes : List ExecutionOutcomeView) (id : CryptoHash) :
    Option ExecutionOutcomeView :=
  outcomes.find? (·.id = id)

/-- The receipts a receipt created. -/
def childrenOf (outcomes : List ExecutionOutcomeView) (id : CryptoHash) :
    Except ReceiptValidationError (List CryptoHash) :=
  match lookupOutcome outcomes id with
  | none => .error .incompleteReceiptGraph
  | some receipt => .ok receipt.receiptIds

/-- The body of the breadth-first walk: the receipt has an outcome and has not failed. That the
token receipt is still unknown is found out later. -/
def expandReceipt (outcomes : List ExecutionOutcomeView) (token id : CryptoHash) :
    Except ReceiptValidationError (List CryptoHash) :=
  match lookupOutcome outcomes id with
  | none => .error .incompleteReceiptGraph
  | some receipt =>
    match executionFailure receipt.status with
    | some error => .error (.reachableReceiptFailure error)
    | none =>
      if receipt.id ≠ token ∧ receipt.status = .unknown then .error .incompleteReceiptGraph
      else .ok receipt.receiptIds

/-- The orders in which the hash tables of the graph check are iterated: the one of `visited`, which
fills the other, and the one of `indegrees`. -/
structure HashOrders where
  visited : List CryptoHash → List CryptoHash
  indegrees : List (CryptoHash × Nat) → List (CryptoHash × Nat)
  visited_perm : ∀ ids, (visited ids).Perm ids
  indegrees_perm : ∀ entries, (indegrees entries).Perm entries

def HashOrders.insertion : HashOrders :=
  ⟨id, id, fun _ => .refl _, fun _ => .refl _⟩

/-- The two graph walks: everything reachable has an outcome and has not failed, and there is no
cycle. The counters are those of a graph that fits in memory, so none of them saturates. -/
def checkReceiptGraph (orders : HashOrders) (rounds : Nat) (outcomes : List ExecutionOutcomeView)
    (roots : List CryptoHash) (token : CryptoHash) : ExceptT ReceiptValidationError Option Unit := do
  let visited ← Graph.walk (expandReceipt outcomes token) rounds roots []
  let children ← liftExcept ((orders.visited visited).mapM (childrenOf outcomes))
  let indegrees := orders.indegrees (Graph.degrees (orders.visited visited) children.flatten)
  let sources := (indegrees.filter (·.2 = 0)).map (·.1)
  let sorted ← Graph.sortCount (childrenOf outcomes) rounds sources indegrees 0
  if sorted ≠ visited.length then throw .cyclicReceiptGraph

/-- What the status of the token receipt says about the transfer. -/
def transferReceipt (token : ExecutionOutcomeView) :
    Except ReceiptValidationError SuccessfulTransferReceipt :=
  match token.status with
  | .successValue value => .ok ⟨token.id, value⟩
  | .failure error => .error (.tokenReceiptFailure error)
  | .unknown | .successReceiptId _ => .error .tokenReceiptNotSuccessful

/-- The checks before the graph walk: the delegate receipt that the transaction created, and the one
child of it that executed on the asset. -/
def locateReceipts (outcome : FinalExecutionOutcomeView) (payer asset : AccountId) :
    Except ReceiptValidationError (ExecutionOutcomeView × ExecutionOutcomeView) :=
  match outcome.status with
  | .notStarted => .error .notStarted
  | .started => .error .pending
  | .failure error => .error (.finalFailure error)
  | .successValue _ =>
    match executionFailure outcome.transactionOutcome.status with
    | some error => .error (.transactionFailure error)
    | none =>
      if outcome.transactionOutcome.status = .unknown then .error .incompleteReceiptGraph
      else
        match outcome.transactionOutcome.receiptIds with
        | [delegateId] => do
          let outcomes ← byId outcome.receiptsOutcome
          match lookupOutcome outcomes delegateId with
          | none => .error .missingDelegateReceipt
          | some delegate =>
            if delegate.executorId ≠ payer then .error .invalidDelegateExecutor
            else
              match executionFailure delegate.status with
              | some error => .error (.delegateFailure error)
              | none =>
                if delegate.status = .unknown then .error .incompleteReceiptGraph
                else if delegate.receiptIds.any fun id => (lookupOutcome outcomes id).isNone then
                  .error .incompleteReceiptGraph
                else
                  match (delegate.receiptIds.filterMap (lookupOutcome outcomes)).filter
                      (·.executorId = asset) with
                  | [token] => .ok (delegate, token)
                  | _ => .error .invalidTokenReceiptCount
        | _ => .error .invalidDelegateReceiptCount

/-- Validates the transaction → delegate receipt → token receipt graph. There is no result when a
loop needs more than `rounds` rounds. -/
def interpretFinalOutcomeWithin (orders : HashOrders) (rounds : Nat)
    (outcome : FinalExecutionOutcomeView) (payer asset : AccountId) :
    ExceptT ReceiptValidationError Option SuccessfulTransferReceipt := do
  let (_, token) ← liftExcept (locateReceipts outcome payer asset)
  checkReceiptGraph orders rounds outcome.receiptsOutcome outcome.transactionOutcome.receiptIds
    token.id
  liftExcept (transferReceipt token)

/-- Rounds enough for both loops: the walk takes a receipt off its queue once for each edge and once
for the root, and the sort takes each receipt once. -/
def FinalExecutionOutcomeView.graphRounds (outcome : FinalExecutionOutcomeView) : Nat :=
  (outcome.receiptsOutcome.map (·.receiptIds.length)).sum + outcome.receiptsOutcome.length + 1

/-- `interpret_final_outcome`. -/
def interpretFinalOutcome (outcome : FinalExecutionOutcomeView) (payer asset : AccountId) :
    Except ReceiptValidationError SuccessfulTransferReceipt :=
  (interpretFinalOutcomeWithin .insertion outcome.graphRounds outcome payer asset).run.getD
    (.error .incompleteReceiptGraph)

/-- Binds an RPC final outcome to the locally prepared outer transaction. -/
def validateFinalOutcomeIdentity (outcome : FinalExecutionOutcomeView) (expectedHash : CryptoHash)
    (expectedSigner expectedReceiver : AccountId) : Except ReceiptValidationError Unit :=
  if outcome.transactionHash ≠ expectedHash then .error .transactionHashMismatch
  else if outcome.transactionOutcome.id ≠ expectedHash then .error .transactionOutcomeIdMismatch
  else if outcome.signerId ≠ expectedSigner then .error .transactionSignerMismatch
  else if outcome.receiverId ≠ expectedReceiver then .error .transactionReceiverMismatch
  else if outcome.transactionOutcome.executorId ≠ expectedSigner then
    .error .invalidTransactionExecutor
  else .ok ()

/-- `execution_cost_near`: gas and tokens burnt over the transaction and its receipts. -/
def executionCostNear (outcome : FinalExecutionOutcomeView) : Nat × Nat :=
  outcome.receiptsOutcome.foldl
    (fun cost receipt => (min (cost.1 + receipt.gasBurnt) (2 ^ 64 - 1),
      min (cost.2 + receipt.tokensBurnt) (2 ^ 128 - 1)))
    (outcome.transactionOutcome.gasBurnt, outcome.transactionOutcome.tokensBurnt)

/-! ## What acceptance means -/

/-- The outcome is about the transaction with this hash, sent by this signer to this receiver. -/
structure FinalExecutionOutcomeView.Identifies (outcome : FinalExecutionOutcomeView)
    (hash : CryptoHash) (signer receiver : AccountId) : Prop where
  transactionHash : outcome.transactionHash = hash
  transactionOutcomeId : outcome.transactionOutcome.id = hash
  signerId : outcome.signerId = signer
  receiverId : outcome.receiverId = receiver
  executorId : outcome.transactionOutcome.executorId = signer

theorem validateFinalOutcomeIdentity_ok {outcome : FinalExecutionOutcomeView} {hash : CryptoHash}
    {signer receiver : AccountId} :
    validateFinalOutcomeIdentity outcome hash signer receiver = .ok () ↔
      outcome.Identifies hash signer receiver := by
  unfold validateFinalOutcomeIdentity
  constructor
  · intro h
    split_ifs at h
    constructor <;> simp_all
  · rintro ⟨h₁, h₂, h₃, h₄, h₅⟩
    simp [h₁, h₂, h₃, h₄, h₅]

/-- Exactly one direct child of the delegate receipt executed on the asset, and it returned a
success value. -/
def FinalExecutionOutcomeView.TransferSucceeded (outcome : FinalExecutionOutcomeView)
    (payer asset : AccountId) : Prop :=
  ∃ delegateId delegate token value,
    outcome.transactionOutcome.receiptIds = [delegateId] ∧
      lookupOutcome outcome.receiptsOutcome delegateId = some delegate ∧
      delegate.executorId = payer ∧
      (delegate.receiptIds.filterMap (lookupOutcome outcome.receiptsOutcome)).filter
        (·.executorId = asset) = [token] ∧
      token.status = .successValue value

end X402Facilitator
