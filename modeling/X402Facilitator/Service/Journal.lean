import X402Facilitator.Service.Effects

/-!
# Store calls of several statements

`claim_settlement` and its lookups, `resume_awaiting_retry` and `raise_required_confirmations`: the
calls of `PgStore` that send more than one statement. Each statement is atomic; other processes may
run between them.
-/

namespace X402Facilitator

open Service

inductive ClaimOutcome where
  | new (record : Settlement)
  | existing (record : Settlement)
  | identifierConflict
  | duplicateSettlement
  | settlementBusy
  | budgetExceeded

inductive RetryOutcome where
  | resumed (record : Settlement)
  | settlementBusy
  | budgetExceeded

/-- The loop of `find_existing_settlement` over the rows of a request with an identifier. -/
def classifyIdentified (apiClientId : Uuid) (identifier : String)
    (paymentHash requestFingerprint : Hash32) (paymentHashExists : Bool) :
    List Settlement → Option ClaimOutcome
  | [] => if paymentHashExists then some .duplicateSettlement else none
  | row :: rows =>
    if row.apiClientId = apiClientId ∧ row.paymentIdentifier = some identifier then
      if row.requestFingerprint = requestFingerprint then some (.existing row)
      else some .identifierConflict
    else
      classifyIdentified apiClientId identifier paymentHash requestFingerprint
        (paymentHashExists || row.paymentHash = paymentHash) rows

/-- How `find_existing_settlement` reads the rows that its query returned. -/
def classifyExisting (apiClientId : Uuid) (paymentIdentifier : Option String)
    (paymentHash requestFingerprint : Hash32) (rows : List Settlement) : Option ClaimOutcome :=
  match paymentIdentifier with
  | some identifier =>
    classifyIdentified apiClientId identifier paymentHash requestFingerprint false rows
  | none =>
    match rows.head? with
    | none => none
    | some row =>
      if row.apiClientId = apiClientId ∧ row.requestFingerprint = requestFingerprint then
        some (.existing row)
      else some .duplicateSettlement

section
variable {client : Uuid} {identifier : String} {hash fingerprint : Hash32}

/-- The row is the caller's row under the identifier. -/
def Settlement.Under (r : Settlement) (client : Uuid) (identifier : String) : Prop :=
  r.apiClientId = client ∧ r.paymentIdentifier = some identifier

theorem classifyIdentified_existing {seen : Bool} {rows : List Settlement} {r : Settlement}
    (h : classifyIdentified client identifier hash fingerprint seen rows = some (.existing r)) :
    r.Under client identifier ∧ r.requestFingerprint = fingerprint := by
  induction rows generalizing seen with
  | nil =>
    simp only [classifyIdentified] at h
    split at h <;> cases h
  | cons row rows ih =>
    simp only [classifyIdentified] at h
    split at h
    · rename_i hunder
      split at h
      · obtain rfl := ClaimOutcome.existing.inj (Option.some.inj h)
        exact ⟨hunder, ‹_›⟩
      · cases h
    · exact ih h

theorem classifyExisting_existing {identifier : Option String} {rows : List Settlement}
    {r : Settlement}
    (h : classifyExisting client identifier hash fingerprint rows = some (.existing r)) :
    r.apiClientId = client ∧ r.requestFingerprint = fingerprint ∧
      ∀ i, identifier = some i → r.paymentIdentifier = some i := by
  cases identifier with
  | some i =>
    obtain ⟨⟨hclient, hidentifier⟩, hfingerprint⟩ := classifyIdentified_existing h
    exact ⟨hclient, hfingerprint, fun _ hi => Option.some.inj hi ▸ hidentifier⟩
  | none =>
    simp only [classifyExisting] at h
    split at h
    · cases h
    split at h
    · rename_i hrow
      obtain rfl := ClaimOutcome.existing.inj (Option.some.inj h)
      exact ⟨hrow.1, hrow.2, fun i hi => by cases hi⟩
    · cases h

/-- A lookup never returns a new row. -/
theorem classifyExisting_ne_new (identifier : Option String) (rows : List Settlement)
    (r : Settlement) : classifyExisting client identifier hash fingerprint rows ≠ some (.new r) := by
  have hidentified (i : String) (seen : Bool) :
      classifyIdentified client i hash fingerprint seen rows ≠ some (.new r) := by
    induction rows generalizing seen with
    | nil => unfold classifyIdentified; split <;> simp
    | cons row rows ih =>
      unfold classifyIdentified
      split
      · split <;> simp
      · exact ih _
  cases identifier with
  | some i => exact hidentified i false
  | none =>
    simp only [classifyExisting]
    split
    · simp
    split <;> simp

end

def findExistingSettlement (apiClientId : Uuid) (paymentIdentifier : Option String)
    (paymentHash requestFingerprint : Hash32) :
    Service (Except StoreError (Option ClaimOutcome)) := do
  match ← store (.selectExisting apiClientId paymentIdentifier paymentHash) with
  | .error e => return .error e
  | .ok rows =>
    return .ok (classifyExisting apiClientId paymentIdentifier paymentHash requestFingerprint rows)

/-- `find_existing_settlement` for a claim, with what to answer when there is none. -/
def findExistingOr (new : NewSettlement) (otherwise : Service (Except StoreError ClaimOutcome)) :
    Service (Except StoreError ClaimOutcome) := do
  match ← findExistingSettlement new.apiClientId new.paymentIdentifier new.paymentHash
      new.requestFingerprint with
  | .error e => return .error e
  | .ok (some existing) => return .ok existing
  | .ok none => otherwise

def activeEvmSigner (new : NewSettlement) : Service (Except StoreError Bool) :=
  match new.chainKind, new.signerAddress with
  | .eip155, some signer => store (.activeEvmSignerExists new.network signer)
  | _, _ => return .ok false

/-- The end of `claim_settlement` when the insert hit a unique index. -/
def claimConflicted (new : NewSettlement) : Service (Except StoreError ClaimOutcome) :=
  findExistingOr new do
    match ← store (.anchorIsClaimed new.anchorScope new.anchorValue) with
    | .error e => return .error e
    | .ok true => return .ok .duplicateSettlement
    | .ok false =>
      match ← activeEvmSigner new with
      | .error e => return .error e
      | .ok true => return .ok .settlementBusy
      | .ok false =>
        return .error
          (.corrupt "settlement insert conflicted but conflicting row was not visible")

/-- The transaction of `claim_settlement` and what follows it. -/
def claimNew (new : NewSettlement) : Service (Except StoreError ClaimOutcome) := do
  let usageDate ← ask .utcToday
  match ← store (.claimReservation new usageDate) with
  | .error e => return .error e
  | .ok .conflicted => claimConflicted new
  | .ok .budgetExceeded => return .ok .budgetExceeded
  | .ok .inserted =>
    match ← store (.settlement new.id) with
    | .error e => return .error e
    | .ok none => return .error (.corrupt "inserted settlement disappeared")
    | .ok (some record) => return .ok (.new record)

/-- The authorization metadata of an EVM claim has the one supported version. -/
def metadataIsCanonical (new : NewSettlement) : Bool :=
  new.chainKind ≠ .eip155 ∨ new.authorizationMetadata.any (·.version = 2)

def claimSettlement (new : NewSettlement) : Service (Except StoreError ClaimOutcome) :=
  if ¬ metadataIsCanonical new then
    return .error
      (.invalidInput "EVM authorization metadata must use canonical x402 version 2")
  else
    findExistingOr new do
      match ← store (.anchorIsClaimed new.anchorScope new.anchorValue) with
      | .error e => return .error e
      | .ok true => findExistingOr new (return .ok .duplicateSettlement)
      | .ok false =>
        match ← activeEvmSigner new with
        | .error e => return .error e
        | .ok true => findExistingOr new (return .ok .settlementBusy)
        | .ok false => claimNew new

def resumeAwaitingRetry (retry : RetryReservation) : Service (Except StoreError RetryOutcome) := do
  let usageDate ← ask .utcToday
  match ← store (.resumeReservation retry usageDate) with
  | .error e => return .error e
  | .ok .settlementBusy => return .ok .settlementBusy
  | .ok .budgetExceeded => return .ok .budgetExceeded
  | .ok .resumed =>
    match ← store (.settlement retry.settlementId) with
    | .error e => return .error e
    | .ok none => return .error (.corrupt "resumed settlement disappeared")
    | .ok (some record) => return .ok (.resumed record)

def raiseRequiredConfirmations (id : Uuid) (minimum : Int) : Service (Except StoreError Int) :=
  if minimum < 1 then
    return .error (.invalidInput "required confirmations must be at least 1")
  else do
    match ← store (.raiseConfirmations id minimum) with
    | .error e => return .error e
    | .ok (some required) => return .ok required
    | .ok none =>
      match ← store (.settlement id) with
      | .error e => return .error e
      | .ok (some row) =>
        return .error (.transition row.state.asStr "confirmation_policy_raised")
      | .ok none => return .error (.corrupt "confirmation settlement not found")

end X402Facilitator
