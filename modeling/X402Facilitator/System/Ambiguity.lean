import X402Facilitator.System.Observed
import X402Facilitator.System.World

/-!
# Ambiguous verifications

A NEAR verification that fails with a reason that counts as ambiguous is answered as a temporary
failure. For requests whose amount and payee have the form that the chain gives them, such a reason
goes back to an RPC read that failed or returned something malformed; the reads of the request itself
that come after it share its reasons.
-/

namespace X402Facilitator

open Program Service

/-- The RPC call was answered, and as its type of call is: a definitive "not found" is an answer. -/
def Op.WellFormed : (o : Op) → o.Answer → Prop
  | .ask (.nearFinalBlock _), answer => ∃ block, answer = .ok block
  | .ask (.nearPayerKey ..), answer => (∃ key, answer = .ok key) ∨ answer = .error .accessKeyNotFound
  | .ask (.nearAccount ..), answer => (∃ amount, answer = .ok amount) ∨ answer = .error .accountNotFound
  | .ask (.nearContract ..), answer =>
    (∃ hasCode, answer = .ok hasCode) ∨ answer = .error .accountNotFound
  | .ask (.nearViewCall _ _ method _), answer =>
    if method = "ft_balance_of" then
      ∃ balance, answer = .ok (some (.string balance)) ∧ (parseDecimal balance).isSome
    else (∃ storage, answer = .ok (some storage)) ∨ answer = .error .methodNotFound
  | _, _ => True

/-- The amount is a 128-bit number, and the payee is an account id. -/
def WireRequirements.Representable (requirements : WireRequirements) : Prop :=
  (parseDecimal requirements.amount).isSome ∧ (AccountId.parse requirements.payTo).isSome

instance (requirements : WireRequirements) : Decidable requirements.Representable :=
  inferInstanceAs (Decidable (_ ∧ _))

/-- An ambiguous failure goes back to an RPC call. -/
def Blamed {α : Type} (result : Except VerificationFailure α) (own : History Op.Answer) : Prop :=
  ∀ failure, result = .error failure → failure.isRpcAmbiguous = true →
    ∃ e ∈ own, ¬ e.op.WellFormed e.answer

section
variable {α : Type} {own own' : History Op.Answer}

theorem blamed_ok (a : α) : Blamed (.ok a) own := fun _ h => by cases h

theorem blamed_definitive {failure : VerificationFailure} (h : failure.isRpcAmbiguous = false) :
    Blamed (.error failure : Except VerificationFailure α) own := by
  rintro _ ⟨⟩ hambiguous
  rw [h] at hambiguous
  cases hambiguous

theorem blamed_of_last {result : Except VerificationFailure α} {o : Op} {answer : o.Answer}
    (h : ¬ o.WellFormed answer) : Blamed result ([] ++ [⟨o, answer⟩]) :=
  fun _ _ _ => ⟨⟨o, answer⟩, List.mem_singleton_self _, h⟩

theorem Blamed.append_right {result : Except VerificationFailure α} (h : Blamed result own) :
    Blamed result (own ++ own') := fun failure hresult hambiguous =>
  let ⟨e, he, hbad⟩ := h failure hresult hambiguous
  ⟨e, List.mem_append_left own' he, hbad⟩

end

/-- The walks below allow every operation. -/
def Unrestricted (_ : History Op.Answer) (_ : Op) : Prop := True

theorem ask_recorded (query : Query) :
    Yields Unrestricted (ask query) fun answer own => own = [⟨.ask query, answer⟩] :=
  .perform (fun _ => trivial) fun _ => rfl

section
variable [NearPrimitives] {offline : OfflineVerified} {block : FinalBlock}

omit [NearPrimitives] in
theorem verifyNearStorage_blamed {asset : AccountId} {amount : Nat}
    (hpayTo : (AccountId.parse offline.requirements.payTo).isSome) :
    Yields Unrestricted (verifyNearStorage offline block asset amount) Blamed := by
  unfold verifyNearStorage
  obtain ⟨payTo, hparse⟩ := Option.isSome_iff_exists.mp hpayTo
  rw [hparse]
  refine .bind (ask_recorded _) fun answer own hown => ?_
  subst hown
  split
  · split
    · exact .pure (blamed_definitive rfl)
    · exact .pure (blamed_ok _)
  · exact .pure (blamed_ok _)
  · refine .pure (blamed_of_last ?_)
    rintro (⟨storage, h⟩ | h) <;> cases h
  · rename_i error hother
    refine .pure (blamed_of_last ?_)
    rintro (⟨storage, h⟩ | h)
    · cases h
    · exact hother (Except.error.inj h)

omit [NearPrimitives] in
theorem verifyNearBalance_blamed {asset : AccountId} (hrequirements : offline.requirements.Representable) :
    Yields Unrestricted (verifyNearBalance offline block asset) Blamed := by
  obtain ⟨hamount, hpayTo⟩ := hrequirements
  obtain ⟨amount, hparse⟩ := Option.isSome_iff_exists.mp hamount
  refine .bind (ask_recorded _) fun answer own hown => ?_
  subst hown
  split
  · rename_i balance
    cases hbalance : parseDecimal balance with
    | none =>
      refine .pure (blamed_of_last ?_)
      rintro ⟨text, htext, hsome⟩
      obtain rfl := Json.string.inj (Option.some.inj (Except.ok.inj htext))
      rw [hbalance] at hsome
      cases hsome
    | some value =>
      rw [hparse]
      dsimp only
      split
      · exact .pure (blamed_definitive rfl)
      · exact (verifyNearStorage_blamed hpayTo).conseq fun _ _ h => h.append_right
  · rename_i hother
    refine .pure (blamed_of_last ?_)
    rintro ⟨text, htext, -⟩
    exact hother text htext

omit [NearPrimitives] in
theorem verifyNearToken_blamed (hasset : (AccountId.parse offline.requirements.asset).isSome)
    (hrequirements : offline.requirements.Representable) :
    Yields Unrestricted (verifyNearToken offline block) Blamed := by
  unfold verifyNearToken
  obtain ⟨asset, hparse⟩ := Option.isSome_iff_exists.mp hasset
  rw [hparse]
  refine .bind (ask_recorded _) fun answer own hown => ?_
  subst hown
  split
  · dsimp only
    split
    · exact .pure (blamed_definitive rfl)
    · exact (verifyNearBalance_blamed hrequirements).conseq fun _ _ h => h.append_right
  · exact .pure (blamed_definitive rfl)
  · rename_i error hother
    refine .pure (blamed_of_last ?_)
    rintro (⟨hasCode, h⟩ | h)
    · cases h
    · exact hother (Except.error.inj h)

omit [NearPrimitives] in
theorem verifyNearPayer_blamed (hasset : (AccountId.parse offline.requirements.asset).isSome)
    (hrequirements : offline.requirements.Representable) :
    Yields Unrestricted (verifyNearPayer offline block) Blamed := by
  refine .bind (ask_recorded _) fun answer own hown => ?_
  subst hown
  split
  · exact .pure (blamed_definitive rfl)
  · rename_i error hother
    refine .pure (blamed_of_last ?_)
    rintro (⟨key, h⟩ | h)
    · cases h
    · exact hother (Except.error.inj h)
  split
  · exact .pure (blamed_definitive rfl)
  split
  · exact .pure (blamed_definitive rfl)
  · exact .pure (blamed_definitive rfl)
  · exact .pure (blamed_definitive rfl)
  refine .bind (ask_recorded _) fun answer own hown => ?_
  subst hown
  split
  · exact (verifyNearToken_blamed hasset hrequirements).conseq fun _ _ h =>
      h.append_right.append_right
  · exact .pure (blamed_definitive rfl)
  · rename_i error hother
    refine .pure ((blamed_of_last ?_).append_right)
    rintro (⟨amount, h⟩ | h)
    · cases h
    · exact hother (Except.error.inj h)

/-- A check of the request itself never fails with an ambiguous reason. -/
def Definitive {α : Type} (x : Except VerificationFailure α) : Prop :=
  ∀ failure, x = .error failure → failure.isRpcAmbiguous = false

section
variable {α β : Type}

omit [NearPrimitives]

theorem definitive_ok (a : α) : Definitive (.ok a) := fun _ h => by cases h

theorem definitive_error {failure : VerificationFailure} (h : failure.isRpcAmbiguous = false) :
    Definitive (.error failure : Except VerificationFailure α) := by
  rintro _ ⟨⟩
  exact h

theorem definitive_ite {c : Prop} [Decidable c] {failure : VerificationFailure}
    {x : Except VerificationFailure α} (h : failure.isRpcAmbiguous = false) (hx : Definitive x) :
    Definitive (if c then .error failure else x) := by
  split
  · exact definitive_error h
  · exact hx

theorem definitive_bind {x : Except VerificationFailure α} {f : α → Except VerificationFailure β}
    (hx : Definitive x) (hf : ∀ a, Definitive (f a)) : Definitive (x >>= f) := by
  cases x with
  | error failure => exact definitive_error (hx failure rfl)
  | ok a => exact hf a

end

omit [NearPrimitives] in
theorem checkRequirements_definitive (relayer : NearProvider) (wire : WireRequest) :
    Definitive (checkRequirements relayer wire) := by
  unfold checkRequirements
  dsimp only
  iterate 7 apply definitive_ite rfl
  split
  · exact definitive_error rfl
  · exact definitive_ok _

theorem decodeSignedDelegate_definitive (encoded : String) :
    Definitive (decodeSignedDelegate encoded) := by
  unfold decodeSignedDelegate
  split
  · exact definitive_error rfl
  split
  · exact definitive_error rfl
  · exact definitive_ite rfl (definitive_ok _)

theorem checkTransfer_definitive (delegate : SignedDelegateAction) (requirements : WireRequirements)
    (maxSponsoredGas : Nat) : Definitive (checkTransfer delegate requirements maxSponsoredGas) := by
  unfold checkTransfer
  split
  · apply definitive_ite rfl
    apply definitive_ite rfl
    refine definitive_bind ?_ fun ⟨receiverId, amount⟩ => ?_
    · unfold decodeFtTransferArgs
      split
      · exact definitive_error rfl
      · exact definitive_ite rfl (definitive_ok _)
    · iterate 4 apply definitive_ite rfl
      exact definitive_ok ()
  · exact definitive_error rfl
  · exact definitive_error rfl

theorem verifyOffline_definitive (relayer : NearProvider) (request : Json) (maxSponsoredGas : Nat) :
    Definitive (verifyOffline relayer request maxSponsoredGas) := by
  unfold verifyOffline
  split
  · exact definitive_error rfl
  refine definitive_bind (checkRequirements_definitive relayer _) fun seconds => ?_
  split
  · refine definitive_bind (decodeSignedDelegate_definitive _) fun decoded => ?_
    apply definitive_ite rfl
    apply definitive_ite rfl
    exact definitive_bind (checkTransfer_definitive _ _ _) fun _ => definitive_ok _
  · exact definitive_error rfl

omit [NearPrimitives] in
theorem checkHeight_definitive (offline : OfflineVerified) (height : Nat) :
    Definitive (checkHeight offline height) := by
  unfold checkHeight
  dsimp only
  iterate 3 apply definitive_ite rfl
  exact definitive_ok ()

/-- The contract that the delegate action calls is the asset, so the asset is an account id. -/
theorem asset_isSome_of_checkTransfer {delegate : SignedDelegateAction}
    {requirements : WireRequirements} {maxSponsoredGas : Nat}
    (h : checkTransfer delegate requirements maxSponsoredGas = .ok ()) :
    (AccountId.parse requirements.asset).isSome := by
  unfold checkTransfer at h
  split at h
  · obtain ⟨-, h⟩ := Except.of_ite_error h
    obtain ⟨hasset, -⟩ := Except.of_ite_error h
    rw [AccountId.parse_eq_some.mpr (not_not.mp hasset)]
    rfl
  · cases h
  · cases h

theorem verifyProtoRequest_blamed {relayer : NearProvider} {request : Json} {maxSponsoredGas : Nat}
    (hrequest : ∀ wire, WireRequest.ofJson? request = some wire →
      wire.paymentRequirements.Representable) :
    Yields Unrestricted (verifyProtoRequest relayer request maxSponsoredGas) Blamed := by
  refine andThen_yields (fun failure h => blamed_definitive ?_) fun offline hoffline => ?_
  · exact verifyOffline_definitive relayer request maxSponsoredGas failure h
  obtain ⟨wire, encoded, hchecked⟩ := verifyOffline_ok hoffline
  have hasset := asset_isSome_of_checkTransfer hchecked.transfer_ok
  have hrequirements := hrequest wire hchecked.wire_eq
  rw [← hchecked.requirements_eq] at hasset hrequirements
  refine .bind (ask_recorded _) fun answer own hown => ?_
  subst hown
  split
  · refine .pure (blamed_of_last ?_)
    rintro ⟨block, h⟩
    cases h
  refine andThen_yields (fun failure h => blamed_definitive ?_) fun _ _ => ?_
  · exact checkHeight_definitive offline _ failure h
  · exact (verifyNearPayer_blamed hasset hrequirements).conseq fun _ _ h => h.append_right

end

section
local instance blamedNear : NearPrimitives := Sample.nearPrimitives

local instance blamedEvm : EvmPrimitives := Sample.evmPrimitives

end

/-! ## Requests that are blamed on the RPC node -/

namespace Sample

/-- The payment of `signedDelegate` with this payee and this amount. -/
@[reducible]
def transferTo (payTo amount : String) : NearPrimitives :=
  { nearPrimitives with
    ftTransferArgs := fun bytes => if bytes = [2] then some (payTo, amount) else none }

def requestTo (payTo amount : String) : Json :=
  requestOf (.object [
    ("amount", .string amount), ("asset", .string nearTestnetUsdc), ("maxTimeoutSeconds", number 300),
    ("network", .string "near:testnet"), ("payTo", .string payTo), ("scheme", .string "exact")])
    (.object [("signedDelegateAction", .string "delegate")])

/-- A node that answers every read of a verification. -/
def nodeAnswer : (o : Op) → Option o.Answer
  | .ask (.nearFinalBlock _) => some (.ok ⟨100, 5⟩)
  | .ask (.nearPayerKey ..) => some (.ok ⟨2, .fullAccess⟩)
  | .ask (.nearAccount ..) => some (.ok 1000)
  | .ask (.nearContract ..) => some (.ok true)
  | .ask (.nearViewCall _ _ method _) =>
    if method = "ft_balance_of" then some (.ok (some (.string "5000")))
    else some (.ok (some (.object [])))
  | _ => none

theorem nodeAnswer_wellFormed {o : Op} {answer : o.Answer} (h : nodeAnswer o = some answer) :
    o.WellFormed answer := by
  unfold nodeAnswer at h
  split at h
  · exact ⟨_, (Option.some.inj h).symm⟩
  · exact .inl ⟨_, (Option.some.inj h).symm⟩
  · exact .inl ⟨_, (Option.some.inj h).symm⟩
  · exact .inl ⟨_, (Option.some.inj h).symm⟩
  · rename_i method _
    split at h
    · rename_i hmethod
      exact (if_pos hmethod).mpr ⟨"5000", (Option.some.inj h).symm, by decide⟩
    · rename_i hmethod
      exact (if_neg hmethod).mpr (.inl ⟨_, (Option.some.inj h).symm⟩)
  · cases h

/-- What a verification returns when the node gives these answers. -/
def verdictOf (payTo amount : String) : Option (Except VerifyRejection VerifiedPayment) :=
  let _ : NearPrimitives := transferTo payTo amount
  let _ : EvmPrimitives := evmPrimitives
  (((ChainProvider.near ⟨"testnet", relayer, "ed25519:relayer", []⟩).verify (requestTo payTo amount)
    30000000000000).against (fun _ o => (nodeAnswer o).map (·, ())) ()).map (·.1)

/-- The request passes `parse_request` and the static policy. -/
def acceptedStatically (payTo amount : String) : Bool :=
  let _ : NearPrimitives := transferTo payTo amount
  match parseRequest (some (requestTo payTo amount)) config.paymentIdentifier false with
  | .ok request => (staticFailureReason config request.metadata).isNone
  | .error _ => false

end Sample

end X402Facilitator
