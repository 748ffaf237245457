import X402Facilitator.System.Discipline

/-!
# Anchors of payments

A payment is journaled under the anchor of what the chain lets be used once: the hash of a delegate
action, or the nonce of an authorization in the scope of its chain, token and payer. The scope is
built four times from strings in different letter case: by `VerifiedPayment::identity`, by the
backfill of migration 0003, by the check of the table, and by the validator that recovery runs.
-/

namespace X402Facilitator

open Program

/-! ## The SQL side -/

/-- `network || ':' || lower(asset) || ':' || lower(payer)`. -/
def sqlAnchorScope (lower : String → String) (network asset payer : String) : String :=
  network ++ ":" ++ lower asset ++ ":" ++ lower payer

/-- `settlements_anchor_scope_check`. -/
def Settlement.AnchorScopeCheck (r : Settlement) (lower : String → String) : Prop :=
  (r.chainKind = .near ∧ r.anchorScope = "near" ∧ r.anchorValue = r.paymentHash) ∨
    (r.chainKind = .eip155 ∧ r.anchorScope = sqlAnchorScope lower r.network r.asset r.payer)

/-- The columns that migration 0003 reads of a row it finds. -/
structure LegacySettlement where
  chainKind : ChainKind
  network : String
  asset : String
  payer : String
  paymentHash : Hash32
  evmAuthorization : Option Json

/-- A text that matches `^0x[[:xdigit:]]{64}$`, with `decode(substring(text FROM 3), 'hex')`. -/
def decodeNonce? (text : String) : Option Hash32 :=
  match text.toList with
  | '0' :: 'x' :: digits =>
    if digits.length = 64 then (hexNumber? digits).map (BitVec.ofNat 256) else none
  | _ => none

namespace LegacySettlement

/-- `evm_authorization->>'nonce'`, decoded. -/
def nonce? (row : LegacySettlement) : Option Hash32 :=
  ((row.evmAuthorization.bind (·.get? "nonce")).bind Json.asStr?).bind decodeNonce?

/-- The row does not make the migration fail. -/
def canBackfill (row : LegacySettlement) : Bool :=
  let member (key : String) : Option Json := row.evmAuthorization.bind (·.get? key)
  row.chainKind = .near ∨ (row.evmAuthorization.any Json.isObject ∧ row.nonce?.isSome ∧
    (member "validAfter").any Json.isString ∧ (member "validBefore").any Json.isString)

/-- The anchor that the two updates of the migration write. -/
def backfill (row : LegacySettlement) (lower : String → String) : Option (String × Hash32) :=
  if ¬ row.canBackfill then none
  else
    match row.chainKind with
    | .near => some ("near", row.paymentHash)
    | .eip155 => row.nonce?.map (sqlAnchorScope lower row.network row.asset row.payer, ·)

end LegacySettlement

/-- Every character is in the ASCII range. -/
def IsAscii (text : String) : Prop := ∀ c ∈ text.toList, c.toNat < 128

section
variable [NearPrimitives] [EvmPrimitives]

/-! ## What a payment uses up -/

/-- What the chain lets be used once. -/
inductive SingleUse where
  | near (delegateHash : Hash32)
  | evm (chainId : Nat) (token payer : Address) (nonce : Hash32)
deriving DecidableEq

/-- What a payment that a provider has verified uses up. -/
def VerifiedPayment.uses (payment : VerifiedPayment) (provider : ChainProvider) : Option SingleUse :=
  match provider, payment.detail with
  | .near _, .near near => some (.near near.paymentHash)
  | .evm provider, .evm evm =>
    some (.evm provider.chainId evm.asset evm.payer evm.authorization.nonce)
  | _, _ => none

/-- The anchor that `VerifiedPayment::identity` computes. -/
def VerifiedPayment.anchor (payment : VerifiedPayment) : String × Hash32 :=
  (payment.identity.anchorScope, payment.identity.anchorValue)

/-- The legacy row journals the payment of a claim, its asset and its payer in any letter case. -/
inductive LegacySettlement.Holds (row : LegacySettlement) (new : NewSettlement)
    (verified : VerifiedPayment) : Prop
  | near {payment : NearVerifiedPayment} (hdetail : verified.detail = .near payment)
      (hkind : row.chainKind = .near) (hhash : row.paymentHash = verified.paymentHash)
  | evm {payment : EvmVerifiedPayment} (hdetail : verified.detail = .evm payment)
      (hkind : row.chainKind = .eip155) (hmigrates : row.canBackfill = true)
      (hnetwork : row.network = new.network) (hasset : eqIgnoreAsciiCase row.asset new.asset)
      (hpayer : eqIgnoreAsciiCase row.payer new.payer)
      (hnonce : row.nonce? = some payment.authorization.nonce)

/-- The anchor of a claim is the one of its payment for every part of the system. -/
structure AnchorsAgree (lower : String → String) (state : AppState) (verified : VerifiedPayment)
    (new : NewSettlement) : Prop where
  claimed : (new.anchorScope, new.anchorValue) = verified.anchor
  check : ∀ usageDate createdAt, (new.row usageDate createdAt).AnchorScopeCheck lower
  backfill : ∀ legacy : LegacySettlement, legacy.Holds new verified →
    legacy.backfill lower = some verified.anchor
  recovery : new.chainKind = .eip155 →
    Settlement.evmAnchorScope new.network new.asset new.payer = new.anchorScope
  recognised : ∀ usageDate createdAt bytes submission metadata gasLimit maxFeePerGas,
    validateStoredSubmission state.provider bytes (storedEvmSubmission
        (new.row usageDate createdAt) submission metadata gasLimit maxFeePerGas) ≠
      .error (.field "anchor scope")
  refused : ∀ db : Db, (∃ r ∈ db.settlements, r.anchor = verified.anchor) →
    ∀ usageDate now, ((StoreOp.claimReservation new usageDate).exec now db).1 ≠ .ok .inserted

/-! ## Addresses in a scope -/

/-- An address in lower case. -/
def addressKey (address : Address) : List Char := '0' :: 'x' :: hexDigits 40 address.toNat

omit [NearPrimitives] [EvmPrimitives]

theorem length_addressKey (address : Address) : (addressKey address).length = 42 := by
  simp [addressKey, length_hexDigits]

theorem addressKey_injective {a b : Address} (h : addressKey a = addressKey b) : a = b := by
  have hdigits := (List.cons.inj (List.cons.inj h).2).2
  have hlt (address : Address) : address.toNat < 16 ^ 40 := by simpa using address.isLt
  exact BitVec.eq_of_toNat_eq (hexDigits_inj (hlt a) (hlt b) hdigits)

theorem hexDigits_ascii (width n : Nat) : ∀ c ∈ hexDigits width n, c.toNat < 128 := by
  have hdigit : ∀ d < 16, (hexDigit d).toNat < 128 := by decide
  induction width generalizing n with
  | zero => simp [hexDigits]
  | succ width ih =>
    intro c hc
    obtain hc | hc := List.mem_append.mp hc
    · exact ih (n / 16) c hc
    · rw [List.mem_singleton.mp hc]
      exact hdigit _ (Nat.mod_lt n (by decide))

/-- Lower-casing does not move a character into the ASCII range. -/
theorem toNat_lt_of_toLower {c : Char} (h : c.toLower.toNat < 128) : c.toNat < 128 := by
  by_cases hupper : c.val ≥ 'A'.val ∧ c.val ≤ 'Z'.val
  · have hle : c.toNat ≤ 'Z'.toNat := hupper.2
    exact lt_of_le_of_lt hle (by decide)
  · have hsame : c.toLower = c := dif_neg hupper
    rwa [hsame] at h

theorem isAscii_of_asciiLower {text : String} {address : Address}
    (h : asciiLower text = String.ofList (addressKey address)) : IsAscii text := by
  intro c hc
  apply toNat_lt_of_toLower
  have hmem : c.toLower ∈ addressKey address := by
    rw [← String.toList_ofList (l := addressKey address), ← h, asciiLower, String.toList_ofList]
    exact List.mem_map_of_mem hc
  simp only [addressKey, List.mem_cons] at hmem
  obtain hmem | hmem | hmem := hmem
  · rw [hmem]
    decide
  · rw [hmem]
    decide
  · exact hexDigits_ascii 40 _ _ hmem

end

section
variable [NearPrimitives] [EvmPrimitives]

omit [NearPrimitives] in
/-- The scope of an EVM payment. -/
theorem evmAnchorScope_addressText (network : String) (asset payer : Address) :
    Settlement.evmAnchorScope network (addressText asset) (addressText payer) =
      String.ofList (network.toList ++ ':' :: (addressKey asset ++ ':' :: addressKey payer)) := by
  rw [Settlement.evmAnchorScope, EvmPrimitives.asciiLower_addressText,
    EvmPrimitives.asciiLower_addressText]
  apply String.toList_injective
  simp [addressKey]

omit [NearPrimitives] [EvmPrimitives] in
/-- The parts of a scope can be told apart from its end: an address has a fixed length. -/
theorem scope_inj {network network' : List Char} {asset asset' payer payer' : Address}
    (h : network ++ ':' :: (addressKey asset ++ ':' :: addressKey payer) =
      network' ++ ':' :: (addressKey asset' ++ ':' :: addressKey payer')) :
    network = network' ∧ asset = asset' ∧ payer = payer' := by
  obtain ⟨hnetwork, h⟩ := List.append_inj' h (by simp [length_addressKey])
  obtain ⟨hasset, h⟩ := List.append_inj (List.cons.inj h).2 (by simp [length_addressKey])
  exact ⟨hnetwork, addressKey_injective hasset, addressKey_injective (List.cons.inj h).2⟩

omit [NearPrimitives] [EvmPrimitives] in
theorem caip2_inj {provider provider' : EvmProvider} (h : provider.caip2 = provider'.caip2) :
    provider.chainId = provider'.chainId := by
  have hlist := congrArg String.toList h
  simp only [EvmProvider.caip2, String.toList_append, List.append_cancel_left_eq] at hlist
  simpa [decimalValue?_toDigits] using congrArg decimalValue? hlist

omit [NearPrimitives] in
/-- The configured asset is the provider's token, in some letter case. -/
theorem EvmProvider.Serves.asciiLower_asset {provider : EvmProvider} {config : ServiceConfig}
    {relayerKey : Bytes} (hserves : provider.Serves config relayerKey) {eip155 : Eip155Config}
    (hlaunch : config.LaunchesEip155 eip155) :
    asciiLower config.asset = String.ofList (addressKey provider.asset) := by
  obtain h | h := EvmPrimitives.asciiLower_of_parseAddress hserves.asset
  · exact h
  · have hlength : (asciiLower config.asset).toList.length = 42 := by
      obtain hasset | hasset := hlaunch.asset
      · rw [show asciiLower config.asset = asciiLower baseMainnetUsdc from hasset]
        decide
      · rw [show asciiLower config.asset = asciiLower baseSepoliaUsdc from hasset]
        decide
    rw [h, String.toList_ofList, length_hexDigits] at hlength
    cases hlength

/-! ## One anchor for every payment -/

/-- Payments have one anchor exactly if they use up the same thing. -/
theorem anchor_eq_iff {h h' : History Op.Answer} {request request' : Json}
    {maxSponsoredGas maxSponsoredGas' : Nat} {provider provider' : ChainProvider}
    {payment payment' : VerifiedPayment}
    (hverified : VerifiedFrom h request maxSponsoredGas provider payment)
    (hverified' : VerifiedFrom h' request' maxSponsoredGas' provider' payment') :
    payment.anchor = payment'.anchor ↔ payment.uses provider = payment'.uses provider' := by
  have hdisjoint (network : String) (asset payer : Address) :
      "near" ≠ Settlement.evmAnchorScope network (addressText asset) (addressText payer) := by
    rw [evmAnchorScope_addressText]
    intro h
    have hlength := congrArg (fun s => s.toList.length) h
    simp [length_addressKey] at hlength
  generalize hpayment : payment = p at hverified
  generalize hpayment' : payment' = p' at hverified'
  cases hverified with
  | @near relayer offline asset payTo amount =>
    cases hverified' with
    | @near relayer' offline' asset' payTo' amount' =>
      subst hpayment hpayment'
      simp [VerifiedPayment.anchor, VerifiedPayment.identity, VerifiedPayment.uses,
        VerifiedPayment.ofNear]
    | @evm provider' payload' requirements' paymentHash' response' evm' =>
      subst hpayment hpayment'
      simp [VerifiedPayment.anchor, VerifiedPayment.identity, VerifiedPayment.uses,
        VerifiedPayment.ofNear, VerifiedPayment.ofEvm, hdisjoint]
  | @evm provider payload requirements paymentHash response evm =>
    cases hverified' with
    | @near relayer' offline' asset' payTo' amount' =>
      subst hpayment hpayment'
      simp [VerifiedPayment.anchor, VerifiedPayment.identity, VerifiedPayment.uses,
        VerifiedPayment.ofNear, VerifiedPayment.ofEvm, Ne.symm (hdisjoint _ _ _)]
    | @evm provider' payload' requirements' paymentHash' response' evm' =>
      subst hpayment hpayment'
      simp only [VerifiedPayment.anchor, VerifiedPayment.identity, VerifiedPayment.uses,
        VerifiedPayment.ofEvm, Prod.mk.injEq, Option.some.injEq, SingleUse.evm.injEq]
      constructor
      · rintro ⟨hscope, hnonce⟩
        rw [evmAnchorScope_addressText, evmAnchorScope_addressText, String.ofList_inj] at hscope
        obtain ⟨hnetwork, hasset, hpayer⟩ := scope_inj hscope
        exact ⟨caip2_inj (String.toList_injective hnetwork), hasset, hpayer, hnonce⟩
      · rintro ⟨hchain, hasset, hpayer, hnonce⟩
        rw [EvmProvider.caip2, EvmProvider.caip2, hchain, hasset, hpayer]
        exact ⟨rfl, hnonce⟩

omit [NearPrimitives] [EvmPrimitives] in
/-- PostgreSQL refuses a second row under one anchor. -/
theorem not_inserted_of_anchor {new : NewSettlement} {db : Db} {r : Settlement}
    (hr : r ∈ db.settlements) (hanchor : r.anchor = (new.anchorScope, new.anchorValue))
    (usageDate : Day) (now : Nat) :
    ((StoreOp.claimReservation new usageDate).exec now db).1 ≠ .ok .inserted := by
  intro hreply
  obtain ⟨-, hclaimed⟩ | ⟨hne, -⟩ := claimReservation_ok (Txn.exec_ok hreply)
  · have hunique := ((claimReservation new usageDate now).exec db).2.constraints.anchor
    rw [hclaimed.settlements] at hunique
    exact hunique.of_concat hr (congrArg some hanchor) rfl
  · exact hne rfl

omit [NearPrimitives] in
/-- A row whose scope is the recomputed one is not refused for its scope. -/
theorem validateStoredSubmission_ne_scope {provider : ChainProvider} {bytes : Bytes}
    {binding : StoredEvmSubmission}
    (hscope : binding.anchorScope =
      Settlement.evmAnchorScope binding.network binding.asset binding.payer) :
    validateStoredSubmission provider bytes binding ≠ .error (.field "anchor scope") := by
  have hfield {α : Type} {x : Except StoredSubmissionError α}
      {f : α → Except StoredSubmissionError Unit} (hx : x ≠ .error (.field "anchor scope"))
      (hf : ∀ a, f a ≠ .error (.field "anchor scope")) :
      (x >>= f) ≠ .error (.field "anchor scope") := by
    cases x with
    | error e =>
      intro h
      exact hx (congrArg _ (Except.error.inj h))
    | ok a => exact hf a
  have hite {c : Prop} [Decidable c] {name : String} {x : Except StoredSubmissionError Unit}
      (hname : name ≠ "anchor scope") (hx : x ≠ .error (.field "anchor scope")) :
      (if c then .error (.field name) else x) ≠ .error (.field "anchor scope") := by
    split
    · simpa using hname
    · exact hx
  unfold validateStoredSubmission
  cases provider with
  | near relayer => simp
  | evm provider =>
    dsimp only
    refine hite (by decide) (hfield ?_ fun _ => hfield ?_ fun _ => hite (by decide)
      (hite (by decide) (hfield ?_ fun _ => hite (by decide) (hfield ?_ fun _ =>
        hfield ?_ fun _ => hite (by decide) (hfield ?_ fun _ => hfield ?_ fun _ => ?_)))))
    case refine_8 =>
      rw [if_neg (not_not.mpr hscope)]
      split <;> simp
    all_goals split <;> simp

/-- PostgreSQL's `lower` agrees with ASCII lower-casing on ASCII text. -/
def LowersAscii (lower : String → String) : Prop :=
  ∀ text, IsAscii text → lower text = asciiLower text

omit [NearPrimitives] [EvmPrimitives] in
theorem sqlAnchorScope_eq {lower : String → String} (hlower : LowersAscii lower) (network : String)
    {asset payer : String} (hasset : IsAscii asset) (hpayer : IsAscii payer) :
    sqlAnchorScope lower network asset payer = Settlement.evmAnchorScope network asset payer := by
  rw [sqlAnchorScope, hlower asset hasset, hlower payer hpayer, Settlement.evmAnchorScope]

theorem anchorsAgree_near {lower : String → String} {state : AppState} {id : Uuid}
    {request : ParsedRequest} {key : RequestKey} {relayer : NearProvider}
    {payment : NearVerifiedPayment} (hprovider : state.provider = .near relayer) :
    AnchorsAgree lower state (.ofNear payment)
      (newSettlement state id request key (.ofNear payment)) where
  claimed := rfl
  check _ _ := .inl ⟨rfl, rfl, rfl⟩
  backfill legacy hholds := by
    cases hholds with
    | near hdetail hkind hhash =>
      have hpasses : legacy.canBackfill = true := by
        rw [LegacySettlement.canBackfill, hkind]
        rfl
      simp only [LegacySettlement.backfill, hpasses, hkind, hhash]
      rfl
    | evm hdetail => cases hdetail
  recovery h := by cases h
  recognised _ _ _ _ _ _ _ := by
    rw [hprovider]
    nofun
  refused db h := by
    obtain ⟨r, hr, hanchor⟩ := h
    exact not_inserted_of_anchor hr hanchor

theorem anchorsAgree_evm {lower : String → String} (hlower : LowersAscii lower) {state : AppState}
    {id : Uuid} {request : ParsedRequest} {key : RequestKey} {provider : EvmProvider}
    {payment : EvmVerifiedPayment} (hprovider : state.provider = .evm provider)
    (hstatic : staticFailureReason state.config request.metadata = none)
    (hasset : payment.asset = provider.asset) :
    AnchorsAgree lower state (.ofEvm provider payment)
      (newSettlement state id request key (.ofEvm provider payment)) := by
  have hserves := state.serves hprovider
  have hlaunch := ServiceConfig.launchesEip155 state.validated hserves.chainKind hserves.eip155
  have hmeets := meets_of_staticFailureReason hstatic
  have hrequested : asciiLower request.metadata.asset = String.ofList (addressKey payment.asset) := by
    have hconfigured := hmeets.asset
    rw [hserves.chainKind] at hconfigured
    have hsame : asciiLower request.metadata.asset = asciiLower state.config.asset :=
      of_decide_eq_true hconfigured
    rw [hsame, hserves.asciiLower_asset hlaunch, hasset]
  have hpayer : asciiLower (addressText payment.payer) = String.ofList (addressKey payment.payer) :=
    EvmPrimitives.asciiLower_addressText _
  -- The scope of the identity is the one of the row's own columns.
  have hscope : Settlement.evmAnchorScope request.metadata.network request.metadata.asset
      (addressText payment.payer) =
        Settlement.evmAnchorScope provider.caip2 (addressText payment.asset)
          (addressText payment.payer) := by
    rw [Settlement.evmAnchorScope, hrequested, hmeets.network, hlaunch.network,
      Settlement.evmAnchorScope, EvmPrimitives.asciiLower_addressText payment.asset]
    rfl
  refine {
    claimed := rfl
    check := fun _ _ => .inr ⟨rfl, ?_⟩
    backfill := fun legacy hholds => ?_
    recovery := fun _ => hscope
    recognised := fun _ _ _ _ _ _ _ => validateStoredSubmission_ne_scope hscope.symm
    refused := fun db ⟨r, hr, hanchor⟩ => not_inserted_of_anchor hr hanchor }
  · exact ((sqlAnchorScope_eq hlower _ (isAscii_of_asciiLower hrequested)
      (isAscii_of_asciiLower hpayer)).trans hscope).symm
  · cases hholds with
    | near hdetail => cases hdetail
    | @evm payment' hdetail hkind hmigrates hnetwork hlegacy hlegacy' hnonce =>
      obtain rfl := VerifiedDetail.evm.inj hdetail
      have hlegacyAsset : asciiLower legacy.asset = asciiLower request.metadata.asset := hlegacy
      have hlegacyPayer : asciiLower legacy.payer = asciiLower (addressText payment.payer) := hlegacy'
      have hsql := sqlAnchorScope_eq hlower legacy.network
        (isAscii_of_asciiLower (hlegacyAsset.trans hrequested))
        (isAscii_of_asciiLower (hlegacyPayer.trans hpayer))
      have hlegacyScope : sqlAnchorScope lower legacy.network legacy.asset legacy.payer =
          Settlement.evmAnchorScope request.metadata.network request.metadata.asset
            (addressText payment.payer) := by
        rw [hsql, Settlement.evmAnchorScope, hlegacyAsset, hlegacyPayer,
          show legacy.network = request.metadata.network from hnetwork, Settlement.evmAnchorScope]
      simp only [LegacySettlement.backfill, hmigrates, hkind, hnonce, hlegacyScope, hscope]
      rfl

/-- The anchor of every claim is the same wherever it is computed, whatever the letter case of the
request's asset and of a legacy row's asset and payer; and two verified payments have one anchor
exactly if they are NEAR payments with one delegate hash or EVM payments with one chain, token, payer
and authorization nonce. -/
theorem anchors_agree (lower : String → String) (hlower : LowersAscii lower) :
    (∀ (state : AppState) (h : History Op.Answer) (client : ApiClient) (request : ParsedRequest)
      (paymentHash : Hash32) (verified : VerifiedPayment) (id : Uuid),
      Admitted state h client request paymentHash verified →
        AnchorsAgree lower state verified
          (newSettlement state id request (request.key client paymentHash) verified)) ∧
    ∀ (h h' : History Op.Answer) (request request' : Json) (maxSponsoredGas maxSponsoredGas' : Nat)
      (provider provider' : ChainProvider) (payment payment' : VerifiedPayment),
      VerifiedFrom h request maxSponsoredGas provider payment →
        VerifiedFrom h' request' maxSponsoredGas' provider' payment' →
          (payment.anchor = payment'.anchor ↔ payment.uses provider = payment'.uses provider') := by
  refine ⟨fun state h client request paymentHash verified id hadmitted => ?_,
    fun _ _ _ _ _ _ _ _ _ _ => anchor_eq_iff⟩
  have hverified := hadmitted.verifiedFrom
  generalize hprovider : state.provider = provider at hverified
  cases hverified with
  | near => exact anchorsAgree_near hprovider
  | evm hrequest hsignature hasked hverified =>
    obtain ⟨-, hasset⟩ := eip3009Request_ok hrequest
    obtain ⟨payer, -, -, -, -, hpayment⟩ := evmVerified_ok hverified
    exact anchorsAgree_evm hlower hprovider hadmitted.static (hpayment.trans hasset)

end

section
open Sample

local instance anchorsNear : NearPrimitives := nearPrimitives

local instance anchorsEvm : EvmPrimitives := evmPrimitives

namespace Sample

def baseProvider : EvmProvider := ⟨[1], 84532, usdcAddress, 2, 100000, 10, "USDC"⟩

set_option maxRecDepth 100000 in
/-- An EVM service with the signer 1. -/
def baseState : AppState where
  config := baseConfig 1
  relayerKey := [1]
  provider := .evm baseProvider
  validated := by decide +kernel
  built := by decide +kernel

def baseExact : ExactRequirements := ⟨usdcAddress, 11, 1000, "USDC", "2"⟩

def basePayload : Eip3009Payload := ⟨baseExact, ⟨10, 11, 1000, 0, 500, 9⟩, []⟩

/-- The hash of the authorization of `baseRequest`. -/
def basePaymentHash : Hash32 :=
  eip712TransferHash basePayload.authorization baseProvider.transferDomain

def basePayment : EvmVerifiedPayment where
  payer := 10
  paymentHash := basePaymentHash
  asset := usdcAddress
  payTo := 11
  amount := 1000
  authorization := basePayload.authorization
  signature := []

end Sample

set_option maxRecDepth 100000 in
theorem anchors_agree_baseRequest :
    ∃ new : NewSettlement, new.chainKind = .eip155 ∧
      AnchorsAgree asciiLower baseState (.ofEvm baseProvider basePayment) new := by
  have hrequest : (parseRequest (some (baseRequest "1000")) ⟨false, 16, 128⟩ false).toOption.any
      (fun request => staticFailureReason (baseConfig 1) request.metadata = none ∧
        paymentHashOf baseState request = .ok basePaymentHash ∧
        eip3009Request baseProvider request.raw = .ok (basePayload, baseExact)) = true ∧
      classifySignatureBeforeRpc basePayload.authorization basePayload.signature
        baseProvider.transferDomain = .ok basePaymentHash := by
    decide +kernel
  obtain ⟨hrequest, hsignature⟩ := hrequest
  cases hparsed : parseRequest (some (baseRequest "1000")) ⟨false, 16, 128⟩ false with
  | error e =>
    rw [hparsed] at hrequest
    cases hrequest
  | ok request =>
    rw [hparsed] at hrequest
    obtain ⟨hstatic, hhash, hread⟩ := of_decide_eq_true hrequest
    let h : History Op.Answer := [
      ⟨.ask (.evmVerify basePayload baseExact), .ok (.valid (hexText 40 10))⟩,
      ⟨.ask (.payeeAllowed 7 request.metadata.network request.metadata.asset request.metadata.payTo),
        .ok true⟩,
      ⟨.ask .readBody, .ok (some (baseRequest "1000"))⟩, ⟨.ask .authenticate, .ok ⟨7, 10000000⟩⟩]
    have hadmitted : Admitted baseState h ⟨7, 10000000⟩ request basePaymentHash
        (.ofEvm baseProvider basePayment) := {
      authenticated := by simp [h, Asked]
      parsed := ⟨_, by simp [h, Asked], hparsed⟩
      static := hstatic
      identity := hhash
      allowed := by simp [h, Asked]
      verifiedFrom := .evm hread hsignature (by simp [h, Asked]; rfl) rfl
      paymentHash_eq := rfl }
    exact ⟨_, rfl, (anchors_agree asciiLower fun _ _ => rfl).1 _ _ _ _ _ _ 1 hadmitted⟩

end

end X402Facilitator
