import X402Facilitator.Lib.Document
import X402Facilitator.Protocol.Dialects
import X402Facilitator.System.Ambiguity
import X402Facilitator.System.Discipline

/-!
# One request, two readings

The policy of a service is enforced on the metadata of a request, which a walk over the parsed value
collects. The verifier of the chain reads the request on its own: it gets the text that the value is
printed to, and deserializes it into structures. The two readings agree on everything that is paid,
so that the payment that is verified is the one that was looked up and claimed.
-/

namespace X402Facilitator

open Program Service

/-! ## The typed reading -/

/-- The derived deserializer of the requirements: a document that repeats a field is refused. -/
def WireRequirements.deserialize? (document : Json) : Option WireRequirements := do
  let members ← document.structMembers? ["scheme", "network", "amount", "payTo",
    "maxTimeoutSeconds", "asset", "extra"]
  let text (key : String) : Option String := (members.lookup key).bind Json.asStr?
  return {
    scheme := ← text "scheme"
    network := ← text "network"
    amount := ← text "amount"
    payTo := ← text "payTo"
    maxTimeoutSeconds := ← (members.lookup "maxTimeoutSeconds").map Json.fromDocument
    asset := ← text "asset" }

def WireRequest.deserialize? (document : Json) : Option WireRequest := do
  let members ← document.structMembers? ["x402Version", "paymentPayload", "paymentRequirements"]
  let payload ← (members.lookup "paymentPayload").bind
    (·.structMembers? ["x402Version", "accepted", "payload"])
  return {
    x402Version := ← (members.lookup "x402Version").map Json.fromDocument
    payloadVersion := ← (payload.lookup "x402Version").map Json.fromDocument
    accepted := ← (payload.lookup "accepted").bind WireRequirements.deserialize?
    payload := ← (payload.lookup "payload").map Json.fromDocument
    paymentRequirements :=
      ← (members.lookup "paymentRequirements").bind WireRequirements.deserialize? }

theorem WireRequirements.deserialize?_eq {value : Json} (h : value.IsValue) :
    deserialize? value = ofJson? value := by
  cases value with
  | object members =>
    simp only [deserialize?, ofJson?, h.structMembers?_eq, Json.asObject?, h.map_fromDocument_lookup,
      Json.get?, Option.bind_eq_bind, Option.bind_some]
  | _ => rfl

theorem bind_deserialize?_eq {members : Members} (h : (Json.object members).IsValue)
    (key : String) : (members.lookup key).bind WireRequirements.deserialize? =
      (members.lookup key).bind WireRequirements.ofJson? := by
  cases hmember : members.lookup key with
  | none => rfl
  | some member =>
    have hvalue : member.IsValue := h.get? hmember
    exact WireRequirements.deserialize?_eq hvalue

/-- On a value the typed reading is the reading by fields. -/
theorem WireRequest.deserialize?_eq {value : Json} (h : value.IsValue) :
    deserialize? value = ofJson? value := by
  cases value with
  | object members =>
    simp only [deserialize?, ofJson?, h.structMembers?_eq, Json.asObject?, h.map_fromDocument_lookup,
      bind_deserialize?_eq h, Json.get?.eq_1, Option.bind_eq_bind, Option.bind_some]
    cases hpayload : Members.lookup "paymentPayload" members with
    | none => rfl
    | some payload =>
      have hvalue : payload.IsValue := h.get? hpayload
      cases payload with
      | object payload =>
        simp only [hvalue.structMembers?_eq, Json.asObject?, hvalue.map_fromDocument_lookup,
          bind_deserialize?_eq hvalue, Json.get?.eq_1, Option.bind_some]
      | _ => cases Members.lookup "x402Version" members <;> rfl
  | _ => rfl

/-! ## The walk and the structures -/

/-- The requirements say what the metadata says. -/
structure WireRequirements.Says (requirements : WireRequirements) (metadata : RequestMeta) : Prop where
  scheme : requirements.scheme = metadata.scheme
  network : requirements.network = metadata.network
  asset : requirements.asset = metadata.asset
  amount : decimalValue? requirements.amount.toList = some metadata.amount
  payTo : requirements.payTo = metadata.payTo

/-- Requirements that the walk accepts are read as structures, and the numbers in them are exact. -/
theorem RequirementsRead.ofJson? {object : Members} (h : RequirementsRead object) :
    ∃ requirements : WireRequirements,
      object.lookup "scheme" = some (.string requirements.scheme) ∧
      object.lookup "network" = some (.string requirements.network) ∧
      object.lookup "asset" = some (.string requirements.asset) ∧
      object.lookup "amount" = some (.string requirements.amount) ∧
      object.lookup "payTo" = some (.string requirements.payTo) ∧
      ∀ json, json.SameButFloats (.object object) →
        WireRequirements.ofJson? json = some requirements := by
  obtain ⟨seconds, hseconds⟩ := h.maxTimeoutSeconds
  obtain ⟨scheme, hscheme⟩ := h.scheme
  obtain ⟨network, hnetwork⟩ := h.network
  obtain ⟨asset, hasset⟩ := h.asset
  obtain ⟨amount, hamount⟩ := h.amount
  obtain ⟨payTo, hpayTo⟩ := h.payTo
  refine ⟨⟨scheme, network, amount, payTo, .number (.posInt seconds), asset⟩, hscheme, hnetwork,
    hasset, hamount, hpayTo, fun json hjson => ?_⟩
  have htext {key text : String} (hkey : object.lookup key = some (.string text)) :
      json.get? key = some (.string text) := by
    obtain ⟨member, hmember, hsame⟩ := hjson.get? hkey
    rw [hmember, hsame.eq_string]
  obtain ⟨member, hmember, hsame⟩ := hjson.get? hseconds
  rw [hsame.eq_posInt] at hmember
  simp only [WireRequirements.ofJson?, htext hscheme, htext hnetwork, htext hasset, htext hamount,
    htext hpayTo, hmember]
  rfl

/-- The structures of a request that the walk accepts. -/
theorem RequestObjects.Walk.ofJson? {objects : RequestObjects} {value : Json}
    {metadata : RequestMeta} (h : objects.Walk value metadata) :
    ∃ wire : WireRequest, wire.paymentRequirements.Says metadata ∧ ∀ json, json.SameButFloats value →
      ∃ payload, payload.SameButFloats (.object objects.mechanism) ∧
        WireRequest.ofJson? json = some { wire with payload := payload } := by
  obtain ⟨version, hversion⟩ := h.x402Version
  obtain ⟨payloadVersion, hpayloadVersion⟩ := h.payloadVersion
  obtain ⟨requirements, hscheme, hnetwork, hasset, hamount, hpayTo, hrequirements⟩ :=
    h.requirements_read.ofJson?
  obtain ⟨accepted, -, -, -, -, -, haccepted⟩ := h.accepted_read.ofJson?
  have hstated {key left right : String} (hleft : objects.requirements.lookup key = some (.string left))
      (hright : objects.requirements.lookup key = some (.string right)) : left = right :=
    Json.string.inj (Option.some.inj (hleft.symm.trans hright))
  obtain ⟨text, htext, hvalue⟩ := h.amount
  refine ⟨⟨.number (.posInt version), .number (.posInt payloadVersion), accepted,
    .object objects.mechanism, requirements⟩, ⟨hstated hscheme h.scheme, hstated hnetwork h.network,
    hstated hasset h.asset, hstated htext hamount ▸ hvalue, hstated hpayTo h.payTo⟩, fun json hjson => ?_⟩
  rw [h.value_eq] at hjson
  obtain ⟨version', hversion', hsame⟩ := hjson.get? hversion
  rw [hsame.eq_posInt] at hversion'
  obtain ⟨requirements', hrequirements', hsame⟩ := hjson.get? h.requirements
  obtain ⟨paymentPayload, hpaymentPayload, hpayload⟩ := hjson.get? h.payload
  obtain ⟨payloadVersion', hpayloadVersion', hsame'⟩ := hpayload.get? hpayloadVersion
  rw [hsame'.eq_posInt] at hpayloadVersion'
  obtain ⟨accepted', haccepted', hsame'⟩ := hpayload.get? h.accepted
  obtain ⟨mechanism, hmechanism, hsame''⟩ := hpayload.get? h.mechanism
  refine ⟨mechanism, hsame'', ?_⟩
  simp only [WireRequest.ofJson?, hversion', hrequirements', hpaymentPayload, hpayloadVersion',
    haccepted', hmechanism, Option.bind_eq_bind, Option.bind_some, haccepted _ hsame',
    hrequirements _ hsame]
  rfl

/-! ## Delegate payments -/

theorem not_eip155_of_near {network : String} (h : network.beginsWith "near:" = true) :
    network.beginsWith "eip155:" = false := by
  obtain ⟨rest, hrest⟩ := List.isPrefixOf_iff_prefix.mp h
  rw [String.beginsWith, ← hrest]
  rfl

/-- A request on a NEAR network with the delegate method. -/
structure RequestMeta.Delegates (metadata : RequestMeta) : Prop where
  network : metadata.network.beginsWith "near:" = true
  method : metadata.nearAssetTransferMethod = some .delegate

/-- The mechanism payload of a delegate payment has one member only. -/
theorem RequestObjects.Walk.delegate {objects : RequestObjects} {value : Json}
    {metadata : RequestMeta} (h : objects.Walk value metadata) (hdelegates : metadata.Delegates) :
    ∃ encoded, metadata.signedDelegateAction = some encoded ∧
      objects.mechanism.lookup "signedDelegateAction" = some (.string encoded) ∧
      ∀ m ∈ objects.mechanism, m.1 = "signedDelegateAction" := by
  have hrouted := h.routed
  rw [parseRoutedMechanismPayload, if_neg (not_not.mpr hdelegates.network)] at hrouted
  obtain ⟨_, -, hrouted⟩ := Except.exists_of_bind hrouted
  obtain ⟨_, -, hrouted⟩ := Except.exists_of_bind hrouted
  split at hrouted
  · obtain ⟨delegate, hdelegate, hrouted⟩ := Except.exists_of_bind hrouted
    rw [parseMechanismPayload, not_eip155_of_near hdelegates.network, if_neg Bool.false_ne_true]
      at hdelegate
    obtain ⟨_, hkeys, hdelegate⟩ := Except.exists_of_bind hdelegate
    obtain ⟨encoded, hencoded, hdelegate⟩ := Except.exists_of_bind hdelegate
    obtain ⟨hsome, -⟩ := Prod.mk.inj (Except.ok.inj hrouted)
    refine ⟨encoded, hsome.symm.trans (Except.ok.inj hdelegate).symm, requiredString_ok hencoded,
      fun m hm => ?_⟩
    obtain ⟨hallowed, -⟩ := Except.of_ite_error hkeys
    by_contra hkey
    exact hallowed (List.any_eq_true.mpr ⟨m, hm, by simpa using hkey⟩)
  · have hmethod := (Prod.mk.inj (Except.ok.inj hrouted)).2
    rw [hdelegates.method] at hmethod
    cases hmethod

/-- The static policy lets no other method pass on a NEAR network. -/
theorem delegate_of_static {objects : RequestObjects} {value : Json} {metadata : RequestMeta}
    {config : ServiceConfig} (h : objects.Walk value metadata)
    (hnear : metadata.network.beginsWith "near:" = true)
    (hstatic : staticFailureReason config metadata = none) :
    metadata.nearAssetTransferMethod = some .delegate := by
  have hallowed : metadata.nearAssetTransferMethod.any (· ≠ .delegate) = false := by
    unfold staticFailureReason at hstatic
    split_ifs at hstatic with _ _ _ hmethod
    simpa using hmethod
  have hrouted := h.routed
  rw [parseRoutedMechanismPayload, if_neg (not_not.mpr hnear)] at hrouted
  obtain ⟨_, -, hrouted⟩ := Except.exists_of_bind hrouted
  obtain ⟨_, -, hrouted⟩ := Except.exists_of_bind hrouted
  split at hrouted
  · obtain ⟨_, -, hrouted⟩ := Except.exists_of_bind hrouted
    exact (Prod.mk.inj (Except.ok.inj hrouted)).2.symm
  · rw [← (Prod.mk.inj (Except.ok.inj hrouted)).2] at hallowed
    cases hallowed

theorem canonicalValue_v2 {value t : Json} {acceptV1 : Bool}
    (h : canonicalValue value acceptV1 = .ok (t, .v2)) : t = value := by
  unfold canonicalValue at h
  split at h
  · split at h
    · obtain ⟨t', -, h⟩ := Except.exists_of_bind h
      cases (Prod.mk.inj (Except.ok.inj h)).2
    · exact (Prod.mk.inj (Except.ok.inj h)).1.symm
  · exact (Prod.mk.inj (Except.ok.inj h)).1.symm

/-- A request on a NEAR network is forwarded as it was read: the legacy dialect has no such
network. -/
theorem raw_eq_of_near {value : Json} {policy : PaymentIdentifierConfig} {acceptV1 : Bool}
    {request : ParsedRequest} (h : parseRequest (some value) policy acceptV1 = .ok request)
    (hnear : request.metadata.network.beginsWith "near:" = true) : request.raw = value := by
  obtain ⟨_, hvalue, hcanonical, hmetadata, hraw⟩ := parseRequest_ok h
  obtain rfl := Option.some.inj hvalue
  cases hwire : request.wire with
  | v2 =>
    rw [hwire] at hcanonical
    exact hraw.trans (canonicalValue_v2 hcanonical)
  | v1 =>
    rw [hwire] at hcanonical
    obtain ⟨object, -, htranslated⟩ := canonicalValue_v1 hcanonical
    obtain ⟨f, caip2, -, hcaip2, ht⟩ := translateV1ToV2_ok htranslated
    obtain ⟨requirements, network, hrequirements, -, hnetwork, heip155⟩ :=
      (f.canonicalV2 hcaip2).requirements
    have hreads := (parseMetadata_reads hmetadata).network
    rw [ht, hrequirements, Option.bind_some, hnetwork] at hreads
    have hmetadataNetwork := Json.string.inj (Option.some.inj hreads)
    rw [← hmetadataNetwork] at hnear
    obtain rfl | rfl := heip155 <;> cases hnear

/-- The forwarded text of a delegate payment is read as the structures of the value itself. -/
theorem RequestObjects.Walk.forwarded {objects : RequestObjects} {value : Json}
    {metadata : RequestMeta} (h : objects.Walk value metadata) (reader : Json.Reader)
    {body : List Char} {document : Json} (hread : reader.read body = some document)
    (hvalue : value = document.fromDocument) (hdelegates : metadata.Delegates) :
    ∃ wire, (reader.read value.render).bind WireRequest.deserialize? = some wire ∧
      WireRequest.ofJson? value = some wire ∧ wire.paymentRequirements.Says metadata ∧
      ∃ encoded, (wire.payload.get? "signedDelegateAction").bind Json.asStr? = some encoded ∧
        metadata.signedDelegateAction = some encoded := by
  have hisValue : value.IsValue := hvalue ▸ document.isValue_fromDocument
  obtain ⟨encoded, hencoded, hlookup, hkeys⟩ := h.delegate hdelegates
  -- Nothing in the mechanism payload could be read in two ways.
  have hmechanism : objects.mechanism = [("signedDelegateAction", .string encoded)] := by
    rw [h.value_eq] at hisValue
    have hpayload : (Json.object objects.payload).IsValue := hisValue.get? h.payload
    have hmechanism : (Json.object objects.mechanism).IsValue := hpayload.get? h.mechanism
    cases hmechanism with | object hsorted _ =>
    exact Members.eq_singleton hsorted hkeys hlookup
  obtain ⟨wire, hstated, hjson⟩ := h.ofJson?
  have hwire {json : Json} (hsame : json.SameButFloats value) : WireRequest.ofJson? json =
      some { wire with payload := .object [("signedDelegateAction", .string encoded)] } := by
    obtain ⟨payload, hpayload, hwire⟩ := hjson json hsame
    rw [hmechanism] at hpayload
    rw [hwire, hpayload.eq_singleton]
  obtain ⟨document', hreread, hsame⟩ := reader.reread hread
  rw [← hvalue] at hreread hsame
  refine ⟨_, ?_, hwire rfl, hstated, encoded, rfl, hencoded⟩
  rw [hreread, Option.bind_some, WireRequest.deserialize?_eq (hsame.isValue hisValue), hwire hsame]

section
variable [NearPrimitives]

/-- What the offline checks work on is what the metadata says. -/
structure OfflineVerified.Says (offline : OfflineVerified) (metadata : RequestMeta) : Prop where
  network : offline.requirements.network = metadata.network
  asset : offline.requirements.asset = metadata.asset
  payTo : offline.requirements.payTo = metadata.payTo
  amount : decimalValue? offline.requirements.amount.toList = some metadata.amount
  near : metadata.network.beginsWith "near:" = true
  decoded : metadata.nearAssetTransferMethod = some .delegate →
    decodeSignedDelegate (metadata.signedDelegateAction.getD "") = .ok offline.decoded

omit [NearPrimitives] in
theorem near_of_nearNetwork? {network reference : String} (h : nearNetwork? network = some reference) :
    network.beginsWith "near:" = true := by
  unfold nearNetwork? at h
  split at h
  · rfl
  · rfl
  · cases h

theorem verifyOffline_states {relayer : NearProvider} {value : Json} {maxSponsoredGas : Nat}
    {offline : OfflineVerified} {policy : PaymentIdentifierConfig} {metadata : RequestMeta}
    (hmetadata : parseMetadata value policy = .ok metadata)
    (hoffline : verifyOffline relayer value maxSponsoredGas = .ok offline) :
    offline.Says metadata := by
  obtain ⟨objects, hwalk⟩ := parseMetadata_walk hmetadata
  obtain ⟨wire, encoded, hchecked⟩ := verifyOffline_ok hoffline
  obtain ⟨wire', hstated, hread⟩ := hwalk.ofJson?
  obtain ⟨payload, hpayload, hwire⟩ := hread value rfl
  obtain rfl := Option.some.inj (hchecked.wire_eq.symm.trans hwire)
  have hnear : metadata.network.beginsWith "near:" = true := by
    have hrequirements := hchecked.requirements_ok
    unfold checkRequirements at hrequirements
    obtain ⟨-, hrequirements⟩ := Except.of_ite_error hrequirements
    obtain ⟨-, hrequirements⟩ := Except.of_ite_error hrequirements
    obtain ⟨hnetwork, -⟩ := Except.of_ite_error hrequirements
    exact hstated.network ▸ near_of_nearNetwork? (not_not.mp hnetwork)
  have hrequirements := hchecked.requirements_eq
  refine ⟨hrequirements ▸ hstated.network, hrequirements ▸ hstated.asset, hrequirements ▸ hstated.payTo,
    hrequirements ▸ hstated.amount, hnear, fun hmethod => ?_⟩
  obtain ⟨encoded', hencoded', hlookup, -⟩ := hwalk.delegate ⟨hnear, hmethod⟩
  obtain ⟨member, hmember, hsame⟩ := hpayload.get? hlookup
  have hencoded := hchecked.encoded_eq
  rw [hmember, hsame.eq_string] at hencoded
  obtain rfl : encoded' = encoded := Option.some.inj hencoded
  rw [hencoded', Option.getD_some]
  exact hchecked.decoded_ok

/-! ## The payment -/

variable [EvmPrimitives]

theorem paymentHashOf_near {state : AppState} {request : ParsedRequest} {hash : Hash32}
    (hkind : state.config.chainKind = .near) (h : paymentHashOf state request = .ok hash) :
    ∃ decoded, decodeSignedDelegate (request.metadata.signedDelegateAction.getD "") = .ok decoded ∧
      decoded.paymentHash = hash := by
  rw [paymentHashOf, hkind] at h
  dsimp only at h
  split at h
  · cases h
  · rename_i decoded hdecoded
    obtain ⟨-, h⟩ := Except.of_ite_error h
    exact ⟨decoded, hdecoded, Except.ok.inj h⟩

/-- The payment that is verified has the identity that the request was looked up under. -/
theorem VerifiedFrom.paymentHash_eq {h : History Op.Answer} {state : AppState}
    {request : ParsedRequest} {policy : PaymentIdentifierConfig} {maxSponsoredGas : Nat}
    {payment : VerifiedPayment} {hash : Hash32}
    (hmetadata : parseMetadata request.raw policy = .ok request.metadata)
    (hmethod : ∀ relayer, state.provider = .near relayer →
      request.metadata.network.beginsWith "near:" = true →
      request.metadata.nearAssetTransferMethod = some .delegate)
    (hhash : paymentHashOf state request = .ok hash)
    (hverified : VerifiedFrom h request.raw maxSponsoredGas state.provider payment) :
    payment.paymentHash = hash := by
  generalize hprovider : state.provider = provider at hverified
  cases hverified with
  | near hoffline hasset hpayTo hamount =>
    have hstated := verifyOffline_states hmetadata hoffline
    obtain ⟨decoded, hdecoded, rfl⟩ := paymentHashOf_near (state.chainKind_of_near hprovider) hhash
    obtain rfl := Except.ok.inj ((hstated.decoded (hmethod _ hprovider hstated.near)).symm.trans hdecoded)
    rfl
  | evm hrequest hsignature hasked hverified =>
    obtain ⟨_, -, -, hpaymentHash, -⟩ := evmVerified_ok hverified
    rw [paymentHashOf, (state.serves hprovider).chainKind, hprovider] at hhash
    simp only [ChainProvider.offlinePaymentHash, EvmProvider.offlinePaymentHash, hrequest] at hhash
    exact hpaymentHash.trans
      ((classifySignatureBeforeRpc_ok hsignature).trans (Except.ok.inj hhash))

/-- Whatever the chain answers, a verification that accepts the request gives the payment hash that
was computed before. -/
def HashAgrees (state : AppState) (request : ParsedRequest) : Prop :=
  ∀ hash, paymentHashOf state request = .ok hash →
    Yields Unrestricted (state.provider.verify request.raw state.config.maxInnerGas) fun result _ =>
      ∀ payment, result = .ok payment → payment.paymentHash = hash

theorem hashAgrees {state : AppState} {request : ParsedRequest} {policy : PaymentIdentifierConfig}
    (hmetadata : parseMetadata request.raw policy = .ok request.metadata)
    (hmethod : ∀ relayer, state.provider = .near relayer →
      request.metadata.network.beginsWith "near:" = true →
      request.metadata.nearAssetTransferMethod = some .delegate) : HashAgrees state request :=
  fun _ hhash => (verify_yields (fun _ _ _ => trivial) _ _ _).conseq
    fun _ _ hverified payment hok =>
      (hverified payment hok).paymentHash_eq hmetadata hmethod hhash

/-! ## The claimed row -/

/-- A NEAR verification reads the chain, but what it verifies depends on the request only. -/
theorem VerifiedFrom.unique_near {h h' : History Op.Answer} {request : Json} {maxSponsoredGas : Nat}
    {relayer : NearProvider} {payment payment' : VerifiedPayment}
    (hpayment : VerifiedFrom h request maxSponsoredGas (.near relayer) payment)
    (hpayment' : VerifiedFrom h' request maxSponsoredGas (.near relayer) payment') :
    payment = payment' := by
  cases hpayment with
  | near hoffline hasset hpayTo hamount =>
    cases hpayment' with
    | near hoffline' hasset' hpayTo' hamount' =>
      obtain rfl := Except.ok.inj (hoffline.symm.trans hoffline')
      obtain rfl := Option.some.inj (hasset.symm.trans hasset')
      obtain rfl := Option.some.inj (hpayTo.symm.trans hpayTo')
      obtain rfl := Option.some.inj (hamount.symm.trans hamount')
      rfl

theorem newSettlement_amount (state : AppState) (id : Uuid) (request : ParsedRequest)
    (key : RequestKey) (verified : VerifiedPayment) :
    (newSettlement state id request key verified).amount = request.metadata.amount := by
  dsimp only [newSettlement]
  split <;> rfl

/-- A row that was claimed for the request passes every comparison with the payment that its worker
verifies, as long as it is reserved. -/
theorem journaledMatches_of_claimed {h h' : History Op.Answer} {state : AppState}
    {request : ParsedRequest} {policy : PaymentIdentifierConfig} {relayer : NearProvider}
    {verified payment : VerifiedPayment} {id : Uuid} {key : RequestKey} {usageDate : Day}
    {createdAt : Nat} {row : Settlement} {maxSponsoredGas : Nat}
    (hmetadata : parseMetadata request.raw policy = .ok request.metadata)
    (hverified : VerifiedFrom h request.raw maxSponsoredGas (.near relayer) verified)
    (hpayment : VerifiedFrom h' request.raw maxSponsoredGas (.near relayer) payment)
    (hrow : ((newSettlement state id request key verified).row usageDate createdAt).Evolves row)
    (hreserved : row.state = .reserved) : journaledMatches row payment = true := by
  obtain rfl := hverified.unique_near hpayment
  have hidentity := hrow.identity
  cases hverified with
  | @near _ offline asset payTo amount hoffline hasset hpayTo hamount =>
    have hstated := verifyOffline_states hmetadata hoffline
    have hamount' := (Option.filter_eq_some_iff.mp (Option.ite_none_left_eq_some.mp hamount).2).1
    have hamounts : row.amount = amount :=
      (congrArg RowIdentity.amount hidentity).trans
        (Option.some.inj (hstated.amount.symm.trans hamount'))
    refine decide_eq_true ⟨hreserved, congrArg RowIdentity.paymentHash hidentity,
      congrArg RowIdentity.anchorScope hidentity, congrArg RowIdentity.anchorValue hidentity,
      congrArg RowIdentity.payer hidentity,
      (congrArg RowIdentity.network hidentity).trans hstated.network.symm,
      congrArg asciiLower ?_, congrArg asciiLower ?_, hamounts.ge, hamounts.le⟩
    · exact (congrArg RowIdentity.asset hidentity).trans
        (hstated.asset.symm.trans (AccountId.parse_eq_some.mp hasset).symm)
    · exact (congrArg RowIdentity.payTo hidentity).trans
        (hstated.payTo.symm.trans (AccountId.parse_eq_some.mp hpayTo).symm)

omit [NearPrimitives] [EvmPrimitives] in
/-- The comparisons of amounts are made on decimal texts: the number of the journal, and the text of
the request. -/
theorem decimalIsAtLeast_of_stated {requirements : WireRequirements} {metadata : RequestMeta}
    (hstated : requirements.Says metadata) :
    decimalIsAtLeast (toString metadata.amount) requirements.amount = true ∧
      decimalIsAtLeast requirements.amount (toString metadata.amount) = true := by
  have hjournal : decimalValue? (toString metadata.amount).toList = some metadata.amount := by
    rw [show (toString metadata.amount).toList = Nat.toDigits 10 metadata.amount by simp]
    exact decimalValue?_toDigits metadata.amount
  exact ⟨(decimalIsAtLeast_iff hjournal hstated.amount).mpr le_rfl,
    (decimalIsAtLeast_iff hstated.amount hjournal).mpr le_rfl⟩

end

namespace Sample

/-- The sample request, as a document that gives the version twice. -/
def repeatedVersion : Json :=
  match request with
  | .object members => .object (("x402Version", number 1) :: members)
  | json => json

/-- A reader that knows the document and the value that it stands for. -/
def documentReader : Json.Reader where
  read text :=
    if text = request.render then some request
    else if text = repeatedVersion.render then some repeatedVersion
    else none
  reread {text document} hread := by
    have hvalue : document.fromDocument = request := by
      split_ifs at hread
      · obtain rfl := Option.some.inj hread
        with_unfolding_all rfl
      · obtain rfl := Option.some.inj hread
        with_unfolding_all rfl
    rw [hvalue]
    exact ⟨request, if_pos rfl, rfl⟩

def parsedRequest : ParsedRequest :=
  ⟨request, request, .v2, ⟨2, "exact", "near:testnet", nearTestnetUsdc, 1000, "shop.testnet",
    some "delegate", some .delegate, none⟩⟩

end Sample

section
local instance parsedNear : NearPrimitives := Sample.nearPrimitives

local instance parsedEvm : EvmPrimitives := Sample.evmPrimitives

end

end X402Facilitator
