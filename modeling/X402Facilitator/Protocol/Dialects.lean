import X402Facilitator.Protocol.Request

/-!
# One identity across wire dialects

A v1 request and the v2 request it is translated to are one request to everything after the parser.
The translation keeps what `V1Fields` lists and forgets the resource metadata; its output is a v2
request like any other, so the parser accepts it again and the fingerprint does not depend on the
dialect.
-/

namespace X402Facilitator

/-! ## The fields of a v1 request -/

/-- A member of the requirements of a v1 request. -/
def v1Field (object : Members) (key : String) : Option Json :=
  (object.lookup "paymentRequirements").bind (Json.get? key)

/-- The mechanism payload of a v1 request. -/
def v1Mechanism (object : Members) : Option Json :=
  (object.lookup "paymentPayload").bind (Json.get? "payload")

/-- The members of the requirements that the translation keeps; `resource`, `description`, `mimeType`
and `outputSchema` are the others that a v1 request may have. -/
def v1Kept : List String :=
  ["scheme", "network", "maxAmountRequired", "asset", "payTo", "maxTimeoutSeconds", "extra"]

/-- Two v1 requests say the same, apart from the resource metadata. -/
def V1Agree (object object' : Members) : Prop :=
  (∀ key ∈ v1Kept, v1Field object key = v1Field object' key) ∧
    v1Mechanism object = v1Mechanism object'

structure V1Fields where
  scheme : String
  network : String
  amount : String
  asset : String
  payTo : String
  maxTimeout : Json
  extra : Option Json
  mechanism : Members

/-- The request has these fields. -/
structure V1Fields.Of (f : V1Fields) (object : Members) : Prop where
  scheme : v1Field object "scheme" = some (.string f.scheme)
  network : v1Field object "network" = some (.string f.network)
  amount : v1Field object "maxAmountRequired" = some (.string f.amount)
  asset : v1Field object "asset" = some (.string f.asset)
  payTo : v1Field object "payTo" = some (.string f.payTo)
  maxTimeout : v1Field object "maxTimeoutSeconds" = some f.maxTimeout
  extra : v1Field object "extra" = f.extra
  mechanism : v1Mechanism object = some (.object f.mechanism)

/-- The v2 request with these fields. -/
def V1Fields.toV2 (f : V1Fields) (caip2 : String) : Json :=
  v2Request (.object (v2Requirements f.scheme caip2 f.asset f.amount f.payTo f.maxTimeout f.extra))
    f.mechanism

namespace V1Fields

variable {f f' : V1Fields} {object object' : Members}

/-- Two requests agree exactly when their fields do. -/
theorem Of.agree_iff (h : f.Of object) (h' : f'.Of object') : V1Agree object object' ↔ f = f' := by
  constructor
  · rintro ⟨hkept, hmechanism⟩
    simp only [v1Kept, List.mem_cons, List.not_mem_nil, or_false, forall_eq_or_imp, forall_eq,
      h.scheme, h'.scheme, h.network, h'.network, h.amount, h'.amount, h.asset, h'.asset, h.payTo,
      h'.payTo, h.maxTimeout, h'.maxTimeout, h.extra, h'.extra, Option.some.injEq,
      Json.string.injEq] at hkept
    obtain ⟨h₁, h₂, h₃, h₄, h₅, h₆, h₇⟩ := hkept
    simp only [h.mechanism, h'.mechanism, Option.some.injEq, Json.object.injEq] at hmechanism
    cases f
    cases f'
    simp_all
  · rintro rfl
    refine ⟨?_, h.mechanism.trans h'.mechanism.symm⟩
    simp only [v1Kept, List.mem_cons, List.not_mem_nil, or_false, forall_eq_or_imp, forall_eq]
    exact ⟨h.scheme.trans h'.scheme.symm, h.network.trans h'.network.symm,
      h.amount.trans h'.amount.symm, h.asset.trans h'.asset.symm, h.payTo.trans h'.payTo.symm,
      h.maxTimeout.trans h'.maxTimeout.symm, h.extra.trans h'.extra.symm⟩

end V1Fields

/-! ## The members of the translation -/

section
variable (scheme network asset amount payTo : String) (maxTimeout : Json) (extra : Option Json)

/-- The members of translated requirements. -/
theorem lookup_v2Requirements :
    let members := v2Requirements scheme network asset amount payTo maxTimeout extra
    members.lookup "scheme" = some (.string scheme) ∧
      members.lookup "network" = some (.string network) ∧
      members.lookup "asset" = some (.string asset) ∧
      members.lookup "amount" = some (.string amount) ∧
      members.lookup "payTo" = some (.string payTo) ∧
      members.lookup "maxTimeoutSeconds" = some maxTimeout ∧ members.lookup "extra" = extra := by
  cases extra <;>
    simp [v2Requirements, Members.lookup_insert_of_ne]

end

section
variable (requirements : Json) (mechanism : Members)

theorem get?_v2Request :
    (v2Request requirements mechanism).get? "x402Version" = some (.number (.posInt 2)) ∧
      (v2Request requirements mechanism).get? "paymentRequirements" = some requirements ∧
      ∃ payload, (v2Request requirements mechanism).get? "paymentPayload" = some payload ∧
        payload.get? "x402Version" = some (.number (.posInt 2)) ∧
        payload.get? "accepted" = some requirements ∧
        payload.get? "payload" = some (.object mechanism) := by
  simp [v2Request, Json.get?, Members.lookup_insert_of_ne]

/-- A translated request is not a v1 request, so the gate does not matter to it. -/
theorem canonicalValue_v2Request (acceptV1 : Bool) :
    canonicalValue (v2Request requirements mechanism) acceptV1
      = .ok (v2Request requirements mechanism, .v2) := by
  obtain ⟨hversion, -⟩ := get?_v2Request requirements mechanism
  simp only [v2Request, Json.get?] at hversion
  simp [canonicalValue, v2Request, Json.asObject?, isV1Request, hversion, Json.asU64?]

end

/-! ## The translation -/

/-- The translation reads the fields and writes them in the v2 shape. -/
theorem translateRequirements_ok {requirements : Members} {t : Json}
    (h : translateRequirements requirements = .ok t) :
    ∃ scheme network caip2 amount asset payTo maxTimeout,
      requirements.lookup "scheme" = some (.string scheme) ∧
      requirements.lookup "network" = some (.string network) ∧
      requirements.lookup "maxAmountRequired" = some (.string amount) ∧
      requirements.lookup "asset" = some (.string asset) ∧
      requirements.lookup "payTo" = some (.string payTo) ∧
      requirements.lookup "maxTimeoutSeconds" = some maxTimeout ∧
      caip2ForV1Network network = some caip2 ∧
      t = .object (v2Requirements scheme caip2 asset amount payTo maxTimeout
        (requirements.lookup "extra")) := by
  obtain ⟨_, -, h⟩ := Except.exists_of_bind h
  obtain ⟨network, hnetwork, h⟩ := Except.exists_of_bind h
  obtain ⟨caip2, hcaip2, h⟩ := Except.exists_of_bind h
  obtain ⟨scheme, hscheme, h⟩ := Except.exists_of_bind h
  obtain ⟨asset, hasset, h⟩ := Except.exists_of_bind h
  obtain ⟨amount, hamount, h⟩ := Except.exists_of_bind h
  obtain ⟨payTo, hpayTo, h⟩ := Except.exists_of_bind h
  obtain ⟨maxTimeout, hmaxTimeout, h⟩ := Except.exists_of_bind h
  exact ⟨scheme, network, caip2, amount, asset, payTo, maxTimeout, requiredString_ok hscheme,
    requiredString_ok hnetwork, requiredString_ok hamount, requiredString_ok hasset,
    requiredString_ok hpayTo, orField_ok hmaxTimeout, orField_ok hcaip2, (Except.ok.inj h).symm⟩

theorem translateV1ToV2_ok {object : Members} {t : Json} (h : translateV1ToV2 object = .ok t) :
    ∃ f caip2, V1Fields.Of f object ∧ caip2ForV1Network f.network = some caip2 ∧
      t = f.toV2 caip2 := by
  obtain ⟨_, -, h⟩ := Except.exists_of_bind h
  obtain ⟨requirements, hrequirements, h⟩ := Except.exists_of_bind h
  obtain ⟨_, -, h⟩ := Except.exists_of_bind h
  obtain ⟨_, -, h⟩ := Except.exists_of_bind h
  obtain ⟨translated, htranslated, h⟩ := Except.exists_of_bind h
  obtain ⟨payload, hpayload, h⟩ := Except.exists_of_bind h
  obtain ⟨_, -, h⟩ := Except.exists_of_bind h
  obtain ⟨_, -, h⟩ := Except.exists_of_bind h
  obtain ⟨_, -, h⟩ := Except.exists_of_bind h
  obtain ⟨_, -, h⟩ := Except.exists_of_bind h
  obtain ⟨_, -, h⟩ := Except.exists_of_bind h
  obtain ⟨_, -, h⟩ := Except.exists_of_bind h
  obtain ⟨mechanism, hmechanism, h⟩ := Except.exists_of_bind h
  obtain ⟨scheme, network, caip2, amount, asset, payTo, maxTimeout, h₁, h₂, h₃, h₄, h₅, h₆, hcaip2,
    rfl⟩ := translateRequirements_ok htranslated
  have hfield (key : String) : v1Field object key = requirements.lookup key := by
    rw [v1Field, requiredObject_ok hrequirements]
    rfl
  refine ⟨⟨scheme, network, amount, asset, payTo, maxTimeout, requirements.lookup "extra",
    mechanism⟩, caip2, ?_, hcaip2, (Except.ok.inj h).symm⟩
  refine ⟨?_, ?_, ?_, ?_, ?_, ?_, ?_, ?_⟩
  all_goals try (rw [hfield]; assumption)
  · exact hfield "extra"
  · rw [v1Mechanism, requiredObject_ok hpayload]
    exact requiredObject_ok hmechanism

theorem mem_v1Networks {name caip2 : String} (h : caip2ForV1Network name = some caip2) :
    (name, caip2) ∈ v1Networks := by
  obtain ⟨m, hfind, rfl⟩ := Option.map_eq_some_iff.mp h
  have hname : m.1 = name := by simpa using List.find?_some hfind
  exact hname ▸ List.mem_of_find?_eq_some hfind

/-- Two networks have different identifiers. -/
theorem caip2ForV1Network_inj {name name' caip2 : String}
    (h : caip2ForV1Network name = some caip2) (h' : caip2ForV1Network name' = some caip2) :
    name = name' := by
  have hmem := mem_v1Networks h
  have hmem' := mem_v1Networks h'
  simp only [v1Networks, List.mem_cons, List.not_mem_nil, or_false, Prod.mk.injEq] at hmem hmem'
  obtain ⟨rfl, rfl⟩ | ⟨rfl, rfl⟩ := hmem <;> obtain ⟨rfl, h⟩ | ⟨rfl, h⟩ := hmem' <;> simp_all

/-- No field is lost in the v2 shape. -/
theorem V1Fields.toV2_inj {f f' : V1Fields} {caip2 caip2' : String}
    (hcaip2 : caip2ForV1Network f.network = some caip2)
    (hcaip2' : caip2ForV1Network f'.network = some caip2') (h : f.toV2 caip2 = f'.toV2 caip2') :
    f = f' := by
  obtain ⟨-, hrequirements, payload, hpayload, -, -, hmechanism⟩ := get?_v2Request
    (.object (v2Requirements f.scheme caip2 f.asset f.amount f.payTo f.maxTimeout f.extra))
    f.mechanism
  obtain ⟨-, hrequirements', payload', hpayload', -, -, hmechanism'⟩ := get?_v2Request
    (.object (v2Requirements f'.scheme caip2' f'.asset f'.amount f'.payTo f'.maxTimeout f'.extra))
    f'.mechanism
  unfold V1Fields.toV2 at h
  rw [h, hrequirements'] at hrequirements
  rw [h, hpayload'] at hpayload
  rw [← Option.some.inj hpayload, hmechanism'] at hmechanism
  have heq := Json.object.inj (Option.some.inj hrequirements)
  have hl := lookup_v2Requirements f.scheme caip2 f.asset f.amount f.payTo f.maxTimeout f.extra
  have hr := lookup_v2Requirements f'.scheme caip2' f'.asset f'.amount f'.payTo f'.maxTimeout f'.extra
  simp only [heq] at hr
  simp only [hr, Option.some.injEq, Json.string.injEq] at hl
  obtain ⟨h₁, h₂, h₃, h₄, h₅, h₆, h₇⟩ := hl
  have hnetwork := caip2ForV1Network_inj hcaip2 (h₂ ▸ hcaip2')
  have hmech := Json.object.inj (Option.some.inj hmechanism)
  cases f
  cases f'
  simp_all

/-! ## The parser -/

theorem parseRequest_of_canonical {value canonical : Json} {wire : WireVersion}
    {policy : PaymentIdentifierConfig} {acceptV1 : Bool} {metadata : RequestMeta}
    (hcanonical : canonicalValue value acceptV1 = .ok (canonical, wire))
    (hmetadata : parseMetadata canonical policy = .ok metadata) :
    parseRequest (some value) policy acceptV1 = .ok ⟨canonical, canonical, wire, metadata⟩ := by
  simp only [parseRequest, hcanonical, hmetadata, bind, Except.bind, pure, Except.pure]

theorem canonicalValue_v1 {value t : Json} {acceptV1 : Bool}
    (h : canonicalValue value acceptV1 = .ok (t, .v1)) :
    ∃ object, value = .object object ∧ translateV1ToV2 object = .ok t := by
  unfold canonicalValue at h
  split at h
  · rename_i object hobject
    split at h
    · obtain ⟨t', ht', h⟩ := Except.exists_of_bind h
      obtain ⟨rfl, -⟩ := Prod.mk.inj (Except.ok.inj h)
      exact ⟨object, Json.eq_object hobject, ht'⟩
    · cases (Prod.mk.inj (Except.ok.inj h)).2
  · cases (Prod.mk.inj (Except.ok.inj h)).2

/-- The body is a v1 request whose translation the parser accepted. -/
structure AcceptedV1 (policy : PaymentIdentifierConfig) (object : Members) (request : ParsedRequest) :
    Prop where
  accepted : parseRequest (some (.object object)) policy true = .ok request
  wire : request.wire = .v1

theorem AcceptedV1.translated {policy : PaymentIdentifierConfig} {object : Members}
    {request : ParsedRequest} (h : AcceptedV1 policy object request) :
    translateV1ToV2 object = .ok request.value ∧
      parseMetadata request.value policy = .ok request.metadata := by
  obtain ⟨value, hvalue, hcanonical, hmetadata, -⟩ := parseRequest_ok h.accepted
  rw [h.wire] at hcanonical
  obtain ⟨object', hobject, htranslated⟩ := canonicalValue_v1 hcanonical
  obtain rfl := Json.object.inj ((Option.some.inj hvalue).trans hobject)
  exact ⟨htranslated, hmetadata⟩

/-- A canonical request: version 2 throughout, a CAIP-2 network, and the requirements accepted as they
are. -/
structure CanonicalV2 (t : Json) : Prop where
  version : t.get? "x402Version" = some (.number (.posInt 2))
  payloadVersion : (t.get? "paymentPayload").bind (Json.get? "x402Version")
    = some (.number (.posInt 2))
  requirements : ∃ requirements network, t.get? "paymentRequirements" = some requirements ∧
    (t.get? "paymentPayload").bind (Json.get? "accepted") = some requirements ∧
    requirements.get? "network" = some (.string network) ∧
    (network = "eip155:8453" ∨ network = "eip155:84532")

theorem V1Fields.canonicalV2 {f : V1Fields} {caip2 : String}
    (h : caip2ForV1Network f.network = some caip2) : CanonicalV2 (f.toV2 caip2) := by
  obtain ⟨hversion, hrequirements, payload, hpayload, hpayloadVersion, haccepted, -⟩ :=
    get?_v2Request
      (.object (v2Requirements f.scheme caip2 f.asset f.amount f.payTo f.maxTimeout f.extra))
      f.mechanism
  have hnetwork :=
    (lookup_v2Requirements f.scheme caip2 f.asset f.amount f.payTo f.maxTimeout f.extra).2.1
  refine ⟨hversion, ?_, _, caip2, hrequirements, ?_, hnetwork, ?_⟩
  · rw [V1Fields.toV2, hpayload]
    exact hpayloadVersion
  · rw [V1Fields.toV2, hpayload]
    exact haccepted
  · have hmem := mem_v1Networks h
    simp only [v1Networks, List.mem_cons, List.not_mem_nil, or_false, Prod.mk.injEq] at hmem
    exact hmem.imp And.right And.right

/-- The body is a request whose top-level version is 1. -/
def IsV1Body (body : Option Json) : Prop :=
  ∃ object, body = some (.object object) ∧ isV1Request object = true

theorem parseRequest_gate {body : Option Json} (h : ¬ IsV1Body body)
    (policy : PaymentIdentifierConfig) (acceptV1 acceptV1' : Bool) :
    parseRequest body policy acceptV1 = parseRequest body policy acceptV1' := by
  cases body with
  | none => rfl
  | some value =>
    have hcanonical (gate : Bool) : canonicalValue value gate = .ok (value, .v2) := by
      unfold canonicalValue
      split
      · rename_i object hobject
        have hv2 : isV1Request object = false := Bool.not_eq_true _ ▸ fun hv1 =>
          h ⟨object, congrArg some (Json.eq_object hobject), hv1⟩
        simp [hv2]
      · rfl
    simp only [parseRequest, hcanonical]

/-- A request has one identity in both dialects. What the parser accepts as v1 it accepts again after
the translation, behind the gate or not, as the same value with the same metadata and fingerprint.
The translation is canonical v2 and forgets the resource metadata only. A request of another version
does not notice the gate. -/
theorem one_identity_across_dialects [NearPrimitives] :
    (∀ policy object request, AcceptedV1 policy object request → ∃ t,
      translateV1ToV2 object = .ok t ∧ CanonicalV2 t ∧ ∀ acceptV1, ∃ again,
        parseRequest (some t) policy acceptV1 = .ok again ∧ again.value = t ∧
        again.value = request.value ∧ again.metadata = request.metadata ∧
        ∀ paymentHash, requestFingerprint again.value paymentHash
          = requestFingerprint request.value paymentHash) ∧
    (∀ policy policy' object object' request request', AcceptedV1 policy object request →
      AcceptedV1 policy' object' request' →
      (translateV1ToV2 object = translateV1ToV2 object' ↔ V1Agree object object')) ∧
    ∀ body, ¬ IsV1Body body → ∀ policy,
      parseRequest body policy true = parseRequest body policy false := by
  refine ⟨fun policy object request h => ?_, fun policy policy' object object' request request' h h'
    => ?_, fun body h policy => parseRequest_gate h policy true false⟩
  · obtain ⟨htranslated, hmetadata⟩ := h.translated
    obtain ⟨f, caip2, -, hcaip2, ht⟩ := translateV1ToV2_ok htranslated
    refine ⟨request.value, htranslated, ht ▸ f.canonicalV2 hcaip2, fun acceptV1 => ?_⟩
    have hcanonical : canonicalValue request.value acceptV1 = .ok (request.value, .v2) := by
      rw [ht]
      exact canonicalValue_v2Request _ _ acceptV1
    exact ⟨_, parseRequest_of_canonical hcanonical hmetadata, rfl, rfl, rfl, fun _ => rfl⟩
  · obtain ⟨f, caip2, hf, hcaip2, ht⟩ := translateV1ToV2_ok h.translated.1
    obtain ⟨f', caip2', hf', hcaip2', ht'⟩ := translateV1ToV2_ok h'.translated.1
    rw [hf.agree_iff hf', h.translated.1, h'.translated.1, ht, ht', Except.ok.injEq]
    refine ⟨V1Fields.toV2_inj hcaip2 hcaip2', ?_⟩
    rintro rfl
    rw [Option.some.inj (hcaip2.symm.trans hcaip2')]

/-- A v1 request for a resource. -/
def Sample.v1Request (resource : String) : Members :=
  [("paymentPayload", .object [("network", .string "base"),
      ("payload", .object [("authorization", .object [("from", .string "0x0a"),
          ("nonce", .string ("0x" ++ String.ofList (hexDigits 64 9))), ("to", .string "0x0b"),
          ("validAfter", .string "0"), ("validBefore", .string "500"), ("value", .string "1000")]),
        ("signature", .string "0x01")]),
      ("scheme", .string "exact"), ("x402Version", .number (.posInt 1))]),
    ("paymentRequirements", .object [("asset", .string "0x0c"),
      ("maxAmountRequired", .string "1000"), ("maxTimeoutSeconds", .number (.posInt 60)),
      ("network", .string "base"), ("payTo", .string "0x0b"), ("resource", .string resource),
      ("scheme", .string "exact")]),
    ("x402Version", .number (.posInt 1))]

-- The body is accepted as v1 behind the gate only.
example : ([true, false].map fun acceptV1 =>
    ((parseRequest (some (.object (Sample.v1Request "a"))) ⟨false, 1, 64⟩ acceptV1).toOption.map
      fun request => (request.wire, request.metadata.network))) =
    [some (.v1, "eip155:8453"), none] := by
  decide +kernel

end X402Facilitator
