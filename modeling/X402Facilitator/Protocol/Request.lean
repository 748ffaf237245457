import X402Facilitator.Lib.Canonical
import X402Facilitator.Near.Transaction

/-!
# Requests

`parse_request`: the walk over the JSON value of a settle request, the translation of the legacy v1
dialect into the canonical v2 value that the walk then sees, and the fingerprint of a request in the
journal. The translation only looks at what it moves; everything else is left to the walk.

A body is the JSON value that `serde_json` reads from it. Printing a value and reading it again gives
the value back, so a raw request is the value it was printed from.
-/

namespace X402Facilitator

/-! ## Values -/

structure PaymentIdentifierConfig where
  required : Bool
  minLength : Nat
  maxLength : Nat
deriving DecidableEq

/-- The wire dialect of a request. Everything after the parser is canonical v2. -/
inductive WireVersion where
  | v1
  | v2
deriving DecidableEq

inductive NearAssetTransferMethod where
  | delegate
  | unsupported
deriving DecidableEq

structure RequestMeta where
  x402Version : Nat
  scheme : String
  network : String
  asset : String
  amount : Nat
  payTo : String
  signedDelegateAction : Option String
  nearAssetTransferMethod : Option NearAssetTransferMethod
  paymentIdentifier : Option String
deriving DecidableEq

/-- A request body that the protocol layer accepted: the raw request handed to verification, its
canonical value, and the metadata the policy reads. -/
structure ParsedRequest where
  raw : Json
  value : Json
  wire : WireVersion
  metadata : RequestMeta

inductive RequestError where
  | notObject
  | field (path : String)
  | paymentIdentifier (message : String)
  | json
deriving DecidableEq

/-! ## Fields -/

/-- `ok_or(RequestError::Field(path))`. -/
def orField {α : Type} (value : Option α) (path : String) : Except RequestError α :=
  match value with
  | some a => .ok a
  | none => .error (.field path)

def refuse (condition : Bool) (error : RequestError) : Except RequestError Unit :=
  if condition then .error error else .ok ()

def ensureAllowedKeys (object : Members) (allowed : List String) (path : String) :
    Except RequestError Unit :=
  refuse (object.any fun m => m.1 ∉ allowed) (.field path)

def requiredObject (object : Members) (key path : String) : Except RequestError Members :=
  orField ((object.lookup key).bind Json.asObject?) path

def requiredU8 (object : Members) (key path : String) : Except RequestError Nat :=
  orField (((object.lookup key).bind Json.asU64?).filter (· < 2 ^ 8)) path

def requiredString (object : Members) (key path : String) : Except RequestError String :=
  orField (((object.lookup key).bind Json.asStr?).filter (· ≠ "")) path

/-- A decimal numeral, as the number it denotes. -/
def requiredDecimalString (object : Members) (key path : String) : Except RequestError Nat := do
  orField (decimalValue? (← requiredString object key path).toList) path

/-- `compare_decimal`: the longer numeral is greater, once leading zeros are trimmed. -/
def compareDecimal (left right : String) : Ordering :=
  let left := trimZeros left
  let right := trimZeros right
  (compare left.length right.length).then (compareOfLessAndEq left right)

def decimalIsAtLeast (value minimum : String) : Bool := compareDecimal value minimum ≠ .lt

/-- The comparison of numerals is that of the numbers they denote. -/
theorem decimalIsAtLeast_iff {value minimum : String} {m n : Nat}
    (hm : decimalValue? value.toList = some m) (hn : decimalValue? minimum.toList = some n) :
    decimalIsAtLeast value minimum = true ↔ n ≤ m := by
  have hlt : compareDecimal value minimum = .lt ↔ m < n := by
    rw [decimal_lt_iff_trimmed hm hn, compareDecimal, Ordering.then_eq_lt, Nat.compare_eq_lt,
      Nat.compare_eq_eq, compareOfLessAndEq_eq_lt]
  rw [decimalIsAtLeast, decide_eq_true_eq, ne_eq, hlt, Nat.not_lt]

example : decimalIsAtLeast "001000" "1000" = true ∧ decimalIsAtLeast "999" "1000" = false := by
  decide

/-! ## The walk -/

/-- `validate_requirements_shape`. -/
def validateRequirementsShape (object : Members) (path : String) : Except RequestError Unit := do
  ensureAllowedKeys object
    ["scheme", "network", "asset", "amount", "payTo", "maxTimeoutSeconds", "extra"] path
  let _ ← orField (((object.lookup "maxTimeoutSeconds").bind Json.asU64?).filter (0 < ·)) path
  refuse ((object.lookup "extra").any fun extra => !extra.isObject) (.field path)

def validateResource (resource : Option Json) : Except RequestError Unit :=
  match resource with
  | none => .ok ()
  | some resource => do
    let resource ← orField resource.asObject? "paymentPayload.resource"
    ensureAllowedKeys resource
      ["url", "description", "mimeType", "serviceName", "tags", "iconUrl"] "paymentPayload.resource"
    let _ ← requiredString resource "url" "paymentPayload.resource.url"
    refuse (["description", "mimeType", "serviceName", "iconUrl"].any fun key =>
      (resource.lookup key).any fun value => !value.isString) (.field "paymentPayload.resource")
    match resource.lookup "tags" with
    | none => .ok ()
    | some tags =>
      let tags ← orField tags.asArray? "paymentPayload.resource.tags"
      refuse (tags.any fun tag => !tag.isString) (.field "paymentPayload.resource.tags")

/-- The path of every error about an ERC-3009 authorization. -/
def authorizationPath : String := "paymentPayload.payload.authorization"

def validateEip155Authorization (authorization : Members) : Except RequestError Unit := do
  ensureAllowedKeys authorization ["from", "to", "value", "validAfter", "validBefore", "nonce"]
    authorizationPath
  let _ ← requiredString authorization "from" authorizationPath
  let _ ← requiredString authorization "to" authorizationPath
  let _ ← requiredDecimalString authorization "value" authorizationPath
  let _ ← requiredDecimalString authorization "validAfter" authorizationPath
  let _ ← requiredDecimalString authorization "validBefore" authorizationPath
  let nonce ← requiredString authorization "nonce" authorizationPath
  let validNonce := match nonce.toList with
    | '0' :: 'x' :: hex => hex.length = 64 && hex.all fun c => (hexDigitValue? c).isSome
    | _ => false
  refuse (!validNonce) (.field authorizationPath)

/-- `parse_mechanism_payload`: the signed delegate action of a NEAR payload. -/
def parseMechanismPayload (mechanismPayload : Members) (network : String) :
    Except RequestError (Option String) :=
  if network.beginsWith "eip155:" then do
    ensureAllowedKeys mechanismPayload ["authorization", "signature"] "paymentPayload.payload"
    let authorization ← requiredObject mechanismPayload "authorization"
      "paymentPayload.payload.authorization"
    validateEip155Authorization authorization
    let _ ← requiredString mechanismPayload "signature" "paymentPayload.payload.signature"
    return none
  else do
    ensureAllowedKeys mechanismPayload ["signedDelegateAction"] "paymentPayload.payload"
    return some (← requiredString mechanismPayload "signedDelegateAction"
      "paymentPayload.payload.signedDelegateAction")

def parseNearAssetTransferMethod (requirements : Members) (path : String) :
    Except RequestError (Option String) :=
  match requirements.lookup "extra" with
  | none => .ok none
  | some extra => do
    let extra ← orField extra.asObject? path
    match extra.lookup "assetTransferMethod" with
    | none => .ok none
    | some (.string method) => .ok (some method)
    | some _ => .error (.field path)

def parseRoutedMechanismPayload (accepted requirements mechanismPayload : Members)
    (network : String) : Except RequestError (Option String × Option NearAssetTransferMethod) :=
  if ¬ network.beginsWith "near:" then do
    return (← parseMechanismPayload mechanismPayload network, none)
  else do
    let acceptedMethod ← parseNearAssetTransferMethod accepted
      "paymentPayload.accepted.extra.assetTransferMethod"
    let requirementsMethod ← parseNearAssetTransferMethod requirements
      "paymentRequirements.extra.assetTransferMethod"
    if acceptedMethod.isNone ∧ requirementsMethod.isNone then
      return (← parseMechanismPayload mechanismPayload network, some .delegate)
    else return (none, some .unsupported)

def validateIdentifier (identifier : String) (policy : PaymentIdentifierConfig) :
    Except RequestError Unit := do
  refuse (identifier.utf8ByteSize < policy.minLength || policy.maxLength < identifier.utf8ByteSize)
    (.paymentIdentifier ("id length must be " ++ toString policy.minLength ++ "..=" ++
      toString policy.maxLength))
  refuse (identifier.toList.any fun c => !(c.isAlphanum || c = '-' || c = '_'))
    (.paymentIdentifier "id contains characters outside [A-Za-z0-9_-]")

def identifierMissing (policy : PaymentIdentifierConfig) : Except RequestError (Option String) :=
  if policy.required then .error (.paymentIdentifier "an id is required by this facilitator")
  else .ok none

def extractPaymentIdentifier (payload : Members) (policy : PaymentIdentifierConfig) :
    Except RequestError (Option String) :=
  let malformed {α : Type} (value : Option α) (message : String) : Except RequestError α :=
    match value with
    | some a => .ok a
    | none => .error (.paymentIdentifier message)
  match ((payload.lookup "extensions").bind Json.asObject?).bind (·.lookup "payment-identifier") with
  | none => identifierMissing policy
  | some extension => do
    let extension ← malformed extension.asObject? "extension must be an object"
    ensureAllowedKeys extension ["info", "schema"] "paymentPayload.extensions.payment-identifier"
    let info ← malformed ((extension.lookup "info").bind Json.asObject?)
      "extension.info must be an object"
    ensureAllowedKeys info ["required", "id"] "paymentPayload.extensions.payment-identifier.info"
    let _ ← malformed ((info.lookup "required").bind Json.asBool?)
      "extension.info.required must be a boolean"
    let _ ← malformed ((extension.lookup "schema").bind Json.asObject?)
      "extension.schema must be an object"
    match info.lookup "id" with
    | some (.string identifier) =>
      validateIdentifier identifier policy
      return some identifier
    | some _ => .error (.paymentIdentifier "extension.info.id must be a string")
    | none => identifierMissing policy

/-- The part of `parse_request` after a v1 request is translated. -/
def parseMetadata (value : Json) (policy : PaymentIdentifierConfig) :
    Except RequestError RequestMeta := do
  let object ← match value.asObject? with
    | some object => Except.ok object
    | none => .error .notObject
  ensureAllowedKeys object ["x402Version", "paymentPayload", "paymentRequirements"] "request"
  let x402Version ← requiredU8 object "x402Version" "x402Version"
  let payload ← requiredObject object "paymentPayload" "paymentPayload"
  ensureAllowedKeys payload ["x402Version", "resource", "accepted", "payload", "extensions"]
    "paymentPayload"
  let _ ← requiredU8 payload "x402Version" "paymentPayload.x402Version"
  validateResource (payload.lookup "resource")
  let requirements ← requiredObject object "paymentRequirements" "paymentRequirements"
  validateRequirementsShape requirements "paymentRequirements"
  let accepted ← requiredObject payload "accepted" "paymentPayload.accepted"
  validateRequirementsShape accepted "paymentPayload.accepted"
  let mechanismPayload ← requiredObject payload "payload" "paymentPayload.payload"
  refuse ((payload.lookup "extensions").any fun extensions => !extensions.isObject)
    (.field "paymentPayload.extensions")
  let scheme ← requiredString requirements "scheme" "paymentRequirements.scheme"
  let network ← requiredString requirements "network" "paymentRequirements.network"
  let asset ← requiredString requirements "asset" "paymentRequirements.asset"
  let amount ← requiredDecimalString requirements "amount" "paymentRequirements.amount"
  let payTo ← requiredString requirements "payTo" "paymentRequirements.payTo"
  let _ ← requiredString accepted "scheme" "paymentPayload.accepted.scheme"
  let _ ← requiredString accepted "network" "paymentPayload.accepted.network"
  let _ ← requiredString accepted "asset" "paymentPayload.accepted.asset"
  let _ ← requiredDecimalString accepted "amount" "paymentPayload.accepted.amount"
  let _ ← requiredString accepted "payTo" "paymentPayload.accepted.payTo"
  let (signedDelegateAction, nearAssetTransferMethod) ←
    parseRoutedMechanismPayload accepted requirements mechanismPayload network
  let paymentIdentifier ← extractPaymentIdentifier payload policy
  return ⟨x402Version, scheme, network, asset, amount, payTo, signedDelegateAction,
    nearAssetTransferMethod, paymentIdentifier⟩

/-! ## The legacy dialect -/

/-- The legacy network names, with their CAIP-2 identifiers. -/
def v1Networks : List (String × String) :=
  [("base", "eip155:8453"), ("base-sepolia", "eip155:84532")]

def caip2ForV1Network (name : String) : Option String :=
  (v1Networks.find? (·.1 = name)).map (·.2)

def v1NetworkName (network : String) : Option String :=
  (v1Networks.find? (·.2 = network)).map (·.1)

/-- A request is v1 wire when its top-level version is exactly 1. -/
def isV1Request (object : Members) : Bool :=
  (object.lookup "x402Version").bind Json.asU64? = some 1

/-- The v2 requirements of a v1 request; the resource metadata is dropped. -/
def v2Requirements (scheme network asset amount payTo : String) (maxTimeout : Json)
    (extra : Option Json) : Members :=
  let common : Members := Members.insert "maxTimeoutSeconds" maxTimeout <|
    Members.insert "payTo" (.string payTo) <| Members.insert "amount" (.string amount) <|
    Members.insert "asset" (.string asset) <| Members.insert "network" (.string network) <|
    Members.insert "scheme" (.string scheme) []
  match extra with
  | none => common
  | some extra => common.insert "extra" extra

def translateRequirements (requirements : Members) : Except RequestError Json := do
  ensureAllowedKeys requirements ["scheme", "network", "maxAmountRequired", "resource",
    "description", "mimeType", "outputSchema", "payTo", "maxTimeoutSeconds", "asset", "extra"]
    "paymentRequirements"
  let network ← requiredString requirements "network" "paymentRequirements.network"
  let caip2 ← orField (caip2ForV1Network network) "paymentRequirements.network"
  let scheme ← requiredString requirements "scheme" "paymentRequirements.scheme"
  let asset ← requiredString requirements "asset" "paymentRequirements.asset"
  let amount ← requiredString requirements "maxAmountRequired"
    "paymentRequirements.maxAmountRequired"
  let payTo ← requiredString requirements "payTo" "paymentRequirements.payTo"
  let maxTimeout ← orField (requirements.lookup "maxTimeoutSeconds")
    "paymentRequirements.maxTimeoutSeconds"
  return .object (v2Requirements scheme caip2 asset amount payTo maxTimeout
    (requirements.lookup "extra"))

/-- The v2 request with these requirements and this mechanism payload. -/
def v2Request (requirements : Json) (mechanism : Members) : Json :=
  let two : Json := .number (.posInt 2)
  let payload : Members := Members.insert "payload" (.object mechanism) <|
    Members.insert "accepted" requirements <| Members.insert "x402Version" two []
  .object (Members.insert "paymentRequirements" requirements <|
    Members.insert "paymentPayload" (.object payload) <| Members.insert "x402Version" two [])

def translateV1ToV2 (object : Members) : Except RequestError Json := do
  ensureAllowedKeys object ["x402Version", "paymentPayload", "paymentRequirements"] "request"
  let requirements ← requiredObject object "paymentRequirements" "paymentRequirements"
  let requirementsScheme ← requiredString requirements "scheme" "paymentRequirements.scheme"
  let requirementsNetwork ← requiredString requirements "network" "paymentRequirements.network"
  let translatedRequirements ← translateRequirements requirements
  let payload ← requiredObject object "paymentPayload" "paymentPayload"
  ensureAllowedKeys payload ["x402Version", "scheme", "network", "payload"] "paymentPayload"
  refuse ((payload.lookup "x402Version").bind Json.asU64? ≠ some 1)
    (.field "paymentPayload.x402Version")
  let scheme ← requiredString payload "scheme" "paymentPayload.scheme"
  refuse (scheme ≠ requirementsScheme) (.field "paymentPayload.scheme")
  let network ← requiredString payload "network" "paymentPayload.network"
  refuse (network ≠ requirementsNetwork) (.field "paymentPayload.network")
  let mechanism ← requiredObject payload "payload" "paymentPayload.payload"
  return v2Request translatedRequirements mechanism

/-- The network of a response by its legacy name, where it has one. -/
def translateResponseValueToV1 (value : Json) : Json :=
  match value with
  | .object members =>
    match ((members.lookup "network").bind Json.asStr?).bind v1NetworkName with
    | some name => .object (Members.insert "network" (.string name) members)
    | none => value
  | _ => value

/-! ## The parser -/

/-- The canonical value of a body, and the dialect it came in. -/
def canonicalValue (value : Json) (acceptV1 : Bool) : Except RequestError (Json × WireVersion) :=
  match value.asObject? with
  | some object =>
    if acceptV1 && isV1Request object then do return (← translateV1ToV2 object, .v1)
    else .ok (value, .v2)
  | none => .ok (value, .v2)

def parseRequest (body : Option Json) (identifierPolicy : PaymentIdentifierConfig)
    (acceptV1 : Bool) : Except RequestError ParsedRequest :=
  match body with
  | none => .error .json
  | some value => do
    let (value, wire) ← canonicalValue value acceptV1
    let metadata ← parseMetadata value identifierPolicy
    return ⟨value, value, wire, metadata⟩

/-! ## What an accepted request says -/

theorem orField_ok {α : Type} {value : Option α} {path : String} {a : α}
    (h : orField value path = .ok a) : value = some a := by
  unfold orField at h
  split at h
  · rw [Except.ok.inj h]
  · cases h

theorem Json.eq_string {json : Json} {s : String} (h : json.asStr? = some s) : json = .string s := by
  cases json <;> simp_all [Json.asStr?]

theorem Json.eq_object {json : Json} {members : Members} (h : json.asObject? = some members) :
    json = .object members := by
  cases json <;> simp_all [Json.asObject?]

theorem requiredString_ok {object : Members} {key path s : String}
    (h : requiredString object key path = .ok s) : object.lookup key = some (.string s) := by
  obtain ⟨h, -⟩ := Option.filter_eq_some_iff.mp (orField_ok h)
  obtain ⟨json, hjson, hs⟩ := Option.bind_eq_some_iff.mp h
  rw [hjson, Json.eq_string hs]

theorem requiredObject_ok {object members : Members} {key path : String}
    (h : requiredObject object key path = .ok members) :
    object.lookup key = some (.object members) := by
  obtain ⟨json, hjson, hs⟩ := Option.bind_eq_some_iff.mp (orField_ok h)
  rw [hjson, Json.eq_object hs]

theorem parseRequest_ok {body : Option Json} {policy : PaymentIdentifierConfig} {acceptV1 : Bool}
    {request : ParsedRequest} (h : parseRequest body policy acceptV1 = .ok request) :
    ∃ value, body = some value ∧
      canonicalValue value acceptV1 = .ok (request.value, request.wire) ∧
      parseMetadata request.value policy = .ok request.metadata ∧ request.raw = request.value := by
  cases body with
  | none => cases h
  | some value =>
    obtain ⟨⟨canonical, wire⟩, hcanonical, h⟩ := Except.exists_of_bind h
    obtain ⟨metadata, hmetadata, h⟩ := Except.exists_of_bind h
    obtain rfl := Except.ok.inj h
    exact ⟨value, rfl, hcanonical, hmetadata, rfl⟩

/-- The objects that the walk goes through. -/
structure RequestObjects where
  request : Members
  payload : Members
  requirements : Members
  accepted : Members
  mechanism : Members

/-- The requirements have the members that the walk asks for. -/
structure RequirementsRead (object : Members) : Prop where
  maxTimeoutSeconds : ∃ n, object.lookup "maxTimeoutSeconds" = some (.number (.posInt n))
  scheme : ∃ text, object.lookup "scheme" = some (.string text)
  network : ∃ text, object.lookup "network" = some (.string text)
  asset : ∃ text, object.lookup "asset" = some (.string text)
  amount : ∃ text, object.lookup "amount" = some (.string text)
  payTo : ∃ text, object.lookup "payTo" = some (.string text)

/-- The walk over these objects ends with the metadata. -/
structure RequestObjects.Walk (objects : RequestObjects) (value : Json) (metadata : RequestMeta) :
    Prop where
  value_eq : value = .object objects.request
  x402Version : ∃ n, objects.request.lookup "x402Version" = some (.number (.posInt n))
  payload : objects.request.lookup "paymentPayload" = some (.object objects.payload)
  payloadVersion : ∃ n, objects.payload.lookup "x402Version" = some (.number (.posInt n))
  requirements : objects.request.lookup "paymentRequirements" = some (.object objects.requirements)
  requirements_read : RequirementsRead objects.requirements
  accepted : objects.payload.lookup "accepted" = some (.object objects.accepted)
  accepted_read : RequirementsRead objects.accepted
  mechanism : objects.payload.lookup "payload" = some (.object objects.mechanism)
  scheme : objects.requirements.lookup "scheme" = some (.string metadata.scheme)
  network : objects.requirements.lookup "network" = some (.string metadata.network)
  asset : objects.requirements.lookup "asset" = some (.string metadata.asset)
  amount : ∃ text, objects.requirements.lookup "amount" = some (.string text) ∧
    decimalValue? text.toList = some metadata.amount
  payTo : objects.requirements.lookup "payTo" = some (.string metadata.payTo)
  routed : parseRoutedMechanismPayload objects.accepted objects.requirements objects.mechanism
    metadata.network = .ok (metadata.signedDelegateAction, metadata.nearAssetTransferMethod)

theorem Json.eq_posInt {json : Json} {n : Nat} (h : json.asU64? = some n) :
    json = .number (.posInt n) := by
  unfold Json.asU64? at h
  split at h
  · rw [Option.some.inj (Option.ite_none_right_eq_some.mp h).2]
  · cases h

theorem posInt_of_orField {object : Members} {key path : String} {p : Nat → Bool} {n : Nat}
    (h : orField (((object.lookup key).bind Json.asU64?).filter p) path = .ok n) :
    ∃ n, object.lookup key = some (.number (.posInt n)) := by
  obtain ⟨h, -⟩ := Option.filter_eq_some_iff.mp (orField_ok h)
  obtain ⟨json, hjson, hn⟩ := Option.bind_eq_some_iff.mp h
  exact ⟨n, hjson.trans (congrArg some (Json.eq_posInt hn))⟩

theorem requiredDecimalString_ok {object : Members} {key path : String} {n : Nat}
    (h : requiredDecimalString object key path = .ok n) :
    ∃ text, object.lookup key = some (.string text) ∧ decimalValue? text.toList = some n := by
  obtain ⟨text, htext, hdecimal⟩ := Except.exists_of_bind h
  exact ⟨text, requiredString_ok htext, orField_ok hdecimal⟩

theorem validateRequirementsShape_ok {object : Members} {path : String}
    (h : validateRequirementsShape object path = .ok ()) :
    ∃ n, object.lookup "maxTimeoutSeconds" = some (.number (.posInt n)) := by
  obtain ⟨_, -, h⟩ := Except.exists_of_bind h
  obtain ⟨_, hseconds, -⟩ := Except.exists_of_bind h
  exact posInt_of_orField hseconds

theorem parseMetadata_walk {value : Json} {policy : PaymentIdentifierConfig}
    {metadata : RequestMeta} (h : parseMetadata value policy = .ok metadata) :
    ∃ objects : RequestObjects, objects.Walk value metadata := by
  unfold parseMetadata at h
  cases value with
  | object object =>
    obtain ⟨_, hobject, h⟩ := Except.exists_of_bind h
    obtain rfl := Except.ok.inj hobject
    obtain ⟨_, -, h⟩ := Except.exists_of_bind h
    obtain ⟨x402Version, hversion, h⟩ := Except.exists_of_bind h
    obtain ⟨payload, hpayload, h⟩ := Except.exists_of_bind h
    obtain ⟨_, -, h⟩ := Except.exists_of_bind h
    obtain ⟨_, hpayloadVersion, h⟩ := Except.exists_of_bind h
    obtain ⟨_, -, h⟩ := Except.exists_of_bind h
    obtain ⟨requirements, hrequirements, h⟩ := Except.exists_of_bind h
    obtain ⟨_, hshape, h⟩ := Except.exists_of_bind h
    obtain ⟨accepted, haccepted, h⟩ := Except.exists_of_bind h
    obtain ⟨_, hshape', h⟩ := Except.exists_of_bind h
    obtain ⟨mechanism, hmechanism, h⟩ := Except.exists_of_bind h
    obtain ⟨_, -, h⟩ := Except.exists_of_bind h
    obtain ⟨scheme, hscheme, h⟩ := Except.exists_of_bind h
    obtain ⟨network, hnetwork, h⟩ := Except.exists_of_bind h
    obtain ⟨asset, hasset, h⟩ := Except.exists_of_bind h
    obtain ⟨amount, hamount, h⟩ := Except.exists_of_bind h
    obtain ⟨payTo, hpayTo, h⟩ := Except.exists_of_bind h
    obtain ⟨scheme', hscheme', h⟩ := Except.exists_of_bind h
    obtain ⟨network', hnetwork', h⟩ := Except.exists_of_bind h
    obtain ⟨asset', hasset', h⟩ := Except.exists_of_bind h
    obtain ⟨amount', hamount', h⟩ := Except.exists_of_bind h
    obtain ⟨payTo', hpayTo', h⟩ := Except.exists_of_bind h
    obtain ⟨⟨delegate, method⟩, hrouted, h⟩ := Except.exists_of_bind h
    obtain ⟨_, -, h⟩ := Except.exists_of_bind h
    obtain rfl := Except.ok.inj h
    obtain ⟨text, htext, hdecimal⟩ := requiredDecimalString_ok hamount
    obtain ⟨text', htext', -⟩ := requiredDecimalString_ok hamount'
    exact ⟨⟨object, payload, requirements, accepted, mechanism⟩, {
      value_eq := rfl
      x402Version := posInt_of_orField hversion
      payload := requiredObject_ok hpayload
      payloadVersion := posInt_of_orField hpayloadVersion
      requirements := requiredObject_ok hrequirements
      requirements_read := ⟨validateRequirementsShape_ok hshape, ⟨_, requiredString_ok hscheme⟩,
        ⟨_, requiredString_ok hnetwork⟩, ⟨_, requiredString_ok hasset⟩, ⟨_, htext⟩,
        ⟨_, requiredString_ok hpayTo⟩⟩
      accepted := requiredObject_ok haccepted
      accepted_read := ⟨validateRequirementsShape_ok hshape', ⟨_, requiredString_ok hscheme'⟩,
        ⟨_, requiredString_ok hnetwork'⟩, ⟨_, requiredString_ok hasset'⟩, ⟨_, htext'⟩,
        ⟨_, requiredString_ok hpayTo'⟩⟩
      mechanism := requiredObject_ok hmechanism
      scheme := requiredString_ok hscheme
      network := requiredString_ok hnetwork
      asset := requiredString_ok hasset
      amount := ⟨text, htext, hdecimal⟩
      payTo := requiredString_ok hpayTo
      routed := hrouted }⟩
  | _ => cases h

/-- The metadata says what the `paymentRequirements` of the request say. -/
structure RequestMeta.Reads (metadata : RequestMeta) (request : Json) : Prop where
  network : (request.get? "paymentRequirements").bind (·.get? "network") =
    some (.string metadata.network)
  asset : (request.get? "paymentRequirements").bind (·.get? "asset") = some (.string metadata.asset)
  amount : ∃ text, (request.get? "paymentRequirements").bind (·.get? "amount") =
    some (.string text) ∧ decimalValue? text.toList = some metadata.amount
  payTo : (request.get? "paymentRequirements").bind (·.get? "payTo") = some (.string metadata.payTo)

theorem parseMetadata_reads {value : Json} {policy : PaymentIdentifierConfig}
    {metadata : RequestMeta} (h : parseMetadata value policy = .ok metadata) :
    metadata.Reads value := by
  obtain ⟨objects, hwalk⟩ := parseMetadata_walk h
  have hmember (key : String) : (value.get? "paymentRequirements").bind (·.get? key) =
      objects.requirements.lookup key := by
    rw [hwalk.value_eq, Json.get?, hwalk.requirements]
    rfl
  exact ⟨(hmember _).trans hwalk.network, (hmember _).trans hwalk.asset,
    hwalk.amount.imp fun _ htext => ⟨(hmember _).trans htext.1, htext.2⟩,
    (hmember _).trans hwalk.payTo⟩

/-! ## The fingerprint -/

def requestFingerprintDomain : Bytes := "x402-near/request/v1\x00".toUTF8.toList

/-- The 32 bytes of a hash, most significant first. -/
def Hash32.bytes (hash : Hash32) : Bytes :=
  (List.range 32).map fun i => UInt8.ofNat (hash.toNat / 256 ^ (31 - i))

def requestFingerprint [NearPrimitives] (request : Json) (paymentHash : Hash32) : Hash32 :=
  NearPrimitives.sha256 (requestFingerprintDomain ++
    (String.ofList request.canonicalText).toUTF8.toList ++ Hash32.bytes paymentHash)

/-- The bytes that the fingerprint is the hash of. -/
def fingerprintPreimage (request : Json) (paymentHash : Hash32) : Bytes :=
  requestFingerprintDomain ++ (String.ofList request.canonicalText).toUTF8.toList ++
    Hash32.bytes paymentHash

theorem Hash32.length_bytes (hash : Hash32) : (Hash32.bytes hash).length = 32 := by
  simp [Hash32.bytes]

theorem Hash32.bytes_injective {hash hash' : Hash32} (h : Hash32.bytes hash = Hash32.bytes hash') :
    hash = hash' := by
  apply BitVec.eq_of_getLsbD_eq
  intro i hi
  have hbyte : UInt8.ofNat (hash.toNat / 256 ^ (i / 8)) = UInt8.ofNat (hash'.toNat / 256 ^ (i / 8)) := by
    have := List.map_inj_left.mp h (31 - i / 8) (List.mem_range.mpr (by omega))
    rwa [show 31 - (31 - i / 8) = i / 8 by omega] at this
  have hmod : hash.toNat / 256 ^ (i / 8) % 2 ^ 8 = hash'.toNat / 256 ^ (i / 8) % 2 ^ 8 := by
    simpa using congrArg UInt8.toNat hbyte
  -- Bit `i` of the hash is bit `i % 8` of its byte.
  have hbit (n : Nat) : n.testBit i = (n / 256 ^ (i / 8) % 2 ^ 8).testBit (i % 8) := by
    rw [Nat.testBit_mod_two_pow, show 256 = 2 ^ 8 from rfl, ← pow_mul, Nat.testBit_div_two_pow,
      show i % 8 + 8 * (i / 8) = i by omega, decide_eq_true (by omega : i % 8 < 8), Bool.true_and]
  rw [BitVec.getLsbD, BitVec.getLsbD, hbit hash.toNat, hbit hash'.toNat, hmod]

/-- The fingerprint is the hash of bytes that determine the payment hash and, up to the order of
object members, the request. -/
theorem requestFingerprint_preimage_canonical [NearPrimitives] :
    (∀ request paymentHash,
      requestFingerprint request paymentHash =
        NearPrimitives.sha256 (fingerprintPreimage request paymentHash)) ∧
    ∀ a b : Json, a.Valid → b.Valid → ∀ paymentHash paymentHash' : Hash32,
      fingerprintPreimage a paymentHash = fingerprintPreimage b paymentHash' ↔
        paymentHash = paymentHash' ∧ Json.Same a b := by
  refine ⟨fun _ _ => rfl, fun a b ha hb paymentHash paymentHash' => ⟨fun h => ?_, ?_⟩⟩
  · obtain ⟨htext, hhash⟩ := List.append_inj' h (by rw [Hash32.length_bytes, Hash32.length_bytes])
    have htext := Json.utf8_inj (List.append_cancel_left htext)
    exact ⟨Hash32.bytes_injective hhash, (Json.canonicalText_eq_iff ha hb).mp htext⟩
  · rintro ⟨rfl, hsame⟩
    rw [fingerprintPreimage, (Json.canonicalText_eq_iff ha hb).mpr hsame, fingerprintPreimage]

end X402Facilitator
