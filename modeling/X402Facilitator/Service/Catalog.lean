import X402Facilitator.Service.Config

/-!
# The discovery catalog

The catalog is built from a manifest of independently operated resources. Every entry is validated,
whichever network it is for; the catalog keeps the entries of one network and asset, newest first.

The checks on hosts work on the text that the URL parser returns for a host. An IPv6 host is returned
in brackets, which no address parser accepts, and a DNS name keeps its trailing root dot, so that
such hosts pass the checks that are meant to keep addresses, localhost and the operator's own hosts
out.
-/

namespace X402Facilitator

/-! ## The manifest -/

structure Eip712DomainNames where
  name : String
  version : String

inductive PaymentExtra where
  | evm (domain : Eip712DomainNames)
  | near

structure DiscoveryPaymentRequirements where
  scheme : String
  network : String
  asset : String
  amount : String
  payTo : String
  maxTimeoutSeconds : Nat
  extra : Option PaymentExtra

structure Admission where
  reviewedAt : String
  optInEvidenceUrl : String
  payToControlEvidenceUrl : String

structure CatalogEntry where
  resource : String
  resourceType : String
  x402Version : Nat
  accepts : List DiscoveryPaymentRequirements
  lastUpdated : String
  description : Option String
  mimeType : Option String
  serviceName : Option String
  tags : Option (List String)
  iconUrl : Option String
  extensions : Option Members
  admission : Admission

structure CatalogManifest where
  schemaVersion : Nat
  resources : List CatalogEntry

/-- What the catalog publishes of an entry. -/
structure DiscoveryResource where
  resource : String
  resourceType : String
  x402Version : Nat
  accepts : List DiscoveryPaymentRequirements
  lastUpdated : String
  description : Option String
  mimeType : Option String
  serviceName : Option String
  tags : Option (List String)
  iconUrl : Option String
  extensions : Option Members
  updatedAt : Int

structure Catalog where
  resources : List DiscoveryResource

inductive CatalogError where
  | json (message : String)
  | invalid (message : String)

/-! ## URLs -/

/-- `url::Host`. -/
inductive Host where
  | domain (name : String)
  | ipv4 (address : BitVec 32)
  | ipv6 (address : BitVec 128)

structure Url where
  scheme : String
  username : String
  password : Option String
  host : Option Host
  fragment : Option String
  /-- The normalised text of the whole URL. -/
  text : String

/-- The third-party code that the catalog is read with. -/
class CatalogPrimitives where
  /-- `serde_json::from_str`. -/
  manifestFromStr : String → Except String CatalogManifest
  /-- `Url::parse`. -/
  urlParse : String → Except String Url
  ipv4Text : BitVec 32 → String
  ipv6Text : BitVec 128 → String
  /-- `str::parse::<IpAddr>` succeeds. -/
  isIpAddr : String → Bool
  isIpAddr_ipv4Text : ∀ address, isIpAddr (ipv4Text address) = true
  /-- Brackets belong to the host of a URL and not to the address. -/
  isIpAddr_bracketed : ∀ address, isIpAddr ("[" ++ ipv6Text address ++ "]") = false
  /-- `DateTime::parse_from_rfc3339`, as an instant. -/
  parseRfc3339 : String → Except String Int
  /-- What the account id parser says of a text that it refuses. -/
  accountIdError : String → String

export CatalogPrimitives (manifestFromStr urlParse ipv4Text ipv6Text isIpAddr isIpAddr_ipv4Text
  isIpAddr_bracketed parseRfc3339 accountIdError)

def maxManifestBytes : Nat := 262144
def maxResources : Nat := 1000
def maxAccepts : Nat := 4
def maxUrlBytes : Nat := 2048
def maxDescriptionBytes : Nat := 512
def maxMimeTypeBytes : Nat := 128
def maxServiceNameBytes : Nat := 32
def maxTags : Nat := 5
def maxTagBytes : Nat := 32
def maxExtensionNameBytes : Nat := 64
def maxExtensionsBytes : Nat := 65536
def maxJsonDepth : Nat := 16

def operatorOwnedResourceHosts : List String :=
  ["x402-demo.mikedotexe.com", "x402-demo-test.mikedotexe.com", "x402-demo-base.mikedotexe.com",
    "merchant-near.mikedotexe.com", "merchant-base.mikedotexe.com"]

/-! ## Validation -/

def canonicalUsdcAsset : String → Option String
  | "near:mainnet" => some nearMainnetUsdc
  | "near:testnet" => some nearTestnetUsdc
  | "eip155:8453" => some baseMainnetUsdc
  | "eip155:84532" => some baseSepoliaUsdc
  | _ => none

def canonicalEip712Domain : String → Option (String × String)
  | "eip155:8453" => some ("USD Coin", "2")
  | "eip155:84532" => some ("USDC", "2")
  | _ => none

def assetMatches (network left right : String) : Bool :=
  if network.beginsWith "eip155:" then eqIgnoreAsciiCase left right else left = right

/-- `char::is_control`. -/
def isControl (c : Char) : Bool := c.toNat < 32 || (127 ≤ c.toNat && c.toNat < 160)

def validateText (name value : String) (maximum : Nat) (asciiOnly : Bool) :
    Except CatalogError Unit :=
  if value = "" ∨ maximum < value.utf8ByteSize ∨ value.toList.any isControl ∨
      (asciiOnly ∧ ¬ value.toList.all fun c => c.toNat < 128) then
    .error (.invalid (name ++ " must be non-empty, bounded, and free of control characters"))
  else .ok ()

def validateOptionalText (name : String) (value : Option String) (maximum : Nat)
    (asciiOnly : Bool) : Except CatalogError Unit :=
  match value with
  | none => .ok ()
  | some value => validateText name value maximum asciiOnly

mutual

def jsonDepth : Json → Nat
  | .array items => 1 + itemsDepth items
  | .object members => 1 + membersDepth members
  | _ => 1

def itemsDepth : List Json → Nat
  | [] => 0
  | item :: items => max (jsonDepth item) (itemsDepth items)

def membersDepth : List (String × Json) → Nat
  | [] => 0
  | (_, value) :: members => max (jsonDepth value) (membersDepth members)

end

/-- The tags of an entry, each checked against those before it. -/
def validateTags : List String → (seen : List String) → Except CatalogError Unit
  | [], _ => .ok ()
  | tag :: tags, seen => do
    validateText "tag" tag maxTagBytes true
    if asciiLower tag ∈ seen then .error (.invalid "tags must be unique ignoring ASCII case")
    else validateTags tags (asciiLower tag :: seen)

def validateOptionalTags (tags : Option (List String)) : Except CatalogError Unit :=
  match tags with
  | none => .ok ()
  | some tags =>
    if tags = [] ∨ maxTags < tags.length then
      .error (.invalid "tags must contain between one and five values")
    else validateTags tags []

def validateExtensions (extensions : Option Members) : Except CatalogError Unit :=
  match extensions with
  | none => .error (.invalid "extensions.bazaar is required")
  | some extensions => do
    if maxExtensionsBytes < (Json.object extensions).toBytes.length then
      .error (.invalid "extensions exceed the 64 KiB bound")
    else
      forM extensions fun (key, _) => validateText "extension name" key maxExtensionNameBytes true
      if extensions.any fun (_, value) => maxJsonDepth < jsonDepth value then
        .error (.invalid "extensions exceed the maximum JSON depth")
      else
        match extensions.lookup "bazaar" with
        | some (.object bazaar) =>
          if ((bazaar.lookup "info").any Json.isObject && (bazaar.lookup "schema").any Json.isObject)
          then .ok ()
          else .error (.invalid "extensions.bazaar must contain object info and schema fields")
        | _ => .error (.invalid "extensions.bazaar must be an object")

section
variable [CatalogPrimitives]

def Host.text : Host → String
  | domain name => name
  | ipv4 address => ipv4Text address
  | ipv6 address => "[" ++ ipv6Text address ++ "]"

/-- `Url::host_str`. -/
def Url.hostStr (url : Url) : Option String := url.host.map Host.text

def validatePublicHttpsUrl (name value : String) : Except CatalogError Url :=
  if value = "" ∨ maxUrlBytes < value.utf8ByteSize then
    .error (.invalid (name ++ " must contain at most 2048 bytes"))
  else
    match urlParse value with
    | .error error => .error (.invalid (name ++ " is not a valid URL: " ++ error))
    | .ok parsed =>
      if parsed.scheme ≠ "https" ∨ parsed.username ≠ "" ∨ parsed.password.isSome ∨
          parsed.fragment.isSome then
        .error (.invalid (name ++ " must be HTTPS without credentials or a fragment"))
      else
        match parsed.hostStr with
        | none => .error (.invalid (name ++ " must contain a host"))
        | some host =>
          if eqIgnoreAsciiCase host "localhost" ∨ isIpAddr host then
            .error (.invalid (name ++ " must use a public DNS hostname"))
          else .ok parsed

def validateIconUrl (iconUrl : Option String) : Except CatalogError Unit :=
  match iconUrl with
  | none => .ok ()
  | some iconUrl => do
    let _ ← validatePublicHttpsUrl "iconUrl" iconUrl
    .ok ()

def validateTimestamp (name value : String) : Except CatalogError Int :=
  match parseRfc3339 value with
  | .error error => .error (.invalid (name ++ " is not RFC 3339: " ++ error))
  | .ok instant => .ok instant

def validateRequirements (requirements : DiscoveryPaymentRequirements) :
    Except CatalogError Unit :=
  if requirements.scheme ≠ "exact" then .error (.invalid "accepts.scheme must be exact")
  else
    match canonicalUsdcAsset requirements.network with
    | none => .error (.invalid "accepts.network is not a supported repository profile")
    | some expectedAsset =>
      if ¬ assetMatches requirements.network requirements.asset expectedAsset then
        .error (.invalid "accepts.asset is not canonical Circle USDC for its network")
      else if requirements.amount = "" ∨ requirements.amount.beginsWith "0" ∨
          ¬ requirements.amount.toList.all Char.isDigit ∨
          (parseUnsigned? 128 requirements.amount).isNone then
        .error (.invalid "accepts.amount must be a canonical positive atomic integer")
      else if requirements.maxTimeoutSeconds = 0 then
        .error (.invalid "accepts.maxTimeoutSeconds must be positive")
      else if requirements.network.beginsWith "eip155:" then
        if ¬ isEvmAddress requirements.payTo then
          .error (.invalid "accepts.payTo must be a 20-byte EVM address")
        else
          match canonicalEip712Domain requirements.network, requirements.extra with
          | none, _ => .error (.invalid "Base requirements are missing a canonical EIP-712 domain")
          | some (name, version), some (.evm domain) =>
            if domain.name ≠ name ∨ domain.version ≠ version then
              .error (.invalid "Base requirements use the wrong EIP-712 domain")
            else .ok ()
          | some _, _ =>
            .error (.invalid "Base requirements must include the canonical EIP-712 domain")
      else if (AccountId.parse requirements.payTo).isNone then
        .error (.invalid ("accepts.payTo is not a NEAR account ID: " ++
          accountIdError requirements.payTo))
      else
        match requirements.extra with
        | none | some .near => .ok ()
        | some (.evm _) => .error (.invalid "NEAR requirements cannot carry an EIP-712 domain")

/-- The normalised URL of the resource and the time of the last update. -/
def validateEntry (entry : CatalogEntry) : Except CatalogError (String × Int) := do
  let resource ← validatePublicHttpsUrl "resource" entry.resource
  if resource.hostStr.any fun host =>
      operatorOwnedResourceHosts.any fun owned => decide (eqIgnoreAsciiCase host owned) then
    .error (.invalid "operator-owned reference resources cannot enter the public catalog")
  else if entry.resourceType ≠ "http" then .error (.invalid "type must be http")
  else if entry.x402Version ≠ 2 then .error (.invalid "x402Version must be 2")
  else
    match entry.accepts with
    | [] => .error (.invalid "accepts must contain between one and four requirements")
    | first :: _ =>
      if maxAccepts < entry.accepts.length then
        .error (.invalid "accepts must contain between one and four requirements")
      else
        forM entry.accepts fun requirements => do
          validateRequirements requirements
          if requirements.network ≠ first.network ∨
              ¬ assetMatches first.network requirements.asset first.asset then
            .error (.invalid "all accepts entries must use one network and canonical asset")
          else .ok ()
        let updatedAt ← validateTimestamp "lastUpdated" entry.lastUpdated
        let _ ← validateTimestamp "admission.reviewedAt" entry.admission.reviewedAt
        let _ ← validatePublicHttpsUrl "admission.optInEvidenceUrl" entry.admission.optInEvidenceUrl
        let _ ← validatePublicHttpsUrl "admission.payToControlEvidenceUrl"
          entry.admission.payToControlEvidenceUrl
        validateOptionalText "description" entry.description maxDescriptionBytes false
        validateOptionalText "mimeType" entry.mimeType maxMimeTypeBytes true
        validateOptionalText "serviceName" entry.serviceName maxServiceNameBytes true
        validateOptionalTags entry.tags
        validateIconUrl entry.iconUrl
        validateExtensions entry.extensions
        .ok (resource.text, updatedAt)

def CatalogEntry.intoResource (entry : CatalogEntry) (updatedAt : Int) : DiscoveryResource where
  resource := entry.resource
  resourceType := entry.resourceType
  x402Version := entry.x402Version
  accepts := entry.accepts
  lastUpdated := entry.lastUpdated
  description := entry.description
  mimeType := entry.mimeType
  serviceName := entry.serviceName
  tags := entry.tags
  iconUrl := entry.iconUrl
  extensions := entry.extensions
  updatedAt := updatedAt

/-- The loop over the entries, with the normalised URLs that it has seen. -/
def selectEntries (network asset : String) :
    List CatalogEntry → (seen : List String) → Except CatalogError (List DiscoveryResource)
  | [], _ => .ok []
  | entry :: entries, seen => do
    let (normalizedResource, updatedAt) ← validateEntry entry
    if normalizedResource ∈ seen then .error (.invalid "resource URLs must be unique")
    else
      let selected ← selectEntries network asset entries (normalizedResource :: seen)
      -- A validated entry accepts at least one requirement.
      if entry.accepts.head?.any fun first =>
          decide (first.network = network) && assetMatches network first.asset asset then
        .ok (entry.intoResource updatedAt :: selected)
      else .ok selected

def Catalog.fromJsonFor (source network asset : String) : Except CatalogError Catalog :=
  if maxManifestBytes < source.utf8ByteSize then
    .error (.invalid "manifest exceeds the 256 KiB bound")
  else
    match manifestFromStr source with
    | .error error => .error (.json error)
    | .ok manifest =>
      if manifest.schemaVersion ≠ 1 then .error (.invalid "schemaVersion must be 1")
      else if maxResources < manifest.resources.length then
        .error (.invalid "resources must contain at most 1000 entries")
      else do
        let selected ← selectEntries network asset manifest.resources []
        .ok ⟨selected.insertionSort fun left right => right.updatedAt < left.updatedAt ∨
          (left.updatedAt = right.updatedAt ∧ left.resource ≤ right.resource)⟩

/-! ## What an accepted manifest has been checked for -/

theorem validatePublicHttpsUrl_ok {name value : String} {url : Url}
    (h : validatePublicHttpsUrl name value = .ok url) :
    urlParse value = .ok url ∧ url.scheme = "https" ∧ ∃ host, url.host = some host ∧
      ¬ eqIgnoreAsciiCase host.text "localhost" ∧ isIpAddr host.text = false := by
  unfold validatePublicHttpsUrl at h
  obtain ⟨-, h⟩ := Except.of_ite_error h
  split at h
  · cases h
  rename_i parsed hparsed
  obtain ⟨hscheme, h⟩ := Except.of_ite_error h
  split at h
  · cases h
  rename_i text htext
  obtain ⟨hhost, h⟩ := Except.of_ite_error h
  obtain rfl := Except.ok.inj h
  obtain ⟨host, hsome, rfl⟩ := Option.map_eq_some_iff.mp htext
  push Not at hscheme hhost
  exact ⟨hparsed, hscheme.1, host, hsome, hhost.1, Bool.eq_false_iff.mpr hhost.2⟩

/-- The URLs of an entry. -/
def CatalogEntry.urls (entry : CatalogEntry) : List String :=
  entry.resource :: entry.admission.optInEvidenceUrl :: entry.admission.payToControlEvidenceUrl ::
    entry.iconUrl.toList

/-- Every URL of a validated entry has passed the check of its host, and the resource the check
against the hosts of the operator. -/
theorem validateEntry_ok {entry : CatalogEntry} {validated : String × Int}
    (h : validateEntry entry = .ok validated) :
    (∀ text ∈ entry.urls, ∃ name url, validatePublicHttpsUrl name text = .ok url) ∧
      ∀ url, urlParse entry.resource = .ok url → ∀ host, url.host = some host →
        ∀ owned ∈ operatorOwnedResourceHosts, ¬ eqIgnoreAsciiCase host.text owned := by
  obtain ⟨resource, hresource, h⟩ := Except.exists_of_bind h
  obtain ⟨howned, h⟩ := Except.of_ite_error h
  obtain ⟨-, h⟩ := Except.of_ite_error h
  obtain ⟨-, h⟩ := Except.of_ite_error h
  split at h
  · cases h
  obtain ⟨-, h⟩ := Except.of_ite_error h
  -- The requirements and the two timestamps.
  iterate 3 obtain ⟨_, -, h⟩ := Except.exists_of_bind h
  obtain ⟨optIn, hoptIn, h⟩ := Except.exists_of_bind h
  obtain ⟨control, hcontrol, h⟩ := Except.exists_of_bind h
  -- The three optional texts and the tags.
  iterate 4 obtain ⟨_, -, h⟩ := Except.exists_of_bind h
  obtain ⟨_, hicon, h⟩ := Except.exists_of_bind h
  constructor
  · intro text htext
    simp only [CatalogEntry.urls, List.mem_cons, Option.mem_toList] at htext
    obtain rfl | rfl | rfl | htext := htext
    · exact ⟨_, _, hresource⟩
    · exact ⟨_, _, hoptIn⟩
    · exact ⟨_, _, hcontrol⟩
    · rw [htext] at hicon
      obtain ⟨url, hurl, -⟩ := Except.exists_of_bind hicon
      exact ⟨_, _, hurl⟩
  · intro url hurl host hhost owned hmem hsame
    obtain rfl := Except.ok.inj (hurl.symm.trans (validatePublicHttpsUrl_ok hresource).1)
    refine howned ?_
    rw [Url.hostStr, hhost]
    exact List.any_eq_true.mpr ⟨owned, hmem, decide_eq_true hsame⟩

theorem selectEntries_ok {network asset : String} {entries : List CatalogEntry} {seen : List String}
    {selected : List DiscoveryResource} (h : selectEntries network asset entries seen = .ok selected) :
    (∀ entry ∈ entries, ∃ validated, validateEntry entry = .ok validated) ∧
      ∀ resource ∈ selected, ∃ entry ∈ entries, ∃ updatedAt,
        resource = entry.intoResource updatedAt := by
  induction entries generalizing seen selected with
  | nil =>
    obtain rfl := Except.ok.inj h
    exact ⟨nofun, nofun⟩
  | cons entry entries ih =>
    obtain ⟨⟨normalized, updatedAt⟩, hentry, h⟩ := Except.exists_of_bind h
    obtain ⟨-, h⟩ := Except.of_ite_error h
    obtain ⟨rest, hrest, h⟩ := Except.exists_of_bind h
    obtain ⟨hvalid, hfrom⟩ := ih hrest
    refine ⟨?_, ?_⟩
    · intro other hother
      obtain rfl | hother := List.mem_cons.mp hother
      · exact ⟨_, hentry⟩
      · exact hvalid other hother
    · have hlater : ∀ resource ∈ rest, ∃ other ∈ entry :: entries, ∃ at', resource =
          other.intoResource at' := fun resource hresource =>
        (hfrom resource hresource).imp fun other h => ⟨List.mem_cons_of_mem _ h.1, h.2⟩
      intro resource hresource
      split at h
      · obtain rfl := Except.ok.inj h
        obtain rfl | hresource := List.mem_cons.mp hresource
        · exact ⟨entry, List.mem_cons_self, updatedAt, rfl⟩
        · exact hlater resource hresource
      · obtain rfl := Except.ok.inj h
        exact hlater resource hresource

/-! ## Public hosts -/

/-- The labels of a DNS name, without the dot of the root. -/
def dropRootDot (name : String) : List Char :=
  if name.toList.getLast? = some '.' then name.toList.dropLast else name.toList

/-- DNS names are compared without regard to ASCII case and to a trailing root dot. -/
def SameDnsName (left right : String) : Prop :=
  (dropRootDot left).map Char.toLower = (dropRootDot right).map Char.toLower

instance (left right : String) : Decidable (SameDnsName left right) :=
  inferInstanceAs (Decidable (_ = _))

/-- The URL names a host by a DNS name other than localhost. -/
def PublicUrl (text : String) : Prop :=
  ∃ url name, urlParse text = .ok url ∧ url.host = some (.domain name) ∧
    ¬ SameDnsName name "localhost"

/-- The hosts of the entry are public, and that of the resource is not the operator's. -/
structure CatalogEntry.Public (entry : CatalogEntry) : Prop where
  urls : ∀ text ∈ entry.urls, PublicUrl text
  thirdParty : ∀ url, urlParse entry.resource = .ok url → ∀ name, url.host = some (.domain name) →
    ∀ owned ∈ operatorOwnedResourceHosts, ¬ SameDnsName name owned

/-- The host is not an IPv6 address, and a DNS name is written without the dot of the root. -/
def PlainHost (text : String) : Prop :=
  ∀ url, urlParse text = .ok url → ∀ host, url.host = some host →
    match host with
    | .domain name => name.toList.getLast? ≠ some '.'
    | .ipv4 _ => True
    | .ipv6 _ => False

omit [CatalogPrimitives] in
theorem eqIgnoreAsciiCase_of_sameDnsName {left right : String}
    (hl : left.toList.getLast? ≠ some '.') (hr : right.toList.getLast? ≠ some '.')
    (h : SameDnsName left right) : eqIgnoreAsciiCase left right := by
  rw [SameDnsName, dropRootDot, if_neg hl, dropRootDot, if_neg hr] at h
  exact congrArg String.ofList h

theorem publicUrl_of_validate {name text : String} {url : Url} (hplain : PlainHost text)
    (h : validatePublicHttpsUrl name text = .ok url) : PublicUrl text := by
  obtain ⟨hparse, -, host, hhost, hlocalhost, haddress⟩ := validatePublicHttpsUrl_ok h
  have hplain := hplain url hparse host hhost
  cases host with
  | domain domain =>
    refine ⟨url, domain, hparse, hhost, fun hsame => hlocalhost ?_⟩
    exact eqIgnoreAsciiCase_of_sameDnsName hplain (by decide) hsame
  | ipv4 address => exact absurd (haddress.symm.trans (isIpAddr_ipv4Text address)) (by decide)
  | ipv6 address => exact hplain.elim

theorem public_of_validateEntry {entry : CatalogEntry} {validated : String × Int}
    (h : validateEntry entry = .ok validated) (hplain : ∀ text ∈ entry.urls, PlainHost text) :
    entry.Public := by
  obtain ⟨hurls, howned⟩ := validateEntry_ok h
  constructor
  · intro text htext
    obtain ⟨name, url, hurl⟩ := hurls text htext
    exact publicUrl_of_validate (hplain text htext) hurl
  · intro url hurl name hname owned hmem hsame
    have hdot := hplain entry.resource List.mem_cons_self url hurl _ hname
    have hroot : ∀ owned ∈ operatorOwnedResourceHosts, owned.toList.getLast? ≠ some '.' := by decide
    exact howned url hurl _ hname owned hmem
      (eqIgnoreAsciiCase_of_sameDnsName hdot (hroot owned hmem) hsame)

theorem fromJsonFor_ok {source network asset : String} {catalog : Catalog}
    (h : Catalog.fromJsonFor source network asset = .ok catalog) :
    ∃ manifest selected, manifestFromStr source = .ok manifest ∧
      selectEntries network asset manifest.resources [] = .ok selected ∧
      ∀ resource ∈ catalog.resources, resource ∈ selected := by
  unfold Catalog.fromJsonFor at h
  obtain ⟨-, h⟩ := Except.of_ite_error h
  split at h
  · cases h
  rename_i manifest hmanifest
  obtain ⟨-, h⟩ := Except.of_ite_error h
  obtain ⟨-, h⟩ := Except.of_ite_error h
  obtain ⟨selected, hselected, h⟩ := Except.exists_of_bind h
  obtain rfl := Except.ok.inj h
  exact ⟨manifest, selected, hmanifest, hselected, fun resource hmem =>
    (List.mem_insertionSort _).mp hmem⟩

end

/-! ## Manifests -/

namespace Sample

/-- The hosts of the sample URLs. -/
def hostFrom (text : List Char) : Host :=
  if text = "[::1]".toList then .ipv6 1
  else if text.all fun c => c.isDigit || c = '.' then .ipv4 0
  else .domain (asciiLower (String.ofList text))

/-- A parser of `https` URLs that reads the host up to the path. -/
def parseHttps (text : String) : Except String Url :=
  match text.toList with
  | 'h' :: 't' :: 't' :: 'p' :: 's' :: ':' :: '/' :: '/' :: rest =>
    .ok ⟨"https", "", none, some (hostFrom (rest.takeWhile (· ≠ '/'))), none, text⟩
  | _ => .error "relative URL without a base"

/-- A NEAR resource with an icon, reviewed and opted in elsewhere. -/
def catalogEntry (resource icon : String) : CatalogEntry where
  resource := resource
  resourceType := "http"
  x402Version := 2
  accepts := [⟨"exact", "near:testnet", nearTestnetUsdc, "1000", "merchant.testnet", 60, none⟩]
  lastUpdated := "2026-07-01T00:00:00Z"
  description := none
  mimeType := none
  serviceName := none
  tags := none
  iconUrl := some icon
  extensions := some [("bazaar", .object [("info", .object []), ("schema", .object [])])]
  admission := ⟨"2026-07-01T00:00:00Z", "https://forum.example/issues/1",
    "https://merchant.example/payments"⟩

def publicManifest : CatalogManifest :=
  ⟨1, [catalogEntry "https://merchant.example/work" "https://merchant.example/icon.png"]⟩

/-- An address, localhost and a host of the operator, in spellings that are not recognised. -/
def literalManifest : CatalogManifest :=
  ⟨1, [catalogEntry "https://[::1]/work" "https://localhost./icon.png",
    catalogEntry "https://merchant-near.mikedotexe.com./work" "https://merchant.example/icon.png"]⟩

def ipv4Octets (address : BitVec 32) : String :=
  toString (address.toNat / 2 ^ 24) ++ "." ++ toString (address.toNat / 2 ^ 16 % 256) ++ "." ++
    toString (address.toNat / 2 ^ 8 % 256) ++ "." ++ toString (address.toNat % 256)

def looksLikeAddress (text : String) : Bool :=
  text.toList.all (fun c => c.isDigit || c = '.') ||
    text.toList.all fun c => (hexDigitValue? c).isSome || c = ':'

@[reducible]
def catalogPrimitives : CatalogPrimitives where
  manifestFromStr source :=
    if source = "public" then .ok publicManifest
    else if source = "literal" then .ok literalManifest
    else .error "expected value"
  urlParse := parseHttps
  ipv4Text := ipv4Octets
  ipv6Text address :=
    if address = 1 then "::1" else String.ofList (hexDigits 32 address.toNat)
  isIpAddr := looksLikeAddress
  isIpAddr_ipv4Text address := by
    have hdigits (n : Nat) : ∀ c ∈ (toString n).toList, c.isDigit = true := (isNumeral_toString n).1.2
    refine Bool.or_eq_true_iff.mpr (.inl (List.all_eq_true.mpr fun c hc => ?_))
    rw [Bool.or_eq_true]
    simp only [ipv4Octets, String.toList_append, List.mem_append] at hc
    obtain (((((hc | hc) | hc) | hc) | hc) | hc) | hc := hc
    · exact .inl (hdigits _ c hc)
    · exact .inr (by simpa using hc)
    · exact .inl (hdigits _ c hc)
    · exact .inr (by simpa using hc)
    · exact .inl (hdigits _ c hc)
    · exact .inr (by simpa using hc)
    · exact .inl (hdigits _ c hc)
  isIpAddr_bracketed address := by
    have htext (text : String) : ("[" ++ text ++ "]").toList = '[' :: (text.toList ++ [']']) := by
      simp
    simp only [looksLikeAddress, htext, List.all_cons]
    rfl
  parseRfc3339 text :=
    if text.utf8ByteSize = 20 then .ok (numeralValue (String.ofList (text.toList.filter Char.isDigit)))
    else .error "premature end of input"
  accountIdError _ := "the Account ID contains an invalid character"

end Sample

section
local instance catalogSample : CatalogPrimitives := Sample.catalogPrimitives

theorem Sample.plainHost {text : String} (name : String)
    (hurl : urlParse text = .ok ⟨"https", "", none, some (.domain name), none, text⟩)
    (hdot : name.toList.getLast? ≠ some '.') : PlainHost text := by
  intro url hparse host hhost
  obtain rfl := Except.ok.inj (hurl.symm.trans hparse)
  obtain rfl := Option.some.inj hhost
  exact hdot

end

end X402Facilitator
