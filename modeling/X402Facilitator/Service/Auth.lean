import X402Facilitator.Service.Config
import X402Facilitator.Store.ApiKeys

/-!
# API keys

A key is the text `x402_<label>_<24 hex digits>.<64 hex digits>`; what stands before the dot is its
prefix, under which the database keeps an HMAC of the whole text. A request presents a key in a header
of its own or as a bearer token, or the same key in both.
-/

namespace X402Facilitator

def Environment.apiKeyLabel : Environment → String
  | mainnet => "live"
  | testnet => "test"

def environmentName : Environment → String
  | .mainnet => "mainnet"
  | .testnet => "testnet"

inductive AuthError where
  | invalid
  | configuration
deriving DecidableEq, Repr

/-- The message authentication code of the keys. -/
class MacPrimitives where
  hmacSha256 : (pepper message : Bytes) → Hash32

export MacPrimitives (hmacSha256)

/-! ## Headers -/

/-- The values of each header, under lower-case names. -/
abbrev HeaderMap := List (String × Bytes)

/-- `HeaderValue::to_str`: visible ASCII characters and tabs. -/
def headerText (value : Bytes) : Option String :=
  if value.all fun byte => (32 ≤ byte && byte < 127) || byte = 9 then
    some (String.ofList (value.map fun byte => Char.ofNat byte.toNat))
  else none

def headerValues (headers : HeaderMap) (name : String) : List Bytes :=
  (headers.filter (·.1 = name)).map Prod.snd

def singleHeader (headers : HeaderMap) (name : String) : Except AuthError (Option String) :=
  match headerValues headers name with
  | [] => .ok none
  | [value] =>
    match headerText value with
    | none => .error .invalid
    | some text => .ok (some text)
  | _ => .error .invalid

def isAsciiWhitespace (c : Char) : Bool :=
  c = ' ' || c = '\t' || c = '\n' || c = '\x0c' || c = '\r'

/-- `str::split_ascii_whitespace`. -/
def splitAsciiWhitespace (text : String) : List String :=
  ((text.toList.splitOnP isAsciiWhitespace).filter (· ≠ [])).map String.ofList

def parseBearer (value : String) : Except AuthError String :=
  match splitAsciiWhitespace value with
  | [scheme, key] => if eqIgnoreAsciiCase scheme "bearer" then .ok key else .error .invalid
  | _ => .error .invalid

/-- `single_header(headers, "authorization")?.map(parse_bearer).transpose()?`. -/
def bearerHeader (headers : HeaderMap) : Except AuthError (Option String) := do
  match ← singleHeader headers "authorization" with
  | none => .ok none
  | some value => (parseBearer value).map some

def extractPresentedKey (headers : HeaderMap) : Except AuthError String := do
  let xApiKey ← singleHeader headers "x-api-key"
  let bearer ← bearerHeader headers
  match xApiKey, bearer with
  | some left, some right => if left = right then .ok left else .error .invalid
  | none, none => .error .invalid
  | some key, none => .ok key
  | none, some key => .ok key

/-! ## Keys -/

def isLowerHex (c : Char) : Bool := c.isDigit || ('a' ≤ c && c ≤ 'f')

/-- `ParsedApiKey::parse`, which keeps the prefix of the key. -/
def parseApiKey (raw : String) (environment : Environment) : Except AuthError String :=
  let keyPrefix := raw.toList.takeWhile (· ≠ '.')
  match raw.toList.dropWhile (· ≠ '.') with
  | [] => .error .invalid
  | _ :: secret =>
    if '.' ∈ secret ∨ secret.length ≠ 64 ∨ ¬ secret.all isLowerHex then .error .invalid
    else
      let expected := ("x402_" ++ environment.apiKeyLabel ++ "_").toList
      if ¬ expected <+: keyPrefix then .error .invalid
      else
        let publicId := keyPrefix.drop expected.length
        if publicId.length ≠ 24 ∨ ¬ publicId.all isLowerHex then .error .invalid
        else .ok (String.ofList keyPrefix)

section
variable [MacPrimitives]

def digestApiKey (pepper : Bytes) (apiKey : String) : Except AuthError Hash32 :=
  if pepper.length < 32 then .error .configuration
  else .ok (hmacSha256 pepper apiKey.toUTF8.toList)

structure GeneratedApiKey where
  keyPrefix : String
  raw : String
  digest : Hash32
deriving DecidableEq

/-- `GeneratedApiKey::generate`, with what the system's random source has filled in. -/
def GeneratedApiKey.generate (environment : Environment) (pepper : Bytes) (publicId : BitVec 96)
    (secret : BitVec 256) : Except AuthError GeneratedApiKey := do
  let keyPrefix := "x402_" ++ environment.apiKeyLabel ++ "_" ++
    String.ofList (hexDigits 24 publicId.toNat)
  let raw := keyPrefix ++ "." ++ String.ofList (hexDigits 64 secret.toNat)
  let digest ← digestApiKey pepper raw
  return ⟨keyPrefix, raw, digest⟩

/-- An authenticator is only built with a pepper of at least 32 bytes. -/
structure ApiKeyAuthenticator where
  environment : Environment
  pepper : Bytes
  pepperLength : 32 ≤ pepper.length

structure AuthenticatedClient where
  client : ApiClientAccount
  keyPrefix : String

def ApiKeyAuthenticator.authenticate (self : ApiKeyAuthenticator) (store : KeyStore)
    (headers : HeaderMap) : Except AuthError AuthenticatedClient := do
  let raw ← extractPresentedKey headers
  let presented ← parseApiKey raw self.environment
  let calculated ← digestApiKey self.pepper raw
  let candidate := store.lookupApiKey presented
  -- The comparison is made with zeros when no prefix was found.
  let expected := (candidate.map ApiKeyCandidate.digest).getD 0
  let candidate := candidate.filter fun candidate =>
    candidate.client.environment = environmentName self.environment
  if calculated ≠ expected then .error .invalid
  else
    match candidate with
    | some candidate => .ok ⟨candidate.client, presented⟩
    | none => .error .invalid

end

end X402Facilitator
