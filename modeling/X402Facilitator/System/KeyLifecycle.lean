import X402Facilitator.Lib.Run
import X402Facilitator.Service.Auth

/-!
# The life cycle of API keys

A registry says what the administrative calls are for: each client has the key that was issued to it
last, until it is revoked. The tables refine it: after every sequence of calls, a request is
authenticated as a client exactly if it presents the key that the registry has for that client.

The transactions of the database can also interleave. There the status of the client decides: nothing
makes a revoked client active again, so that its keys stay dead even if a rotation that had checked
the client before commits after the revocation.
-/

namespace X402Facilitator

/-! ## Presented keys -/

/-- The value of an `authorization` header is the key as a bearer token. -/
def BearerToken (value : Bytes) (key : String) : Prop :=
  ∃ text scheme, headerText value = some text ∧ splitAsciiWhitespace text = [scheme, key] ∧
    eqIgnoreAsciiCase scheme "bearer"

/-- The headers carry exactly this key. -/
inductive Presents (headers : HeaderMap) (key : String) : Prop where
  | header {value : Bytes} (hheader : headerValues headers "x-api-key" = [value])
      (htext : headerText value = some key)
      (hbearer : headerValues headers "authorization" = [])
  | bearer {value : Bytes} (hheader : headerValues headers "x-api-key" = [])
      (hbearer : headerValues headers "authorization" = [value]) (htoken : BearerToken value key)
  | both {value token : Bytes} (hheader : headerValues headers "x-api-key" = [value])
      (htext : headerText value = some key)
      (hbearer : headerValues headers "authorization" = [token]) (htoken : BearerToken token key)

theorem singleHeader_eq_none {headers : HeaderMap} {name : String} :
    singleHeader headers name = .ok none ↔ headerValues headers name = [] := by
  unfold singleHeader
  split
  · simp [*]
  · split <;> simp [*]
  · rename_i hnil _
    exact ⟨nofun, fun h => absurd h hnil⟩

theorem singleHeader_eq_some {headers : HeaderMap} {name text : String} :
    singleHeader headers name = .ok (some text) ↔
      ∃ value, headerValues headers name = [value] ∧ headerText value = some text := by
  unfold singleHeader
  split
  · simp [*]
  · split <;> simp [*]
  · rename_i hmany
    refine ⟨nofun, fun ⟨value, hvalue, _⟩ => absurd hvalue (hmany value)⟩

theorem parseBearer_ok {value key : String} :
    parseBearer value = .ok key ↔
      ∃ scheme, splitAsciiWhitespace value = [scheme, key] ∧ eqIgnoreAsciiCase scheme "bearer" := by
  unfold parseBearer
  split
  · rename_i scheme other hparts
    constructor
    · intro h
      split at h
      · rw [Except.ok.inj h] at hparts
        exact ⟨scheme, hparts, ‹_›⟩
      · cases h
    · rintro ⟨scheme', hsplit, hscheme⟩
      obtain ⟨rfl, rfl⟩ : scheme = scheme' ∧ other = key := by
        simpa using hparts.symm.trans hsplit
      exact if_pos hscheme
  · rename_i hnot
    refine ⟨nofun, fun ⟨scheme, hsplit, _⟩ => absurd hsplit (hnot scheme key)⟩

theorem bearerHeader_eq_none {headers : HeaderMap} :
    bearerHeader headers = .ok none ↔ headerValues headers "authorization" = [] := by
  rw [← singleHeader_eq_none]
  constructor
  · intro h
    obtain ⟨value, hvalue, h⟩ := Except.exists_of_bind h
    cases value with
    | none => exact hvalue
    | some value =>
      dsimp only at h
      cases hparse : parseBearer value <;> rw [hparse] at h <;> cases h
  · intro h
    rw [bearerHeader, h]
    rfl

theorem bearerHeader_eq_some {headers : HeaderMap} {key : String} :
    bearerHeader headers = .ok (some key) ↔
      ∃ value, headerValues headers "authorization" = [value] ∧ BearerToken value key := by
  constructor
  · intro h
    obtain ⟨text, htext, h⟩ := Except.exists_of_bind h
    cases text with
    | none => cases h
    | some text =>
      dsimp only at h
      cases hparse : parseBearer text with
      | error error =>
        rw [hparse] at h
        cases h
      | ok other =>
        rw [hparse] at h
        obtain rfl : other = key := by simpa [Except.map] using h
        obtain ⟨value, hvalue, hvalueText⟩ := singleHeader_eq_some.mp htext
        obtain ⟨scheme, hsplit, hscheme⟩ := parseBearer_ok.mp hparse
        exact ⟨value, hvalue, text, scheme, hvalueText, hsplit, hscheme⟩
  · rintro ⟨value, hvalue, text, scheme, htext, hsplit, hscheme⟩
    rw [bearerHeader, singleHeader_eq_some.mpr ⟨value, hvalue, htext⟩, Except.ok_bind]
    dsimp only
    rw [parseBearer_ok.mpr ⟨scheme, hsplit, hscheme⟩]
    rfl

/-- The key of a request is extracted exactly if its headers carry one. -/
theorem extractPresentedKey_ok {headers : HeaderMap} {key : String} :
    extractPresentedKey headers = .ok key ↔ Presents headers key := by
  constructor
  · intro h
    obtain ⟨header, hheader, h⟩ := Except.exists_of_bind h
    obtain ⟨bearer, hbearer, h⟩ := Except.exists_of_bind h
    cases header with
    | none =>
      have hnone := singleHeader_eq_none.mp hheader
      cases bearer with
      | none => cases h
      | some token =>
        obtain rfl : token = key := Except.ok.inj h
        obtain ⟨value, hvalue, htoken⟩ := bearerHeader_eq_some.mp hbearer
        exact .bearer hnone hvalue htoken
    | some left =>
      obtain ⟨value, hvalue, htext⟩ := singleHeader_eq_some.mp hheader
      cases bearer with
      | none =>
        obtain rfl : left = key := Except.ok.inj h
        exact .header hvalue htext (bearerHeader_eq_none.mp hbearer)
      | some right =>
        dsimp only at h
        split at h
        · rename_i hsame
          obtain rfl : left = key := Except.ok.inj h
          obtain ⟨token, htoken, hright⟩ := bearerHeader_eq_some.mp hbearer
          exact .both hvalue htext htoken (hsame ▸ hright)
        · cases h
  · rintro (⟨hheader, htext, hbearer⟩ | ⟨hheader, hbearer, htoken⟩ |
      ⟨hheader, htext, hbearer, htoken⟩)
    · rw [extractPresentedKey, singleHeader_eq_some.mpr ⟨_, hheader, htext⟩,
        bearerHeader_eq_none.mpr hbearer]
      rfl
    · rw [extractPresentedKey, singleHeader_eq_none.mpr hheader,
        bearerHeader_eq_some.mpr ⟨_, hbearer, htoken⟩]
      rfl
    · rw [extractPresentedKey, singleHeader_eq_some.mpr ⟨_, hheader, htext⟩,
        bearerHeader_eq_some.mpr ⟨_, hbearer, htoken⟩]
      exact if_pos rfl

/-! ## Generated keys -/

theorem isLowerHex_hexDigit {n : Nat} (h : n < 16) :
    isLowerHex (hexDigit n) = true ∧ hexDigit n ≠ '.' := by
  have hall : ∀ n < 16, isLowerHex (hexDigit n) = true ∧ hexDigit n ≠ '.' := by decide
  exact hall n h

theorem isLowerHex_of_mem_hexDigits {width n : Nat} {c : Char} (h : c ∈ hexDigits width n) :
    isLowerHex c = true ∧ c ≠ '.' := by
  induction width generalizing n with
  | zero => cases h
  | succ width ih =>
    obtain h | h := List.mem_append.mp h
    · exact ih h
    · rw [List.mem_singleton.mp h]
      exact isLowerHex_hexDigit (Nat.mod_lt n (by decide))

/-- The characters of the prefix of a key, and of the label that it begins with. -/
def keyLabel (environment : Environment) : List Char :=
  ("x402_" ++ environment.apiKeyLabel ++ "_").toList

section
variable [MacPrimitives]

/-- What a generated key is made of. -/
structure GeneratedApiKey.Is (key : GeneratedApiKey) (environment : Environment) (pepper : Bytes) :
    Prop where
  pepperLength : 32 ≤ pepper.length
  digest : key.digest = hmacSha256 pepper key.raw.toUTF8.toList
  shape : ∃ publicId secret : Nat, key.keyPrefix.toList = keyLabel environment ++ hexDigits 24 publicId ∧
    key.raw.toList = keyLabel environment ++ hexDigits 24 publicId ++ '.' :: hexDigits 64 secret

/-- The key was generated for the environment. -/
def GeneratedApiKey.For (key : GeneratedApiKey) (environment : Environment) (pepper : Bytes) : Prop :=
  ∃ publicId secret, generate environment pepper publicId secret = .ok key

theorem GeneratedApiKey.generate_ok {environment : Environment} {pepper : Bytes}
    {publicId : BitVec 96} {secret : BitVec 256} {key : GeneratedApiKey}
    (h : generate environment pepper publicId secret = .ok key) : key.Is environment pepper := by
  obtain ⟨digest, hdigest, h⟩ := Except.exists_of_bind h
  obtain rfl := Except.ok.inj h
  obtain ⟨hlength, hdigest⟩ := Except.of_ite_error hdigest
  refine ⟨Nat.not_lt.mp hlength, (Except.ok.inj hdigest).symm, publicId.toNat, secret.toNat, ?_, ?_⟩
  · simp [keyLabel]
  · simp [keyLabel]

omit [MacPrimitives] in
theorem parseApiKey_shape {raw : String} {environment : Environment} {publicId secret : Nat}
    (hraw : raw.toList = keyLabel environment ++ hexDigits 24 publicId ++ '.' :: hexDigits 64 secret)
    (other : Environment) :
    parseApiKey raw other =
      if other = environment then
        .ok (String.ofList (keyLabel environment ++ hexDigits 24 publicId))
      else .error .invalid := by
  have hlabel : ∀ c ∈ keyLabel environment, c ≠ '.' := by
    have hdot : '.' ∉ keyLabel environment := by cases environment <;> decide
    rintro c hc rfl
    exact hdot hc
  have hbody : ∀ c ∈ keyLabel environment ++ hexDigits 24 publicId, decide (c ≠ '.') = true := by
    intro c hc
    rw [decide_eq_true_eq]
    obtain hc | hc := List.mem_append.mp hc
    · exact hlabel c hc
    · exact (isLowerHex_of_mem_hexDigits hc).2
  have hsecret : ¬ ('.' ∈ hexDigits 64 secret ∨ (hexDigits 64 secret).length ≠ 64 ∨
      ¬ (hexDigits 64 secret).all isLowerHex) := by
    rintro (h | h | h)
    · exact (isLowerHex_of_mem_hexDigits h).2 rfl
    · exact h (length_hexDigits 64 secret)
    · exact h (List.all_eq_true.mpr fun c hc => (isLowerHex_of_mem_hexDigits hc).1)
  have hpublic : ¬ ((hexDigits 24 publicId).length ≠ 24 ∨
      ¬ (hexDigits 24 publicId).all isLowerHex) := by
    rintro (h | h)
    · exact h (length_hexDigits 24 publicId)
    · exact h (List.all_eq_true.mpr fun c hc => (isLowerHex_of_mem_hexDigits hc).1)
  have hdrop : raw.toList.dropWhile (· ≠ '.') = '.' :: hexDigits 64 secret := by
    rw [hraw, List.dropWhile_append_of_pos hbody, List.dropWhile_cons_of_neg (by simp)]
  have htake : raw.toList.takeWhile (· ≠ '.') = keyLabel environment ++ hexDigits 24 publicId := by
    rw [hraw, List.takeWhile_append_of_pos hbody, List.takeWhile_cons_of_neg (by simp),
      List.append_nil]
  unfold parseApiKey
  rw [hdrop, htake]
  dsimp only
  rw [if_neg hsecret]
  by_cases hsame : other = environment
  · subst hsame
    have hlabel : ("x402_" ++ other.apiKeyLabel ++ "_").toList <+:
        keyLabel other ++ hexDigits 24 publicId := List.prefix_append _ _
    have hid : (keyLabel other ++ hexDigits 24 publicId).drop
        ("x402_" ++ other.apiKeyLabel ++ "_").toList.length = hexDigits 24 publicId :=
      List.drop_left
    rw [if_neg (not_not.mpr hlabel), hid, if_neg hpublic, if_pos rfl]
  · rw [if_pos, if_neg hsame]
    cases other <;> cases environment <;> simp_all [keyLabel, Environment.apiKeyLabel]

/-- A generated key is accepted by the parser of its environment, and rejected by the other. -/
theorem GeneratedApiKey.Is.parseApiKey {key : GeneratedApiKey} {environment : Environment}
    {pepper : Bytes} (h : key.Is environment pepper) (other : Environment) :
    parseApiKey key.raw other =
      if other = environment then .ok key.keyPrefix else .error .invalid := by
  obtain ⟨publicId, secret, hstem, hraw⟩ := h.shape
  rw [parseApiKey_shape hraw, ← hstem, String.ofList_toList]

theorem GeneratedApiKey.For.is {key : GeneratedApiKey} {environment : Environment} {pepper : Bytes}
    (h : key.For environment pepper) : key.Is environment pepper := by
  obtain ⟨publicId, secret, hkey⟩ := h
  exact generate_ok hkey

/-! ## Authentication -/

/-- A request is authenticated by the active key under the prefix that it presents, if the digests
agree and the client is of the environment of the process. -/
theorem authenticate_ok {auth : ApiKeyAuthenticator} {store : KeyStore} {headers : HeaderMap}
    {authenticated : AuthenticatedClient} :
    auth.authenticate store headers = .ok authenticated ↔
      ∃ raw candidate, Presents headers raw ∧
        parseApiKey raw auth.environment = .ok authenticated.keyPrefix ∧
        store.lookupApiKey authenticated.keyPrefix = some candidate ∧
        candidate.digest = hmacSha256 auth.pepper raw.toUTF8.toList ∧
        candidate.client.environment = environmentName auth.environment ∧
        authenticated.client = candidate.client := by
  have hdigest (raw : String) :
      digestApiKey auth.pepper raw = .ok (hmacSha256 auth.pepper raw.toUTF8.toList) :=
    if_neg (Nat.not_lt.mpr auth.pepperLength)
  constructor
  · intro h
    obtain ⟨raw, hraw, h⟩ := Except.exists_of_bind h
    obtain ⟨presented, hpresented, h⟩ := Except.exists_of_bind h
    rw [hdigest, Except.ok_bind] at h
    obtain ⟨hexpected, h⟩ := Except.of_ite_error h
    rw [not_not] at hexpected
    split at h
    · rename_i candidate hcandidate
      obtain rfl := Except.ok.inj h
      obtain ⟨hlookup, henvironment⟩ := Option.filter_eq_some_iff.mp hcandidate
      rw [hlookup] at hexpected
      exact ⟨raw, candidate, extractPresentedKey_ok.mp hraw, hpresented, hlookup, hexpected.symm,
        of_decide_eq_true henvironment, rfl⟩
    · cases h
  · rintro ⟨raw, candidate, hraw, hpresented, hlookup, hmatches, henvironment, hclient⟩
    obtain ⟨client, keyPrefix⟩ := authenticated
    obtain rfl : client = candidate.client := hclient
    have hfilter : (some candidate).filter (fun candidate =>
        candidate.client.environment = environmentName auth.environment) = some candidate := by
      rw [Option.filter_eq_some_iff]
      exact ⟨rfl, decide_eq_true henvironment⟩
    simp only [ApiKeyAuthenticator.authenticate, extractPresentedKey_ok.mpr hraw, hpresented, hdigest,
      Except.ok_bind, hlookup, Option.map_some, Option.getD_some, hmatches, hfilter, ne_eq,
      not_true_eq_false, if_false]

/-! ## The registry -/

/-- What the calls have made of a client. -/
structure ClientLife where
  environment : Environment
  /-- The key that was issued last. -/
  key : GeneratedApiKey
  revoked : Bool

inductive AdminCall where
  | create (client : ApiClientAccount) (environment : Environment) (keyId : Uuid)
      (key : GeneratedApiKey)
  | rotate (clientId keyId : Uuid) (key : GeneratedApiKey)
  | revoke (clientId : Uuid)

/-- The clients, as the calls have left them. -/
abbrev Registry := Uuid → Option ClientLife

/-- What a call with a fresh key is for: a new client gets its first key, a client that is not revoked
gets another one in its place, and a revoked client stays revoked. -/
def Registry.step (registry : Registry) : AdminCall → Registry
  | .create client environment _ key =>
    if client.verifyRatePerMinute.toNat < 2 ^ 31 ∧ client.settleRatePerMinute.toNat < 2 ^ 31 ∧
        client.valid = true ∧ (registry client.id).isNone = true then
      Function.update registry client.id (some ⟨environment, key, false⟩)
    else registry
  | .rotate clientId _ key =>
    match registry clientId with
    | some ⟨environment, _, false⟩ =>
      Function.update registry clientId (some ⟨environment, key, false⟩)
    | _ => registry
  | .revoke clientId =>
    Function.update registry clientId
      ((registry clientId).map fun life => { life with revoked := true })

def Registry.after (calls : List AdminCall) : Registry := Run.after step (fun _ => none) calls

/-- The tables, and the registry by the calls that have succeeded on them. -/
structure KeyRun where
  store : KeyStore
  registry : Registry

namespace KeyRun

def init : KeyRun := ⟨.empty, fun _ => none⟩

/-- One call, as one transaction. A call that fails has issued nothing. -/
def step (run : KeyRun) : AdminCall → KeyRun
  | .create client environment keyId key =>
    match run.store.createClient client keyId key.keyPrefix key.digest with
    | .error _ => run
    | .ok store =>
      ⟨store, Function.update run.registry client.id (some ⟨environment, key, false⟩)⟩
  | .rotate clientId keyId key =>
    match run.store.rotateClientKey clientId keyId key.keyPrefix key.digest with
    | .error _ => run
    | .ok store => ⟨store, Function.update run.registry clientId
        ((run.registry clientId).map fun life => { life with key := key })⟩
  | .revoke clientId =>
    ⟨(run.store.revokeClient clientId).2, Function.update run.registry clientId
      ((run.registry clientId).map fun life => { life with revoked := true })⟩

def after (calls : List AdminCall) : KeyRun := Run.after step init calls

/-- The call issues a key that was generated for the environment of its client. -/
def Generated (pepper : Bytes) (run : KeyRun) : AdminCall → Prop
  | .create client environment _ key =>
    client.environment = environmentName environment ∧ key.For environment pepper
  | .rotate clientId _ key =>
    ∀ life, run.registry clientId = some life → key.For life.environment pepper
  | .revoke _ => True

/-- The call issues a key with an id and a prefix that no key has. -/
def Fresh (run : KeyRun) : AdminCall → Prop
  | .create _ _ keyId key | .rotate _ keyId key =>
    ∀ row ∈ run.store.keys, row.id ≠ keyId ∧ row.keyPrefix ≠ key.keyPrefix
  | .revoke _ => True

/-- Every call issues a fresh key that was generated for its client. -/
def Issues (pepper : Bytes) (calls : List AdminCall) : Prop :=
  Run.Always step (fun run call => Generated pepper run call ∧ Fresh run call) init calls

/-- The row of a client says what its life says. -/
structure Mirrors (row : ApiClientRow) (life : ClientLife) : Prop where
  environment : row.client.environment = environmentName life.environment
  status : row.status = .revoked ↔ life.revoked = true

/-- The row of a key holds the key that its client has. -/
structure Holds (key : ApiKeyRow) (life : ClientLife) : Prop where
  current : life.revoked = false
  keyPrefix : key.keyPrefix = life.key.keyPrefix
  keyDigest : key.keyDigest = life.key.digest

/-- The rows of a client that no call has created. -/
structure Absent (store : KeyStore) (id : Uuid) : Prop where
  clients : ∀ row ∈ store.clients, row.client.id ≠ id
  keys : ∀ key ∈ store.keys, key.clientId ≠ id

/-- The rows of a client: it is active until it is revoked, with its key as the only active one. -/
structure Present (pepper : Bytes) (store : KeyStore) (id : Uuid) (life : ClientLife) : Prop where
  generated : life.key.Is life.environment pepper
  client : ∃ row ∈ store.clients, row.client.id = id ∧ Mirrors row life
  active : ∀ key ∈ store.keys, key.clientId = id → key.status = .active → Holds key life
  current : life.revoked = false →
    ∃ key ∈ store.keys, key.clientId = id ∧ key.status = .active ∧ Holds key life

/-- The rows of a client are as the registry says. -/
def At (pepper : Bytes) (store : KeyStore) (id : Uuid) : Option ClientLife → Prop
  | none => Absent store id
  | some life => Present pepper store id life

/-- The tables refine the registry. -/
structure Refines (pepper : Bytes) (run : KeyRun) : Prop where
  valid : run.store.Valid
  rows : ∀ id, At pepper run.store id (run.registry id)

theorem refines_init (pepper : Bytes) : init.Refines pepper :=
  ⟨KeyStore.valid_empty, fun _ => ⟨nofun, nofun⟩⟩

variable {pepper : Bytes} {run : KeyRun} {store store' : KeyStore} {id clientId keyId : Uuid}

/-- What the registry says of a client depends on its own rows only. -/
theorem At.frame {life : Option ClientLife} (h : At pepper store id life)
    (hclients : ∀ row, row.client.id = id → (row ∈ store'.clients ↔ row ∈ store.clients))
    (hkeys : ∀ key, key.clientId = id → (key ∈ store'.keys ↔ key ∈ store.keys)) :
    At pepper store' id life := by
  cases life with
  | none =>
    exact ⟨fun row hrow hid => h.clients row ((hclients row hid).mp hrow) hid,
      fun key hkey hid => h.keys key ((hkeys key hid).mp hkey) hid⟩
  | some life =>
    obtain ⟨hgenerated, ⟨row, hrow, hid, hmirrors⟩, hactive, hcurrent⟩ := h
    refine ⟨hgenerated, ⟨row, (hclients row hid).mpr hrow, hid, hmirrors⟩, ?_, fun hlive => ?_⟩
    · intro key hkey hkeyId
      exact hactive key ((hkeys key hkeyId).mp hkey) hkeyId
    · obtain ⟨key, hkey, hkeyId, hholds⟩ := hcurrent hlive
      exact ⟨key, (hkeys key hkeyId).mpr hkey, hkeyId, hholds⟩

omit [MacPrimitives] in
/-- The keys of other clients are not touched. -/
theorem mem_keys_revokeKeys_of_ne (hvalid : store.Valid) {key : ApiKeyRow}
    (hkey : key.clientId ≠ clientId) :
    key ∈ (store.revokeKeys (store.activeKeys clientId)).keys ↔ key ∈ store.keys := by
  rw [KeyStore.mem_keys_revokeKeys]
  -- A row whose id is among those of the client is a row of the client.
  have hnot : ∀ old ∈ store.keys, old.clientId ≠ clientId → old.id ∉ store.activeKeys clientId := by
    intro old hold hclient hid
    obtain ⟨own, hown, hownClient, -, hownId⟩ := KeyStore.mem_activeKeys.mp hid
    obtain rfl : own = old := hvalid.keyIds.eq_of_key hown hold (congrArg some hownId) rfl
    exact hclient hownClient
  constructor
  · rintro (⟨hmem, -⟩ | ⟨old, hold, hid, rfl⟩)
    · exact hmem
    · exact absurd hid (hnot old hold hkey)
  · intro hmem
    exact .inl ⟨hmem, hnot key hmem hkey⟩

omit [MacPrimitives] in
/-- No key of the client itself stays active. -/
theorem status_of_mem_revokeKeys {key : ApiKeyRow}
    (hmem : key ∈ (store.revokeKeys (store.activeKeys clientId)).keys)
    (hkey : key.clientId = clientId) : key.status = .revoked := by
  obtain ⟨hmem, hid⟩ | ⟨old, -, -, rfl⟩ := KeyStore.mem_keys_revokeKeys.mp hmem
  · cases hstatus : key.status with
    | active => exact absurd (KeyStore.mem_activeKeys.mpr ⟨key, hmem, hkey, hstatus, rfl⟩) hid
    | revoked => rfl
  · rfl

theorem Refines.create (hrun : run.Refines pepper) {client : ApiClientAccount}
    {environment : Environment} {key : GeneratedApiKey}
    (hgenerated : Generated pepper run (.create client environment keyId key))
    (h : run.store.createClient client keyId key.keyPrefix key.digest = .ok store) :
    Refines pepper
      ⟨store, Function.update run.registry client.id (some ⟨environment, key, false⟩)⟩ := by
  refine ⟨hrun.valid.createClient h, fun id => ?_⟩
  obtain ⟨-, -, hfresh, -, rfl⟩ := KeyStore.createClient_ok h
  by_cases hid : id = client.id
  · subst hid
    have hrows := hrun.rows client.id
    dsimp only
    rw [Function.update_self]
    -- Nothing of the client was there before.
    have habsent : Absent run.store client.id := by
      cases hlife : run.registry client.id with
      | none => rwa [hlife] at hrows
      | some life =>
        rw [hlife] at hrows
        obtain ⟨row, hrow, hrowId, -⟩ := hrows.client
        exact absurd hrowId (hfresh row hrow)
    refine ⟨hgenerated.2.is, ⟨⟨client, .active⟩, by simp, rfl, ⟨hgenerated.1, by simp⟩⟩, ?_, fun _ =>
      ⟨_, List.mem_append_right _ (List.mem_singleton_self _), rfl, rfl, rfl, rfl, rfl⟩⟩
    intro row hrow hrowId _
    obtain hrow | hrow := List.mem_append.mp hrow
    · exact absurd hrowId (habsent.keys row hrow)
    · rw [List.mem_singleton.mp hrow]
      exact ⟨rfl, rfl, rfl⟩
  · dsimp only
    rw [Function.update_of_ne hid]
    refine (hrun.rows id).frame (fun row hrow => ?_) fun row hrow => ?_
    · simp only [List.mem_append, List.mem_singleton, or_iff_left_iff_imp]
      rintro rfl
      exact absurd hrow.symm hid
    · simp only [List.mem_append, List.mem_singleton, or_iff_left_iff_imp]
      rintro rfl
      exact absurd hrow.symm hid

theorem Refines.rotate (hrun : run.Refines pepper) {key : GeneratedApiKey}
    (hgenerated : Generated pepper run (.rotate clientId keyId key))
    (h : run.store.rotateClientKey clientId keyId key.keyPrefix key.digest = .ok store) :
    Refines pepper ⟨store, Function.update run.registry clientId
      ((run.registry clientId).map fun life => { life with key := key })⟩ := by
  obtain ⟨⟨row, hrow, hrowId, hactive⟩, h⟩ := KeyStore.rotateClientKey_ok h
  refine ⟨(hrun.valid.revokeKeys _).insertApiKey h, fun id => ?_⟩
  obtain ⟨-, -, rfl⟩ := KeyStore.insertApiKey_ok h
  by_cases hid : id = clientId
  · subst hid
    have hrows := hrun.rows id
    dsimp only
    rw [Function.update_self]
    cases hlife : run.registry id with
    | none =>
      rw [hlife] at hrows
      exact absurd hrowId (hrows.clients row hrow)
    | some life =>
      rw [hlife] at hrows
      obtain ⟨other, hother, hotherId, hmirrors⟩ := hrows.client
      obtain rfl : other = row := hrun.valid.clientIds.eq_of_key hother hrow
        (congrArg some hotherId) (congrArg some hrowId)
      have hlive : life.revoked = false := by
        rw [← Bool.not_eq_true, ← hmirrors.status, hactive]
        decide
      refine ⟨(hgenerated life hlife).is,
        ⟨other, hother, hotherId, hmirrors.environment, hmirrors.status⟩, ?_, fun _ => ⟨_, List.mem_append_right _ (List.mem_singleton_self _), rfl, rfl, hlive, rfl,
          rfl⟩⟩
      intro row' hrow' hrowClient hrowActive
      obtain hrow' | hrow' := List.mem_append.mp hrow'
      · rw [status_of_mem_revokeKeys hrow' hrowClient] at hrowActive
        cases hrowActive
      · rw [List.mem_singleton.mp hrow']
        exact ⟨hlive, rfl, rfl⟩
  · dsimp only
    rw [Function.update_of_ne hid]
    refine (hrun.rows id).frame (fun _ _ => Iff.rfl) fun row' hrow' => ?_
    rw [List.mem_append, mem_keys_revokeKeys_of_ne hrun.valid (hrow' ▸ hid), or_iff_left_iff_imp]
    intro hnew
    rw [List.mem_singleton.mp hnew] at hrow'
    exact absurd hrow'.symm hid

theorem Refines.revoke (hrun : run.Refines pepper) (clientId : Uuid) :
    Refines pepper (run.step (.revoke clientId)) := by
  refine ⟨(hrun.valid.revokeRow clientId).revokeKeys _, fun id => ?_⟩
  by_cases hid : id = clientId
  · subst hid
    have hrows := hrun.rows id
    dsimp only [step]
    rw [Function.update_self]
    cases hlife : run.registry id with
    | none =>
      rw [hlife] at hrows
      refine ⟨fun row hrow => ?_, fun key hkey => ?_⟩
      · obtain ⟨old, hold, rfl⟩ := Table.mem_update.mp hrow
        split <;> exact hrows.clients old hold
      · obtain ⟨old, hold, rfl⟩ := Table.mem_update.mp hkey
        split <;> exact hrows.keys old hold
    | some life =>
      rw [hlife] at hrows
      obtain ⟨row, hrow, hrowId, hmirrors⟩ := hrows.client
      refine ⟨hrows.generated, ⟨_, Table.mem_update.mpr ⟨row, hrow, rfl⟩, ?_, ?_⟩, ?_, nofun⟩
      · split <;> exact hrowId
      · cases hstatus : row.status with
        | active =>
          rw [if_pos (decide_eq_true ⟨hrowId, rfl⟩)]
          exact ⟨hmirrors.environment, by simp⟩
        | revoked =>
          rw [if_neg (by simp)]
          exact ⟨hmirrors.environment, by simp [hstatus]⟩
      · intro key hkey hkeyId hactive
        have hmem : key ∈ (run.store.revokeKeys (run.store.activeKeys id)).keys := hkey
        rw [status_of_mem_revokeKeys hmem hkeyId] at hactive
        cases hactive
  · dsimp only [step]
    rw [Function.update_of_ne hid]
    refine (hrun.rows id).frame (fun row hrow => ?_) fun key hkey => ?_
    · constructor
      · intro hmem
        obtain ⟨old, hold, rfl⟩ := Table.mem_update.mp hmem
        have hold' : old.client.id = id := by
          split at hrow <;> exact hrow
        rw [if_neg (by simp [hold', hid])]
        exact hold
      · intro hmem
        refine Table.mem_update.mpr ⟨row, hmem, (if_neg ?_).symm⟩
        simp [hrow, hid]
    · have hother : key ∈ (run.store.revokeKeys (run.store.activeKeys clientId)).keys ↔
          key ∈ run.store.keys := mem_keys_revokeKeys_of_ne hrun.valid (hkey ▸ hid)
      exact hother

theorem Refines.step (hrun : run.Refines pepper) {call : AdminCall}
    (hcall : Generated pepper run call) : (run.step call).Refines pepper := by
  cases call with
  | create client environment keyId key =>
    unfold KeyRun.step
    dsimp only
    split
    · exact hrun
    · exact hrun.create hcall ‹_›
  | rotate clientId keyId key =>
    unfold KeyRun.step
    dsimp only
    split
    · exact hrun
    · exact hrun.rotate hcall ‹_›
  | revoke clientId => exact hrun.revoke clientId

/-- No key of the registry has the digest of another key that the headers present. -/
def Distinguishes (pepper : Bytes) (registry : Registry) (headers : HeaderMap) : Prop :=
  ∀ id life raw, registry id = some life → Presents headers raw →
    hmacSha256 pepper life.key.raw.toUTF8.toList = hmacSha256 pepper raw.toUTF8.toList →
      life.key.raw = raw

omit [MacPrimitives] in
theorem environmentName_inj {left right : Environment}
    (h : environmentName left = environmentName right) : left = right := by
  cases left <;> cases right <;> first | rfl | exact absurd h (by decide)

/-- A request is authenticated as a client exactly if it presents the key that was issued last to the
client, the client is of the environment of the process, and it is not revoked. -/
theorem Refines.authenticate_iff {auth : ApiKeyAuthenticator} {headers : HeaderMap}
    (hrun : run.Refines auth.pepper) (hmac : Distinguishes auth.pepper run.registry headers) (id : Uuid) :
    (∃ authenticated, auth.authenticate run.store headers = .ok authenticated ∧
      authenticated.client.id = id) ↔
      ∃ life, run.registry id = some life ∧ life.environment = auth.environment ∧
        life.revoked = false ∧ Presents headers life.key.raw := by
  constructor
  · rintro ⟨authenticated, h, rfl⟩
    obtain ⟨raw, candidate, hraw, -, hlookup, hdigest, henvironment, hclient⟩ :=
      authenticate_ok.mp h
    obtain ⟨key, hkey, -, hactive, row, hrow, hrowId, -, rfl⟩ :=
      hrun.valid.lookupApiKey_eq_some.mp hlookup
    have hrows := hrun.rows key.clientId
    have hid : authenticated.client.id = key.clientId := by rw [hclient, ← hrowId]
    cases hlife : run.registry key.clientId with
    | none =>
      rw [hlife] at hrows
      exact absurd rfl (hrows.keys key hkey)
    | some life =>
      rw [hlife] at hrows
      have hholds := hrows.active key hkey rfl hactive
      obtain ⟨other, hother, hotherId, hmirrors⟩ := hrows.client
      obtain rfl : other = row := hrun.valid.clientIds.eq_of_key hother hrow
        (congrArg some hotherId) (congrArg some hrowId)
      have hsame : life.key.raw = raw := by
        refine hmac _ life raw hlife hraw ?_
        rw [← hrows.generated.digest, ← hholds.keyDigest]
        exact hdigest
      refine ⟨life, hid ▸ hlife, ?_, hholds.current, hsame ▸ hraw⟩
      exact environmentName_inj (hmirrors.environment.symm.trans henvironment)
  · rintro ⟨life, hlife, henvironment, hlive, hraw⟩
    have hrows := hrun.rows id
    rw [hlife] at hrows
    obtain ⟨row, hrow, rfl, hmirrors⟩ := hrows.client
    obtain ⟨key, hkey, hkeyId, hactive, hholds⟩ := hrows.current hlive
    have hrowActive : row.status = .active := by
      cases hstatus : row.status with
      | active => rfl
      | revoked =>
        rw [hmirrors.status.mp hstatus] at hlive
        cases hlive
    refine ⟨⟨row.client, key.keyPrefix⟩, authenticate_ok.mpr ⟨life.key.raw,
      ⟨row.client, key.keyDigest⟩, hraw, ?_, ?_, ?_, ?_, rfl⟩, rfl⟩
    · rw [hrows.generated.parseApiKey, if_pos henvironment.symm, ← hholds.keyPrefix]
    · exact hrun.valid.lookupApiKey_eq_some.mpr
        ⟨key, hkey, rfl, hactive, row, hrow, hkeyId.symm, hrowActive, rfl⟩
    · exact hholds.keyDigest.trans hrows.generated.digest
    · rw [← henvironment]
      exact hmirrors.environment

omit [MacPrimitives] in
theorem insertApiKey_of_fresh {keyPrefix : String} (keyDigest : Hash32)
    (hfresh : ∀ key ∈ store.keys, key.id ≠ keyId ∧ key.keyPrefix ≠ keyPrefix)
    (hclient : ∃ row ∈ store.clients, row.client.id = clientId) :
    ∃ store', store.insertApiKey keyId clientId keyPrefix keyDigest = .ok store' := by
  have hid : ¬ store.keys.any (·.id = keyId) := by
    simpa using fun key hkey => (hfresh key hkey).1
  have hstem : ¬ store.keys.any (·.keyPrefix = keyPrefix) := by
    simpa using fun key hkey => (hfresh key hkey).2
  have hrow : store.clients.any (·.client.id = clientId) := by
    simpa using hclient
  rw [KeyStore.insertApiKey, if_neg hid, if_neg hstem, if_neg (not_not.mpr hrow)]
  exact ⟨_, rfl⟩

theorem Refines.hasActiveClient_iff (hrun : run.Refines pepper) :
    run.store.hasActiveClient clientId = true ↔
      ∃ life, run.registry clientId = some life ∧ life.revoked = false := by
  rw [KeyStore.hasActiveClient_iff]
  have hrows := hrun.rows clientId
  cases hlife : run.registry clientId with
  | none =>
    rw [hlife] at hrows
    exact ⟨fun ⟨row, hrow, hid, _⟩ => absurd hid (hrows.clients row hrow), nofun⟩
  | some life =>
    rw [hlife] at hrows
    obtain ⟨row, hrow, hid, hmirrors⟩ := hrows.client
    have hlive : row.status = .active ↔ life.revoked = false := by
      rw [← Bool.not_eq_true, ← hmirrors.status]
      cases row.status <;> decide
    constructor
    · rintro ⟨other, hother, hotherId, hactive⟩
      obtain rfl : other = row := hrun.valid.clientIds.eq_of_key hother hrow
        (congrArg some hotherId) (congrArg some hid)
      exact ⟨life, rfl, hlive.mp hactive⟩
    · rintro ⟨other, hother, hrevoked⟩
      rw [← Option.some.inj hother] at hrevoked
      exact ⟨row, hrow, hid, hlive.mpr hrevoked⟩

/-- A client is created exactly if it is acceptable and new. -/
theorem Refines.registry_create (hrun : run.Refines pepper) {client : ApiClientAccount}
    {environment : Environment} {key : GeneratedApiKey}
    (hfresh : run.Fresh (.create client environment keyId key)) :
    (run.step (.create client environment keyId key)).registry =
      run.registry.step (.create client environment keyId key) := by
  have hrows := hrun.rows client.id
  by_cases hnew : client.verifyRatePerMinute.toNat < 2 ^ 31 ∧
      client.settleRatePerMinute.toNat < 2 ^ 31 ∧ client.valid = true ∧
      (run.registry client.id).isNone = true
  · obtain ⟨hverify, hsettle, hvalid, hnone⟩ := id hnew
    rw [Option.isNone_iff_eq_none.mp hnone] at hrows
    have hid : ¬ run.store.clients.any (·.client.id = client.id) := by
      simpa using hrows.clients
    have hrow : ∃ row ∈ run.store.clients ++ [⟨client, .active⟩], row.client.id = client.id :=
      ⟨_, List.mem_append_right _ (List.mem_singleton_self _), rfl⟩
    have hinsert : ∃ store', KeyStore.insertApiKey ⟨run.store.clients ++ [⟨client, .active⟩],
        run.store.keys⟩ keyId client.id key.keyPrefix key.digest = .ok store' :=
      insertApiKey_of_fresh key.digest hfresh hrow
    obtain ⟨store', hstore'⟩ := hinsert
    have hcreate :
        run.store.createClient client keyId key.keyPrefix key.digest = .ok store' := by
      rw [KeyStore.createClient, if_neg (Nat.not_le.mpr hverify), if_neg (Nat.not_le.mpr hsettle),
        if_neg (not_not.mpr hvalid), if_neg hid]
      exact hstore'
    simp only [KeyRun.step, hcreate, Registry.step, if_pos hnew]
  · rw [Registry.step, if_neg hnew]
    unfold KeyRun.step
    dsimp only
    split
    · rfl
    · rename_i hcreate
      obtain ⟨hrates, hvalid, hclients, -, -⟩ := KeyStore.createClient_ok hcreate
      refine absurd ⟨hrates.1, hrates.2, hvalid, ?_⟩ hnew
      cases hlife : run.registry client.id with
      | none => rfl
      | some life =>
        rw [hlife] at hrows
        obtain ⟨row, hrow, hrowId, -⟩ := hrows.client
        exact absurd hrowId (hclients row hrow)

/-- A key is issued to every client that is not revoked, and to no other. -/
theorem Refines.registry_rotate (hrun : run.Refines pepper) {key : GeneratedApiKey}
    (hfresh : run.Fresh (.rotate clientId keyId key)) :
    (run.step (.rotate clientId keyId key)).registry =
      run.registry.step (.rotate clientId keyId key) := by
  by_cases hactive : run.store.hasActiveClient clientId = true
  · obtain ⟨⟨environment, old, revoked⟩, hlife, rfl⟩ := hrun.hasActiveClient_iff.mp hactive
    have hfresh' : ∀ row ∈ (run.store.revokeKeys (run.store.activeKeys clientId)).keys,
        row.id ≠ keyId ∧ row.keyPrefix ≠ key.keyPrefix := by
      intro row hrow
      obtain ⟨hrow, -⟩ | ⟨old, hold, -, rfl⟩ := KeyStore.mem_keys_revokeKeys.mp hrow
      · exact hfresh row hrow
      · exact hfresh old hold
    obtain ⟨row, hrow, hrowId, -⟩ := KeyStore.hasActiveClient_iff.mp hactive
    obtain ⟨store', hstore'⟩ := insertApiKey_of_fresh key.digest hfresh' ⟨row, hrow, hrowId⟩
    have hrotate :
        run.store.rotateClientKey clientId keyId key.keyPrefix key.digest = .ok store' := by
      rw [KeyStore.rotateClientKey, if_neg (not_not.mpr hactive)]
      exact hstore'
    simp only [KeyRun.step, hrotate, Registry.step, hlife, Option.map_some]
  · have hrotate : run.store.rotateClientKey clientId keyId key.keyPrefix key.digest =
        .error (.corrupt "active client not found") := if_pos hactive
    have hdead : ∀ environment old, run.registry clientId ≠ some ⟨environment, old, false⟩ :=
      fun environment old h => hactive (hrun.hasActiveClient_iff.mpr ⟨_, h, rfl⟩)
    simp only [KeyRun.step, hrotate, Registry.step]

/-- After every sequence of calls the tables refine the registry. -/
theorem refines_after {calls : List AdminCall} (hcalls : Issues pepper calls) :
    (after calls).Refines pepper ∧ (after calls).registry = Registry.after calls := by
  induction calls using List.reverseRecOn with
  | nil => exact ⟨refines_init pepper, rfl⟩
  | append_singleton calls call ih =>
    obtain ⟨hbefore, ⟨hgenerated, hfresh⟩, -⟩ := Run.always_append.mp hcalls
    obtain ⟨hrun, hregistry⟩ := ih hbefore
    rw [after, Registry.after, Run.after_concat, Run.after_concat]
    refine ⟨hrun.step hgenerated, ?_⟩
    rw [← Registry.after, ← hregistry]
    cases call with
    | create client environment keyId key => exact hrun.registry_create hfresh
    | rotate clientId keyId key => exact hrun.registry_rotate hfresh
    | revoke clientId => rfl

end KeyRun

end

/-! ## Interleaved transactions -/

/-- A transaction that has begun, by the statements that it has executed. -/
inductive AdminSession where
  /-- `rotate_client_key` after its check, and then with the keys that its update has matched. -/
  | rotating (clientId keyId : Uuid) (keyPrefix : String) (keyDigest : Hash32)
      (revokes : Option (List Uuid))
  /-- `revoke_client` after its update of the client, which has matched an active row or not, and
  then with the keys that its second update has matched. -/
  | revoking (clientId : Uuid) (matched : Bool) (revokes : Option (List Uuid))

/-- The committed tables and the open transactions. -/
structure AdminDb where
  store : KeyStore
  sessions : Nat → Option AdminSession

inductive AdminMove where
  | create (client : ApiClientAccount) (keyId : Uuid) (keyPrefix : String) (keyDigest : Hash32)
  | checkRotation (session : Nat) (clientId keyId : Uuid) (keyPrefix : String) (keyDigest : Hash32)
  | updateClient (session : Nat) (clientId : Uuid)
  | updateKeys (session : Nat)
  | commit (session : Nat)
  | rollback (session : Nat)

/-- The transaction that the statement belongs to. -/
def AdminMove.session : AdminMove → Option Nat
  | .create .. => none
  | .checkRotation session .. | .updateClient session _ | .updateKeys session | .commit session
  | .rollback session => some session

namespace AdminDb

def init : AdminDb := ⟨.empty, fun _ => none⟩

def setSession (db : AdminDb) (session : Nat) (state : Option AdminSession) : AdminDb :=
  { db with sessions := Function.update db.sessions session state }

/-- What the commit of a transaction makes of the tables. -/
def committed (store : KeyStore) : AdminSession → KeyStore
  | .rotating clientId keyId keyPrefix keyDigest (some revokes) =>
    match (store.revokeKeys revokes).insertApiKey keyId clientId keyPrefix keyDigest with
    | .error _ => store
    | .ok store => store
  | .revoking clientId matched (some revokes) =>
    (if matched then store.revokeRow clientId else store).revokeKeys revokes
  | _ => store

/-- One statement of a transaction. A statement sees what has been committed before it, and the
effects of a transaction appear at its commit. -/
def step (db : AdminDb) : AdminMove → AdminDb
  | .create client keyId keyPrefix keyDigest =>
    match db.store.createClient client keyId keyPrefix keyDigest with
    | .error _ => db
    | .ok store => { db with store := store }
  | .checkRotation session clientId keyId keyPrefix keyDigest =>
    if db.sessions session = none ∧ db.store.hasActiveClient clientId = true then
      db.setSession session (some (.rotating clientId keyId keyPrefix keyDigest none))
    else db
  | .updateClient session clientId =>
    if db.sessions session = none then
      db.setSession session (some (.revoking clientId (db.store.hasActiveClient clientId) none))
    else db
  | .updateKeys session =>
    match db.sessions session with
    | some (.rotating clientId keyId keyPrefix keyDigest none) =>
      db.setSession session (some (.rotating clientId keyId keyPrefix keyDigest
        (some (db.store.activeKeys clientId))))
    | some (.revoking clientId matched none) =>
      db.setSession session (some (.revoking clientId matched
        (some (db.store.activeKeys clientId))))
    | _ => db
  | .commit session =>
    match db.sessions session with
    | some current => AdminDb.setSession ⟨committed db.store current, db.sessions⟩ session none
    | none => db
  | .rollback session => db.setSession session none

def after (moves : List AdminMove) : AdminDb := Run.after step init moves

/-- The client has a row, and it is revoked. -/
def Revoked (store : KeyStore) (clientId : Uuid) : Prop :=
  ∃ row ∈ store.clients, row.client.id = clientId ∧ row.status = .revoked

/-- What every statement does to the tables: the indexes stay valid, rows of clients stay, and a
revoked client stays revoked. -/
structure Keeps (store store' : KeyStore) : Prop where
  valid : store.Valid → store'.Valid
  rows : ∀ row ∈ store.clients, ∃ row' ∈ store'.clients, row'.client = row.client ∧
    (row.status = .revoked → row'.status = .revoked)

variable {store store' : KeyStore} {db : AdminDb}

theorem Keeps.refl (store : KeyStore) : Keeps store store :=
  ⟨id, fun row hrow => ⟨row, hrow, rfl, id⟩⟩

theorem Keeps.trans {store'' : KeyStore} (h : Keeps store store') (h' : Keeps store' store'') :
    Keeps store store'' := by
  refine ⟨fun hvalid => h'.valid (h.valid hvalid), fun row hrow => ?_⟩
  obtain ⟨row', hrow', hclient, hstatus⟩ := h.rows row hrow
  obtain ⟨row'', hrow'', hclient', hstatus'⟩ := h'.rows row' hrow'
  exact ⟨row'', hrow'', hclient'.trans hclient, fun hrevoked => hstatus' (hstatus hrevoked)⟩

theorem Keeps.revoked {clientId : Uuid} (h : Keeps store store') (hrevoked : Revoked store clientId) :
    Revoked store' clientId := by
  obtain ⟨row, hrow, hid, hstatus⟩ := hrevoked
  obtain ⟨row', hrow', hclient, hkeeps⟩ := h.rows row hrow
  exact ⟨row', hrow', hclient ▸ hid, hkeeps hstatus⟩

theorem keeps_revokeKeys (store : KeyStore) (ids : List Uuid) : Keeps store (store.revokeKeys ids) :=
  ⟨fun hvalid => hvalid.revokeKeys ids, (Keeps.refl store).rows⟩

theorem keeps_revokeRow (store : KeyStore) (clientId : Uuid) :
    Keeps store (store.revokeRow clientId) := by
  refine ⟨fun hvalid => hvalid.revokeRow clientId, fun row hrow => ?_⟩
  refine ⟨_, Table.mem_update.mpr ⟨row, hrow, rfl⟩, ?_, ?_⟩
  · split <;> rfl
  · intro hrevoked
    split
    · rfl
    · exact hrevoked

theorem keeps_committed (store : KeyStore) (session : AdminSession) :
    Keeps store (committed store session) := by
  unfold committed
  split
  · split
    · exact .refl store
    · rename_i hinsert
      obtain ⟨-, -, rfl⟩ := KeyStore.insertApiKey_ok hinsert
      exact ⟨fun hvalid => (hvalid.revokeKeys _).insertApiKey hinsert, (Keeps.refl store).rows⟩
  · split
    · exact (keeps_revokeRow ..).trans (keeps_revokeKeys ..)
    · exact keeps_revokeKeys ..
  · exact .refl store

theorem keeps_step (db : AdminDb) (move : AdminMove) : Keeps db.store (step db move).store := by
  cases move with
  | create client keyId keyPrefix keyDigest =>
    unfold step
    dsimp only
    split
    · exact .refl db.store
    · rename_i hcreate
      refine ⟨fun hvalid => hvalid.createClient hcreate, fun row hrow => ?_⟩
      obtain ⟨-, -, -, -, rfl⟩ := KeyStore.createClient_ok hcreate
      exact ⟨row, List.mem_append_left _ hrow, rfl, id⟩
  | commit session =>
    unfold step
    dsimp only
    split
    · exact keeps_committed ..
    · exact .refl db.store
  | checkRotation | updateClient =>
    unfold step
    dsimp only
    split <;> exact .refl db.store
  | updateKeys session =>
    unfold step
    dsimp only
    split <;> exact .refl db.store
  | rollback session => exact .refl db.store

theorem keeps_after (db : AdminDb) (moves : List AdminMove) :
    Keeps db.store (Run.after step db moves).store := by
  induction moves using List.reverseRecOn with
  | nil => exact .refl db.store
  | append_singleton moves move ih =>
    rw [Run.after_concat]
    exact ih.trans (keeps_step _ move)

theorem valid_after (moves : List AdminMove) : (after moves).store.Valid :=
  (keeps_after init moves).valid KeyStore.valid_empty

/-- No key of a revoked client authenticates. -/
theorem Revoked.authenticate [MacPrimitives] (hvalid : store.Valid) {clientId : Uuid}
    (hrevoked : Revoked store clientId) {auth : ApiKeyAuthenticator} {headers : HeaderMap}
    {authenticated : AuthenticatedClient}
    (h : auth.authenticate store headers = .ok authenticated) :
    authenticated.client.id ≠ clientId ∧
      ∀ key ∈ store.keys, key.clientId = clientId → authenticated.keyPrefix ≠ key.keyPrefix := by
  obtain ⟨raw, candidate, -, -, hlookup, -, -, hclient⟩ := authenticate_ok.mp h
  obtain ⟨key, hkey, hstem, -, row, hrow, hrowId, hactive, rfl⟩ :=
    hvalid.lookupApiKey_eq_some.mp hlookup
  obtain ⟨other, hother, hotherId, hstatus⟩ := hrevoked
  have hne : row.client.id ≠ clientId := by
    intro hid
    obtain rfl : row = other := hvalid.clientIds.eq_of_key hrow hother (congrArg some hid)
      (congrArg some hotherId)
    rw [hactive] at hstatus
    cases hstatus
  refine ⟨hclient ▸ hne, fun own hown hownClient hsame => ?_⟩
  obtain rfl : key = own := hvalid.prefixes.eq_of_key hkey hown
    (congrArg some hstem) (congrArg some hsame.symm)
  exact hne (hrowId.trans hownClient)

theorem sessions_step {move : AdminMove} {session : Nat} (h : move.session ≠ some session) :
    (step db move).sessions session = db.sessions session := by
  have hother (current : Nat) (state : Option AdminSession) (hmove : move.session = some current)
      (db : AdminDb) : (db.setSession current state).sessions session = db.sessions session := by
    have hne : session ≠ current := by
      rintro rfl
      exact h hmove
    exact Function.update_of_ne hne ..
  cases move with
  | create =>
    unfold step
    dsimp only
    split <;> rfl
  | rollback current => exact hother current none rfl db
  | checkRotation | updateClient | updateKeys | commit =>
    unfold step
    dsimp only
    split
    all_goals first | exact hother _ _ rfl _ | rfl

/-- The transaction is a revocation of a client that exists, and has matched its row or found it
revoked. With its second update it has also matched the keys. -/
structure Revokes (db : AdminDb) (session : Nat) (clientId : Uuid) (updated : Bool) : Prop where
  running : ∃ matched revokes, db.sessions session = some (.revoking clientId matched revokes) ∧
    (updated = true → revokes.isSome = true) ∧ (matched = true ∨ Revoked db.store clientId)
  client : ∃ row ∈ db.store.clients, row.client.id = clientId

theorem Keeps.client {clientId : Uuid} (h : Keeps store store')
    (hclient : ∃ row ∈ store.clients, row.client.id = clientId) :
    ∃ row ∈ store'.clients, row.client.id = clientId := by
  obtain ⟨row, hrow, hid⟩ := hclient
  obtain ⟨row', hrow', hsame, -⟩ := h.rows row hrow
  exact ⟨row', hrow', hsame ▸ hid⟩

theorem revokes_updateClient {session : Nat} {clientId : Uuid} (hfree : db.sessions session = none)
    (hclient : ∃ row ∈ db.store.clients, row.client.id = clientId) :
    Revokes (step db (.updateClient session clientId)) session clientId false := by
  have hstep : step db (.updateClient session clientId) = db.setSession session
      (some (.revoking clientId (db.store.hasActiveClient clientId) none)) := if_pos hfree
  rw [hstep]
  refine ⟨⟨_, none, Function.update_self .., nofun, ?_⟩, hclient⟩
  obtain ⟨row, hrow, hid⟩ := hclient
  cases hstatus : row.status with
  | active => exact .inl (KeyStore.hasActiveClient_iff.mpr ⟨row, hrow, hid, hstatus⟩)
  | revoked => exact .inr ⟨row, hrow, hid, hstatus⟩

theorem Revokes.updateKeys {session : Nat} {clientId : Uuid} {updated : Bool}
    (h : Revokes db session clientId updated) :
    Revokes (step db (.updateKeys session)) session clientId true := by
  obtain ⟨⟨matched, revokes, hsession, -, hmatched⟩, hclient⟩ := h
  cases revokes with
  | none =>
    have hstep : step db (.updateKeys session) = db.setSession session
        (some (.revoking clientId matched (some (db.store.activeKeys clientId)))) := by
      simp only [step, hsession]
    rw [hstep]
    exact ⟨⟨matched, _, Function.update_self .., fun _ => rfl, hmatched⟩, hclient⟩
  | some revokes =>
    have hstep : step db (.updateKeys session) = db := by
      simp only [step, hsession]
    rw [hstep]
    exact ⟨⟨matched, _, hsession, fun _ => rfl, hmatched⟩, hclient⟩

/-- The transaction goes on until it is committed or rolled back. -/
theorem Revokes.step {session : Nat} {clientId : Uuid} {updated : Bool} {move : AdminMove}
    (h : Revokes db session clientId updated) (hcommit : move ≠ .commit session)
    (hrollback : move ≠ .rollback session) :
    Revokes (step db move) session clientId updated := by
  by_cases hkeys : move = .updateKeys session
  · subst hkeys
    obtain ⟨⟨matched, revokes, hsession, hupdated, hmatched⟩, hclient⟩ := h.updateKeys
    exact ⟨⟨matched, revokes, hsession, fun _ => hupdated rfl, hmatched⟩, hclient⟩
  · obtain ⟨⟨matched, revokes, hsession, hupdated, hmatched⟩, hclient⟩ := h
    have hkeeps := keeps_step db move
    refine ⟨⟨matched, revokes, ?_, hupdated, hmatched.imp_right hkeeps.revoked⟩,
      hkeeps.client hclient⟩
    by_cases hsame : move.session = some session
    · -- What begins a transaction does nothing on a connection that is in one.
      have hbusy : ¬ db.sessions session = none := by
        rw [hsession]
        nofun
      cases move with
      | create => cases hsame
      | checkRotation current =>
        obtain rfl : current = session := Option.some.inj hsame
        rw [AdminDb.step, if_neg (fun h => hbusy h.1), hsession]
      | updateClient current =>
        obtain rfl : current = session := Option.some.inj hsame
        rw [AdminDb.step, if_neg hbusy, hsession]
      | updateKeys current => exact absurd (congrArg _ (Option.some.inj hsame)) hkeys
      | commit current => exact absurd (congrArg _ (Option.some.inj hsame)) hcommit
      | rollback current => exact absurd (congrArg _ (Option.some.inj hsame)) hrollback
    · rw [sessions_step hsame, hsession]

theorem Revokes.after {session : Nat} {clientId : Uuid} {updated : Bool} {moves : List AdminMove}
    (h : Revokes db session clientId updated)
    (hmoves : ∀ move ∈ moves, move ≠ .commit session ∧ move ≠ .rollback session) :
    Revokes (Run.after AdminDb.step db moves) session clientId updated := by
  induction moves generalizing db with
  | nil => exact h
  | cons move moves ih =>
    obtain ⟨hmove, hmoves⟩ := List.forall_mem_cons.mp hmoves
    exact ih (h.step hmove.1 hmove.2) hmoves

/-- The commit leaves the client revoked. -/
theorem Revokes.commit {session : Nat} {clientId : Uuid} (h : Revokes db session clientId true) :
    Revoked (AdminDb.step db (.commit session)).store clientId := by
  obtain ⟨⟨matched, revokes, hsession, hupdated, hmatched⟩, row, hrow, hid⟩ := h
  obtain ⟨ids, rfl⟩ := Option.isSome_iff_exists.mp (hupdated rfl)
  have hstep : (AdminDb.step db (.commit session)).store =
      (if matched then db.store.revokeRow clientId else db.store).revokeKeys ids := by
    simp only [AdminDb.step, hsession, setSession, committed]
  rw [hstep]
  refine (keeps_revokeKeys _ ids).revoked ?_
  obtain rfl | hrevoked := hmatched
  · refine ⟨_, Table.mem_update.mpr ⟨row, hrow, rfl⟩, ?_, ?_⟩
    · split <;> exact hid
    · cases hstatus : row.status with
      | active => rw [if_pos (decide_eq_true ⟨hid, rfl⟩)]
      | revoked => rw [if_neg (by simp), hstatus]
  · split
    · exact (keeps_revokeRow _ clientId).revoked hrevoked
    · exact hrevoked

/-- After the commit of a revocation the client is revoked, whatever runs besides it and after it. -/
theorem revoked_after {session : Nat} {clientId : Uuid} {moves between : List AdminMove}
    (hclient : ∃ row ∈ (after moves).store.clients, row.client.id = clientId)
    (hfree : (after moves).sessions session = none)
    (hrunning : ∀ move ∈ between, move ≠ .commit session ∧ move ≠ .rollback session)
    (hkeys : .updateKeys session ∈ between) (more : List AdminMove) :
    Revoked (after (moves ++ .updateClient session clientId :: between ++
      .commit session :: more)).store clientId := by
  obtain ⟨first, last, rfl⟩ := List.append_of_mem hkeys
  have hfirst : Revokes (Run.after step (step (after moves) (.updateClient session clientId)) first)
      session clientId false :=
    (revokes_updateClient hfree hclient).after fun move hmove =>
      hrunning move (List.mem_append_left _ hmove)
  have hlast := hfirst.updateKeys.after fun move hmove =>
    hrunning move (List.mem_append_right _ (List.mem_cons_of_mem _ hmove))
  have hrevoked := (keeps_after _ more).revoked hlast.commit
  simpa only [after, Run.after, List.foldl_append, List.foldl_cons] using hrevoked

end AdminDb

/-- The life cycle of the keys. After every sequence of calls that issue fresh generated keys, a
request is authenticated as a client exactly if its headers carry the key that was issued last to the
client, the client is of the environment of the process, and it is not revoked. A generated key is
accepted by the parser of its environment and rejected by the other. And after the commit of a
revocation, with whatever statements of other transactions before, between and after those of the
revocation, no request is authenticated as the client or under the prefix of one of its keys. -/
theorem api_key_life_cycle [MacPrimitives] (auth : ApiKeyAuthenticator) :
    (∀ calls headers, KeyRun.Issues auth.pepper calls →
      KeyRun.Distinguishes auth.pepper (Registry.after calls) headers →
      ∀ id, (∃ authenticated,
          auth.authenticate (KeyRun.after calls).store headers = .ok authenticated ∧
            authenticated.client.id = id) ↔
        ∃ life, Registry.after calls id = some life ∧ life.environment = auth.environment ∧
          life.revoked = false ∧ Presents headers life.key.raw) ∧
    (∀ environment pepper publicId secret key,
      GeneratedApiKey.generate environment pepper publicId secret = .ok key →
      ∀ other, parseApiKey key.raw other =
        if other = environment then .ok key.keyPrefix else .error .invalid) ∧
    ∀ moves between more session clientId,
      (∃ row ∈ (AdminDb.after moves).store.clients, row.client.id = clientId) →
      (AdminDb.after moves).sessions session = none →
      (∀ move ∈ between, move ≠ AdminMove.commit session ∧ move ≠ .rollback session) →
      .updateKeys session ∈ between →
      ∀ headers authenticated,
        let store := (AdminDb.after (moves ++ .updateClient session clientId :: between ++
          .commit session :: more)).store
        auth.authenticate store headers = .ok authenticated →
          authenticated.client.id ≠ clientId ∧
            ∀ key ∈ store.keys, key.clientId = clientId → authenticated.keyPrefix ≠ key.keyPrefix := by
  refine ⟨fun calls headers hcalls hmac id => ?_, fun environment pepper publicId secret key hkey => ?_,
    fun moves between more session clientId hclient hfree hrunning hkeys headers authenticated => ?_⟩
  · obtain ⟨hrun, hregistry⟩ := KeyRun.refines_after hcalls
    rw [← hregistry] at hmac ⊢
    exact hrun.authenticate_iff hmac id
  · exact (GeneratedApiKey.generate_ok hkey).parseApiKey
  · exact (AdminDb.revoked_after hclient hfree hrunning hkeys more).authenticate
      (AdminDb.valid_after _)

end X402Facilitator
