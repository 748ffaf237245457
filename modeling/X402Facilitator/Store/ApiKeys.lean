import X402Facilitator.Store.Schema

/-!
# Clients and their API keys

The tables `api_clients` and `api_keys`, and the administrative transactions on them. A key belongs to
a client; both have a status, and a lookup needs both to be active. Rotation reads the status of the
client without a lock, then revokes the keys of the client and inserts the new one. The columns that
only record times are left out.
-/

namespace X402Facilitator

inductive ApiStatus where
  | active
  | revoked
deriving DecidableEq, Repr

/-- An `ApiClient` with all of its columns; settlement reads the id and the budget. -/
structure ApiClientAccount where
  id : Uuid
  name : String
  environment : String
  dailyBudgetYoctoNear : Nat
  verifyRatePerMinute : UInt32
  settleRatePerMinute : UInt32
deriving DecidableEq

/-- A row of `api_clients`. -/
structure ApiClientRow where
  client : ApiClientAccount
  status : ApiStatus
deriving DecidableEq

/-- A row of `api_keys`. -/
structure ApiKeyRow where
  id : Uuid
  clientId : Uuid
  keyPrefix : String
  keyDigest : Hash32
  status : ApiStatus
deriving DecidableEq

structure KeyStore where
  clients : List ApiClientRow
  keys : List ApiKeyRow
deriving DecidableEq

/-- How the transactions of this module fail. -/
inductive KeyStoreError where
  | uniqueViolation (index : String)
  | checkViolation (table : String)
  | foreignKeyViolation (table : String)
  | corrupt (message : String)
  | configuration (message : String)
deriving DecidableEq, Repr

structure ApiKeyCandidate where
  client : ApiClientAccount
  digest : Hash32

/-- The CHECKs of `api_clients`. -/
def ApiClientAccount.valid (client : ApiClientAccount) : Bool :=
  client.environment ∈ ["mainnet", "testnet"] ∧ client.dailyBudgetYoctoNear < 10 ^ 40 ∧
    0 < client.verifyRatePerMinute ∧ 0 < client.settleRatePerMinute

namespace KeyStore

def empty : KeyStore := ⟨[], []⟩

def insertApiKey (self : KeyStore) (keyId clientId : Uuid) (keyPrefix : String)
    (keyDigest : Hash32) : Except KeyStoreError KeyStore :=
  if self.keys.any (·.id = keyId) then .error (.uniqueViolation "api_keys_pkey")
  else if self.keys.any (·.keyPrefix = keyPrefix) then
    .error (.uniqueViolation "api_keys_key_prefix_key")
  else if ¬ self.clients.any (·.client.id = clientId) then .error (.foreignKeyViolation "api_keys")
  else .ok { self with keys := self.keys ++ [⟨keyId, clientId, keyPrefix, keyDigest, .active⟩] }

def createClient (self : KeyStore) (client : ApiClientAccount) (keyId : Uuid) (keyPrefix : String)
    (keyDigest : Hash32) : Except KeyStoreError KeyStore :=
  if 2 ^ 31 ≤ client.verifyRatePerMinute.toNat then
    .error (.configuration "verify rate is too large")
  else if 2 ^ 31 ≤ client.settleRatePerMinute.toNat then
    .error (.configuration "settle rate is too large")
  else if ¬ client.valid then .error (.checkViolation "api_clients")
  else if self.clients.any (·.client.id = client.id) then
    .error (.uniqueViolation "api_clients_pkey")
  else
    insertApiKey { self with clients := self.clients ++ [⟨client, .active⟩] } keyId client.id
      keyPrefix keyDigest

/-- `SELECT EXISTS(SELECT 1 FROM api_clients WHERE id = $1 AND status = 'active')`. -/
def hasActiveClient (self : KeyStore) (clientId : Uuid) : Bool :=
  self.clients.any fun row => row.client.id = clientId ∧ row.status = .active

/-- The active keys of a client, which both rotation and revocation update. -/
def activeKeys (self : KeyStore) (clientId : Uuid) : List Uuid :=
  (self.keys.filter fun key => key.clientId = clientId ∧ key.status = .active).map ApiKeyRow.id

/-- `UPDATE api_keys SET status = 'revoked'` on these rows. -/
def revokeKeys (self : KeyStore) (ids : List Uuid) : KeyStore :=
  { self with
    keys := Table.update (fun key => decide (key.id ∈ ids)) ({ · with status := .revoked }) self.keys }

/-- `UPDATE api_clients SET status = 'revoked' WHERE id = $1 AND status = 'active'`. -/
def revokeRow (self : KeyStore) (clientId : Uuid) : KeyStore :=
  { self with
    clients := Table.update (fun row => decide (row.client.id = clientId ∧ row.status = .active))
      ({ · with status := .revoked }) self.clients }

def rotateClientKey (self : KeyStore) (clientId keyId : Uuid) (keyPrefix : String)
    (keyDigest : Hash32) : Except KeyStoreError KeyStore :=
  if ¬ self.hasActiveClient clientId then .error (.corrupt "active client not found")
  else (self.revokeKeys (self.activeKeys clientId)).insertApiKey keyId clientId keyPrefix keyDigest

/-- Whether the client was active, and the tables after the transaction. -/
def revokeClient (self : KeyStore) (clientId : Uuid) : Bool × KeyStore :=
  (self.hasActiveClient clientId,
    (self.revokeRow clientId).revokeKeys (self.activeKeys clientId))

def lookupApiKey (self : KeyStore) (keyPrefix : String) : Option ApiKeyCandidate :=
  self.keys.findSome? fun key =>
    if key.keyPrefix = keyPrefix ∧ key.status = .active then
      (self.clients.find? fun row => row.client.id = key.clientId ∧ row.status = .active).map
        fun row => ⟨row.client, key.keyDigest⟩
    else none

/-! ## The indexes -/

/-- The unique indexes, which every transaction keeps. -/
structure Valid (store : KeyStore) : Prop where
  clientIds : Table.UniqueOn (fun row : ApiClientRow => some row.client.id) store.clients
  keyIds : Table.UniqueOn (fun key : ApiKeyRow => some key.id) store.keys
  prefixes : Table.UniqueOn (fun key : ApiKeyRow => some key.keyPrefix) store.keys

variable {store store' : KeyStore} {client : ApiClientAccount} {clientId keyId : Uuid}
  {keyPrefix : String} {keyDigest : Hash32}

theorem valid_empty : empty.Valid := ⟨.nil, .nil, .nil⟩

theorem insertApiKey_ok
    (h : store.insertApiKey keyId clientId keyPrefix keyDigest = .ok store') :
    (∀ key ∈ store.keys, key.id ≠ keyId ∧ key.keyPrefix ≠ keyPrefix) ∧
      (∃ row ∈ store.clients, row.client.id = clientId) ∧
      store' = { store with
        keys := store.keys ++ [⟨keyId, clientId, keyPrefix, keyDigest, .active⟩] } := by
  obtain ⟨hid, h⟩ := Except.of_ite_error h
  obtain ⟨hstem, h⟩ := Except.of_ite_error h
  obtain ⟨hclient, h⟩ := Except.of_ite_error h
  simp only [List.any_eq_true, decide_eq_true_eq, not_exists, not_and] at hid hstem
  obtain ⟨row, hrow, hrowId⟩ := List.any_eq_true.mp (not_not.mp hclient)
  exact ⟨fun key hkey => ⟨hid key hkey, hstem key hkey⟩,
    ⟨row, hrow, decide_eq_true_eq.mp hrowId⟩, (Except.ok.inj h).symm⟩

theorem createClient_ok
    (h : store.createClient client keyId keyPrefix keyDigest = .ok store') :
    (client.verifyRatePerMinute.toNat < 2 ^ 31 ∧ client.settleRatePerMinute.toNat < 2 ^ 31) ∧
      client.valid = true ∧ (∀ row ∈ store.clients, row.client.id ≠ client.id) ∧
      (∀ key ∈ store.keys, key.id ≠ keyId ∧ key.keyPrefix ≠ keyPrefix) ∧
      store' = ⟨store.clients ++ [⟨client, .active⟩],
        store.keys ++ [⟨keyId, client.id, keyPrefix, keyDigest, .active⟩]⟩ := by
  obtain ⟨hverify, h⟩ := Except.of_ite_error h
  obtain ⟨hsettle, h⟩ := Except.of_ite_error h
  obtain ⟨hvalid, h⟩ := Except.of_ite_error h
  obtain ⟨hfresh, h⟩ := Except.of_ite_error h
  obtain ⟨hkeys, -, rfl⟩ := insertApiKey_ok h
  simp only [List.any_eq_true, decide_eq_true_eq, not_exists, not_and] at hfresh
  exact ⟨⟨Nat.not_le.mp hverify, Nat.not_le.mp hsettle⟩, not_not.mp hvalid, hfresh, hkeys, rfl⟩

theorem hasActiveClient_iff :
    store.hasActiveClient clientId = true ↔
      ∃ row ∈ store.clients, row.client.id = clientId ∧ row.status = .active := by
  simp [hasActiveClient]

theorem mem_activeKeys {id : Uuid} :
    id ∈ store.activeKeys clientId ↔
      ∃ key ∈ store.keys, key.clientId = clientId ∧ key.status = .active ∧ key.id = id := by
  simp [activeKeys, and_assoc]

theorem mem_keys_revokeKeys {ids : List Uuid} {key : ApiKeyRow} :
    key ∈ (store.revokeKeys ids).keys ↔
      (key ∈ store.keys ∧ key.id ∉ ids) ∨
        ∃ old ∈ store.keys, old.id ∈ ids ∧ key = { old with status := .revoked } := by
  simp only [revokeKeys, Table.mem_update, decide_eq_true_eq]
  constructor
  · rintro ⟨old, hold, rfl⟩
    split
    · exact .inr ⟨old, hold, ‹_›, rfl⟩
    · exact .inl ⟨hold, ‹_›⟩
  · rintro (⟨hkey, hids⟩ | ⟨old, hold, hids, rfl⟩)
    · exact ⟨key, hkey, (if_neg hids).symm⟩
    · exact ⟨old, hold, (if_pos hids).symm⟩

theorem rotateClientKey_ok
    (h : store.rotateClientKey clientId keyId keyPrefix keyDigest = .ok store') :
    (∃ row ∈ store.clients, row.client.id = clientId ∧ row.status = .active) ∧
      (store.revokeKeys (store.activeKeys clientId)).insertApiKey keyId clientId keyPrefix
        keyDigest = .ok store' := by
  obtain ⟨hactive, h⟩ := Except.of_ite_error h
  exact ⟨hasActiveClient_iff.mp (not_not.mp hactive), h⟩

namespace Valid

theorem insertApiKey (hstore : store.Valid)
    (h : store.insertApiKey keyId clientId keyPrefix keyDigest = .ok store') : store'.Valid := by
  obtain ⟨hfresh, -, rfl⟩ := insertApiKey_ok h
  refine ⟨hstore.clientIds, hstore.keyIds.concat ?_, hstore.prefixes.concat ?_⟩
  · rintro key hkey _ ⟨⟩ hid
    exact (hfresh key hkey).1 (Option.some.inj hid).symm
  · rintro key hkey _ ⟨⟩ hid
    exact (hfresh key hkey).2 (Option.some.inj hid).symm

theorem revokeKeys (hstore : store.Valid) (ids : List Uuid) : (store.revokeKeys ids).Valid := by
  refine ⟨hstore.clientIds, ?_, ?_⟩
  · refine List.pairwise_map.mpr (hstore.keyIds.imp fun {a b} hab => ?_)
    split <;> split <;> exact hab
  · refine List.pairwise_map.mpr (hstore.prefixes.imp fun {a b} hab => ?_)
    split <;> split <;> exact hab

theorem revokeRow (hstore : store.Valid) (id : Uuid) : (store.revokeRow id).Valid := by
  refine ⟨List.pairwise_map.mpr (hstore.clientIds.imp fun {a b} hab => ?_), hstore.keyIds,
    hstore.prefixes⟩
  split <;> split <;> exact hab

theorem createClient (hstore : store.Valid)
    (h : store.createClient client keyId keyPrefix keyDigest = .ok store') : store'.Valid := by
  obtain ⟨-, -, hclients, hkeys, rfl⟩ := createClient_ok h
  refine ⟨hstore.clientIds.concat ?_, hstore.keyIds.concat ?_, hstore.prefixes.concat ?_⟩
  · rintro row hrow _ ⟨⟩ hid
    exact hclients row hrow (Option.some.inj hid).symm
  · rintro key hkey _ ⟨⟩ hid
    exact (hkeys key hkey).1 (Option.some.inj hid).symm
  · rintro key hkey _ ⟨⟩ hid
    exact (hkeys key hkey).2 (Option.some.inj hid).symm

/-- The lookup finds the active key under the prefix, with the active client that it belongs to. -/
theorem lookupApiKey_eq_some (hstore : store.Valid) {candidate : ApiKeyCandidate} :
    store.lookupApiKey keyPrefix = some candidate ↔
      ∃ key ∈ store.keys, key.keyPrefix = keyPrefix ∧ key.status = .active ∧
        ∃ row ∈ store.clients, row.client.id = key.clientId ∧ row.status = .active ∧
          candidate = ⟨row.client, key.keyDigest⟩ := by
  constructor
  · intro h
    obtain ⟨key, hkey, hfound⟩ := List.exists_of_findSome?_eq_some h
    split at hfound
    · rename_i hactive
      obtain ⟨row, hrow, rfl⟩ := Option.map_eq_some_iff.mp hfound
      have hrowActive := List.find?_some hrow
      rw [decide_eq_true_eq] at hrowActive
      exact ⟨key, hkey, hactive.1, hactive.2, row, List.mem_of_find?_eq_some hrow, hrowActive.1,
        hrowActive.2, rfl⟩
    · cases hfound
  · rintro ⟨key, hkey, rfl, hactive, row, hrow, hid, hrowActive, rfl⟩
    -- The prefix is unique, and so is the id of the client.
    have hrows : store.clients.find? (fun row => row.client.id = key.clientId ∧
        row.status = .active) = some row := by
      cases hfind : store.clients.find? (fun row => decide (row.client.id = key.clientId ∧
          row.status = .active)) with
      | none =>
        have hnot := List.find?_eq_none.mp hfind row hrow
        exact absurd (decide_eq_true ⟨hid, hrowActive⟩) hnot
      | some other =>
        have hother := List.find?_some hfind
        rw [decide_eq_true_eq] at hother
        rw [hstore.clientIds.eq_of_key (List.mem_of_find?_eq_some hfind) hrow
          (congrArg some hother.1) (congrArg some hid)]
    cases hfind : store.lookupApiKey key.keyPrefix with
    | none =>
      have hnone := List.findSome?_eq_none_iff.mp hfind key hkey
      rw [if_pos ⟨rfl, hactive⟩, hrows] at hnone
      cases hnone
    | some found =>
      obtain ⟨other, hother, hfound⟩ := List.exists_of_findSome?_eq_some hfind
      split at hfound
      · rename_i hotherActive
        obtain rfl : other = key := hstore.prefixes.eq_of_key hother hkey
          (congrArg some hotherActive.1) rfl
        rw [hrows] at hfound
        exact congrArg some (Option.some.inj hfound).symm
      · cases hfound

end Valid

end KeyStore

end X402Facilitator
