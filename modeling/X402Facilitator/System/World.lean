import X402Facilitator.Lib.Concurrent
import X402Facilitator.Lib.Run
import X402Facilitator.Service.Process

/-!
# The whole system

Any number of processes of the service share one database. A move of the system starts a process,
crashes one, lets a request arrive, drops a cancellable task, or lets one task of one process issue
its next operation. The environment of a step answers outside calls and decides what becomes of a
statement on the database: it is answered, it commits and the answer is lost, or it fails.

Leadership is not assumed to be exclusive: the answer to the advisory lock is the environment's.
-/

namespace X402Facilitator

open Program

/-! ## Processes and threads -/

/-- What becomes of one statement. -/
inductive Fate where
  | replied
  | replyLost
  | failed
deriving DecidableEq

/-- What the outside of the system does in one step. -/
structure Env where
  answer : (query : Query) → query.Answer
  fate : Fate
  now : Nat

def Fate.reply (fate : Fate) (op : StoreOp) (now : Nat) (db : Db) : Except StoreError op.Reply :=
  match fate with
  | replied => (op.exec now db).1
  | replyLost | failed => .error (.database .unavailable)

def Fate.commit (fate : Fate) (op : StoreOp) (now : Nat) (db : Db) : Db :=
  match fate with
  | replied | replyLost => (op.exec now db).2
  | failed => db

def ReadinessSnapshot.get (gates : ReadinessSnapshot) : Gate → Bool
  | .leadership => gates.leadership
  | .reconciliation => gates.reconciliation
  | .rpc => gates.rpc
  | .relayer => gates.relayer

def ReadinessSnapshot.set (gates : ReadinessSnapshot) (gate : Gate) (ready : Bool) :
    ReadinessSnapshot :=
  match gate with
  | .leadership => { gates with leadership := ready }
  | .reconciliation => { gates with reconciliation := ready }
  | .rpc => { gates with rpc := ready }
  | .relayer => { gates with relayer := ready }

/-- Tasks that are dropped on a deadline or at shutdown. Workers and the leadership task are not. -/
def ServiceTask.cancellable : ServiceTask → Bool
  | settle _ | reconciliation _ | readinessMonitor _ => true
  | startup _ | leadership _ | settlementWorker .. | reconcileCommand _ => false

section
variable [NearPrimitives] [EvmPrimitives]

structure Process where
  state : AppState
  gates : ReadinessSnapshot
  /-- The thread that holds the relayer lock. -/
  holder : Option Nat
  alive : Bool
  /-- Whether the process serves requests; the admin binary does not. -/
  serves : Bool

def Process.start (state : AppState) (serves : Bool) : Process where
  state := state
  gates := ⟨false, false, false, false⟩
  holder := none
  alive := true
  serves := serves

def Process.release (tid : Nat) (p : Process) : Process :=
  if p.holder = some tid then { p with holder := none } else p

/-- What a thread runs, and where. -/
structure Role where
  process : Nat
  state : AppState
  task : ServiceTask

abbrev Thread := Program.Thread Op.Answer Role

def Role.thread (role : Role) : Thread := Thread.start role (role.task.program role.state)

/-- `AppState::new` after the configuration is validated and the provider is built. -/
def AppState.new? (config : ServiceConfig) (relayerKey : Bytes) : Option AppState :=
  if validated : config.validate = .ok () then
    match built : buildChainProvider config relayerKey with
    | .ok provider => some ⟨config, relayerKey, provider, validated, built⟩
    | .error _ => none
  else none

/-- An operation that was issued, with the thread and the process that issued it. -/
structure LogEntry where
  thread : Nat
  process : Nat
  event : Event Op.Answer

structure World where
  db : Db
  /-- Every process ever started, in order; a crashed one stays in place. -/
  processes : List Process
  /-- Every thread ever started, in order; a finished one stays in place. -/
  threads : List Thread
  /-- What was done, newest first. -/
  log : List LogEntry

def World.init : World := ⟨Db.empty, [], [], []⟩

inductive Move where
  /-- The admin binary adds a client. -/
  | createClient (id : Uuid)
  | start (config : ServiceConfig) (relayerKey : Bytes) (command : Bool) (fuel : Nat)
  | crash (process : Nat)
  | request (process : Nat) (fuel : Nat)
  | cancel (thread : Nat)
  | step (thread : Nat) (env : Env)

/-! ## Steps -/

/-- The answer to an operation. -/
def Op.answer (env : Env) (db : Db) (gates : ReadinessSnapshot) : (o : Op) → o.Answer
  | store op => env.fate.reply op env.now db
  | loadGate gate => gates.get gate
  | ask query => env.answer query
  | storeGate .. | lockRelayer | unlockRelayer | spawn _ | respond _ => ()

/-- The database after an operation. -/
def Op.commit (env : Env) (db : Db) : Op → Db
  | store op => env.fate.commit op env.now db
  | _ => db

/-- The process after an operation of its thread `tid`. -/
def Process.after (tid : Nat) (p : Process) : Op → Process
  | .storeGate gate ready => { p with gates := p.gates.set gate ready }
  | .lockRelayer => { p with holder := some tid }
  | .unlockRelayer => p.release tid
  | _ => p

/-- The threads an operation starts. -/
def Role.spawned (role : Role) : Op → List Thread
  | .spawn task => [Role.thread ⟨role.process, role.state, task⟩]
  | _ => []

/-- Whether the process can carry the operation out now. The lock is waited for. -/
def Process.permits (p : Process) : Op → Bool
  | .lockRelayer => p.alive && p.holder.isNone
  | _ => p.alive

namespace World

/-- One operation of the thread `tid`. -/
def perform (w : World) (tid : Nat) (t : Thread) (p : Process) (env : Env) (o : Op)
    (next : o.Answer → Service Unit) : World :=
  let answer := o.answer env w.db p.gates
  { db := o.commit env w.db
    processes := w.processes.set t.role.process (p.after tid o)
    threads := w.threads.set tid (t.resume o next answer) ++ t.role.spawned o
    log := ⟨tid, t.role.process, o, answer⟩ :: w.log }

def advance (w : World) (tid : Nat) (env : Env) : World :=
  match w.threads[tid]? with
  | none => w
  | some t =>
    match w.processes[t.role.process]?, t.program with
    | some p, .call o next => if p.permits o then w.perform tid t p env o next else w
    | _, _ => w

/-- Start a thread in the process `pid`. -/
def launch (w : World) (role : Role) : World :=
  { w with threads := w.threads ++ [role.thread] }

def startProcess (w : World) (state : AppState) (command : Bool) (fuel : Nat) : World :=
  { w with processes := w.processes ++ [Process.start state (!command)] }.launch
    ⟨w.processes.length, state, if command then .reconcileCommand fuel else .startup fuel⟩

def step (w : World) : Move → World
  | .createClient id => { w with db := ((StoreOp.createClient id).exec 0 w.db).2 }
  | .start config relayerKey command fuel =>
    match AppState.new? config relayerKey with
    | some state => w.startProcess state command fuel
    | none => w
  | .crash pid =>
    match w.processes[pid]? with
    | some p => { w with processes := w.processes.set pid { p with alive := false } }
    | none => w
  | .request pid fuel =>
    match w.processes[pid]? with
    | some p => if p.alive && p.serves then w.launch ⟨pid, p.state, .settle fuel⟩ else w
    | none => w
  | .cancel tid =>
    match w.threads[tid]? with
    | none => w
    | some t =>
      match w.processes[t.role.process]? with
      | none => w
      | some p =>
        if t.role.task.cancellable then
          { w with
            threads := w.threads.set tid t.stop
            processes := w.processes.set t.role.process (p.release tid) }
        else w
  | .step tid env => w.advance tid env

/-- The system after a run. -/
def after (moves : List Move) : World := Run.after step init moves

/-- Every move of the run meets the condition, in the state in which it is made. -/
def Always (P : World → Move → Prop) (moves : List Move) : Prop := Run.Always step P init moves

instance (P : World → Move → Prop) [∀ w m, Decidable (P w m)] (moves : List Move) :
    Decidable (Always P moves) :=
  inferInstanceAs (Decidable (Run.Always step P init moves))

end World

end

/-! ## Sample deployments

A NEAR service on the test network and an EVM service on Base Sepolia, each with one client and one
payment, for runs on concrete input. What third parties compute is replaced by small functions that
obey the same laws: on NEAR text is unary, an encoded transaction is its nonce, a hash is a byte of
its domain, and every signature verifies; on EVM text is lower-case hexadecimal, a word is 64
characters long, and a signature is the secret key. -/

namespace Sample

/-! ### NEAR -/

def unary (n : Nat) : String := String.ofList (List.replicate n 'x')

def relayer : AccountId := ⟨"relayer.testnet", by decide⟩

def alice : AccountId := ⟨"alice.testnet", by decide⟩

def shop : AccountId := ⟨"shop.testnet", by decide⟩

def usdc : AccountId := ⟨nearTestnetUsdc, by decide⟩

def signedDelegate : SignedDelegateAction where
  senderId := alice
  receiverId := usdc
  publicKey := "ed25519:alice"
  nonce := 3
  maxBlockHeight := 200
  actions := [.functionCall ⟨"ft_transfer", [2], 30000000000000, 1⟩]
  signature := []

/-- The outer transaction of the payment. -/
def outer (nonce : Nat) : SignedTransaction where
  signature := []
  transaction := {
    version := .v0
    signerId := relayer
    publicKey := "ed25519:relayer"
    nonce := nonce
    receiverId := alice
    blockHash := 5
    actions := [.delegate signedDelegate]
    rest := [] }

@[reducible]
def nearPrimitives : NearPrimitives where
  borsh signed :=
    if signed = outer signed.transaction.nonce ∧ signed.transaction.nonce < 256 then
      [UInt8.ofNat signed.transaction.nonce]
    else []
  tryFromSlice
    | [nonce] => some (outer nonce.toNat)
    | _ => none
  borsh_of_tryFromSlice h := by
    split at h
    · rename_i nonce
      obtain rfl := Option.some.inj h
      simpa [outer] using nonce.toNat_lt
    · cases h
  eq_of_tryFromSlice_borsh {signed decoded} h := by
    split_ifs at h with hsigned
    · obtain ⟨houter, hlt⟩ := hsigned
      have hnonce : (UInt8.ofNat signed.transaction.nonce).toNat = signed.transaction.nonce := by
        simpa using hlt
      rw [← Option.some.inj h, hnonce, ← houter]
  transactionHash transaction := BitVec.ofNat 256 transaction.nonce
  publicKeyOf _ := "ed25519:relayer"
  sign _ _ := []
  verifySignature _ _ _ := true
  verifyDelegate _ := true
  sha256 bytes := BitVec.ofNat 256 ((bytes.drop 10).headD 0).toNat
  decodeBase64 text := if text = "delegate" then some [1] else none
  delegateFromSlice bytes := if bytes = [1] then some signedDelegate else none
  borshDelegate signed := if signed = signedDelegate then some [1] else none
  borshDelegate_of_delegateFromSlice h := by
    split_ifs at h with hbytes
    obtain rfl := Option.some.inj h
    simp [hbytes]
  u64_of_delegateFromSlice h := by
    split_ifs at h
    obtain rfl := Option.some.inj h
    decide
  curvesMatch _ := true
  ftTransferArgs bytes := if bytes = [2] then some ("shop.testnet", "1000") else none
  hashText hash := unary hash.toNat
  parseHash text := some (BitVec.ofNat 256 text.toList.length)
  parseHash_hashText hash := by simp [unary]

def number (n : Nat) : Json := .number (.posInt n)

def requirements : Json := .object [
  ("amount", .string "1000"), ("asset", .string nearTestnetUsdc), ("maxTimeoutSeconds", number 300),
  ("network", .string "near:testnet"), ("payTo", .string "shop.testnet"),
  ("scheme", .string "exact")]

/-- A v2 request with these requirements and this mechanism payload. -/
def requestOf (requirements payload : Json) : Json := .object [
  ("paymentPayload", .object [("accepted", requirements), ("payload", payload),
    ("x402Version", number 2)]),
  ("paymentRequirements", requirements), ("x402Version", number 2)]

def request : Json :=
  requestOf requirements (.object [("signedDelegateAction", .string "delegate")])

def config : ServiceConfig where
  environment := .testnet
  chainKind := .near
  network := "near:testnet"
  asset := nearTestnetUsdc
  minimumAmount := 1000
  relayerAccountId := "relayer.testnet"
  maxInnerGas := 30000000000000
  globalDailyYoctoNear := 1000
  defaultClientDailyYoctoNear := 1000
  reservationYoctoNear := 10
  balanceWarningYoctoNear := 20
  balanceHardStopYoctoNear := 10
  paymentIdentifier := ⟨false, 16, 128⟩
  acceptV1 := false
  eip155 := none

/-! ### EVM -/

section Hexadecimal

def hexText (width n : Nat) : String := String.ofList ('0' :: 'x' :: hexDigits width n)

def parseHexText (width : Nat) (text : String) : Option Nat :=
  match text.toList with
  | '0' :: 'x' :: digits => if digits.length = width then hexNumber? digits else none
  | _ => none

theorem parseHexText_hexText (width n : Nat) :
    parseHexText width (hexText width n) = some (n % 16 ^ width) := by
  simp [parseHexText, hexText, length_hexDigits, hexNumber?_hexDigits]

theorem asciiLower_of_parseHexText {width n : Nat} {text : String}
    (h : parseHexText width text = some n) : asciiLower text = hexText width n ∧ n < 16 ^ width := by
  unfold parseHexText at h
  split at h
  · rename_i digits htext
    split_ifs at h with hlength
    rw [asciiLower, htext, hexText, ← hlength, ← map_toLower_of_hexNumber? h]
    exact ⟨rfl, lt_of_hexNumber? h⟩
  · cases h

theorem asciiLower_hexText (width n : Nat) : asciiLower (hexText width n) = hexText width n := by
  rw [asciiLower, hexText, String.toList_ofList, List.map_cons, List.map_cons, map_toLower_hexDigits]
  rfl

/-- A 256-bit word, as the bytes of its hexadecimal digits. -/
def word (n : Nat) : Bytes := (hexDigits 64 n).map fun c => UInt8.ofNat c.toNat

/-- The first word of some bytes, and the bytes after it. -/
def takeWord (bytes : Bytes) : Option (Nat × Bytes) :=
  if bytes.length < 64 then none
  else (hexNumber? ((bytes.take 64).map fun b => Char.ofNat b.toNat)).map (·, bytes.drop 64)

theorem char_of_byte_hexDigits (width n : Nat) :
    ((hexDigits width n).map fun c => UInt8.ofNat c.toNat).map (fun b => Char.ofNat b.toNat) =
      hexDigits width n := by
  induction width generalizing n with
  | zero => rfl
  | succ width ih =>
    have hdigit : Char.ofNat (UInt8.ofNat (hexDigit (n % 16)).toNat).toNat = hexDigit (n % 16) := by
      have : n % 16 < 16 := Nat.mod_lt n (by decide)
      generalize n % 16 = d at this
      interval_cases d <;> decide
    simp only [hexDigits, List.map_append, List.map_cons, List.map_nil, hdigit, ih]

theorem takeWord_word {n : Nat} (h : n < 2 ^ 256) (rest : Bytes) :
    takeWord (word n ++ rest) = some (n, rest) := by
  have hlength : (word n).length = 64 := by simp [word, length_hexDigits]
  have hvalue : hexNumber? ((word n).map fun b => Char.ofNat b.toNat) = some n := by
    rw [word, char_of_byte_hexDigits, hexNumber?_hexDigits, Nat.mod_eq_of_lt (by simpa using h)]
  rw [takeWord, if_neg (by simp [hlength]), List.take_append_of_le_length (by simp [hlength]),
    List.drop_append_of_le_length (by simp [hlength])]
  simp [List.take_of_length_le hlength.le, List.drop_of_length_le hlength.le, hvalue]

end Hexadecimal

/-- The calldata of an authorization, under a selector of one byte. -/
def encodeCall (selector : UInt8) (authorization : Erc3009Authorization) (rest : Bytes) : Bytes :=
  selector :: (word authorization.payer.toNat ++ (word authorization.payee.toNat ++
    (word authorization.value ++ (word authorization.validAfter ++
      (word authorization.validBefore ++ (word authorization.nonce.toNat ++ rest))))))

def decodeCall : Bytes → Option (Erc3009Authorization × Bytes)
  | [] => none
  | _ :: bytes => do
    let (payer, bytes) ← takeWord bytes
    let (payee, bytes) ← takeWord bytes
    let (value, bytes) ← takeWord bytes
    let (validAfter, bytes) ← takeWord bytes
    let (validBefore, bytes) ← takeWord bytes
    let (nonce, bytes) ← takeWord bytes
    return (⟨BitVec.ofNat 160 payer, BitVec.ofNat 160 payee, value, validAfter, validBefore,
      BitVec.ofNat 256 nonce⟩, bytes)

theorem selector_encodeCall (selector : UInt8) (authorization : Erc3009Authorization)
    (rest : Bytes) : [selector] <+: encodeCall selector authorization rest := by
  rw [encodeCall]
  exact List.cons_prefix_cons.mpr ⟨rfl, List.nil_prefix⟩

theorem decodeCall_encodeCall {authorization : Erc3009Authorization} (h : authorization.Fits)
    (selector : UInt8) (rest : Bytes) :
    decodeCall (encodeCall selector authorization rest) = some (authorization, rest) := by
  have hpayer : authorization.payer.toNat < 2 ^ 256 := by have := authorization.payer.isLt; omega
  have hpayee : authorization.payee.toNat < 2 ^ 256 := by have := authorization.payee.isLt; omega
  simp only [encodeCall, decodeCall, takeWord_word, hpayer, hpayee, h.1, h.2.1, h.2.2,
    authorization.nonce.isLt, Option.bind_eq_bind, Option.bind_some, BitVec.ofNat_toNat,
    BitVec.setWidth_eq, Option.pure_def]

def usdcAddress : Address := 0x036cbd53842c5426634e7929541ec2318f3dcf7e

/-- The one shape of transaction that is signed here. -/
def baseTransaction (nonce : Nat) (input : Bytes) : TxEip1559 :=
  settlementTransaction 84532 nonce ⟨100000, 10, 1⟩ usdcAddress input

def exactRequirements? (json : Json) : Option ExactRequirements :=
  match json.get? "asset", json.get? "payTo", json.get? "amount", json.get? "extra" with
  | some (.string asset), some (.string payTo), some (.string amount), some extra =>
    match parseHexText 40 asset, parseHexText 40 payTo, decimalValue? amount.toList,
        (extra.get? "name").bind Json.asStr?, (extra.get? "version").bind Json.asStr? with
    | some asset, some payTo, some amount, some name, some version =>
      some ⟨BitVec.ofNat 160 asset, BitVec.ofNat 160 payTo, amount, name, version⟩
    | _, _, _, _, _ => none
  | _, _, _, _ => none

/-- The authorization of a payment payload; times and nonce are fixed. -/
def authorization? (json : Json) : Option Erc3009Authorization :=
  let text (key : String) : Option String := (json.get? key).bind Json.asStr?
  match (text "from").bind (parseHexText 40), (text "to").bind (parseHexText 40),
      (text "value").bind (decimalValue? ·.toList) with
  | some payer, some payee, some value =>
    if value < 2 ^ 256 then
      some ⟨BitVec.ofNat 160 payer, BitVec.ofNat 160 payee, value, 0, 500, 9⟩
    else none
  | _, _, _ => none

def facilitatorRequest (json : Json) : Option FacilitatorVerifyRequest := do
  let payload ← json.get? "paymentPayload"
  let requirements ← (json.get? "paymentRequirements").bind exactRequirements?
  let accepted ← (payload.get? "accepted").bind exactRequirements?
  let authorization ← ((payload.get? "payload").bind (·.get? "authorization")).bind authorization?
  return .eip3009 ⟨accepted, authorization, []⟩ requirements

theorem exactRequirements?_eq_some {json : Json} {requirements : ExactRequirements}
    (h : exactRequirements? json = some requirements) :
    ∃ asset payTo amount, json.get? "asset" = some (.string asset) ∧
      (parseHexText 40 asset).map (BitVec.ofNat 160) = some requirements.asset ∧
      json.get? "payTo" = some (.string payTo) ∧
      (parseHexText 40 payTo).map (BitVec.ofNat 160) = some requirements.payTo ∧
      json.get? "amount" = some (.string amount) ∧
      decimalValue? amount.toList = some requirements.amount := by
  unfold exactRequirements? at h
  split at h
  · rename_i asset payTo amount extra hasset hpayTo hamount _
    split at h
    · rename_i hasset' hpayTo' hamount' _ _
      obtain rfl := Option.some.inj h
      exact ⟨asset, payTo, amount, hasset, by simp [hasset'], hpayTo, by simp [hpayTo'], hamount,
        hamount'⟩
    · cases h
  · cases h

theorem fits_of_authorization? {json : Json} {authorization : Erc3009Authorization}
    (h : authorization? json = some authorization) : authorization.Fits := by
  unfold authorization? at h
  dsimp only at h
  split at h
  · split_ifs at h with hvalue
    obtain rfl := Option.some.inj h
    exact ⟨hvalue, by norm_num, by norm_num⟩
  · cases h

@[reducible]
def evmPrimitives : EvmPrimitives where
  addressText address := hexText 40 address.toNat
  parseAddress text := (parseHexText 40 text).map (BitVec.ofNat 160)
  parseAddress_addressText address := by
    rw [parseHexText_hexText, Nat.mod_eq_of_lt (by simpa using address.isLt)]
    simp
  asciiLower_addressText address := asciiLower_hexText 40 address.toNat
  asciiLower_of_parseAddress {text address} h := by
    obtain ⟨n, hn, rfl⟩ := Option.map_eq_some_iff.mp h
    obtain ⟨hlower, hlt⟩ := asciiLower_of_parseHexText hn
    rw [hlower, BitVec.toNat_ofNat, Nat.mod_eq_of_lt (hlt.trans_le (by norm_num))]
    exact .inl rfl
  b256Text hash := hexText 64 hash.toNat
  parseB256 text := (parseHexText 64 text).map (BitVec.ofNat 256)
  parseB256_b256Text hash := by
    rw [parseHexText_hexText, Nat.mod_eq_of_lt (by simpa using hash.isLt)]
    simp
  parseU256 := parseUnsigned? 256
  parseU256_toString := parseUnsigned?_toString
  facilitatorRequest := facilitatorRequest
  facilitatorRequest_reads {request payload requirements} h := by
    simp only [facilitatorRequest, Option.bind_eq_bind, Option.bind_eq_some_iff, Option.pure_def,
      Option.some.injEq, FacilitatorVerifyRequest.eip3009.injEq] at h
    obtain ⟨_, -, _, ⟨object, hobject, hread⟩, _, -, authorization, ⟨_, -, hauthorization⟩, rfl,
      rfl⟩ := h
    obtain ⟨asset, payTo, amount, hasset, hasset', hpayTo, hpayTo', hamount, hamount'⟩ :=
      exactRequirements?_eq_some hread
    refine ⟨⟨fun text htext => ?_, fun text htext => ?_, fun text n htext hn => ?_⟩,
      fits_of_authorization? hauthorization⟩
    all_goals simp only [hobject, Option.bind_some, hasset, hpayTo, hamount, Option.some.injEq,
      Json.string.injEq] at htext
    · exact htext ▸ hasset'
    · exact htext ▸ hpayTo'
    · subst htext
      exact Option.some.inj (hamount'.symm.trans hn)
  jsonFromSlice _ := none
  addressOf key := BitVec.ofNat 160 (key.headD 0).toNat
  signTransaction key tx :=
    if tx = baseTransaction tx.nonce tx.input ∧ tx.nonce < 256 ∧ key.length < 256 then some ⟨tx, key⟩
    else none
  transactionHash
    | .eip1559 signed => BitVec.ofNat 256 signed.tx.nonce
    | .other _ => 0
  encode2718
    | .eip1559 signed => UInt8.ofNat signed.tx.nonce :: UInt8.ofNat signed.signature.length ::
        (signed.signature ++ signed.tx.input)
    | .other encoded => encoded
  decode2718
    | nonce :: length :: bytes => some (.eip1559 ⟨baseTransaction nonce.toNat
        (bytes.drop length.toNat), bytes.take length.toNat⟩, [])
    | _ => none
  recoverSigner signed := some (BitVec.ofNat 160 (signed.signature.headD 0).toNat)
  recoverSigner_signTransaction {key tx signed} h := by
    split_ifs at h with hshape
    obtain ⟨htx, hnonce, hkey⟩ := hshape
    obtain rfl := Option.some.inj h
    refine ⟨rfl, ?_, rfl⟩
    have hnonce : (UInt8.ofNat tx.nonce).toNat = tx.nonce := by simpa using hnonce
    have hkey : (UInt8.ofNat key.length).toNat = key.length := by simpa using hkey
    simp [hnonce, hkey, ← htx]
  encodeBytesCall := encodeCall 1
  decodeBytesCall := decodeCall
  bytesCallSelector := [1]
  decodeBytesCall_encodeBytesCall signature hfits :=
    ⟨selector_encodeCall .., decodeCall_encodeCall hfits 1 signature⟩
  encodeVrsCall authorization v r s := encodeCall 2 authorization (v :: (word r.toNat ++ word s.toNat))
  decodeVrsCall bytes := do
    let (authorization, rest) ← decodeCall bytes
    match rest with
    | [] => none
    | v :: rest =>
      let (r, rest) ← takeWord rest
      let (s, _) ← takeWord rest
      return (authorization, v, BitVec.ofNat 256 r, BitVec.ofNat 256 s)
  vrsCallSelector := [2]
  decodeVrsCall_encodeVrsCall v r s hfits := by
    refine ⟨selector_encodeCall .., fun h => ?_, ?_⟩
    · simp [encodeCall] at h
    · have hs := takeWord_word s.isLt []
      rw [List.append_nil] at hs
      simp [decodeCall_encodeCall hfits, takeWord_word r.isLt, hs]
  b256Bytes hash := word hash.toNat
  eip712TransferHash authorization _ := BitVec.ofNat 256 authorization.value
  classifySettleableSignature _ _ _ := .ok (.eoa 0 0 0)
  classify_eoa _ := ⟨0, 0, 0, rfl⟩
  classify_eip1271 h := by cases h

/-- The EVM service that signs with the key of this address. -/
def baseConfig (signer : Nat) : ServiceConfig where
  environment := .testnet
  chainKind := .eip155
  network := "eip155:84532"
  asset := hexText 40 usdcAddress.toNat
  minimumAmount := 1000
  relayerAccountId := hexText 40 signer
  maxInnerGas := 0
  globalDailyYoctoNear := 10000000
  defaultClientDailyYoctoNear := 10000000
  reservationYoctoNear := 2000000
  balanceWarningYoctoNear := 20
  balanceHardStopYoctoNear := 10
  paymentIdentifier := ⟨false, 16, 128⟩
  acceptV1 := false
  eip155 := some ⟨84532, 2, 100000, 10⟩

def baseRequirements : Json := .object [
  ("amount", .string "1000"), ("asset", .string (hexText 40 usdcAddress.toNat)),
  ("extra", .object [("name", .string "USDC"), ("version", .string "2")]),
  ("maxTimeoutSeconds", number 300), ("network", .string "eip155:84532"),
  ("payTo", .string (hexText 40 11)), ("scheme", .string "exact")]

/-- A request that carries an authorization of this value from the account 10 to the account 11. -/
def baseRequest (value : String) : Json :=
  requestOf baseRequirements (.object [
    ("authorization", .object [("from", .string (hexText 40 10)), ("nonce", .string (hexText 64 9)),
      ("to", .string (hexText 40 11)), ("validAfter", .string "0"), ("validBefore", .string "500"),
      ("value", .string value)]),
    ("signature", .string "0x01")])

/-! ### Runs -/

/-- The relayer's access key is at nonce 7, the EVM signer at nonce 4, and no RPC node knows any
transaction. -/
def answer : (query : Query) → query.Answer
  | .nearFinalBlock _ => .ok ⟨100, 5⟩
  | .nearAccessKey .. => .ok ⟨7, true⟩
  | .nearAccount .. => .ok 1000
  | .nearNetworkId _ => .ok "testnet"
  | .nearTransaction .. => .ok .unknown
  | .nearSend _ => .ok .pending
  | .nearPayerKey .. => .ok ⟨2, .fullAccess⟩
  | .nearContract .. => .ok true
  | .nearViewCall _ _ method _ => .ok (some (if method = "ft_balance_of" then .string "5000" else .object []))
  | .evmEndpointHead .. => .ok ⟨84532, 100, 4, 10000000⟩
  | .evmBlockHead _ => .ok (84532, 100)
  | .evmReceipt .. | .evmTransaction .. => .ok none
  | .evmFees _ => .ok ⟨10, 1⟩
  | .evmL1Fee .. => .ok 5
  | .evmSend _ => .ok ()
  | .evmVerify .. => .ok (.valid (hexText 40 10))
  | .facilitatorVerify _ => some (.object [("isValid", .bool true)])
  | .authenticate => .ok ⟨7, 10000000⟩
  | .rateCheck _ => true
  | .readBody => .ok (some request)
  | .payeeAllowed .. => .ok true
  | .utcToday => (1 : Nat)
  | .newUuid => (1 : Nat)
  | .leadershipConnect => true
  | .tryAdvisoryLock => .ok true
  | .heartbeat => .alive
  | .shutdownRequested => false

/-- Some steps of a thread under these answers, every statement being replied to. -/
def steps (answer : (query : Query) → query.Answer) (n tid : Nat) : List Move :=
  List.replicate n (.step tid ⟨answer, .replied, 1⟩)

/-- The next step of a thread. -/
def next (tid : Nat) : Move := .step tid ⟨answer, .replied, 1⟩

/-- A process starts, becomes the leader and makes its first reconciliation pass. Its tasks are the
threads 0 to 3. -/
def ready : List Move :=
  [.createClient 7, .start config [] false 5] ++ steps answer 14 0 ++ steps answer 6 1 ++
    steps answer 14 2

/-- A request arrives at that process: thread 4, which claims the row 1 and starts its worker, thread
5. -/
def claimed : List Move := ready ++ [.request 0 3] ++ steps answer 23 4

/-- The answers to an EVM service, with an authorization of this value. -/
def baseAnswer (value : String) : (query : Query) → query.Answer
  | .readBody => .ok (some (baseRequest value))
  | query => answer query

/-- The next process starts with this signer as the leader of an EVM service. Its tasks are four
threads from `tid` on. -/
def baseStart (signer tid : Nat) : List Move :=
  [.start (baseConfig signer) [UInt8.ofNat signer] false 5] ++ steps answer 9 tid ++
    steps answer 6 (tid + 1) ++ steps answer 14 (tid + 2)

/-- A request arrives at an EVM service: thread 4, which claims the row 1 and starts its worker,
thread 5. -/
def baseClaimed (value : String) : List Move :=
  [.createClient 7] ++ baseStart 1 0 ++ [.request 0 3] ++ steps (baseAnswer value) 18 4

end Sample

end X402Facilitator
