import X402Facilitator.Lib.Trace
import X402Facilitator.System.Confirmations

/-!
# Answers from the journal

A settle call whose request already has a terminal row is answered with what the row stores, and with
nothing else: whatever the gates, the budgets, the allow-list, the signer and the chain are like by
then, the call does not get as far as asking for them. It reads the journal once and writes nothing.
-/

namespace X402Facilitator

open Program

/-! ## The lookup -/

/-- The row is the one that the journal has for a request with this key. -/
structure Settlement.KeyedBy (r : Settlement) (client : Uuid) (identifier : Option String)
    (hash fingerprint : Hash32) : Prop where
  client : r.apiClientId = client
  identifier : r.paymentIdentifier = identifier
  hash : r.paymentHash = hash
  fingerprint : r.requestFingerprint = fingerprint

section
variable {client : Uuid} {hash fingerprint : Hash32}

/-- If the only row under the identifier has the fingerprint, the loop returns it. -/
theorem classifyIdentified_of_mem {identifier : String} {r : Settlement} {rows : List Settlement}
    (hr : r ∈ rows) (hunder : r.Under client identifier) (hfingerprint : r.requestFingerprint = fingerprint)
    (honly : ∀ r' ∈ rows, r'.Under client identifier → r' = r) (seen : Bool) :
    classifyIdentified client identifier hash fingerprint seen rows = some (.existing r) := by
  induction rows generalizing seen with
  | nil => cases hr
  | cons row rows ih =>
    unfold classifyIdentified
    split
    · rename_i hrow
      obtain rfl := honly row List.mem_cons_self hrow
      rw [if_pos hfingerprint]
    · rename_i hrow
      have hr : r ∈ rows := by
        obtain rfl | hr := List.mem_cons.mp hr
        · exact absurd hunder hrow
        · exact hr
      exact ih hr (fun r' hr' => honly r' (List.mem_cons_of_mem _ hr')) _

/-- The lookup finds the row of the key, whatever other rows its query returns. -/
theorem classifyExisting_of_keyedBy {identifier : Option String} {db : Db} {r : Settlement}
    (hr : r ∈ db.settlements) (hkey : r.KeyedBy client identifier hash fingerprint) :
    classifyExisting client identifier hash fingerprint (selectExisting db client identifier hash) =
      some (.existing r) := by
  cases identifier with
  | some identifier =>
    refine classifyIdentified_of_mem (List.mem_filter.mpr ⟨hr, ?_⟩) ⟨hkey.client, hkey.identifier⟩
      hkey.fingerprint (fun r' hr' hunder => ?_) false
    · exact decide_eq_true (.inr hkey.hash)
    · refine db.constraints.clientPaymentIdentifier.eq_of_key (List.mem_filter.mp hr').1 hr
        (k := (client, identifier)) ?_ ?_
      · simp [Settlement.paymentIdentifierKey, hunder.1, hunder.2]
      · simp [Settlement.paymentIdentifierKey, hkey.client, hkey.identifier]
  | none =>
    have hmem : r ∈ selectExisting db client none hash :=
      List.mem_filter.mpr ⟨hr, decide_eq_true hkey.hash⟩
    have honly : ∀ r' ∈ selectExisting db client none hash, r' = r := by
      intro r' hr'
      obtain ⟨hr', hhash⟩ := List.mem_filter.mp hr'
      exact db.constraints.paymentHash.eq_of_key hr' hr rfl
        (congrArg some (hkey.hash.trans (of_decide_eq_true hhash).symm))
    cases hrows : selectExisting db client none hash with
    | nil => rw [hrows] at hmem; cases hmem
    | cons row rows =>
      obtain rfl := honly row (hrows ▸ List.mem_cons_self)
      simp [classifyExisting, hkey.client, hkey.fingerprint]

end

section
variable [NearPrimitives] [EvmPrimitives]

/-! ## The call -/

/-- The request has the key of the row, and the configuration admits it. -/
structure Repeats (state : AppState) (client : ApiClient) (body : Option Json) (request : ParsedRequest)
    (row : Settlement) : Prop where
  parsed : parseRequest body state.config.paymentIdentifier state.config.acceptV1 = .ok request
  static : staticFailureReason state.config request.metadata = none
  identity : paymentHashOf state request = .ok row.paymentHash
  key : row.KeyedBy client.id request.metadata.paymentIdentifier row.paymentHash
    (requestFingerprint request.value row.paymentHash)

/-- What a settle call has done when it has been authenticated, admitted by the rate limiter, and
given its body. -/
def opening (client : ApiClient) (body : Option Json) : History Op.Answer :=
  [⟨.ask .readBody, .ok body⟩, ⟨.ask (.rateCheck client.id), true⟩, ⟨.ask .authenticate, .ok client⟩]

/-- What such a call answers when its lookup has this outcome. -/
def replayed (row : Settlement) : Except StoreError (List Settlement) → Response
  | .ok _ => storedTerminalResponse row
  | .error _ => databaseUnavailable

/-- The lookup did not fail to find the row. -/
def FoundBy (row : Settlement) : Except StoreError (List Settlement) → Prop
  | .ok rows => classifyExisting row.apiClientId row.paymentIdentifier row.paymentHash
      row.requestFingerprint rows = some (.existing row)
  | .error _ => True

/-- Once the lookup has found a terminal row, the call has its response. -/
theorem admitAndClaim_eq (state : AppState) (fuel : Nat) (request : ParsedRequest) (key : RequestKey) :
    ∃ next, admitAndClaim state fuel request key =
        .call (.store (.selectExisting key.client.id key.paymentIdentifier key.paymentHash)) next ∧
      ∀ reply row, row.state.isTerminal = true →
        (∀ rows, reply = .ok rows → classifyExisting key.client.id key.paymentIdentifier
          key.paymentHash key.fingerprint rows = some (.existing row)) →
        next reply = pure (replayed row reply) := by
  refine ⟨_, rfl, fun reply row hterminal hfound => ?_⟩
  have hdormant : row.state ≠ .awaitingRetry := fun hstate => by
    rw [hstate] at hterminal
    cases hterminal
  cases reply with
  | error e => rfl
  | ok rows =>
    simp only [Program.bind, bind_of_pure, hfound rows rfl, if_neg hdormant, if_pos hterminal]
    rfl

/-- After its opening, a call that repeats a request looks the request up, and answers. -/
theorem settle_reaches {state : AppState} {client : ApiClient} {body : Option Json}
    {request : ParsedRequest} {row : Settlement} (hrepeats : Repeats state client body request row)
    (fuel : Nat) :
    ∃ next, (settle state fuel).Reaches (opening client body).reverse
        (.call (.store (.selectExisting row.apiClientId row.paymentIdentifier row.paymentHash)) next) ∧
      ∀ reply row', row'.state.isTerminal = true → row'.identity = row.identity →
        FoundBy row' reply →
        next reply = Service.respond (finalizeWireResponse request.wire (replayed row' reply)) := by
  obtain ⟨hclient, hidentifier, -, hfingerprint⟩ := hrepeats.key
  obtain ⟨next, hadmit, hnext⟩ := admitAndClaim_eq state fuel request
    ⟨client, request.metadata.paymentIdentifier, row.paymentHash,
      requestFingerprint request.value row.paymentHash⟩
  rw [hclient, hidentifier]
  refine ⟨fun reply => (next reply >>= fun response =>
    pure (finalizeWireResponse request.wire response)) >>= Service.respond, .cons (.cons (.cons ?_)), ?_⟩
  · simp only [Program.bind, hrepeats.parsed, settleParsed, hrepeats.static, hrepeats.identity, hadmit]
    exact .nil _
  · intro reply row' hterminal hidentity hfound
    have hkey : ∀ rows, reply = .ok rows → classifyExisting client.id
        request.metadata.paymentIdentifier row.paymentHash
        (requestFingerprint request.value row.paymentHash) rows = some (.existing row') := by
      rintro rows rfl
      rw [← hclient, ← hidentifier, ← hfingerprint]
      rw [← show row'.apiClientId = row.apiClientId from congrArg RowIdentity.apiClientId hidentity,
        ← show row'.paymentIdentifier = row.paymentIdentifier from
          congrArg RowIdentity.paymentIdentifier hidentity,
        ← show row'.paymentHash = row.paymentHash from congrArg RowIdentity.paymentHash hidentity,
        ← show row'.requestFingerprint = row.requestFingerprint from
          congrArg RowIdentity.requestFingerprint hidentity]
      exact hfound
    dsimp only
    rw [hnext reply row' hterminal hkey]
    rfl

namespace World

/-- A thread is where its answers have led its program, or it was dropped there. -/
theorem reaches_after (moves : List Move) : ∀ t ∈ (after moves).threads, ∃ q,
    t.role.thread.program.Reaches t.past.reverse q ∧ (t.program = q ∨ t.program = .done ()) := by
  refine invariant (P := fun w => ∀ t ∈ w.threads, ∃ q,
    t.role.thread.program.Reaches t.past.reverse q ∧ (t.program = q ∨ t.program = .done ()))
    (by simp [init]) ?_ moves
  intro w m w' hstep ih t' ht'
  cases hstep.threadStep ht' with
  | kept h => exact ih t' h
  | new role h => exact h ▸ ⟨_, .nil _, .inl rfl⟩
  | stopped t ht h =>
    obtain ⟨q, hreaches, -⟩ := ih t ht
    exact h ▸ ⟨q, hreaches, .inr rfl⟩
  | resumed t ht env gates hcall hdb h =>
    obtain ⟨q, hreaches, hq | hstopped⟩ := ih t ht
    · rw [← hq, hcall] at hreaches
      refine h ▸ ⟨_, ?_, .inl rfl⟩
      change Reaches _ (_ :: t.past).reverse _
      rw [List.reverse_cons]
      exact hreaches.concat _
    · cases hcall.symm.trans hstopped

/-- Threads are started at the end. -/
theorem Stepped.threads_length {w w' : World} {m : Move} (h : w.Stepped m w') :
    w.threads.length ≤ w'.threads.length := by
  by_contra hlt
  have hlast : w'.threads.length < w.threads.length := by omega
  obtain ⟨t', ht', -⟩ := h.thread_later (List.getElem?_eq_getElem hlast)
  simp at ht'

theorem threads_length (moves more : List Move) :
    (after moves).threads.length ≤ (after (moves ++ more)).threads.length :=
  invariant_from (P := fun w => (after moves).threads.length ≤ w.threads.length)
    (fun _ _ _ hstep h => h.trans hstep.threads_length) le_rfl more

/-- What a thread that was started later did, it did later. -/
theorem Moment.exists_between {before rest : List Move} {tid : Nat} {role : Role}
    {past : History Op.Answer} {e : Event Op.Answer} (x : Moment (before ++ rest) tid role past e)
    (hstarted : (after before).threads.length ≤ tid) : ∃ mid, x.before = before ++ mid := by
  obtain ⟨mid, hmid, -⟩ | ⟨mid, hmid, -⟩ := List.append_eq_append_iff.mp x.split
  · exact ⟨mid, hmid⟩
  · exfalso
    have hplace : tid < (after x.before).threads.length := (List.getElem?_eq_some_iff.mp x.threads).1
    have hgrows := threads_length x.before mid
    rw [← hmid] at hgrows
    omega

end World

/-- The lookup of a call that started when the row was terminal already finds the row as it was. -/
theorem exists_foundBy {before rest : List Move} {row : Settlement}
    (hrow : row ∈ (World.after before).db.settlements) (hterminal : row.state.isTerminal = true)
    {tid : Nat} {role : Role} {past : History Op.Answer}
    {reply : Except StoreError (List Settlement)}
    (x : World.Moment (before ++ rest) tid role past
      ⟨.store (.selectExisting row.apiClientId row.paymentIdentifier row.paymentHash), reply⟩)
    (hstarted : (World.after before).threads.length ≤ tid) :
    ∃ row', row'.state.isTerminal = true ∧ row'.identity = row.identity ∧ FoundBy row' reply ∧
      replayed row' reply = replayed row reply := by
  obtain ⟨mid, hmid⟩ := x.exists_between hstarted
  obtain ⟨row', hrow', hevolves⟩ := (World.db_evolves before mid).rows row hrow
  obtain ⟨hstate, hstatus, hbytes, -⟩ := hevolves.terminal hterminal
  refine ⟨row', hstate ▸ hterminal, hevolves.identity, ?_, ?_⟩
  · cases reply with
    | error e => trivial
    | ok rows =>
      have hread := (Fate.exec_of_reply (x.answer.symm :)).1
      have hrows : selectExisting (World.after x.before).db row.apiClientId row.paymentIdentifier
          row.paymentHash = rows := Except.ok.inj hread
      have hclient : row'.apiClientId = row.apiClientId :=
        congrArg RowIdentity.apiClientId hevolves.identity
      have hidentifier : row'.paymentIdentifier = row.paymentIdentifier :=
        congrArg RowIdentity.paymentIdentifier hevolves.identity
      have hhash : row'.paymentHash = row.paymentHash :=
        congrArg RowIdentity.paymentHash hevolves.identity
      rw [FoundBy, ← hrows, hmid, ← hclient, ← hidentifier, ← hhash]
      exact classifyExisting_of_keyedBy hrow' ⟨rfl, rfl, rfl, rfl⟩
  · cases reply with
    | error e => rfl
    | ok rows => simp only [replayed, storedTerminalResponse, hstatus, hbytes]

/-- What a replay has done since its opening, and what it does next: it looks the request up, and
answers with what the row stores, or that the database is unavailable when the lookup failed. -/
inductive Replaying (row : Settlement) (wire : WireVersion) : History Op.Answer → Option Op → Prop
  | opened : Replaying row wire []
      (some (.store (.selectExisting row.apiClientId row.paymentIdentifier row.paymentHash)))
  | found (reply : Except StoreError (List Settlement)) : Replaying row wire
      [⟨.store (.selectExisting row.apiClientId row.paymentIdentifier row.paymentHash), reply⟩]
      (some (.respond (finalizeWireResponse wire (replayed row reply))))
  | answered (reply : Except StoreError (List Settlement)) : Replaying row wire
      [⟨.respond (finalizeWireResponse wire (replayed row reply)), ()⟩,
        ⟨.store (.selectExisting row.apiClientId row.paymentIdentifier row.paymentHash), reply⟩] none

end

section
open Sample

local instance replayNear : NearPrimitives := nearPrimitives
local instance replayEvm : EvmPrimitives := evmPrimitives

/-- The request of a settled payment comes again: thread 6, which has looked it up. -/
def Sample.baseAgain : List Move := [.request 0 3] ++ steps (baseAnswer "1000") 4 6

/-- The client and the body of an opening. -/
def Sample.opening? : History Op.Answer → Option (ApiClient × Option Json)
  | [⟨.ask .readBody, .ok body⟩, ⟨.ask (.rateCheck id), true⟩, ⟨.ask .authenticate, .ok client⟩] =>
    if id = client.id then some (client, body) else none
  | _ => none

theorem Sample.opening?_eq_some {h : History Op.Answer} {client : ApiClient} {body : Option Json}
    (hopening : opening? h = some (client, body)) : h = opening client body := by
  unfold opening? at hopening
  split at hopening
  · split at hopening
    · rename_i hid
      cases hopening
      rw [hid]
      rfl
    · cases hopening
  · cases hopening

/-- The body repeats the request of the row. -/
def Sample.repeats (state : AppState) (client : ApiClient) (body : Option Json) (row : Settlement) :
    Bool :=
  match parseRequest body state.config.paymentIdentifier state.config.acceptV1 with
  | .error _ => false
  | .ok request => staticFailureReason state.config request.metadata = none ∧
      (paymentHashOf state request).toOption = some row.paymentHash ∧ row.apiClientId = client.id ∧
      row.paymentIdentifier = request.metadata.paymentIdentifier ∧
      row.requestFingerprint = requestFingerprint request.value row.paymentHash

theorem Sample.exists_repeats {state : AppState} {client : ApiClient} {body : Option Json}
    {row : Settlement} (h : repeats state client body row = true) :
    ∃ request, Repeats state client body request row := by
  unfold repeats at h
  split at h
  · cases h
  · rename_i request hparsed
    obtain ⟨hstatic, hhash, hclient, hidentifier, hfingerprint⟩ := of_decide_eq_true h
    refine ⟨request, hparsed, hstatic, ?_, hclient, hidentifier, rfl, hfingerprint⟩
    cases hidentity : paymentHashOf state request with
    | error e => rw [hidentity] at hhash; cases hhash
    | ok hash => rw [hidentity] at hhash; rw [Option.some.inj hhash]

/-- The thread is a settle call after its opening and one operation more, which repeats the request of a
settled row. -/
def Sample.isReplay (rows : List Settlement) (t : Thread) : Bool :=
  match t.role.task, t.program, t.past with
  | .settle _, .call _ _, _ :: past => (opening? past).any fun (client, body) =>
      rows.any fun row => row.state = .succeeded ∧ repeats t.role.state client body row = true
  | _, _, _ => false

end

end X402Facilitator
