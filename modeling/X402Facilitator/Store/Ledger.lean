import X402Facilitator.Store.Commit

/-!
# The sponsorship ledgers

The same amount lives in a row of the journal and in two ledgers. This module relates the three over
every sequence of store calls: what a ledger row has reserved is what the live rows hold of it, what
it has spent is what the terminalizations charged to it, and their sum is bounded by the limits the
ledger granted reservations under and the overruns charged to it.

A ledger row is named by a day and, for the per-client ledger, a client, so that the global and the
per-client statement are one.
-/

namespace X402Facilitator

/-! ## Ledger rows -/

/-- A row of a sponsorship ledger: the global one of a day, or a client's. -/
structure LedgerKey where
  usageDate : Day
  client : Option Uuid

namespace LedgerKey

/-- Whether a reservation of that day and client is booked on this ledger row. -/
def covers (k : LedgerKey) (usageDate : Day) (client : Uuid) : Bool :=
  k.usageDate = usageDate && (k.client = none || k.client = some client)

/-- The limit that applies to this ledger row. -/
def limit (k : LedgerKey) (globalLimit clientLimit : Nat) : Nat :=
  if k.client = none then globalLimit else clientLimit

end LedgerKey

def Db.ledger (db : Db) (k : LedgerKey) : Option SponsorshipUsage :=
  match k.client with
  | none => db.globalSponsorship k.usageDate
  | some client => db.clientSponsorship k.usageDate client

/-- The usage of a ledger row, an absent one counting as zero. -/
def Db.usage (db : Db) (k : LedgerKey) : SponsorshipUsage :=
  (db.ledger k).getD ⟨0, 0⟩

/-- A reservation is granted exactly when the whole usage stays within the limit and the new
reserved amount fits its column. -/
theorem reserveUsage_granted {reservation limit : Nat} {u : Option SponsorshipUsage}
    {v : SponsorshipUsage} :
    reserveUsage reservation limit u = .ok (some v) ↔
      (u.getD ⟨0, 0⟩).reserved + (u.getD ⟨0, 0⟩).spent + reservation ≤ limit ∧
        fitsNumeric40 ((u.getD ⟨0, 0⟩).reserved + reservation) ∧
        v = ⟨(u.getD ⟨0, 0⟩).reserved + reservation, (u.getD ⟨0, 0⟩).spent⟩ := by
  unfold reserveUsage fitsNumeric40
  rcases u with - | ⟨reserved, spent⟩ <;> simp only [Option.getD_none, Option.getD_some] <;>
    split_ifs <;> simp_all [eq_comm] <;> omega

/-- A reservation is refused exactly when the whole usage would pass the limit, unless the amount
itself is within the limit and does not fit its column. -/
theorem reserveUsage_refused {reservation limit : Nat} {u : Option SponsorshipUsage} :
    reserveUsage reservation limit u = .ok none ↔
      limit < (u.getD ⟨0, 0⟩).reserved + (u.getD ⟨0, 0⟩).spent + reservation ∧
        (reservation ≤ limit → fitsNumeric40 reservation) := by
  unfold reserveUsage fitsNumeric40
  rcases u with - | ⟨reserved, spent⟩ <;> simp only [Option.getD_none, Option.getD_some] <;>
    split_ifs <;> simp_all
  all_goals omega

theorem releaseUsage_ok {reservation actual : Nat} {u : Option SponsorshipUsage}
    {v : SponsorshipUsage} :
    releaseUsage reservation actual u = .ok (some v) ↔
      ∃ w, u = some w ∧ reservation ≤ w.reserved ∧ fitsNumeric40 (w.spent + actual) ∧
        v = ⟨w.reserved - reservation, w.spent + actual⟩ := by
  unfold releaseUsage fitsNumeric40
  rcases u with - | w
  · simp
  · simp only [Option.some.injEq, exists_eq_left']
    split_ifs <;> simp_all [eq_comm]

/-- Both rows of a day and client are replaced and every other ledger row stays. -/
theorem LedgersSet.ledger {db db' : Db} {usageDate : Day} {client : Uuid}
    {global perClient : SponsorshipUsage} (h : LedgersSet db db' usageDate client global perClient)
    (k : LedgerKey) :
    db'.ledger k = if k.covers usageDate client then
      some (if k.client = none then global else perClient) else db.ledger k := by
  obtain ⟨day, kclient⟩ := k
  rcases kclient with - | c
  · by_cases hday : day = usageDate
    · simp [Db.ledger, LedgerKey.covers, h.globalSponsorship, hday]
    · simp [Db.ledger, LedgerKey.covers, h.globalSponsorship, hday]
  · by_cases hday : day = usageDate
    · subst hday
      by_cases hclient : c = client
      · simp [Db.ledger, LedgerKey.covers, h.clientSponsorship, hclient]
      · simp [Db.ledger, LedgerKey.covers, h.clientSponsorship, hclient]
    · simp [Db.ledger, LedgerKey.covers, h.clientSponsorship, hday]

namespace LedgerEffect

theorem ledger_of_keep {db db' : Db} (h : keep.Holds db db') (k : LedgerKey) :
    db'.ledger k = db.ledger k := by
  obtain ⟨hglobal, hclient⟩ := h
  unfold Db.ledger
  rw [hglobal, hclient]

/-- A granted reservation raises the reserved amount of the ledger rows that cover it. -/
theorem ledger_of_reserve {db db' : Db} {usageDate : Day} {client : Uuid}
    {amount globalLimit clientLimit : Nat}
    (h : (reserve usageDate client amount globalLimit clientLimit).Holds db db') (k : LedgerKey) :
    if k.covers usageDate client then
      (db.usage k).reserved + (db.usage k).spent + amount ≤ k.limit globalLimit clientLimit ∧
        db'.ledger k = some ⟨(db.usage k).reserved + amount, (db.usage k).spent⟩
    else db'.ledger k = db.ledger k := by
  obtain ⟨global, perClient, hglobal, hclient, hset⟩ := h
  rw [hset.ledger k]
  split_ifs with hcovers hkind
  · obtain ⟨day, kclient⟩ := k
    obtain rfl : kclient = none := hkind
    obtain rfl : day = usageDate := by simpa [LedgerKey.covers] using hcovers
    obtain ⟨hle, -, rfl⟩ := reserveUsage_granted.mp hglobal
    exact ⟨hle, rfl⟩
  · obtain ⟨day, kclient⟩ := k
    obtain ⟨rfl, hc⟩ : day = usageDate ∧ kclient = some client := by
      simpa [LedgerKey.covers, hkind] using hcovers
    subst hc
    obtain ⟨hle, -, rfl⟩ := reserveUsage_granted.mp hclient
    exact ⟨hle, rfl⟩
  · rfl

/-- A release takes the reservation off the ledger rows that cover it and charges the cost. -/
theorem ledger_of_release {db db' : Db} {usageDate : Day} {client : Uuid} {amount actual : Nat}
    (h : (release usageDate client amount actual).Holds db db') (k : LedgerKey) :
    if k.covers usageDate client then
      amount ≤ (db.usage k).reserved ∧
        db'.ledger k = some ⟨(db.usage k).reserved - amount, (db.usage k).spent + actual⟩
    else db'.ledger k = db.ledger k := by
  obtain ⟨global, perClient, hglobal, hclient, hset⟩ := h
  rw [hset.ledger k]
  split_ifs with hcovers hkind
  · obtain ⟨day, kclient⟩ := k
    obtain rfl : kclient = none := hkind
    obtain rfl : day = usageDate := by simpa [LedgerKey.covers] using hcovers
    obtain ⟨w, hw, hle, -, rfl⟩ := releaseUsage_ok.mp hglobal
    simp [Db.usage, Db.ledger, hw, hle]
  · obtain ⟨day, kclient⟩ := k
    obtain ⟨rfl, hc⟩ : day = usageDate ∧ kclient = some client := by
      simpa [LedgerKey.covers, hkind] using hcovers
    subst hc
    obtain ⟨w, hw, hle, -, rfl⟩ := releaseUsage_ok.mp hclient
    simp [Db.usage, Db.ledger, hw, hle]
  · rfl

end LedgerEffect

/-! ## Sequences of store calls -/

/-- A database together with the reservations granted and the terminalizations charged so far. -/
structure Books where
  db : Db
  reservations : List Reservation
  charges : List Charge

namespace Books

def empty : Books := ⟨.empty, [], []⟩

def step (books : Books) (call : StoreCall) : Books where
  db := books.db.call call
  reservations := books.reservations ++ (call.op.reservation call.now books.db).toList
  charges := books.charges ++ (call.op.charge call.now books.db).toList

def after (calls : List StoreCall) : Books := Run.after step empty calls

theorem after_db (calls : List StoreCall) : (after calls).db = Db.after calls := by
  induction calls using List.reverseRecOn with
  | nil => rfl
  | append_singleton calls call ih =>
    rw [after, Run.after_concat, Db.after, Run.after_concat, ← Db.after, ← ih]
    rfl

end Books

/-- What the live rows hold of a ledger row. -/
def held (k : LedgerKey) (rows : List Settlement) : Nat :=
  Table.sumOver (fun r => r.state.holdsReservation && k.covers r.reservationDate r.apiClientId)
    Settlement.reservedYoctoNear rows

/-- What the terminalizations charged to a ledger row cost. -/
def charged (k : LedgerKey) (charges : List Charge) : Nat :=
  Table.sumOver (fun c => k.covers c.usageDate c.client) Charge.actual charges

/-- How far the terminalizations charged to a ledger row overran what their rows had reserved. -/
def overrun (k : LedgerKey) (charges : List Charge) : Nat :=
  Table.sumOver (fun c => k.covers c.usageDate c.client) (fun c => c.actual - c.reserved) charges

/-- The largest limit under which a ledger row granted a reservation. -/
def largestLimit (k : LedgerKey) (reservations : List Reservation) : Nat :=
  (reservations.map fun r =>
    if k.covers r.usageDate r.client then k.limit r.globalLimit r.clientLimit else 0).foldr max 0

/-- Journal and ledgers agree on a ledger row. -/
structure Books.BalancedAt (books : Books) (k : LedgerKey) : Prop where
  reserved : (books.db.usage k).reserved = held k books.db.settlements
  spent : (books.db.usage k).spent = charged k books.charges
  /-- A live row has its ledger rows, so that even a reservation of zero can be released. -/
  present : ∀ r ∈ books.db.settlements, r.state.holdsReservation = true →
    k.covers r.reservationDate r.apiClientId = true → (books.db.ledger k).isSome = true
  bounded : (books.db.usage k).reserved + (books.db.usage k).spent ≤
    largestLimit k books.reservations + overrun k books.charges

theorem largestLimit_concat (k : LedgerKey) (reservations : List Reservation) (r : Reservation) :
    largestLimit k (reservations ++ [r]) = max (largestLimit k reservations)
      (if k.covers r.usageDate r.client then k.limit r.globalLimit r.clientLimit else 0) := by
  induction reservations with
  | nil => simp [largestLimit]
  | cons a reservations ih =>
    simp only [largestLimit, List.map_append, List.map_cons, List.cons_append,
      List.foldr_cons] at ih ⊢
    rw [ih, max_assoc]

/-- How an update changes what a row holds of a ledger row. -/
theorem held_update (k : LedgerKey) {db db' : Db} {r : Settlement} {u : RowUpdate}
    (h : Updated db db' r u) :
    held k db'.settlements + held k [r] = held k db.settlements + held k [u.apply r] := by
  obtain ⟨before, after, hsplit, hsplit'⟩ := h.settlements
  rw [hsplit, hsplit']
  simp only [held, Table.sumOver_append, Table.sumOver_cons, Table.sumOver_nil]
  omega

theorem holdsReservation_of_transitionAllowed {s t : SettlementState}
    (h : transitionAllowed s t = true) : s.holdsReservation = true := by
  cases s <;> simp_all [transitionAllowed, SettlementState.holdsReservation]

theorem not_holdsReservation_of_isTerminal {s : SettlementState} (h : s.isTerminal = true) :
    s.holdsReservation = false := by
  cases s <;> simp_all [SettlementState.isTerminal, SettlementState.holdsReservation]

/-- A step that leaves a ledger row, and what is booked on it, as they were. -/
theorem Books.BalancedAt.of_ledger_eq {books books' : Books} {k : LedgerKey}
    (hb : books.BalancedAt k) (hledger : books'.db.ledger k = books.db.ledger k)
    (hheld : held k books'.db.settlements = held k books.db.settlements)
    (hlive : ∀ r' ∈ books'.db.settlements, r'.state.holdsReservation = true →
      k.covers r'.reservationDate r'.apiClientId = true → ∃ r ∈ books.db.settlements,
        r.state.holdsReservation = true ∧ k.covers r.reservationDate r.apiClientId = true)
    (hlimit : largestLimit k books.reservations ≤ largestLimit k books'.reservations)
    (hcharged : charged k books'.charges = charged k books.charges)
    (hoverrun : overrun k books'.charges = overrun k books.charges) : books'.BalancedAt k := by
  have husage : books'.db.usage k = books.db.usage k := by rw [Db.usage, Db.usage, hledger]
  refine ⟨?_, ?_, ?_, ?_⟩
  · rw [husage, hheld, hb.reserved]
  · rw [husage, hcharged, hb.spent]
  · intro r' hr' hholds hcovers
    obtain ⟨r, hr, hholds, hcovers⟩ := hlive r' hr' hholds hcovers
    rw [hledger]
    exact hb.present r hr hholds hcovers
  · rw [husage, hoverrun]
    exact hb.bounded.trans (Nat.add_le_add_right hlimit _)

/-- A step that books a granted reservation. -/
theorem Books.BalancedAt.of_reserve {books books' : Books} {k : LedgerKey} {usageDate : Day}
    {client : Uuid} {amount globalLimit clientLimit : Nat} (hb : books.BalancedAt k)
    (hledger : (LedgerEffect.reserve usageDate client amount globalLimit clientLimit).Holds
      books.db books'.db)
    (hheld : held k books'.db.settlements =
      held k books.db.settlements + if k.covers usageDate client then amount else 0)
    (hlive : ∀ r' ∈ books'.db.settlements, r'.state.holdsReservation = true →
      k.covers r'.reservationDate r'.apiClientId = true → k.covers usageDate client = true ∨
        ∃ r ∈ books.db.settlements, r.state.holdsReservation = true ∧
          k.covers r.reservationDate r.apiClientId = true)
    (hreservations : books'.reservations = books.reservations ++
      [⟨usageDate, client, amount, globalLimit, clientLimit⟩])
    (hcharges : books'.charges = books.charges) : books'.BalancedAt k := by
  have hk := LedgerEffect.ledger_of_reserve hledger k
  have hlimit := largestLimit_concat k books.reservations
    ⟨usageDate, client, amount, globalLimit, clientLimit⟩
  rw [← hreservations] at hlimit
  by_cases hcovers : k.covers usageDate client = true
  · simp only [hcovers, if_true] at hk hheld hlimit
    have husage : books'.db.usage k =
        ⟨(books.db.usage k).reserved + amount, (books.db.usage k).spent⟩ := by
      rw [Db.usage, hk.2, Option.getD_some]
    refine ⟨?_, ?_, ?_, ?_⟩
    · rw [husage, hheld, ← hb.reserved]
    · rw [husage, hcharges, ← hb.spent]
    · intro r' hr' hholds hcovers'
      rw [hk.2, Option.isSome_some]
    · rw [husage, hlimit]
      dsimp only
      omega
  · simp only [hcovers, Bool.false_eq_true, if_false] at hk hheld hlimit
    refine hb.of_ledger_eq hk (by simpa using hheld) ?_ (hlimit ▸ Nat.le_max_left _ _)
      (by rw [hcharges]) (by rw [hcharges])
    intro r' hr' hholds hcovers'
    exact (hlive r' hr' hholds hcovers').resolve_left hcovers

/-- A step that releases a reservation and charges its cost. -/
theorem Books.BalancedAt.of_release {books books' : Books} {k : LedgerKey} {usageDate : Day}
    {client : Uuid} {amount actual : Nat} (hb : books.BalancedAt k)
    (hledger : (LedgerEffect.release usageDate client amount actual).Holds books.db books'.db)
    (hheld : held k books'.db.settlements + (if k.covers usageDate client then amount else 0) =
      held k books.db.settlements)
    (hlive : ∀ r' ∈ books'.db.settlements, r'.state.holdsReservation = true →
      k.covers r'.reservationDate r'.apiClientId = true → ∃ r ∈ books.db.settlements,
        r.state.holdsReservation = true ∧ k.covers r.reservationDate r.apiClientId = true)
    (hreservations : books'.reservations = books.reservations)
    (hcharged : charged k books'.charges =
      charged k books.charges + if k.covers usageDate client then actual else 0)
    (hoverrun : overrun k books'.charges =
      overrun k books.charges + if k.covers usageDate client then actual - amount else 0) :
    books'.BalancedAt k := by
  have hk := LedgerEffect.ledger_of_release hledger k
  by_cases hcovers : k.covers usageDate client = true
  · simp only [hcovers, if_true] at hk hheld hcharged hoverrun
    have husage : books'.db.usage k =
        ⟨(books.db.usage k).reserved - amount, (books.db.usage k).spent + actual⟩ := by
      rw [Db.usage, hk.2, Option.getD_some]
    have hbounded := hb.bounded
    refine ⟨?_, ?_, ?_, ?_⟩
    · rw [husage]
      dsimp only
      rw [hb.reserved]
      omega
    · rw [husage, hcharged, ← hb.spent]
    · intro r' hr' hholds hcovers'
      rw [hk.2, Option.isSome_some]
    · rw [husage, hreservations, hoverrun]
      dsimp only
      omega
  · simp only [hcovers, Bool.false_eq_true, if_false, Nat.add_zero] at hk hheld hcharged hoverrun
    exact hb.of_ledger_eq hk hheld hlive (by rw [hreservations]) hcharged hoverrun

/-- An update that moves nothing in the ledgers keeps the state's hold on them. -/
theorem Books.BalancedAt.of_kept {books books' : Books} {k : LedgerKey} {r : Settlement}
    {u : RowUpdate} (hb : books.BalancedAt k) (h : Updated books.db books'.db r u)
    (heffect : u.effect r = .keep)
    (hholds : (u.apply r).state.holdsReservation = r.state.holdsReservation)
    (hdate : (u.apply r).reservationDate = r.reservationDate)
    (hclient : (u.apply r).apiClientId = r.apiClientId)
    (hamount : (u.apply r).reservedYoctoNear = r.reservedYoctoNear)
    (hreservations : books'.reservations = books.reservations)
    (hcharges : books'.charges = books.charges) : books'.BalancedAt k := by
  have hheld := held_update k h
  have hsame : held k [u.apply r] = held k [r] := by
    simp [held, hholds, hdate, hclient, hamount]
  have hledger := h.ledger
  rw [heffect] at hledger
  refine hb.of_ledger_eq (LedgerEffect.ledger_of_keep hledger k) (by omega) ?_ (by rw [hreservations]) (by rw [hcharges]) (by rw [hcharges])
  intro r' hr' hlive hcovers
  rcases h.mem_cases hr' with rfl | ⟨hold, -⟩
  · exact ⟨r, h.mem, hholds ▸ hlive, by rwa [hdate, hclient] at hcovers⟩
  · exact ⟨r', hold, hlive, hcovers⟩

/-- An update that ends a row's hold on the ledgers. -/
theorem Books.BalancedAt.of_released {books books' : Books} {k : LedgerKey} {r : Settlement}
    {u : RowUpdate} {actual : Nat} (hb : books.BalancedAt k) (h : Updated books.db books'.db r u)
    (heffect : u.effect r =
      .release r.reservationDate r.apiClientId r.reservedYoctoNear actual)
    (hbefore : r.state.holdsReservation = true)
    (hafter : (u.apply r).state.holdsReservation = false)
    (hreservations : books'.reservations = books.reservations)
    (hcharged : charged k books'.charges = charged k books.charges +
      if k.covers r.reservationDate r.apiClientId then actual else 0)
    (hoverrun : overrun k books'.charges = overrun k books.charges +
      if k.covers r.reservationDate r.apiClientId then actual - r.reservedYoctoNear else 0) :
    books'.BalancedAt k := by
  have hheld := held_update k h
  have hr : held k [r] =
      if k.covers r.reservationDate r.apiClientId then r.reservedYoctoNear else 0 := by
    simp [held, hbefore]
  have hr' : held k [u.apply r] = 0 := by simp [held, hafter]
  refine hb.of_release (heffect ▸ h.ledger) (by omega) ?_ hreservations hcharged hoverrun
  intro r' hmem hlive hcovers
  rcases h.mem_cases hmem with rfl | ⟨hold, -⟩
  · simp [hafter] at hlive
  · exact ⟨r', hold, hlive, hcovers⟩

theorem Books.BalancedAt.of_resumed {books books' : Books} {k : LedgerKey} {r : Settlement}
    {retry : RetryReservation} {usageDate : Day} (hb : books.BalancedAt k)
    (h : Updated books.db books'.db r (.resume retry usageDate))
    (hreservations : books'.reservations = books.reservations ++
      [⟨usageDate, r.apiClientId, retry.reservationYoctoNear, retry.globalDailyBudgetYoctoNear,
        retry.clientDailyBudgetYoctoNear⟩])
    (hcharges : books'.charges = books.charges) : books'.BalancedAt k := by
  have hheld := held_update k h
  have hstate : r.state = .awaitingRetry := h.allowed
  have hr : held k [r] = 0 := by simp [held, hstate, SettlementState.holdsReservation]
  have hr' : held k [(RowUpdate.resume retry usageDate).apply r] =
      if k.covers usageDate r.apiClientId then retry.reservationYoctoNear else 0 := by
    simp [held, RowUpdate.apply, SettlementState.holdsReservation]
  refine hb.of_reserve h.ledger (by omega) ?_ hreservations hcharges
  intro r' hmem hlive hcovers
  rcases h.mem_cases hmem with rfl | ⟨hold, -⟩
  · exact .inl hcovers
  · exact .inr ⟨r', hold, hlive, hcovers⟩

theorem Books.BalancedAt.of_claimed {books books' : Books} {k : LedgerKey} {new : NewSettlement}
    {usageDate : Day} {now : Nat} (hb : books.BalancedAt k)
    (h : Claimed books.db books'.db new usageDate now)
    (hreservations : books'.reservations = books.reservations ++
      [⟨usageDate, new.apiClientId, new.reservationYoctoNear, new.globalDailyBudgetYoctoNear,
        new.clientDailyBudgetYoctoNear⟩])
    (hcharges : books'.charges = books.charges) : books'.BalancedAt k := by
  refine hb.of_reserve h.ledger ?_ ?_ hreservations hcharges
  · rw [h.settlements]
    simp [held, NewSettlement.row, SettlementState.holdsReservation]
  · intro r' hmem hlive hcovers
    rw [h.settlements, List.mem_append, List.mem_singleton] at hmem
    rcases hmem with hold | rfl
    · exact .inr ⟨r', hold, hlive, hcovers⟩
    · exact .inl hcovers

/-- One store call keeps journal and ledgers in balance. -/
theorem Books.BalancedAt.step {books : Books} {k : LedgerKey} (hb : books.BalancedAt k)
    (call : StoreCall) : (books.step call).BalancedAt k := by
  obtain ⟨h, hres, hcharge⟩ | ⟨-, h, hres, hcharge⟩ | @⟨r, u, -, h, hres, hcharge⟩ :=
    call.op.exec_cases call.now books.db
  · have hreservations : (books.step call).reservations = books.reservations := by simp [Books.step, hres]
    have hcharges : (books.step call).charges = books.charges := by simp [Books.step, hcharge]
    have hledger : (books.step call).db.ledger k = books.db.ledger k :=
      LedgerEffect.ledger_of_keep ⟨h.globalSponsorship, h.clientSponsorship⟩ k
    refine hb.of_ledger_eq hledger (by rw [Books.step, Db.call, h.settlements]) ?_ (by rw [hreservations])
      (by rw [hcharges]) (by rw [hcharges])
    intro r hr hlive hcovers
    exact ⟨r, h.settlements ▸ hr, hlive, hcovers⟩
  · exact hb.of_claimed h (by simp [Books.step, hres]) (by simp [Books.step, hcharge])
  · cases u with
    | prepare | prepareEvm | submit | raise | note =>
      refine hb.of_kept h rfl ?_ rfl rfl rfl (by simp [Books.step, hres, RowUpdate.reservation])
        (by simp [Books.step, hcharge, RowUpdate.charge])
      have hallowed := h.allowed
      simp_all [RowUpdate.Allowed, RowUpdate.apply, SettlementState.holdsReservation]
    | resume retry usageDate =>
      exact hb.of_resumed h (by simp [Books.step, hres, RowUpdate.reservation])
        (by simp [Books.step, hcharge, RowUpdate.charge])
    | release retryCode =>
      have hcharges : (books.step call).charges = books.charges := by
        simp [Books.step, hcharge, RowUpdate.charge]
      exact hb.of_released h rfl (by rw [h.allowed.2]; rfl) rfl
        (by simp [Books.step, hres, RowUpdate.reservation]) (by simp [hcharges]) (by simp [hcharges])
    | terminate entry =>
      obtain ⟨hterminal, htransition, -⟩ := h.allowed
      have hcharges : (books.step call).charges = books.charges ++
          [⟨r.reservationDate, r.apiClientId, r.reservedYoctoNear, entry.actualYoctoNear⟩] := by
        simp [Books.step, hcharge, RowUpdate.charge]
      exact hb.of_released h rfl (holdsReservation_of_transitionAllowed htransition)
        (not_holdsReservation_of_isTerminal hterminal)
        (by simp [Books.step, hres, RowUpdate.reservation]) (by simp [hcharges, charged])
        (by simp [hcharges, overrun])

/-- Journal and ledgers are in balance after every sequence of store calls. -/
theorem Books.balancedAt_after (calls : List StoreCall) (k : LedgerKey) :
    (Books.after calls).BalancedAt k := by
  refine Run.invariant (P := fun books : Books => books.BalancedAt k) ?_ ?_ calls
  · cases k with
    | mk day client =>
      cases client <;> exact ⟨rfl, rfl, fun r hr => absurd hr (by simp [empty, Db.empty]),
        Nat.zero_le _⟩
  · exact fun books call hb => hb.step call

/-! ## The daily cap -/

/-- Both ledgers would stay within their limits, an absent ledger row counting as zero. -/
def Db.WithinLimits (db : Db) (usageDate : Day) (client : Uuid)
    (reservation globalLimit clientLimit : Nat) : Prop :=
  (db.usage ⟨usageDate, none⟩).reserved + (db.usage ⟨usageDate, none⟩).spent + reservation
      ≤ globalLimit ∧
    (db.usage ⟨usageDate, some client⟩).reserved + (db.usage ⟨usageDate, some client⟩).spent
      + reservation ≤ clientLimit

/-- Both reserved amounts would fit their `NUMERIC(40, 0)` columns. -/
def Db.FitsLedgers (db : Db) (usageDate : Day) (client : Uuid) (reservation : Nat) : Prop :=
  fitsNumeric40 ((db.usage ⟨usageDate, none⟩).reserved + reservation) ∧
    fitsNumeric40 ((db.usage ⟨usageDate, some client⟩).reserved + reservation)

/-- Under limits that fit the columns themselves the width never matters. -/
theorem Db.WithinLimits.fitsLedgers {db : Db} {usageDate : Day} {client : Uuid}
    {reservation globalLimit clientLimit : Nat}
    (h : db.WithinLimits usageDate client reservation globalLimit clientLimit)
    (hglobal : fitsNumeric40 globalLimit) (hclient : fitsNumeric40 clientLimit) :
    db.FitsLedgers usageDate client reservation := by
  obtain ⟨hle, hle'⟩ := h
  unfold fitsNumeric40 at hglobal hclient
  constructor <;> unfold fitsNumeric40 <;> omega

/-- The two reservation statements grant a reservation exactly when both ledgers stay within their
limits and within their columns. -/
theorem reserveBudgets_granted {db : Db} {usageDate : Day} {client : Uuid}
    {reservation globalLimit clientLimit : Nat} :
    (∃ db', (reserveBudgets usageDate client reservation globalLimit clientLimit).run db
      = .ok (true, db')) ↔
      db.WithinLimits usageDate client reservation globalLimit clientLimit ∧
        db.FitsLedgers usageDate client reservation := by
  constructor
  · rintro ⟨db', h⟩
    obtain hfalse | ⟨-, -, -, global, perClient, hglobal, hclient, -⟩ := reserveBudgets_ok h
    · cases hfalse
    obtain ⟨hle, hfits, -⟩ := reserveUsage_granted.mp hglobal
    obtain ⟨hle', hfits', -⟩ := reserveUsage_granted.mp hclient
    exact ⟨⟨hle, hle'⟩, hfits, hfits'⟩
  · rintro ⟨⟨hle, hle'⟩, hfits, hfits'⟩
    have hglobal : reserveUsage reservation globalLimit (db.globalSponsorship usageDate) = _ :=
      reserveUsage_granted.mpr ⟨hle, hfits, rfl⟩
    have hclient : reserveUsage reservation clientLimit (db.clientSponsorship usageDate client)
        = _ := reserveUsage_granted.mpr ⟨hle', hfits', rfl⟩
    unfold reserveBudgets
    simp only [Txn.bind_ok, reserveGlobalBudget, hglobal]
    simp [reserveClientBudget, hclient]

/-- A claim or resume that is refused for its budget leaves no trace, whichever ledger refused. -/
theorem budgetExceeded_unchanged (op : StoreOp) (now : Nat) (db : Db)
    (hrefused : match op with
      | .claimReservation new usageDate =>
        ((StoreOp.claimReservation new usageDate).exec now db).1 = .ok ClaimReply.budgetExceeded
      | .resumeReservation retry usageDate =>
        ((StoreOp.resumeReservation retry usageDate).exec now db).1 = .ok ResumeReply.budgetExceeded
      | _ => False) : (op.exec now db).2 = db := by
  cases op with
  | claimReservation new usageDate =>
    obtain ⟨h, -⟩ | ⟨-, h⟩ := claimReservation_ok (Txn.exec_ok hrefused)
    · cases h
    · exact h
  | resumeReservation retry usageDate =>
    obtain ⟨h, -⟩ | ⟨-, h⟩ := resumeReservation_ok (Txn.exec_ok hrefused)
    · cases h
    · exact h
  | _ => exact hrefused.elim

theorem largestLimit_le {k : LedgerKey} {reservations : List Reservation} {limit : Nat}
    (h : ∀ r ∈ reservations, k.covers r.usageDate r.client = true →
      k.limit r.globalLimit r.clientLimit ≤ limit) : largestLimit k reservations ≤ limit := by
  induction reservations using List.reverseRecOn with
  | nil => exact Nat.zero_le _
  | append_singleton reservations r ih =>
    rw [largestLimit_concat]
    refine max_le (ih fun r' hr' => h r' (by simp [hr'])) ?_
    split_ifs with hcovers
    · exact h r (by simp) hcovers
    · exact Nat.zero_le _

theorem overrun_eq_zero {k : LedgerKey} {charges : List Charge}
    (h : ∀ c ∈ charges, k.covers c.usageDate c.client = true → c.actual ≤ c.reserved) :
    overrun k charges = 0 := by
  induction charges with
  | nil => rfl
  | cons c charges ih =>
    have htail := ih fun c' hc' => h c' (by simp [hc'])
    rw [overrun, Table.sumOver_cons, ← overrun, htail]
    split_ifs with hcovers
    · simpa [Nat.sub_eq_zero_iff_le] using h c (by simp) hcovers
    · rfl

/-- In every interleaving of store calls a ledger row's reserved and spent amounts stay within the
largest limit it granted a reservation under, plus the overruns charged to it; so with a constant
limit and no overrun the cap is never exceeded. A reservation is granted exactly when both ledgers
stay within their limits and the new reserved amounts fit the ledger columns, which they do when the
limits themselves fit; and a refused one leaves no trace. -/
theorem sponsorship_cap (calls : List StoreCall) :
    (∀ k : LedgerKey,
      ((Db.after calls).usage k).reserved + ((Db.after calls).usage k).spent ≤
        largestLimit k (Books.after calls).reservations + overrun k (Books.after calls).charges) ∧
      (∀ (k : LedgerKey) (limit : Nat),
        (∀ r ∈ (Books.after calls).reservations, k.covers r.usageDate r.client = true →
          k.limit r.globalLimit r.clientLimit ≤ limit) →
        (∀ c ∈ (Books.after calls).charges, k.covers c.usageDate c.client = true →
          c.actual ≤ c.reserved) →
        ((Db.after calls).usage k).reserved + ((Db.after calls).usage k).spent ≤ limit) ∧
      (∀ usageDate client reservation globalLimit clientLimit,
        (∃ db', (reserveBudgets usageDate client reservation globalLimit clientLimit).run
          (Db.after calls) = .ok (true, db')) ↔
        (Db.after calls).WithinLimits usageDate client reservation globalLimit clientLimit ∧
          (Db.after calls).FitsLedgers usageDate client reservation) ∧
      (∀ usageDate client reservation globalLimit clientLimit,
        fitsNumeric40 globalLimit → fitsNumeric40 clientLimit →
        ((∃ db', (reserveBudgets usageDate client reservation globalLimit clientLimit).run
          (Db.after calls) = .ok (true, db')) ↔
        (Db.after calls).WithinLimits usageDate client reservation globalLimit clientLimit)) ∧
      (∀ new usageDate now, ((StoreOp.claimReservation new usageDate).exec now (Db.after calls)).1
          = .ok ClaimReply.budgetExceeded →
        ((StoreOp.claimReservation new usageDate).exec now (Db.after calls)).2 = Db.after calls) ∧
      (∀ retry usageDate now, ((StoreOp.resumeReservation retry usageDate).exec now
          (Db.after calls)).1 = .ok ResumeReply.budgetExceeded →
        ((StoreOp.resumeReservation retry usageDate).exec now (Db.after calls)).2
          = Db.after calls) := by
  have hbounded : ∀ k : LedgerKey,
      ((Db.after calls).usage k).reserved + ((Db.after calls).usage k).spent ≤
        largestLimit k (Books.after calls).reservations + overrun k (Books.after calls).charges :=
    fun k => Books.after_db calls ▸ (Books.balancedAt_after calls k).bounded
  refine ⟨hbounded, ?_, ?_, ?_, ?_, ?_⟩
  · intro k limit hlimit hcharges
    have hzero := overrun_eq_zero hcharges
    have hlargest := largestLimit_le hlimit
    have := hbounded k
    omega
  · intro usageDate client reservation globalLimit clientLimit
    exact reserveBudgets_granted
  · intro usageDate client reservation globalLimit clientLimit hglobal hclient
    rw [reserveBudgets_granted]
    exact ⟨And.left, fun h => ⟨h, h.fitsLedgers hglobal hclient⟩⟩
  · intro new usageDate now
    exact budgetExceeded_unchanged (.claimReservation new usageDate) now _
  · intro retry usageDate now
    exact budgetExceeded_unchanged (.resumeReservation retry usageDate) now _

/-- Two reservations of `6 * 10 ^ 39` under a limit of `2 * 10 ^ 40`: the second is within both
limits, and still fails because the sum does not fit the ledger's column. -/
theorem reservation_overflows_ledger :
    let calls : List StoreCall := [⟨.createClient 7, 0⟩,
      ⟨.claimReservation (sampleNearClaim 1 (6 * 10 ^ 39) (2 * 10 ^ 40)) 3, 1⟩]
    let second := StoreOp.claimReservation (sampleNearClaim 2 (6 * 10 ^ 39) (2 * 10 ^ 40)) 3
    (Db.after calls).WithinLimits 3 7 (6 * 10 ^ 39) (2 * 10 ^ 40) (2 * 10 ^ 40) ∧
      (second.exec 2 (Db.after calls)).1 = .error (.database .numericOverflow) := by
  refine ⟨⟨?_, ?_⟩, ?_⟩
  · decide
  · decide
  · rfl

end X402Facilitator
