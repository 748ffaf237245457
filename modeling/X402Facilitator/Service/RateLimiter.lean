import Mathlib.Algebra.Group.Nat.Defs
import Mathlib.Logic.Function.Basic
import X402Facilitator.Lib.FixedWindow

/-!
# The rate limiter of the request handlers

`RateLimiter::check` keeps one window per key prefix and operation. The handlers call it after the
key has been authenticated, with the smaller of the client's and the process's requests per minute.

The limiter refines a family of fixed windows, one per entry of its map: what it answers to the
calls of an entry is what the window of that entry alone answers (`entry_after`). The bounds are
those of the library.
-/

namespace X402Facilitator

inductive Operation where
  | verify
  | settle
deriving DecidableEq, Repr

/-- An entry of the map. Instants are nanoseconds of a monotonic clock. -/
structure RateWindow where
  started : Nat
  count : UInt32
deriving DecidableEq, Repr

def u32SaturatingAdd (a b : UInt32) : UInt32 :=
  if a.toNat + b.toNat < 2 ^ 32 then a + b else UInt32.ofNat (2 ^ 32 - 1)

/-- `Duration::from_secs(60)`. -/
def rateWindowLength : Nat := 60 * 1000000000

structure RateLimiter where
  windows : String × Operation → Option RateWindow

/-- `RateLimiter::default`. -/
def RateLimiter.empty : RateLimiter := ⟨fun _ => none⟩

def RateLimiter.check (self : RateLimiter) (now : Nat) (keyPrefix : String) (operation : Operation)
    (limit : UInt32) : Bool × RateLimiter :=
  let window := (self.windows (keyPrefix, operation)).getD ⟨now, 0⟩
  -- `duration_since` saturates at zero.
  let window := if now - window.started ≥ rateWindowLength then ⟨now, 0⟩ else window
  if window.count ≥ limit then
    (false, ⟨Function.update self.windows (keyPrefix, operation) (some window)⟩)
  else
    (true, ⟨Function.update self.windows (keyPrefix, operation)
      (some { window with count := u32SaturatingAdd window.count 1 })⟩)

/-! ## Runs -/

structure RateCall where
  now : Nat
  keyPrefix : String
  operation : Operation

def RateCall.entry (call : RateCall) : String × Operation := (call.keyPrefix, call.operation)

/-- A limiter and the calls that it has answered, newest first. -/
structure RateRun where
  limiter : RateLimiter
  log : List ((String × Operation) × FixedWindow.Counted)

namespace RateRun

/-- One call, under the limits of the keys and operations. -/
def step (limits : String × Operation → UInt32) (s : RateRun) (call : RateCall) : RateRun :=
  let (accepted, limiter) :=
    s.limiter.check call.now call.keyPrefix call.operation (limits call.entry)
  let started := (limiter.windows call.entry).elim call.now RateWindow.started
  ⟨limiter, (call.entry, ⟨call.now, accepted, started⟩) :: s.log⟩

def after (limits : String × Operation → UInt32) (calls : List RateCall) : RateRun :=
  Run.after (step limits) ⟨.empty, []⟩ calls

/-- The answers to the calls of one key and operation, newest first. -/
def answers (s : RateRun) (entry : String × Operation) : List FixedWindow.Counted :=
  (s.log.filter fun x => x.1 = entry).map Prod.snd

end RateRun

/-! ## The limiter as a family of windows -/

def RateWindow.toWindow (window : RateWindow) : FixedWindow.Window :=
  ⟨window.started, window.count.toNat⟩

/-- The count stays below the limit, so the addition does not saturate. -/
theorem toNat_u32SaturatingAdd_one {count limit : UInt32} (h : count < limit) :
    (u32SaturatingAdd count 1).toNat = count.toNat + 1 := by
  have hcount : count.toNat < limit.toNat := UInt32.lt_iff_toNat_lt.mp h
  have hlimit : limit.toNat < 2 ^ 32 := limit.toNat_lt
  have hone : (1 : UInt32).toNat = 1 := rfl
  rw [u32SaturatingAdd, if_pos (by omega), UInt32.toNat_add, hone, Nat.mod_eq_of_lt (by omega)]

theorem RateWindow.toWindow_current (window : Option RateWindow) (now : Nat) :
    (let window := window.getD ⟨now, 0⟩
      if now - window.started ≥ rateWindowLength then ⟨now, 0⟩ else window).toWindow =
        FixedWindow.current rateWindowLength (window.map toWindow) now := by
  cases window with
  | none =>
    dsimp only [FixedWindow.current, Option.getD_none, Option.map_none]
    rw [ite_self, ite_self]
    rfl
  | some window =>
    dsimp only [FixedWindow.current, Option.getD_some, Option.map_some]
    rw [apply_ite RateWindow.toWindow]
    rfl

/-- `check` counts the call in the window of its entry, and touches no other entry. -/
theorem RateLimiter.check_eq (self : RateLimiter) (now : Nat) (keyPrefix : String)
    (operation : Operation) (limit : UInt32) :
    ∃ accepted window,
      self.check now keyPrefix operation limit =
        (accepted, ⟨Function.update self.windows (keyPrefix, operation) (some window)⟩) ∧
      FixedWindow.decideAt rateWindowLength limit.toNat
        ((self.windows (keyPrefix, operation)).map RateWindow.toWindow) now =
          (accepted, window.toWindow) := by
  unfold check FixedWindow.decideAt
  rw [← RateWindow.toWindow_current]
  dsimp only
  generalize (if now - ((self.windows (keyPrefix, operation)).getD ⟨now, 0⟩).started ≥
    rateWindowLength then ⟨now, 0⟩ else (self.windows (keyPrefix, operation)).getD ⟨now, 0⟩) = window
  by_cases hfull : limit ≤ window.count
  · have hfull' : limit.toNat ≤ window.toWindow.count := UInt32.le_iff_toNat_le.mp hfull
    exact ⟨false, window, if_pos hfull, if_pos hfull'⟩
  · have hroom : window.count < limit := UInt32.not_le.mp hfull
    have hfull' : ¬ limit.toNat ≤ window.toWindow.count :=
      fun h => hfull (UInt32.le_iff_toNat_le.mpr h)
    refine ⟨true, _, if_neg hfull, (if_neg hfull').trans ?_⟩
    simp only [RateWindow.toWindow, toNat_u32SaturatingAdd_one hroom]

namespace RateRun

variable {limits : String × Operation → UInt32}

/-- The window and the answers of one entry. -/
def project (s : RateRun) (entry : String × Operation) : FixedWindow.State :=
  ⟨(s.limiter.windows entry).map RateWindow.toWindow, s.answers entry⟩

/-- A call is a call to the window of its entry, and to no other. -/
theorem project_step (s : RateRun) (call : RateCall) (entry : String × Operation) :
    (step limits s call).project entry =
      if call.entry = entry then
        FixedWindow.step rateWindowLength (limits entry).toNat (s.project entry) call.now
      else s.project entry := by
  obtain ⟨now, keyPrefix, operation⟩ := call
  obtain ⟨accepted, window, hcheck, hdecide⟩ := s.limiter.check_eq now keyPrefix operation
    (limits (keyPrefix, operation))
  have hstep : step limits s ⟨now, keyPrefix, operation⟩ =
      ⟨⟨Function.update s.limiter.windows (keyPrefix, operation) (some window)⟩,
        ((keyPrefix, operation), ⟨now, accepted, window.started⟩) :: s.log⟩ := by
    simp only [step, RateCall.entry, hcheck, Function.update_self, Option.elim_some]
  rw [hstep]
  by_cases hentry : (keyPrefix, operation) = entry
  · subst hentry
    simp [FixedWindow.step, project, answers, hdecide, RateCall.entry, RateWindow.toWindow]
  · simp [project, answers, Function.update_of_ne (Ne.symm hentry), hentry, RateCall.entry]

/-- The run of one entry is the run of one window, over the calls of that entry. -/
theorem entry_after (calls : List RateCall) (entry : String × Operation) :
    (after limits calls).project entry =
      FixedWindow.after rateWindowLength (limits entry).toNat
        ((calls.filter fun call => call.entry = entry).map RateCall.now) := by
  induction calls using List.reverseRecOn with
  | nil => rfl
  | append_singleton calls call ih =>
    rw [after, Run.after_concat, project_step, List.filter_append, List.map_append]
    rw [after] at ih
    by_cases hentry : call.entry = entry
    · rw [if_pos hentry, ih]
      simp [hentry, FixedWindow.after]
    · simp [hentry, ih]

theorem invariant_project (limits : String × Operation → UInt32) {calls : List RateCall}
    (hclock : calls.Pairwise fun a b => a.now ≤ b.now) (entry : String × Operation) :
    ∃ now, FixedWindow.Invariant rateWindowLength (limits entry).toNat now
      ((after limits calls).project entry) := by
  rw [entry_after]
  have htimes : ((calls.filter fun call => call.entry = entry).map RateCall.now).Pairwise (· ≤ ·) :=
    List.pairwise_map.mpr (hclock.filter _)
  have hlength : 0 < rateWindowLength := by decide
  obtain ⟨now, hinvariant, -⟩ := FixedWindow.invariant_after hlength htimes
  exact ⟨now, hinvariant⟩

/-- For calls of any keys and operations under a clock that does not go back: in an interval of 60
seconds at most twice the limit of an entry is accepted, in one of its windows at most the limit, a
call is rejected only in a window of less than 60 seconds that has accepted as many calls as the
limit allows, and the answers depend on the calls and on the limit of that entry alone. -/
theorem rate_limit_bound (limits : String × Operation → UInt32) (calls : List RateCall)
    (hclock : calls.Pairwise fun a b => a.now ≤ b.now) (entry : String × Operation) :
    (∀ start, FixedWindow.acceptedWithin start (start + rateWindowLength)
      ((after limits calls).answers entry) ≤ 2 * (limits entry).toNat) ∧
    (∀ started, FixedWindow.acceptedIn started ((after limits calls).answers entry) ≤
      (limits entry).toNat) ∧
    (∀ later c earlier, (after limits calls).answers entry = later ++ c :: earlier →
      c.accepted = false →
        c.started ≤ c.now ∧ c.now < c.started + rateWindowLength ∧
        FixedWindow.acceptedIn c.started earlier = (limits entry).toNat) ∧
    ∀ limits' calls', limits' entry = limits entry →
      (calls'.filter fun call => call.entry = entry) =
        (calls.filter fun call => call.entry = entry) →
      (after limits' calls').answers entry = (after limits calls).answers entry := by
  obtain ⟨now, hinvariant⟩ := invariant_project limits hclock entry
  refine ⟨hinvariant.acceptedWithin_le, hinvariant.bounded, ?_, ?_⟩
  · intro later c earlier hsplit hrejected
    have hmem : c ∈ (after limits calls).answers entry := by rw [hsplit]; simp
    have hplaced := hinvariant.placed c hmem
    exact ⟨hplaced.1, hplaced.2, hinvariant.rejected later c earlier hsplit hrejected⟩
  · intro limits' calls' hlimits hcalls
    have hproject : (after limits' calls').project entry = (after limits calls).project entry := by
      rw [entry_after, entry_after, hlimits, hcalls]
    exact congrArg FixedWindow.State.log hproject

/-- A limit of one: two keys that settle at once are both answered, the second call of the first key
is rejected, and a minute after its first call the key is answered again. -/
theorem rate_limit_bound_alternating :
    let limits : String × Operation → UInt32 := fun _ => 1
    let calls : List RateCall := [⟨5, "a", .settle⟩, ⟨5, "b", .settle⟩, ⟨7, "a", .settle⟩,
      ⟨60000000005, "a", .settle⟩]
    ((after limits calls).answers ("a", .settle)).map FixedWindow.Counted.accepted =
      [true, false, true] ∧
    ∀ start, FixedWindow.acceptedWithin start (start + rateWindowLength)
      ((after limits calls).answers ("a", .settle)) ≤ 2 :=
  ⟨by decide, (rate_limit_bound (fun _ => 1) _ (by decide) ("a", .settle)).1⟩

end RateRun

end X402Facilitator
