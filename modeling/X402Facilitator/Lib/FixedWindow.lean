import Mathlib.Data.List.Induction
import Mathlib.Tactic.SplitIfs
import Mathlib.Tactic.Push
import X402Facilitator.Lib.Run

/-!
# Fixed windows

A counter admits at most `limit` calls in a window of `width` ticks. Windows are not aligned to the
clock: the first call after a window has run out opens the next one. The log keeps, for each call,
its time, the answer and the start of the window in which it was counted, newest first.

The starts of two different windows are at least `width` apart, and a call is counted in a window
that started less than `width` before it. So the calls of an interval of length `width` were counted
in at most two windows: one that started by the beginning of the interval, and one that started
later.
-/

namespace FixedWindow

structure Window where
  started : Nat
  count : Nat

/-- The window in which a call at `now` is counted. -/
def current (width : Nat) (window : Option Window) (now : Nat) : Window :=
  let window := window.getD ⟨now, 0⟩
  if width ≤ now - window.started then ⟨now, 0⟩ else window

/-- The answer to a call at `now`, and the window that it leaves. -/
def decideAt (width limit : Nat) (window : Option Window) (now : Nat) : Bool × Window :=
  let window := current width window now
  if limit ≤ window.count then (false, window)
  else (true, { window with count := window.count + 1 })

/-- A call as it was answered. -/
structure Counted where
  now : Nat
  accepted : Bool
  started : Nat
deriving DecidableEq

structure State where
  window : Option Window
  log : List Counted

def step (width limit : Nat) (s : State) (now : Nat) : State :=
  let (accepted, window) := decideAt width limit s.window now
  ⟨some window, ⟨now, accepted, window.started⟩ :: s.log⟩

/-- The counter after calls at the given times. -/
def after (width limit : Nat) (times : List Nat) : State :=
  Run.after (step width limit) ⟨none, []⟩ times

/-- How many calls of the log were accepted in the window that started at `started`. -/
def acceptedIn (started : Nat) (log : List Counted) : Nat :=
  log.countP fun c => c.accepted && c.started == started

/-- How many calls of the log were accepted from `start` on and before `stop`. -/
def acceptedWithin (start stop : Nat) (log : List Counted) : Nat :=
  log.countP fun c => c.accepted && decide (start ≤ c.now ∧ c.now < stop)

theorem acceptedIn_cons (started : Nat) (c : Counted) (log : List Counted) :
    acceptedIn started (c :: log) =
      acceptedIn started log + if c.accepted = true ∧ c.started = started then 1 else 0 := by
  simp [acceptedIn, List.countP_cons]

variable {width limit now : Nat}

/-! ## One call -/

/-- The window is the last one of the log, and a call at `now` is counted in it. -/
structure Fits (width limit : Nat) (log : List Counted) (now : Nat) (window : Window) : Prop where
  opened : window.started ≤ now
  running : now < window.started + width
  bounded : window.count ≤ limit
  counts : acceptedIn window.started log = window.count
  last : ∀ c ∈ log, c.started = window.started ∨ c.started + width ≤ window.started

/-- What holds of the counter once the clock has shown `now`. -/
structure Invariant (width limit : Nat) (now : Nat) (s : State) : Prop where
  window : ∀ w ∈ s.window, w.started ≤ now ∧ w.count ≤ limit ∧
    acceptedIn w.started s.log = w.count ∧
    ∀ c ∈ s.log, c.started = w.started ∨ c.started + width ≤ w.started
  fresh : s.window = none → s.log = []
  placed : ∀ c ∈ s.log, c.started ≤ c.now ∧ c.now < c.started + width
  apart : ∀ c ∈ s.log, ∀ d ∈ s.log, c.started = d.started ∨
    c.started + width ≤ d.started ∨ d.started + width ≤ c.started
  bounded : ∀ started, acceptedIn started s.log ≤ limit
  rejected : ∀ later c earlier, s.log = later ++ c :: earlier → c.accepted = false →
    acceptedIn c.started earlier = limit

theorem Invariant.init (width limit now : Nat) : Invariant width limit now ⟨none, []⟩ where
  window := nofun
  fresh _ := rfl
  placed := nofun
  apart := nofun
  bounded _ := Nat.zero_le _
  rejected later c earlier h := by simp at h

/-- A window that opens at `now` is empty: every window before it started a width earlier. -/
theorem fits_open {log : List Counted} (hwidth : 0 < width)
    (hlast : ∀ c ∈ log, c.started + width ≤ now) : Fits width limit log now ⟨now, 0⟩ where
  opened := Nat.le_refl now
  running := Nat.lt_add_of_pos_right hwidth
  bounded := Nat.zero_le _
  counts := by
    refine List.countP_eq_zero.mpr fun c hc => ?_
    have := hlast c hc
    simp only [Bool.and_eq_true, beq_iff_eq, not_and]
    omega
  last c hc := .inr (hlast c hc)

theorem Invariant.fits {s : State} {next : Nat} (hwidth : 0 < width)
    (hs : Invariant width limit now s) (hnext : now ≤ next) :
    Fits width limit s.log next (current width s.window next) := by
  obtain ⟨window, log⟩ := s
  cases window with
  | none =>
    obtain rfl : log = [] := hs.fresh rfl
    have hcurrent : current width none next = ⟨next, 0⟩ := ite_self _
    rw [hcurrent]
    exact fits_open hwidth nofun
  | some w =>
    obtain ⟨hopened, hbounded, hcounts, hlast⟩ := hs.window w rfl
    by_cases hover : width ≤ next - w.started
    · have hcurrent : current width (some w) next = ⟨next, 0⟩ := if_pos hover
      rw [hcurrent]
      refine fits_open hwidth fun c hc => ?_
      have := hlast c hc
      omega
    · have hcurrent : current width (some w) next = w := if_neg hover
      rw [hcurrent]
      exact ⟨by omega, by omega, hbounded, hcounts, hlast⟩

/-- The call is counted in its window: accepted while there is room, and rejected only if not. -/
theorem Fits.decideAt_cases {s : State} {next : Nat}
    (hfits : Fits width limit s.log next (current width s.window next)) :
    ∃ accepted window, decideAt width limit s.window next = (accepted, window) ∧
      Fits width limit (⟨next, accepted, window.started⟩ :: s.log) next window ∧
      (accepted = false → acceptedIn window.started s.log = limit) := by
  have hlast : ∀ accepted, ∀ c ∈ Counted.mk next accepted (current width s.window next).started ::
      s.log, c.started = (current width s.window next).started ∨
        c.started + width ≤ (current width s.window next).started := by
    intro accepted c hc
    obtain rfl | hc := List.mem_cons.mp hc
    · exact .inl rfl
    · exact hfits.last c hc
  by_cases hfull : limit ≤ (current width s.window next).count
  · refine ⟨false, _, if_pos hfull, ⟨hfits.opened, hfits.running, hfits.bounded, ?_, hlast _⟩, ?_⟩
    · simpa [acceptedIn_cons] using hfits.counts
    · intro _
      exact hfits.counts.trans (Nat.le_antisymm hfits.bounded hfull)
  · refine ⟨true, _, if_neg hfull, ⟨hfits.opened, hfits.running, ?_, ?_, hlast _⟩, nofun⟩
    · exact Nat.lt_of_not_le hfull
    · simpa [acceptedIn_cons] using hfits.counts

theorem Invariant.step {s : State} {next : Nat} (hwidth : 0 < width)
    (hs : Invariant width limit now s) (hnext : now ≤ next) :
    Invariant width limit next (step width limit s next) := by
  obtain ⟨accepted, window, hdecide, hfits, hfull⟩ := (hs.fits hwidth hnext).decideAt_cases
  have hstep : FixedWindow.step width limit s next =
      ⟨some window, ⟨next, accepted, window.started⟩ :: s.log⟩ := by
    simp only [FixedWindow.step, hdecide]
  rw [hstep]
  refine ⟨?_, nofun, ?_, ?_, ?_, ?_⟩
  · rintro w ⟨⟩
    exact ⟨hfits.opened, hfits.bounded, hfits.counts, hfits.last⟩
  · intro c hc
    obtain rfl | hc := List.mem_cons.mp hc
    · exact ⟨hfits.opened, hfits.running⟩
    · exact hs.placed c hc
  · intro c hc d hd
    obtain rfl | hc' := List.mem_cons.mp hc
    · have := hfits.last d hd
      dsimp only
      omega
    · obtain rfl | hd := List.mem_cons.mp hd
      · have := hfits.last c hc
        dsimp only
        omega
      · exact hs.apart c hc' d hd
  · intro started
    by_cases hstarted : window.started = started
    · rw [← hstarted, hfits.counts]
      exact hfits.bounded
    · rw [acceptedIn_cons, if_neg fun h => hstarted h.2]
      exact hs.bounded started
  · intro later c earlier hsplit hc
    cases later with
    | nil =>
      obtain ⟨rfl, rfl⟩ := List.cons.inj hsplit
      exact hfull hc
    | cons d later => exact hs.rejected later c earlier (List.cons.inj hsplit).2 hc

/-! ## Whole runs -/

/-- Under a clock that never goes back, the invariant holds after every run, up to the last reading
of the clock. -/
theorem invariant_after (hwidth : 0 < width) {times : List Nat} (hclock : times.Pairwise (· ≤ ·)) :
    ∃ now, Invariant width limit now (after width limit times) ∧
      ∀ next, (∀ time ∈ times, time ≤ next) → now ≤ next := by
  induction times using List.reverseRecOn with
  | nil => exact ⟨0, .init width limit 0, fun next _ => Nat.zero_le next⟩
  | append_singleton times time ih =>
    obtain ⟨hbefore, -, hlast⟩ := List.pairwise_append.mp hclock
    obtain ⟨now, hinvariant, hnow⟩ := ih hbefore
    have hle : now ≤ time := hnow time fun t ht => hlast t ht time (List.mem_singleton_self time)
    refine ⟨time, ?_, fun next hnext => hnext time (by simp)⟩
    rw [after, Run.after_concat]
    exact hinvariant.step hwidth hle

/-- Calls that were all counted in one window are at most `limit`. -/
theorem Invariant.countP_le {s : State} {p : Counted → Bool} (hs : Invariant width limit now s)
    (hp : ∀ c ∈ s.log, p c = true → c.accepted = true)
    (hsame : ∀ c ∈ s.log, p c = true → ∀ d ∈ s.log, p d = true → c.started = d.started) :
    s.log.countP p ≤ limit := by
  by_cases hnone : ∃ c ∈ s.log, p c = true
  · obtain ⟨c, hc, hpc⟩ := hnone
    refine Nat.le_trans (List.countP_mono_left fun d hd hpd => ?_) (hs.bounded c.started)
    simp [hp d hd hpd, hsame d hd hpd c hc hpc]
  · push Not at hnone
    rw [List.countP_eq_zero.mpr fun c hc => by simpa using hnone c hc]
    exact Nat.zero_le limit

/-- Two calls whose windows started less than a width apart were counted in one window. -/
theorem Invariant.started_eq {s : State} (hs : Invariant width limit now s) {c d : Counted}
    (hc : c ∈ s.log) (hd : d ∈ s.log) (hcd : c.started < d.started + width)
    (hdc : d.started < c.started + width) : c.started = d.started := by
  have := hs.apart c hc d hd
  omega

/-- An interval of one width meets at most two windows. -/
theorem Invariant.acceptedWithin_le {s : State} (hs : Invariant width limit now s) (start : Nat) :
    acceptedWithin start (start + width) s.log ≤ 2 * limit := by
  -- The windows that started by the beginning of the interval, and those that started later.
  let old : Counted → Bool := fun c =>
    c.accepted && decide (start ≤ c.now ∧ c.now < start + width ∧ c.started ≤ start)
  let new : Counted → Bool := fun c =>
    c.accepted && decide (start ≤ c.now ∧ c.now < start + width ∧ start < c.started)
  have hsplit : acceptedWithin start (start + width) s.log ≤
      s.log.countP old + s.log.countP new := by
    unfold acceptedWithin
    induction s.log with
    | nil => simp
    | cons c log ih =>
      cases haccepted : c.accepted with
      | false => simpa [old, new, List.countP_cons, haccepted] using ih
      | true =>
        simp only [List.countP_cons, old, new, haccepted, Bool.true_and, decide_eq_true_eq] at ih ⊢
        split_ifs <;> omega
  have hold : s.log.countP old ≤ limit := by
    refine hs.countP_le (fun c _ h => ((Bool.and_eq_true _ _).mp h).1) fun c hc hpc d hd hpd => ?_
    have := hs.placed c hc
    have := hs.placed d hd
    simp only [old, Bool.and_eq_true, decide_eq_true_eq] at hpc hpd
    exact hs.started_eq hc hd (by omega) (by omega)
  have hnew : s.log.countP new ≤ limit := by
    refine hs.countP_le (fun c _ h => ((Bool.and_eq_true _ _).mp h).1) fun c hc hpc d hd hpd => ?_
    have := hs.placed c hc
    have := hs.placed d hd
    simp only [new, Bool.and_eq_true, decide_eq_true_eq] at hpc hpd
    exact hs.started_eq hc hd (by omega) (by omega)
  omega

end FixedWindow
