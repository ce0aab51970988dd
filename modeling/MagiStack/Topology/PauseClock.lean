import Mathlib.Algebra.Order.Field.Rat
import Mathlib.Data.List.Pairwise
import Mathlib.Order.Monotone.Basic
import Mathlib.Tactic.Linarith
import Mathlib.Tactic.Ring

/-!
# PauseClock — the simulated time across pause, step and resume

Embedding of the clock of `core/sim_clock.c`.  While the clock runs, the simulated time is the time since
`g_t0` less an accumulated pause; while it is paused, it stands at a value that steps move on.  Times are
exact numbers, and every call of `clock_gettime` takes the next reading of a given clock.

A time that was reported once bounds every time reported later, in whatever state the clock is by then.
-/

namespace MagiStack

/-! ## The clock -/

/-- `struct timespec`. -/
structure Timespec where
  tvSec : Int
  tvNsec : Int
  deriving DecidableEq, Repr

/-- A reading in milliseconds. -/
def Timespec.toMs (t : Timespec) : ℚ :=
  t.tvSec * 1000 + t.tvNsec / 10 ^ 6

/-- The static variables of `sim_clock.c`, and the number of readings taken so far. -/
structure PauseClock where
  t0 : Timespec
  t0Initialized : Bool
  speed : ℚ
  paused : Bool
  pausedAtSimMs : ℚ
  pausedAccumMs : ℚ
  reads : Nat
  deriving DecidableEq

/-- The variables when the program starts. -/
def pauseClockInit : PauseClock :=
  { t0 := ⟨0, 0⟩
    t0Initialized := false
    speed := 1
    paused := false
    pausedAtSimMs := 0
    pausedAccumMs := 0
    reads := 0 }

section Calls

variable (clock : Nat → Timespec)

/-- `clock_gettime(CLOCK_MONOTONIC, ...)`. -/
def clockGettime (s : PauseClock) : Timespec × PauseClock :=
  (clock s.reads, { s with reads := s.reads + 1 })

/-- `ensure_t0`. -/
def ensureT0 (s : PauseClock) : PauseClock :=
  if s.t0Initialized then s
  else { (clockGettime clock s).2 with t0 := (clockGettime clock s).1, t0Initialized := true }

/-- `monotonic_ms_since_t0`. -/
def monotonicMsSinceT0 (s : PauseClock) : ℚ × PauseClock :=
  let s := ensureT0 clock s
  let (now, s) := clockGettime clock s
  (((now.tvSec - s.t0.tvSec : Int) : ℚ) * 1000 + ((now.tvNsec - s.t0.tvNsec : Int) : ℚ) / 10 ^ 6, s)

/-- `sim_clock_set_speed`. -/
def simClockSetSpeed (s : PauseClock) (factor : ℚ) : PauseClock :=
  let factor := if factor < 5 / 100 then 5 / 100 else factor
  let factor := if 64 < factor then 64 else factor
  { s with speed := factor }

/-- `sim_clock_now_ms`. -/
def simClockNowMs (s : PauseClock) : ℚ × PauseClock :=
  if s.paused then
    (s.pausedAtSimMs, s)
  else
    let (ms, s) := monotonicMsSinceT0 clock s
    (ms - s.pausedAccumMs, s)

/-- `sim_clock_set_paused`. -/
def simClockSetPaused (s : PauseClock) (paused : Bool) : PauseClock :=
  if paused && !s.paused then
    let (now, s) := simClockNowMs clock s
    { s with pausedAtSimMs := now, paused := true }
  else if !paused && s.paused then
    let (realNow, s) := monotonicMsSinceT0 clock s
    { s with pausedAccumMs := realNow - s.pausedAtSimMs, paused := false }
  else
    s

/-- `sim_clock_step`. -/
def simClockStep (s : PauseClock) (advanceMs : ℚ) : PauseClock :=
  if s.paused && decide (0 < advanceMs) then
    { s with pausedAtSimMs := s.pausedAtSimMs + advanceMs }
  else
    s

/-! ## Runs -/

/-- A call from outside. -/
inductive SimClockCall
  | setPaused (paused : Bool)
  | step (advanceMs : ℚ)
  | setSpeed (factor : ℚ)
  | nowMs
  deriving DecidableEq

/-- One call, with the time it returns. -/
def simClockCall (s : PauseClock) : SimClockCall → Option ℚ × PauseClock
  | .setPaused paused => (none, simClockSetPaused clock s paused)
  | .step advanceMs => (none, simClockStep s advanceMs)
  | .setSpeed factor => (none, simClockSetSpeed s factor)
  | .nowMs => ((simClockNowMs clock s).1, (simClockNowMs clock s).2)

/-- Calls in a row: the times that are returned, and the clock after them. -/
def simClockRun (s : PauseClock) : List SimClockCall → List ℚ × PauseClock
  | [] => ([], s)
  | call :: calls =>
      let (returned, s) := simClockCall clock s call
      let (rest, s) := simClockRun s calls
      (returned.toList ++ rest, s)

end Calls

/-! ## What the calls do -/

section Steps

variable {clock : Nat → Timespec} {s : PauseClock}

theorem ensureT0_t0Initialized (clock : Nat → Timespec) (s : PauseClock) :
    (ensureT0 clock s).t0Initialized = true := by
  rw [ensureT0]
  split
  · assumption
  · rfl

theorem ensureT0_eq (h : s.t0Initialized = true) : ensureT0 clock s = s := if_pos h

/-- `ensure_t0` touches neither the pause nor what has accumulated. -/
theorem ensureT0_pause (clock : Nat → Timespec) (s : PauseClock) :
    (ensureT0 clock s).paused = s.paused ∧ (ensureT0 clock s).pausedAtSimMs = s.pausedAtSimMs ∧
      (ensureT0 clock s).pausedAccumMs = s.pausedAccumMs := by
  rw [ensureT0]
  split
  · exact ⟨rfl, rfl, rfl⟩
  · exact ⟨rfl, rfl, rfl⟩

/-- The time since `g_t0` is the difference of two readings, and takes one reading. -/
theorem monotonicMsSinceT0_eq (clock : Nat → Timespec) (s : PauseClock) :
    monotonicMsSinceT0 clock s =
      ((clock (ensureT0 clock s).reads).toMs - (ensureT0 clock s).t0.toMs,
        { ensureT0 clock s with reads := (ensureT0 clock s).reads + 1 }) := by
  simp only [monotonicMsSinceT0, clockGettime, Timespec.toMs]
  refine Prod.ext ?_ rfl
  push_cast
  ring

/-- The time a running clock reports at a reading. -/
def runningMs (s : PauseClock) (now : Timespec) : ℚ :=
  now.toMs - s.t0.toMs - s.pausedAccumMs

theorem simClockNowMs_paused (h : s.paused = true) : simClockNowMs clock s = (s.pausedAtSimMs, s) := if_pos h

theorem simClockNowMs_running (h : s.paused = false) :
    simClockNowMs clock s =
      (runningMs (ensureT0 clock s) (clock (ensureT0 clock s).reads),
        { ensureT0 clock s with reads := (ensureT0 clock s).reads + 1 }) := by
  rw [simClockNowMs, if_neg (by simp [h]), monotonicMsSinceT0_eq]
  rfl

theorem simClockNowMs_initialized (h : s.paused = false) (hinit : s.t0Initialized = true) :
    simClockNowMs clock s = (runningMs s (clock s.reads), { s with reads := s.reads + 1 }) := by
  rw [simClockNowMs_running h, ensureT0_eq hinit]

/-- Pausing stops the time at what is reported at a reading. -/
theorem simClockSetPaused_pause (h : s.paused = false) :
    simClockSetPaused clock s true =
      { ensureT0 clock s with
        reads := (ensureT0 clock s).reads + 1
        pausedAtSimMs := runningMs (ensureT0 clock s) (clock (ensureT0 clock s).reads)
        paused := true } := by
  rw [simClockSetPaused, if_pos (by simp [h]), simClockNowMs_running h]

/-- Resuming accumulates what makes the time at a reading the one it stood at. -/
theorem simClockSetPaused_resume (h : s.paused = true) :
    simClockSetPaused clock s false =
      { ensureT0 clock s with
        reads := (ensureT0 clock s).reads + 1
        pausedAccumMs := (clock (ensureT0 clock s).reads).toMs - (ensureT0 clock s).t0.toMs - s.pausedAtSimMs
        paused := false } := by
  rw [simClockSetPaused, if_neg (by simp), if_pos (by simp [h]), monotonicMsSinceT0_eq]
  simp only [(ensureT0_pause clock s).2.1]

theorem simClockSetPaused_same : simClockSetPaused clock s s.paused = s := by
  cases h : s.paused with
  | true => simp [simClockSetPaused, h]
  | false => simp [simClockSetPaused, h]

end Steps

/-! ## Reported times never decrease -/

section Monotone

variable {clock : Nat → Timespec} {s : PauseClock} {v : ℚ}

/-- No time below `v` will be reported: the clock stands at `v` or later, or runs and has passed it at its
next reading. -/
def HasReached (clock : Nat → Timespec) (s : PauseClock) (v : ℚ) : Prop :=
  if s.paused then v ≤ s.pausedAtSimMs
  else s.t0Initialized = true ∧ v ≤ runningMs s (clock s.reads)

theorem hasReached_paused (h : s.paused = true) : HasReached clock s v ↔ v ≤ s.pausedAtSimMs := by
  rw [HasReached, if_pos h]

theorem hasReached_running (h : s.paused = false) :
    HasReached clock s v ↔ s.t0Initialized = true ∧ v ≤ runningMs s (clock s.reads) := by
  rw [HasReached, if_neg (by simp [h])]

/-- A later reading shows no earlier time. -/
theorem runningMs_next (hclock : Monotone fun k => (clock k).toMs) (s : PauseClock) (k : Nat) :
    runningMs s (clock k) ≤ runningMs s (clock (k + 1)) := by
  have hnext : (clock k).toMs ≤ (clock (k + 1)).toMs := hclock (Nat.le_succ k)
  rw [runningMs, runningMs]
  linarith

/-- `sim_clock_now_ms` returns nothing below what was reached. -/
theorem HasReached.le_nowMs (h : HasReached clock s v) : v ≤ (simClockNowMs clock s).1 := by
  cases hpaused : s.paused with
  | true =>
      rw [simClockNowMs_paused hpaused]
      exact (hasReached_paused hpaused).mp h
  | false =>
      obtain ⟨hinit, hle⟩ := (hasReached_running hpaused).mp h
      rw [simClockNowMs_initialized hpaused hinit]
      exact hle

/-- What `sim_clock_now_ms` returns is reached after it. -/
theorem hasReached_nowMs (hclock : Monotone fun k => (clock k).toMs) (s : PauseClock) :
    HasReached clock (simClockNowMs clock s).2 (simClockNowMs clock s).1 := by
  cases hpaused : s.paused with
  | true =>
      rw [simClockNowMs_paused hpaused, hasReached_paused hpaused]
  | false =>
      rw [simClockNowMs_running hpaused,
        hasReached_running (by simp [(ensureT0_pause clock s).1, hpaused])]
      exact ⟨ensureT0_t0Initialized clock s, runningMs_next hclock (ensureT0 clock s) _⟩

theorem HasReached.le {w : ℚ} (h : HasReached clock s v) (hle : w ≤ v) : HasReached clock s w := by
  cases hpaused : s.paused with
  | true => exact (hasReached_paused hpaused).mpr (hle.trans ((hasReached_paused hpaused).mp h))
  | false =>
      obtain ⟨hinit, hreached⟩ := (hasReached_running hpaused).mp h
      exact (hasReached_running hpaused).mpr ⟨hinit, hle.trans hreached⟩

theorem HasReached.setPaused (hclock : Monotone fun k => (clock k).toMs) (h : HasReached clock s v)
    (paused : Bool) : HasReached clock (simClockSetPaused clock s paused) v := by
  by_cases hsame : paused = s.paused
  · rw [hsame, simClockSetPaused_same]
    exact h
  · cases hpaused : s.paused with
    | false =>
        obtain rfl : paused = true := by simpa [hpaused] using hsame
        obtain ⟨hinit, hle⟩ := (hasReached_running hpaused).mp h
        rw [simClockSetPaused_pause hpaused, ensureT0_eq hinit, hasReached_paused rfl]
        exact hle
    | true =>
        obtain rfl : paused = false := by simpa [hpaused] using hsame
        -- at its next reading the clock shows no less than at the one it resumes at
        have hle := (hasReached_paused hpaused).mp h
        have hnext : (clock (ensureT0 clock s).reads).toMs ≤ (clock ((ensureT0 clock s).reads + 1)).toMs :=
          hclock (Nat.le_succ _)
        rw [simClockSetPaused_resume hpaused, hasReached_running rfl]
        refine ⟨ensureT0_t0Initialized clock s, ?_⟩
        rw [runningMs]
        linarith

theorem HasReached.step (h : HasReached clock s v) (advanceMs : ℚ) :
    HasReached clock (simClockStep s advanceMs) v := by
  rw [simClockStep]
  split
  · rename_i hstep
    obtain ⟨hpaused, hpos⟩ : s.paused = true ∧ 0 < advanceMs := by simpa using hstep
    have hle := (hasReached_paused hpaused).mp h
    refine (@hasReached_paused clock { s with pausedAtSimMs := s.pausedAtSimMs + advanceMs } v hpaused).mpr ?_
    change v ≤ s.pausedAtSimMs + advanceMs
    linarith
  · exact h

/-- What one call does: it keeps what was reached, and returns nothing below it. -/
theorem HasReached.call (hclock : Monotone fun k => (clock k).toMs) (h : HasReached clock s v)
    (call : SimClockCall) :
    HasReached clock (simClockCall clock s call).2 v ∧
      ∀ w, (simClockCall clock s call).1 = some w →
        v ≤ w ∧ HasReached clock (simClockCall clock s call).2 w := by
  cases call with
  | setPaused paused => exact ⟨h.setPaused hclock paused, fun w hw => nomatch hw⟩
  | step advanceMs => exact ⟨h.step advanceMs, fun w hw => nomatch hw⟩
  | setSpeed factor => exact ⟨h, fun w hw => nomatch hw⟩
  | nowMs =>
      have hnow := hasReached_nowMs hclock s
      have hle := h.le_nowMs
      refine ⟨hnow.le hle, ?_⟩
      rintro w hw
      cases hw
      exact ⟨hle, hnow⟩

/-- Nothing below what was reached is returned in a whole run. -/
theorem HasReached.run (hclock : Monotone fun k => (clock k).toMs) (calls : List SimClockCall)
    (h : HasReached clock s v) : ∀ w ∈ (simClockRun clock s calls).1, v ≤ w := by
  induction calls generalizing s with
  | nil => simp [simClockRun]
  | cons call calls ih =>
      obtain ⟨hkeeps, hreturns⟩ := h.call hclock call
      intro w hw
      rw [simClockRun] at hw
      rcases List.mem_append.mp hw with hfirst | hrest
      · exact (hreturns w (Option.mem_toList.mp hfirst)).1
      · exact ih hkeeps w hrest

/-- The times that are returned in a run never decrease. -/
theorem simClockRun_monotone (hclock : Monotone fun k => (clock k).toMs) (s : PauseClock)
    (calls : List SimClockCall) : (simClockRun clock s calls).1.Pairwise (· ≤ ·) := by
  induction calls generalizing s with
  | nil => exact List.Pairwise.nil
  | cons call calls ih =>
      rw [simClockRun]
      -- only `sim_clock_now_ms` returns a time, which is reached from then on
      cases call with
      | setPaused paused => exact ih _
      | step advanceMs => exact ih _
      | setSpeed factor => exact ih _
      | nowMs => exact List.pairwise_cons.mpr ⟨(hasReached_nowMs hclock s).run hclock calls, ih _⟩

end Monotone

/-! ## Pausing, resuming and steps -/

/-- At an instant, pausing and resuming do not change the time that is reported. -/
theorem simClockNowMs_setPaused (s : PauseClock) (now : Timespec) (paused : Bool) :
    (simClockNowMs (fun _ => now) (simClockSetPaused (fun _ => now) s paused)).1 =
      (simClockNowMs (fun _ => now) s).1 := by
  by_cases hsame : paused = s.paused
  · rw [hsame, simClockSetPaused_same]
  · cases hpaused : s.paused with
    | false =>
        obtain rfl : paused = true := by simpa [hpaused] using hsame
        rw [simClockSetPaused_pause hpaused, simClockNowMs_paused rfl, simClockNowMs_running hpaused]
    | true =>
        obtain rfl : paused = false := by simpa [hpaused] using hsame
        -- what is accumulated cancels out at the same reading
        have hresumed := @simClockSetPaused_resume (fun _ => now) s hpaused
        have hrunning : (simClockSetPaused (fun _ => now) s false).paused = false := by rw [hresumed]
        have hinit : (simClockSetPaused (fun _ => now) s false).t0Initialized = true := by
          rw [hresumed]
          exact ensureT0_t0Initialized _ s
        rw [simClockNowMs_initialized hrunning hinit, hresumed, simClockNowMs_paused hpaused]
        change now.toMs - _ - (now.toMs - _ - s.pausedAtSimMs) = s.pausedAtSimMs
        ring

/-- What a step adds while the clock is paused. -/
def SimClockCall.advance : SimClockCall → ℚ
  | .step advanceMs => if 0 < advanceMs then advanceMs else 0
  | _ => 0

/-- While paused, a call that does not resume adds its step to the time the clock stands at. -/
theorem simClockCall_paused (clock : Nat → Timespec) {s : PauseClock} (h : s.paused = true)
    {call : SimClockCall} (hcall : call ≠ .setPaused false) :
    (simClockCall clock s call).2.paused = true ∧
      (simClockCall clock s call).2.pausedAtSimMs = s.pausedAtSimMs + call.advance := by
  cases call with
  | setPaused paused =>
      obtain rfl : paused = true := by
        cases paused with
        | true => rfl
        | false => exact absurd rfl hcall
      have hsame : simClockSetPaused clock s true = s := by
        rw [← h]
        exact simClockSetPaused_same
      rw [simClockCall, hsame]
      exact ⟨h, (add_zero _).symm⟩
  | step advanceMs =>
      rw [simClockCall, simClockStep, SimClockCall.advance]
      by_cases hpos : 0 < advanceMs
      · rw [if_pos (by simp [h, hpos]), if_pos hpos]
        exact ⟨h, rfl⟩
      · rw [if_neg (by simp [hpos]), if_neg hpos, add_zero]
        exact ⟨h, rfl⟩
  | setSpeed factor => exact ⟨h, (add_zero _).symm⟩
  | nowMs =>
      rw [simClockCall, simClockNowMs_paused h]
      exact ⟨h, (add_zero _).symm⟩

theorem simClockRun_paused (clock : Nat → Timespec) {s : PauseClock} (h : s.paused = true)
    (calls : List SimClockCall) (hcalls : ∀ call ∈ calls, call ≠ .setPaused false) :
    (simClockRun clock s calls).2.paused = true ∧
      (simClockRun clock s calls).2.pausedAtSimMs =
        s.pausedAtSimMs + (calls.map SimClockCall.advance).sum := by
  induction calls generalizing s with
  | nil => exact ⟨h, by simp [simClockRun]⟩
  | cons call calls ih =>
      obtain ⟨hfirst, hrest⟩ := List.forall_mem_cons.mp hcalls
      obtain ⟨hpaused, htime⟩ := simClockCall_paused clock h hfirst
      obtain ⟨hstill, hsum⟩ := ih hpaused hrest
      rw [simClockRun]
      refine ⟨hstill, hsum.trans ?_⟩
      rw [htime, List.map_cons, List.sum_cons, add_assoc]

/-! ## The simulated time -/

section Runs

variable {clock : Nat → Timespec}

theorem simClockRun_append (s : PauseClock) (before after : List SimClockCall) :
    (simClockRun clock s (before ++ after)).2 = (simClockRun clock (simClockRun clock s before).2 after).2 := by
  induction before generalizing s with
  | nil => rfl
  | cons call before ih => exact ih (simClockCall clock s call).2

/-- `sim_clock_set_paused` sets what it is asked for. -/
theorem simClockSetPaused_paused (s : PauseClock) (paused : Bool) :
    (simClockSetPaused clock s paused).paused = paused := by
  by_cases hsame : paused = s.paused
  · rw [hsame, simClockSetPaused_same]
  · cases hpaused : s.paused with
    | false =>
        obtain rfl : paused = true := by simpa [hpaused] using hsame
        rw [simClockSetPaused_pause hpaused]
    | true =>
        obtain rfl : paused = false := by simpa [hpaused] using hsame
        rw [simClockSetPaused_resume hpaused]

end Runs

/-- In every run, from whatever state the clock is in: the times that are returned never decrease; pausing
or resuming after it changes nothing at that instant; `sim_clock_set_paused` pauses and resumes the clock; and from
a pause on until the clock is resumed, the time changes by the positive steps only. -/
theorem simClock_continuous_monotone {clock : Nat → Timespec} (hclock : Monotone fun k => (clock k).toMs)
    (s : PauseClock) (calls : List SimClockCall) :
    (simClockRun clock s calls).1.Pairwise (· ≤ ·) ∧
      (∀ (now : Timespec) (paused : Bool),
        (simClockNowMs (fun _ => now)
            (simClockSetPaused (fun _ => now) (simClockRun clock s calls).2 paused)).1 =
          (simClockNowMs (fun _ => now) (simClockRun clock s calls).2).1) ∧
      (∀ paused : Bool, (simClockRun clock s (calls ++ [.setPaused paused])).2.paused = paused) ∧
      (∀ more : List SimClockCall, (∀ call ∈ more, call ≠ .setPaused false) →
        (simClockNowMs clock (simClockRun clock s (calls ++ .setPaused true :: more)).2).1 =
          (simClockNowMs clock (simClockRun clock s (calls ++ [.setPaused true])).2).1 +
            (more.map SimClockCall.advance).sum) := by
  have hset : ∀ paused : Bool, (simClockRun clock s (calls ++ [.setPaused paused])).2.paused = paused := by
    intro paused
    rw [simClockRun_append]
    exact simClockSetPaused_paused _ paused
  refine ⟨simClockRun_monotone hclock s calls, simClockNowMs_setPaused _, hset, fun more hmore => ?_⟩
  have hpaused := hset true
  obtain ⟨hstill, htime⟩ := simClockRun_paused clock hpaused more hmore
  have hsplit : calls ++ .setPaused true :: more = (calls ++ [.setPaused true]) ++ more := by
    rw [List.append_assoc, List.singleton_append]
  rw [hsplit, simClockRun_append, simClockNowMs_paused hstill, htime, simClockNowMs_paused hpaused]

/-- A clock that goes on by a second at each reading. -/
def tickingClock (k : Nat) : Timespec :=
  ⟨k, 0⟩

/-- The clock is asked, paused, stepped, asked again and resumed; the first pause stands at the time after two
readings, and the step moves it on. -/
theorem simClock_continuous_monotone_ticking :
    (simClockRun tickingClock pauseClockInit
        [.nowMs, .setPaused true, .step 50, .nowMs, .setPaused false, .nowMs]).1.Pairwise (· ≤ ·) ∧
      (simClockNowMs tickingClock
          (simClockRun tickingClock pauseClockInit [.nowMs, .setPaused true, .step 50, .nowMs]).2).1 = 2050 := by
  have hticking : Monotone fun k => (tickingClock k).toMs := by
    intro j k hjk
    simpa [tickingClock, Timespec.toMs] using hjk
  refine ⟨(@simClock_continuous_monotone tickingClock hticking pauseClockInit _).1, ?_⟩
  have hpaused := (@simClock_continuous_monotone tickingClock hticking pauseClockInit [.nowMs]).2.2.2
    [.step 50, .nowMs] (by decide)
  have hfrozen : (simClockNowMs tickingClock
      (simClockRun tickingClock pauseClockInit [.nowMs, .setPaused true]).2).1 = 2000 := by decide +kernel
  exact hpaused.trans (by rw [List.singleton_append, hfrozen]; decide +kernel)

end MagiStack
