import HostDevices.RateTimer
import Mathlib.Algebra.Ring.Nat

/-!
# The ticks of a timer over many polls

A timer is polled again and again, and the clock may do what it likes in between: stand still, jump
ahead, go back or start over.  The ticks are then a function of one number only, the latest time
that was ever read.

* `peak` — the latest time among a start and readings after it.
* `Period.ticksTo` — the whole periods from a start to a time.
* `RateTimer.pollAll` — polls with readings in order.
* `RateTimer.OnGrid` — the invariant: the time kept is the last point of the period's grid, counted
  from the start, that lies at or before the latest time.
* `RateTimer.OnGrid.poll` — one poll keeps it, and `RateTimer.OnGrid.pollAll` — so do many.
* `RateTimer.ticks_pollAll_of_create` — the ticks of every poll and of all of them, in closed form.
-/

namespace HostDevices

/-! ## The latest time -/

/-- The latest time among a start and readings after it. -/
def peak (start : Nat) (readings : List UInt64) : Nat :=
  (readings.map UInt64.toNat).foldl max start

@[simp] theorem peak_nil (start : Nat) : peak start [] = start := rfl

@[simp] theorem peak_cons (start : Nat) (now : UInt64) (readings : List UInt64) :
    peak start (now :: readings) = peak (max start now.toNat) readings := rfl

theorem peak_append (start : Nat) (readings more : List UInt64) :
    peak start (readings ++ more) = peak (peak start readings) more := by
  simp [peak]

theorem le_peak (start : Nat) (readings : List UInt64) : start ≤ peak start readings := by
  induction readings generalizing start with
  | nil => exact Nat.le_refl _
  | cons now rest ih => exact Nat.le_trans (Nat.le_max_left _ _) (ih _)

/-- The whole periods from a start to a time. -/
def Period.ticksTo (p : Period) (start time : Nat) : Nat := (time - start) / p.micros.toNat

@[simp] theorem Period.ticksTo_self (p : Period) (start : Nat) : p.ticksTo start start = 0 := by
  simp [ticksTo]

theorem Period.ticksTo_mono (p : Period) (start : Nat) {a b : Nat} (h : a ≤ b) :
    p.ticksTo start a ≤ p.ticksTo start b :=
  Nat.div_le_div_right (Nat.sub_le_sub_right h _)

/-- The count of whole periods, with the difference and the quotient taken in the integers. -/
theorem Period.natCast_ticksTo (p : Period) {start time : Nat} (h : start ≤ time) :
    (p.ticksTo start time : Int) = ((time : Int) - start) / p.micros.toNat := by
  rw [ticksTo, Int.natCast_ediv, Int.natCast_sub h]

namespace RateTimer

/-! ## One poll -/

/-- The timer has counted every tick from a start to a time: it keeps the last point of the grid
that is not after that time. -/
structure OnGrid (t : RateTimer) (p : Period) (start time : Nat) : Prop where
  period : t.period = p
  start_le : start ≤ time
  last : t.last.toNat = start + p.micros.toNat * p.ticksTo start time

variable {t : RateTimer} {p : Period} {start time : Nat}

theorem onGrid_start (p : Period) (now : UInt64) :
    (RateTimer.start p now).OnGrid p now.toNat now.toNat where
  period := rfl
  start_le := Nat.le_refl _
  last := by simp [RateTimer.start]

/-- Whole periods between the time kept and a reading are those by which the reading raises the
count of ticks from the start; a reading that is not the latest raises it by none. -/
theorem OnGrid.div_eq (h : t.OnGrid p start time) (now : UInt64) :
    (now.toNat - t.last.toNat) / p.micros.toNat =
      p.ticksTo start (max time now.toNat) - p.ticksTo start time := by
  rw [h.last, ← Nat.sub_sub, Nat.sub_mul_div]
  by_cases hle : now.toNat ≤ time
  · rw [Nat.max_eq_left hle, Nat.sub_self]
    exact Nat.sub_eq_zero_of_le (p.ticksTo_mono start hle)
  · rw [Nat.max_eq_right (Nat.le_of_not_le hle)]
    rfl

/-- A poll counts the ticks by which its reading raises the count from the start. -/
theorem OnGrid.ticks_poll (h : t.OnGrid p start time) (v : Verbosity) (now : UInt64) :
    (t.poll v now).val.1.toNat =
      p.ticksTo start (max time now.toNat) - p.ticksTo start time := by
  rw [toNat_ticks_poll, h.period, h.div_eq]

/-- A poll leaves the timer on the grid, up to the latest time so far. -/
theorem OnGrid.poll (h : t.OnGrid p start time) (v : Verbosity) (now : UInt64) :
    (t.poll v now).val.2.OnGrid p start (max time now.toNat) where
  period := by rw [period_poll, h.period]
  start_le := Nat.le_trans h.start_le (Nat.le_max_left _ _)
  last := by
    have hmono := p.ticksTo_mono start (Nat.le_max_left time now.toNat)
    rw [toNat_last_poll, h.period, h.div_eq, h.last, Nat.add_assoc, ← Nat.mul_add,
      Nat.add_sub_cancel' hmono]

/-- Two timers that have counted the same ticks are the same. -/
theorem OnGrid.unique {u : RateTimer} (h : t.OnGrid p start time) (hu : u.OnGrid p start time) :
    t = u := by
  obtain ⟨period, last⟩ := t
  obtain ⟨period', last'⟩ := u
  obtain rfl : period = period' := h.period.trans hu.period.symm
  obtain rfl : last = last' := UInt64.toNat_inj.1 (h.last.trans hu.last.symm)
  rfl

/-! ## Many polls -/

/-- Polls with readings in order: the ticks of each, and the timer after the last. -/
def pollAll (v : Verbosity) (t : RateTimer) : List UInt64 → Logged (List UInt64 × RateTimer)
  | [] => pure ([], t)
  | now :: rest => do
    let (ticks, t) ← t.poll v now
    let (more, t) ← pollAll v t rest
    pure (ticks :: more, t)

/-- Polls go on from where the polls before them have left the timer. -/
theorem pollAll_append (v : Verbosity) (t : RateTimer) (readings more : List UInt64) :
    (t.pollAll v (readings ++ more)).val =
      let first := (t.pollAll v readings).val
      let second := (first.2.pollAll v more).val
      (first.1 ++ second.1, second.2) := by
  induction readings generalizing t with
  | nil => rfl
  | cons now rest ih => simp [pollAll, ih]

/-- The ticks of every poll: what it adds to the count from the start to the latest time. -/
theorem OnGrid.ticks_pollAll (h : t.OnGrid p start time) (v : Verbosity)
    (readings : List UInt64) :
    (t.pollAll v readings).val.1.map UInt64.toNat =
      (List.range readings.length).map fun i =>
        p.ticksTo start (peak time (readings.take (i + 1))) -
          p.ticksTo start (peak time (readings.take i)) := by
  induction readings generalizing t time with
  | nil => rfl
  | cons now rest ih =>
    have hrest := ih (h.poll v now)
    rw [List.length_cons, List.range_succ_eq_map, List.map_cons, List.map_map]
    simp only [pollAll, Logged.val_bind, Logged.val_pure, List.map_cons, hrest, h.ticks_poll]
    rfl

/-- After many polls the timer is on the grid, up to the latest time so far. -/
theorem OnGrid.pollAll (h : t.OnGrid p start time) (v : Verbosity) (readings : List UInt64) :
    (t.pollAll v readings).val.2.OnGrid p start (peak time readings) := by
  induction readings generalizing t time with
  | nil => exact h
  | cons now rest ih => exact ih (h.poll v now)

/-- All ticks together: the count from the start to the latest time, less what was counted
before. -/
theorem OnGrid.sum_pollAll (h : t.OnGrid p start time) (v : Verbosity)
    (readings : List UInt64) :
    ((t.pollAll v readings).val.1.map UInt64.toNat).sum =
      p.ticksTo start (peak time readings) - p.ticksTo start time := by
  induction readings generalizing t time with
  | nil => simp [RateTimer.pollAll]
  | cons now rest ih =>
    have hrest := ih (h.poll v now)
    have hfirst := p.ticksTo_mono start (Nat.le_max_left time now.toNat)
    have hmore := p.ticksTo_mono start (le_peak (max time now.toNat) rest)
    simp only [RateTimer.pollAll, Logged.val_bind, Logged.val_pure, List.map_cons, List.sum_cons,
      hrest, h.ticks_poll, peak_cons]
    omega

/-- **Ticks never drift.**  A timer of a duration of so many whole microseconds, polled with any
readings in any order, counts with every poll the whole periods by which that poll raises the
latest time since the timer was made; together these are the whole periods up to the latest time
of all. -/
theorem ticks_pollAll_of_create (v : Verbosity) {d : Duration} {clock : Clock} {t : RateTimer}
    (h : (create d clock).1 = .ok t) (readings : List UInt64) :
    let start := clock.read.1.toNat
    let due (n : Nat) := (peak start (readings.take n) - start) / d.micros
    let ticks := (t.pollAll v readings).val.1.map UInt64.toNat
    ticks = ((List.range readings.length).map fun i => due (i + 1) - due i) ∧
      ticks.sum = (peak start readings - start) / d.micros := by
  obtain ⟨p, hp, rfl⟩ := create_eq_ok h
  have hgrid := onGrid_start p clock.read.1
  rw [Period.ofDuration_eq_ok_iff.1 hp]
  refine ⟨hgrid.ticks_pollAll v readings, (hgrid.sum_pollAll v readings).trans ?_⟩
  rw [Period.ticksTo_self, Nat.sub_zero]
  rfl

/-- A clock that reads 125, goes back to 90 and comes to 131 gives two ticks, none and one. -/
theorem ticks_pollAll_backward :
    (create (.ofMicros 10) { now := 100 }).1 = .ok (RateTimer.start ⟨10, by decide⟩ 100) ∧
      ((RateTimer.start ⟨10, by decide⟩ 100).pollAll .all [125, 90, 131]).val.1.map UInt64.toNat =
        [2, 0, 1] := by
  have h : (create (.ofMicros 10) { now := 100 }).1 =
      .ok (RateTimer.start ⟨10, by decide⟩ 100) := rfl
  exact ⟨h, (ticks_pollAll_of_create .all h _).1.trans (by decide)⟩

end RateTimer

end HostDevices
