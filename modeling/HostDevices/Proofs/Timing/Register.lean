import HostDevices.Countdown
import HostDevices.Proofs.Timing.Readings
import HostDevices.Proofs.Timing.Ticks

/-!
# What a countdown register holds

A register is paid down piece by piece, whenever it is updated, and each piece is cut off at zero.
The pieces add up: the register holds what it was loaded with less all ticks that its timer has
counted since, cut off at zero once.

* `Countdown.Account` — the invariant: the timer is on its grid, and the value is what was loaded
  less the ticks since then.
* `Countdown.Account.update`, `Countdown.Account.load` — an update keeps it, a load opens it anew.
* `Countdown.Account.after` — so do the steps of a session that load nothing.
* `Countdown.holds_load_less_ticks` — what the register holds at any point of any session.
-/

namespace HostDevices

namespace Countdown

/-- The register was loaded when its timer had counted `since` ticks from the start, and it has been
paid down to the ticks up to `time`. -/
structure Account (c : Countdown) (p : Period) (start time loaded since : Nat) : Prop where
  onGrid : c.timer.OnGrid p start time
  since_le : since ≤ p.ticksTo start time
  value : c.value.toNat = loaded - (p.ticksTo start time - since)

variable {c : Countdown} {p : Period} {start time loaded since : Nat}

/-- A new register was loaded with nothing, before any tick. -/
theorem account_start (p : Period) (now : UInt64) :
    (Countdown.start p now).Account p now.toNat now.toNat 0 0 where
  onGrid := RateTimer.onGrid_start p now
  since_le := Nat.zero_le _
  value := by simp [Countdown.start]

/-- An update pays for the ticks up to the latest time so far, and for nothing twice. -/
theorem Account.update (h : c.Account p start time loaded since) (v : Verbosity) (now : UInt64) :
    (c.update v now).val.Account p start (max time now.toNat) loaded since where
  onGrid := h.onGrid.poll v now
  since_le := Nat.le_trans h.since_le (p.ticksTo_mono start (Nat.le_max_left _ _))
  value := by
    have hpaid : (c.update v now).val.value.toNat =
        c.value.toNat - (c.timer.poll v now).val.1.toNat := toNat_paid _ _
    have hmono := p.ticksTo_mono start (Nat.le_max_left time now.toNat)
    have hsince := h.since_le
    rw [hpaid, h.value, h.onGrid.ticks_poll]
    omega

/-- A load opens the account anew; the ticks counted before it are not charged to the new value. -/
theorem Account.load (h : c.Account p start time loaded since) (v : Verbosity) (value : UInt8) :
    (c.load v value).val.Account p start time value.toNat (p.ticksTo start time) where
  onGrid := h.onGrid
  since_le := Nat.le_refl _
  value := by simp [Countdown.load]

/-- A register that is made counts from the clock's reading, in the period of its duration. -/
theorem create_eq_ok {d : Duration} {clock rest : Clock} (h : create d clock = (.ok c, rest)) :
    ∃ p, Period.ofDuration d = .ok p ∧ c = .start p clock.read.1 ∧ rest = clock.read.2 := by
  unfold create RateTimer.create at h
  cases hp : Period.ofDuration d with
  | error e => simp [hp] at h
  | ok p =>
    simp only [hp, Prod.mk.injEq, Except.ok.injEq] at h
    exact ⟨p, rfl, h.1.symm, h.2.symm⟩

end Countdown

/-! ## Sessions -/

/-- What a step on a register does to the register's clock, if it does anything. -/
def CountdownStep.use? : CountdownStep → Option (ClockUse Unit)
  | load _ => none
  | update => some (.read ())
  | onClock step => some (.outside step)

/-- What steps on a register do to the register's clock. -/
def CountdownStep.uses (steps : List CountdownStep) : List (ClockUse Unit) :=
  steps.filterMap use?

/-- The steps put nothing into the register. -/
def CountdownStep.Loadless (steps : List CountdownStep) : Prop := ∀ value, load value ∉ steps

namespace Countdown

open CountdownStep Session

variable {x : Clocked Countdown} {p : Period} {start time loaded since : Nat}
  {steps : List CountdownStep}

/-- The clock of a register goes its own way. -/
theorem clock_after (v : Verbosity) (x : Clocked Countdown) (steps : List CountdownStep) :
    (after (CountdownStep.run v) x steps).clock = x.clock.after (uses steps) := by
  induction steps generalizing x with
  | nil => rfl
  | cons i rest ih =>
    rw [after_cons, ih]
    cases i <;> rfl

/-- A step that loads nothing pays for the reading that it takes, if it takes one. -/
theorem Account.run (h : x.device.Account p start time loaded since) (v : Verbosity)
    {i : CountdownStep} (hi : ∀ value, i ≠ .load value) :
    (i.run v x).val.2.device.Account p start (peak time (x.clock.times i.use?.toList))
      loaded since := by
  cases i with
  | load value => exact absurd rfl (hi value)
  | update => exact h.update v x.clock.read.1
  | onClock step => exact h

/-- Steps that load nothing keep the account open. -/
theorem Account.after (h : x.device.Account p start time loaded since) (v : Verbosity)
    (hsteps : Loadless steps) :
    (after (CountdownStep.run v) x steps).device.Account p start
      (peak time (x.clock.times (uses steps))) loaded since := by
  induction steps generalizing x time with
  | nil => exact h
  | cons i rest ih =>
    have hi : ∀ value, i ≠ .load value := fun value hc => hsteps value (by simp [hc])
    have hrest : Loadless rest := fun value hc => hsteps value (List.mem_cons_of_mem _ hc)
    have hnext := ih (h.run v hi) hrest
    have hclock : (i.run v x).val.2.clock = x.clock.after i.use?.toList := by cases i <;> rfl
    have huses : uses (i :: rest) = i.use?.toList ++ uses rest := filterMap_cons_toList _ _ _
    rw [hclock] at hnext
    rwa [after_cons, huses, Clock.times_append, peak_append]

/-- Whatever the steps are, some account is open after them, up to the latest time so far. -/
theorem Account.exists_after (h : x.device.Account p start time loaded since) (v : Verbosity)
    (steps : List CountdownStep) :
    ∃ loaded since, (Session.after (CountdownStep.run v) x steps).device.Account p start
      (peak time (x.clock.times (uses steps))) loaded since := by
  induction steps generalizing x time loaded since with
  | nil => exact ⟨loaded, since, h⟩
  | cons i rest ih =>
    rw [after_cons]
    cases i with
    | load value => exact ih (h.load v value)
    | update => exact ih (h.update v x.clock.read.1)
    | onClock step => exact ih h

theorem uses_append (steps more : List CountdownStep) :
    uses (steps ++ more) = uses steps ++ uses more := List.filterMap_append

/-- After a last load the ticks since that load are off its value, and no others. -/
theorem Account.toNat_value_of_last_load (h : x.device.Account p start time loaded since)
    (v : Verbosity) (before : List CountdownStep) (value : UInt8) {behind : List CountdownStep}
    (hbehind : Loadless behind) :
    let steps := before ++ .load value :: behind
    let latest (done : List CountdownStep) := peak time (x.clock.times (uses done))
    (Session.after (CountdownStep.run v) x steps).device.value.toNat =
      value.toNat - (p.ticksTo start (latest steps) - p.ticksTo start (latest before)) := by
  intro steps latest
  obtain ⟨loaded, since, hbefore⟩ := h.exists_after v before
  have hload : ((CountdownStep.load value).run v
      (Session.after (CountdownStep.run v) x before)).val.2.device.Account p start
      (latest before) value.toNat (p.ticksTo start (latest before)) := hbefore.load v value
  have hvalue := (hload.after v hbehind).value
  have hclock : ((CountdownStep.load value).run v
      (Session.after (CountdownStep.run v) x before)).val.2.clock =
        x.clock.after (uses before) := clock_after v x before
  have hlatest : latest steps =
      peak (latest before) ((x.clock.after (uses before)).times (uses behind)) := by
    simp only [latest, steps]
    rw [uses_append, Clock.times_append, peak_append]
    rfl
  rw [hclock, ← hlatest] at hvalue
  rw [after_append, after_cons]
  exact hvalue

/-- **What a register holds.**  A register is made and then loaded, updated and its clock set in any
order.  At every point it holds the value of the last load less the whole periods by which the
latest time read since the register was made has grown since that load, and never less than zero;
before the first load it holds zero.  An update answers what it leaves in the register, and the
register is active while it is not zero. -/
theorem holds_load_less_ticks (v : Verbosity) {d : Duration} {clock rest : Clock} {c : Countdown}
    (h : create d clock = (.ok c, rest)) (steps : List CountdownStep) :
    let start := clock.read.1.toNat
    let moments := play (CountdownStep.run v) ⟨c, rest⟩ steps
    let register (n : Nat) := (Session.after (CountdownStep.run v) ⟨c, rest⟩ (steps.take n)).device
    let latest (n : Nat) := peak start (rest.times (uses (steps.take n)))
    let ticks (n : Nat) : Int := ((latest n : Int) - start) / d.micros
    (∀ n, Loadless (steps.take n) → (register n).value = 0) ∧
      (∀ j n value, steps[j]? = some (.load value) → j < n →
        Loadless ((steps.take n).drop (j + 1)) →
        ((register n).value.toNat : Int) = max 0 (value.toNat - (ticks n - ticks j))) ∧
      (∀ n, steps[n]? = some .update →
        moments[n]?.map Moment.reply = some (.value (register (n + 1)).value)) ∧
      ∀ n, (register n).isActive = true ↔ (register n).value ≠ 0 := by
  intro start moments register latest ticks
  obtain ⟨p, hp, rfl, rfl⟩ := create_eq_ok h
  have hopen : (Countdown.start p clock.read.1).Account p start start 0 0 :=
    account_start p clock.read.1
  have hticks : ∀ n, ticks n = p.ticksTo start (latest n) := by
    intro n
    rw [p.natCast_ticksTo (le_peak _ _), ← Period.ofDuration_eq_ok_iff.1 hp]
  refine ⟨?_, ?_, ?_, ?_⟩
  · intro n hsteps
    have hvalue := (hopen.after (x := ⟨_, clock.read.2⟩) v hsteps).value
    rw [Nat.zero_sub] at hvalue
    exact UInt8.toNat_inj.1 hvalue
  · intro j n value hj hlt hsteps
    have hvalue := hopen.toNat_value_of_last_load (x := ⟨_, clock.read.2⟩) v (steps.take j) value
      hsteps
    rw [← take_eq_append_cons hj hlt] at hvalue
    change (register n).value.toNat =
      value.toNat - (p.ticksTo start (latest n) - p.ticksTo start (latest j)) at hvalue
    have hmono : p.ticksTo start (latest j) ≤ p.ticksTo start (latest n) := by
      refine p.ticksTo_mono start ?_
      simp only [latest]
      rw [take_eq_append_cons hj hlt, uses_append, Clock.times_append, peak_append]
      exact le_peak _ _
    rw [hticks, hticks]
    omega
  · intro n hn
    simp only [moments, register, getElem?_play, after_take_succ _ _ hn, hn, Option.map_some]
    rfl
  · intro n
    rw [isActive, bne_iff_ne]

/-- Three hundred idle ticks are not charged to the first load.  A reading from the past is passed
over, a gap of six hundred ticks empties the register, and the two ticks that were still to be
counted at the last load are charged to it. -/
theorem holds_load_less_ticks_idle_rewound_overdue :
    let clock : Clock := { fed := [100, 3105, 3131, 3090, 9131, 9152] }
    let rest : Clock := { now := 100, fed := [3105, 3131, 3090, 9131, 9152], reads := 1 }
    let c := Countdown.start ⟨10, by decide⟩ 100
    let steps : List CountdownStep :=
      [.update, .load 5, .update, .update, .load 200, .update, .load 7, .update]
    let value (n : Nat) : Int :=
      (after (CountdownStep.run .all) ⟨c, rest⟩ (steps.take n)).device.value.toNat
    create (.ofMicros 10) clock = (.ok c, rest) ∧ value 4 = 2 ∧ value 6 = 0 ∧ value 8 = 5 := by
  intro clock rest c steps value
  have h : create (.ofMicros 10) clock = (.ok c, rest) := rfl
  have hvalue := (holds_load_less_ticks .all h steps).2.1
  refine ⟨h, ?_, ?_, ?_⟩
  · exact (hvalue 1 4 5 rfl (by decide) (by simp [Loadless, steps])).trans (by decide)
  · exact (hvalue 4 6 200 rfl (by decide) (by simp [Loadless, steps])).trans (by decide)
  · exact (hvalue 6 8 7 rfl (by decide) (by simp [Loadless, steps])).trans (by decide)

end Countdown

end HostDevices
