import HostDevices.Journal.Logged
import HostDevices.Time.Clock

/-!
# Rate timers

A rate timer turns the time that has passed into whole ticks of its period.  What is left below a
period is kept for the next poll, so the ticks stay on the period's grid however irregularly the
timer is polled.  A reading from before the last tick counts nothing and changes nothing.

* `RateTimer.start` — a timer that counts from a reading.
* `RateTimer.poll` — the ticks up to a reading.
-/

namespace HostDevices

/-- A period and the time of the last tick. -/
structure RateTimer where
  period : Period
  last : UInt64
deriving DecidableEq, Repr

namespace RateTimer

/-- A timer that counts from now. -/
def start (period : Period) (now : UInt64) : RateTimer := ⟨period, now⟩

/-- The whole ticks since the last one, which are thereby used up. -/
def poll (v : Verbosity) (t : RateTimer) (now : UInt64) : Logged (UInt64 × RateTimer) :=
  if now < t.last then do
    v.note (.clockBackward t.last now)
    pure (0, t)
  else if now - t.last < t.period.micros then pure (0, t)
  else do
    let ticks := (now - t.last) / t.period.micros
    let last := now - (now - t.last) % t.period.micros
    v.note (.ticked ticks last)
    pure (ticks, { t with last })

/-- An earlier reading changes nothing. -/
theorem poll_of_lt (v : Verbosity) {t : RateTimer} {now : UInt64} (h : now < t.last) :
    t.poll v now = (v.note (.clockBackward t.last now) >>= fun _ => pure (0, t)) :=
  if_pos h

/-- In numbers: a reading that is not an earlier one lies after the last tick by its difference. -/
theorem toNat_elapsed {t : RateTimer} {now : UInt64} (h : ¬ now < t.last) :
    (now - t.last).toNat = now.toNat - t.last.toNat :=
  UInt64.toNat_sub_of_le _ _ (UInt64.not_lt.1 h)

/-- In numbers: a poll counts the whole periods between the last tick and the reading, and moves the
time that is kept by these and by nothing else. -/
theorem toNat_poll (v : Verbosity) (t : RateTimer) (now : UInt64) :
    let ticks := (now.toNat - t.last.toNat) / t.period.micros.toNat
    (t.poll v now).val.1.toNat = ticks ∧
      (t.poll v now).val.2.last.toNat = t.last.toNat + t.period.micros.toNat * ticks := by
  unfold poll
  split
  · rename_i h
    have hlt := UInt64.lt_iff_toNat_lt.1 h
    simp [Nat.sub_eq_zero_of_le (Nat.le_of_lt hlt)]
  · rename_i h
    have hsub := toNat_elapsed h
    split
    · rename_i hshort
      have hlt := UInt64.lt_iff_toNat_lt.1 hshort
      rw [hsub] at hlt
      simp [Nat.div_eq_of_lt hlt]
    · -- the remainder that is taken off the reading is no larger than the reading
      have hrem : (now - t.last) % t.period.micros ≤ now := by
        rw [UInt64.le_iff_toNat_le, UInt64.toNat_mod, hsub]
        exact Nat.le_trans (Nat.mod_le _ _) (Nat.sub_le _ _)
      have hsplit := Nat.div_add_mod (now.toNat - t.last.toNat) t.period.micros.toNat
      have hle := UInt64.le_iff_toNat_le.1 (UInt64.not_lt.1 h)
      simp only [Logged.val_bind, Logged.val_pure]
      refine ⟨by rw [UInt64.toNat_div, hsub], ?_⟩
      rw [UInt64.toNat_sub_of_le _ _ hrem, UInt64.toNat_mod, hsub]
      omega

theorem toNat_ticks_poll (v : Verbosity) (t : RateTimer) (now : UInt64) :
    (t.poll v now).val.1.toNat = (now.toNat - t.last.toNat) / t.period.micros.toNat :=
  (toNat_poll v t now).1

theorem toNat_last_poll (v : Verbosity) (t : RateTimer) (now : UInt64) :
    (t.poll v now).val.2.last.toNat =
      t.last.toNat +
        t.period.micros.toNat * ((now.toNat - t.last.toNat) / t.period.micros.toNat) :=
  (toNat_poll v t now).2

/-- A poll keeps the period. -/
@[simp] theorem period_poll (v : Verbosity) (t : RateTimer) (now : UInt64) :
    (t.poll v now).val.2.period = t.period := by
  unfold poll
  split
  · rfl
  · split <;> rfl

/-- A timer of a duration's period, which counts from the clock's next reading.  A duration that is
no period is refused before the clock is read. -/
def create (d : Duration) (clock : Clock) : Except InvalidPeriod RateTimer × Clock :=
  match Period.ofDuration d with
  | .error e => (.error e, clock)
  | .ok period => (.ok (start period clock.read.1), clock.read.2)

/-- A timer that is made has the period of its duration and counts from the clock's reading. -/
theorem create_eq_ok {d : Duration} {clock : Clock} {t : RateTimer}
    (h : (create d clock).1 = .ok t) :
    ∃ p, Period.ofDuration d = .ok p ∧ t = start p clock.read.1 := by
  unfold create at h
  split at h
  · simp at h
  · rename_i p hp
    simp only [Except.ok.injEq] at h
    exact ⟨p, hp, h.symm⟩

end RateTimer

end HostDevices
