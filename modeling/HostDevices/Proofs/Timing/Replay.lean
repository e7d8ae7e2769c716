import HostDevices.Proofs.Timing.Register
import Mathlib.Data.List.Induction

/-!
# What the journal tells of a countdown register

A register at the most talkative level notes every load, every tick that it pays for and every
reading that lies before the last tick.  Whoever has these records and the reading at which the
register was made knows what is in the register and which time its timer keeps.

* `ticksNoted`, `replay` — the ticks that records tell of, and the value to which they lead.
* `RateTimer.Reading` — what a reading does and what is noted of it, case by case.
* `Countdown.Told` — the invariant: the records tell the time that is kept and the value.
* `Countdown.Told.load`, `Countdown.Told.update` — a step keeps it, and `Countdown.Told.after` — so
  do many.
* `Record.Fits` — a record that shows the time up to which the ticks are counted at its place.
* `Countdown.journal_replays` — the whole account, after any steps.
-/

namespace HostDevices

/-! ## The account in the records -/

/-- The ticks that a record tells of. -/
def Record.ticks : Record → Nat
  | ticked count _ => count.toNat
  | _ => 0

/-- What a record makes of the value of a register: a load sets it, and ticks are taken off it, down
to zero. -/
def Record.replayed (value : Nat) : Record → Nat
  | loaded new => new.toNat
  | ticked count _ => value - count.toNat
  | _ => value

/-- The ticks that records tell of, together. -/
def ticksNoted (log : List Record) : Nat := (log.map Record.ticks).sum

/-- The value to which records lead a register that was at zero. -/
def replay (log : List Record) : Nat := log.foldl Record.replayed 0

/-- Behind the records `before`, a record of ticks shows the time up to which all ticks are counted,
its own included, and a warning the time up to which they were counted before it, and a reading that
lies before that. -/
def Record.Fits (micros start : Nat) (before : List Record) : Record → Prop
  | ticked count last => last.toNat = start + micros * (ticksNoted before + count.toNat)
  | clockBackward last now => last.toNat = start + micros * ticksNoted before ∧ now < last
  | _ => True

theorem ticksNoted_concat (log : List Record) (r : Record) :
    ticksNoted (log ++ [r]) = ticksNoted log + r.ticks := by
  simp [ticksNoted]

theorem replay_concat (log : List Record) (r : Record) :
    replay (log ++ [r]) = r.replayed (replay log) := by
  simp [replay]

/-! ## One reading -/

/-- What a reading does to a timer, and what is noted of it. -/
inductive RateTimer.Reading (t : RateTimer) (now : UInt64) : Logged (UInt64 × RateTimer) → Prop
  | backward (h : now.toNat < t.last.toNat) : Reading t now ⟨(0, t), [.clockBackward t.last now]⟩
  | idle (hle : t.last.toNat ≤ now.toNat)
    (hnone : (now.toNat - t.last.toNat) / t.period.micros.toNat = 0) : Reading t now (pure (0, t))
  | ticked (count last : UInt64) (hpos : 1 ≤ count.toNat)
    (hcount : count.toNat = (now.toNat - t.last.toNat) / t.period.micros.toNat)
    (hlast : last.toNat = t.last.toNat + t.period.micros.toNat * count.toNat) :
    Reading t now ⟨(count, { t with last }), [.ticked count last]⟩

/-- A reading does one of these things. -/
theorem RateTimer.reading (t : RateTimer) (now : UInt64) : Reading t now (t.poll .all now) := by
  obtain ⟨hticks, hlast⟩ := toNat_poll .all t now
  unfold poll at hticks hlast ⊢
  split
  · rename_i h
    have hout : (Verbosity.note .all (.clockBackward t.last now) >>= fun _ => pure (0, t)) =
        (⟨(0, t), [.clockBackward t.last now]⟩ : Logged (UInt64 × RateTimer)) := by
      ext1 <;> simp
    rw [hout]
    exact .backward (UInt64.lt_iff_toNat_lt.1 h)
  · rename_i h
    have hle := UInt64.le_iff_toNat_le.1 (UInt64.not_lt.1 h)
    rw [if_neg h] at hticks hlast
    split
    · rename_i hshort
      rw [if_pos hshort] at hticks
      exact .idle hle hticks.symm
    · rename_i hlong
      rw [if_neg hlong] at hticks hlast
      simp only [Logged.val_bind, Logged.val_pure] at hticks hlast
      have helapsed := UInt64.le_iff_toNat_le.1 (UInt64.not_lt.1 hlong)
      rw [toNat_elapsed h] at helapsed
      rw [← hticks] at hlast
      refine .ticked _ _ ?_ hticks hlast
      rw [hticks]
      exact Nat.div_pos helapsed t.period.micros_pos

namespace Countdown

/-! ## The records tell the register -/

/-- The records tell the time that a register's timer keeps, counted from `start` in periods of so
many microseconds, and the value of the register. -/
structure Told (c : Countdown) (micros start : Nat) (log : List Record) : Prop where
  period : c.timer.period.micros.toNat = micros
  last : c.timer.last.toNat = start + micros * ticksNoted log
  value : c.value.toNat = replay log

variable {c : Countdown} {micros start : Nat} {log : List Record}

/-- Nothing needs to be told of a new register. -/
theorem told_start (p : Period) (now : UInt64) :
    (Countdown.start p now).Told p.micros.toNat now.toNat [] where
  period := rfl
  last := rfl
  value := rfl

theorem Told.load (h : c.Told micros start log) (value : UInt8) :
    (c.load .all value).val.Told micros start (log ++ (c.load .all value).log) where
  period := h.period
  last := by
    have hnoted : (c.load .all value).log = [.loaded value] := rfl
    rw [hnoted, ticksNoted_concat]
    exact h.last
  value := by
    have hnoted : (c.load .all value).log = [.loaded value] := rfl
    rw [hnoted, replay_concat]
    rfl

/-- An update notes what its timer notes. -/
theorem log_update (v : Verbosity) (c : Countdown) (now : UInt64) :
    (c.update v now).log = (c.timer.poll v now).log :=
  List.append_nil _

theorem Told.update (h : c.Told micros start log) (now : UInt64) :
    (c.update .all now).val.Told micros start (log ++ (c.update .all now).log) := by
  have hreading := c.timer.reading now
  have hval : (c.update .all now).val =
      ⟨(c.timer.poll .all now).val.2, paid c.value (c.timer.poll .all now).val.1⟩ := rfl
  rw [log_update, hval]
  generalize c.timer.poll .all now = out at hreading ⊢
  cases hreading with
  | backward =>
    refine ⟨h.period, ?_, ?_⟩
    · rw [ticksNoted_concat]
      exact h.last
    · rw [replay_concat, toNat_paid]
      exact h.value
  | idle =>
    rw [Logged.log_pure, List.append_nil]
    refine ⟨h.period, h.last, ?_⟩
    rw [toNat_paid]
    exact h.value
  | ticked count last hpos hcount hlast =>
    refine ⟨h.period, ?_, ?_⟩
    · rw [ticksNoted_concat, Record.ticks, Nat.mul_add, ← Nat.add_assoc, ← h.last, ← h.period]
      exact hlast
    · rw [replay_concat, toNat_paid, h.value]
      rfl

/-! ## Any steps -/

open Session

theorem log_run_update (v : Verbosity) (x : Clocked Countdown) :
    (CountdownStep.update.run v x).log = (x.device.timer.poll v x.clock.read.1).log := by
  simp [CountdownStep.run, log_update]

/-- One step. -/
theorem Told.run {x : Clocked Countdown} (h : x.device.Told micros start log) (i : CountdownStep) :
    (i.run .all x).val.2.device.Told micros start (log ++ (i.run .all x).log) := by
  cases i with
  | load value => simpa [CountdownStep.run] using h.load value
  | update => simpa [CountdownStep.run] using h.update x.clock.read.1
  | onClock step => simpa [CountdownStep.run, ClockStep.run] using h

/-- Whatever the steps are, the records go on telling the register. -/
theorem Told.after {x : Clocked Countdown} (h : x.device.Told micros start log)
    (steps : List CountdownStep) :
    (Session.after (CountdownStep.run .all) x steps).device.Told micros start
      (log ++ journal (play (CountdownStep.run .all) x steps)) := by
  induction steps generalizing x log with
  | nil => simpa using h
  | cons i rest ih =>
    rw [after_cons, journal_play_cons, ← List.append_assoc]
    exact ih (h.run i)

/-- The ticks that the records tell of are the whole periods up to the latest time. -/
theorem Told.ticksNoted_eq {p : Period} {time loaded since : Nat}
    (h : c.Told p.micros.toNat start log) (haccount : c.Account p start time loaded since) :
    ticksNoted log = (time - start) / p.micros.toNat := by
  have hlast := h.last.symm.trans haccount.onGrid.last
  exact Nat.eq_of_mul_eq_mul_left p.micros_pos (Nat.add_left_cancel hlast)

/-! ## The times that the records show -/

/-- A step notes one record at most, which fits behind the records that tell the register. -/
theorem Told.noted {x : Clocked Countdown} (h : x.device.Told micros start log)
    (i : CountdownStep) :
    (i.run .all x).log = [] ∨ ∃ r, (i.run .all x).log = [r] ∧ r.Fits micros start log := by
  cases i with
  | load value => exact .inr ⟨.loaded value, by simp [CountdownStep.run, Countdown.load], trivial⟩
  | onClock step => exact .inl rfl
  | update =>
    have hreading := x.device.timer.reading x.clock.read.1
    rw [log_run_update]
    generalize x.device.timer.poll .all x.clock.read.1 = out at hreading ⊢
    cases hreading with
    | backward hlt => exact .inr ⟨_, rfl, h.last, UInt64.lt_iff_toNat_lt.2 hlt⟩
    | idle => exact .inl rfl
    | ticked count last hpos hcount hlast =>
      refine .inr ⟨_, rfl, ?_⟩
      rw [Record.Fits, Nat.mul_add, ← Nat.add_assoc, ← h.last, ← h.period]
      exact hlast

/-- Every record fits at its place in the journal. -/
theorem Told.fits {x : Clocked Countdown} (h : x.device.Told micros start [])
    {steps : List CountdownStep} {before : List Record} {r : Record}
    (hr : before ++ [r] <+: journal (play (CountdownStep.run .all) x steps)) :
    r.Fits micros start before := by
  induction steps using List.reverseRecOn with
  | nil => simp at hr
  | append_singleton steps i ih =>
    have hlast : journal (play (CountdownStep.run .all) x (steps ++ [i])) =
        journal (play (CountdownStep.run .all) x steps) ++
          (i.run .all (Session.after (CountdownStep.run .all) x steps)).log := by
      rw [play_append, journal_append, journal_play_cons, journal_play_nil, List.append_nil]
    rw [hlast] at hr
    rcases (h.after steps).noted i with hnone | ⟨r', hone, hfits⟩
    · rw [hnone, List.append_nil] at hr
      exact ih hr
    · rw [hone] at hr
      rcases Record.concat_isPrefix_concat.1 hr with ⟨rfl, rfl⟩ | hbefore
      · exact hfits
      · exact ih hbefore

/-! ## The whole account -/

/-- The account of a register that was made at `start` with a period of so many microseconds, and
for which the steps `done` have been taken, with every record kept. -/
structure Replayed (x : Clocked Countdown) (micros start : Nat) (done : List CountdownStep) :
    Prop where
  /-- The records lead from zero to the value of the register. -/
  value :
    (Session.after (CountdownStep.run .all) x done).device.value.toNat =
      replay (journal (play (CountdownStep.run .all) x done))
  /-- They tell of the whole periods up to the latest time that was read. -/
  ticks :
    ticksNoted (journal (play (CountdownStep.run .all) x done)) =
      (peak start (x.clock.times (CountdownStep.uses done)) - start) / micros
  /-- A record of ticks shows the time up to which the ticks are told, its own included, and a
  warning the time up to which they are told in front of it. -/
  fits : ∀ before r, before ++ [r] <+: journal (play (CountdownStep.run .all) x done) →
    r.Fits micros start before
  /-- A load at this point is noted, and nothing else is. -/
  load : ∀ value,
    ((CountdownStep.load value).run .all (Session.after (CountdownStep.run .all) x done)).log =
      [.loaded value]
  /-- An update at this point is noted by a warning exactly when its reading lies before the time up
  to which the ticks are told, and else by the ticks that it pays for, if there are any. -/
  update :
    let here := Session.after (CountdownStep.run .all) x done
    let last := start + micros * ticksNoted (journal (play (CountdownStep.run .all) x done))
    let now := here.clock.read.1
    let ticks := (now.toNat - last) / micros
    let log := (CountdownStep.update.run .all here).log
    (here.device.timer.poll .all now).val.1.toNat = ticks ∧
      (now.toNat < last → ∃ shown, log = [.clockBackward shown now] ∧ shown.toNat = last) ∧
      (last ≤ now.toNat → ticks = 0 → log = []) ∧
      (1 ≤ ticks → ∃ count shown, log = [.ticked count shown] ∧ count.toNat = ticks ∧
        shown.toNat = last + micros * ticks)

/-- A register that the records tell does with a reading what they say. -/
theorem Told.update_cases (h : c.Told micros start log) (now : UInt64) :
    let last := start + micros * ticksNoted log
    let ticks := (now.toNat - last) / micros
    let out := c.timer.poll .all now
    out.val.1.toNat = ticks ∧
      (now.toNat < last → ∃ shown, out.log = [.clockBackward shown now] ∧ shown.toNat = last) ∧
      (last ≤ now.toNat → ticks = 0 → out.log = []) ∧
      (1 ≤ ticks → ∃ count shown, out.log = [.ticked count shown] ∧ count.toNat = ticks ∧
        shown.toNat = last + micros * ticks) := by
  have hreading := c.timer.reading now
  rw [← h.last, ← h.period]
  dsimp only
  generalize c.timer.poll .all now = out at hreading ⊢
  cases hreading with
  | backward hlt =>
    have hnone : (now.toNat - c.timer.last.toNat) / c.timer.period.micros.toNat = 0 := by
      rw [Nat.sub_eq_zero_of_le (Nat.le_of_lt hlt), Nat.zero_div]
    refine ⟨hnone.symm, fun _ => ⟨_, rfl, rfl⟩, ?_, ?_⟩
    · intro hle
      exact absurd hle (Nat.not_le.2 hlt)
    · omega
  | idle hle hnone =>
    refine ⟨hnone.symm, ?_, fun _ _ => rfl, ?_⟩
    · intro hlt
      exact absurd hle (Nat.not_le.2 hlt)
    · omega
  | ticked count last hpos hcount hlast =>
    rw [hcount] at hlast hpos
    refine ⟨hcount, ?_, ?_, fun _ => ⟨_, _, rfl, hcount, hlast⟩⟩
    · intro hlt
      rw [Nat.sub_eq_zero_of_le (Nat.le_of_lt hlt), Nat.zero_div] at hpos
      omega
    · omega

end Countdown

end HostDevices
