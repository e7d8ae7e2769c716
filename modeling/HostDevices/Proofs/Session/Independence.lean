import HostDevices.Proofs.Timing.Readings
import HostDevices.Session.Devices

/-!
# The devices are independent of each other

All devices of a session are polled together and read one clock.  Still they are a keypad and two
registers side by side: what each of them does is what it would do alone, on the steps that concern
it.  The one thing that the registers share is the clock, and all that one of them can do to the
other is to take a reading before it.

* `DevicesStep.onController?`, `DevicesStep.onRegister?` — what a step is to the keypad alone and to
  a register alone.
* `DevicesStep.uses` — who reads the clock in a step, in order.
* `IsProduct` — the devices taken apart: a keypad alone, each register alone on the readings that it
  was given, and the clock alone.
* `DevicesStep.register_after` — a register does with its own readings what it does in company.
* `isProduct_of_create` — the devices are taken apart at any point of any session.
-/

namespace HostDevices

open Session

/-- The two registers. -/
inductive Register where
  | delay
  | sound
deriving DecidableEq, Repr

/-- One of the registers of the devices. -/
def Devices.register {σ : Type} (d : Devices σ) : Register → Countdown
  | .delay => d.delay
  | .sound => d.sound

/-- The record tells of the keypad or of its source. -/
def Record.concernsKeypad : Record → Bool
  | keyPressed .. | pressIgnored .. | keyReleased .. | releaseIgnored .. | eventDropped .. => true
  | _ => false

namespace DevicesStep

/-- What a step is to the keypad: a poll is a sync. -/
def onController? : DevicesStep → Option ControllerStep
  | poll => some .sync
  | onKeypad step => some step
  | _ => none

/-- What a step is to a register: a poll is an update. -/
def onRegister? : Register → DevicesStep → Option CountdownStep
  | _, poll => some .update
  | .delay, loadDelay value => some (.load value)
  | .delay, updateDelay => some .update
  | .sound, loadSound value => some (.load value)
  | .sound, updateSound => some .update
  | _, _ => none

/-- What a step is to the clock: a poll reads it for the delay register and then for the sound
register. -/
def uses : DevicesStep → List (ClockUse Register)
  | poll => [.read .delay, .read .sound]
  | updateDelay => [.read .delay]
  | updateSound => [.read .sound]
  | onClock step => [.outside step]
  | _ => []

end DevicesStep

/-- What the set-up of the devices and steps after it are to the clock. -/
def Devices.uses (done : List DevicesStep) : List (ClockUse Register) :=
  [.read .delay, .read .sound] ++ done.flatMap DevicesStep.uses

/-- The devices `x` after the steps `done`, taken apart.  They were set up on `source` and on
`clock`. -/
structure IsProduct {σ : Type} [KeyBuffer σ] (v : Verbosity) (cfg : Config) (source : σ)
    (clock : Clock) (x : Clocked (Devices σ)) (done : List DevicesStep) : Prop where
  /-- The keypad, its latch and what is pending are those of a keypad alone. -/
  keypad : (after (DevicesStep.run v) x done).device.keypad =
    after (ControllerStep.run v) { source } (done.filterMap DevicesStep.onController?)
  /-- So are the records of the keypad. -/
  records : (journal (play (DevicesStep.run v) x done)).filter Record.concernsKeypad =
    (journal (play (ControllerStep.run v) { source }
      (done.filterMap DevicesStep.onController?))).filter Record.concernsKeypad
  /-- So is the answer to a further step on the keypad. -/
  answer : ∀ step, (DevicesStep.run v (after (DevicesStep.run v) x done) (.onKeypad step)).val.1 =
    (step.run v (after (ControllerStep.run v) { source }
      (done.filterMap DevicesStep.onController?))).val.1
  /-- Each register is a register alone, on a clock that gives it its own readings; it needs all
  of them. -/
  register : ∀ r, ∃ c rest,
    Countdown.create cfg.timerPeriod { fed := clock.timesOf r (Devices.uses done) } =
      (.ok c, rest) ∧
    let alone := after (CountdownStep.run v) ⟨c, rest⟩ (done.filterMap (DevicesStep.onRegister? r))
    (after (DevicesStep.run v) x done).device.register r = alone.device ∧ alone.clock.fed = []
  /-- The clock is used by the set-up and by the steps, and in no other way. -/
  clock_after : (after (DevicesStep.run v) x done).clock = clock.after (Devices.uses done)
  /-- It is read twice by the set-up and by every poll, and once by every update. -/
  reads : (after (DevicesStep.run v) x done).clock.reads =
    clock.reads + 2 + 2 * done.count .poll + done.count .updateDelay + done.count .updateSound

/-! ## The keypad alone -/

/-- A record that does not tell of the keypad is passed over, whether it is noted or not. -/
theorem Verbosity.filter_log_note (v : Verbosity) {record : Record}
    (h : record.concernsKeypad = false) :
    (v.note record).log.filter Record.concernsKeypad = [] := by
  rw [log_note]
  split <;> simp [h]

/-- A timer tells nothing of the keypad. -/
theorem RateTimer.filter_log_poll (v : Verbosity) (t : RateTimer) (now : UInt64) :
    (t.poll v now).log.filter Record.concernsKeypad = [] := by
  unfold RateTimer.poll
  split
  · rw [Logged.log_bind, Logged.log_pure, List.append_nil, v.filter_log_note rfl]
  · split
    · rfl
    · rw [Logged.log_bind, Logged.log_pure, List.append_nil, v.filter_log_note rfl]

/-- A register tells nothing of the keypad when it is updated. -/
@[simp] theorem Countdown.filter_log_update (v : Verbosity) (c : Countdown) (now : UInt64) :
    (c.update v now).log.filter Record.concernsKeypad = [] := by
  rw [Countdown.update, Logged.log_bind, Logged.log_pure, List.append_nil,
    RateTimer.filter_log_poll]

/-- Nor does it when it is loaded. -/
@[simp] theorem Countdown.filter_log_load (v : Verbosity) (c : Countdown) (value : UInt8) :
    (c.load v value).log.filter Record.concernsKeypad = [] := by
  rw [Countdown.load, Logged.log_bind, Logged.log_pure, List.append_nil, v.filter_log_note rfl]

namespace DevicesStep

variable {σ : Type} [KeyBuffer σ]

/-- A step does to the keypad what it is to the keypad alone. -/
theorem keypad_run (v : Verbosity) (x : Clocked (Devices σ)) (i : DevicesStep) :
    (i.run v x).val.2.device.keypad =
      after (ControllerStep.run v) x.device.keypad i.onController?.toList := by
  cases i <;> rfl

/-- What a step notes about the keypad is what it notes when the keypad is alone. -/
theorem records_run (v : Verbosity) (x : Clocked (Devices σ)) (i : DevicesStep) :
    (i.run v x).log.filter Record.concernsKeypad =
      (journal (play (ControllerStep.run v) x.device.keypad i.onController?.toList)).filter
        Record.concernsKeypad := by
  cases i with
  | poll =>
    simp [DevicesStep.run, ControllerStep.run, Devices.poll, Devices.sync, Devices.countDown,
      onController?]
  | loadDelay value => simp [DevicesStep.run, Devices.loadDelay, onController?]
  | loadSound value => simp [DevicesStep.run, Devices.loadSound, onController?]
  | updateDelay => simp [DevicesStep.run, onController?]
  | updateSound => simp [DevicesStep.run, onController?]
  | onClock step => rfl
  | onKeypad step => simp [DevicesStep.run, onController?]

theorem keypad_after (v : Verbosity) (x : Clocked (Devices σ)) (steps : List DevicesStep) :
    (after (DevicesStep.run v) x steps).device.keypad =
      after (ControllerStep.run v) x.device.keypad (steps.filterMap onController?) := by
  induction steps generalizing x with
  | nil => rfl
  | cons i rest ih =>
    rw [after_cons, ih, keypad_run, filterMap_cons_toList, after_append]

theorem records_play (v : Verbosity) (x : Clocked (Devices σ)) (steps : List DevicesStep) :
    (journal (play (DevicesStep.run v) x steps)).filter Record.concernsKeypad =
      (journal (play (ControllerStep.run v) x.device.keypad
        (steps.filterMap onController?))).filter Record.concernsKeypad := by
  induction steps generalizing x with
  | nil => rfl
  | cons i rest ih =>
    rw [journal_play_cons, List.filter_append, records_run, ih, keypad_run, filterMap_cons_toList,
      play_append, journal_append, List.filter_append]

/-! ## The clock alone -/

/-- A step does to the clock what it is to the clock. -/
theorem clock_run (v : Verbosity) (x : Clocked (Devices σ)) (i : DevicesStep) :
    (i.run v x).val.2.clock = x.clock.after i.uses := by
  cases i <;> rfl

theorem clock_after (v : Verbosity) (x : Clocked (Devices σ)) (steps : List DevicesStep) :
    (after (DevicesStep.run v) x steps).clock = x.clock.after (steps.flatMap uses) := by
  induction steps generalizing x with
  | nil => rfl
  | cons i rest ih => rw [after_cons, ih, clock_run, List.flatMap_cons, Clock.after_append]

/-! ## A register alone -/

/-- An update of a register alone pays for the first reading that was fed to its clock. -/
theorem update_of_fed (v : Verbosity) (c : Countdown) {own : Clock} {now : UInt64}
    {later : List UInt64} (hown : own.fed = now :: later) :
    let alone := after (CountdownStep.run v) ⟨c, own⟩ [.update]
    (c.update v now).val = alone.device ∧ alone.clock.fed = later := by
  have hread := Clock.read_of_fed hown
  simp [CountdownStep.run, hread]

/-- A step does to a register what it is to the register alone, on a clock that was fed with the
readings that the register takes in the step; what was fed behind them is left for later. -/
theorem register_run (v : Verbosity) (x : Clocked (Devices σ)) (r : Register) (i : DevicesStep)
    {own : Clock} {later : List UInt64} (hown : own.fed = x.clock.timesOf r i.uses ++ later) :
    let alone := after (CountdownStep.run v) ⟨x.device.register r, own⟩ (onRegister? r i).toList
    (i.run v x).val.2.device.register r = alone.device ∧ alone.clock.fed = later := by
  cases i with
  | poll => cases r <;> exact update_of_fed v _ hown
  | updateDelay =>
    cases r with
    | delay => exact update_of_fed v _ hown
    | sound => exact ⟨rfl, hown⟩
  | updateSound =>
    cases r with
    | delay => exact ⟨rfl, hown⟩
    | sound => exact update_of_fed v _ hown
  | loadDelay value => cases r <;> exact ⟨rfl, hown⟩
  | loadSound value => cases r <;> exact ⟨rfl, hown⟩
  | onClock step => cases r <;> exact ⟨rfl, hown⟩
  | onKeypad step => cases r <;> exact ⟨rfl, hown⟩

/-- Steps do to a register what they are to the register alone, on a clock that was fed with all
readings that the register takes in them. -/
theorem register_after (v : Verbosity) (x : Clocked (Devices σ)) (r : Register)
    (steps : List DevicesStep) {own : Clock}
    (hown : own.fed = x.clock.timesOf r (steps.flatMap uses)) :
    let alone := after (CountdownStep.run v) ⟨x.device.register r, own⟩
      (steps.filterMap (onRegister? r))
    (after (DevicesStep.run v) x steps).device.register r = alone.device ∧
      alone.clock.fed = [] := by
  induction steps generalizing x own with
  | nil => exact ⟨rfl, hown⟩
  | cons i rest ih =>
    rw [List.flatMap_cons, Clock.timesOf_append, ← clock_run v x] at hown
    obtain ⟨hdevice, hclock⟩ := register_run v x r i hown
    have hrest := ih (i.run v x).val.2 hclock
    rw [hdevice] at hrest
    rw [after_cons, filterMap_cons_toList, after_append]
    exact hrest

end DevicesStep

/-! ## The devices taken apart -/

/-- How often the devices read the clock. -/
theorem Devices.countP_uses (done : List DevicesStep) :
    (Devices.uses done).countP ClockUse.isRead =
      2 + 2 * done.count .poll + done.count .updateDelay + done.count .updateSound := by
  have hsteps : (done.flatMap DevicesStep.uses).countP ClockUse.isRead =
      2 * done.count .poll + done.count .updateDelay + done.count .updateSound := by
    induction done with
    | nil => rfl
    | cons i rest ih =>
      rw [List.flatMap_cons, List.countP_append, ih]
      cases i <;> simp [DevicesStep.uses, ClockUse.isRead, List.countP_cons] <;> omega
  have hsetUp : [ClockUse.read Register.delay, .read .sound].countP ClockUse.isRead = 2 := rfl
  rw [Devices.uses, List.countP_append, hsteps, hsetUp]
  omega

/-- Devices that are set up read the clock for the delay register and then for the sound
register. -/
theorem Devices.create_eq_ok {σ : Type} (v : Verbosity) {cfg : Config} {p : Period}
    (hp : Period.ofDuration cfg.timerPeriod = .ok p) (source : σ) (clock : Clock) :
    (Devices.create v cfg source clock).val =
      (.ok (.start p source clock.read.1 clock.read.2.read.1), clock.read.2.read.2) := by
  simp [Devices.create, Devices.prepare, hp]

/-- The first reading of a register is the one that its timer starts from. -/
theorem Devices.timesOf_uses (r : Register) (clock : Clock) (done : List DevicesStep) :
    clock.timesOf r (Devices.uses done) =
      (match r with
        | .delay => clock.read.1
        | .sound => clock.read.2.read.1) ::
        clock.read.2.read.2.timesOf r (done.flatMap DevicesStep.uses) := by
  cases r <;> simp [Devices.uses, Clock.timesOf, Clock.readings]

/-- Devices that start from two readings of a clock are taken apart after any steps. -/
theorem isProduct_start {σ : Type} [KeyBuffer σ] (v : Verbosity) {cfg : Config} {p : Period}
    (hp : Period.ofDuration cfg.timerPeriod = .ok p) (source : σ) (clock : Clock)
    (done : List DevicesStep) :
    IsProduct v cfg source clock
      ⟨.start p source clock.read.1 clock.read.2.read.1, clock.read.2.read.2⟩ done where
  keypad := DevicesStep.keypad_after v _ done
  records := DevicesStep.records_play v _ done
  answer step :=
    congrArg (fun keypad => (step.run v keypad).val.1) (DevicesStep.keypad_after v _ done)
  register r := by
    rw [Devices.timesOf_uses]
    simp only [Countdown.create, RateTimer.create, hp]
    refine ⟨_, _, rfl, ?_⟩
    cases r with
    | delay => exact DevicesStep.register_after v _ .delay done rfl
    | sound => exact DevicesStep.register_after v _ .sound done rfl
  clock_after := DevicesStep.clock_after v _ done
  reads := by
    rw [DevicesStep.clock_after]
    change (clock.after (Devices.uses done)).reads = _
    rw [Clock.reads_after, Devices.countP_uses]
    omega

/-- **The devices are independent.**  Devices with a valid period are set up on any source and any
clock.  After any steps they are a keypad alone, two registers alone and a clock alone.  Hence a
register holds the same in any other session, on whatever source, in which it takes the same steps
and the clock is used in the same way. -/
theorem isProduct_of_create {σ : Type} [KeyBuffer σ] (v : Verbosity) {cfg : Config} {p : Period}
    (hp : Period.ofDuration cfg.timerPeriod = .ok p) (source : σ) (clock : Clock) :
    ∃ d rest, (Devices.create v cfg source clock).val = (.ok d, rest) ∧
      (∀ done, IsProduct v cfg source clock ⟨d, rest⟩ done) ∧
      ∀ (τ : Type) [KeyBuffer τ] (source' : τ) (d' : Devices τ) (rest' : Clock),
        (Devices.create v cfg source' clock).val = (.ok d', rest') →
        ∀ r done done', Devices.uses done' = Devices.uses done →
          done'.filterMap (DevicesStep.onRegister? r) = done.filterMap (DevicesStep.onRegister? r) →
          (after (DevicesStep.run v) ⟨d', rest'⟩ done').device.register r =
            (after (DevicesStep.run v) ⟨d, rest⟩ done).device.register r := by
  refine ⟨_, _, Devices.create_eq_ok v hp source clock,
    isProduct_start v hp source clock, ?_⟩
  intro τ _ source' d' rest' hcreate r done done' huses hsteps
  rw [Devices.create_eq_ok v hp source' clock, Prod.mk.injEq, Except.ok.injEq] at hcreate
  obtain ⟨rfl, rfl⟩ := hcreate
  -- both registers are the same register alone, with the same readings and the same steps
  obtain ⟨c, own, halone, hregister, -⟩ := (isProduct_start v hp source clock done).register r
  obtain ⟨c', own', halone', hregister', -⟩ := (isProduct_start v hp source' clock done').register r
  rw [huses, halone, Prod.mk.injEq, Except.ok.injEq] at halone'
  obtain ⟨rfl, rfl⟩ := halone'
  rw [hregister, hregister', hsteps]

/-- On a clock that moves on with every reading, the delay register has the first reading of the
set-up and of a poll and the sound register the second.  The delay register does not notice that a
key is pressed, nor that the sound register is loaded. -/
theorem isProduct_of_create_pacing :
    let clock : Clock := { pace := 10000 }
    let steps : List DevicesStep :=
      [.loadDelay 5, .loadSound 5, .poll, .onKeypad (.onSource (.push (.press "KeyQ"))),
        .updateDelay, .poll]
    let fewer : List DevicesStep := [.loadDelay 5, .poll, .updateDelay, .poll]
    Period.ofDuration Config.standard.timerPeriod = .ok ⟨16666, by decide⟩ ∧
      clock.timesOf .delay (Devices.uses steps) = [0, 20000, 40000, 50000] ∧
      clock.timesOf .sound (Devices.uses steps) = [10000, 30000, 60000] ∧
      ∃ d rest,
        (Devices.create .all Config.standard ({} : EventQueue) clock).val = (.ok d, rest) ∧
        (after (DevicesStep.run .all) ⟨d, rest⟩ steps).device.keypad.keypad.held = some ⟨4⟩ ∧
        (after (DevicesStep.run .all) ⟨d, rest⟩ steps).clock.reads = 7 ∧
        (after (DevicesStep.run .all) ⟨d, rest⟩ fewer).device.register .delay =
          (after (DevicesStep.run .all) ⟨d, rest⟩ steps).device.register .delay := by
  intro clock steps fewer
  have hp : Period.ofDuration Config.standard.timerPeriod = .ok ⟨16666, by decide⟩ := rfl
  obtain ⟨d, rest, hcreate, hproduct, hsame⟩ :=
    isProduct_of_create .all hp ({} : EventQueue) clock
  refine ⟨hp, by decide, by decide, d, rest, hcreate, ?_, ?_, ?_⟩
  · rw [(hproduct steps).keypad]
    decide
  · exact (hproduct steps).reads
  · exact hsame _ _ d rest hcreate .delay steps fewer rfl rfl

end HostDevices
