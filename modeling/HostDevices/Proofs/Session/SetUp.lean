import HostDevices.Proofs.Session.Independence
import HostDevices.Proofs.Timing.Ticks

/-!
# Setting devices up

A timer, a register and all devices together are made with a duration for their period.  All three
accept the same durations, refuse the others in the same way, and read the clock only once nothing
can go wrong any more.

* `Duration.whole` — a duration without what is left below a microsecond.
* `Period.exists_ofDuration_iff`, `Period.duration_of_ofDuration` — which durations are periods, and
  which period each of them is.
* `MadeWith` — what comes of making a device, whichever it is.
* `Devices.createInTurn` — the devices with one register made after the other, each with a check of
  its own; `Devices.create_eq_createInTurn` says that one check for both is as good.
* `RateTimer.create_duration` — a timer made with the period of a timer is the same timer.
* `made_with_any_duration` — all of this for every duration.
-/

namespace HostDevices

/-! ## Durations and their periods -/

namespace Duration

/-- A duration without what is left below a microsecond. -/
def whole (d : Duration) : Duration where
  secs := d.secs
  nanos := d.nanos / 1000 * 1000
  nanos_lt := by
    have := d.nanos_lt
    omega

theorem micros_whole (d : Duration) : d.whole.micros = d.micros := by
  show 1000000 * d.secs.toNat + d.nanos / 1000 * 1000 / 1000 = _
  rw [Nat.mul_div_cancel _ (by decide)]
  rfl

/-- The whole microseconds of a duration are that duration but for what is left below a
microsecond. -/
theorem ofMicros_eq_whole {d : Duration} {m : UInt64} (h : d.micros = m.toNat) :
    ofMicros m = d.whole := by
  obtain ⟨secs, nanos, hnanos⟩ := d
  have hmicros : m.toNat = 1000000 * secs.toNat + nanos / 1000 := h.symm
  have hmillion : (1000000 : UInt64).toNat = 1000000 := rfl
  have hsecs : m / 1000000 = secs := by
    apply UInt64.toNat_inj.1
    rw [UInt64.toNat_div, hmillion]
    omega
  have hrest : (m % 1000000).toNat = nanos / 1000 := by
    rw [UInt64.toNat_mod, hmillion]
    omega
  simp only [ofMicros, whole, hsecs, hrest]

end Duration

namespace Period

/-- The whole microseconds of a period are a positive number of 64 bits, and every such number is a
period. -/
theorem exists_ofDuration_iff {d : Duration} :
    (∃ p, ofDuration d = .ok p) ↔ 1 ≤ d.micros ∧ d.micros ≤ 2 ^ 64 - 1 := by
  constructor
  · rintro ⟨p, hp⟩
    have hlt := p.micros.toNat_lt
    rw [ofDuration_eq_ok_iff.1 hp]
    exact ⟨p.micros_pos, by omega⟩
  · rintro ⟨hpos, hle⟩
    have hword : (UInt64.ofNat d.micros).toNat = d.micros :=
      UInt64.toNat_ofNat_of_lt' (show d.micros < UInt64.size by
        have : UInt64.size = 2 ^ 64 := rfl
        omega)
    have hne : UInt64.ofNat d.micros ≠ 0 := by
      intro hzero
      rw [hzero] at hword
      have : (0 : UInt64).toNat = 0 := rfl
      omega
    exact ⟨⟨_, hne⟩, ofDuration_eq_ok_iff.2 hword.symm⟩

/-- A refusal names the duration as it was given. -/
theorem ofDuration_eq_error {d : Duration} {e : InvalidPeriod} (h : ofDuration d = .error e) :
    e = ⟨d⟩ := by
  unfold ofDuration at h
  split at h
  · split at h
    · cases h
    · cases h
      rfl
  · cases h
    rfl

/-- A period is the duration that it is made from, but for what is left below a microsecond. -/
theorem duration_of_ofDuration {d : Duration} {p : Period} (h : ofDuration d = .ok p) :
    p.duration = d.whole :=
  Duration.ofMicros_eq_whole (ofDuration_eq_ok_iff.1 h)

end Period

/-- However often the period of the settings is chosen, the last choice counts. -/
theorem Config.timerPeriod_foldl (cfg : Config) (choices : List Duration) :
    (choices.foldl withTimerPeriod cfg).timerPeriod = choices.getLastD cfg.timerPeriod := by
  induction choices generalizing cfg with
  | nil => rfl
  | cons d rest ih =>
    rw [List.foldl_cons, ih]
    cases rest <;> rfl

/-! ## Making a device -/

/-- So many readings of a clock, one after the other. -/
def oneReadingEach (timers : List RateTimer) : List (ClockUse Unit) :=
  timers.map fun _ => .read ()

/-- What comes of making a device on a clock, with a duration for the period of its `timers`. -/
structure MadeWith {δ : Type} (d : Duration) (timers : δ → List RateTimer) (clock : Clock)
    (made : Except InvalidPeriod δ × Clock) : Prop where
  /-- The device is made if the whole microseconds of the duration are a positive number of 64 bits,
  and only then. -/
  accepted : (∃ x, made.1 = .ok x) ↔ 1 ≤ d.micros ∧ d.micros ≤ 2 ^ 64 - 1
  /-- A refusal names the duration as it was given, and the clock has not been touched. -/
  refused : ∀ e, made.1 = .error e → e.given = d ∧ made.2 = clock
  /-- The clock has been read once for each timer, and nothing else has been done to it. -/
  reads : ∀ x, made.1 = .ok x →
    made.2 = clock.after (oneReadingEach (timers x)) ∧
      made.2.reads = clock.reads + (timers x).length
  /-- Each timer counts from its own reading. -/
  last : ∀ x, made.1 = .ok x →
    (timers x).map RateTimer.last = clock.times (oneReadingEach (timers x))
  /-- The period of each timer is the duration without what is left below a microsecond. -/
  period : ∀ x, made.1 = .ok x → ∀ t ∈ timers x,
    t.period.duration = d.whole ∧ t.period.duration.micros = d.micros

section

variable {δ : Type} {d : Duration} {timers : δ → List RateTimer} {clock : Clock}

/-- A device whose duration is no period is refused in this way, if the clock is left alone. -/
theorem madeWith_of_refused {e : InvalidPeriod} (he : Period.ofDuration d = .error e) :
    MadeWith d timers clock (.error e, clock) := by
  obtain rfl := Period.ofDuration_eq_error he
  refine ⟨⟨?_, ?_⟩, ?_, ?_, ?_, ?_⟩
  · rintro ⟨x, hx⟩
    cases hx
  · intro hrange
    obtain ⟨p, hp⟩ := Period.exists_ofDuration_iff.2 hrange
    rw [he] at hp
    cases hp
  · intro e' he'
    cases he'
    exact ⟨rfl, rfl⟩
  all_goals
    intro x hx
    cases hx

/-- A device is made in this way if each of its timers starts from the next reading of the clock, in
the period of the duration. -/
theorem madeWith_of_period {p : Period} (hp : Period.ofDuration d = .ok p) {x : δ}
    (htimers : timers x = (clock.times (oneReadingEach (timers x))).map (RateTimer.start p)) :
    MadeWith d timers clock (.ok x, clock.after (oneReadingEach (timers x))) := by
  refine ⟨⟨?_, ?_⟩, ?_, ?_, ?_, ?_⟩
  · intro _
    exact Period.exists_ofDuration_iff.1 ⟨p, hp⟩
  · intro _
    exact ⟨x, rfl⟩
  · intro e he
    cases he
  · intro y hy
    cases hy
    refine ⟨rfl, ?_⟩
    show (clock.after (oneReadingEach (timers x))).reads = _
    rw [Clock.reads_after, oneReadingEach, List.countP_map, List.countP_eq_length.2]
    intro t _
    rfl
  · intro y hy
    cases hy
    have hlast := congrArg (List.map RateTimer.last) htimers
    rw [List.map_map] at hlast
    exact hlast.trans (List.map_id _)
  · intro y hy t ht
    cases hy
    rw [htimers] at ht
    obtain ⟨now, -, rfl⟩ := List.mem_map.1 ht
    show p.duration = _ ∧ p.duration.micros = _
    rw [Period.duration_of_ofDuration hp]
    exact ⟨rfl, d.micros_whole⟩

end

theorem RateTimer.madeWith_create (d : Duration) (clock : Clock) :
    MadeWith d (fun t => [t]) clock (create d clock) := by
  unfold create
  cases hd : Period.ofDuration d with
  | error e => exact madeWith_of_refused hd
  | ok p => exact madeWith_of_period hd rfl

theorem Countdown.madeWith_create (d : Duration) (clock : Clock) :
    MadeWith d (fun c => [c.timer]) clock (create d clock) := by
  unfold create RateTimer.create
  cases hd : Period.ofDuration d with
  | error e => exact madeWith_of_refused hd
  | ok p => exact madeWith_of_period hd rfl

/-- The timers of both registers, the delay register's first. -/
def Devices.timers {σ : Type} (x : Devices σ) : List RateTimer := [x.delay.timer, x.sound.timer]

namespace Devices

variable {σ : Type}

theorem madeWith_create (v : Verbosity) (cfg : Config) (source : σ) (clock : Clock) :
    MadeWith cfg.timerPeriod timers clock (create v cfg source clock).val := by
  cases hd : Period.ofDuration cfg.timerPeriod with
  | error e =>
    have hval : (create v cfg source clock).val = (.error e, clock) := by
      simp [create, prepare, hd]
    rw [hval]
    exact madeWith_of_refused hd
  | ok p =>
    rw [create_eq_ok v hd]
    exact madeWith_of_period hd rfl

/-- Setting the devices up notes that it begins, and nothing else, whatever becomes of it. -/
theorem log_create (v : Verbosity) (cfg : Config) (source : σ) (clock : Clock) :
    (create v cfg source clock).log = (v.note .initializing).log := by
  unfold create prepare
  cases hd : Period.ofDuration cfg.timerPeriod with
  | error e => simp
  | ok p => simp

/-- The devices with one register made after the other: the second is made on the clock that the
first has read, and could still be refused. -/
def createInTurn (v : Verbosity) (cfg : Config) (source : σ) (clock : Clock) :
    Logged (Except InvalidPeriod (Devices σ) × Clock) := do
  v.note .initializing
  match Countdown.create cfg.timerPeriod clock with
  | (.error e, clock) => pure (.error e, clock)
  | (.ok delay, clock) =>
    match Countdown.create cfg.timerPeriod clock with
    | (.error e, clock) => pure (.error e, clock)
    | (.ok sound, clock) => pure (.ok { keypad := { source }, delay, sound }, clock)

/-- The second register is never refused after the first was made: one check before the first
reading is as good as a check for each register. -/
theorem create_eq_createInTurn (v : Verbosity) (cfg : Config) (source : σ) (clock : Clock) :
    create v cfg source clock = createInTurn v cfg source clock := by
  unfold create createInTurn prepare Countdown.create RateTimer.create
  cases hd : Period.ofDuration cfg.timerPeriod with
  | error e => simp
  | ok p => simp [start, Countdown.start]

end Devices

/-- A timer that is made with the period of another one, from the same reading, is that timer. -/
theorem RateTimer.create_duration {d : Duration} {clock other : Clock} {t : RateTimer}
    (h : (create d clock).1 = .ok t) (hread : other.read.1 = clock.read.1) :
    (create t.period.duration other).1 = .ok t := by
  obtain ⟨p, -, rfl⟩ := create_eq_ok h
  show (create p.duration other).1 = _
  simp only [create, Period.ofDuration_duration, hread]

/-! ## Every duration -/

/-- **Which periods are accepted.**  A timer, a register and all devices are made with a duration
exactly when its whole microseconds are a positive number of 64 bits; of all durations that are
chosen for the devices the last one counts.  A refusal names that duration as it was given and comes
before the clock is read, also where two registers are made in turn; only the devices note anything,
and only that they are being set up.  What is made has read the clock once for each timer, and has
the whole microseconds of the duration for its period.  So a timer that is made with the period of
another one, from the same reading, goes through any readings like that one. -/
theorem made_with_any_duration {σ : Type} (v : Verbosity) (d : Duration) (choices : List Duration)
    (source : σ) (clock : Clock) :
    let cfg := choices.foldl Config.withTimerPeriod .standard
    let made := Devices.create v cfg source clock
    MadeWith d (fun t => [t]) clock (RateTimer.create d clock) ∧
      MadeWith d (fun c => [c.timer]) clock (Countdown.create d clock) ∧
      MadeWith (choices.getLastD Config.standardPeriod) Devices.timers clock made.val ∧
      made.log = (v.note .initializing).log ∧
      made = Devices.createInTurn v cfg source clock ∧
      ∀ t other, (RateTimer.create d clock).1 = .ok t → other.read.1 = clock.read.1 →
        ∃ u, (RateTimer.create t.period.duration other).1 = .ok u ∧
          ∀ readings, u.pollAll v readings = t.pollAll v readings := by
  intro cfg made
  have hlast : cfg.timerPeriod = choices.getLastD Config.standardPeriod :=
    Config.timerPeriod_foldl _ choices
  refine ⟨RateTimer.madeWith_create d clock, Countdown.madeWith_create d clock, ?_,
    Devices.log_create v cfg source clock, Devices.create_eq_createInTurn v cfg source clock, ?_⟩
  · rw [← hlast]
    exact Devices.madeWith_create v cfg source clock
  · intro t other ht hread
    exact ⟨t, RateTimer.create_duration ht hread, fun readings => rfl⟩

/-- The longest period lasts one microsecond less than 2 ^ 64 of them, and what is left below a
microsecond does not count; with one nanosecond more the devices are refused, although the period
chosen before was a good one. -/
theorem made_with_any_duration_at_bound :
    let longest : Duration := ⟨18446744073709, 551615999, by decide⟩
    let tooLong : Duration := ⟨18446744073709, 551616000, by decide⟩
    let clock : Clock := { now := 7, pace := 5 }
    let made := Devices.create .all ([longest, tooLong].foldl Config.withTimerPeriod .standard)
      ({} : EventQueue) clock
    (∃ t, (RateTimer.create longest clock).1 = .ok t ∧
        (RateTimer.create longest clock).2.reads = 1 ∧
        t.period.duration = ⟨18446744073709, 551615000, by decide⟩ ∧
        ∃ u, (RateTimer.create t.period.duration { fed := [7] }).1 = .ok u ∧
          ∀ readings, u.pollAll .all readings = t.pollAll .all readings) ∧
      (∃ e, made.val = (.error e, clock) ∧ e.given = tooLong) ∧ made.log = [.initializing] := by
  intro longest tooLong clock made
  obtain ⟨htimer, -, hdevices, hlog, -, hsame⟩ :=
    made_with_any_duration .all longest [longest, tooLong] ({} : EventQueue) clock
  obtain ⟨t, ht⟩ := htimer.accepted.2 (by decide)
  have hperiod := (htimer.period t ht t (List.mem_singleton_self t)).1
  refine ⟨⟨t, ht, (htimer.reads t ht).2, hperiod.trans (by decide),
    hsame t { fed := [7] } ht rfl⟩, ?_, hlog⟩
  cases hmade : made.val.1 with
  | ok x => exact absurd (hdevices.accepted.1 ⟨x, hmade⟩) (by decide)
  | error e =>
    obtain ⟨hgiven, hclock⟩ := hdevices.refused e hmade
    exact ⟨e, Prod.ext hmade hclock, hgiven⟩

end HostDevices
