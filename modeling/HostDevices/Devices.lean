import HostDevices.Config
import HostDevices.Controller
import HostDevices.Countdown

/-!
# The devices of one session

A keypad on a source, a delay register and a sound register.  Both registers run on one clock: where
both are served, the delay register has the first reading and the sound register the second.

* `Devices.prepare` — the check of the configured period, before any reading.
* `Devices.start` — the devices, from one reading for each register.
* `Devices.poll` — one frame: the keypad is synced, then both registers pay for their ticks.
* `Devices.create` — the devices on a clock.
-/

namespace HostDevices

/-- The devices of one session. -/
structure Devices (σ : Type) where
  keypad : Controller σ
  delay : Countdown
  sound : Countdown
deriving DecidableEq, Repr

namespace Devices

variable {σ : Type}

/-- Announces the devices and checks the period of their timers. -/
def prepare (v : Verbosity) (cfg : Config) : Logged (Except InvalidPeriod Period) := do
  v.note .initializing
  pure (Period.ofDuration cfg.timerPeriod)

/-- The devices, each register counting from its own reading. -/
def start (period : Period) (source : σ) (delayNow soundNow : UInt64) : Devices σ where
  keypad := { source }
  delay := .start period delayNow
  sound := .start period soundNow

/-- Drains the source into the keypad. -/
def sync [KeySource σ] (v : Verbosity) (d : Devices σ) : Logged (Nat × Devices σ) := do
  let (count, keypad) ← d.keypad.sync v
  pure (count, { d with keypad })

/-- Pays for the ticks of both registers, the delay register first. -/
def countDown (v : Verbosity) (d : Devices σ) (delayNow soundNow : UInt64) :
    Logged (Devices σ) := do
  let delay ← d.delay.update v delayNow
  let sound ← d.sound.update v soundNow
  pure { d with delay, sound }

/-- One frame: the keypad is synced, then both registers are paid down. -/
def poll [KeySource σ] (v : Verbosity) (d : Devices σ) (delayNow soundNow : UInt64) :
    Logged (Devices σ) := do
  let (_, d) ← d.sync v
  d.countDown v delayNow soundNow

/-- Loads the delay register. -/
def loadDelay (v : Verbosity) (d : Devices σ) (value : UInt8) : Logged (Devices σ) := do
  let delay ← d.delay.load v value
  pure { d with delay }

/-- Loads the sound register. -/
def loadSound (v : Verbosity) (d : Devices σ) (value : UInt8) : Logged (Devices σ) := do
  let sound ← d.sound.load v value
  pure { d with sound }

/-- The devices on a clock.  An invalid period is refused before the clock is read; otherwise the
delay register counts from the next reading and the sound register from the one after it. -/
def create (v : Verbosity) (cfg : Config) (source : σ) (clock : Clock) :
    Logged (Except InvalidPeriod (Devices σ) × Clock) := do
  match ← prepare v cfg with
  | .error e => pure (.error e, clock)
  | .ok period =>
    let (delayNow, clock) := clock.read
    let (soundNow, clock) := clock.read
    pure (.ok (start period source delayNow soundNow), clock)

end Devices

end HostDevices
