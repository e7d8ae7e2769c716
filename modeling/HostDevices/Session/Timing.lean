import HostDevices.Countdown
import HostDevices.Session.Basic

/-!
# Sessions of a timer and of a countdown register

A device that reads the time is played together with its clock.
-/

namespace HostDevices

open Session

/-- A device and the clock it reads. -/
structure Clocked (δ : Type) where
  device : δ
  clock : Clock
deriving DecidableEq, Repr

/-- What the outside can do to a clock. -/
inductive ClockStep where
  | set (t : UInt64)
  | advance (d : UInt64)
  | feed (ts : List UInt64)
deriving DecidableEq, Repr

/-- One step of the outside. -/
def ClockStep.apply (c : Clock) : ClockStep → Clock
  | set t => c.set t
  | advance d => c.advance d
  | feed ts => c.feed ts

/-- A step of the outside, which answers nothing and leaves the device alone. -/
def ClockStep.run {δ : Type} (x : Clocked δ) (step : ClockStep) : Logged (Reply × Clocked δ) :=
  pure (.nothing, { x with clock := step.apply x.clock })

/-- What can be done with a rate timer. -/
inductive TimerStep where
  | poll
  | period
  | onClock (step : ClockStep)
deriving DecidableEq, Repr

/-- One step on a rate timer. -/
def TimerStep.run (v : Verbosity) (x : Clocked RateTimer) :
    TimerStep → Logged (Reply × Clocked RateTimer)
  | poll => do
    let (now, clock) := x.clock.read
    let (ticks, device) ← x.device.poll v now
    pure (.ticks ticks, { device, clock })
  | period => pure (.period x.device.period.duration, x)
  | onClock step => step.run x

/-- What can be done with a countdown register. -/
inductive CountdownStep where
  | load (value : UInt8)
  | update
  | onClock (step : ClockStep)
deriving DecidableEq, Repr

/-- One step on a countdown register; an update answers the new value. -/
def CountdownStep.run (v : Verbosity) (x : Clocked Countdown) :
    CountdownStep → Logged (Reply × Clocked Countdown)
  | load value => do
    let device ← x.device.load v value
    pure (.nothing, { x with device })
  | update => do
    let (now, clock) := x.clock.read
    let device ← x.device.update v now
    pure (.value device.value, { device, clock })
  | onClock step => step.run x

end HostDevices
