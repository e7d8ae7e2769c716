import HostDevices.Devices
import HostDevices.Session.Keypad
import HostDevices.Session.Timing

/-!
# Sessions of all devices

All devices on one source and one clock.
-/

namespace HostDevices

open Session

/-- What can be done with the devices of a session. -/
inductive DevicesStep where
  | poll
  | loadDelay (value : UInt8)
  | loadSound (value : UInt8)
  | updateDelay
  | updateSound
  | onClock (step : ClockStep)
  | onKeypad (step : ControllerStep)
deriving DecidableEq, Repr

/-- One step on the devices.  A poll takes two readings, the delay register's first; an update of
one register takes one. -/
def DevicesStep.run {σ : Type} [KeyBuffer σ] (v : Verbosity) (x : Clocked (Devices σ)) :
    DevicesStep → Logged (Reply × Clocked (Devices σ))
  | poll => do
    let (delayNow, clock) := x.clock.read
    let (soundNow, clock) := clock.read
    let device ← x.device.poll v delayNow soundNow
    pure (.nothing, { device, clock })
  | loadDelay value => do
    let device ← x.device.loadDelay v value
    pure (.nothing, { x with device })
  | loadSound value => do
    let device ← x.device.loadSound v value
    pure (.nothing, { x with device })
  | updateDelay => do
    let (now, clock) := x.clock.read
    let delay ← x.device.delay.update v now
    pure (.value delay.value, { device := { x.device with delay }, clock })
  | updateSound => do
    let (now, clock) := x.clock.read
    let sound ← x.device.sound.update v now
    pure (.value sound.value, { device := { x.device with sound }, clock })
  | onClock step => step.run x
  | onKeypad step => do
    let (reply, keypad) ← step.run v x.device.keypad
    pure (reply, { x with device := { x.device with keypad } })

end HostDevices
