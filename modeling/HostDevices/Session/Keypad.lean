import HostDevices.Controller
import HostDevices.Session.Source

/-!
# Sessions of a keypad

A keypad alone, and a keypad on a source.
-/

namespace HostDevices

open Session

/-- What can be done with a keypad. -/
inductive KeypadStep where
  | press (code : String)
  | release (code : String)
  | handle (e : KeyEvent)
  | isPressed (key : Key)
  | pressedKey
  | text
deriving DecidableEq, Repr

/-- One step on a keypad. -/
def KeypadStep.run (v : Verbosity) (pad : Keypad) : KeypadStep → Logged (Reply × Keypad)
  | press code => silently (pad.press v code)
  | release code => silently (pad.release v code)
  | handle e => silently (pad.handle v e)
  | isPressed key => pure (.flag (pad.isPressed key), pad)
  | pressedKey => pure (.key pad.held, pad)
  | text => pure (.text pad.text, pad)

/-- What can be done with a keypad on a source. -/
inductive ControllerStep where
  | sync
  | handle (e : KeyEvent)
  | isPressed (key : Key)
  | pressedKey
  | onSource (step : SourceStep)
deriving DecidableEq, Repr

/-- One step on a keypad with its source. -/
def ControllerStep.run {σ : Type} [KeyBuffer σ] (v : Verbosity) (c : Controller σ) :
    ControllerStep → Logged (Reply × Controller σ)
  | sync => do
    let (count, c) ← c.sync v
    pure (.count count, c)
  | handle e => silently (c.handle v e)
  | isPressed key => pure (.flag (c.keypad.isPressed key), c)
  | pressedKey => pure (.key c.keypad.held, c)
  | onSource step => do
    let (reply, source) ← step.run v c.source
    pure (reply, { c with source })

end HostDevices
