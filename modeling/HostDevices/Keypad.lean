import HostDevices.Journal.Logged
import HostDevices.Key.Layout

/-!
# The keypad

The keypad is a latch for a single key.  The first mapped key that is pressed is held until the same
key is released; presses and releases of other keys change nothing, and codes that are not on the
layout are passed over in silence.

* `Keypad.press`, `Keypad.release` — what an event does to the latch.
* `Keypad.handle`, `Keypad.handleAll` — one event, and events in order.
-/

namespace HostDevices

/-- The latch: the key held, if any. -/
structure Keypad where
  held : Option Key := none
deriving DecidableEq, Repr

namespace Keypad

/-- The press of a physical key: taken when no key is held. -/
def press (v : Verbosity) (pad : Keypad) (code : String) : Logged Keypad :=
  match Key.ofCode? code with
  | none => pure pad
  | some key =>
    match pad.held with
    | none => do
      v.note (.keyPressed key code)
      pure ⟨some key⟩
    | some held => do
      v.note (.pressIgnored key code held)
      pure pad

/-- The release of a physical key: the latch opens when it is the key held. -/
def release (v : Verbosity) (pad : Keypad) (code : String) : Logged Keypad :=
  match Key.ofCode? code with
  | none => pure pad
  | some key =>
    if pad.held = some key then do
      v.note (.keyReleased key code)
      pure ⟨none⟩
    else do
      v.note (.releaseIgnored key code)
      pure pad

/-- A press puts its key into an empty latch, whatever the journal keeps. -/
@[simp] theorem held_press (v : Verbosity) (pad : Keypad) (code : String) :
    (pad.press v code).val.held = (pad.held <|> Key.ofCode? code) := by
  unfold press
  cases hcode : Key.ofCode? code <;> cases hheld : pad.held <;> simp [hheld]

/-- A release empties the latch of its own key. -/
@[simp] theorem held_release (v : Verbosity) (pad : Keypad) (code : String) :
    (pad.release v code).val.held = if pad.held = Key.ofCode? code then none else pad.held := by
  unfold release
  cases hcode : Key.ofCode? code with
  | none => cases hheld : pad.held <;> simp
  | some key => by_cases hheld : pad.held = some key <;> simp [hheld]

/-- One key event. -/
def handle (v : Verbosity) (pad : Keypad) (e : KeyEvent) : Logged Keypad :=
  match e.kind with
  | .press => pad.press v e.code
  | .release => pad.release v e.code

/-- Key events in order. -/
def handleAll (v : Verbosity) (pad : Keypad) (es : List KeyEvent) : Logged Keypad :=
  es.foldlM (handle v) pad

@[simp] theorem handleAll_nil (v : Verbosity) (pad : Keypad) : pad.handleAll v [] = pure pad := rfl

@[simp] theorem handleAll_cons (v : Verbosity) (pad : Keypad) (e : KeyEvent) (es : List KeyEvent) :
    pad.handleAll v (e :: es) = pad.handle v e >>= fun pad' => pad'.handleAll v es := by
  simp [handleAll]

/-- Events may be handled in two batches. -/
theorem handleAll_append (v : Verbosity) (pad : Keypad) (es fs : List KeyEvent) :
    pad.handleAll v (es ++ fs) = pad.handleAll v es >>= fun pad' => pad'.handleAll v fs := by
  simp [handleAll]

/-- Whether a key is the one held. -/
def isPressed (pad : Keypad) (key : Key) : Bool := pad.held == some key

/-- The keypad in field notation. -/
def text (pad : Keypad) : String :=
  fieldsText "Keypad" [("pressed", optionText (pad.held.map Key.fieldText))]

end Keypad

end HostDevices
