import HostDevices.Text.Fields
import HostDevices.Text.Quoted
import HostDevices.Text.Unprintable

/-!
# Key events

What a keyboard tells about its keys: a physical key, known by its code, went down or came up.  The
code may be any text; whether it belongs to the keypad is decided later.

* `KeyEvent.textWith` — an event in field notation, its code quoted.
-/

namespace HostDevices

/-- What happened to a physical key. -/
inductive KeyEvent.Kind where
  | press
  | release
deriving DecidableEq, Repr

/-- The name of a kind in field notation. -/
def KeyEvent.Kind.text : KeyEvent.Kind → String
  | press => "Press"
  | release => "Release"

/-- A physical key went down or came up. -/
structure KeyEvent where
  kind : KeyEvent.Kind
  /-- The physical code of the key. -/
  code : String
deriving DecidableEq, Repr

namespace KeyEvent

/-- The press of a physical key. -/
def press (code : String) : KeyEvent := ⟨.press, code⟩

/-- The release of a physical key. -/
def release (code : String) : KeyEvent := ⟨.release, code⟩

/-- An event in field notation, where `hidden` tells the characters of the code that are written by
number. -/
def textWith (hidden : Char → Bool) (e : KeyEvent) : String :=
  fieldsText "KeyEvent" [("kind", e.kind.text), ("code", quoted hidden e.code)]

/-- An event in field notation. -/
def text (e : KeyEvent) : String := e.textWith isUnprintable

end KeyEvent

end HostDevices
