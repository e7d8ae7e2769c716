import HostDevices.Key.Basic

/-!
# The keypad on a keyboard

The sixteen keys lie on the left four columns of an ordinary keyboard.  A keyboard key is known by
its physical code, a text such as `"Digit1"` or `"KeyQ"` that names the place and not the letter.

* `Key.layout` — the table of codes and keys, row by row.
* `Key.ofCode?` — the key at a physical code; of several entries with one code the last one counts.
* `Key.code` — the physical code of a key, taken from its first entry.
-/

namespace HostDevices.Key

/-- The four rows of the keypad, from the top: `1 2 3 C`, `4 5 6 D`, `7 8 9 E` and `A 0 B F`. -/
def layout : List (String × Key) :=
  [("Digit1", ⟨0x1⟩), ("Digit2", ⟨0x2⟩), ("Digit3", ⟨0x3⟩), ("Digit4", ⟨0xC⟩),
   ("KeyQ", ⟨0x4⟩), ("KeyW", ⟨0x5⟩), ("KeyE", ⟨0x6⟩), ("KeyR", ⟨0xD⟩),
   ("KeyA", ⟨0x7⟩), ("KeyS", ⟨0x8⟩), ("KeyD", ⟨0x9⟩), ("KeyF", ⟨0xE⟩),
   ("KeyZ", ⟨0xA⟩), ("KeyX", ⟨0x0⟩), ("KeyC", ⟨0xB⟩), ("KeyV", ⟨0xF⟩)]

/-- The key at a physical code, if the layout has one; the last entry of a code decides. -/
def ofCode? (code : String) : Option Key := layout.reverse.lookup code

/-- The layout's first entry for a key. -/
def entryOf? (k : Key) : Option (String × Key) := layout.find? fun entry => entry.2 == k

/-- Every key is in the layout. -/
theorem isSome_entryOf? (k : Key) : (entryOf? k).isSome := by
  obtain ⟨i⟩ := k
  revert i
  decide

/-- The physical code of a key. -/
def code (k : Key) : String := ((entryOf? k).get (isSome_entryOf? k)).1

end HostDevices.Key
