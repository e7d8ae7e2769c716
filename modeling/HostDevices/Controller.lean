import HostDevices.Keypad
import HostDevices.Source.Basic

/-!
# A keypad on a source

A controller drains its source into its keypad whenever it is synced, once per frame as a rule.

* `Controller.sync` — the pending events up to the first gap, and how many of them were on the
  layout.
* `Controller.handle` — an event that does not come from the source.
-/

namespace HostDevices

/-- A keypad and the source it listens to. -/
structure Controller (σ : Type) where
  keypad : Keypad := {}
  source : σ
deriving DecidableEq, Repr

namespace Controller

variable {σ : Type}

/-- A key event that concerns the keypad: its code is on the layout. -/
def concerns (e : KeyEvent) : Bool := (Key.ofCode? e.code).isSome

/-- Drains the source into the keypad, and counts the events that concern it, whether or not they
changed the latch. -/
def sync [KeySource σ] (v : Verbosity) (c : Controller σ) : Logged (Nat × Controller σ) := do
  let drained := KeySource.drain c.source
  let keypad ← c.keypad.handleAll v drained.1
  pure (drained.1.countP concerns, ⟨keypad, drained.2⟩)

/-- A sync counts the events in front of the first gap whose codes are on the layout. -/
theorem count_sync [KeySource σ] (v : Verbosity) (c : Controller σ) :
    (c.sync v).val.1 = (KeySource.batch (KeySource.entries c.source)).countP
      fun e => (Key.ofCode? e.code).isSome := by
  rw [← KeySource.fst_drain]
  rfl

/-- A sync hands the events in front of the first gap to the keypad. -/
theorem keypad_sync [KeySource σ] (v : Verbosity) (c : Controller σ) :
    (c.sync v).val.2.keypad =
      (c.keypad.handleAll v (KeySource.batch (KeySource.entries c.source))).val := by
  rw [← KeySource.fst_drain]
  rfl

/-- A sync leaves the entries behind the first gap. -/
theorem entries_sync [KeySource σ] (v : Verbosity) (c : Controller σ) :
    KeySource.entries (c.sync v).val.2.source =
      KeySource.behindGap (KeySource.entries c.source) :=
  KeySource.entries_drain c.source

/-- Hands an event straight to the keypad. -/
def handle (v : Verbosity) (c : Controller σ) (e : KeyEvent) : Logged (Controller σ) := do
  let keypad ← c.keypad.handle v e
  pure { c with keypad }

end Controller

end HostDevices
