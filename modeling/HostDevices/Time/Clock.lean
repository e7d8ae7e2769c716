/-!
# The clock

A clock of 64-bit microseconds that is read by the timers and set from outside.  Readings that were
fed to it come first, in order; after them it gives its time and then moves on by its pace.  Its
time wraps around at the end of the range.

* `Clock.read` — one reading, counted.
* `Clock.set`, `Clock.advance`, `Clock.feed` — what the outside does to it.
-/

namespace HostDevices

/-- A clock under outside control. -/
structure Clock where
  now : UInt64 := 0
  /-- How far the time moves after each reading that was not fed. -/
  pace : UInt64 := 0
  /-- Readings to be given first. -/
  fed : List UInt64 := []
  /-- How often the clock has been read. -/
  reads : Nat := 0
deriving DecidableEq, Repr

namespace Clock

/-- One reading of the clock. -/
def read (c : Clock) : UInt64 × Clock :=
  match c.fed with
  | [] => (c.now, { c with now := c.now + c.pace, reads := c.reads + 1 })
  | t :: rest => (t, { c with now := t, fed := rest, reads := c.reads + 1 })

/-- Puts the clock at a time. -/
def set (c : Clock) (t : UInt64) : Clock := { c with now := t }

/-- Moves the clock on. -/
def advance (c : Clock) (d : UInt64) : Clock := { c with now := c.now + d }

/-- Adds readings to be given before the clock's own. -/
def feed (c : Clock) (ts : List UInt64) : Clock := { c with fed := c.fed ++ ts }

/-- A reading that was fed comes first. -/
theorem read_of_fed {c : Clock} {t : UInt64} {rest : List UInt64} (h : c.fed = t :: rest) :
    c.read = (t, { c with now := t, fed := rest, reads := c.reads + 1 }) := by
  unfold read
  rw [h]

@[simp] theorem reads_read (c : Clock) : c.read.2.reads = c.reads + 1 := by
  unfold read
  split <;> rfl

end Clock

end HostDevices
