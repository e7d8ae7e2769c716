/-!
# Levels and verbosity

Every record of the journal has one of five levels.  A verbosity names the most talkative level that
is kept, or keeps nothing.

* `Verbosity.admits` — whether a record of a level is kept.
-/

namespace HostDevices

/-- How much a record matters, from the gravest to the most talkative. -/
inductive Level where
  | error
  | warn
  | info
  | debug
  | trace
deriving DecidableEq, Repr

/-- How talkative a level is. -/
def Level.rank : Level → Nat
  | error => 1
  | warn => 2
  | info => 3
  | debug => 4
  | trace => 5

/-- Which records the journal keeps. -/
inductive Verbosity where
  /-- No record at all. -/
  | off
  /-- The records of a level and of all graver ones. -/
  | upTo (most : Level)
deriving DecidableEq, Repr

namespace Verbosity

/-- Whether records of a level are kept. -/
def admits : Verbosity → Level → Bool
  | off, _ => false
  | upTo most, l => l.rank ≤ most.rank

/-- Every record is kept. -/
def all : Verbosity := upTo .trace

@[simp] theorem admits_all (l : Level) : all.admits l = true := by
  cases l <;> rfl

end Verbosity

end HostDevices
