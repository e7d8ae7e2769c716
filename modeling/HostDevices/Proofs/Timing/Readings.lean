import HostDevices.Session.Timing

/-!
# The readings of a clock

What a clock gives depends only on what happens to it: readings are taken from it and, in between,
the outside sets it.  Here a clock is followed on its own, without the devices that read it, and
every reading is kept with the one who took it.

* `ClockUse` — a reading, or a step of the outside.
* `Clock.readings` — the readings in order, each with its reader; `Clock.times` leaves the readers
  out and `Clock.timesOf` keeps those of one reader.
* `Clock.after` — the clock afterwards; `Clock.reads_after` says how often it has been read.
-/

namespace HostDevices

/-- What happens to a clock: one of its readers reads it, or the outside takes a step. -/
inductive ClockUse (ρ : Type) where
  | read (reader : ρ)
  | outside (step : ClockStep)
deriving DecidableEq, Repr

namespace ClockUse

variable {ρ : Type}

/-- Somebody reads the clock. -/
def isRead : ClockUse ρ → Bool
  | read _ => true
  | outside _ => false

end ClockUse

namespace Clock

variable {ρ : Type}

/-- The readings that are taken from a clock, each with its reader. -/
def readings (c : Clock) : List (ClockUse ρ) → List (ρ × UInt64)
  | [] => []
  | .read reader :: rest => (reader, c.read.1) :: c.read.2.readings rest
  | .outside step :: rest => (step.apply c).readings rest

/-- The clock after everything that happens to it. -/
def after (c : Clock) : List (ClockUse ρ) → Clock
  | [] => c
  | .read _ :: rest => c.read.2.after rest
  | .outside step :: rest => (step.apply c).after rest

/-- The readings, whoever took them. -/
def times (c : Clock) (uses : List (ClockUse ρ)) : List UInt64 :=
  (c.readings uses).map Prod.snd

/-- The readings of one reader. -/
def timesOf [DecidableEq ρ] (reader : ρ) (c : Clock) (uses : List (ClockUse ρ)) : List UInt64 :=
  ((c.readings uses).filter fun r => r.1 = reader).map Prod.snd

theorem readings_append (c : Clock) (uses more : List (ClockUse ρ)) :
    c.readings (uses ++ more) = c.readings uses ++ (c.after uses).readings more := by
  induction uses generalizing c with
  | nil => rfl
  | cons use rest ih => cases use <;> simp [readings, after, ih]

theorem after_append (c : Clock) (uses more : List (ClockUse ρ)) :
    c.after (uses ++ more) = (c.after uses).after more := by
  induction uses generalizing c with
  | nil => rfl
  | cons use rest ih => cases use <;> simp [after, ih]

theorem times_append (c : Clock) (uses more : List (ClockUse ρ)) :
    c.times (uses ++ more) = c.times uses ++ (c.after uses).times more := by
  simp [times, readings_append]

theorem timesOf_append [DecidableEq ρ] (reader : ρ) (c : Clock) (uses more : List (ClockUse ρ)) :
    c.timesOf reader (uses ++ more) =
      c.timesOf reader uses ++ (c.after uses).timesOf reader more := by
  simp [timesOf, readings_append]

/-- The outside never reads. -/
@[simp] theorem reads_apply (c : Clock) (step : ClockStep) : (step.apply c).reads = c.reads := by
  cases step <;> rfl

/-- A clock counts the readings that are taken from it, and nothing else. -/
theorem reads_after (c : Clock) (uses : List (ClockUse ρ)) :
    (c.after uses).reads = c.reads + uses.countP ClockUse.isRead := by
  induction uses generalizing c with
  | nil => rfl
  | cons use rest ih =>
    cases use with
    | read reader =>
      rw [after, ih, reads_read, List.countP_cons_of_pos rfl]
      omega
    | outside step =>
      rw [after, ih, reads_apply, List.countP_cons_of_neg (by simp [ClockUse.isRead])]

end Clock

end HostDevices
