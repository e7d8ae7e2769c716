import HostDevices.Text.Fields
import HostDevices.Time.Period

/-!
# Configuration

What can be chosen about the devices: the period of their timers.
-/

namespace HostDevices

/-- The settings of the devices. -/
structure Config where
  /-- The period of both timers, as it was given. -/
  timerPeriod : Duration
deriving DecidableEq, Repr

namespace Config

/-- The period of a timer at 60 Hz, in whole microseconds. -/
def standardPeriod : Duration := .ofMicros (1000000 / 60)

/-- Timers at 60 Hz. -/
def standard : Config := ⟨standardPeriod⟩

/-- The settings with another period. -/
def withTimerPeriod (_ : Config) (period : Duration) : Config := ⟨period⟩

/-- The settings in field notation. -/
def text (c : Config) : String := fieldsText "Config" [("timer_period", c.timerPeriod.text)]

end Config

end HostDevices
