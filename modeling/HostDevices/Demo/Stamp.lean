/-!
# Time stamps

A record of the demo is kept with the date and the time at which it was noted.  Dates have a year
from -9999 to 9999, and a time has a stamp only if its date lies within these years at every offset
from UTC.

Times are microseconds since the epoch, and may lie before it.

* `Stampable` — the times that have a stamp.
-/

namespace HostDevices.Demo

namespace Stamp

/-- The second, counted from the epoch, with which the year -9999 begins. -/
def firstYearBegins : Int := -377705116800

/-- The second, counted from the epoch, with which the year 9999 is over. -/
def lastYearEnds : Int := 253402300800

/-- The widest offset from UTC, 25:59:59, in seconds. -/
def widestOffset : Int := 93599

end Stamp

/-- A time has a stamp if its date lies within the years at every offset from UTC. -/
def Stampable (time : Int) : Prop :=
  1000000 * (Stamp.firstYearBegins + Stamp.widestOffset) ≤ time ∧
    time < 1000000 * (Stamp.lastYearEnds - Stamp.widestOffset)

instance (time : Int) : Decidable (Stampable time) :=
  inferInstanceAs (Decidable (_ ∧ _))

end HostDevices.Demo
