import HostDevices.Journal.Record

/-!
# Reporting a fault

When the interpreter cannot go on, the details go to the journal and the user is shown an indicator.
The text of a fault is asked for only when the journal will keep it.

* `Fault.report` — what is done, in order.
-/

namespace HostDevices

/-- What went wrong. -/
inductive Fault where
  /-- A fault of the host, told in pieces. -/
  | told (pieces : List String)
  /-- A timer period that was refused. -/
  | invalidPeriod (reason : InvalidPeriod)
deriving DecidableEq, Repr

namespace Fault

/-- The text of a fault. -/
def text : Fault → String
  | told pieces => String.join pieces
  | invalidPeriod reason => reason.message

/-- One act of a report. -/
inductive Act where
  /-- The fault was asked for its text. -/
  | asked
  /-- A record was noted. -/
  | noted (r : Record)
  /-- The indicator became visible. -/
  | revealed
deriving DecidableEq, Repr

/-- The acts of a report: if the journal keeps errors, the fault is asked for its text and that is
noted; the indicator is revealed in any case, last. -/
def report (v : Verbosity) (f : Fault) : List Act :=
  (if v.admits .error then [.asked, .noted (.faultReported f.text)] else []) ++ [.revealed]

end Fault

end HostDevices
