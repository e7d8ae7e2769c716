import HostDevices.Journal.Level
import HostDevices.Key.Basic
import HostDevices.KeyEvent
import HostDevices.Time.Period

/-!
# Records of the journal

A record says what happened; its level and its wording follow from that.

* `Record` — the happenings that are noted.
* `Record.level` — the level of each.
* `Record.messageWith` — the wording of each, with the characters that are written by number as a
  parameter.
-/

namespace HostDevices

/-- What the journal notes. -/
inductive Record where
  /-- The keypad took a key. -/
  | keyPressed (key : Key) (code : String)
  /-- The keypad holds another key already. -/
  | pressIgnored (key : Key) (code : String) (held : Key)
  /-- The keypad let its key go. -/
  | keyReleased (key : Key) (code : String)
  /-- The keypad does not hold the released key. -/
  | releaseIgnored (key : Key) (code : String)
  /-- The event queue had no room. -/
  | eventDropped (event : KeyEvent)
  /-- A timer read an earlier time than the one it keeps. -/
  | clockBackward (last now : UInt64)
  /-- A timer counted ticks, and now keeps the time `last`. -/
  | ticked (count last : UInt64)
  /-- A countdown was loaded. -/
  | loaded (value : UInt8)
  /-- The devices are being set up. -/
  | initializing
  /-- The devices cannot be set up with this period. -/
  | periodRejected (reason : InvalidPeriod)
  /-- The interpreter hit a fault. -/
  | faultReported (fault : String)
  /-- Another key is held than before, or none. -/
  | keyChanged (key : Option Key)
  /-- The error card becomes visible. -/
  | cardShown
deriving DecidableEq, Repr

namespace Record

/-- The level of a record. -/
def level : Record → Level
  | keyPressed .. | keyReleased .. | ticked .. => .trace
  | pressIgnored .. | releaseIgnored .. | loaded .. => .debug
  | initializing | keyChanged .. => .info
  | eventDropped .. | clockBackward .. | cardShown => .warn
  | periodRejected .. | faultReported .. => .error

/-- The wording of a record, where `hidden` tells the characters that are written by number in the
code of an event. -/
def messageWith (hidden : Char → Bool) : Record → String
  | keyPressed key code => "Keypad press: " ++ key.text ++ " (" ++ code ++ ")"
  | pressIgnored key code held =>
    "Keypad press ignored: " ++ key.text ++ " (" ++ code ++ "), " ++ held.text ++ " held"
  | keyReleased key code => "Keypad release: " ++ key.text ++ " (" ++ code ++ ")"
  | releaseIgnored key code => "Keypad release ignored: " ++ key.text ++ " (" ++ code ++ ")"
  | eventDropped event => "Event queue full, dropping " ++ event.textWith hidden
  | clockBackward last now =>
    "Clock went backward: " ++ last.toNat.repr ++ " -> " ++ now.toNat.repr
  | ticked count last =>
    "Timer ticks: " ++ count.toNat.repr ++ " (last=" ++ last.toNat.repr ++ ")"
  | loaded value => "Countdown load: " ++ value.toNat.repr
  | initializing => "Initializing..."
  | periodRejected reason => reason.message
  | faultReported fault => "Interpreter fault: " ++ fault
  | keyChanged key => "Key: " ++ (key.map Key.text).getD "-"
  | cardShown => "Showing error card"

/-- The wording of a record. -/
def message (r : Record) : String := r.messageWith isUnprintable

end Record

end HostDevices
