import HostDevices.Session.Basic
import HostDevices.Source.Queue

/-!
# Sessions of a source of key events
-/

namespace HostDevices

open Session

/-- What can be done with a source that can be filled. -/
inductive SourceStep where
  | push (e : KeyEvent)
  | pushGap
  | next
  | clear
  | pending
deriving DecidableEq, Repr

/-- One step on a source. -/
def SourceStep.run {σ : Type} [KeyBuffer σ] (v : Verbosity) (s : σ) :
    SourceStep → Logged (Reply × σ)
  | push e => do
    let (taken, s) ← KeyBuffer.push v s e
    pure ((taken.map Reply.flag).getD .nothing, s)
  | pushGap => pure (.nothing, KeyBuffer.pushGap s)
  | next => pure (.event (KeySource.next s).1, (KeySource.next s).2)
  | clear => pure (.nothing, KeyBuffer.clear s)
  | pending => pure (.count (KeySource.pending s), s)

/-- What can be done with an event queue. -/
inductive QueueStep where
  | onSource (step : SourceStep)
  | isEmpty
  | text
deriving DecidableEq, Repr

/-- One step on an event queue. -/
def QueueStep.run (v : Verbosity) (q : EventQueue) : QueueStep → Logged (Reply × EventQueue)
  | onSource step => step.run v q
  | isEmpty => pure (.flag q.isEmpty, q)
  | text => pure (.text q.text, q)

end HostDevices
