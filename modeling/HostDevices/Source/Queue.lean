import HostDevices.Source.Basic

/-!
# The event queue

A queue for hosts that hear of key events outside the frame loop.  It holds thirty-two events; when
it is full, the newest event is the one that is lost, and a record says so.

* `EventQueue.push` — adds an event, if there is room.
* `EventQueue.next` — takes the oldest event.
-/

namespace HostDevices

/-- Events in the order in which they came. -/
structure EventQueue where
  events : List KeyEvent := []
deriving DecidableEq, Repr

namespace EventQueue

/-- The number of events a queue holds before it drops. -/
def capacity : Nat := 32

/-- Adds an event at the back, and tells whether there was room. -/
def push (v : Verbosity) (q : EventQueue) (e : KeyEvent) : Logged (Bool × EventQueue) :=
  if q.events.length < capacity then pure (true, ⟨q.events ++ [e]⟩)
  else do
    v.note (.eventDropped e)
    pure (false, q)

/-- With room, the event goes to the back and nothing is noted. -/
theorem push_of_lt (v : Verbosity) {q : EventQueue} (h : q.events.length < capacity)
    (e : KeyEvent) : q.push v e = pure (true, ⟨q.events ++ [e]⟩) :=
  if_pos h

/-- Without room, the queue stays as it is. -/
theorem push_of_le (v : Verbosity) {q : EventQueue} (h : capacity ≤ q.events.length)
    (e : KeyEvent) : q.push v e = (v.note (.eventDropped e) >>= fun _ => pure (false, q)) :=
  if_neg (Nat.not_lt.2 h)

/-- Takes the oldest event. -/
def next (q : EventQueue) : Option KeyEvent × EventQueue :=
  match q.events with
  | [] => (none, q)
  | e :: rest => (some e, ⟨rest⟩)

/-- Whether nothing is pending. -/
def isEmpty (q : EventQueue) : Bool := q.events.isEmpty

/-- The queue in field notation, where `hidden` tells the characters that are written by number. -/
def textWith (hidden : Char → Bool) (q : EventQueue) : String :=
  fieldsText "EventQueue" [("events", listText (q.events.map (KeyEvent.textWith hidden)))]

/-- The queue in field notation. -/
def text (q : EventQueue) : String := q.textWith isUnprintable

instance : KeyBuffer EventQueue where
  entries q := q.events.map some
  next := next
  fst_next q := by
    unfold next
    split <;> simp_all
  entries_next q := by
    unfold next
    split <;> simp_all
  push v q e := (fun r => (some r.1, r.2)) <$> q.push v e
  pushGap q := q
  clear _ := {}

/-- As a source, a queue with room takes the event and says yes. -/
theorem keyBuffer_push_of_lt (v : Verbosity) {q : EventQueue} (h : q.events.length < capacity)
    (e : KeyEvent) : KeyBuffer.push v q e = pure (some true, (⟨q.events ++ [e]⟩ : EventQueue)) := by
  change (fun r => (some r.1, r.2)) <$> q.push v e = _
  rw [push_of_lt v h]
  rfl

/-- As a source, a queue without room stays as it is and says no. -/
theorem keyBuffer_push_of_le (v : Verbosity) {q : EventQueue} (h : capacity ≤ q.events.length)
    (e : KeyEvent) :
    KeyBuffer.push v q e = (v.note (.eventDropped e) >>= fun _ => pure (some false, q)) := by
  change (fun r => (some r.1, r.2)) <$> q.push v e = _
  simp [push_of_le v h]

/-- Draining takes all events. -/
theorem drain_eq (q : EventQueue) : KeySource.drain q = (q.events, {}) := by
  have hfst : (KeySource.drain q).1 = q.events :=
    (KeySource.fst_drain q).trans (KeySource.batch_map_some q.events)
  have hsnd : (KeySource.drain q).2.events.map some = [] :=
    (KeySource.entries_drain q).trans (KeySource.behindGap_map_some q.events)
  have hempty : (KeySource.drain q).2 = {} := congrArg EventQueue.mk (List.map_eq_nil_iff.1 hsnd)
  exact Prod.ext hfst hempty

/-- With room for all of them, the events go to the back in order and nothing is noted. -/
theorem fill_of_le (v : Verbosity) (q : EventQueue) (es : List KeyEvent)
    (h : q.events.length + es.length ≤ capacity) :
    KeyBuffer.fill v q (es.map some) = pure ⟨q.events ++ es⟩ := by
  induction es generalizing q with
  | nil => simp [KeyBuffer.fill]
  | cons e rest ih =>
    rw [List.length_cons] at h
    have hroom := keyBuffer_push_of_lt v (q := q) (by omega) e
    have hrest := ih ⟨q.events ++ [e]⟩ (by simp; omega)
    rw [List.append_assoc, List.singleton_append] at hrest
    rw [← hrest]
    simp [KeyBuffer.fill, hroom]

end EventQueue

end HostDevices
