import HostDevices.Demo.Picture
import HostDevices.Demo.Stamp
import HostDevices.Journal.Logged

/-!
# What is seen of the demo

A run of the demo is made of scenes.  A scene takes place at one time; it shows events, and then
the run either goes on from what the scene has come to or has crashed in it.

Records are stamped with the time of their scene.  At a time that has no stamp the demo crashes on
the first record, which is then not seen.

* `Event` — what can be seen.
* `Scene` — a part of a run that takes place at one time.
* `Scene.stamped` — a scene with its records stamped.
-/

namespace HostDevices.Demo

/-- What can be seen of a run. -/
inductive Event where
  | record (r : Record)
  /-- The window is opened, with so many columns and rows. -/
  | window (width height : Nat)
  /-- The window is updated. -/
  | frame (pixels : List Color)
deriving DecidableEq, Repr

/-- The event is a record, which needs a stamp. -/
def Event.isRecord : Event → Bool
  | record _ => true
  | window .. | frame _ => false

/-- The records of an operation, as they are seen. -/
def seen {α : Type} (x : Logged α) : List Event := x.log.map .record

/-- A part of a run that takes place at one time. -/
structure Scene (α : Type) where
  events : List Event
  /-- What the scene has come to; nothing if the demo has crashed in it. -/
  result : Option α
deriving DecidableEq, Repr

namespace Scene

variable {α : Type}

/-- The scene with its records stamped.  Without a stamp for its time, it ends in a crash before its
first record. -/
def stamped (time : Int) (x : Scene α) : Scene α :=
  if Stampable time ∨ x.events.any Event.isRecord = false then x
  else ⟨x.events.takeWhile fun e => !e.isRecord, none⟩

@[simp] theorem stamped_of_stampable {time : Int} (h : Stampable time) (x : Scene α) :
    x.stamped time = x := by
  simp [stamped, h]

/-- Stamping adds nothing to what is seen. -/
theorem events_stamped_prefix (time : Int) (x : Scene α) :
    (x.stamped time).events <+: x.events := by
  unfold stamped
  split
  · exact List.prefix_refl _
  · exact List.takeWhile_prefix _

/-- Stamping does not change what a scene comes to, unless it crashes. -/
theorem result_stamped {time : Int} {x : Scene α} {a : α} (h : (x.stamped time).result = some a) :
    x.stamped time = x := by
  unfold stamped at *
  split
  · rfl
  · rw [if_neg (by assumption)] at h
    simp at h

end Scene

end HostDevices.Demo
