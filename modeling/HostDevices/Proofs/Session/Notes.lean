import HostDevices.Proofs.Session.Independence

/-!
# What the operations note

Every operation notes records of its own kinds only: what is done with the keypad and its source
notes records of these, and what is done with timers and registers notes records of those.

* `Logged.Notes` — an operation whose records are all of a kind; a chain of such operations is one.
* `Record.concernsRegister`, `Record.tellsOfFault` — the records of timers and registers, and those
  of faults; the records of the keypad are `Record.concernsKeypad`.
* `Controller.notes_sync`, `Devices.notes_countDown` — one lemma for each operation.
-/

namespace HostDevices

namespace Logged

variable {α β : Type} {p q : Record → Bool} {x : Logged α}

/-- All records that the operation notes are of a kind. -/
def Notes (p : Record → Bool) (x : Logged α) : Prop := ∀ r ∈ x.log, p r = true

theorem notes_pure (p : Record → Bool) (a : α) : Notes p (pure a : Logged α) := by
  simp [Notes]

theorem notes_note (v : Verbosity) {r : Record} (h : p r = true) : (v.note r).Notes p := by
  intro noted hnoted
  rw [Verbosity.log_note] at hnoted
  split at hnoted
  · obtain rfl : noted = r := by simpa using hnoted
    exact h
  · simp at hnoted

theorem Notes.bind {f : α → Logged β} (hx : x.Notes p) (hf : ∀ a, (f a).Notes p) :
    (x >>= f).Notes p := by
  intro r hr
  rcases List.mem_append.1 hr with hfirst | hthen
  · exact hx r hfirst
  · exact hf _ r hthen

theorem Notes.map (hx : x.Notes p) (f : α → β) : (f <$> x).Notes p := by
  intro r hr
  rw [log_map] at hr
  exact hx r hr

theorem Notes.mono (hx : x.Notes p) (hpq : ∀ r, p r = true → q r = true) : x.Notes q :=
  fun r hr => hpq r (hx r hr)

/-- A record, and an outcome that notes nothing more. -/
theorem notes_note_bind_pure (v : Verbosity) {r : Record} (h : p r = true) (a : α) :
    (v.note r >>= fun _ => pure a).Notes p :=
  (notes_note v h).bind fun _ => notes_pure p a

end Logged

open Logged

/-- The record tells of a timer or of a register. -/
def Record.concernsRegister : Record → Bool
  | clockBackward .. | ticked .. | loaded .. => true
  | _ => false

/-- The record tells of a fault or of the error card. -/
def Record.tellsOfFault : Record → Bool
  | faultReported _ | cardShown => true
  | _ => false

/-- The records of the keypad tell nothing of faults. -/
theorem Record.not_tellsOfFault_of_concernsKeypad (r : Record) (h : r.concernsKeypad = true) :
    (!r.tellsOfFault) = true := by
  cases r with
  | faultReported fault => simp [concernsKeypad] at h
  | cardShown => simp [concernsKeypad] at h
  | _ => rfl

/-- Nor do those of timers and registers. -/
theorem Record.not_tellsOfFault_of_concernsRegister (r : Record)
    (h : r.concernsRegister = true) : (!r.tellsOfFault) = true := by
  cases r with
  | faultReported fault => simp [concernsRegister] at h
  | cardShown => simp [concernsRegister] at h
  | _ => rfl

variable (v : Verbosity)

/-! ## The keypad and its source -/

namespace Keypad

variable (pad : Keypad)

theorem notes_press (code : String) : (pad.press v code).Notes Record.concernsKeypad := by
  unfold press
  split
  · exact notes_pure _ pad
  · split
    · exact notes_note_bind_pure v rfl _
    · exact notes_note_bind_pure v rfl _

theorem notes_release (code : String) : (pad.release v code).Notes Record.concernsKeypad := by
  unfold release
  split
  · exact notes_pure _ pad
  · split
    · exact notes_note_bind_pure v rfl _
    · exact notes_note_bind_pure v rfl _

theorem notes_handleAll (es : List KeyEvent) :
    (pad.handleAll v es).Notes Record.concernsKeypad := by
  induction es generalizing pad with
  | nil => exact notes_pure _ pad
  | cons e rest ih =>
    have hhandle : (pad.handle v e).Notes Record.concernsKeypad := by
      unfold handle
      split
      · exact notes_press v pad e.code
      · exact notes_release v pad e.code
    rw [handleAll_cons]
    exact hhandle.bind ih

end Keypad

theorem EventQueue.notes_push (q : EventQueue) (e : KeyEvent) :
    (q.push v e).Notes Record.concernsKeypad := by
  unfold push
  split
  · exact notes_pure _ _
  · exact notes_note_bind_pure v rfl _

theorem EventQueue.notes_fill (q : EventQueue) (es : List KeyEvent) :
    (KeyBuffer.fill v q (es.map some)).Notes Record.concernsKeypad := by
  induction es generalizing q with
  | nil => exact notes_pure _ q
  | cons e rest ih =>
    unfold KeyBuffer.fill at *
    rw [List.map_cons, List.foldlM_cons]
    exact (((q.notes_push v e).map _).map _).bind ih

theorem Controller.notes_sync {σ : Type} [KeySource σ] (c : Controller σ) :
    (c.sync v).Notes Record.concernsKeypad :=
  (Keypad.notes_handleAll v c.keypad _).bind fun _ => notes_pure _ _

/-! ## Timers and registers -/

theorem RateTimer.notes_poll (t : RateTimer) (now : UInt64) :
    (t.poll v now).Notes Record.concernsRegister := by
  unfold RateTimer.poll
  split
  · exact notes_note_bind_pure v rfl _
  · split
    · exact notes_pure _ _
    · exact notes_note_bind_pure v rfl _

theorem Countdown.notes_update (c : Countdown) (now : UInt64) :
    (c.update v now).Notes Record.concernsRegister :=
  (c.timer.notes_poll v now).bind fun _ => notes_pure _ _

theorem Countdown.notes_load (c : Countdown) (value : UInt8) :
    (c.load v value).Notes Record.concernsRegister :=
  notes_note_bind_pure v rfl _

namespace Devices

variable {σ : Type} (d : Devices σ)

theorem notes_sync [KeySource σ] : (d.sync v).Notes Record.concernsKeypad :=
  (d.keypad.notes_sync v).bind fun _ => notes_pure _ _

theorem notes_countDown (delayNow soundNow : UInt64) :
    (d.countDown v delayNow soundNow).Notes Record.concernsRegister :=
  (d.delay.notes_update v delayNow).bind fun _ =>
    (d.sound.notes_update v soundNow).bind fun _ => notes_pure _ _

theorem notes_loadDelay (value : UInt8) :
    (d.loadDelay v value).Notes Record.concernsRegister :=
  (d.delay.notes_load v value).bind fun _ => notes_pure _ _

theorem notes_loadSound (value : UInt8) :
    (d.loadSound v value).Notes Record.concernsRegister :=
  (d.sound.notes_load v value).bind fun _ => notes_pure _ _

end Devices

end HostDevices
