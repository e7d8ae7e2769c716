import HostDevices.Session.Keypad
import HostDevices.Proofs.Keypad.Layout

/-!
# The keypad as a latch over physical codes

The keypad keeps a key and compares keys.  Seen from the keyboard it is a latch that keeps a
physical code and compares codes: because no two codes of the layout have the same key, nobody who
asks for the key can tell the two latches apart.

* `CodeLatch.step`, `CodeLatch.run` — the latch over codes.
* `CodeLatch.step_map_code` — one event keeps the two latches in step.
* `CodeLatch.foldl_step_map_code` — so do many: the latch over codes holds the code of the key.
* `CodeLatch.held_after_take` — the key held after any part of any session of a fresh keypad.
-/

namespace HostDevices

namespace CodeLatch

/-- One event: the press of a mapped code is taken when no code is held, and the release of the
code that is held lets it go. -/
def step (held : Option String) (e : KeyEvent) : Option String :=
  match e.kind with
  | .press => if held = none ∧ (Key.ofCode? e.code).isSome then some e.code else held
  | .release => if held = some e.code then none else held

/-- The code held after events, from the first on. -/
def run (es : List KeyEvent) : Option String := es.foldl step none

/-! ## The two latches in step -/

theorem press_map_code (held : Option Key) (code : String) :
    step (held.map Key.code) (.press code) = (held <|> Key.ofCode? code).map Key.code := by
  cases held with
  | some k => simp [step, KeyEvent.press]
  | none =>
    cases hcode : Key.ofCode? code with
    | none => simp [step, KeyEvent.press, hcode]
    | some k =>
      have hk : k.code = code := Key.code_of_ofCode? hcode
      simp [step, KeyEvent.press, hcode, hk]

theorem release_map_code (held : Option Key) (code : String) :
    step (held.map Key.code) (.release code) =
      (if held = Key.ofCode? code then none else held).map Key.code := by
  cases held with
  | none => simp [step, KeyEvent.release]
  | some k =>
    -- the key held is released by its own code and by no other one
    have hiff : some k = Key.ofCode? code ↔ k.code = code := by
      rw [eq_comm, Key.ofCode?_eq_some_iff, eq_comm]
    by_cases h : k.code = code
    · simp [step, KeyEvent.release, hiff, h]
    · simp [step, KeyEvent.release, hiff, h]

/-- An event does to the code of the key held what it does to the key. -/
theorem step_map_code (v : Verbosity) (pad : Keypad) (e : KeyEvent) :
    step (pad.held.map Key.code) e = (pad.handle v e).val.held.map Key.code := by
  obtain ⟨kind, code⟩ := e
  cases kind with
  | press => exact (press_map_code pad.held code).trans (by simp [Keypad.handle])
  | release => exact (release_map_code pad.held code).trans (by simp [Keypad.handle])

/-- Events in order do to the code of the key held what they do to the key. -/
theorem foldl_step_map_code (v : Verbosity) (pad : Keypad) (es : List KeyEvent) :
    es.foldl step (pad.held.map Key.code) = (pad.handleAll v es).val.held.map Key.code := by
  induction es generalizing pad with
  | nil => rfl
  | cons e rest ih => rw [List.foldl_cons, step_map_code v, ih, Keypad.handleAll_cons]; rfl

/-- The key held is the key at the code to which the events take the latch over codes. -/
theorem held_handleAll_foldl (v : Verbosity) (pad : Keypad) (es : List KeyEvent) :
    (pad.handleAll v es).val.held = (es.foldl step (pad.held.map Key.code)).bind Key.ofCode? := by
  rw [foldl_step_map_code v, Option.bind_map]
  cases (pad.handleAll v es).val.held with
  | none => rfl
  | some k => exact (Key.ofCode?_code k).symm

/-- The key a fresh keypad holds is the key at the code held. -/
theorem held_handleAll (v : Verbosity) (es : List KeyEvent) :
    (Keypad.handleAll v {} es).val.held = (run es).bind Key.ofCode? :=
  held_handleAll_foldl v {} es

end CodeLatch

/-! ## Sessions -/

/-- The event that a step on a keypad tells it, if the step tells one. -/
def KeypadStep.event? : KeypadStep → Option KeyEvent
  | press code => some (.press code)
  | release code => some (.release code)
  | handle e => some e
  | isPressed _ => none
  | pressedKey => none
  | text => none

/-- A step does to the keypad what its event does; a question does nothing. -/
theorem KeypadStep.run_val (v : Verbosity) (pad : Keypad) (i : KeypadStep) :
    (i.run v pad).val.2 = (pad.handleAll v i.event?.toList).val := by
  cases i <;> rfl

/-- A session of a keypad leaves it as its events do. -/
theorem KeypadStep.final_play (v : Verbosity) (pad : Keypad) (steps : List KeypadStep) :
    Session.final pad (Session.play (KeypadStep.run v) pad steps) =
      (pad.handleAll v (steps.filterMap KeypadStep.event?)).val := by
  induction steps generalizing pad with
  | nil => rfl
  | cons i rest ih =>
    rw [Session.play, Session.final_cons, ih, Session.filterMap_cons_toList,
      Keypad.handleAll_append, Logged.val_bind, KeypadStep.run_val]

/-- **The keypad is a latch over codes.**  In any session of a fresh keypad, after any number of
its steps, the key held is the key at the code that the latch over codes holds after the same
events. -/
theorem CodeLatch.held_after_take (v : Verbosity) (steps : List KeypadStep) (n : Nat) :
    (Session.final {} ((Session.play (KeypadStep.run v) {} steps).take n)).held =
      (CodeLatch.run ((steps.take n).filterMap KeypadStep.event?)).bind Key.ofCode? := by
  rw [Session.take_play, KeypadStep.final_play, CodeLatch.held_handleAll]

end HostDevices
