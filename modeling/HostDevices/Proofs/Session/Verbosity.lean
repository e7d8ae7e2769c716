import HostDevices.Fault
import HostDevices.Session.Devices
import HostDevices.Source.Lent
import HostDevices.Source.Script

/-!
# What the journal keeps does not matter

A verbosity decides which records are kept, and nothing else: an operation of the devices comes to
the same with any of them, and notes what it notes when all records are kept, less those that are
not admitted.

* `Verbosity.keep`, `Verbosity.cut` — the records that are kept, and an operation of which no others
  are seen.
* `Verbosity.cut_bind`, `Verbosity.cut_note` — an operation is cut by cutting its parts; one lemma
  for each operation of the devices follows from that.
* `Session.Indifferent` — the sessions of a device that does not care what is kept;
  `Session.indifferent_of_cut` — it is enough that no step does.
* `KeyBuffer.Unaffected` — a source, a keypad on it and devices with it do not care.
* `Fault.Reported` — what is done with a fault, and what part of it depends on what is kept.
-/

namespace HostDevices

open Session

namespace Verbosity

variable {α β : Type} (v : Verbosity)

/-- The records that are kept, in order. -/
def keep (rs : List Record) : List Record := rs.filter fun r => v.admits r.level

/-- An operation of which only the records are seen that are kept. -/
def cut (x : Logged α) : Logged α := ⟨x.val, v.keep x.log⟩

@[simp] theorem val_cut (x : Logged α) : (v.cut x).val = x.val := rfl

@[simp] theorem log_cut (x : Logged α) : (v.cut x).log = v.keep x.log := rfl

@[simp] theorem keep_append (rs more : List Record) :
    v.keep (rs ++ more) = v.keep rs ++ v.keep more :=
  List.filter_append _ _

@[simp] theorem cut_pure (a : α) : v.cut (pure a) = pure a := rfl

@[simp] theorem cut_bind (x : Logged α) (f : α → Logged β) :
    v.cut (x >>= f) = v.cut x >>= fun a => v.cut (f a) :=
  Logged.ext rfl (v.keep_append _ _)

@[simp] theorem cut_map (f : α → β) (x : Logged α) : v.cut (f <$> x) = f <$> v.cut x :=
  Logged.ext rfl (by simp)

/-- A record that is noted when all are is seen if it is admitted. -/
@[simp] theorem cut_note (r : Record) : v.cut (all.note r) = v.note r := by
  ext1
  · rfl
  · by_cases h : v.admits r.level <;> simp [keep, h]

end Verbosity

open Verbosity

variable (v : Verbosity)

/-! ## The keypad -/

namespace Keypad

variable (pad : Keypad)

@[simp] theorem cut_press (code : String) : v.cut (pad.press .all code) = pad.press v code := by
  unfold press
  cases Key.ofCode? code with
  | none => rfl
  | some key => cases pad.held <;> simp

@[simp] theorem cut_release (code : String) :
    v.cut (pad.release .all code) = pad.release v code := by
  unfold release
  cases Key.ofCode? code with
  | none => rfl
  | some key => by_cases hheld : pad.held = some key <;> simp [hheld]

@[simp] theorem cut_handle (e : KeyEvent) : v.cut (pad.handle .all e) = pad.handle v e := by
  unfold handle
  cases e.kind <;> simp

@[simp] theorem cut_handleAll (es : List KeyEvent) :
    v.cut (pad.handleAll .all es) = pad.handleAll v es := by
  induction es generalizing pad with
  | nil => rfl
  | cons e rest ih => simp [ih]

end Keypad

/-! ## The sources -/

/-- What becomes of an event that is pushed does not depend on what is kept. -/
def KeyBuffer.Indifferent (σ : Type) [KeyBuffer σ] : Prop :=
  ∀ (v : Verbosity) (s : σ) (e : KeyEvent), v.cut (push .all s e) = push v s e

theorem EventScript.indifferent : KeyBuffer.Indifferent EventScript := fun _ _ _ => rfl

theorem EventQueue.indifferent : KeyBuffer.Indifferent EventQueue := by
  intro v q e
  by_cases h : q.events.length < capacity
  · rw [keyBuffer_push_of_lt .all h, keyBuffer_push_of_lt v h, cut_pure]
  · have hfull := Nat.le_of_not_lt h
    rw [keyBuffer_push_of_le .all hfull, keyBuffer_push_of_le v hfull]
    simp

section Source

variable {σ : Type} [KeyBuffer σ] (hσ : KeyBuffer.Indifferent σ)
include hσ

/-- Whoever has borrowed a source that does not care what is kept has one that does not care. -/
theorem KeyBuffer.Indifferent.lent : KeyBuffer.Indifferent (Lent σ) := by
  intro v s e
  rw [Lent.keyBuffer_push, Lent.keyBuffer_push, cut_map, hσ]

theorem KeyBuffer.Indifferent.cut_fill (s : σ) (entries : List (Option KeyEvent)) :
    v.cut (KeyBuffer.fill .all s entries) = KeyBuffer.fill v s entries := by
  induction entries generalizing s with
  | nil => rfl
  | cons entry rest ih =>
    unfold KeyBuffer.fill at *
    cases entry with
    | none => simp [ih]
    | some e => simp [ih, hσ v s e]

theorem KeyBuffer.Indifferent.cut_run (s : σ) (i : SourceStep) :
    v.cut (i.run .all s) = i.run v s := by
  cases i with
  | push e =>
    unfold SourceStep.run
    rw [cut_bind, hσ v s e]
    rfl
  | _ => rfl

end Source

theorem QueueStep.cut_run (q : EventQueue) (i : QueueStep) : v.cut (i.run .all q) = i.run v q := by
  cases i with
  | onSource step => exact EventQueue.indifferent.cut_run v q step
  | isEmpty => rfl
  | text => rfl

/-! ## A keypad on a source -/

namespace Controller

variable {σ : Type} (c : Controller σ)

@[simp] theorem cut_sync [KeySource σ] : v.cut (c.sync .all) = c.sync v := by
  simp [sync]

@[simp] theorem cut_handle (e : KeyEvent) : v.cut (c.handle .all e) = c.handle v e := by
  simp [handle]

end Controller

/-! ## Timers and registers -/

@[simp] theorem RateTimer.cut_poll (t : RateTimer) (now : UInt64) :
    v.cut (t.poll .all now) = t.poll v now := by
  unfold RateTimer.poll
  by_cases hearly : now < t.last
  · simp [hearly]
  · by_cases hshort : now - t.last < t.period.micros <;> simp [hearly, hshort]

namespace Countdown

variable (c : Countdown)

@[simp] theorem cut_load (value : UInt8) : v.cut (c.load .all value) = c.load v value := by
  simp [load]

@[simp] theorem cut_update (now : UInt64) : v.cut (c.update .all now) = c.update v now := by
  unfold update
  rw [cut_bind, RateTimer.cut_poll]
  rfl

end Countdown

/-! ## All devices -/

namespace Devices

variable {σ : Type} (d : Devices σ)

@[simp] theorem cut_prepare (cfg : Config) : v.cut (prepare .all cfg) = prepare v cfg := by
  simp [prepare]

theorem cut_create (cfg : Config) (source : σ) (clock : Clock) :
    v.cut (create .all cfg source clock) = create v cfg source clock := by
  unfold create
  rw [cut_bind, cut_prepare]
  congr 1
  funext prepared
  cases prepared <;> rfl

@[simp] theorem cut_sync [KeySource σ] : v.cut (d.sync .all) = d.sync v := by
  unfold sync
  rw [cut_bind, Controller.cut_sync]
  rfl

@[simp] theorem cut_countDown (delayNow soundNow : UInt64) :
    v.cut (d.countDown .all delayNow soundNow) = d.countDown v delayNow soundNow := by
  simp [countDown]

@[simp] theorem cut_poll [KeySource σ] (delayNow soundNow : UInt64) :
    v.cut (d.poll .all delayNow soundNow) = d.poll v delayNow soundNow := by
  unfold poll
  rw [cut_bind, cut_sync]
  congr 1
  funext out
  exact cut_countDown v out.2 delayNow soundNow

@[simp] theorem cut_loadDelay (value : UInt8) :
    v.cut (d.loadDelay .all value) = d.loadDelay v value := by
  simp [loadDelay]

@[simp] theorem cut_loadSound (value : UInt8) :
    v.cut (d.loadSound .all value) = d.loadSound v value := by
  simp [loadSound]

end Devices

/-! ## Sessions -/

theorem KeypadStep.cut_run (pad : Keypad) (i : KeypadStep) :
    v.cut (i.run .all pad) = i.run v pad := by
  cases i <;> simp [run, silently]

theorem ControllerStep.cut_run {σ : Type} [KeyBuffer σ] (hσ : KeyBuffer.Indifferent σ)
    (c : Controller σ) (i : ControllerStep) : v.cut (i.run .all c) = i.run v c := by
  cases i with
  | sync =>
    unfold run
    rw [cut_bind, Controller.cut_sync]
    rfl
  | handle e => simp [run, silently]
  | isPressed key => rfl
  | pressedKey => rfl
  | onSource step =>
    unfold run
    rw [cut_bind, hσ.cut_run]
    rfl

theorem TimerStep.cut_run (x : Clocked RateTimer) (i : TimerStep) :
    v.cut (i.run .all x) = i.run v x := by
  cases i with
  | poll =>
    unfold run
    rw [cut_bind, RateTimer.cut_poll]
    rfl
  | period => rfl
  | onClock step => rfl

theorem CountdownStep.cut_run (x : Clocked Countdown) (i : CountdownStep) :
    v.cut (i.run .all x) = i.run v x := by
  cases i with
  | load value => simp [run]
  | update => simp [run]
  | onClock step => rfl

theorem DevicesStep.cut_run {σ : Type} [KeyBuffer σ] (hσ : KeyBuffer.Indifferent σ)
    (x : Clocked (Devices σ)) (i : DevicesStep) : v.cut (i.run .all x) = i.run v x := by
  cases i with
  | onKeypad step =>
    unfold run
    rw [cut_bind, step.cut_run v hσ]
    rfl
  | onClock step => rfl
  | _ => simp [run]

namespace Session

variable {δ ι : Type}

/-- Whatever the sessions of a device are, the moments with a verbosity are those with all records,
of which only the records that are not admitted are missing. -/
def Indifferent (step : Verbosity → δ → ι → Logged (Reply × δ)) : Prop :=
  ∀ (v : Verbosity) (d : δ) (steps : List ι),
    play (step v) d steps =
      (play (step .all) d steps).map fun m => { m with log := v.keep m.log }

/-- It is enough that each step does what it does with all records. -/
theorem indifferent_of_cut {step : Verbosity → δ → ι → Logged (Reply × δ)}
    (h : ∀ v d i, v.cut (step .all d i) = step v d i) : Indifferent step := by
  intro v d steps
  induction steps generalizing d with
  | nil => rfl
  | cons i rest ih => simp [play, ← h v d i, ih]

end Session

/-- What is done with a source does not depend on what is kept: neither filling it, nor setting up
devices with it, nor a session of a keypad on it or of such devices. -/
structure KeyBuffer.Unaffected (σ : Type) [KeyBuffer σ] : Prop where
  fill : ∀ (v : Verbosity) (s : σ) entries,
    v.cut (KeyBuffer.fill .all s entries) = KeyBuffer.fill v s entries
  create : ∀ (v : Verbosity) cfg (source : σ) clock,
    v.cut (Devices.create .all cfg source clock) = Devices.create v cfg source clock
  controller : Session.Indifferent (ControllerStep.run (σ := σ))
  devices : Session.Indifferent (DevicesStep.run (σ := σ))

/-- It is enough that it does not depend on it what becomes of an event. -/
theorem KeyBuffer.Indifferent.unaffected {σ : Type} [KeyBuffer σ] (hσ : KeyBuffer.Indifferent σ) :
    KeyBuffer.Unaffected σ where
  fill v := hσ.cut_fill v
  create v := Devices.cut_create v
  controller := indifferent_of_cut fun v => ControllerStep.cut_run v hσ
  devices := indifferent_of_cut fun v => DevicesStep.cut_run v hσ

/-! ## Fault reports -/

namespace Fault

/-- The report of a fault: the indicator is revealed once and last, whatever is kept.  The fault is
asked for its text once if errors are kept, and then right before the record, and never if not. -/
structure Reported (v : Verbosity) (f : Fault) (acts : List Act) : Prop where
  revealed : acts.count .revealed = 1
  last : acts.getLast? = some .revealed
  asked : acts.count .asked = if v.admits .error then 1 else 0
  noted : v.admits .error = true → acts = [.asked, .noted (.faultReported f.text), .revealed]
  silent : v.admits .error = false → acts = [.revealed]

theorem reported_report (v : Verbosity) (f : Fault) : Reported v f (f.report v) := by
  by_cases herror : v.admits .error
  · have hacts : f.report v = [.asked, .noted (.faultReported f.text), .revealed] := by
      simp [report, herror]
    rw [hacts]
    exact ⟨by simp, rfl, by simp [herror], fun _ => rfl, fun hsilent => by simp [herror] at hsilent⟩
  · have hacts : f.report v = [.revealed] := by simp [report, herror]
    rw [hacts]
    exact ⟨rfl, rfl, by simp [herror], fun hnoted => absurd hnoted herror, fun _ => rfl⟩

end Fault

end HostDevices
