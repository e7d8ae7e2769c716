import HostDevices.Proofs.Session.Loss
import HostDevices.Session.Devices
import HostDevices.Source.Lent
import HostDevices.Source.Script

/-!
# The event queue beside a source that loses nothing

The event queue has room for thirty-two events and drops the newest.  But for that it is a script:
a keypad on a queue, and all devices with a queue, do what they do on a script when the pushes that
find the queue full are left out.

* `KeyBuffer.DropsNewest` — sources with the room of an event queue; the queue is one, and so is a
  queue that has been lent.
* `Controller.Alike`, `Devices.Alike` — devices that differ in their source only, where the sources
  have the same entries.
* `ControllerStep.beside`, `DevicesStep.beside` — a session on such a source beside one on a script.
* `ControllerStep.lawful`, `DevicesStep.lawful` — one step of each, and `ControllerStep.account`,
  `DevicesStep.account` — any steps.
* `KeyBuffer.DropsNewest.fill` — many pushes.
* `EventQueue.acts_as_script` — any session on the queue, owned or lent.
-/

namespace HostDevices

open Session Logged KeySource

/-! ## Sources that drop the newest event -/

/-- A source that has room for as many events as an event queue, and drops the newest when it is
full. -/
structure KeyBuffer.DropsNewest (σ : Type) [KeyBuffer σ] : Prop where
  push_of_lt : ∀ (v : Verbosity) (s : σ) (e : KeyEvent), pending s < EventQueue.capacity →
    ∃ t, push v s e = pure (some true, t) ∧ entries t = entries s ++ [some e]
  push_of_le : ∀ (v : Verbosity) (s : σ) (e : KeyEvent), EventQueue.capacity ≤ pending s →
    push v s e = ⟨(some false, s), lossesNoted v [e]⟩
  entries_clear : ∀ s : σ, entries (KeyBuffer.clear s) = []

theorem EventQueue.dropsNewest : KeyBuffer.DropsNewest EventQueue where
  push_of_lt v q e hroom := by
    have hlt : q.events.length < capacity := by simpa [pending, entries] using hroom
    exact ⟨⟨q.events ++ [e]⟩, keyBuffer_push_of_lt v hlt e, by simp [entries]⟩
  push_of_le v q e hfull := by
    have hle : capacity ≤ q.events.length := by simpa [pending, entries] using hfull
    rw [keyBuffer_push_of_le v hle]
    ext1
    · rfl
    · simp only [log_bind, log_pure, List.append_nil]
      rfl
  entries_clear _ := rfl

/-- A source that is lent does what the source does. -/
theorem KeyBuffer.DropsNewest.lent {σ : Type} [KeyBuffer σ] (hσ : DropsNewest σ) :
    DropsNewest (Lent σ) where
  push_of_lt v s e hroom := by
    obtain ⟨t, hpush, hentries⟩ := hσ.push_of_lt v s.owned e hroom
    refine ⟨⟨t⟩, ?_, hentries⟩
    rw [Lent.keyBuffer_push, hpush]
    rfl
  push_of_le v s e hfull := by
    rw [Lent.keyBuffer_push, hσ.push_of_le v s.owned e hfull]
    ext1
    · rfl
    · simp
  entries_clear s := hσ.entries_clear s.owned

/-! ## Devices that look the same -/

/-- Two keypads that look the same, whatever their sources are made of. -/
structure Controller.Alike {σ τ : Type} [KeySource σ] [KeySource τ] (c : Controller σ)
    (d : Controller τ) : Prop where
  keypad : c.keypad = d.keypad
  entries : entries c.source = entries d.source

/-- Devices that look the same, whatever their sources are made of. -/
structure Devices.Alike {σ τ : Type} [KeySource σ] [KeySource τ] (c : Devices σ)
    (d : Devices τ) : Prop where
  keypad : c.keypad.Alike d.keypad
  delay : c.delay = d.delay
  sound : c.sound = d.sound

/-- Devices that look the same, on clocks that are the same. -/
structure Clocked.Alike {σ τ : Type} [KeySource σ] [KeySource τ] (x : Clocked (Devices σ))
    (y : Clocked (Devices τ)) : Prop where
  device : x.device.Alike y.device
  clock : x.clock = y.clock

section Alike

variable {σ τ : Type} [KeySource σ] [KeySource τ]

/-- A sync sees nothing of a source but its entries. -/
theorem Controller.Alike.sync {c : Controller σ} {d : Controller τ} (h : c.Alike d)
    (v : Verbosity) :
    Matches (fun out out' => out.1 = out'.1 ∧ out.2.Alike out'.2) (c.sync v) (d.sync v) := by
  have hbatch : (drain c.source).1 = (drain d.source).1 := by
    rw [fst_drain, fst_drain, h.entries]
  have hbehind : KeySource.entries (drain c.source).2 = KeySource.entries (drain d.source).2 := by
    rw [entries_drain, entries_drain, h.entries]
  unfold Controller.sync
  dsimp only
  rw [hbatch, h.keypad]
  refine (matches_refl _).bind ?_
  rintro pad _ rfl
  exact matches_pure ⟨rfl, rfl, hbehind⟩

/-- So does an event that does not come from the source. -/
theorem Controller.Alike.handle {c : Controller σ} {d : Controller τ} (h : c.Alike d)
    (v : Verbosity) (e : KeyEvent) : Matches Controller.Alike (c.handle v e) (d.handle v e) := by
  unfold Controller.handle
  rw [h.keypad]
  refine (matches_refl _).bind ?_
  rintro pad _ rfl
  exact matches_pure ⟨rfl, h.entries⟩

namespace Devices.Alike

variable {c : Devices σ} {d : Devices τ}

theorem sync (h : c.Alike d) (v : Verbosity) :
    Matches (fun out out' => out.2.Alike out'.2) (c.sync v) (d.sync v) :=
  (h.keypad.sync v).bind fun _ _ hout => matches_pure ⟨hout.2, h.delay, h.sound⟩

theorem countDown (h : c.Alike d) (v : Verbosity) (delayNow soundNow : UInt64) :
    Matches Devices.Alike (c.countDown v delayNow soundNow) (d.countDown v delayNow soundNow) := by
  unfold Devices.countDown
  rw [h.delay, h.sound]
  refine (matches_refl _).bind ?_
  rintro delay _ rfl
  refine (matches_refl _).bind ?_
  rintro sound _ rfl
  exact matches_pure ⟨h.keypad, rfl, rfl⟩

/-- A poll does the same on devices that look the same. -/
theorem poll (h : c.Alike d) (v : Verbosity) (delayNow soundNow : UInt64) :
    Matches Devices.Alike (c.poll v delayNow soundNow) (d.poll v delayNow soundNow) :=
  (h.sync v).bind fun _ _ hout => hout.countDown v delayNow soundNow

end Devices.Alike

end Alike

/-! ## One step -/

section Steps

variable {σ : Type} [KeyBuffer σ]

namespace ControllerStep

/-- The event of a push into a source that is full. -/
def lost (c : Controller σ) : ControllerStep → Option KeyEvent
  | onSource (.push e) => if pending c.source < EventQueue.capacity then none else some e
  | _ => none

/-- A push is answered with yes where there was room; a script has nothing to say to it. -/
def told : ControllerStep → Reply → Reply
  | onSource (.push _), _ => .flag true
  | _, reply => reply

/-- The step puts no gap into the source. -/
def Gapless (i : ControllerStep) : Prop := i ≠ onSource .pushGap

/-- A keypad on a source beside a keypad on a script. -/
def beside (σ : Type) [KeyBuffer σ] (v : Verbosity) :
    Comparison (Controller σ) (Controller EventScript) ControllerStep where
  step := ControllerStep.run v
  other := ControllerStep.run v
  lost := lost
  told := told
  Alike := Controller.Alike

variable {c : Controller σ} {d : Controller EventScript}

/-- A push finds no room exactly where its event is lost. -/
theorem lost_push_eq_some {e e' : KeyEvent} :
    lost c (onSource (.push e)) = some e' ↔ EventQueue.capacity ≤ pending c.source ∧ e = e' := by
  by_cases hroom : pending c.source < EventQueue.capacity
  · simp [lost, hroom, Nat.not_le.2 hroom]
  · simp [lost, hroom, Nat.le_of_not_lt hroom]

theorem lost_push_eq_none {e : KeyEvent} :
    lost c (onSource (.push e)) = none ↔ pending c.source < EventQueue.capacity := by
  by_cases hroom : pending c.source < EventQueue.capacity <;> simp [lost, hroom]

/-- Only a push loses its event. -/
theorem exists_push_of_lost {i : ControllerStep} {e : KeyEvent} (h : lost c i = some e) :
    i = onSource (.push e) ∧ EventQueue.capacity ≤ pending c.source := by
  cases i with
  | onSource step =>
    cases step with
    | push e' =>
      obtain ⟨hfull, rfl⟩ := lost_push_eq_some.1 h
      exact ⟨rfl, hfull⟩
    | _ => simp [lost] at h
  | _ => simp [lost] at h

/-- Any step that loses no event and puts no gap does the same on a script that looks the same. -/
theorem matches_of_kept (hσ : KeyBuffer.DropsNewest σ) (v : Verbosity) (h : c.Alike d)
    {i : ControllerStep} (hi : i.Gapless) (hlost : lost c i = none) :
    Matches (fun out out' => out.1 = i.told out'.1 ∧ out.2.Alike out'.2) (i.run v c)
      (i.run v d) := by
  cases i with
  | sync =>
    exact (h.sync v).bind fun _ _ hout => matches_pure ⟨congrArg Reply.count hout.1, hout.2⟩
  | handle e => exact (h.handle v e).map fun _ _ hout => ⟨rfl, hout⟩
  | isPressed key =>
    refine matches_pure ⟨?_, h⟩
    rw [h.keypad]
    rfl
  | pressedKey =>
    refine matches_pure ⟨?_, h⟩
    rw [h.keypad]
    rfl
  | onSource step =>
    cases step with
    | push e =>
      obtain ⟨t, hpush, hentries⟩ := hσ.push_of_lt v c.source e (lost_push_eq_none.1 hlost)
      have hother : KeyBuffer.push v d.source e = pure (none, d.source.push e) := rfl
      simp only [run, SourceStep.run, hpush, hother, pure_bind]
      refine matches_pure ⟨rfl, h.keypad, ?_⟩
      rw [hentries, h.entries]
      rfl
    | pushGap => exact absurd rfl hi
    | next =>
      have hfirst : (next c.source).1 = (next d.source).1 := by
        rw [fst_next, fst_next, h.entries]
      have hrest : entries (next c.source).2 = entries (next d.source).2 := by
        rw [entries_next, entries_next, h.entries]
      exact matches_pure ⟨congrArg Reply.event hfirst, h.keypad, hrest⟩
    | clear => exact matches_pure ⟨rfl, h.keypad, hσ.entries_clear c.source⟩
    | pending =>
      have hcount : KeySource.pending c.source = KeySource.pending d.source :=
        congrArg List.length h.entries
      exact matches_pure ⟨congrArg Reply.count hcount, h⟩

/-- One step of a keypad on a source, beside the step on a script. -/
theorem lawful (hσ : KeyBuffer.DropsNewest σ) (v : Verbosity) :
    (beside σ v).Lawful v Gapless where
  of_lost {c i e} h := by
    obtain ⟨rfl, hfull⟩ := exists_push_of_lost h
    change run v c (onSource (.push e)) = _
    rw [run, SourceStep.run, hσ.push_of_le v c.source e hfull]
    ext1
    · rfl
    · simp
  of_kept h hi hlost := matches_of_kept hσ v h hi hlost

end ControllerStep

namespace DevicesStep

/-- The event of a push into a source that is full. -/
def lost (x : Clocked (Devices σ)) : DevicesStep → Option KeyEvent
  | onKeypad step => step.lost x.device.keypad
  | _ => none

/-- What is answered to a step, by what is answered where the source is a script. -/
def told : DevicesStep → Reply → Reply
  | onKeypad step, reply => step.told reply
  | _, reply => reply

/-- The step puts no gap into the source. -/
def Gapless (i : DevicesStep) : Prop := i ≠ onKeypad (.onSource .pushGap)

/-- Devices with a source beside devices with a script. -/
def beside (σ : Type) [KeyBuffer σ] (v : Verbosity) :
    Comparison (Clocked (Devices σ)) (Clocked (Devices EventScript)) DevicesStep where
  step := DevicesStep.run v
  other := DevicesStep.run v
  lost := lost
  told := told
  Alike := Clocked.Alike

variable {x : Clocked (Devices σ)} {y : Clocked (Devices EventScript)}

/-- Any step that loses no event and puts no gap does the same on devices that look the same. -/
theorem matches_of_kept (hσ : KeyBuffer.DropsNewest σ) (v : Verbosity) (h : x.Alike y)
    {i : DevicesStep} (hi : i.Gapless) (hlost : lost x i = none) :
    Matches (fun out out' => out.1 = i.told out'.1 ∧ out.2.Alike out'.2) (i.run v x)
      (i.run v y) := by
  obtain ⟨⟨device, clock⟩, ⟨device', clock'⟩⟩ := x, y
  obtain ⟨hdevice, rfl : clock = clock'⟩ := h
  have hdelay : device.delay = device'.delay := hdevice.delay
  have hsound : device.sound = device'.sound := hdevice.sound
  cases i with
  | poll =>
    exact (hdevice.poll v _ _).bind fun _ _ hout => matches_pure ⟨rfl, hout, rfl⟩
  | loadDelay value =>
    simp only [run, Devices.loadDelay, hdelay, bind_assoc, pure_bind]
    refine (matches_refl _).bind ?_
    rintro delay _ rfl
    exact matches_pure ⟨rfl, ⟨hdevice.keypad, rfl, hsound⟩, rfl⟩
  | loadSound value =>
    simp only [run, Devices.loadSound, hsound, bind_assoc, pure_bind]
    refine (matches_refl _).bind ?_
    rintro sound _ rfl
    exact matches_pure ⟨rfl, ⟨hdevice.keypad, hdelay, rfl⟩, rfl⟩
  | updateDelay =>
    simp only [run, hdelay]
    refine (matches_refl _).bind ?_
    rintro delay _ rfl
    exact matches_pure ⟨rfl, ⟨hdevice.keypad, rfl, hsound⟩, rfl⟩
  | updateSound =>
    simp only [run, hsound]
    refine (matches_refl _).bind ?_
    rintro sound _ rfl
    exact matches_pure ⟨rfl, ⟨hdevice.keypad, hdelay, rfl⟩, rfl⟩
  | onClock step => exact matches_pure ⟨rfl, hdevice, rfl⟩
  | onKeypad step =>
    have hstep : step.Gapless := fun hgap => hi (congrArg onKeypad hgap)
    exact (step.matches_of_kept hσ v hdevice.keypad hstep hlost).bind fun _ _ hout =>
      matches_pure ⟨hout.1, ⟨hout.2, hdelay, hsound⟩, rfl⟩

/-- One step of devices with a source, beside the step of devices with a script. -/
theorem lawful (hσ : KeyBuffer.DropsNewest σ) (v : Verbosity) :
    (beside σ v).Lawful v Gapless where
  of_lost {x i e} h := by
    cases i with
    | onKeypad step =>
      have hstep := (ControllerStep.lawful hσ v).of_lost (d := x.device.keypad) h
      change step.run v x.device.keypad = _ at hstep
      change run v x (onKeypad step) = _
      rw [run, hstep]
      ext1
      · rfl
      · simp
    | _ => simp [beside, lost] at h
  of_kept h hi hlost := matches_of_kept hσ v h hi hlost

end DevicesStep

end Steps

/-! ## Many pushes -/

theorem KeyBuffer.fill_some_cons {σ : Type} [KeyBuffer σ] (v : Verbosity) (s : σ) (e : KeyEvent)
    (line : List (Option KeyEvent)) :
    fill v s (some e :: line) = push v s e >>= fun out => fill v out.2 line := by
  simp [fill]

section Fill

variable {σ : Type} [KeyBuffer σ] (hσ : KeyBuffer.DropsNewest σ) (v : Verbosity)
include hσ

/-- Of events that are put in, the first ones are taken, as many as there is room for.  The others
are lost. -/
theorem KeyBuffer.DropsNewest.fill (s : σ) (es : List KeyEvent) :
    let room := EventQueue.capacity - pending s
    entries (fill v s (es.map some)).val = entries s ++ (es.take room).map some ∧
      (fill v s (es.map some)).log = lossesNoted v (es.drop room) := by
  induction es generalizing s with
  | nil => simp [KeyBuffer.fill, lossesNoted]
  | cons e rest ih =>
    rw [List.map_cons, fill_some_cons]
    rcases Nat.lt_or_ge (pending s) EventQueue.capacity with hroom | hfull
    · obtain ⟨t, hpush, hentries⟩ := hσ.push_of_lt v s e hroom
      have hpending : pending t = pending s + 1 := by simp [pending, hentries]
      have hless : EventQueue.capacity - pending s = EventQueue.capacity - pending t + 1 := by
        omega
      obtain ⟨hval, hlog⟩ := ih t
      rw [hpush, pure_bind, hless]
      exact ⟨by simp [hval, hentries], hlog⟩
    · have hnone : EventQueue.capacity - pending s = 0 := Nat.sub_eq_zero_of_le hfull
      obtain ⟨hval, hlog⟩ := ih s
      rw [hnone] at hval hlog ⊢
      rw [hσ.push_of_le v s e hfull]
      refine ⟨hval, ?_⟩
      rw [log_bind, hlog, ← lossesNoted_append]
      rfl

/-- A source that was empty has taken the first thirty-two events. -/
theorem KeyBuffer.DropsNewest.fill_empty {s : σ} (hs : entries s = []) (es : List KeyEvent) :
    entries (KeyBuffer.fill v s (es.map some)).val = (es.take EventQueue.capacity).map some ∧
      (KeyBuffer.fill v s (es.map some)).log = lossesNoted v (es.drop EventQueue.capacity) := by
  have hfill := hσ.fill v s es
  have hnone : pending s = 0 := by rw [pending, hs, List.length_nil]
  rwa [hnone, hs] at hfill

end Fill

/-- A script takes all events and notes nothing. -/
theorem EventScript.fill (v : Verbosity) (s : EventScript) (es : List KeyEvent) :
    KeyBuffer.fill v s (es.map some) = pure ⟨s.line ++ es.map some⟩ := by
  induction es generalizing s with
  | nil => simp [KeyBuffer.fill]
  | cons e rest ih =>
    have hpush : KeyBuffer.push v s e = pure (none, s.push e) := rfl
    rw [List.map_cons, KeyBuffer.fill_some_cons, hpush, pure_bind, ih, EventScript.push,
      List.append_assoc, List.singleton_append]

namespace ControllerStep

variable {σ : Type} [KeyBuffer σ] (v : Verbosity) (c : Controller σ)

/-- Pushes of events, in order. -/
def pushes (es : List KeyEvent) : List ControllerStep := es.map fun e => onSource (.push e)

/-- Pushes fill the source and do nothing else. -/
theorem play_pushes (es : List KeyEvent) :
    (⟨after (run v) c (pushes es), journal (play (run v) c (pushes es))⟩ : Logged (Controller σ)) =
      (fun source => { c with source }) <$> KeyBuffer.fill v c.source (es.map some) := by
  induction es generalizing c with
  | nil => rfl
  | cons e rest ih =>
    have hpush : run v c (onSource (.push e)) = KeyBuffer.push v c.source e >>= fun out =>
        pure ((out.1.map Reply.flag).getD .nothing, { c with source := out.2 }) := by
      rw [run, SourceStep.run, bind_assoc]
      rfl
    rw [pushes, List.map_cons, List.map_cons, after_journal_cons, KeyBuffer.fill_some_cons, hpush,
      bind_assoc, map_bind]
    congr 1
    funext out
    rw [pure_bind]
    exact ih { c with source := out.2 }

/-- Events that are handed straight to the keypad do nothing to the source. -/
theorem play_handles (es : List KeyEvent) :
    (⟨after (run v) c (es.map handle), journal (play (run v) c (es.map handle))⟩ :
        Logged (Controller σ)) =
      (fun keypad => { c with keypad }) <$> c.keypad.handleAll v es := by
  induction es generalizing c with
  | nil => rfl
  | cons e rest ih =>
    have hhandle : run v c (handle e) = c.keypad.handle v e >>= fun keypad =>
        pure (.nothing, { c with keypad }) := by
      simp [run, silently, Controller.handle]
    rw [List.map_cons, after_journal_cons, Keypad.handleAll_cons, hhandle, bind_assoc, map_bind]
    congr 1
    funext keypad
    rw [pure_bind]
    exact ih { c with keypad }

end ControllerStep

/-! ## Any session -/

/-- Devices that have been set up look the same, on clocks that are the same, or have been refused
for the same reason. -/
def Devices.MadeAlike {σ τ : Type} [KeySource σ] [KeySource τ] :
    Except InvalidPeriod (Devices σ) × Clock → Except InvalidPeriod (Devices τ) × Clock → Prop
  | (.ok c, clock), (.ok d, clock') => c.Alike d ∧ clock = clock'
  | (.error e, clock), (.error e', clock') => e = e' ∧ clock = clock'
  | _, _ => False

theorem Devices.matches_create {σ τ : Type} [KeySource σ] [KeySource τ] (v : Verbosity)
    (cfg : Config) (clock : Clock) {s : σ} {t : τ} (h : entries s = entries t) :
    Matches Devices.MadeAlike (create v cfg s clock) (create v cfg t clock) := by
  refine (matches_refl (prepare v cfg)).bind ?_
  rintro prepared _ rfl
  cases prepared with
  | error e => exact matches_pure ⟨rfl, rfl⟩
  | ok p => exact matches_pure ⟨⟨⟨rfl, h⟩, rfl, rfl⟩, rfl⟩

/-- A source that is empty at first acts as a script, but for the events that are lost. -/
structure ActsAsScript (σ : Type) [KeyBuffer σ] (empty : σ) (v : Verbosity) : Prop where
  /-- Of events that are put in first, those behind the thirty-second are lost.  The script is not
  given them, and has the same entries. -/
  filled : ∀ es : List KeyEvent,
    let source := KeyBuffer.fill v empty (es.map some)
    let script := KeyBuffer.fill v ({} : EventScript) ((es.take EventQueue.capacity).map some)
    entries source.val = entries script.val ∧
      source.log = lossesNoted v (es.drop EventQueue.capacity) ++ script.log ∧
      (es.length ≤ EventQueue.capacity →
        es.take EventQueue.capacity = es ∧ source.log = script.log)
  /-- A keypad on the source after any steps, beside a keypad on the script after those of them that
  lose no event.  As long as no more than thirty-two entries are pending in the script, the two
  cannot be told apart. -/
  controller : ∀ (es : List KeyEvent) (done : List ControllerStep),
    (∀ i ∈ done, ControllerStep.Gapless i) →
    let source := KeyBuffer.fill v empty (es.map some)
    let script := KeyBuffer.fill v ({} : EventScript) ((es.take EventQueue.capacity).map some)
    let c : Controller σ := { source := source.val }
    let d : Controller EventScript := { source := script.val }
    (ControllerStep.beside σ v).Beside v ControllerStep.Gapless c d done ∧
      ((∀ n, pending (after (ControllerStep.run v) d (done.take n)).source ≤ EventQueue.capacity) →
        (ControllerStep.beside σ v).Indistinguishable c d done)
  /-- The same of all devices.  They are set up with the same records and the same result. -/
  devices : ∀ (es : List KeyEvent) (cfg : Config) (clock : Clock),
    let source := KeyBuffer.fill v empty (es.map some)
    let script := KeyBuffer.fill v ({} : EventScript) ((es.take EventQueue.capacity).map some)
    let made := Devices.create v cfg source.val clock
    let made' := Devices.create v cfg script.val clock
    Matches Devices.MadeAlike made made' ∧
      ∀ c d rest, made.val = (.ok c, rest) → made'.val = (.ok d, rest) →
        ∀ done : List DevicesStep, (∀ i ∈ done, DevicesStep.Gapless i) →
          (DevicesStep.beside σ v).Beside v DevicesStep.Gapless ⟨c, rest⟩ ⟨d, rest⟩ done ∧
            ((∀ n, pending (after (DevicesStep.run v) ⟨d, rest⟩ (done.take n)).device.keypad.source ≤
                EventQueue.capacity) →
              (DevicesStep.beside σ v).Indistinguishable ⟨c, rest⟩ ⟨d, rest⟩ done)
  /-- A batch of events that are pushed into an empty source and then synced does what the first
  thirty-two of them do when they are handed straight to the keypad, on the layout or not. -/
  batch : ∀ (c : Controller σ) (es : List KeyEvent), entries c.source = [] →
    let first := es.take EventQueue.capacity
    let synced := ControllerStep.pushes es ++ [.sync]
    let straight := first.map ControllerStep.handle
    let ended := after (ControllerStep.run v) c synced
    ended.keypad = (after (ControllerStep.run v) c straight).keypad ∧
      entries ended.source = [] ∧
      journal (play (ControllerStep.run v) c synced) =
        lossesNoted v (es.drop EventQueue.capacity) ++
          journal (play (ControllerStep.run v) c straight) ∧
      (play (ControllerStep.run v) c synced).getLast?.map Moment.reply =
        some (.count (first.countP fun e => (Key.ofCode? e.code).isSome))

/-- Where an event is lost, a script comes to hold more than there is room for. -/
theorem ControllerStep.not_roomy_of_lost {σ : Type} [KeyBuffer σ] (v : Verbosity)
    {c : Controller σ} {d : Controller EventScript} (h : c.Alike d) {i : ControllerStep}
    {e : KeyEvent} (hlost : lost c i = some e) :
    ¬ pending (run v d i).val.2.source ≤ EventQueue.capacity := by
  obtain ⟨rfl, hfull⟩ := exists_push_of_lost hlost
  have hmore : pending (run v d (onSource (.push e))).val.2.source = pending d.source + 1 := by
    change (d.source.line ++ [some e]).length = _
    rw [List.length_append]
    rfl
  have hsame : pending c.source = pending d.source := congrArg List.length h.entries
  omega

section

variable {σ : Type} [KeyBuffer σ] (hσ : KeyBuffer.DropsNewest σ) (v : Verbosity)
include hσ

/-- A keypad that looks like one on a script goes on looking like it. -/
theorem ControllerStep.account {c : Controller σ} {d : Controller EventScript} (h : c.Alike d)
    {done : List ControllerStep} (hgapless : ∀ i ∈ done, Gapless i) :
    (beside σ v).Beside v Gapless c d done ∧
      ((∀ n, pending (after (run v) d (done.take n)).source ≤ EventQueue.capacity) →
        (beside σ v).Indistinguishable c d done) := by
  refine (lawful hσ v).account (fun d => pending d.source ≤ EventQueue.capacity) ?_ h hgapless
  intro c d i e hcd hlost
  exact not_roomy_of_lost v hcd hlost

/-- Devices that look like those with a script go on looking like them. -/
theorem DevicesStep.account {x : Clocked (Devices σ)} {y : Clocked (Devices EventScript)}
    (h : x.Alike y) {done : List DevicesStep} (hgapless : ∀ i ∈ done, Gapless i) :
    (beside σ v).Beside v Gapless x y done ∧
      ((∀ n, pending (after (run v) y (done.take n)).device.keypad.source ≤ EventQueue.capacity) →
        (beside σ v).Indistinguishable x y done) := by
  refine (lawful hσ v).account (fun y => pending y.device.keypad.source ≤ EventQueue.capacity) ?_ h
    hgapless
  intro x y i e hxy hlost
  cases i with
  | onKeypad step => exact ControllerStep.not_roomy_of_lost v hxy.device.keypad hlost
  | _ => simp [beside, lost] at hlost

/-- The source and the script, once events have been put into them. -/
theorem KeyBuffer.DropsNewest.filled {empty : σ} (hempty : entries empty = [])
    (es : List KeyEvent) :
    let source := KeyBuffer.fill v empty (es.map some)
    let script := KeyBuffer.fill v ({} : EventScript) ((es.take EventQueue.capacity).map some)
    entries source.val = entries script.val ∧
      source.log = lossesNoted v (es.drop EventQueue.capacity) ++ script.log ∧
      (es.length ≤ EventQueue.capacity →
        es.take EventQueue.capacity = es ∧ source.log = script.log) := by
  obtain ⟨hentries, hlog⟩ := hσ.fill_empty v hempty es
  dsimp only
  rw [EventScript.fill, hentries, hlog]
  refine ⟨rfl, (List.append_nil _).symm, fun hfew => ?_⟩
  rw [List.take_of_length_le hfew, List.drop_eq_nil_of_le hfew]
  simp [lossesNoted]

theorem KeyBuffer.DropsNewest.actsAsScript {empty : σ} (hempty : entries empty = []) :
    ActsAsScript σ empty v where
  filled := hσ.filled v hempty
  controller es _ hgapless :=
    ControllerStep.account hσ v ⟨rfl, (hσ.filled v hempty es).1⟩ hgapless
  devices es cfg clock := by
    have hmade := Devices.matches_create v cfg clock (hσ.filled v hempty es).1
    refine ⟨hmade, ?_⟩
    intro c d rest hc hd done hgapless
    have halike := hmade.val
    rw [hc, hd] at halike
    exact DevicesStep.account hσ v ⟨halike.1, rfl⟩ hgapless
  batch c es hc := by
    intro first synced straight ended
    obtain ⟨hentries, hlog⟩ := hσ.fill_empty v hc es
    have hpushes := ControllerStep.play_pushes v c es
    have hstraight := ControllerStep.play_handles v c first
    -- the sync finds the first events in the source
    let filled : Controller σ := { c with source := (KeyBuffer.fill v c.source (es.map some)).val }
    have hfilled : after (ControllerStep.run v) c (ControllerStep.pushes es) = filled :=
      congrArg Logged.val hpushes
    have hbatch : (drain filled.source).1 = first := by
      rw [fst_drain, hentries, batch_map_some]
    have hend : ended = (filled.sync v).val.2 := by
      rw [← hfilled]
      exact after_append _ _ _ _
    refine ⟨?_, ?_, ?_, ?_⟩
    · rw [hend, Controller.keypad_sync, hentries, batch_map_some]
      exact (congrArg (fun x => x.val.keypad) hstraight).symm
    · rw [hend, Controller.entries_sync, hentries, behindGap_map_some]
    · have hput := congrArg Logged.log hpushes
      have hthen := congrArg Logged.log hstraight
      rw [Logged.log_map] at hput hthen
      rw [play_append, journal_append, hfilled]
      dsimp only at hput hthen
      rw [hput, hlog, hthen, ← hbatch]
      simp [ControllerStep.run, play, Controller.sync, journal, filled]
    · have hcount : (filled.sync v).val.1 =
          first.countP fun e => (Key.ofCode? e.code).isSome := by
        rw [Controller.count_sync, hentries, batch_map_some]
      rw [play_append, hfilled, ← hcount]
      simp [ControllerStep.run, play]

end

/-- **The queue is a script but for the events it loses.**  A queue has room for thirty-two events,
and a warning tells of each one that is lost.  This holds of the queue itself and of a queue that
has been lent. -/
theorem EventQueue.acts_as_script (v : Verbosity) :
    ActsAsScript EventQueue {} v ∧ ActsAsScript (Lent EventQueue) ⟨{}⟩ v ∧
      EventQueue.capacity = 32 ∧ ∀ e, (Record.eventDropped e).level = .warn := by
  have hqueue := EventQueue.dropsNewest
  exact ⟨hqueue.actsAsScript v rfl, hqueue.lent.actsAsScript v rfl, rfl, fun _ => rfl⟩

/-- The release that finds no room is lost, so the key stays pressed. -/
example :
    let presses := List.replicate 32 (ControllerStep.onSource (.push ⟨.press, "Digit1"⟩))
    let steps := presses ++ [.onSource (.push ⟨.release, "Digit1"⟩), .sync]
    let c := after (ControllerStep.run .all) ({ source := {} } : Controller EventQueue) steps
    c.keypad.held = Key.ofCode? "Digit1" := by
  decide +kernel

end HostDevices
