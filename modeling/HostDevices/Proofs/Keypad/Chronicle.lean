import HostDevices.Keypad
import HostDevices.Proofs.Keypad.Layout
import Mathlib.Data.List.Induction

/-!
# What the journal tells of the keypad

A keypad at the most talkative level notes one record for every event on the layout.  The records of
level trace are its chronicle: a press that was taken, the release of the same key, the next press,
and so on.  The key held is the one of which the chronicle ends with the press.  All other events
might as well not have come.

* `Keypad.Turn` — what one event does and what is noted of it, case by case.
* `Keypad.traces` — the chronicle in a list of records.
* `Keypad.Strokes` — a chronicle of presses and releases by turns.
* `Keypad.Thinned` — events of which some are left out that leave no trace.
* `Keypad.moving` — the events that leave one.
* `Keypad.chronicled` — the whole account, after any events.
-/

namespace HostDevices

/-- The key that a record says was taken. -/
def Record.taken? : Record → Option Key
  | keyPressed key _ => some key
  | _ => none

namespace Keypad

/-! ## One event -/

/-- What an event does to a keypad, and what is noted of it. -/
inductive Turn (pad : Keypad) : KeyEvent → Logged Keypad → Prop
  | unmapped {e : KeyEvent} (h : Key.ofCode? e.code = none) : Turn pad e (pure pad)
  | pressed (k : Key) (h : pad.held = none) :
    Turn pad (.press k.code) ⟨⟨some k⟩, [.keyPressed k k.code]⟩
  | pressIgnored (k held : Key) (h : pad.held = some held) :
    Turn pad (.press k.code) ⟨pad, [.pressIgnored k k.code held]⟩
  | released (k : Key) (h : pad.held = some k) :
    Turn pad (.release k.code) ⟨{}, [.keyReleased k k.code]⟩
  | releaseIgnored (k : Key) (h : pad.held ≠ some k) :
    Turn pad (.release k.code) ⟨pad, [.releaseIgnored k k.code]⟩

theorem turn_press (pad : Keypad) (k : Key) :
    Turn pad (.press k.code) (pad.handle .all (.press k.code)) := by
  have hmapped := Key.ofCode?_code k
  cases hheld : pad.held with
  | none =>
    have htaken : pad.handle .all (.press k.code) = ⟨⟨some k⟩, [.keyPressed k k.code]⟩ := by
      ext1 <;> simp [handle, KeyEvent.press, press, hmapped, hheld]
    rw [htaken]
    exact .pressed k hheld
  | some held =>
    have hignored : pad.handle .all (.press k.code) = ⟨pad, [.pressIgnored k k.code held]⟩ := by
      ext1 <;> simp [handle, KeyEvent.press, press, hmapped, hheld]
    rw [hignored]
    exact .pressIgnored k held hheld

theorem turn_release (pad : Keypad) (k : Key) :
    Turn pad (.release k.code) (pad.handle .all (.release k.code)) := by
  have hmapped := Key.ofCode?_code k
  by_cases hheld : pad.held = some k
  · have hfreed : pad.handle .all (.release k.code) = ⟨{}, [.keyReleased k k.code]⟩ := by
      ext1 <;> simp [handle, KeyEvent.release, release, hmapped, hheld]
    rw [hfreed]
    exact .released k hheld
  · have hignored : pad.handle .all (.release k.code) = ⟨pad, [.releaseIgnored k k.code]⟩ := by
      ext1 <;> simp [handle, KeyEvent.release, release, hmapped, hheld]
    rw [hignored]
    exact .releaseIgnored k hheld

/-- An event does one of these things. -/
theorem turn (pad : Keypad) (e : KeyEvent) : Turn pad e (pad.handle .all e) := by
  obtain ⟨kind, code⟩ := e
  cases hcode : Key.ofCode? code with
  | none =>
    have hpass : pad.handle .all ⟨kind, code⟩ = pure pad := by
      cases kind
      · simp [handle, press, hcode]
      · simp [handle, release, hcode]
    rw [hpass]
    exact .unmapped hcode
  | some k =>
    -- a code on the layout is the code of its key
    obtain rfl : k.code = code := Key.code_of_ofCode? hcode
    cases kind with
    | press => exact turn_press pad k
    | release => exact turn_release pad k

/-- An event on the layout is noted once, and no other event is. -/
theorem Turn.length_log {pad : Keypad} {e : KeyEvent} {out : Logged Keypad} (h : Turn pad e out) :
    out.log.length = if (Key.ofCode? e.code).isSome then 1 else 0 := by
  cases h with
  | unmapped h => simp [h]
  | _ => simp [KeyEvent.press, KeyEvent.release, Key.ofCode?_code]

/-! ## The chronicle -/

/-- The records of level trace. -/
def traces (log : List Record) : List Record := log.filter fun r => r.level = .trace

theorem traces_append (log more : List Record) :
    traces (log ++ more) = traces log ++ traces more := by
  unfold traces
  exact List.filter_append log more

/-- An event that leaves no trace changes nothing. -/
theorem Turn.val_of_traces_eq_nil {pad : Keypad} {e : KeyEvent} {out : Logged Keypad}
    (h : Turn pad e out) (hnone : traces out.log = []) : out.val = pad := by
  cases h with
  | pressed | released => simp [traces, Record.level] at hnone
  | _ => rfl

/-- An event that leaves a trace leaves nothing else. -/
theorem Turn.log_of_traces_ne_nil {pad : Keypad} {e : KeyEvent} {out : Logged Keypad}
    (h : Turn pad e out) (hsome : traces out.log ≠ []) : out.log = traces out.log := by
  cases h with
  | pressed | released => rfl
  | _ => simp [traces, Record.level] at hsome

/-- What is told of a key that was held: that it was taken and that it was let go, each time by its
own code. -/
def stroke (k : Key) : List Record := [.keyPressed k k.code, .keyReleased k k.code]

/-- Records that tell of presses and releases by turns: of keys that were held one after the other,
and of the press of the key that is held still. -/
def Strokes (told : List Record) (held : Option Key) : Prop :=
  ∃ done : List Key, told = done.flatMap stroke ++ (held.map fun k => .keyPressed k k.code).toList

/-- Such records end with the press of the key held. -/
theorem Strokes.held_eq {told : List Record} {held : Option Key} (h : Strokes told held) :
    held = told.getLast?.bind Record.taken? := by
  obtain ⟨done, rfl⟩ := h
  cases held with
  | some k => simp [Record.taken?]
  | none =>
    cases done using List.reverseRecOn with
    | nil => rfl
    | append_singleton before k => simp [stroke, Record.taken?]

theorem Strokes.getLast?_eq {told : List Record} {k : Key} (h : Strokes told (some k)) :
    told.getLast? = some (.keyPressed k k.code) := by
  obtain ⟨done, rfl⟩ := h
  simp

/-- An event goes on with the chronicle. -/
theorem Turn.strokes {pad : Keypad} {e : KeyEvent} {out : Logged Keypad} (h : Turn pad e out)
    {told : List Record} (htold : Strokes told pad.held) :
    Strokes (told ++ traces out.log) out.val.held := by
  obtain ⟨done, rfl⟩ := htold
  cases h with
  | pressed k hopen => exact ⟨done, by simp [hopen, traces, Record.level]⟩
  | released k hheld => exact ⟨done ++ [k], by simp [hheld, stroke, traces, Record.level]⟩
  | _ => exact ⟨done, by simp [traces, Record.level]⟩

/-! ## Many events -/

/-- After one more event. -/
theorem handleAll_concat (v : Verbosity) (pad : Keypad) (es : List KeyEvent) (e : KeyEvent) :
    pad.handleAll v (es ++ [e]) = pad.handleAll v es >>= fun pad' => pad'.handle v e := by
  rw [handleAll_append]
  simp

theorem strokes_handleAll (es : List KeyEvent) :
    Strokes (traces (handleAll .all {} es).log) (handleAll .all {} es).val.held := by
  induction es using List.reverseRecOn with
  | nil => exact ⟨[], rfl⟩
  | append_singleton es e ih =>
    rw [handleAll_concat, Logged.log_bind, traces_append]
    exact (turn _ e).strokes ih

/-- A press that was ignored names the key of which the chronicle last told, and of which it told
the press. -/
theorem last_trace_of_pressIgnored {es : List KeyEvent} {before : List Record} {k held : Key}
    {code : String}
    (h : before ++ [.pressIgnored k code held] <+: (handleAll .all {} es).log) :
    (traces before).getLast? = some (.keyPressed held held.code) := by
  induction es using List.reverseRecOn with
  | nil => simp at h
  | append_singleton es e ih =>
    rw [handleAll_concat, Logged.log_bind] at h
    have hturn := turn (handleAll .all {} es).val e
    have htold := strokes_handleAll es
    generalize (handleAll .all {} es).val.handle .all e = out at h hturn
    cases hturn with
    | unmapped => exact ih (by simpa using h)
    | pressIgnored k' held' hheld =>
      rcases Record.concat_isPrefix_concat.1 h with ⟨rfl, hsame⟩ | hbefore
      · obtain ⟨rfl, rfl, rfl⟩ : k = k' ∧ code = k'.code ∧ held = held' := by simpa using hsame
        rw [hheld] at htold
        exact htold.getLast?_eq
      · exact ih hbefore
    | _ =>
      -- the record of this event tells of something else
      rcases Record.concat_isPrefix_concat.1 h with ⟨-, hsame⟩ | hbefore
      · simp at hsame
      · exact ih hbefore

/-! ## Events that are left out -/

/-- Of events that a keypad handles, some are left out, and only such as leave no trace. -/
inductive Thinned : Keypad → List KeyEvent → List KeyEvent → Prop
  | nil (pad : Keypad) : Thinned pad [] []
  | keep {pad : Keypad} {es fewer : List KeyEvent} (e : KeyEvent)
      (h : Thinned (pad.handle .all e).val es fewer) : Thinned pad (e :: es) (e :: fewer)
  | drop {pad : Keypad} {es fewer : List KeyEvent} (e : KeyEvent)
      (hnone : traces (pad.handle .all e).log = [])
      (h : Thinned (pad.handle .all e).val es fewer) : Thinned pad (e :: es) fewer

/-- The events that leave a trace. -/
def moving (pad : Keypad) : List KeyEvent → List KeyEvent
  | [] => []
  | e :: rest =>
    (if traces (pad.handle .all e).log = [] then [] else [e]) ++
      (pad.handle .all e).val.moving rest

/-- What is left out changes neither the keypad nor its chronicle. -/
theorem Thinned.same {pad : Keypad} {es fewer : List KeyEvent} (h : Thinned pad es fewer) :
    (pad.handleAll .all fewer).val = (pad.handleAll .all es).val ∧
      traces (pad.handleAll .all fewer).log = traces (pad.handleAll .all es).log := by
  induction h with
  | nil => exact ⟨rfl, rfl⟩
  | keep e h ih =>
    simp only [handleAll_cons, Logged.val_bind, Logged.log_bind, traces_append]
    exact ⟨ih.1, by rw [ih.2]⟩
  | @drop pad es fewer e hnone h ih =>
    have hpad : (pad.handle .all e).val = pad := (turn pad e).val_of_traces_eq_nil hnone
    simp only [handleAll_cons, Logged.val_bind, Logged.log_bind, traces_append]
    rw [hnone, List.nil_append]
    rw [hpad] at ih ⊢
    exact ih

/-- All events without a trace may be left out at once. -/
theorem thinned_moving (pad : Keypad) (es : List KeyEvent) : Thinned pad es (pad.moving es) := by
  induction es generalizing pad with
  | nil => exact .nil pad
  | cons e rest ih =>
    rw [moving]
    by_cases hnone : traces (pad.handle .all e).log = []
    · rw [if_pos hnone]
      exact .drop e hnone (ih _)
    · rw [if_neg hnone]
      exact .keep e (ih _)

/-- Then nothing but traces is noted. -/
theorem log_handleAll_moving (pad : Keypad) (es : List KeyEvent) :
    (pad.handleAll .all (pad.moving es)).log = traces (pad.handleAll .all (pad.moving es)).log := by
  induction es generalizing pad with
  | nil => rfl
  | cons e rest ih =>
    have hturn := turn pad e
    rw [moving]
    by_cases hnone : traces (pad.handle .all e).log = []
    · have hpad : (pad.handle .all e).val = pad := hturn.val_of_traces_eq_nil hnone
      rw [if_pos hnone, hpad]
      exact ih pad
    · rw [if_neg hnone, List.singleton_append, handleAll_cons, Logged.log_bind, traces_append,
        ← hturn.log_of_traces_ne_nil hnone, ← ih]

/-! ## The whole account -/

/-- The account of a fresh keypad that has handled the events `es`, with every record kept. -/
structure Chronicled (es : List KeyEvent) : Prop where
  /-- One event more is not on the layout, or it is taken, lets go the key held, or is ignored. -/
  turn : ∀ e, Turn (handleAll .all {} es).val e ((handleAll .all {} es).val.handle .all e)
  /-- It is noted by one record if its code is on the layout, and else by none. -/
  noted : ∀ e, ((handleAll .all {} es).val.handle .all e).log.length =
    if (Key.ofCode? e.code).isSome then 1 else 0
  /-- The chronicle tells of presses and releases by turns, from a press on.  A release names the
  key and the code of the press in front of it. -/
  strokes : Strokes (traces (handleAll .all {} es).log) (handleAll .all {} es).val.held
  /-- The key held is the one of the last trace if that is a press, and none otherwise. -/
  held : (handleAll .all {} es).val.held =
    (traces (handleAll .all {} es).log).getLast?.bind Record.taken?
  /-- A press that is ignored names the key held, of which the last trace in front of it tells the
  press. -/
  ignored : ∀ before k code held,
    before ++ [.pressIgnored k code held] <+: (handleAll .all {} es).log →
      (traces before).getLast? = some (.keyPressed held held.code)
  /-- The events that have left a trace lead to the same keypad and leave the same traces, and
  nothing else is then noted. -/
  moving : handleAll .all {} (moving {} es) =
    ⟨(handleAll .all {} es).val, traces (handleAll .all {} es).log⟩
  /-- So do all events but some that have left no trace. -/
  thinned : ∀ fewer, Thinned {} es fewer →
    (handleAll .all {} fewer).val = (handleAll .all {} es).val ∧
      traces (handleAll .all {} fewer).log = traces (handleAll .all {} es).log

/-- Of six events on the layout two leave a trace: the others come while another key is held, or
release a key that is not. -/
example :
    let es : List KeyEvent := [.release "KeyQ", .press "KeyQ", .press "KeyQ", .press "KeyW",
      .press "Enter", .release "KeyW", .release "KeyQ"]
    moving {} es = [.press "KeyQ", .release "KeyQ"] := by
  decide

end Keypad

end HostDevices
