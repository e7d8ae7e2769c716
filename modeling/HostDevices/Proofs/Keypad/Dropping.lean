import HostDevices.Proofs.Keypad.Draining

/-!
# The event queue drops the newest event

A host may hear of more key events than the queue can hold.  The queue then drops the event that
came last, and a record says so.  What the queue has taken it hands out in the order in which it
came, unless it is cleared, and this however often it has been full, drained or cleared before.

* `QueueStep.accepts`, `QueueStep.rejects`, `QueueStep.removes` — the events that a step puts into
  the queue, those that find no room, and those that a step takes out.
* `EventQueue.Ledger` — the account of a session.
* `QueueStep.events_run`, `QueueStep.log_run`, `QueueStep.length_run` — the account of one step.
* `EventQueue.drops_newest` — the account of any session.
-/

namespace HostDevices

open Session

/-- The events that a reply hands out. -/
def Reply.handed : Reply → List KeyEvent
  | event e => e.toList
  | _ => []

namespace QueueStep

/-- The event of a push that is answered with yes. -/
def accepts (v : Verbosity) (q : EventQueue) : QueueStep → List KeyEvent
  | onSource (.push e) => if ((onSource (.push e)).run v q).val.1 = .flag true then [e] else []
  | _ => []

/-- The event of a push that is answered with no. -/
def rejects (v : Verbosity) (q : EventQueue) : QueueStep → List KeyEvent
  | onSource (.push e) => if ((onSource (.push e)).run v q).val.1 = .flag false then [e] else []
  | _ => []

/-- The events that a step takes out of the queue, in order, with their fate. -/
def removes (v : Verbosity) (q : EventQueue) : QueueStep → List (Fate × KeyEvent)
  | onSource .next => ((onSource .next).run v q).val.1.handed.map (.consumed, ·)
  | onSource .clear => q.events.map (.discarded, ·)
  | _ => []

end QueueStep

/-- The account of a session that starts with an empty queue and takes the steps `done`. -/
structure EventQueue.Ledger (v : Verbosity) (done : List QueueStep) : Prop where
  /-- The queue never holds more than it can. -/
  bounded : (after (QueueStep.run v) {} done).events.length ≤ capacity
  /-- The events that were taken are those that were handed out or cleared, each once and in the
  order in which they came, and behind them those that are pending. -/
  events : gather (QueueStep.accepts v) (QueueStep.run v) {} done =
    (gather (QueueStep.removes v) (QueueStep.run v) {} done).map Prod.snd ++
      (after (QueueStep.run v) {} done).events
  /-- The records are one for each event that was dropped, in order. -/
  records : journal (play (QueueStep.run v) {} done) =
    if v.admits .warn then
      (gather (QueueStep.rejects v) (QueueStep.run v) {} done).map .eventDropped
    else []
  /-- A push at this point is answered with no exactly when the queue is full.  The queue then stays
  as it is and notes the event; otherwise the event goes to the back and nothing is noted. -/
  push : ∀ e,
    let q := after (QueueStep.run v) {} done
    let out := (QueueStep.onSource (.push e)).run v q
    if q.events.length = capacity then
      out.val = (.flag false, q) ∧ out.log = if v.admits .warn then [.eventDropped e] else []
    else out.val = (.flag true, ⟨q.events ++ [e]⟩) ∧ out.log = []
  /-- The oldest pending event is handed out, and nothing exactly when nothing is pending. -/
  next :
    let q := after (QueueStep.run v) {} done
    ∃ handed, ((QueueStep.onSource .next).run v q).val = (.event handed, ⟨q.events.tail⟩) ∧
      handed = q.events.head? ∧ (handed = none ↔ q.events = [])
  /-- The queue can be asked how many events are pending and whether there is none, and does not
  change by that. -/
  asked :
    let q := after (QueueStep.run v) {} done
    (QueueStep.onSource .pending).run v q = pure (.count q.events.length, q) ∧
      QueueStep.isEmpty.run v q = pure (.flag (decide (q.events = [])), q)
  /-- Where the queue was cleared, all events taken before have gone by then.  What is taken out of
  it afterwards was put in afterwards, in this order. -/
  cleared : ∀ before behind, done = before ++ .onSource .clear :: behind →
    let upTo := before ++ [.onSource .clear]
    gather (QueueStep.accepts v) (QueueStep.run v) {} before =
        (gather (QueueStep.removes v) (QueueStep.run v) {} upTo).map Prod.snd ∧
      (gather (QueueStep.removes v) (QueueStep.run v) (after (QueueStep.run v) {} upTo)
          behind).map Prod.snd <+:
        gather (QueueStep.accepts v) (QueueStep.run v) (after (QueueStep.run v) {} upTo) behind

namespace QueueStep

variable (v : Verbosity) (q : EventQueue)

/-! ## One step -/

/-- With room, a push is answered with yes. -/
theorem run_push_of_lt {q : EventQueue} (h : q.events.length < EventQueue.capacity) (e : KeyEvent) :
    (onSource (.push e)).run v q = pure (.flag true, ⟨q.events ++ [e]⟩) := by
  simp [run, SourceStep.run, EventQueue.keyBuffer_push_of_lt v h]

/-- Without room, it is answered with no. -/
theorem run_push_of_le {q : EventQueue} (h : EventQueue.capacity ≤ q.events.length) (e : KeyEvent) :
    (onSource (.push e)).run v q =
      ⟨(.flag false, q), if v.admits .warn then [.eventDropped e] else []⟩ := by
  rw [run, SourceStep.run, EventQueue.keyBuffer_push_of_le v h]
  ext1
  · rfl
  · simp only [Logged.log_bind, Logged.log_pure, List.append_nil]
    rfl

/-- The oldest event is taken and handed out. -/
theorem run_next : (onSource .next).run v q = pure (.event q.events.head?, ⟨q.events.tail⟩) := by
  have hnext : KeySource.next q = (q.events.head?, ⟨q.events.tail⟩) := by
    change q.next = _
    obtain ⟨events⟩ := q
    cases events <;> rfl
  simp [run, SourceStep.run, hnext]

/-- What was in the queue and what is put in are what is taken out and what is left. -/
theorem events_run (i : QueueStep) :
    q.events ++ i.accepts v q = (i.removes v q).map Prod.snd ++ (i.run v q).val.2.events := by
  cases i with
  | onSource step =>
    cases step with
    | push e =>
      by_cases h : q.events.length < EventQueue.capacity
      · simp [accepts, removes, run_push_of_lt v h]
      · simp [accepts, removes, run_push_of_le v (Nat.le_of_not_lt h)]
    | pushGap => simp [accepts, removes, run, SourceStep.run, KeyBuffer.pushGap]
    | next =>
      cases hevents : q.events <;>
        simp [accepts, removes, run_next, Reply.handed, hevents]
    | clear =>
      have hleft : ((onSource .clear).run v q).val.2.events = [] := rfl
      simp [accepts, removes, Function.comp_def, hleft]
    | pending => simp [accepts, removes, run, SourceStep.run]
  | isEmpty => simp [accepts, removes, run]
  | text => simp [accepts, removes, run]

/-- A step notes the event that it drops, if it drops one. -/
theorem log_run (i : QueueStep) :
    (i.run v q).log = if v.admits .warn then (i.rejects v q).map .eventDropped else [] := by
  cases i with
  | onSource step =>
    cases step with
    | push e =>
      by_cases h : q.events.length < EventQueue.capacity
      · simp [rejects, run_push_of_lt v h]
      · simp [rejects, run_push_of_le v (Nat.le_of_not_lt h)]
    | _ => simp [rejects, run, SourceStep.run]
  | isEmpty => simp [rejects, run]
  | text => simp [rejects, run]

/-- No step overfills the queue. -/
theorem length_run (h : q.events.length ≤ EventQueue.capacity) (i : QueueStep) :
    (i.run v q).val.2.events.length ≤ EventQueue.capacity := by
  cases i with
  | onSource step =>
    cases step with
    | push e =>
      by_cases hroom : q.events.length < EventQueue.capacity
      · rw [run_push_of_lt v hroom, Logged.val_pure, List.length_append]
        exact hroom
      · simpa [run_push_of_le v (Nat.le_of_not_lt hroom)] using h
    | pushGap => exact h
    | next =>
      rw [run_next, Logged.val_pure, List.length_tail]
      exact Nat.le_trans (Nat.sub_le _ _) h
    | clear => exact Nat.zero_le _
    | pending => exact h
  | isEmpty => exact h
  | text => exact h

/-! ## Many steps -/

theorem events_after (steps : List QueueStep) :
    q.events ++ gather (accepts v) (run v) q steps =
      (gather (removes v) (run v) q steps).map Prod.snd ++ (after (run v) q steps).events := by
  induction steps generalizing q with
  | nil => simp [gather]
  | cons i rest ih =>
    calc q.events ++ gather (accepts v) (run v) q (i :: rest)
        = (q.events ++ i.accepts v q) ++ gather (accepts v) (run v) (i.run v q).val.2 rest := by
          rw [gather, List.append_assoc]
      _ = (i.removes v q).map Prod.snd ++
            ((i.run v q).val.2.events ++ gather (accepts v) (run v) (i.run v q).val.2 rest) := by
          rw [events_run, List.append_assoc]
      _ = (gather (removes v) (run v) q (i :: rest)).map Prod.snd ++
            (after (run v) q (i :: rest)).events := by
          rw [ih, gather, List.map_append, List.append_assoc, after_cons]

theorem journal_play (steps : List QueueStep) :
    journal (play (run v) q steps) =
      if v.admits .warn then (gather (rejects v) (run v) q steps).map .eventDropped else [] := by
  induction steps generalizing q with
  | nil => simp [gather]
  | cons i rest ih =>
    rw [journal_play_cons, log_run, ih, gather, List.map_append]
    split <;> rfl

theorem length_after (h : q.events.length ≤ EventQueue.capacity) (steps : List QueueStep) :
    (after (run v) q steps).events.length ≤ EventQueue.capacity := by
  induction steps generalizing q with
  | nil => exact h
  | cons i rest ih =>
    rw [after_cons]
    exact ih _ (length_run v q h i)

/-- A queue is empty after it has been cleared. -/
theorem after_clear (before : List QueueStep) :
    after (run v) q (before ++ [.onSource .clear]) = {} := by
  rw [after_append]
  rfl

end QueueStep

namespace EventQueue

/-! ## The whole account -/

theorem ledger (v : Verbosity) (done : List QueueStep) : Ledger v done where
  bounded := QueueStep.length_after v {} (Nat.zero_le _) done
  events := QueueStep.events_after v {} done
  records := QueueStep.journal_play v {} done
  push e := by
    intro q out
    have hbounded : q.events.length ≤ capacity := QueueStep.length_after v {} (Nat.zero_le _) done
    split
    · rename_i hfull
      have hout : out = _ := QueueStep.run_push_of_le v (Nat.le_of_eq hfull.symm) e
      simp [hout]
    · rename_i hroom
      have hout : out = _ := QueueStep.run_push_of_lt v (Nat.lt_of_le_of_ne hbounded hroom) e
      simp [hout]
  next := by
    intro q
    exact ⟨_, congrArg Logged.val (QueueStep.run_next v q), rfl, List.head?_eq_none_iff⟩
  asked := by
    intro q
    constructor
    · simp [QueueStep.run, SourceStep.run, KeySource.pending, KeySource.entries]
    · cases hevents : q.events <;> simp [QueueStep.run, isEmpty, hevents]
  cleared := by
    intro before behind _ upTo
    have hempty : after (QueueStep.run v) {} upTo = {} := QueueStep.after_clear v {} before
    have hupTo := QueueStep.events_after v {} upTo
    have hbehind := QueueStep.events_after v {} behind
    rw [hempty, List.append_nil, List.nil_append] at hupTo
    rw [List.nil_append] at hbehind
    constructor
    · -- the clear itself takes nothing, so that what was taken up to it was taken before it
      rw [← hupTo, gather_append]
      exact (List.append_nil _).symm
    · rw [hempty, hbehind]
      exact List.prefix_append _ _

/-- **The queue drops the newest event.**  After any steps of any session of an empty queue it
holds at most thirty-two events.  A push finds no room exactly when there are so many; its event is
then named in a warning and lost.  All other events leave the queue once each and in the order in
which they came, and those that were there when it was cleared do not come back. -/
theorem drops_newest (v : Verbosity) :
    capacity = 32 ∧ (∀ done, Ledger v done) ∧
      ∀ e, (Record.eventDropped e).level = .warn ∧
        (Record.eventDropped e).message = "Event queue full, dropping " ++ e.text :=
  ⟨rfl, ledger v, fun _ => ⟨rfl, rfl⟩⟩

/-- The thirty-third event is lost.  Once the oldest one has been taken there is room for another,
which goes behind the thirty-second. -/
example :
    let push (n : Nat) : QueueStep := .onSource (.push (.press n.repr))
    let steps := (List.range 33).map push ++ [.onSource .next, push 33]
    (after (QueueStep.run .all) {} steps).events =
      (List.range' 1 31 ++ [33]).map fun n : Nat => .press n.repr := by
  decide +kernel

end EventQueue

end HostDevices
