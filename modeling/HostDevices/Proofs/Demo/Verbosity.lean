import HostDevices.Proofs.Demo.Draft
import HostDevices.Proofs.Session.Verbosity

/-!
# What the journal keeps does not matter to the demo

The demo does the same with every verbosity, and shows what it shows when all records are kept, less
those that are not admitted.  One thing can keep it from going that far: a record that is not
admitted needs no stamp, so that a run does not crash on it.

* `Event.keptBy` — what is shown with a verbosity; `Scene.cut`, `Draft.cut` and `Outcome.cut` show
  nothing else.
* `State.cut_course`, `cut_draft` — scene by scene and as a whole, the demo is that with all
  records, cut.
* `Draft.stamped_cut` — a draft may be cut before or after it is stamped, unless it breaks off at a
  record that is cut.
* `Unaffected`, `unaffected` — the journal does not matter, neither to the devices nor to the demo.
-/

namespace HostDevices.Demo

open Verbosity

variable {α : Type} (v : Verbosity)

/-- What is shown: the records that are kept, and all that is no record. -/
def Event.keptBy (v : Verbosity) : Event → Bool
  | record r => v.admits r.level
  | window .. | frame _ => true

/-- A scene of which only that is shown which is kept. -/
def Scene.cut (v : Verbosity) (x : Scene α) : Scene α :=
  { x with events := x.events.filter (Event.keptBy v) }

/-- A draft of which only that is shown which is kept. -/
def Draft.cut (v : Verbosity) (d : Draft) : Draft :=
  { d with shown := d.shown.filter fun x => x.event.keptBy v }

/-- A run of which only that is shown which is kept. -/
def Outcome.cut (v : Verbosity) (x : Outcome) : Outcome :=
  { x with events := x.events.filter (Event.keptBy v) }

/-! ## Scene by scene -/

/-- The records of an operation are cut as the operation is. -/
theorem filter_seen (x : Logged α) : (seen x).filter (Event.keptBy v) = seen (v.cut x) :=
  List.filter_map

theorem Scene.cut_followedBy (x : Scene α) (time : Int) (next : α → Draft) :
    (x.followedBy time next).cut v = (x.cut v).followedBy time fun a => (next a).cut v := by
  have hsights : (x.sights time).filter (fun y => y.event.keptBy v) = (x.cut v).sights time :=
    List.filter_map
  cases hresult : x.result with
  | none =>
    rw [followedBy_of_none hresult, followedBy_of_none (x := x.cut v) hresult, ← hsights]
    rfl
  | some a =>
    rw [followedBy_of_some hresult, followedBy_of_some (x := x.cut v) hresult, ← hsights]
    simp [Draft.cut, Draft.behind]

namespace State

variable (o : Options) (s : State) (f : Frame)

@[simp] theorem cut_takeKeys : v.cut (s.takeKeys .all f) = s.takeKeys v f := by
  unfold takeKeys
  split
  · rfl
  · rw [cut_bind, EventQueue.indifferent.cut_fill]
    rfl

@[simp] theorem cut_sync : v.cut (s.sync .all) = s.sync v := by
  unfold sync
  rw [cut_bind, Devices.cut_sync]
  rfl

@[simp] theorem cut_serve (now : UInt64) : v.cut (s.serve .all o now) = s.serve v o now := by
  unfold serve
  rw [cut_bind, Devices.cut_countDown]
  congr 1
  funext devices
  by_cases hkey : devices.keypad.keypad.held = s.key
  · simp [hkey]
  · cases hheld : devices.keypad.keypad.held with
    | none => simp [hheld ▸ hkey]
    | some key => simp [hheld ▸ hkey]

/-- What is shown of a fault report is cut, act by act. -/
theorem filter_report (fault : Fault) :
    ((fault.report .all).flatMap (actSeen .all)).filter (Event.keptBy v) =
      (fault.report v).flatMap (actSeen v) := by
  by_cases herror : v.admits .error <;>
    simp [Fault.report, actSeen, filter_seen, Event.keptBy, Record.level, herror]

theorem present_cut :
    ((s.present .all f).1.filter (Event.keptBy v), (s.present .all f).2) = s.present v f := by
  unfold present
  split
  · rw [List.filter_cons_of_pos rfl, filter_report]
  · rfl

theorem cut_synced : v.cut (s.takeKeys .all f >>= sync .all) = s.takeKeys v f >>= sync v := by
  rw [cut_bind, cut_takeKeys]
  congr 1
  funext s
  exact cut_sync v s

theorem cut_work (now : UInt64) : v.cut (s.work .all o f now) = s.work v o f now := by
  rw [work, work, ← cut_synced v, cut_bind]
  congr 1
  funext s
  exact cut_serve v o s now

/-- What happens in a frame with all records, cut, is what happens in it. -/
theorem cut_course : (s.course .all o f).cut v = s.course v o f := by
  cases hnow : reading? s.time with
  | none =>
    simp only [course, hnow]
    rw [Scene.cut, filter_seen, cut_synced]
  | some now =>
    rw [course_eq hnow, course_eq hnow, ← cut_work v, val_cut, ← present_cut v]
    simp [Scene.cut, filter_seen]

/-- Frames with all records, cut, are the frames. -/
theorem cut_draft (fs : List Frame) : (s.draft .all o fs).cut v = s.draft v o fs := by
  induction fs generalizing s with
  | nil => rfl
  | cons f rest ih =>
    rw [draft, draft, Scene.cut_followedBy, cut_course]
    congr 1
    funext t
    split
    · rfl
    · exact ih t

end State

/-! ## The whole run -/

section Run

variable (args : List String) (start : Int) (opens : Bool) (fs : List Frame)

theorem cut_openingCourse (o : Options) :
    (openingCourse .all o start opens).cut v = openingCourse v o start opens := by
  simp only [openingCourse]
  rw [← Devices.cut_prepare v, val_cut]
  cases (Devices.prepare .all o.config).val with
  | error reason => simp [Scene.cut, filter_seen]
  | ok p =>
    cases reading? start with
    | none => simp [Scene.cut, filter_seen]
    | some now => simp [Scene.cut, filter_seen, Event.keptBy]

/-- The draft with all records, cut, is the draft. -/
theorem cut_draft : (draft .all args start opens fs).cut v = draft v args start opens fs := by
  unfold draft
  cases Options.ofArguments args with
  | error e => rfl
  | ok o =>
    simp only [draftWith]
    rw [Scene.cut_followedBy, cut_openingCourse]
    congr 1
    funext opened
    cases opened with
    | error reason => rfl
    | ok s => exact State.cut_draft v o s fs

end Run

namespace Draft

variable {d : Draft} {r : Record} {v : Verbosity} {run : Outcome}

theorem outcome_cut (v : Verbosity) (d : Draft) : (d.cut v).outcome = d.outcome.cut v := by
  rw [outcome, outcome, Outcome.cut, List.filter_map]
  rfl

theorem Datable.cut (h : d.Datable) (v : Verbosity) : (d.cut v).Datable :=
  fun x hx => h x ((List.mem_filter.1 hx).1)

/-- A draft that breaks off at a record that is kept may be cut before or after it is stamped. -/
theorem BreaksOff.stamped_cut (h : d.BreaksOff r run) (hr : v.admits r.level) :
    (d.cut v).stamped = run.cut v := by
  obtain ⟨before, time, rest, hshown, hbefore, hstamp, rfl⟩ := h
  have hcut : (d.cut v).shown =
      before.filter (fun x => x.event.keptBy v) ++
        ⟨time, .record r⟩ :: rest.filter (fun x => x.event.keptBy v) := by
    simp [Draft.cut, hshown, Event.keptBy, hr]
  have hkept : ∀ x ∈ before.filter (fun x => x.event.keptBy v), x.Datable :=
    fun x hx => hbefore x ((List.mem_filter.1 hx).1)
  have hlast : ¬ Sight.Datable ⟨time, .record r⟩ := fun hdatable => hstamp (hdatable rfl)
  rw [stamped_of_append_cons hcut hkept hlast, Outcome.cut, List.filter_map]
  rfl

/-- What is cut of a draft that breaks off is shown by the draft that is cut first. -/
theorem BreaksOff.events_cut_prefix (h : d.BreaksOff r run) (v : Verbosity) :
    (run.cut v).events <+: (d.cut v).stamped.events := by
  obtain ⟨before, time, rest, hshown, hbefore, -, rfl⟩ := h
  have hkept : ∀ x ∈ before.filter (fun x => x.event.keptBy v), x.Datable :=
    fun x hx => hbefore x ((List.mem_filter.1 hx).1)
  have hcut : d.cut v = Draft.behind (before.filter fun x => x.event.keptBy v)
      (Draft.cut v ⟨d.exit, ⟨time, .record r⟩ :: rest⟩) := by
    simp [Draft.cut, behind, hshown]
  rw [hcut, stamped_behind_of_datable hkept, Outcome.cut, List.filter_map]
  exact List.prefix_append _ _

end Draft

/-- What a run with a verbosity has to do with the same run with all records kept. -/
structure Unaffected (v : Verbosity) (args : List String) (start : Int) (opens : Bool)
    (fs : List Frame) : Prop where
  /-- The two have one draft, of which the run shows what is kept. -/
  draft : run v args start opens fs = ((draft .all args start opens fs).cut v).stamped
  /-- If every record of it can be stamped, it shows what the other run shows, cut. -/
  same : (Demo.draft .all args start opens fs).Datable →
    run v args start opens fs = (run .all args start opens fs).cut v
  /-- If not, the other run breaks off at a record.  The run shows what the other one has shown by
  then, cut, and has come to the same end if the record is kept. -/
  apart : ¬ (Demo.draft .all args start opens fs).Datable →
    ∃ r, (Demo.draft .all args start opens fs).BreaksOff r (run .all args start opens fs) ∧
      (v.admits r.level → run v args start opens fs = (run .all args start opens fs).cut v) ∧
      ((run .all args start opens fs).cut v).events <+: (run v args start opens fs).events

theorem unaffected_run (args : List String) (start : Int) (opens : Bool) (fs : List Frame) :
    Unaffected v args start opens fs := by
  have hrun : run v args start opens fs = ((draft .all args start opens fs).cut v).stamped := by
    rw [run_eq_stamped, cut_draft]
  obtain ⟨hwhole, hbroken⟩ := gives_run .all args start opens fs
  refine ⟨hrun, ?_, ?_⟩
  · intro hdatable
    rw [hrun, hwhole hdatable, Draft.stamped_of_datable (hdatable.cut v), Draft.outcome_cut]
  · intro hnot
    obtain ⟨r, hr⟩ := hbroken hnot
    rw [hrun]
    exact ⟨r, hr, hr.stamped_cut, hr.events_cut_prefix v⟩

/-- **The journal never matters.**  Sessions of the devices have the same moments with every
verbosity, less the records that are not kept, whether the devices stand alone or on a queue, a
queue that has been lent or a script; a fault is reported as it should be; and runs of the demo show
the same, less these records, as long as the run with all records does not break off at one of them.
-/
theorem verbosity_never_matters :
    Session.Indifferent KeypadStep.run ∧ Session.Indifferent QueueStep.run ∧
      Session.Indifferent TimerStep.run ∧ Session.Indifferent CountdownStep.run ∧
      KeyBuffer.Unaffected EventQueue ∧ KeyBuffer.Unaffected (Lent EventQueue) ∧
      KeyBuffer.Unaffected EventScript ∧
      (∀ (v : Verbosity) (f : Fault), Fault.Reported v f (f.report v)) ∧
      ∀ (v : Verbosity) (args : List String) (start : Int) (opens : Bool) (fs : List Frame),
        Unaffected v args start opens fs :=
  ⟨Session.indifferent_of_cut KeypadStep.cut_run, Session.indifferent_of_cut QueueStep.cut_run,
    Session.indifferent_of_cut TimerStep.cut_run, Session.indifferent_of_cut CountdownStep.cut_run,
    EventQueue.indifferent.unaffected, EventQueue.indifferent.lent.unaffected,
    EventScript.indifferent.unaffected, Fault.reported_report, unaffected_run⟩

/-- A run in which a key goes down and an update fails shows eight records fewer if only errors
are kept, and the same otherwise. -/
theorem verbosity_never_matters_failing :
    let fs : List Frame := [{ keys := some ["Q"] }, { keys := some [], failure := some "full" }]
    let trace := run .all [] 0 true fs
    run (.upTo .error) [] 0 true fs = trace.cut (.upTo .error) ∧
      (trace.cut (.upTo .error)).events.length = 4 ∧ trace.events.length = 12 := by
  intro fs trace
  obtain ⟨-, -, -, -, -, -, -, -, hdemo⟩ := verbosity_never_matters
  exact ⟨(hdemo (.upTo .error) [] 0 true fs).same (by decide +kernel), by decide +kernel,
    by decide +kernel⟩

/-- At a time without a stamp the demo crashes on its first record if that is kept, and runs to its
end if it is not. -/
theorem verbosity_matters_without_stamp :
    let fs : List Frame := [{ keys := some [] }]
    let start : Int := 253402207201000000
    let trace := run .all [] start true fs
    let silent := run .off [] start true fs
    trace.exit = .crash ∧ silent.exit = .success ∧ silent ≠ trace.cut .off := by
  decide +kernel

end HostDevices.Demo
