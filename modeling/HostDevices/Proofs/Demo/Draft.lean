import HostDevices.Proofs.Demo.Trail
import Mathlib.Data.List.TakeWhile

/-!
# A run before its records are stamped

The demo crashes on the first record that is due at a time without a stamp, and that is all that
stamping does to a run.  Here a run is taken as it would go on if every time had a stamp.  Each
event of this draft is kept with the time of its scene, and the draft is stamped as a whole.

* `Draft` — how a run ends and what it shows, each event with its time.
* `Draft.stamped` — the run that comes of a draft: all of it, or the part before its first record
  without a stamp.
* `State.draft`, `draftWith`, `draft` — the drafts of the demo.
* `run_eq_stamped` — every run is its draft, stamped.
* `Draft.Gives`, `gives_run` — either a run is all of its draft, or it breaks off at a record
  without a stamp.
-/

namespace HostDevices.Demo

/-- An event, and the time of the scene that shows it. -/
structure Sight where
  time : Int
  event : Event
deriving DecidableEq, Repr

/-- The event is no record, or its time has a stamp. -/
def Sight.Datable (x : Sight) : Prop := x.event.isRecord = true → Stampable x.time

instance (x : Sight) : Decidable x.Datable :=
  inferInstanceAs (Decidable (_ → _))

/-- A run whose records are not stamped. -/
structure Draft where
  exit : Exit
  shown : List Sight
deriving DecidableEq, Repr

namespace Draft

/-- The run as it would be if every time had a stamp. -/
def outcome (d : Draft) : Outcome := ⟨d.exit, d.shown.map Sight.event⟩

/-- No record is due at a time without a stamp. -/
def Datable (d : Draft) : Prop := ∀ x ∈ d.shown, x.Datable

instance (d : Draft) : Decidable d.Datable :=
  inferInstanceAs (Decidable (∀ x ∈ d.shown, x.Datable))

/-- The run that comes of a draft: it crashes on the first record without a stamp. -/
def stamped (d : Draft) : Outcome :=
  ⟨if d.Datable then d.exit else .crash,
    (d.shown.takeWhile fun x => x.Datable).map Sight.event⟩

/-- A draft that shows something else first. -/
def behind (sights : List Sight) (d : Draft) : Draft := ⟨d.exit, sights ++ d.shown⟩

/-- The run crashes on a record of the draft, the first one that is due at a time without a stamp.
What it shows is what the draft shows before this record. -/
def BreaksOff (d : Draft) (r : Record) (run : Outcome) : Prop :=
  ∃ before time rest, d.shown = before ++ ⟨time, .record r⟩ :: rest ∧
    (∀ x ∈ before, x.Datable) ∧ ¬ Stampable time ∧ run = ⟨.crash, before.map Sight.event⟩

/-- The run that a draft gives: all of it if every record can be stamped, and otherwise a run that
breaks off. -/
structure Gives (d : Draft) (run : Outcome) : Prop where
  whole : d.Datable → run = d.outcome
  broken : ¬ d.Datable → ∃ r, d.BreaksOff r run

variable {d : Draft} {sights : List Sight}

/-- A draft without such a record is run as it is. -/
theorem stamped_of_datable (h : d.Datable) : d.stamped = d.outcome := by
  have hall : d.shown.takeWhile (fun x => x.Datable) = d.shown :=
    List.takeWhile_eq_self_iff.2 fun x hx => decide_eq_true (h x hx)
  simp [stamped, outcome, h, hall]

/-- Nothing is seen from the first record without a stamp on. -/
theorem stamped_of_append_cons {before rest : List Sight} {x : Sight}
    (hshown : d.shown = before ++ x :: rest) (hbefore : ∀ y ∈ before, y.Datable)
    (hx : ¬ x.Datable) : d.stamped = ⟨.crash, before.map Sight.event⟩ := by
  have hnot : ¬ d.Datable := fun hall => hx (hall x (by simp [hshown]))
  rw [stamped, if_neg hnot, hshown,
    List.takeWhile_append_of_pos fun y hy => decide_eq_true (hbefore y hy)]
  simp [hx]

/-- A draft with such a record breaks off at the first one. -/
theorem exists_breaksOff_stamped (h : ¬ d.Datable) : ∃ r, d.BreaksOff r d.stamped := by
  obtain ⟨x, hmem, hx⟩ : ∃ x ∈ d.shown, ¬ x.Datable := by simpa [Datable] using h
  have hfind : (d.shown.find? fun x => ¬ x.Datable).isSome :=
    List.find?_isSome.2 ⟨x, hmem, decide_eq_true hx⟩
  obtain ⟨⟨time, event⟩, hfound⟩ := Option.isSome_iff_exists.1 hfind
  obtain ⟨hfirst, before, rest, hshown, hdatable⟩ := List.find?_eq_some_iff_append.1 hfound
  have hbefore : ∀ y ∈ before, y.Datable := by simpa using hdatable
  replace hfirst := of_decide_eq_true hfirst
  obtain ⟨hrecord, hstamp⟩ := Classical.not_imp.1 hfirst
  cases event with
  | record r =>
    exact ⟨r, before, time, rest, hshown, hbefore, hstamp,
      stamped_of_append_cons hshown hbefore hfirst⟩
  | window width height => simp [Event.isRecord] at hrecord
  | frame pixels => simp [Event.isRecord] at hrecord

/-- The pictures that are shown first come before the others. -/
theorem pictures_behind (sights : List Sight) (d : Draft) :
    pictures (d.behind sights).outcome.events =
      pictures (sights.map Sight.event) ++ pictures d.outcome.events := by
  rw [outcome, behind, List.map_append, pictures_append]
  rfl

theorem datable_behind : (d.behind sights).Datable ↔ (∀ x ∈ sights, x.Datable) ∧ d.Datable :=
  List.forall_mem_append

/-- What is shown first and can be stamped stands before the rest of the run. -/
theorem stamped_behind_of_datable (h : ∀ x ∈ sights, x.Datable) :
    (d.behind sights).stamped =
      ⟨d.stamped.exit, sights.map Sight.event ++ d.stamped.events⟩ := by
  have hdatable : (d.behind sights).Datable ↔ d.Datable := by
    rw [datable_behind, and_iff_right h]
  simp only [stamped, hdatable]
  rw [behind, List.takeWhile_append_of_pos fun x hx => decide_eq_true (h x hx), List.map_append]

end Draft

/-! ## Scenes -/

namespace Scene

variable {α : Type}

/-- What is shown of a scene at a time. -/
def sights (time : Int) (x : Scene α) : List Sight := x.events.map fun e => ⟨time, e⟩

@[simp] theorem map_event_sights (time : Int) (x : Scene α) :
    (x.sights time).map Sight.event = x.events := by
  rw [sights, List.map_map]
  exact List.map_id _

/-- The draft of a scene and of what follows from what it has come to. -/
def followedBy (x : Scene α) (time : Int) (next : α → Draft) : Draft :=
  match x.result with
  | none => ⟨.crash, x.sights time⟩
  | some a => (next a).behind (x.sights time)

theorem followedBy_of_none {x : Scene α} (h : x.result = none) (time : Int) (next : α → Draft) :
    x.followedBy time next = ⟨.crash, x.sights time⟩ := by
  rw [followedBy, h]

theorem followedBy_of_some {x : Scene α} {a : α} (h : x.result = some a) (time : Int)
    (next : α → Draft) : x.followedBy time next = (next a).behind (x.sights time) := by
  rw [followedBy, h]

/-- The scene can be stamped exactly when all that it shows can. -/
theorem datable_sights (time : Int) (x : Scene α) :
    (∀ y ∈ x.sights time, y.Datable) ↔
      Stampable time ∨ x.events.any Event.isRecord = false := by
  by_cases h : Stampable time <;> simp [sights, Sight.Datable, h]

/-- A scene that cannot be stamped shows what comes before its first record, whatever follows. -/
theorem takeWhile_sights {time : Int} {x : Scene α}
    (h : ¬ (Stampable time ∨ x.events.any Event.isRecord = false)) (more : List Sight) :
    ((x.sights time ++ more).takeWhile fun y => y.Datable).map Sight.event =
      x.events.takeWhile fun e => !e.isRecord := by
  rw [not_or] at h
  obtain ⟨hstamp, hany⟩ := h
  unfold sights
  generalize x.events = events at hany
  induction events with
  | nil => simp at hany
  | cons e rest ih =>
    by_cases he : e.isRecord
    · simp [Sight.Datable, he, hstamp]
    · have hrest : rest.any Event.isRecord ≠ false := by simpa [he] using hany
      simpa [Sight.Datable, he] using ih hrest

/-- A scene is stamped first, and what follows from it then. -/
theorem stamped_followedBy (x : Scene α) (time : Int) (next : α → Draft) :
    (x.followedBy time next).stamped =
      match (x.stamped time).result with
      | none => ⟨.crash, (x.stamped time).events⟩
      | some a =>
        ⟨(next a).stamped.exit, (x.stamped time).events ++ (next a).stamped.events⟩ := by
  by_cases h : Stampable time ∨ x.events.any Event.isRecord = false
  · have hsights := (datable_sights time x).2 h
    rw [stamped, if_pos h]
    cases hresult : x.result with
    | none =>
      have hdatable : Draft.Datable ⟨.crash, x.sights time⟩ := hsights
      rw [followedBy_of_none hresult, Draft.stamped_of_datable hdatable, Draft.outcome,
        map_event_sights]
    | some a =>
      rw [followedBy_of_some hresult, Draft.stamped_behind_of_datable hsights, map_event_sights]
  · -- the run ends within the scene, so that what follows does not matter
    obtain ⟨more, hshown⟩ : ∃ more, (x.followedBy time next).shown = x.sights time ++ more := by
      cases hresult : x.result with
      | none => exact ⟨[], by rw [followedBy_of_none hresult, List.append_nil]⟩
      | some a => exact ⟨_, by rw [followedBy_of_some hresult, Draft.behind]⟩
    have hnot : ¬ (x.followedBy time next).Datable := by
      intro hall
      rw [Draft.Datable, hshown, List.forall_mem_append] at hall
      exact h ((datable_sights time x).1 hall.1)
    rw [stamped, if_neg h]
    rw [Draft.stamped, if_neg hnot, hshown, takeWhile_sights h]

end Scene

/-! ## The demo -/

/-- The state to which a frame leads. -/
def State.next (v : Verbosity) (o : Options) (s : State) (f : Frame) (now : UInt64) : State :=
  ((s.work v o f now).val.present v f).2.pass f

theorem State.result_course {v : Verbosity} {o : Options} {s : State} {f : Frame} {now : UInt64}
    (hnow : reading? s.time = some now) :
    (s.course v o f).result = some (s.next v o f now) := by
  rw [course_eq hnow]
  rfl

theorem State.time_next (v : Verbosity) (o : Options) (s : State) (f : Frame) (now : UInt64) :
    (s.next v o f now).time = s.time + 16000 + f.delay := by
  obtain ⟨keypad, held, escaped, hsynced⟩ := val_synced v s f
  rw [next, present_snd, work, Logged.val_bind, hsynced, val_serve]
  rfl

/-- The draft of frames in order. -/
def State.draft (v : Verbosity) (o : Options) (s : State) : List Frame → Draft
  | [] => ⟨.success, []⟩
  | f :: rest =>
    (s.course v o f).followedBy s.time fun t =>
      if t.escaped then ⟨.success, []⟩ else t.draft v o rest

/-- The draft of what follows a frame: further frames, unless Escape has been held. -/
def State.onward (v : Verbosity) (o : Options) (t : State) (fs : List Frame) : Draft :=
  if t.escaped then ⟨.success, []⟩ else t.draft v o fs

section Frames

variable {v : Verbosity} {o : Options} {s : State} {now : UInt64}

theorem State.onward_of_escaped (h : s.escaped = true) (fs : List Frame) :
    s.onward v o fs = ⟨.success, []⟩ :=
  if_pos h

theorem State.onward_of_not_escaped (h : ¬ s.escaped = true) (fs : List Frame) :
    s.onward v o fs = s.draft v o fs :=
  if_neg h

/-- A frame whose time can be read leads onward. -/
theorem State.draft_cons_of_reading (hnow : reading? s.time = some now) (f : Frame)
    (rest : List Frame) :
    s.draft v o (f :: rest) =
      ((s.next v o f now).onward v o rest).behind ((s.course v o f).sights s.time) := by
  rw [draft, Scene.followedBy_of_some (result_course hnow)]
  rfl

/-- A frame whose time cannot be read is the last one. -/
theorem State.draft_cons_of_none (hnone : reading? s.time = none) (f : Frame)
    (rest : List Frame) :
    s.draft v o (f :: rest) = ⟨.crash, (s.course v o f).sights s.time⟩ := by
  rw [draft, Scene.followedBy_of_none]
  simp only [course, hnone]

end Frames

/-- The draft of a run with known options. -/
def draftWith (v : Verbosity) (o : Options) (start : Int) (opens : Bool) (fs : List Frame) :
    Draft :=
  (openingCourse v o start opens).followedBy start fun
    | .error _ => ⟨.failure, []⟩
    | .ok s => s.draft v o fs

/-- The draft of a run. -/
def draft (v : Verbosity) (args : List String) (start : Int) (opens : Bool) (fs : List Frame) :
    Draft :=
  match Options.ofArguments args with
  | .error e => ⟨.ofOptionsError e, []⟩
  | .ok o => draftWith v o start opens fs

variable (v : Verbosity) (args : List String) (start : Int) (opens : Bool) (fs : List Frame)

theorem Draft.stamped_of_nothing (exit : Exit) : Draft.stamped ⟨exit, []⟩ = ⟨exit, []⟩ :=
  Draft.stamped_of_datable (by simp [Draft.Datable])

/-- Frames in order are their draft, stamped. -/
theorem State.frames_eq_stamped (o : Options) (s : State) :
    s.frames v o fs = ((s.draft v o fs).stamped.events, (s.draft v o fs).stamped.exit) := by
  induction fs generalizing s with
  | nil => rfl
  | cons f rest ih =>
    rw [frames_cons, draft, Scene.stamped_followedBy]
    rw [frame]
    cases ((s.course v o f).stamped s.time).result with
    | none => rfl
    | some t =>
      by_cases hescaped : t.escaped
      · simp [hescaped, Draft.stamped_of_nothing]
      · simp [hescaped, ih]

/-- **Stamping breaks a run off and does nothing else**: every run is its draft, stamped. -/
theorem run_eq_stamped : run v args start opens fs = (draft v args start opens fs).stamped := by
  unfold run draft
  cases Options.ofArguments args with
  | error e => rw [Draft.stamped_of_nothing]
  | ok o =>
    simp only [runWith, draftWith, opening]
    rw [Scene.stamped_followedBy]
    obtain ⟨events, result⟩ := (openingCourse v o start opens).stamped start
    rcases result with _ | reason | s
    · rfl
    · simp [Draft.stamped_of_nothing]
    · simp [State.frames_eq_stamped]

/-- Either a run is all of its draft, or it breaks off at a record without a stamp. -/
theorem gives_run : (draft v args start opens fs).Gives (run v args start opens fs) := by
  rw [run_eq_stamped]
  exact ⟨Draft.stamped_of_datable, Draft.exists_breaksOff_stamped⟩

end HostDevices.Demo
