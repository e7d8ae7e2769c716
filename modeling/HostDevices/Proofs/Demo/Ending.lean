import HostDevices.Proofs.Demo.Draft
import HostDevices.Proofs.Demo.Timeline

/-!
# How a run of the demo ends

Several things can end a run: a period that is none, a clock that is read before the epoch, a window
that does not open, Escape, and the end of the frames.  Where two of them meet, the order in which
the demo comes to them decides which one it is.

* `executed` — the frames up to and including the first with Escape held.
* `State.draft_finished`, `State.draft_cutShort` — frames whose times can all be read, and frames up
  to the first whose time cannot.
* `Ended`, `run_ended` — the end of every run, and the shape of what it shows.
-/

namespace HostDevices.Demo

/-! ## The frames that are executed -/

/-- Escape is held in the frame, so that the run ends after it. -/
def Frame.Ends (f : Frame) : Prop := "Escape" ∈ f.keys.getD []

instance (f : Frame) : Decidable f.Ends := inferInstanceAs (Decidable (_ ∈ _))

/-- The demo hears of Escape by its code, which no other key has. -/
theorem Frame.escape_mem_codes {f : Frame} : Window.escape ∈ f.codes ↔ f.Ends := by
  rw [codes, Window.mem_heldCodes]
  constructor
  · rintro ⟨name, hname, hcode⟩
    obtain ⟨before, behind, htable, -⟩ := List.lookup_eq_some_iff.1 hcode
    have hmem : (name, Window.escape) ∈ Window.keyNames := htable ▸ by simp
    obtain rfl : name = "Escape" := by
      simpa [Window.keyNames, Window.escape] using hmem
    exact hname
  · intro hends
    exact ⟨"Escape", hends, by decide⟩

/-- The frames up to and including the first that ends the run; all of them if there is none. -/
def executed : List Frame → List Frame
  | [] => []
  | f :: rest => if f.Ends then [f] else f :: executed rest

theorem executed_of_ends {f : Frame} (h : f.Ends) (rest : List Frame) :
    executed (f :: rest) = [f] := by
  rw [executed, if_pos h]

theorem executed_of_not_ends {f : Frame} (h : ¬ f.Ends) (rest : List Frame) :
    executed (f :: rest) = f :: executed rest := by
  rw [executed, if_neg h]

theorem length_executed_pos (f : Frame) (rest : List Frame) :
    0 < (executed (f :: rest)).length := by
  rw [executed]
  split <;> simp

namespace State

variable {v : Verbosity} {o : Options} {s : State} {f : Frame} {fs : List Frame} {now : UInt64}

/-! ## One frame -/

theorem escaped_next (v : Verbosity) (o : Options) (s : State) (f : Frame) (now : UInt64) :
    (s.next v o f now).escaped = (s.escaped || f.Ends) := by
  have hsynced : (s.takeKeys v f >>= sync v).val.escaped = (s.escaped || f.Ends) := by
    unfold takeKeys
    by_cases hends : f.Ends
    · rw [if_pos (Frame.escape_mem_codes.2 hends)]
      simp [sync, hends]
    · rw [if_neg (mt Frame.escape_mem_codes.1 hends)]
      simp [sync, hends]
  rw [← hsynced, next, present_snd, work, Logged.val_bind, val_serve]
  rfl

/-- A frame whose time can be read is followed by the frames behind it unless it ends the run. -/
theorem draft_cons (hnow : reading? s.time = some now) (hescaped : s.escaped = false)
    (rest : List Frame) :
    s.draft v o (f :: rest) =
      (if f.Ends then ⟨.success, []⟩ else (s.next v o f now).draft v o rest).behind
        ((s.course v o f).sights s.time) := by
  rw [draft_cons_of_reading hnow, onward]
  simp [escaped_next, hescaped]

/-- A frame before the epoch tells of the keypad, and the demo crashes. -/
theorem draft_cons_of_neg (h : s.time < 0) (f : Frame) (rest : List Frame) :
    (s.draft v o (f :: rest)).outcome = ⟨.crash, seen (s.takeKeys v f >>= sync v)⟩ := by
  have hnone : reading? s.time = none := if_pos h
  rw [draft_cons_of_none hnone, Draft.outcome, Scene.map_event_sights]
  simp only [course, hnone]

/-! ## Frame after frame -/

/-- The time at which one of some frames begins. -/
def timeOf (s : State) (fs : List Frame) (i : Nat) : Int :=
  s.time + ((fs.take i).map fun f => 16000 + f.delay).sum

@[simp] theorem timeOf_zero (s : State) (fs : List Frame) : s.timeOf fs 0 = s.time := by
  simp [timeOf]

theorem timeOf_succ (v : Verbosity) (o : Options) (s : State) (f : Frame) (now : UInt64)
    (rest : List Frame) (i : Nat) :
    s.timeOf (f :: rest) (i + 1) = (s.next v o f now).timeOf rest i := by
  simp [timeOf, time_next, Int.add_assoc]

/-- If all times can be read, a run of frames ends well, with one picture for each that is
executed. -/
theorem draft_finished (hescaped : s.escaped = false)
    (htimes : ∀ i < (executed fs).length, 0 ≤ s.timeOf fs i) :
    (s.draft v o fs).exit = .success ∧
      (pictures (s.draft v o fs).outcome.events).length = (executed fs).length := by
  induction fs generalizing s with
  | nil => exact ⟨rfl, rfl⟩
  | cons f rest ih =>
    obtain ⟨now, hnow⟩ : ∃ now, reading? s.time = some now := by
      apply reading_of_nonneg
      have hfirst := htimes 0 (length_executed_pos f rest)
      rwa [timeOf_zero] at hfirst
    rw [draft_cons hnow hescaped, Draft.pictures_behind, Scene.map_event_sights,
      pictures_course hnow]
    by_cases hends : f.Ends
    · rw [if_pos hends, executed_of_ends hends]
      exact ⟨rfl, rfl⟩
    · rw [if_neg hends, executed_of_not_ends hends]
      rw [executed_of_not_ends hends] at htimes
      have hrest : ∀ i < (executed rest).length, 0 ≤ (s.next v o f now).timeOf rest i := by
        intro i hi
        rw [← timeOf_succ]
        exact htimes (i + 1) (Nat.succ_lt_succ hi)
      obtain ⟨hexit, hpictures⟩ := ih (by simp [escaped_next, hescaped, hends]) hrest
      exact ⟨hexit, by simp [hpictures]⟩

/-- If an executed frame is the first whose time cannot be read, the run of frames crashes in it.
What it shows is what the frames before it show, and then nothing but records of the keypad. -/
theorem draft_cutShort {i : Nat} (hescaped : s.escaped = false) (hi : i < (executed fs).length)
    (hbefore : ∀ j < i, 0 ≤ s.timeOf fs j) (hearly : s.timeOf fs i < 0) :
    (s.draft v o fs).exit = .crash ∧
      (pictures (s.draft v o fs).outcome.events).length = i ∧
      ∃ tail, (s.draft v o fs).shown.map Sight.event =
        (s.draft v o (fs.take i)).shown.map Sight.event ++ tail ∧
        ∀ e ∈ tail, ∃ r, e = .record r ∧ r.concernsKeypad = true := by
  induction fs generalizing s i with
  | nil => simp [executed] at hi
  | cons f rest ih =>
    cases i with
    | zero =>
      rw [timeOf_zero] at hearly
      have hcrash := draft_cons_of_neg (v := v) (o := o) hearly f rest
      refine ⟨congrArg Outcome.exit hcrash, ?_, _, congrArg Outcome.events hcrash, ?_⟩
      · rw [hcrash, pictures_seen]
        rfl
      · intro e he
        obtain ⟨r, hr, rfl⟩ := List.mem_map.1 he
        exact ⟨r, rfl, notes_synced v s f r hr⟩
    | succ i =>
      obtain ⟨now, hnow⟩ : ∃ now, reading? s.time = some now := by
        apply reading_of_nonneg
        have hfirst := hbefore 0 (Nat.succ_pos i)
        rwa [timeOf_zero] at hfirst
      -- a frame that ends the run would be the last one executed
      have hends : ¬ f.Ends := by
        intro hends
        simp [executed_of_ends hends] at hi
      have hlater : i < (executed rest).length := by
        simpa [executed_of_not_ends hends] using hi
      rw [timeOf_succ v o s f now] at hearly
      have hbetween : ∀ j < i, 0 ≤ (s.next v o f now).timeOf rest j := by
        intro j hj
        rw [← timeOf_succ]
        exact hbefore (j + 1) (Nat.succ_lt_succ hj)
      obtain ⟨hexit, hpictures, tail, hshown, htail⟩ :=
        ih (by simp [escaped_next, hescaped, hends]) hlater hbetween hearly
      rw [List.take_succ_cons, draft_cons hnow hescaped, draft_cons hnow hescaped, if_neg hends,
        if_neg hends, Draft.pictures_behind, Scene.map_event_sights,
      pictures_course hnow]
      refine ⟨hexit, by simp [hpictures], tail, ?_, htail⟩
      simp [Draft.behind, hshown]

end State

/-! ## Windows -/

/-- The event is that a window is opened. -/
def Event.opensWindow : Event → Bool
  | window .. => true
  | record _ | frame _ => false

theorem opensWindow_seen {α : Type} (x : Logged α) : ∀ e ∈ seen x, e.opensWindow = false := by
  intro e he
  obtain ⟨r, -, rfl⟩ := List.mem_map.1 he
  rfl

namespace State

/-- An update opens no window. -/
theorem opensWindow_present (v : Verbosity) (s : State) (f : Frame) :
    ∀ e ∈ (s.present v f).1, e.opensWindow = false := by
  unfold present
  split
  · unfold Fault.report
    split <;> simp [actSeen, seen, Event.opensWindow]
  · simp [Event.opensWindow]

/-- A frame opens no window. -/
theorem opensWindow_course (v : Verbosity) (o : Options) (s : State) (f : Frame) :
    ∀ e ∈ (s.course v o f).events, e.opensWindow = false := by
  intro e he
  cases hnow : reading? s.time with
  | none =>
    simp only [course, hnow] at he
    exact opensWindow_seen _ e he
  | some now =>
    rw [course_eq hnow] at he
    rcases List.mem_append.1 he with hnoted | hshown
    · exact opensWindow_seen _ e hnoted
    · exact opensWindow_present v _ f e hshown

theorem opensWindow_draft (v : Verbosity) (o : Options) (s : State) (fs : List Frame) :
    ∀ e ∈ (s.draft v o fs).outcome.events, e.opensWindow = false := by
  induction fs generalizing s with
  | nil => simp [draft, Draft.outcome]
  | cons f rest ih =>
    have hcourse := opensWindow_course v o s f
    cases hresult : (s.course v o f).result with
    | none =>
      rw [draft, Scene.followedBy_of_none hresult, Draft.outcome, Scene.map_event_sights]
      exact hcourse
    | some t =>
      rw [draft, Scene.followedBy_of_some hresult, Draft.outcome, Draft.behind, List.map_append,
        Scene.map_event_sights, List.forall_mem_append]
      refine ⟨hcourse, ?_⟩
      split
      · simp
      · exact ih t

end State

/-! ## Before the first frame -/

section Run

variable {v : Verbosity} {o : Options} {start : Int} {opens : Bool} {fs : List Frame}

/-- What is shown of the set-up and of the window. -/
def opened (v : Verbosity) : List Event :=
  seen (v.note .initializing) ++ [.window Picture.width Picture.height]

theorem seen_prepare (v : Verbosity) (cfg : Config) :
    seen (Devices.prepare v cfg) = seen (v.note .initializing) := by
  simp [Devices.prepare, seen]

/-- A period of zero is refused, whatever the clock reads and whether or not a window opens. -/
theorem openingCourse_of_zero (h : o.period = 0) :
    openingCourse v o start opens =
      ⟨seen (v.note .initializing) ++ seen (v.note (.periodRejected ⟨.ofMicros 0⟩)),
        some (.error ⟨.ofMicros 0⟩)⟩ := by
  have hprepared : (Devices.prepare v o.config).val = .error ⟨.ofMicros 0⟩ := by
    change Period.ofDuration (.ofMicros o.period) = _
    rw [h]
    rfl
  simp only [openingCourse, hprepared, seen_prepare]

/-- Any other period is taken; then the clock is read, and then the window is opened. -/
theorem openingCourse_of_ne_zero (h : o.period ≠ 0) :
    openingCourse v o start opens =
      match reading? start with
      | none => ⟨seen (v.note .initializing), none⟩
      | some now =>
        ⟨opened v, if opens then some (.ok (.initial ⟨o.period, h⟩ now start)) else none⟩ := by
  have hprepared : (Devices.prepare v o.config).val = .ok ⟨o.period, h⟩ :=
    Period.ofDuration_duration ⟨o.period, h⟩
  simp only [openingCourse, hprepared, seen_prepare]
  rfl

/-- A run that has opened its window shows that, and then its frames. -/
theorem outcome_draftWith {now : UInt64} (h : o.period ≠ 0) (hnow : reading? start = some now)
    (fs : List Frame) :
    let d := (State.initial ⟨o.period, h⟩ now start).draft v o fs
    (draftWith v o start true fs).outcome = ⟨d.exit, opened v ++ d.outcome.events⟩ := by
  have hresult : (openingCourse v o start true).result =
      some (.ok (.initial ⟨o.period, h⟩ now start)) := by
    rw [openingCourse_of_ne_zero h, hnow]
    rfl
  have hevents : (openingCourse v o start true).events = opened v := by
    rw [openingCourse_of_ne_zero h, hnow]
  rw [draftWith, Scene.followedBy_of_some hresult, Draft.outcome, Draft.behind, List.map_append,
    Scene.map_event_sights, hevents]
  rfl

theorem pictures_opened (v : Verbosity) : pictures (opened v) = [] := by
  rw [opened, pictures_append, pictures_seen]
  rfl

/-! ## The end of a run -/

/-- How a run ends and what it shows, by the first of its failures: the period is checked first,
then the clock is read, then the window is opened, and then the frames are executed as long as their
times can be read. -/
structure Ended (v : Verbosity) (o : Options) (start : Int) (opens : Bool) (fs : List Frame)
    (x : Outcome) : Prop where
  rejected : o.period = 0 →
    x.exit.code = 1 ∧
      x.events = seen (v.note .initializing) ++ seen (v.note (.periodRejected ⟨.ofMicros 0⟩)) ∧
      Record.message (.periodRejected ⟨.ofMicros 0⟩) = "invalid timer period: 0ns"
  /-- Every other number of microseconds is a period. -/
  accepted : o.period ≠ 0 →
    ∃ p, Period.ofDuration o.config.timerPeriod = .ok p ∧ p.micros = o.period
  early : o.period ≠ 0 → start < 0 →
    x.exit.code = 101 ∧ x.events = seen (v.note .initializing)
  closed : o.period ≠ 0 → 0 ≤ start → opens = false →
    x.exit.code = 101 ∧ x.events = opened v
  /-- No other window is opened. -/
  played : o.period ≠ 0 → 0 ≤ start → opens = true →
    ∃ play, x.events = opened v ++ play ∧ ∀ e ∈ play, e.opensWindow = false
  finished : o.period ≠ 0 → 0 ≤ start → opens = true →
    (∀ i < (executed fs).length, 0 ≤ (timeline v o start opens fs).time i) →
    x.exit.code = 0 ∧ (pictures x.events).length = (executed fs).length
  /-- The frame whose time cannot be read is not shown, and nothing is said about its key. -/
  cutShort : o.period ≠ 0 → 0 ≤ start → opens = true →
    ∀ i < (executed fs).length, (∀ j < i, 0 ≤ (timeline v o start opens fs).time j) →
    (timeline v o start opens fs).time i < 0 →
    x.exit.code = 101 ∧ (pictures x.events).length = i ∧
      ∃ tail, x.events = (draftWith v o start opens (fs.take i)).outcome.events ++ tail ∧
        ∀ e ∈ tail, ∃ r, e = .record r ∧ r.concernsKeypad = true

theorem ended_draftWith (v : Verbosity) (o : Options) (start : Int) (opens : Bool)
    (fs : List Frame) : Ended v o start opens fs (draftWith v o start opens fs).outcome where
  rejected h := by
    rw [draftWith, openingCourse_of_zero h]
    refine ⟨rfl, ?_, by decide⟩
    simp [Scene.followedBy, Draft.outcome, Draft.behind, Scene.sights, Function.comp_def]
  accepted h := ⟨⟨o.period, h⟩, Period.ofDuration_duration ⟨o.period, h⟩, rfl⟩
  early h hstart := by
    have hnone : reading? start = none := if_pos hstart
    rw [draftWith, openingCourse_of_ne_zero h, hnone, Scene.followedBy_of_none rfl, Draft.outcome,
      Scene.map_event_sights]
    exact ⟨rfl, rfl⟩
  closed h hstart hopens := by
    obtain ⟨now, hnow⟩ := reading_of_nonneg hstart
    rw [draftWith, openingCourse_of_ne_zero h, hnow, hopens, Scene.followedBy_of_none rfl,
      Draft.outcome, Scene.map_event_sights]
    exact ⟨rfl, rfl⟩
  played h hstart hopens := by
    obtain ⟨now, hnow⟩ := reading_of_nonneg hstart
    rw [hopens, outcome_draftWith h hnow]
    exact ⟨_, rfl, State.opensWindow_draft v o _ fs⟩
  finished h hstart hopens htimes := by
    obtain ⟨now, hnow⟩ := reading_of_nonneg hstart
    rw [hopens, outcome_draftWith h hnow, pictures_append, pictures_opened]
    obtain ⟨hexit, hpictures⟩ := State.draft_finished (v := v) (o := o) (s := .initial _ now start)
      rfl htimes
    exact ⟨congrArg Exit.code hexit, hpictures⟩
  cutShort h hstart hopens i hi hbefore hearly := by
    obtain ⟨now, hnow⟩ := reading_of_nonneg hstart
    rw [hopens, outcome_draftWith h hnow, outcome_draftWith h hnow, pictures_append,
      pictures_opened]
    obtain ⟨hexit, hpictures, tail, hshown, htail⟩ := State.draft_cutShort (v := v) (o := o)
      (s := .initial ⟨o.period, h⟩ now start) rfl hi hbefore hearly
    refine ⟨congrArg Exit.code hexit, hpictures, tail, ?_, htail⟩
    rw [List.append_assoc]
    exact congrArg _ hshown

/-- **How a run ends.**  Every run with known options comes to the end that its first failure gives
it, and shows what it should by then, unless a record is due at a time that has no stamp; it then
breaks off there. -/
theorem run_ended {args : List String} (hargs : Options.ofArguments args = .ok o) :
    let whole := draft v args start opens fs
    Ended v o start opens fs whole.outcome ∧ whole.Gives (run v args start opens fs) := by
  intro whole
  have hwhole : whole = draftWith v o start opens fs := by simp only [whole, draft, hargs]
  refine ⟨?_, gives_run v args start opens fs⟩
  rw [hwhole]
  exact ended_draftWith v o start opens fs

/-- The clock goes back to before the epoch behind the second frame, and Escape would end the run in
the fourth: the third frame crashes, and two pictures have been shown by then. -/
theorem run_ended_rewound :
    let fs : List Frame :=
      [{ keys := some ["Q"] }, { keys := some [], delay := -60000 }, { keys := some ["W"] },
        { keys := some ["Escape"] }, { keys := none }]
    (executed fs).length = 4 ∧ (run .all [] 0 true fs).exit.code = 101 ∧
      (pictures (run .all [] 0 true fs).events).length = 2 := by
  intro fs
  obtain ⟨hended, hgives⟩ :=
    @run_ended .all {} 0 true fs [] rfl
  obtain ⟨hcode, hpictures, -⟩ := hended.cutShort (by decide) (by decide) rfl 2 (by decide)
    (by decide) (by decide)
  rw [hgives.whole (by decide +kernel)]
  exact ⟨by decide, hcode, hpictures⟩

/-- A demo that starts at a time without a stamp crashes before it opens its window, although its
period is valid, the clock can be read at all times and the window would open. -/
theorem window_missing_without_stamp :
    let fs : List Frame := [{ keys := some [] }]
    let start : Int := 253402207201000000
    let outcome := run (.upTo .info) [] start true fs
    Options.ofArguments [] = .ok {} ∧ (executed fs).length = 1 ∧
      (timeline (.upTo .info) {} start true fs).time 0 = start ∧ (reading? start).isSome ∧
      outcome.exit.code = 101 ∧ outcome.events = [] := by
  decide +kernel

end Run

end HostDevices.Demo
