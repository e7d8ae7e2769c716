import HostDevices.Demo.Run
import HostDevices.Proofs.Session.Notes

/-!
# The frames that a run of the demo comes to

A run shows one picture per frame, as long as no record is due at a time without a stamp.  Here the
run is taken apart into its frames: the state in which each of them begins, what is done in it
before the picture, and the picture that is seen of it.

* `State.work` — what is done in a frame before its picture.
* `State.trail`, `trail` — the states in which the frames begin that a run comes to.
* `pictures` — the pictures that are seen of a run.
* `State.pictures_frame` — a frame shows the picture of its work, unless the work notes a record at
  a time that has no stamp.
* `getElem?_pictures_run` — the pictures of a run are those of its frames, in order, and
  `State.length_pictures_frames_le` — there are no others.
-/

namespace HostDevices.Demo

open Logged

/-- The pictures among what is seen of a run, in order. -/
def pictures (events : List Event) : List (List Color) :=
  events.filterMap fun
    | .frame pixels => some pixels
    | _ => none

theorem pictures_append (a b : List Event) : pictures (a ++ b) = pictures a ++ pictures b :=
  List.filterMap_append

theorem pictures_prefix {a b : List Event} (h : a <+: b) : pictures a <+: pictures b := by
  obtain ⟨c, rfl⟩ := h
  rw [pictures_append]
  exact List.prefix_append _ _

@[simp] theorem pictures_seen {α : Type} (x : Logged α) : pictures (seen x) = [] := by
  simp [pictures, seen, List.filterMap_map]

namespace State

/-! ## One frame -/

/-- What is done in a frame before its picture: the key changes are queued and drained, and the
registers are paid down and perhaps loaded. -/
def work (v : Verbosity) (o : Options) (s : State) (f : Frame) (now : UInt64) : Logged State :=
  s.takeKeys v f >>= sync v >>= fun s => s.serve v o now

/-- The latch after the poll of a frame. -/
def latch (v : Verbosity) (s : State) (f : Frame) : Option Key :=
  (s.takeKeys v f >>= sync v).val.devices.keypad.keypad.held

/-- The records that a frame notes before its picture. -/
def noted (v : Verbosity) (o : Options) (s : State) (f : Frame) : List Record :=
  match reading? s.time with
  | none => (s.takeKeys v f >>= sync v).log
  | some now => (s.work v o f now).log

variable {v : Verbosity} {o : Options} {s : State} {f : Frame} {now : UInt64}

/-- Queueing and draining the key changes leaves the registers, the card and the time alone. -/
theorem val_synced (v : Verbosity) (s : State) (f : Frame) :
    ∃ keypad held escaped, (s.takeKeys v f >>= sync v).val =
      { s with devices := { s.devices with keypad }, held, escaped } := by
  unfold takeKeys
  split
  · exact ⟨_, _, _, rfl⟩
  · exact ⟨_, _, _, rfl⟩

/-- Both registers are paid down to the reading, and loaded when the latch holds another key than in
the frame before. -/
theorem val_serve (v : Verbosity) (o : Options) (s : State) (now : UInt64) :
    let held := s.devices.keypad.keypad.held
    let delay := (s.devices.delay.update v now).val
    let sound := (s.devices.sound.update v now).val
    let anew := held ≠ s.key ∧ held ≠ none
    (s.serve v o now).val =
      { s with
        key := held
        devices :=
          { s.devices with
            delay := if anew then (delay.load v o.delay).val else delay
            sound := if anew then (sound.load v o.beep).val else sound } } := by
  unfold serve
  by_cases hkey : s.devices.keypad.keypad.held = s.key
  · simp [Devices.countDown, hkey]
  · cases hheld : s.devices.keypad.keypad.held with
    | none =>
      rw [hheld] at hkey
      simp [Devices.countDown, hheld, hkey]
    | some k =>
      rw [hheld] at hkey
      simp [Devices.countDown, Devices.loadDelay, Devices.loadSound, hheld, hkey]

/-- What a frame notes before it reads the clock are records of the keypad. -/
theorem notes_synced (v : Verbosity) (s : State) (f : Frame) :
    (s.takeKeys v f >>= sync v).Notes Record.concernsKeypad := by
  refine Notes.bind ?_ fun t => (t.devices.notes_sync v).bind fun _ => notes_pure _ _
  unfold takeKeys
  split
  · exact notes_pure _ _
  · exact (EventQueue.notes_fill v _ _).bind fun _ => notes_pure _ _

/-- What it notes after that are records of the registers, and which key is held. -/
theorem notes_serve {p : Record → Bool} (hregister : ∀ r, r.concernsRegister = true → p r = true)
    (hkey : ∀ key, p (.keyChanged key) = true) (v : Verbosity) (o : Options) (s : State)
    (now : UInt64) : (s.serve v o now).Notes p := by
  have hcount := s.devices.notes_countDown v now now
  refine (hcount.mono hregister).bind fun devices => ?_
  dsimp only
  split
  · exact notes_pure _ _
  · refine (notes_note v (hkey _)).bind fun _ => ?_
    split
    · exact notes_pure _ _
    · refine ((devices.notes_loadDelay v o.delay).mono hregister).bind fun devices => ?_
      refine ((devices.notes_loadSound v o.beep).mono hregister).bind fun _ => ?_
      exact notes_pure _ _

/-- The part of a frame that can be seen: its records, its picture, and what a failing update
brings. -/
theorem course_eq (h : reading? s.time = some now) :
    s.course v o f =
      ⟨seen (s.work v o f now) ++ ((s.work v o f now).val.present v f).1,
        some (((s.work v o f now).val.present v f).2.pass f)⟩ := by
  unfold course
  simp only [h]
  simp [work, seen]

/-- An update shows the picture first, and no other picture after it. -/
theorem present_eq (v : Verbosity) (s : State) (f : Frame) :
    ∃ rest, (s.present v f).1 = .frame s.picture :: rest ∧ pictures rest = [] := by
  unfold present
  split
  · refine ⟨_, rfl, ?_⟩
    unfold Fault.report
    split <;> simp [actSeen, pictures, seen, List.filterMap_map]
  · exact ⟨[], rfl, rfl⟩

/-- What happens in a frame has one picture in it, that of its work. -/
theorem pictures_course (h : reading? s.time = some now) :
    pictures (s.course v o f).events = [(s.work v o f now).val.picture] := by
  obtain ⟨rest, hrest, hnil⟩ := present_eq v (s.work v o f now).val f
  rw [course_eq h, hrest, pictures_append, pictures_seen, List.nil_append]
  exact congrArg _ hnil

/-- A frame that is worked through shows one picture, that of its work, and leads to the next. -/
theorem frame_of_result {t : State} (h : (s.frame v o f).result = some t) :
    ∃ now, reading? s.time = some now ∧
      pictures (s.frame v o f).events = [(s.work v o f now).val.picture] ∧
      t = ((s.work v o f now).val.present v f).2.pass f := by
  have hframe : s.frame v o f = s.course v o f := Scene.result_stamped h
  rw [hframe] at h ⊢
  cases hnow : reading? s.time with
  | none => simp [course, hnow] at h
  | some now =>
    refine ⟨now, rfl, pictures_course hnow, ?_⟩
    rw [course_eq hnow] at h
    exact (Option.some.inj h).symm

/-- A frame with a stamp for its time, or with nothing to stamp before its picture, shows the
picture of its work. -/
theorem pictures_frame (hnow : reading? s.time = some now)
    (h : Stampable s.time ∨ (s.work v o f now).log = []) :
    pictures (s.frame v o f).events = [(s.work v o f now).val.picture] := by
  rcases h with hstamp | hlog
  · rw [frame, Scene.stamped_of_stampable hstamp, pictures_course hnow]
  · unfold frame Scene.stamped
    split
    · exact pictures_course hnow
    · -- nothing was noted before the picture, so that the cut comes after it
      obtain ⟨rest, hrest, hnil⟩ := present_eq v (s.work v o f now).val f
      have hcut := pictures_prefix (List.takeWhile_prefix (l := rest) fun e => !e.isRecord)
      rw [hnil] at hcut
      rw [course_eq hnow, seen, hlog, hrest]
      exact congrArg _ (List.prefix_nil.1 hcut)

/-- No frame shows more than one picture. -/
theorem length_pictures_frame_le (v : Verbosity) (o : Options) (s : State) (f : Frame) :
    (pictures (s.frame v o f).events).length ≤ 1 := by
  have hprefix := pictures_prefix (Scene.events_stamped_prefix s.time (s.course v o f))
  refine Nat.le_trans hprefix.length_le ?_
  cases hnow : reading? s.time with
  | none => simp [course, hnow]
  | some now => simp [pictures_course hnow]

/-- A frame that notes a record before its picture at a time without a stamp crashes, and its
picture is not seen. -/
theorem frame_of_unstamped (hnow : reading? s.time = some now) (hstamp : ¬ Stampable s.time)
    (hlog : (s.work v o f now).log ≠ []) :
    pictures (s.frame v o f).events = [] ∧ (s.frame v o f).result = none := by
  obtain ⟨r, more, hr⟩ := List.exists_cons_of_ne_nil hlog
  unfold frame Scene.stamped
  rw [course_eq hnow, if_neg]
  · simp [seen, hr, Event.isRecord, pictures]
  · simp [seen, hr, Event.isRecord, hstamp]

/-- Every picture that is seen of a frame is that of its work. -/
theorem exists_reading_of_picture {pixels : List Color}
    (h : (pictures (s.frame v o f).events)[0]? = some pixels) :
    ∃ now, reading? s.time = some now ∧ pixels = (s.work v o f now).val.picture := by
  cases hnow : reading? s.time with
  | none =>
    have hprefix := pictures_prefix (Scene.events_stamped_prefix s.time (s.course v o f))
    simp only [course, hnow, pictures_seen] at hprefix
    rw [frame, course, hnow, List.prefix_nil.1 hprefix] at h
    simp at h
  | some now =>
    refine ⟨now, rfl, ?_⟩
    by_cases hstamp : Stampable s.time ∨ (s.work v o f now).log = []
    · rw [pictures_frame hnow hstamp] at h
      simpa using h.symm
    · rw [not_or] at hstamp
      rw [(frame_of_unstamped hnow hstamp.1 hstamp.2).1] at h
      simp at h

theorem present_snd (v : Verbosity) (s : State) (f : Frame) :
    (s.present v f).2 = { s with card := s.card || f.failure.isSome } := by
  obtain ⟨devices, held, escaped, card, key, time⟩ := s
  unfold present
  cases f.failure <;> cases card <;> rfl

/-! ## Frame after frame -/

/-- The states in which the frames begin that a run comes to: the first frame, and every frame after
one that was worked through without Escape. -/
def trail (v : Verbosity) (o : Options) (s : State) : List Frame → List State
  | [] => []
  | f :: rest =>
    s :: match (s.frame v o f).result with
      | none => []
      | some t => if t.escaped then [] else t.trail v o rest

variable {fs : List Frame} {i : Nat} {t : State}

theorem frames_cons (v : Verbosity) (o : Options) (s : State) (f : Frame) (rest : List Frame) :
    s.frames v o (f :: rest) =
      match (s.frame v o f).result with
      | none => ((s.frame v o f).events, .crash)
      | some t =>
        if t.escaped then ((s.frame v o f).events, .success)
        else ((s.frame v o f).events ++ (t.frames v o rest).1, (t.frames v o rest).2) := by
  rw [frames]
  obtain ⟨events, result⟩ := s.frame v o f
  cases result <;> rfl

/-- The trail begins with the first frame's state. -/
theorem trail_zero (h : (s.trail v o fs)[0]? = some t) : s = t := by
  cases fs with
  | nil => simp [trail] at h
  | cons f rest => simpa [trail] using h

/-- The trail goes on from what a frame has come to. -/
theorem trail_cons_succ {f : Frame} {rest : List Frame}
    (h : (s.trail v o (f :: rest))[i + 1]? = some t) :
    ∃ u, (s.frame v o f).result = some u ∧ u.escaped = false ∧ (u.trail v o rest)[i]? = some t := by
  simp only [trail, List.getElem?_cons_succ] at h
  split at h
  · simp at h
  · rename_i u hu
    split at h
    · simp at h
    · rename_i hesc
      exact ⟨u, hu, by simpa using hesc, h⟩

/-- Every state of the trail but the first is what the frame before has come to. -/
theorem exists_frame_of_trail (h : (s.trail v o fs)[i + 1]? = some t) :
    ∃ r f, (s.trail v o fs)[i]? = some r ∧ fs[i]? = some f ∧ (r.frame v o f).result = some t := by
  induction fs generalizing s i with
  | nil => simp [trail] at h
  | cons f rest ih =>
    obtain ⟨u, hu, hesc, hrest⟩ := trail_cons_succ h
    cases i with
    | zero =>
      obtain rfl : u = t := trail_zero hrest
      exact ⟨s, f, rfl, rfl, hu⟩
    | succ i =>
      obtain ⟨r, g, hr, hg, hstep⟩ := ih hrest
      exact ⟨r, g, by simpa [trail, hu, hesc] using hr, hg, hstep⟩

/-- The pictures of a run are those of its frames, in order: every frame that is worked through
shows one. -/
theorem getElem?_pictures_frames {f : Frame} (ht : (s.trail v o fs)[i]? = some t)
    (hf : fs[i]? = some f) :
    (pictures (s.frames v o fs).1)[i]? = (pictures (t.frame v o f).events)[0]? := by
  induction fs generalizing s i with
  | nil => simp at hf
  | cons g rest ih =>
    rw [frames_cons]
    cases i with
    | zero =>
      obtain rfl : s = t := trail_zero ht
      obtain rfl : g = f := by simpa using hf
      split
      · rfl
      · rename_i u hu
        split
        · rfl
        · obtain ⟨_, _, hpic, _⟩ := frame_of_result hu
          simp [pictures_append, hpic]
    | succ i =>
      obtain ⟨u, hu, hesc, hrest⟩ := trail_cons_succ ht
      obtain ⟨_, _, hpic, _⟩ := frame_of_result hu
      simp only [hu, hesc, Bool.false_eq_true, if_false, pictures_append, hpic]
      exact ih hrest (by simpa using hf)

/-- No picture is seen but of the frames that a run comes to. -/
theorem length_pictures_frames_le (v : Verbosity) (o : Options) (s : State) (fs : List Frame) :
    (pictures (s.frames v o fs).1).length ≤ (s.trail v o fs).length := by
  induction fs generalizing s with
  | nil => exact Nat.le_refl _
  | cons f rest ih =>
    have hone := length_pictures_frame_le v o s f
    rw [frames_cons, trail, List.length_cons]
    split
    · exact hone
    · rename_i u hu
      split
      · exact hone
      · rw [pictures_append, List.length_append, Nat.add_comm]
        exact Nat.add_le_add (ih u) hone

/-- No frame is come to that is not there. -/
theorem length_trail_le (v : Verbosity) (o : Options) (s : State) (fs : List Frame) :
    (s.trail v o fs).length ≤ fs.length := by
  induction fs generalizing s with
  | nil => exact Nat.le_refl _
  | cons f rest ih =>
    rw [trail, List.length_cons, List.length_cons]
    apply Nat.succ_le_succ
    split
    · exact Nat.zero_le _
    · split
      · exact Nat.zero_le _
      · exact ih _

/-- A run ends in a crash when one of its frames does. -/
theorem frames_crash {f : Frame} (ht : (s.trail v o fs)[i]? = some t) (hf : fs[i]? = some f)
    (h : (t.frame v o f).result = none) : (s.frames v o fs).2 = .crash := by
  induction fs generalizing s i with
  | nil => simp at hf
  | cons g rest ih =>
    rw [frames_cons]
    cases i with
    | zero =>
      obtain rfl : s = t := trail_zero ht
      obtain rfl : g = f := by simpa using hf
      simp [h]
    | succ i =>
      obtain ⟨u, hu, hesc, hrest⟩ := trail_cons_succ ht
      simp only [hu, hesc, Bool.false_eq_true, if_false]
      exact ih hrest (by simpa using hf)

end State

/-! ## The whole run -/

/-- The states in which the frames begin that a run with known options comes to. -/
def trail (v : Verbosity) (o : Options) (start : Int) (opens : Bool) (fs : List Frame) :
    List State :=
  match (opening v o start opens).result with
  | some (.ok s) => s.trail v o fs
  | _ => []

/-- A run that comes to a frame has been opened. -/
theorem exists_opening_of_trail {v : Verbosity} {o : Options} {start : Int} {opens : Bool}
    {fs : List Frame} {i : Nat} {t : State} (h : (trail v o start opens fs)[i]? = some t) :
    ∃ s, (opening v o start opens).result = some (.ok s) := by
  unfold trail at h
  split at h
  · exact ⟨_, by assumption⟩
  · simp at h

/-- Before the first frame there is no picture. -/
theorem pictures_openingCourse (v : Verbosity) (o : Options) (start : Int) (opens : Bool) :
    pictures (openingCourse v o start opens).events = [] := by
  cases hp : (Devices.prepare v o.config).val with
  | error reason => simp [openingCourse, hp, pictures_append]
  | ok p =>
    cases hnow : reading? start with
    | none => simp [openingCourse, hp, hnow]
    | some now =>
      simp only [openingCourse, hp, hnow, pictures_append, pictures_seen, List.nil_append]
      rfl

/-- So none is seen. -/
theorem pictures_opening (v : Verbosity) (o : Options) (start : Int) (opens : Bool) :
    pictures (opening v o start opens).events = [] := by
  have hprefix :=
    pictures_prefix (Scene.events_stamped_prefix start (openingCourse v o start opens))
  rw [pictures_openingCourse] at hprefix
  exact List.prefix_nil.1 hprefix

/-- The state before the first frame has the period that was asked for and counts from the start. -/
theorem opening_of_ok {v : Verbosity} {o : Options} {start : Int} {opens : Bool} {s : State}
    (h : (opening v o start opens).result = some (.ok s)) :
    ∃ p now, p.micros = o.period ∧ reading? start = some now ∧ s = .initial p now start := by
  have hcourse : opening v o start opens = openingCourse v o start opens := Scene.result_stamped h
  rw [hcourse] at h
  cases hp : (Devices.prepare v o.config).val with
  | error reason => simp [openingCourse, hp] at h
  | ok p =>
    have hmicros : p.micros = o.period := by
      have hp' : Period.ofDuration (.ofMicros o.period) = .ok p := hp
      rw [Period.ofDuration_eq_ok_iff, Duration.micros_ofMicros] at hp'
      exact (UInt64.toNat_inj.1 hp').symm
    cases hnow : reading? start with
    | none => simp [openingCourse, hp, hnow] at h
    | some now =>
      cases opens with
      | false => simp [openingCourse, hp, hnow] at h
      | true =>
        have hs : State.initial p now start = s := by simpa [openingCourse, hp, hnow] using h
        exact ⟨p, now, hmicros, rfl, hs.symm⟩

/-- A run that comes to a frame is its opening and then its frames. -/
theorem run_of_opening {v : Verbosity} {args : List String} {o : Options} {start : Int}
    {opens : Bool} {s : State} (hargs : Options.ofArguments args = .ok o)
    (h : (opening v o start opens).result = some (.ok s)) (fs : List Frame) :
    run v args start opens fs =
      ⟨(s.frames v o fs).2, (opening v o start opens).events ++ (s.frames v o fs).1⟩ := by
  have hscene : opening v o start opens =
      ⟨(opening v o start opens).events, some (.ok s)⟩ := by rw [← h]
  simp only [run, hargs, runWith]
  rw [hscene]

section Run

variable {v : Verbosity} {args : List String} {o : Options} {start : Int} {opens : Bool}
  {fs : List Frame} {i : Nat} {s : State} {f : Frame}

/-- The picture of a frame that a run comes to is the one that is seen at its place. -/
theorem getElem?_pictures_run (hargs : Options.ofArguments args = .ok o)
    (hs : (trail v o start opens fs)[i]? = some s) (hf : fs[i]? = some f) :
    (pictures (run v args start opens fs).events)[i]? =
      (pictures (s.frame v o f).events)[0]? := by
  obtain ⟨s₀, hopen⟩ := exists_opening_of_trail hs
  rw [trail, hopen] at hs
  rw [run_of_opening hargs hopen, pictures_append, pictures_opening, List.nil_append]
  exact State.getElem?_pictures_frames hs hf

/-- A run shows no picture but of the frames that it comes to. -/
theorem length_pictures_run_le (hargs : Options.ofArguments args = .ok o) :
    (pictures (run v args start opens fs).events).length ≤ (trail v o start opens fs).length := by
  have hbefore := pictures_opening v o start opens
  simp only [run, hargs, runWith, trail]
  generalize opening v o start opens = opened at *
  obtain ⟨events, result⟩ := opened
  match result with
  | none => exact Nat.le_of_eq (congrArg List.length hbefore)
  | some (.error reason) => exact Nat.le_of_eq (congrArg List.length hbefore)
  | some (.ok s) =>
    rw [pictures_append, hbefore, List.nil_append]
    exact State.length_pictures_frames_le v o s fs

/-- So every picture of a run is that of a frame that it comes to. -/
theorem exists_trail_of_picture {pixels : List Color} (hargs : Options.ofArguments args = .ok o)
    (h : (pictures (run v args start opens fs).events)[i]? = some pixels) :
    ∃ s f, (trail v o start opens fs)[i]? = some s ∧ fs[i]? = some f ∧
      (pictures (s.frame v o f).events)[0]? = some pixels := by
  obtain ⟨hi, -⟩ := List.getElem?_eq_some_iff.1 h
  have htrail := Nat.lt_of_lt_of_le hi (length_pictures_run_le hargs)
  have hs := List.getElem?_eq_getElem htrail
  obtain ⟨s₀, hopen⟩ := exists_opening_of_trail hs
  have hlength : (trail v o start opens fs).length ≤ fs.length := by
    rw [trail, hopen]
    exact State.length_trail_le v o s₀ fs
  have hf := List.getElem?_eq_getElem (Nat.lt_of_lt_of_le htrail hlength)
  exact ⟨_, _, hs, hf, by rw [← getElem?_pictures_run hargs hs hf, h]⟩

/-- A run crashes when a frame that it comes to does. -/
theorem exit_run_of_crash (hargs : Options.ofArguments args = .ok o)
    (hs : (trail v o start opens fs)[i]? = some s) (hf : fs[i]? = some f)
    (hcrash : (s.frame v o f).result = none) : (run v args start opens fs).exit = .crash := by
  obtain ⟨s₀, hopen⟩ := exists_opening_of_trail hs
  rw [trail, hopen] at hs
  rw [run_of_opening hargs hopen]
  exact State.frames_crash hs hf hcrash

end Run

end HostDevices.Demo
