import HostDevices.Proofs.Demo.Draft

/-!
# The error card

The first update that fails is reported and brings up the error card, which covers every picture
behind it.  Nothing else becomes of failing updates: without them, a run shows the same records and
as many pictures, and comes to the same end.

* `Frame.healthy`, `State.uncovered` — a frame whose update does not fail, and the demo without the
  card.
* `State.work_uncovered` — a frame does the same work with and without the card.
* `Draft.CoveredFrom` — a draft with the card, next to the draft without failures.
* `State.draft_untouched`, `State.draft_covered` — frames without a failure, and frames of which one
  is the first to fail; `Draft.Covering` is both.
* `picture_of_run` — which pictures are drawn from the devices, and which the card covers.
* `Covered`, `run_covered` — whole runs.
-/

namespace HostDevices.Demo

open Logged

/-- The frame, if its update did not fail. -/
def Frame.healthy (f : Frame) : Frame := { f with failure := none }

/-- The event, if the card covers the picture. -/
def Event.covered : Event → Event
  | frame _ => frame Picture.errorCard
  | record r => record r
  | window width height => window width height

/-- The event is a record of a fault or of the card. -/
def Event.tellsOfFault : Event → Bool
  | record r => r.tellsOfFault
  | window .. | frame _ => false

/-- What is shown when the card is brought up. -/
def cardEvents (v : Verbosity) (why : String) : List Event :=
  seen (v.note (.faultReported ("Failed to Update " ++ quoted isUnprintable why))) ++
    seen (v.note .cardShown)

@[simp] theorem seen_map {α β : Type} (g : α → β) (x : Logged α) : seen (g <$> x) = seen x := by
  simp [seen]

@[simp] theorem map_covered_seen {α : Type} (x : Logged α) :
    (seen x).map Event.covered = seen x := by
  simp [seen, Event.covered]

/-- An operation whose records tell nothing of faults shows nothing of them. -/
theorem tellsOfFault_seen {α : Type} {x : Logged α} (hx : x.Notes fun r => !r.tellsOfFault) :
    ∀ e ∈ seen x, e.tellsOfFault = false := by
  intro e he
  obtain ⟨r, hr, rfl⟩ := List.mem_map.1 he
  simpa [Event.tellsOfFault] using hx r hr

/-- There are as many pictures behind the card as without it. -/
theorem pictures_map_covered (events : List Event) :
    pictures (events.map Event.covered) = (pictures events).map fun _ => Picture.errorCard := by
  induction events with
  | nil => rfl
  | cons e rest ih => cases e <;> simpa [pictures, Event.covered] using ih

theorem isRecord_covered (e : Event) : e.covered.isRecord = e.isRecord := by
  cases e <;> rfl

@[simp] theorem pictures_cardEvents (v : Verbosity) (why : String) :
    pictures (cardEvents v why) = [] := by
  simp [cardEvents, pictures_append]

/-! ## One frame -/

namespace State

/-- The demo without the card. -/
def uncovered (s : State) : State := { s with card := false }

variable (v : Verbosity) (o : Options) (s : State) (f : Frame) (now : UInt64)

theorem takeKeys_uncovered :
    s.uncovered.takeKeys v f.healthy = uncovered <$> s.takeKeys v f := by
  unfold takeKeys
  change (if Window.escape ∈ f.codes then _ else _) = _
  split
  · rfl
  · simp [uncovered, Frame.healthy, Frame.codes]

theorem sync_uncovered : s.uncovered.sync v = uncovered <$> s.sync v := by
  simp [sync, uncovered]

theorem serve_uncovered : s.uncovered.serve v o now = uncovered <$> s.serve v o now := by
  unfold serve
  rw [map_bind]
  congr 1
  funext devices
  by_cases hkey : devices.keypad.keypad.held = s.key
  · simp [hkey, uncovered]
  · cases hheld : devices.keypad.keypad.held with
    | none => simp [hheld ▸ hkey, uncovered]
    | some key => simp [hheld ▸ hkey, uncovered]

theorem synced_uncovered :
    (s.uncovered.takeKeys v f.healthy >>= sync v) = uncovered <$> (s.takeKeys v f >>= sync v) := by
  rw [takeKeys_uncovered, map_bind, bind_map_left]
  congr 1
  funext t
  exact sync_uncovered v t

/-- The work of a frame is the same under the card. -/
theorem work_uncovered :
    s.uncovered.work v o f.healthy now = uncovered <$> s.work v o f now := by
  rw [work, work, synced_uncovered]
  generalize s.takeKeys v f >>= sync v = synced
  rw [map_bind, bind_map_left]
  congr 1
  funext t
  exact serve_uncovered v o t now

theorem card_work : (s.work v o f now).val.card = s.card := by
  obtain ⟨keypad, held, escaped, hsynced⟩ := val_synced v s f
  rw [work, Logged.val_bind, hsynced, val_serve]

/-- The work of a frame tells nothing of faults. -/
theorem notes_work : (s.work v o f now).Notes fun r => !r.tellsOfFault := by
  have hsynced := (notes_synced v s f).mono Record.not_tellsOfFault_of_concernsKeypad
  refine hsynced.bind fun t => ?_
  exact notes_serve Record.not_tellsOfFault_of_concernsRegister (fun _ => rfl) v o t now

/-- The report of a failed update is shown as two records. -/
theorem report_updateFault (why : String) :
    ((updateFault why).report v).flatMap (actSeen v) = cardEvents v why := by
  have htext : (updateFault why).text = "Failed to Update " ++ quoted isUnprintable why := by
    simp [updateFault, Fault.text, String.join]
  by_cases herror : v.admits .error <;>
    simp [Fault.report, actSeen, cardEvents, seen, htext, Record.level, herror]

variable {v o s f now}

theorem present_of_none (h : f.failure = none) : s.present v f = ([.frame s.picture], s) := by
  unfold present
  rw [h]

theorem present_of_card (h : s.card = true) : s.present v f = ([.frame s.picture], s) := by
  unfold present
  rw [h]
  cases f.failure <;> rfl

theorem present_of_failure {why : String} (hf : f.failure = some why) (h : s.card = false) :
    s.present v f = (.frame s.picture :: cardEvents v why, { s with card := true }) := by
  unfold present
  simp only [hf, h, report_updateFault]

theorem next_healthy :
    s.uncovered.next v o f.healthy now = (s.next v o f now).uncovered := by
  rw [next, next, work_uncovered, present_snd, present_snd]
  rfl

theorem card_next : (s.next v o f now).card = (s.card || f.failure.isSome) := by
  rw [next, present_snd, pass, card_work]

/-- What a frame shows without the failure and the card. -/
theorem events_course_healthy (hnow : reading? s.time = some now) :
    (s.uncovered.course v o f.healthy).events =
      seen (s.work v o f now) ++ [.frame (s.work v o f now).val.uncovered.picture] := by
  have hnow' : reading? s.uncovered.time = some now := hnow
  rw [course_eq hnow', work_uncovered, present_of_none rfl, seen_map, Logged.val_map]

/-- Before the epoch there is no picture, and no failure. -/
theorem events_course_of_none (hnone : reading? s.time = none) :
    (s.course v o f).events = (s.uncovered.course v o f.healthy).events ∧
      pictures (s.course v o f).events = [] := by
  have hnone' : reading? s.uncovered.time = none := hnone
  constructor
  · simp only [course, hnone, hnone', synced_uncovered, seen_map]
  · simp only [course, hnone, pictures_seen]

/-- The card covers the picture of a frame. -/
theorem events_course_of_card (h : s.card = true) :
    (s.course v o f).events = (s.uncovered.course v o f.healthy).events.map Event.covered := by
  cases hnow : reading? s.time with
  | none =>
    rw [← (events_course_of_none hnow).1]
    simp [course, hnow]
  | some now =>
    have hcard : (s.work v o f now).val.card = true := by rw [card_work, h]
    rw [course_eq hnow, events_course_healthy hnow, present_of_card hcard, List.map_append,
      map_covered_seen, picture, if_pos hcard]
    rfl

/-- Without a failure and without the card, a frame shows what it shows. -/
theorem course_of_healthy (h : s.card = false) (hf : f.failure = none) :
    s.uncovered.course v o f.healthy = s.course v o f := by
  obtain ⟨devices, held, escaped, card, key, time⟩ := s
  obtain ⟨keys, failure, delay, releaseOrder, pressOrder⟩ := f
  obtain rfl : card = false := h
  obtain rfl : failure = none := hf
  rfl

/-- The first failure is reported behind the picture of its frame. -/
theorem events_course_of_failure {why : String} (hnow : reading? s.time = some now)
    (h : s.card = false) (hf : f.failure = some why) :
    (s.course v o f).events =
      (s.uncovered.course v o f.healthy).events ++ cardEvents v why := by
  have hcard : (s.work v o f now).val.card = false := by rw [card_work, h]
  have hpicture : (s.work v o f now).val.uncovered.picture = (s.work v o f now).val.picture := by
    simp [picture, uncovered, hcard]
  rw [course_eq hnow, events_course_healthy hnow, present_of_failure hf hcard, hpicture]
  simp

end State

/-! ## Frame after frame -/

namespace Draft

/-- The draft, if the card covers its pictures. -/
def covered (d : Draft) : Draft :=
  ⟨d.exit, d.shown.map fun x => { x with event := x.event.covered }⟩

/-- The draft is the other one, but that the card comes up behind a picture: it is announced there,
and covers the pictures that follow. -/
def CoveredFrom (v : Verbosity) (i : Nat) (why : String) (healthy d : Draft) : Prop :=
  ∃ before time pixels rest, healthy.shown = before ++ ⟨time, .frame pixels⟩ :: rest ∧
    (pictures (before.map Sight.event)).length = i ∧
    d = (covered ⟨healthy.exit, rest⟩).behind
      (before ++ ⟨time, .frame pixels⟩ :: (cardEvents v why).map fun e => ⟨time, e⟩)

variable {v : Verbosity} {i : Nat} {why : String} {healthy d : Draft}

theorem covered_behind (d : Draft) (x : Scene State) (time : Int) :
    (d.behind (x.sights time)).covered =
      d.covered.behind ((x.events.map Event.covered).map fun e => ⟨time, e⟩) := by
  simp [covered, Draft.behind, Scene.sights]

/-- What is shown first may hold pictures of its own. -/
theorem CoveredFrom.behind (h : CoveredFrom v i why healthy d) (sights : List Sight) :
    CoveredFrom v ((pictures (sights.map Sight.event)).length + i) why (healthy.behind sights)
      (d.behind sights) := by
  obtain ⟨before, time, pixels, rest, hshown, hpictures, rfl⟩ := h
  refine ⟨sights ++ before, time, pixels, rest, ?_, ?_, ?_⟩
  · simp [Draft.behind, hshown]
  · simp [pictures_append, hpictures]
  · simp [Draft.behind, covered]

/-- In terms of events, without their times. -/
theorem CoveredFrom.events (h : CoveredFrom v i why healthy d) :
    ∃ before pixels rest, healthy.outcome.events = before ++ .frame pixels :: rest ∧
      (pictures before).length = i ∧
      d.outcome.events =
        before ++ .frame pixels :: (cardEvents v why ++ rest.map Event.covered) := by
  obtain ⟨before, time, pixels, rest, hshown, hpictures, rfl⟩ := h
  refine ⟨before.map Sight.event, pixels, rest.map Sight.event, ?_, hpictures, ?_⟩
  · simp [outcome, hshown]
  · simp [outcome, Draft.behind, covered, Function.comp_def]

end Draft

namespace State

variable {v : Verbosity} {o : Options} {s t : State} {fs : List Frame} {i : Nat} {why : String}
  {now : UInt64}

/-- A frame whose time can be read leads onward without failures, too. -/
theorem draft_cons_healthy (hnow : reading? s.time = some now) (f : Frame) (rest : List Frame) :
    s.uncovered.draft v o (f.healthy :: rest) =
      ((s.next v o f now).uncovered.onward v o rest).behind
        ((s.uncovered.course v o f.healthy).sights s.time) := by
  have hnow' : reading? s.uncovered.time = some now := hnow
  rw [draft_cons_of_reading hnow', next_healthy]
  rfl

/-- It shows one picture. -/
theorem length_pictures_draft_cons (hnow : reading? s.time = some now) (f : Frame)
    (rest : List Frame) :
    (pictures (s.uncovered.draft v o (f.healthy :: rest)).outcome.events).length =
      (pictures ((s.next v o f now).uncovered.onward v o rest).outcome.events).length + 1 := by
  have hnow' : reading? s.uncovered.time = some now := hnow
  rw [draft_cons_healthy hnow, Draft.pictures_behind, Scene.map_event_sights,
    pictures_course hnow', List.length_append, Nat.add_comm]
  rfl

/-- Before the epoch, frames show the same with and without failures, and no picture. -/
theorem draft_cons_of_early (hnone : reading? s.time = none) (f : Frame) (rest more : List Frame) :
    s.draft v o (f :: rest) = s.uncovered.draft v o (f.healthy :: more) ∧
      pictures (s.draft v o (f :: rest)).outcome.events = [] := by
  have hnone' : reading? s.uncovered.time = none := hnone
  obtain ⟨hevents, hpictures⟩ := events_course_of_none (v := v) (o := o) (f := f) hnone
  rw [draft_cons_of_none hnone, draft_cons_of_none hnone']
  constructor
  · rw [Scene.sights, hevents]
    rfl
  · rw [Draft.outcome, Scene.map_event_sights, hpictures]

theorem onward_uncovered_of_escaped (h : t.escaped = true) (fs : List Frame) :
    t.uncovered.onward v o fs = ⟨.success, []⟩ :=
  onward_of_escaped (s := t.uncovered) h fs

theorem onward_uncovered_of_not_escaped (h : ¬ t.escaped = true) (fs : List Frame) :
    t.uncovered.onward v o fs = t.uncovered.draft v o fs :=
  onward_of_not_escaped (s := t.uncovered) h fs

/-- Under the card, frames do what they would do without it and without failures. -/
theorem draft_of_card (h : s.card = true) :
    s.draft v o fs = (s.uncovered.draft v o (fs.map Frame.healthy)).covered := by
  induction fs generalizing s with
  | nil => rfl
  | cons f rest ih =>
    rw [List.map_cons]
    cases hnow : reading? s.time with
    | none =>
      have hnow' : reading? s.uncovered.time = none := hnow
      rw [draft_cons_of_none hnow, draft_cons_of_none hnow', Scene.sights, events_course_of_card h]
      simp [Draft.covered, Scene.sights, uncovered]
    | some now =>
      have hnext : (s.next v o f now).card = true := by rw [card_next, h, Bool.true_or]
      have honward : (s.next v o f now).onward v o rest =
          ((s.next v o f now).uncovered.onward v o (rest.map Frame.healthy)).covered := by
        by_cases hescaped : (s.next v o f now).escaped
        · rw [onward_of_escaped hescaped, onward_uncovered_of_escaped hescaped]
          rfl
        · rw [onward_of_not_escaped hescaped, onward_uncovered_of_not_escaped hescaped]
          exact ih hnext
      rw [draft_cons_of_reading hnow, draft_cons_healthy hnow, Draft.covered_behind,
        Scene.sights, events_course_of_card h, honward]

/-- So does what follows a frame. -/
theorem onward_of_card (h : t.card = true) (fs : List Frame) :
    t.onward v o fs = (t.uncovered.onward v o (fs.map Frame.healthy)).covered := by
  by_cases hescaped : t.escaped
  · rw [onward_of_escaped hescaped, onward_uncovered_of_escaped hescaped]
    rfl
  · rw [onward_of_not_escaped hescaped, onward_uncovered_of_not_escaped hescaped]
    exact draft_of_card h

/-- As long as no update fails, frames show what they show without failures. -/
theorem draft_untouched (hcard : s.card = false)
    (hok : ∀ f ∈ fs.take
      (pictures (s.uncovered.draft v o (fs.map Frame.healthy)).outcome.events).length,
      f.failure = none) :
    s.draft v o fs = s.uncovered.draft v o (fs.map Frame.healthy) := by
  induction fs generalizing s with
  | nil => rfl
  | cons f rest ih =>
    rw [List.map_cons] at *
    cases hnow : reading? s.time with
    | none => exact (draft_cons_of_early hnow f rest _).1
    | some now =>
      rw [length_pictures_draft_cons hnow, List.take_succ_cons, List.forall_mem_cons] at hok
      obtain ⟨hf, hrest⟩ := hok
      have hnext : (s.next v o f now).card = false := by rw [card_next, hcard, hf]; rfl
      rw [draft_cons_of_reading hnow, draft_cons_healthy hnow, course_of_healthy hcard hf]
      congr 1
      by_cases hescaped : (s.next v o f now).escaped
      · rw [onward_of_escaped hescaped, onward_uncovered_of_escaped hescaped]
      · rw [onward_uncovered_of_not_escaped hescaped] at hrest ⊢
        rw [onward_of_not_escaped hescaped]
        exact ih hnext hrest

/-- If the frame of a picture is the first whose update fails, the card comes up behind it. -/
theorem draft_covered (hcard : s.card = false)
    (hi : i < (pictures (s.uncovered.draft v o (fs.map Frame.healthy)).outcome.events).length)
    (hfails : fs[i]?.bind Frame.failure = some why) (hok : ∀ f ∈ fs.take i, f.failure = none) :
    Draft.CoveredFrom v i why (s.uncovered.draft v o (fs.map Frame.healthy)) (s.draft v o fs) := by
  induction fs generalizing s i with
  | nil => simp at hfails
  | cons f rest ih =>
    rw [List.map_cons] at *
    cases hnow : reading? s.time with
    | none =>
      obtain ⟨hsame, hpictures⟩ := draft_cons_of_early hnow f rest (rest.map Frame.healthy)
      rw [← hsame, hpictures] at hi
      exact absurd hi (Nat.not_lt_zero i)
    | some now =>
      rw [length_pictures_draft_cons hnow] at hi
      rw [draft_cons_healthy hnow, draft_cons_of_reading hnow]
      cases i with
      | zero =>
        -- the card is up from here on, so that all that follows is covered
        have hf : f.failure = some why := by simpa using hfails
        have hnext : (s.next v o f now).card = true := by
          rw [card_next, hf, Option.isSome_some, Bool.or_true]
        rw [onward_of_card hnext, Scene.sights, Scene.sights,
          events_course_of_failure hnow hcard hf, events_course_healthy hnow]
        refine ⟨(seen (s.work v o f now)).map fun e => ⟨s.time, e⟩, s.time,
          (s.work v o f now).val.uncovered.picture,
          ((s.next v o f now).uncovered.onward v o (rest.map Frame.healthy)).shown, ?_, ?_, ?_⟩
        · simp [Draft.behind]
        · rw [List.map_map]
          simp [Function.comp_def]
        · simp [Draft.behind, Draft.covered]
      | succ i =>
        rw [List.take_succ_cons, List.forall_mem_cons] at hok
        obtain ⟨hf, hrest⟩ := hok
        have hnext : (s.next v o f now).card = false := by rw [card_next, hcard, hf]; rfl
        have hlater : Draft.CoveredFrom v i why
            ((s.next v o f now).uncovered.onward v o (rest.map Frame.healthy))
            ((s.next v o f now).onward v o rest) := by
          by_cases hescaped : (s.next v o f now).escaped
          · rw [onward_uncovered_of_escaped hescaped] at hi
            exact absurd (Nat.lt_of_succ_lt_succ hi) (Nat.not_lt_zero i)
          · rw [onward_uncovered_of_not_escaped hescaped] at hi ⊢
            rw [onward_of_not_escaped hescaped]
            exact ih hnext (Nat.lt_of_succ_lt_succ hi) (by simpa using hfails) hrest
        have hbehind := hlater.behind ((s.course v o f).sights s.time)
        rw [Scene.map_event_sights, pictures_course hnow, List.length_singleton,
          Nat.add_comm] at hbehind
        rw [course_of_healthy hcard hf]
        exact hbehind

/-- Without failures there is nothing to tell of. -/
theorem tellsOfFault_draft (hcard : s.card = false) (hok : ∀ f ∈ fs, f.failure = none) :
    ∀ e ∈ (s.draft v o fs).outcome.events, e.tellsOfFault = false := by
  induction fs generalizing s with
  | nil => simp [draft, Draft.outcome]
  | cons f rest ih =>
    rw [List.forall_mem_cons] at hok
    obtain ⟨hf, hrest⟩ := hok
    cases hnow : reading? s.time with
    | none =>
      have hsynced := (notes_synced v s f).mono Record.not_tellsOfFault_of_concernsKeypad
      rw [draft_cons_of_none hnow, Draft.outcome, Scene.map_event_sights]
      simp only [course, hnow]
      exact tellsOfFault_seen hsynced
    | some now =>
      have hnext : (s.next v o f now).card = false := by rw [card_next, hcard, hf]; rfl
      have honward : ∀ e ∈ ((s.next v o f now).onward v o rest).outcome.events,
          e.tellsOfFault = false := by
        by_cases hescaped : (s.next v o f now).escaped
        · simp [onward_of_escaped hescaped, Draft.outcome]
        · rw [onward_of_not_escaped hescaped]
          exact ih hnext hrest
      rw [draft_cons_of_reading hnow, Draft.outcome, Draft.behind, List.map_append,
        Scene.map_event_sights, course_eq hnow, present_of_none hf, List.forall_mem_append,
        List.forall_mem_append]
      exact ⟨⟨tellsOfFault_seen (notes_work v o s f now), by simp [Event.tellsOfFault]⟩, honward⟩

end State

/-! ## The whole run -/

/-- Either no frame of the first few fails, or there is a first one. -/
theorem exists_first_failure (fs : List Frame) (n : Nat) :
    (∀ f ∈ fs.take n, f.failure = none) ∨
      ∃ i < n, ∃ why, fs[i]?.bind Frame.failure = some why ∧
        ∀ f ∈ fs.take i, f.failure = none := by
  induction n with
  | zero => exact Or.inl (by simp)
  | succ n ih =>
    rcases ih with hok | ⟨i, hi, hfirst⟩
    · cases hfails : fs[n]?.bind Frame.failure with
      | none =>
        left
        rw [List.take_add_one, List.forall_mem_append]
        refine ⟨hok, fun f hf => ?_⟩
        simpa [Option.mem_toList.1 hf] using hfails
      | some why => exact Or.inr ⟨n, Nat.lt_succ_self n, why, hfails, hok⟩
    · exact Or.inr ⟨i, Nat.lt_succ_of_lt hi, hfirst⟩

/-- The draft of a run with some frames, next to the draft without their failures. -/
structure Draft.Covering (v : Verbosity) (fs : List Frame) (healthy d : Draft) : Prop where
  /-- As long as no update fails, the two are the same. -/
  untouched : (∀ f ∈ fs.take (pictures healthy.outcome.events).length, f.failure = none) →
    d = healthy
  /-- Behind the picture of the first frame that fails, the card comes up. -/
  covered : ∀ i why, i < (pictures healthy.outcome.events).length →
    fs[i]?.bind Frame.failure = some why → (∀ f ∈ fs.take i, f.failure = none) →
    Draft.CoveredFrom v i why healthy d
  /-- Without failures there is nothing to tell of. -/
  silent : ∀ e ∈ healthy.outcome.events, e.tellsOfFault = false

namespace Draft.Covering

variable {v : Verbosity} {fs : List Frame} {healthy d : Draft}

/-- What comes before the first frame has no part in this. -/
theorem behind (h : Covering v fs healthy d) {x : Scene (Except InvalidPeriod State)}
    (hpictures : pictures x.events = []) (hsilent : ∀ e ∈ x.events, e.tellsOfFault = false)
    (time : Int) : Covering v fs (healthy.behind (x.sights time)) (d.behind (x.sights time)) := by
  have hsame : pictures (healthy.behind (x.sights time)).outcome.events =
      pictures healthy.outcome.events := by
    rw [pictures_behind, Scene.map_event_sights, hpictures, List.nil_append]
  refine ⟨?_, ?_, ?_⟩
  · intro hok
    rw [hsame] at hok
    rw [h.untouched hok]
  · intro i why hi hfails hok
    rw [hsame] at hi
    have hbehind := (h.covered i why hi hfails hok).behind (x.sights time)
    rw [Scene.map_event_sights, hpictures, List.length_nil, Nat.zero_add] at hbehind
    exact hbehind
  · rw [outcome, Draft.behind, List.map_append, Scene.map_event_sights, List.forall_mem_append]
    exact ⟨hsilent, h.silent⟩

/-- A run that comes to no frame is not touched by their failures. -/
theorem of_no_pictures (hpictures : pictures d.outcome.events = [])
    (hsilent : ∀ e ∈ d.outcome.events, e.tellsOfFault = false) : Covering v fs d d where
  untouched _ := rfl
  covered i why hi := by
    rw [hpictures] at hi
    exact absurd hi (Nat.not_lt_zero i)
  silent := hsilent

/-- Either the two are the same, or the card comes up in one of them. -/
theorem same_or_covered (h : Covering v fs healthy d) :
    d = healthy ∨ ∃ i why, CoveredFrom v i why healthy d := by
  rcases exists_first_failure fs (pictures healthy.outcome.events).length with hok | hfirst
  · exact Or.inl (h.untouched hok)
  · obtain ⟨i, hi, why, hfails, hok⟩ := hfirst
    exact Or.inr ⟨i, why, h.covered i why hi hfails hok⟩

theorem exit (h : Covering v fs healthy d) : d.exit = healthy.exit := by
  rcases h.same_or_covered with rfl | ⟨i, why, before, time, pixels, rest, -, -, rfl⟩
  · rfl
  · rfl

/-- The card covers pictures, but takes none away. -/
theorem length_pictures (h : Covering v fs healthy d) :
    (pictures d.outcome.events).length = (pictures healthy.outcome.events).length := by
  rcases h.same_or_covered with rfl | ⟨i, why, hcovered⟩
  · rfl
  · obtain ⟨before, pixels, rest, hhealthy, -, hcard⟩ := hcovered.events
    have hcons : pictures (.frame pixels :: rest) = pixels :: pictures rest := rfl
    have hcons' (events : List Event) :
        pictures (.frame pixels :: events) = pixels :: pictures events := rfl
    rw [hhealthy, hcard, pictures_append, pictures_append, hcons, hcons', pictures_append,
      pictures_cardEvents, pictures_map_covered]
    simp

/-- If all records can be stamped, they can be without the failures. -/
theorem datable (h : Covering v fs healthy d) (hd : d.Datable) : healthy.Datable := by
  rcases h.same_or_covered with rfl | ⟨i, why, before, time, pixels, rest, hshown, -, rfl⟩
  · exact hd
  · rw [datable_behind, List.forall_mem_append] at hd
    obtain ⟨⟨hbefore, -⟩, hrest⟩ := hd
    rw [Datable, hshown, List.forall_mem_append, List.forall_mem_cons]
    refine ⟨hbefore, fun hrecord => absurd hrecord Bool.false_ne_true, ?_⟩
    intro x hx hrecord
    rw [← isRecord_covered] at hrecord
    have hmem := List.mem_map_of_mem (f := fun x : Sight => { x with event := x.event.covered }) hx
    have hdatable := hrest _ hmem
    exact hdatable hrecord

end Draft.Covering

section Run

variable {v : Verbosity} {o : Options} {start : Int} {opens : Bool} {fs : List Frame}

theorem State.covering_draft {s : State} (hcard : s.card = false) (fs : List Frame) :
    Draft.Covering v fs (s.draft v o (fs.map Frame.healthy)) (s.draft v o fs) := by
  have huncovered : s.uncovered = s := by rw [uncovered, ← hcard]
  have hok : ∀ f ∈ fs.map Frame.healthy, f.failure = none := by simp [Frame.healthy]
  have hcovering : Draft.Covering v fs (s.uncovered.draft v o (fs.map Frame.healthy))
      (s.draft v o fs) :=
    { untouched := draft_untouched hcard
      covered := fun i why hi hfails hbefore => draft_covered hcard hi hfails hbefore
      silent := tellsOfFault_draft rfl hok }
  rwa [huncovered] at hcovering

theorem tellsOfFault_openingCourse (v : Verbosity) (o : Options) (start : Int) (opens : Bool) :
    ∀ e ∈ (openingCourse v o start opens).events, e.tellsOfFault = false := by
  have hprepared : (Devices.prepare v o.config).Notes fun r => !r.tellsOfFault :=
    notes_note_bind_pure v rfl _
  simp only [openingCourse]
  split
  · rw [List.forall_mem_append]
    exact ⟨tellsOfFault_seen hprepared, tellsOfFault_seen (notes_note v rfl)⟩
  · split
    · exact tellsOfFault_seen hprepared
    · rw [List.forall_mem_append]
      exact ⟨tellsOfFault_seen hprepared, by simp [Event.tellsOfFault]⟩

/-- The frames of a run begin without the card. -/
theorem card_of_openingCourse {s : State}
    (h : (openingCourse v o start opens).result = some (.ok s)) : s.card = false := by
  simp only [openingCourse] at h
  split at h
  · simp at h
  · split at h
    · simp at h
    · obtain ⟨-, rfl⟩ : opens = true ∧ _ = s := by simpa using h
      rfl

theorem covering_draftWith (v : Verbosity) (o : Options) (start : Int) (opens : Bool)
    (fs : List Frame) :
    Draft.Covering v fs (draftWith v o start opens (fs.map Frame.healthy))
      (draftWith v o start opens fs) := by
  have hpictures := pictures_openingCourse v o start opens
  have hsilent := tellsOfFault_openingCourse v o start opens
  unfold draftWith
  match hresult : (openingCourse v o start opens).result with
  | none =>
    rw [Scene.followedBy_of_none hresult, Scene.followedBy_of_none hresult]
    apply Draft.Covering.of_no_pictures
    · rw [Draft.outcome, Scene.map_event_sights, hpictures]
    · rw [Draft.outcome, Scene.map_event_sights]
      exact hsilent
  | some (.error reason) =>
    rw [Scene.followedBy_of_some hresult, Scene.followedBy_of_some hresult]
    exact (Draft.Covering.of_no_pictures rfl (by simp [Draft.outcome])).behind hpictures hsilent _
  | some (.ok s) =>
    rw [Scene.followedBy_of_some hresult, Scene.followedBy_of_some hresult]
    exact (State.covering_draft (card_of_openingCourse hresult) fs).behind hpictures hsilent _

/-- In the frames that a run comes to, the card is there once an update has failed. -/
theorem card_of_trail {i : Nat} {s : State} (hs : (trail v o start opens fs)[i]? = some s) :
    s.card = (fs.take i).any fun f => f.failure.isSome := by
  obtain ⟨s₀, hopen⟩ := exists_opening_of_trail hs
  obtain ⟨p, now, -, -, rfl⟩ := opening_of_ok hopen
  have htrail : trail v o start opens fs = (State.initial p now start).trail v o fs := by
    rw [trail, hopen]
  rw [htrail] at hs
  induction i generalizing s with
  | zero =>
    rw [← State.trail_zero hs]
    rfl
  | succ i ih =>
    obtain ⟨r, f, hr, hf, hframe⟩ := State.exists_frame_of_trail hs
    obtain ⟨reading, -, -, hnext⟩ := State.frame_of_result hframe
    have hcard : s.card = (r.card || f.failure.isSome) := by
      rw [hnext]
      exact State.card_next
    rw [hcard, ih hr, List.take_add_one, hf]
    simp

/-- A picture is drawn from the key held and from the registers of its frame, until one of the
frames before has failed; it is the card then. -/
theorem picture_of_run {args : List String} {i : Nat} {pixels : List Color}
    (hargs : Options.ofArguments args = .ok o)
    (h : (pictures (run v args start opens fs).events)[i]? = some pixels) :
    ∃ s f now, (trail v o start opens fs)[i]? = some s ∧ fs[i]? = some f ∧
      reading? s.time = some now ∧
      let devices := (s.work v o f now).val.devices
      pixels = if (fs.take i).any fun f => f.failure.isSome then Picture.errorCard
        else Picture.draw Picture.blank devices.keypad.keypad.held devices.delay.value
          devices.sound.isActive := by
  obtain ⟨s, f, hs, hf, hpicture⟩ := exists_trail_of_picture hargs h
  obtain ⟨now, hnow, rfl⟩ := State.exists_reading_of_picture hpicture
  refine ⟨s, f, now, hs, hf, hnow, ?_⟩
  rw [← card_of_trail hs, ← State.card_work v o s f now]
  rfl

/-- What failing updates do to a run, `x`, that is `healthy` without them. -/
structure Covered (v : Verbosity) (fs : List Frame) (healthy x : Outcome) : Prop where
  exit : x.exit = healthy.exit
  frames : (pictures x.events).length = (pictures healthy.events).length
  /-- Without failures there is no record of a fault, and none of the card. -/
  silent : ∀ e ∈ healthy.events, e.tellsOfFault = false
  /-- Nothing is different if no frame that is shown fails. -/
  untouched : (∀ f ∈ fs.take (pictures healthy.events).length, f.failure = none) → x = healthy
  /-- Behind the picture of the first one that fails, the fault is reported and the card is
  announced; the card covers all later pictures, and nothing else is different. -/
  covered : ∀ i why, i < (pictures healthy.events).length →
    fs[i]?.bind Frame.failure = some why → (∀ f ∈ fs.take i, f.failure = none) →
    ∃ before pixels rest, healthy.events = before ++ .frame pixels :: rest ∧
      (pictures before).length = i ∧
      x.events = before ++ .frame pixels :: (cardEvents v why ++ rest.map Event.covered)

/-- **The card is brought up once, and disturbs nothing else.**  A run and the same run without
failures show the same, but for the report of the first failure and the pictures behind it; each of
them goes on to its end as long as every record can be stamped.  A picture is drawn from the devices
until an update has failed, and then it is the card. -/
theorem run_covered {args : List String} (hargs : Options.ofArguments args = .ok o) :
    let fine := fs.map Frame.healthy
    let whole := draft v args start opens fs
    let healthy := draft v args start opens fine
    Covered v fs healthy.outcome whole.outcome ∧
      whole.Gives (run v args start opens fs) ∧ healthy.Gives (run v args start opens fine) ∧
      (whole.Datable → healthy.Datable) ∧
      Picture.errorCard = List.replicate 2048 0xff0000 ∧
      ∀ i pixels, (pictures (run v args start opens fs).events)[i]? = some pixels →
        ∃ s f now, (trail v o start opens fs)[i]? = some s ∧ fs[i]? = some f ∧
          reading? s.time = some now ∧
          let devices := (s.work v o f now).val.devices
          pixels = if (fs.take i).any fun f => f.failure.isSome then Picture.errorCard
            else Picture.draw Picture.blank devices.keypad.keypad.held devices.delay.value
              devices.sound.isActive := by
  intro fine whole healthy
  have hcovering : Draft.Covering v fs healthy whole := by
    simp only [healthy, whole, draft, hargs]
    exact covering_draftWith v o start opens fs
  have hcovered : Covered v fs healthy.outcome whole.outcome :=
    { exit := hcovering.exit
      frames := hcovering.length_pictures
      silent := hcovering.silent
      untouched := fun hok => congrArg Draft.outcome (hcovering.untouched hok)
      covered := fun i why hi hfails hok => (hcovering.covered i why hi hfails hok).events }
  refine ⟨hcovered, gives_run v args start opens fs, gives_run v args start opens fine,
    hcovering.datable, rfl, fun i pixels h => picture_of_run hargs h⟩

/-- Two updates fail.  The first one is reported behind its picture, and the later key is told of
although the card covers its picture. -/
theorem run_covered_twice :
    let fs : List Frame :=
      [{ keys := some ["Q"] }, { keys := some [], failure := some "full" },
        { keys := some ["W"], failure := some "lost" }]
    let healthy := (run (.upTo .info) [] 0 true (fs.map Frame.healthy)).events
    let events := (run (.upTo .info) [] 0 true fs).events
    (∃ before pixels rest, healthy = before ++ .frame pixels :: rest ∧
      (pictures before).length = 1 ∧
      events = before ++ .frame pixels :: (cardEvents (.upTo .info) "full" ++
        rest.map Event.covered)) ∧
      events.countP Event.tellsOfFault = 2 ∧ .record (.keyChanged (some ⟨5⟩)) ∈ events := by
  intro fs healthy events
  obtain ⟨hcovered, hwhole, hhealthy, hdatable, -⟩ :=
    @run_covered (.upTo .info) {} 0 true fs [] rfl
  have hstamps : (draft (.upTo .info) [] 0 true fs).Datable := by decide +kernel
  simp only [healthy, events]
  rw [hwhole.whole hstamps, hhealthy.whole (hdatable hstamps)]
  exact ⟨hcovered.covered 1 "full" (by decide +kernel) rfl (by decide), by decide +kernel,
    by decide +kernel⟩

/-- The second frame is shown at a time that has no stamp, and its update fails: the demo crashes on
the report, which is not seen.  Without the failure the run comes to its end. -/
theorem report_missing_without_stamp :
    let fs : List Frame := [{ keys := some [] }, { keys := some [], failure := some "x" }]
    let start : Int := 253402207200999999
    let healthy := run (.upTo .info) [] start true (fs.map Frame.healthy)
    let outcome := run (.upTo .info) [] start true fs
    (pictures outcome.events).length = 2 ∧ outcome.events.countP Event.tellsOfFault = 0 ∧
      outcome.exit = .crash ∧ healthy.exit = .success := by
  decide +kernel

end Run

end HostDevices.Demo
