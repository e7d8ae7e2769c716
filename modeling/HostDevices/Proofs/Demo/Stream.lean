import HostDevices.Proofs.Demo.Latch
import HostDevices.Proofs.Keypad.Chronicle
import HostDevices.Proofs.Keypad.History
import HostDevices.Proofs.Session.Notes
import HostDevices.Proofs.Session.Verbosity

/-!
# The key events of a run

What the demo queues from frame to frame tells which keys are held: of every key a press, then a
release, then a press again, and the last one is a press exactly while the key is held.  A frame
cannot queue more than one event for each key, and the poll drains them all, so that the queue never
gets full.

* `KeyEvent.ofCode`, `KeyEvent.ByTurns` — the events of a code; presses and releases by turns.
* `Encodes` — the invariant: events tell of every code by turns, and end with the press of those
  that are held.
* `State.Coupled.encodes` — a frame keeps it, and `encodes_stream` — so does a run.
* `Undropped`, `undropped_run` — no event is ever dropped.
* `stream_of_run` — the whole account.
-/

namespace HostDevices

/-! ## The events of a code -/

namespace KeyEvent

/-- The events of a code, in order. -/
def ofCode (code : String) (es : List KeyEvent) : List KeyEvent := es.filter fun e => e.code = code

/-- Presses and releases by turns, from a press on. -/
def ByTurns (es : List KeyEvent) : Prop :=
  ∀ i e, es[i]? = some e → e.kind = if i % 2 = 0 then .press else .release

theorem ofCode_append (code : String) (es more : List KeyEvent) :
    ofCode code (es ++ more) = ofCode code es ++ ofCode code more := List.filter_append es more

theorem byTurns_nil : ByTurns [] := by
  intro i e he
  simp at he

theorem ByTurns.concat {es : List KeyEvent} (h : ByTurns es) {e : KeyEvent}
    (he : e.kind = if es.length % 2 = 0 then .press else .release) : ByTurns (es ++ [e]) := by
  intro i e' he'
  rcases Nat.lt_trichotomy i es.length with hlt | rfl | hgt
  · rw [List.getElem?_append_left hlt] at he'
    exact h i e' he'
  · obtain rfl : e = e' := by simpa using he'
    exact he
  · rw [List.getElem?_eq_none (by simp; omega)] at he'
    simp at he'

/-- By turns, the last event of a code is a press exactly when there is an odd number of them. -/
theorem ByTurns.last?_eq_press_iff {code : String} {es : List KeyEvent}
    (h : ByTurns (ofCode code es)) :
    last? code es = some (.press code) ↔ (ofCode code es).length % 2 = 1 := by
  change (ofCode code es).getLast? = _ ↔ _
  rw [List.getLast?_eq_getElem?]
  cases hlast : (ofCode code es)[(ofCode code es).length - 1]? with
  | none =>
    have hlength := List.getElem?_eq_none_iff.1 hlast
    simp
    omega
  | some e =>
    obtain ⟨hlt, -⟩ := List.getElem?_eq_some_iff.1 hlast
    obtain ⟨kind, c⟩ := e
    have hkind : kind = if ((ofCode code es).length - 1) % 2 = 0 then .press else .release :=
      h _ _ hlast
    obtain rfl : c = code := by
      have hmem := (List.mem_filter.1 (List.mem_of_getElem? hlast)).2
      simpa using hmem
    rw [hkind]
    by_cases hodd : (ofCode c es).length % 2 = 1
    · have heven : ((ofCode c es).length - 1) % 2 = 0 := by omega
      simp [press, hodd, heven]
    · have heven : ¬ ((ofCode c es).length - 1) % 2 = 0 := by omega
      simp [press, hodd, heven]

/-- One event for each of some codes, none of which is there twice. -/
theorem ofCode_map {make : String → KeyEvent} (hmake : ∀ c, (make c).code = c) (code : String)
    {codes : List String} (h : codes.Nodup) :
    ofCode code (codes.map make) = if code ∈ codes then [make code] else [] := by
  have hfilter : (fun e : KeyEvent => decide (e.code = code)) ∘ make = fun c => decide (c = code) := by
    funext c
    simp [hmake]
  rw [ofCode, List.filter_map, hfilter, List.filter_eq, List.Nodup.count h]
  by_cases hmem : code ∈ codes <;> simp [hmem]

end KeyEvent

/-! ## The records of a keypad -/

/-- The record tells of an event that was dropped. -/
def Record.tellsOfDrop : Record → Bool
  | eventDropped _ => true
  | _ => false

/-- The records of timers and registers tell nothing of dropped events. -/
theorem Record.not_tellsOfDrop_of_concernsRegister (r : Record) (h : r.concernsRegister = true) :
    (!r.tellsOfDrop) = true := by
  cases r with
  | eventDropped event => simp [concernsRegister] at h
  | _ => rfl

/-- Nor do those of a keypad that handles events, whatever is kept of them. -/
theorem Keypad.notes_handleAll_undropped (v : Verbosity) (pad : Keypad) (es : List KeyEvent) :
    (pad.handleAll v es).Notes fun r => !r.tellsOfDrop := by
  have hall : (pad.handleAll .all es).Notes fun r => !r.tellsOfDrop := by
    induction es generalizing pad with
    | nil => exact Logged.notes_pure _ pad
    | cons e rest ih =>
      rw [handleAll_cons]
      refine Logged.Notes.bind ?_ fun next => ih next
      have hturn := turn pad e
      generalize pad.handle .all e = out at hturn
      cases hturn <;> simp [Logged.Notes, Record.tellsOfDrop]
  rw [← cut_handleAll]
  exact fun r hr => hall r (List.mem_of_mem_filter hr)

namespace Demo

open KeyEvent Logged

/-! ## One frame -/

/-- Events tell of every code by turns, and end with the press of those that are held. -/
structure Encodes (held : List String) (es : List KeyEvent) : Prop where
  turns : ∀ code, ByTurns (ofCode code es)
  odd : ∀ code, (ofCode code es).length % 2 = 1 ↔ code ∈ held

/-- What a frame queues of a code. -/
theorem State.Coupled.ofCode_queued {s : State} (h : s.Coupled) {f : Frame}
    (hescape : Window.escape ∉ f.codes) (code : String) :
    ofCode code (s.queued f) =
      if code ∈ s.held then (if code ∈ f.codes then [] else [.release code])
      else if code ∈ f.codes then [.press code] else [] := by
  rw [queued_eq s hescape, ofCode_append, ofCode_map (fun _ => rfl) _ (f.nodup_released h.known),
    ofCode_map (fun _ => rfl) _ (Frame.nodup_pressed hescape s.held)]
  by_cases hbefore : code ∈ s.held <;> by_cases hnow : code ∈ f.codes <;>
    simp [Frame.mem_released, Frame.mem_pressed, hbefore, hnow]

/-- What a frame queues of a code is the next turn of that code, if it is anything. -/
theorem State.Coupled.turns_queued {s : State} (h : s.Coupled) {f : Frame}
    (hescape : Window.escape ∉ f.codes) {before : List KeyEvent} (hbefore : Encodes s.held before)
    (code : String) :
    ByTurns (ofCode code (before ++ s.queued f)) ∧
      ((ofCode code (before ++ s.queued f)).length % 2 = 1 ↔ code ∈ f.codes) := by
  have hturns := hbefore.turns code
  have hodd := hbefore.odd code
  rw [ofCode_append, h.ofCode_queued hescape]
  by_cases hheld : code ∈ s.held <;> by_cases hnow : code ∈ f.codes
  · simpa [hheld, hnow] using And.intro hturns hodd
  · -- the key goes up
    have hlength := hodd.2 hheld
    rw [if_pos hheld, if_neg hnow, List.length_append, List.length_singleton]
    refine ⟨hturns.concat ?_, iff_of_false (by omega) hnow⟩
    rw [hlength]
    rfl
  · -- the key goes down
    have hlength : (ofCode code before).length % 2 = 0 :=
      Nat.mod_two_ne_one.1 fun hone => hheld (hodd.1 hone)
    rw [if_neg hheld, if_pos hnow, List.length_append, List.length_singleton]
    refine ⟨hturns.concat ?_, iff_of_true (by omega) hnow⟩
    rw [hlength]
    rfl
  · simpa [hheld, hnow] using And.intro hturns hodd

/-- A frame goes on telling of every code by turns. -/
theorem State.Coupled.encodes {s : State} (h : s.Coupled) {before : List KeyEvent}
    (hbefore : Encodes s.held before) (f : Frame) :
    Encodes (if Window.escape ∈ f.codes then s.held else f.codes) (before ++ s.queued f) := by
  by_cases hescape : Window.escape ∈ f.codes
  · have hnone : s.queued f = [] := if_pos hescape
    rw [if_pos hescape, hnone, List.append_nil]
    exact hbefore
  · rw [if_neg hescape]
    have hqueued := h.turns_queued hescape hbefore
    exact ⟨fun code => (hqueued code).1, fun code => (hqueued code).2⟩

/-- The last event of a code is a press exactly while the code is held. -/
theorem Encodes.last?_eq_press_iff {held : List String} {es : List KeyEvent} (h : Encodes held es)
    (code : String) : last? code es = some (.press code) ↔ code ∈ held :=
  (h.turns code).last?_eq_press_iff.trans (h.odd code)

/-! ## Frame after frame -/

/-- The events that a run queues in its first `n` frames, in order. -/
def stream (v : Verbosity) (o : Options) (start : Int) (opens : Bool) (fs : List Frame) (n : Nat) :
    List KeyEvent :=
  (((trail v o start opens fs).zip fs).take n).flatMap fun x => x.1.queued x.2

section Run

variable {v : Verbosity} {o : Options} {start : Int} {opens : Bool} {fs : List Frame} {i : Nat}
  {s : State} {f : Frame}

theorem stream_succ (hs : (trail v o start opens fs)[i]? = some s) (hf : fs[i]? = some f) :
    stream v o start opens fs (i + 1) = stream v o start opens fs i ++ s.queued f := by
  have hzip : ((trail v o start opens fs).zip fs)[i]? = some (s, f) :=
    List.getElem?_zip_eq_some.2 ⟨hs, hf⟩
  rw [stream, List.take_add_one, hzip, Option.toList_some, List.flatMap_append,
    List.flatMap_singleton]
  rfl

/-- Before every frame that a run comes to, the events so far tell which codes are remembered. -/
theorem encodes_stream (hs : (trail v o start opens fs)[i]? = some s) :
    Encodes s.held (stream v o start opens fs i) := by
  obtain ⟨s₀, hopen⟩ := exists_opening_of_trail hs
  have htrail : trail v o start opens fs = s₀.trail v o fs := by rw [trail, hopen]
  rw [(coupled_of_trail hs).2.1]
  induction i generalizing s with
  | zero => exact ⟨fun _ => byTurns_nil, fun code => by simp [stream, ofCode, remembered]⟩
  | succ i ih =>
    rw [htrail] at hs
    obtain ⟨r, f, hr, hf, -⟩ := State.exists_frame_of_trail hs
    rw [← htrail] at hr
    obtain ⟨hcoupled, hheld, -⟩ := coupled_of_trail hr
    have hbefore := ih hr
    rw [← hheld] at hbefore
    rw [stream_succ hr hf, remembered_succ hf, ← hheld]
    exact hcoupled.encodes hbefore f

end Run

/-! ## No event is dropped -/

/-- Nothing tells of an event that was dropped. -/
def Undropped (events : List Event) : Prop := ∀ e, Event.record (.eventDropped e) ∉ events

namespace Undropped

variable {events more : List Event}

theorem append (h : Undropped events) (hmore : Undropped more) : Undropped (events ++ more) := by
  intro e he
  rcases List.mem_append.1 he with hfirst | hthen
  · exact h e hfirst
  · exact hmore e hthen

theorem of_subset (h : Undropped events) (hsub : more ⊆ events) : Undropped more :=
  fun e he => h e (hsub he)

theorem of_seen {α : Type} {x : Logged α} (h : x.Notes fun r => !r.tellsOfDrop) :
    Undropped (seen x) := by
  intro e he
  obtain ⟨r, hr, hrecord⟩ := List.mem_map.1 he
  obtain rfl : r = .eventDropped e := by simpa using hrecord
  exact absurd (h _ hr) Bool.false_ne_true

end Undropped

namespace State

variable {s : State} (v : Verbosity) (o : Options) (f : Frame)

/-- Queueing and draining the changes of a frame drops none. -/
theorem Coupled.notes_synced (h : s.Coupled) :
    (s.takeKeys v f >>= sync v).Notes fun r => !r.tellsOfDrop := by
  rw [h.takeKeys v f, pure_bind]
  refine Notes.bind ?_ fun _ => notes_pure _ _
  refine Notes.bind ?_ fun _ => notes_pure _ _
  exact (Keypad.notes_handleAll_undropped v _ _).bind fun _ => notes_pure _ _

theorem undropped_present (s : State) : Undropped (s.present v f).1 := by
  unfold present
  split
  · unfold Fault.report
    split <;> simp [Undropped, actSeen, seen]
  · simp [Undropped]

theorem Coupled.undropped_course (h : s.Coupled) : Undropped (s.course v o f).events := by
  have hsynced := Undropped.of_seen (h.notes_synced v f)
  cases hnow : reading? s.time with
  | none =>
    simp only [course, hnow]
    exact hsynced
  | some now =>
    simp only [course, hnow]
    refine (hsynced.append (.of_seen ?_)).append (undropped_present v f _)
    exact notes_serve Record.not_tellsOfDrop_of_concernsRegister (fun _ => rfl) v o _ now

theorem Coupled.undropped_frames (h : s.Coupled) (fs : List Frame) :
    Undropped (s.frames v o fs).1 := by
  induction fs generalizing s with
  | nil => simp [Undropped, frames]
  | cons f rest ih =>
    have hframe : Undropped (s.frame v o f).events :=
      (h.undropped_course v o f).of_subset (Scene.events_stamped_prefix _ _).subset
    rw [frames_cons]
    cases hresult : (s.frame v o f).result with
    | none => exact hframe
    | some t =>
      obtain ⟨now, -, -, rfl⟩ := frame_of_result hresult
      dsimp only
      split
      · exact hframe
      · exact hframe.append (ih (h.pass v o f now).1)

end State

theorem undropped_openingCourse (v : Verbosity) (o : Options) (start : Int) (opens : Bool) :
    Undropped (openingCourse v o start opens).events := by
  have hprepared : (Devices.prepare v o.config).Notes fun r => !r.tellsOfDrop :=
    notes_note_bind_pure v rfl _
  simp only [openingCourse]
  split
  · exact (Undropped.of_seen hprepared).append (.of_seen (notes_note v rfl))
  · split
    · exact .of_seen hprepared
    · exact (Undropped.of_seen hprepared).append (by simp [Undropped])

theorem undropped_runWith (v : Verbosity) (o : Options) (start : Int) (opens : Bool)
    (fs : List Frame) : Undropped (runWith v o start opens fs).events := by
  have hopening : Undropped (opening v o start opens).events :=
    (undropped_openingCourse v o start opens).of_subset (Scene.events_stamped_prefix _ _).subset
  have hcoupled : ∀ s, (opening v o start opens).result = some (.ok s) → s.Coupled := by
    intro s hs
    obtain ⟨p, now, -, -, rfl⟩ := opening_of_ok hs
    exact .initial p now start
  unfold runWith
  generalize opening v o start opens = opened at hopening hcoupled
  obtain ⟨events, result⟩ := opened
  rcases result with _ | reason | s
  · exact hopening
  · exact hopening
  · exact hopening.append ((hcoupled s rfl).undropped_frames v o fs)

/-- No run ever tells of an event that was dropped. -/
theorem undropped_run (v : Verbosity) (args : List String) (start : Int) (opens : Bool)
    (fs : List Frame) : Undropped (run v args start opens fs).events := by
  unfold run
  split
  · simp [Undropped]
  · exact undropped_runWith v _ start opens fs

/-! ## The whole account -/

/-- What a frame queues, behind the events `before` that the run has queued so far. -/
structure State.Streams (v : Verbosity) (s : State) (f : Frame) (before : List KeyEvent) : Prop where
  /-- The queue is empty when the frame begins. -/
  empty : s.devices.keypad.source = {}
  /-- All that is pushed is taken, and nothing is noted of it. -/
  taken : (s.takeKeys v f).val.devices.keypad.source.events = s.queued f ∧
    (s.takeKeys v f).log = []
  /-- It is no more than one event for each key. -/
  few : (s.queued f).length ≤ 16
  /-- Of every code there is a press, a release, a press and so on. -/
  turns : ∀ code, ByTurns (ofCode code (before ++ s.queued f))
  /-- Unless Escape is held, the last event of a code is a press exactly when the code is one of the
  keypad and of a name that the frame lists. -/
  held : Window.escape ∉ f.codes → ∀ code,
    last? code (before ++ s.queued f) = some (.press code) ↔
      code ∈ Window.keypadCodes ∧ ∃ name ∈ f.keys.getD [], Window.codeOf? name = some code

theorem streams_of_trail {v : Verbosity} {o : Options} {start : Int} {opens : Bool}
    {fs : List Frame} {i : Nat} {s : State} (hs : (trail v o start opens fs)[i]? = some s)
    (f : Frame) : s.Streams v f (stream v o start opens fs i) := by
  obtain ⟨hcoupled, -⟩ := coupled_of_trail hs
  have hafter := hcoupled.encodes (encodes_stream hs) f
  refine ⟨hcoupled.drained, (hcoupled.transition v f).queue, hcoupled.length_queued_le_sixteen f,
    hafter.turns, ?_⟩
  intro hescape code
  rw [hafter.last?_eq_press_iff, if_neg hescape]
  constructor
  · intro hcode
    exact ⟨(Frame.codes_sublist hescape).subset hcode, Window.mem_heldCodes.1 hcode⟩
  · rintro ⟨-, hname⟩
    exact Window.mem_heldCodes.2 hname

/-- **The key events of a run tell which keys are held.**  In every frame that a run comes to, the
queue is empty at first and takes all that is pushed.  Of every key the run queues a press, a
release, a press and so on, and after a frame without Escape the last of them is a press exactly for
the keys that the frame lists, in whatever order the codes of a frame are visited.  No event is
ever dropped. -/
theorem stream_of_run (v : Verbosity) (args : List String) (start : Int) (opens : Bool)
    (fs : List Frame) :
    Undropped (run v args start opens fs).events ∧
      ∀ o, Options.ofArguments args = .ok o →
        ∀ i s f, (trail v o start opens fs)[i]? = some s → fs[i]? = some f →
          s.Streams v f (stream v o start opens fs i) ∧
            stream v o start opens fs (i + 1) = stream v o start opens fs i ++ s.queued f :=
  ⟨undropped_run v args start opens fs, fun _ _ _ _ f hs hf =>
    ⟨streams_of_trail hs f, stream_succ hs hf⟩⟩

/-- A key goes down, the window then tells of no keys, the key goes down again, and the last frame
holds Escape and another key. -/
theorem stream_of_run_escaped :
    let fs : List Frame := [{ keys := some ["Q", "F1", "Q"] }, { keys := none },
      { keys := some ["Q"] }, { keys := some ["W", "Escape"] }]
    let upTo := stream .all {} 0 true fs
    (trail .all {} 0 true fs).length = 4 ∧ last? "KeyQ" (upTo 1) = some (.press "KeyQ") ∧
      (∀ code, last? code (upTo 2) ≠ some (.press code)) ∧ upTo 4 = upTo 3 := by
  intro fs upTo
  have hlength : (trail .all {} 0 true fs).length = 4 := by decide +kernel
  have hframes := (stream_of_run .all [] 0 true fs).2 {} rfl
  have hs (i : Nat) (hi : i < 4) := List.getElem?_eq_getElem (hlength ▸ hi)
  obtain ⟨hfirst, hone⟩ := hframes 0 _ _ (hs 0 (by decide)) rfl
  obtain ⟨hsecond, htwo⟩ := hframes 1 _ _ (hs 1 (by decide)) rfl
  obtain ⟨-, hfour⟩ := hframes 3 _ _ (hs 3 (by decide)) rfl
  refine ⟨hlength, ?_, ?_, ?_⟩
  · change last? "KeyQ" (stream .all {} 0 true fs 1) = _
    rw [hone, hfirst.held (by decide)]
    exact ⟨by decide, "Q", by simp, by decide⟩
  · intro code
    change last? code (stream .all {} 0 true fs 2) ≠ _
    rw [htwo, ne_eq, hsecond.held (by decide)]
    simp
  · change stream .all {} 0 true fs 4 = _
    rw [hfour, State.queued, if_pos (by decide), List.append_nil]

end Demo

end HostDevices
