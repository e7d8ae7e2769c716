import HostDevices.Proofs.Demo.Timeline
import HostDevices.Proofs.Keypad.Strokes
import Mathlib.Data.List.Perm.Subperm
import Mathlib.Data.Option.Basic

/-!
# What a frame makes of the latch

The demo compares the codes held with those of the frame before, and tells the keypad of the
differences: the codes that went up and then those that went down, each in an order that nobody
knows.  What becomes of the latch depends on this order in one case only, when it is open and
several keys went down at once.

* `Frame.keyAfter` — the key that a frame leaves in the latch.
* `State.queued`, `State.taken` — the events that a frame queues, and the presses that are taken.
* `State.Coupled` — the invariant: the queue is empty, and the key held is among the codes that the
  demo remembers.
* `State.Coupled.length_queued_le_sixteen` — no frame queues more events than there are keys.
* `State.Transition`, `State.Coupled.transition` — what a frame does to latch, queue and memory.
* `State.Coupled.pass`, `coupled_of_trail` — the invariant from frame to frame.
* `transition_of_trail` — the transition in every frame of a run; both registers are loaded whenever
  a press is taken.
-/

namespace HostDevices.Demo

/-! ## The codes of a frame -/

namespace Window

/-- The codes of the keys that the demo knows, without the one that ends it. -/
def keypadCodes : List String := (keyNames.map Prod.snd).filter (· ≠ escape)

theorem isSome_ofCode?_of_mem_keypadCodes : ∀ code ∈ keypadCodes, (Key.ofCode? code).isSome := by
  decide

theorem nodup_keypadCodes : keypadCodes.Nodup := by decide

theorem length_keypadCodes : keypadCodes.length = 16 := by decide

/-- Names with the same codes have the same list of codes. -/
theorem heldCodes_ext {names others : List String}
    (h : ∀ code, code ∈ heldCodes names ↔ code ∈ heldCodes others) :
    heldCodes names = heldCodes others := by
  unfold heldCodes at *
  apply List.filter_congr
  intro code hcode
  rw [Bool.eq_iff_iff]
  simpa [hcode] using h code

/-- There is one order only in which at most one code can be visited. -/
theorem Order.arrange_eq (order : Order) {codes : List String} (h : codes.length ≤ 1) :
    order.arrange codes = codes := by
  have hperm := order.perm codes
  rcases codes with _ | ⟨code, rest⟩
  · exact List.perm_nil.1 hperm
  · obtain rfl : rest = [] := List.length_eq_zero_iff.1 (by simpa using h)
    exact List.perm_singleton.1 hperm

end Window

namespace Frame

/-- The codes that are held no more, in the order in which their releases are queued. -/
def released (f : Frame) (held : List String) : List String :=
  f.releaseOrder.arrange (held.filter (· ∉ f.codes))

/-- The codes that are newly held, in the order in which their presses are queued. -/
def pressed (f : Frame) (held : List String) : List String :=
  f.pressOrder.arrange (f.codes.filter (· ∉ held))

/-- The key that a frame leaves in the latch, where `held` are the codes that were held before.
With Escape it stays.  Otherwise it stays as long as its own code is held, and then the key that
was pressed first takes its place. -/
def keyAfter (f : Frame) (held : List String) (before : Option Key) : Option Key :=
  if Window.escape ∈ f.codes then before
  else (before.filter fun k => k.code ∈ f.codes) <|> (f.pressed held).head?.bind Key.ofCode?

variable {f : Frame} {held : List String} {code : String}

theorem changes_eq (f : Frame) (held : List String) :
    Window.changes f.releaseOrder f.pressOrder held f.codes =
      (f.released held).map .release ++ (f.pressed held).map .press := rfl

theorem mem_released : code ∈ f.released held ↔ code ∈ held ∧ code ∉ f.codes := by
  rw [released, (f.releaseOrder.perm _).mem_iff]
  simp

theorem mem_pressed : code ∈ f.pressed held ↔ code ∈ f.codes ∧ code ∉ held := by
  rw [pressed, (f.pressOrder.perm _).mem_iff]
  simp

/-- Without Escape, the codes of a frame are codes of the keypad. -/
theorem codes_sublist (h : Window.escape ∉ f.codes) : f.codes.Sublist Window.keypadCodes := by
  have hall : f.codes.filter (· ≠ Window.escape) = f.codes := by
    rw [List.filter_eq_self]
    intro code hcode
    exact decide_eq_true fun heq => h (heq ▸ hcode)
  rw [← hall]
  exact List.filter_sublist.filter _

/-- Without Escape, every code that is newly held has a key. -/
theorem isSome_ofCode?_of_mem_pressed (h : Window.escape ∉ f.codes) (held : List String) :
    ∀ code ∈ f.pressed held, (Key.ofCode? code).isSome := by
  intro code hcode
  apply Window.isSome_ofCode?_of_mem_keypadCodes
  exact (codes_sublist h).subset (mem_pressed.1 hcode).1

theorem nodup_released (f : Frame) (h : held.Sublist Window.keypadCodes) :
    (f.released held).Nodup := by
  rw [released, (f.releaseOrder.perm _).nodup_iff]
  exact (Window.nodup_keypadCodes.sublist h).filter _

theorem nodup_pressed (hescape : Window.escape ∉ f.codes) (held : List String) :
    (f.pressed held).Nodup := by
  rw [pressed, (f.pressOrder.perm _).nodup_iff]
  exact (Window.nodup_keypadCodes.sublist (codes_sublist hescape)).filter _

/-- A code that goes up in a frame does not go down in it, so that all of them together are no more
than the keypad has. -/
theorem length_changes_le (hescape : Window.escape ∉ f.codes)
    (h : held.Sublist Window.keypadCodes) :
    (f.released held ++ f.pressed held).length ≤ 16 := by
  have hnodup : (f.released held ++ f.pressed held).Nodup := by
    refine List.nodup_append.2 ⟨f.nodup_released h, nodup_pressed hescape held, ?_⟩
    rintro code hreleased _ hpressed rfl
    exact (mem_released.1 hreleased).2 (mem_pressed.1 hpressed).1
  have hsub : f.released held ++ f.pressed held ⊆ Window.keypadCodes := by
    intro code hcode
    rcases List.mem_append.1 hcode with hreleased | hpressed
    · exact h.subset (mem_released.1 hreleased).1
    · exact (codes_sublist hescape).subset (mem_pressed.1 hpressed).1
  rw [← Window.length_keypadCodes]
  exact (hnodup.subperm hsub).length_le

/-- The key that a frame leaves in the latch is one whose code is held in the frame. -/
theorem code_mem_of_keyAfter {before : Option Key} {k : Key} (h : Window.escape ∉ f.codes)
    (hk : f.keyAfter held before = some k) : k.code ∈ f.codes := by
  rw [keyAfter, if_neg h, Option.orElse_eq_some] at hk
  rcases hk with hstays | ⟨-, hfirst⟩
  · simpa using (Option.filter_eq_some_iff.1 hstays).2
  · obtain ⟨code, hhead, hcode⟩ := Option.bind_eq_some_iff.1 hfirst
    rw [Key.code_of_ofCode? hcode]
    exact (mem_pressed.1 (List.mem_of_mem_head? hhead)).1

/-- The key held stays as long as its code is held. -/
theorem keyAfter_of_mem {k : Key} (hk : k.code ∈ f.codes) :
    f.keyAfter held (some k) = some k := by
  by_cases hescape : Window.escape ∈ f.codes <;> simp [keyAfter, Option.filter, hk, hescape]

/-- The orders do not matter if the key stays or if at most one code is newly held. -/
theorem keyAfter_reordered {g : Frame} {before : Option Key} (hcodes : g.codes = f.codes)
    (hone : (∃ k, before = some k ∧ k.code ∈ f.codes) ∨
      (f.codes.filter (· ∉ held)).length ≤ 1) :
    g.keyAfter held before = f.keyAfter held before := by
  rcases hone with ⟨k, rfl, hk⟩ | hone
  · rw [keyAfter_of_mem hk, keyAfter_of_mem (hcodes ▸ hk)]
  · have hpressed : g.pressed held = f.pressed held := by
      simp only [pressed, hcodes, Window.Order.arrange_eq _ hone]
    simp only [keyAfter, hcodes, hpressed]

end Frame

namespace State

/-- The events that a frame queues: none with Escape held, otherwise the releases and then the
presses. -/
def queued (s : State) (f : Frame) : List KeyEvent :=
  if Window.escape ∈ f.codes then []
  else (f.released s.held).map .release ++ (f.pressed s.held).map .press

/-- The presses of a frame that are taken, by their keys. -/
def taken (v : Verbosity) (s : State) (f : Frame) : List Key :=
  s.devices.keypad.keypad.taken v (s.queued f)

/-- The demo between two frames: nothing is left in the queue, the latch is the one that the demo
compares with, its key is among the codes that were held, and these are codes of the keypad. -/
structure Coupled (s : State) : Prop where
  drained : s.devices.keypad.source = {}
  key : s.key = s.devices.keypad.keypad.held
  latched : ∀ k, s.devices.keypad.keypad.held = some k → k.code ∈ s.held
  known : s.held.Sublist Window.keypadCodes

/-- What a frame does to queue, latch and memory. -/
structure Transition (v : Verbosity) (s : State) (f : Frame) : Prop where
  /-- The codes of the frame are those of the names that it lists. -/
  codes : ∀ code, code ∈ f.codes ↔ ∃ name ∈ f.keys.getD [], Window.codeOf? name = some code
  /-- Nothing else about the names matters. -/
  names : ∀ g : Frame, (∀ code, code ∈ g.codes ↔ code ∈ f.codes) → g.codes = f.codes
  /-- Nothing is queued with Escape held.  Otherwise all changes are, and none is dropped. -/
  queue : (s.takeKeys v f).val.devices.keypad.source.events = s.queued f ∧
    (s.takeKeys v f).log = []
  /-- The latch after the poll. -/
  latch : s.latch v f = f.keyAfter s.held s.devices.keypad.keypad.held
  /-- Its key is among the codes remembered for the next frame. -/
  within : ∀ k, s.latch v f = some k → k.code ∈ (s.takeKeys v f).val.held
  /-- The first press queued is that of a key that is newly held. -/
  first : Window.escape ∉ f.codes → ∀ code, (f.pressed s.held).head? = some code →
    (code ∈ f.codes ∧ code ∉ s.held) ∧ (Key.ofCode? code).isSome
  /-- The orders do not matter if the key stays or if at most one key is newly held. -/
  orders : (∃ k, s.devices.keypad.keypad.held = some k ∧ k.code ∈ f.codes) ∨
      (f.codes.filter (· ∉ s.held)).length ≤ 1 →
    ∀ releaseOrder pressOrder, s.latch v { f with releaseOrder, pressOrder } = s.latch v f
  /-- No more than one press is taken. -/
  once : (s.taken v f).length ≤ 1
  /-- When one is taken, another key is held than before. -/
  changed : s.taken v f ≠ [] →
    s.latch v f ≠ s.devices.keypad.keypad.held ∧ s.latch v f ≠ none

namespace Coupled

variable {s : State} {f : Frame}

/-! ## The queue -/

/-- Without Escape, the events of a frame are its releases and then its presses. -/
theorem queued_eq (s : State) (h : Window.escape ∉ f.codes) :
    s.queued f = (f.released s.held).map .release ++ (f.pressed s.held).map .press :=
  if_neg h

/-- A frame queues no more events than the keypad has keys. -/
theorem length_queued_le_sixteen (h : s.Coupled) (f : Frame) : (s.queued f).length ≤ 16 := by
  by_cases hescape : Window.escape ∈ f.codes
  · simp [queued, hescape]
  · rw [queued_eq s hescape, List.length_append, List.length_map, List.length_map,
      ← List.length_append]
    exact Frame.length_changes_le hescape h.known

/-- The changes of a frame fit into the queue. -/
theorem length_queued_le (h : s.Coupled) (f : Frame) :
    (s.queued f).length ≤ EventQueue.capacity :=
  Nat.le_trans (h.length_queued_le_sixteen f) (by decide)

/-- Queueing the changes of a frame notes nothing and puts all of them into the queue. -/
theorem takeKeys (h : s.Coupled) (v : Verbosity) (f : Frame) :
    s.takeKeys v f = pure
      { s with
        devices :=
          { s.devices with keypad := { s.devices.keypad with source := ⟨s.queued f⟩ } }
        held := if Window.escape ∈ f.codes then s.held else f.codes
        escaped := if Window.escape ∈ f.codes then true else s.escaped } := by
  have hdrained := h.drained
  have hfill := EventQueue.fill_of_le v {} (s.queued f) (by simpa using h.length_queued_le f)
  obtain ⟨⟨⟨pad, queue⟩, delay, sound⟩, held, escaped, card, key, time⟩ := s
  obtain rfl : queue = {} := hdrained
  by_cases hescape : Window.escape ∈ f.codes
  · simp [State.takeKeys, queued, hescape]
  · simp only [queued, hescape, if_false] at hfill
    simp only [State.takeKeys, queued, hescape, if_false]
    rw [f.changes_eq, hfill]
    rfl

/-- The poll drains the queue: the keypad has handled the events of the frame, and nothing is
left. -/
theorem synced (h : s.Coupled) (v : Verbosity) (f : Frame) :
    (s.takeKeys v f >>= sync v).val =
      { s with
        devices :=
          { s.devices with
            keypad := ⟨(s.devices.keypad.keypad.handleAll v (s.queued f)).val, {}⟩ }
        held := if Window.escape ∈ f.codes then s.held else f.codes
        escaped := if Window.escape ∈ f.codes then true else s.escaped } := by
  rw [h.takeKeys v f, pure_bind]
  simp [sync, Devices.sync, Controller.sync, EventQueue.drain_eq]

/-! ## The latch -/

/-- A key whose code is remembered is released exactly when its code is not held any more. -/
theorem filter_released (h : s.Coupled) (f : Frame) :
    (s.devices.keypad.keypad.held.filter fun k => k.code ∉ f.released s.held) =
      s.devices.keypad.keypad.held.filter fun k => k.code ∈ f.codes := by
  have hlatched := h.latched
  cases hheld : s.devices.keypad.keypad.held with
  | none => rfl
  | some k => simp [Option.filter, Frame.mem_released, hlatched k hheld]

/-- The latch after the poll is that of a keypad that handles the events of the frame. -/
theorem latch_eq_handleAll (h : s.Coupled) (v : Verbosity) (f : Frame) :
    s.latch v f = (s.devices.keypad.keypad.handleAll v (s.queued f)).val.held := by
  rw [latch, h.synced]

/-- The latch after the poll, by the codes of the frame. -/
theorem latch_eq (h : s.Coupled) (v : Verbosity) (f : Frame) :
    s.latch v f = f.keyAfter s.held s.devices.keypad.keypad.held := by
  rw [h.latch_eq_handleAll]
  by_cases hescape : Window.escape ∈ f.codes
  · simp [queued, Frame.keyAfter, hescape]
  · have hmapped := Frame.isSome_ofCode?_of_mem_pressed hescape s.held
    rw [queued_eq s hescape, Frame.keyAfter, if_neg hescape, ← h.filter_released f,
      ← Keypad.held_strokes v _ hmapped]

/-- The press that is taken, if any, is the first one, and the key held before has gone up. -/
theorem taken_eq (h : s.Coupled) (v : Verbosity) (hescape : Window.escape ∉ f.codes) :
    s.taken v f =
      if (s.devices.keypad.keypad.held.filter fun k => k.code ∈ f.codes) = none then
        ((f.pressed s.held).head?.bind Key.ofCode?).toList
      else [] := by
  have hmapped := Frame.isSome_ofCode?_of_mem_pressed hescape s.held
  rw [taken, queued_eq s hescape, ← h.filter_released f]
  exact Keypad.taken_strokes v _ hmapped

/-- When a press is taken, the latch has let go of its key, and holds the key of the first press. -/
theorem changed (h : s.Coupled) (v : Verbosity) (htaken : s.taken v f ≠ []) :
    s.latch v f ≠ s.devices.keypad.keypad.held ∧ s.latch v f ≠ none := by
  have hescape : Window.escape ∉ f.codes := by
    intro hescape
    simp [taken, queued, hescape, Keypad.taken] at htaken
  rw [h.taken_eq v hescape] at htaken
  split at htaken
  · rename_i hopen
    obtain ⟨k, hfirst⟩ : ∃ k, (f.pressed s.held).head?.bind Key.ofCode? = some k := by
      rw [← Option.ne_none_iff_exists']
      intro hnone
      simp [hnone] at htaken
    have hlatch : s.latch v f = some k := by
      rw [h.latch_eq, Frame.keyAfter, if_neg hescape, hopen, hfirst]
      rfl
    have hk : k.code ∈ f.codes := by
      apply Frame.code_mem_of_keyAfter hescape
      rw [← h.latch_eq v, hlatch]
    constructor
    · -- the key that was held has been released, so that its code is not held any more
      intro hsame
      rw [← hsame, hlatch] at hopen
      simp [Option.filter, hk] at hopen
    · simp [hlatch]
  · exact absurd rfl htaken

/-- A frame of a demo between two frames makes a transition. -/
theorem transition (h : s.Coupled) (v : Verbosity) (f : Frame) : Transition v s f where
  codes code := Window.mem_heldCodes
  names g hg := Window.heldCodes_ext hg
  queue := by
    rw [h.takeKeys v f]
    exact ⟨rfl, rfl⟩
  latch := h.latch_eq v f
  within k hk := by
    rw [h.latch_eq] at hk
    rw [h.takeKeys v f, Logged.val_pure]
    by_cases hescape : Window.escape ∈ f.codes
    · rw [Frame.keyAfter, if_pos hescape] at hk
      simpa [hescape] using h.latched k hk
    · simpa [hescape] using Frame.code_mem_of_keyAfter hescape hk
  first hescape code hcode := by
    have hmem := List.mem_of_mem_head? hcode
    exact ⟨Frame.mem_pressed.1 hmem, Frame.isSome_ofCode?_of_mem_pressed hescape _ code hmem⟩
  orders hone releaseOrder pressOrder := by
    rw [h.latch_eq, h.latch_eq]
    exact Frame.keyAfter_reordered rfl hone
  once := by
    by_cases hescape : Window.escape ∈ f.codes
    · simp [State.taken, queued, hescape, Keypad.taken]
    · rw [h.taken_eq v hescape]
      split
      · exact Option.length_toList_le
      · exact Nat.zero_le 1
  changed := h.changed v

/-- When a press is taken, both registers are loaded once they have been paid down. -/
theorem loaded (h : s.Coupled) (v : Verbosity) (o : Options) (f : Frame) (now : UInt64)
    (htaken : s.taken v f ≠ []) :
    let served := (s.work v o f now).val
    served.devices.delay = ((s.devices.delay.update v now).val.load v o.delay).val ∧
      served.devices.sound = ((s.devices.sound.update v now).val.load v o.beep).val := by
  have hanew := h.changed v htaken
  rw [h.latch_eq_handleAll, ← h.key] at hanew
  rw [work, Logged.val_bind, h.synced, val_serve]
  exact ⟨if_pos hanew, if_pos hanew⟩

/-! ## From frame to frame -/

/-- A new demo has nothing in its queue, holds no key and remembers none. -/
theorem initial (p : Period) (now : UInt64) (time : Int) : (State.initial p now time).Coupled where
  drained := rfl
  key := rfl
  latched k hk := by simp [State.initial, Devices.start] at hk
  known := List.nil_sublist _

/-- A frame that is worked through leaves the demo coupled.  The codes of the frame are remembered,
unless Escape is among them, and the latch is the one after the poll. -/
theorem pass (h : s.Coupled) (v : Verbosity) (o : Options) (f : Frame) (now : UInt64) :
    let t := ((s.work v o f now).val.present v f).2.pass f
    t.Coupled ∧ t.held = (if Window.escape ∈ f.codes then s.held else f.codes) ∧
      t.devices.keypad.keypad.held = s.latch v f := by
  have hwithin := (h.transition v f).within
  rw [h.takeKeys v f, Logged.val_pure, h.latch_eq_handleAll] at hwithin
  rw [State.present_snd, State.work, Logged.val_bind, h.synced, val_serve, h.latch_eq_handleAll]
  refine ⟨⟨rfl, rfl, hwithin, ?_⟩, rfl, rfl⟩
  by_cases hescape : Window.escape ∈ f.codes
  · simpa [State.pass, hescape] using h.known
  · simpa [State.pass, hescape] using Frame.codes_sublist hescape

end Coupled

end State

/-! ## A whole run -/

/-- The codes that the demo remembers after so many frames: those of the last one without Escape. -/
def remembered (fs : List Frame) (n : Nat) : List String :=
  (((fs.take n).filter fun f => Window.escape ∉ f.codes).getLast?.map Frame.codes).getD []

theorem remembered_succ {fs : List Frame} {n : Nat} {f : Frame} (hf : fs[n]? = some f) :
    remembered fs (n + 1) =
      if Window.escape ∈ f.codes then remembered fs n else f.codes := by
  rw [remembered, List.take_add_one, hf, Option.toList_some, List.filter_append]
  by_cases hescape : Window.escape ∈ f.codes <;> simp [remembered, hescape]

section Run

variable {v : Verbosity} {o : Options} {start : Int} {opens : Bool} {fs : List Frame} {i : Nat}
  {s : State} {f : Frame}

/-- Before every frame that a run comes to, the demo is coupled.  It remembers the codes of the last
frame without Escape, and the latch is the one after the frame before. -/
theorem coupled_of_trail (hs : (trail v o start opens fs)[i]? = some s) :
    s.Coupled ∧ s.held = remembered fs i ∧
      s.devices.keypad.keypad.held = (timeline v o start opens fs).keyBefore i := by
  obtain ⟨s₀, hopen⟩ := exists_opening_of_trail hs
  obtain ⟨p, now, -, -, rfl⟩ := opening_of_ok hopen
  have htrail : trail v o start opens fs = (State.initial p now start).trail v o fs := by
    rw [trail, hopen]
  induction i generalizing s with
  | zero =>
    rw [htrail] at hs
    rw [← State.trail_zero hs]
    exact ⟨.initial p now start, rfl, rfl⟩
  | succ i ih =>
    rw [htrail] at hs
    -- the frame before has been worked through, so that its work leads to this one
    obtain ⟨r, f, hr, hf, hframe⟩ := State.exists_frame_of_trail hs
    rw [← htrail] at hr
    obtain ⟨hcoupled, hheld, -⟩ := ih hr
    obtain ⟨reading, -, -, rfl⟩ := State.frame_of_result hframe
    obtain ⟨hnext, hcodes, hlatch⟩ := hcoupled.pass v o f reading
    refine ⟨hnext, ?_, ?_⟩
    · rw [hcodes, hheld, remembered_succ hf]
    · rw [hlatch]
      exact (keyAt_eq hr hf).symm

/-- **What a frame makes of the latch.**  In every frame that a run comes to, the latch makes a
transition, from the key of the frame before and the codes of the last frame without Escape.  When a
press is taken, both registers are loaded and the picture of the frame is drawn from them, unless a
record is due before the picture at a time that has no stamp; the demo then crashes. -/
theorem transition_of_trail {args : List String} (hargs : Options.ofArguments args = .ok o)
    (hs : (trail v o start opens fs)[i]? = some s) (hf : fs[i]? = some f) :
    let outcome := run v args start opens fs
    s.held = remembered fs i ∧
      s.devices.keypad.keypad.held = (timeline v o start opens fs).keyBefore i ∧
      s.Transition v f ∧
      ∀ now, reading? s.time = some now → s.taken v f ≠ [] →
        (Stampable s.time ∨ s.noted v o f = [] →
          let served := (s.work v o f now).val
          served.devices.delay = ((s.devices.delay.update v now).val.load v o.delay).val ∧
            served.devices.sound = ((s.devices.sound.update v now).val.load v o.beep).val ∧
            (pictures outcome.events)[i]? = some served.picture) ∧
        (¬ Stampable s.time → s.noted v o f ≠ [] →
          (s.frame v o f).result = none ∧ outcome.exit = .crash) := by
  intro outcome
  obtain ⟨hcoupled, hheld, hbefore⟩ := coupled_of_trail hs
  refine ⟨hheld, hbefore, hcoupled.transition v f, ?_⟩
  intro now hnow htaken
  have hnoted : s.noted v o f = (s.work v o f now).log := by rw [State.noted, hnow]
  rw [hnoted]
  constructor
  · intro hstamp served
    obtain ⟨hdelay, hsound⟩ := hcoupled.loaded v o f now htaken
    refine ⟨hdelay, hsound, ?_⟩
    rw [getElem?_pictures_run hargs hs hf, State.pictures_frame hnow hstamp]
    rfl
  · intro hstamp hlog
    obtain ⟨-, hcrash⟩ := State.frame_of_unstamped hnow hstamp hlog
    exact ⟨hcrash, exit_run_of_crash hargs hs hf hcrash⟩

/-- The key held goes up in the second frame, and two keys go down.  The one whose press is queued
first is taken, and the picture is drawn from registers that have just been loaded. -/
theorem transition_of_trail_reversed :
    let reversed : Window.Order := ⟨List.reverse, fun codes => codes.reverse_perm⟩
    let f : Frame := { keys := some ["W", "F1", "E", "W"], pressOrder := reversed }
    let fs : List Frame := [{ keys := some ["Q"] }, f]
    ∃ s, (trail .all {} 0 true fs)[1]? = some s ∧ s.held = ["KeyQ"] ∧
      s.devices.keypad.keypad.held = some ⟨4⟩ ∧ s.latch .all f = some ⟨6⟩ ∧
      (s.taken .all f).length = 1 ∧
      let served := (s.work .all {} f 16000).val
      served.devices.delay.value = 60 ∧ served.devices.sound.value = 10 ∧
        (pictures (run .all [] 0 true fs).events)[1]? = some served.picture := by
  intro reversed f fs
  have hargs : Options.ofArguments [] = .ok {} := rfl
  have hs := List.getElem?_eq_getElem
    (show 1 < (trail .all {} 0 true fs).length by decide +kernel)
  obtain ⟨hheld, hbefore, htransition, hload⟩ := transition_of_trail hargs hs rfl
  have hkey : (timeline .all {} 0 true fs).keyBefore 1 = some ⟨4⟩ := by decide +kernel
  refine ⟨_, hs, hheld.trans (by decide), hbefore.trans hkey, ?_, ?_, ?_⟩
  · rw [htransition.latch, hheld, hbefore, hkey]
    decide
  · exact Nat.le_antisymm htransition.once (List.length_pos_iff.2 (by decide +kernel))
  · obtain ⟨hdelay, hsound, hpicture⟩ :=
      (hload 16000 (by decide +kernel) (by decide +kernel)).1 (Or.inl (by decide +kernel))
    exact ⟨congrArg Countdown.value hdelay, congrArg Countdown.value hsound, hpicture⟩

/-- At a time without a stamp the demo crashes on the record of the key before it loads the
registers.  The press is taken and another key is held, the clock can be read, and the journal keeps
loads, but none is seen. -/
theorem load_missing_without_stamp :
    let f : Frame := { keys := some ["Q"] }
    let fs : List Frame := [{ keys := some [] }, f]
    let start : Int := 253402207200999999
    let outcome := run (.upTo .debug) [] start true fs
    ∃ s, (trail (.upTo .debug) {} start true fs)[1]? = some s ∧ (reading? s.time).isSome ∧
      s.taken (.upTo .debug) f = [⟨4⟩] ∧
      s.latch (.upTo .debug) f ≠ s.devices.keypad.keypad.held ∧
      (∀ value, (Verbosity.upTo .debug).admits (Record.loaded value).level) ∧
      outcome.events.filter Event.isRecord = [.record .initializing] ∧
      (s.frame (.upTo .debug) {} f).result.isNone ∧ outcome.exit = .crash := by
  intro f fs start outcome
  have hs := List.getElem?_eq_getElem
    (show 1 < (trail (.upTo .debug) {} start true fs).length by decide +kernel)
  exact ⟨_, hs, by decide +kernel, by decide +kernel, by decide +kernel, fun _ => rfl,
    by decide +kernel, by decide +kernel, by decide +kernel⟩

end Run

end HostDevices.Demo
