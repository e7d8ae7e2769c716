import HostDevices.Session.Basic
import Mathlib.Data.List.Forall2

/-!
# Sessions that lose events

A step may bring an event for which there is no room.  The event is then lost: the step changes
nothing, and a warning names the event.  Here a session is played beside a session of other devices
that have room for every event, and that are spared the steps of which the event is lost.

* `Logged.Matches` — two operations that note the same and come to what looks the same.
* `Session.Comparison` — two kinds of devices on which the same steps can be taken.
* `Comparison.kept`, `Comparison.losses` — the steps of a session that lose no event, and the events
  that the others lose.
* `Comparison.Lawful` — a step that loses its event does nothing else, and any other step does the
  same on both kinds of devices.
* `Comparison.Lawful.alike_after` — the two sessions then lead to devices that look the same, and
  `Comparison.Lawful.beside` is their account, step by step.
* `Comparison.Lawful.indistinguishable` — where no event is lost, the two cannot be told apart, and
  `Comparison.Lawful.account` has both.
-/

namespace HostDevices

/-- Two operations that note the same, and whose outcomes are related. -/
structure Logged.Matches {α β : Type} (R : α → β → Prop) (x : Logged α) (y : Logged β) : Prop where
  log : x.log = y.log
  val : R x.val y.val

namespace Logged

variable {α β γ δ : Type} {R : α → β → Prop} {S : γ → δ → Prop} {x : Logged α} {y : Logged β}

theorem matches_pure {a : α} {b : β} (h : R a b) :
    Matches R (pure a : Logged α) (pure b : Logged β) :=
  ⟨rfl, h⟩

theorem matches_refl (x : Logged α) : Matches (· = ·) x x := ⟨rfl, rfl⟩

theorem Matches.bind (hx : Matches R x y) {f : α → Logged γ} {g : β → Logged δ}
    (hf : ∀ a b, R a b → Matches S (f a) (g b)) : Matches S (x >>= f) (y >>= g) := by
  have hthen := hf _ _ hx.val
  refine ⟨?_, hthen.val⟩
  rw [log_bind, log_bind, hx.log, hthen.log]

theorem Matches.map (hx : Matches R x y) {f : α → γ} {g : β → δ}
    (hf : ∀ a b, R a b → S (f a) (g b)) : Matches S (f <$> x) (g <$> y) := by
  refine ⟨?_, hf _ _ hx.val⟩
  rw [log_map, log_map, hx.log]

end Logged

open Logged

namespace Session

/-- A session is its first step and then the others, in what it leads to and in what it notes. -/
theorem after_journal_cons {δ ι : Type} (step : δ → ι → Logged (Reply × δ)) (d : δ) (i : ι)
    (rest : List ι) :
    (⟨after step d (i :: rest), journal (play step d (i :: rest))⟩ : Logged δ) =
      step d i >>= fun out => ⟨after step out.2 rest, journal (play step out.2 rest)⟩ :=
  Logged.ext (after_cons step d i rest) rfl

/-- Devices and other devices on which the same steps can be taken. -/
structure Comparison (δ ε ι : Type) where
  step : δ → ι → Logged (Reply × δ)
  other : ε → ι → Logged (Reply × ε)
  /-- The event that is lost in a step, if one is. -/
  lost : δ → ι → Option KeyEvent
  /-- What the devices answer to a step, by what the other devices answer. -/
  told : ι → Reply → Reply
  /-- The devices look the same as the other ones. -/
  Alike : δ → ε → Prop

/-- What is noted of events that are lost: a warning for each, in order. -/
def lossesNoted (v : Verbosity) (es : List KeyEvent) : List Record :=
  if v.admits .warn then es.map .eventDropped else []

theorem lossesNoted_append (v : Verbosity) (es more : List KeyEvent) :
    lossesNoted v (es ++ more) = lossesNoted v es ++ lossesNoted v more := by
  by_cases hwarn : v.admits .warn <;> simp [lossesNoted, hwarn]

namespace Comparison

variable {δ ε ι : Type} (m : Comparison δ ε ι)

/-- The steps that lose no event. -/
def kept : δ → List ι → List ι :=
  gather (fun d i => if m.lost d i = none then [i] else []) m.step

/-- The events that are lost, in order. -/
def losses : δ → List ι → List KeyEvent := gather (fun d i => (m.lost d i).toList) m.step

/-- What it takes to follow a session step by step, where only steps are taken that are `fair`. -/
structure Lawful (v : Verbosity) (fair : ι → Prop) : Prop where
  /-- A step that loses its event is answered with no, changes nothing and notes the event. -/
  of_lost : ∀ {d i e}, m.lost d i = some e → m.step d i = ⟨(.flag false, d), lossesNoted v [e]⟩
  /-- Any other step does the same on both. -/
  of_kept : ∀ {d d' i}, m.Alike d d' → fair i → m.lost d i = none →
    Matches (fun out out' => out.1 = m.told i out'.1 ∧ m.Alike out.2 out'.2) (m.step d i)
      (m.other d' i)

/-- The devices `d` after the steps `done`, beside the devices `d'` after those of these steps that
lose no event. -/
structure Beside (v : Verbosity) (fair : ι → Prop) (d : δ) (d' : ε) (done : List ι) : Prop where
  /-- They look the same. -/
  alike : m.Alike (after m.step d done) (after m.other d' (m.kept d done))
  /-- A step that loses its event at this point is left out of the other session.  It is answered
  with no, changes nothing and notes the event. -/
  lost : ∀ i e, m.lost (after m.step d done) i = some e →
    m.kept d (done ++ [i]) = m.kept d done ∧
      m.step (after m.step d done) i = ⟨(.flag false, after m.step d done), lossesNoted v [e]⟩
  /-- Any other step at this point is taken in both sessions, is answered in the same way and notes
  the same. -/
  kept : ∀ i, fair i → m.lost (after m.step d done) i = none →
    m.kept d (done ++ [i]) = m.kept d done ++ [i] ∧
      let here := m.step (after m.step d done) i
      let there := m.other (after m.other d' (m.kept d done)) i
      here.val.1 = m.told i there.val.1 ∧ here.log = there.log

/-- Nothing is lost in the steps, and the same steps on other devices cannot be told from them. -/
structure Indistinguishable (d : δ) (d' : ε) (steps : List ι) : Prop where
  kept : m.kept d steps = steps
  /-- After every step the devices look the same, and the step has noted the same. -/
  moments : List.Forall₂ (fun here there => m.Alike here.state there.state ∧ here.log = there.log)
    (play m.step d steps) (play m.other d' steps)
  /-- Every step is answered in the same way. -/
  replies : (play m.step d steps).map Moment.reply =
    List.zipWith m.told steps ((play m.other d' steps).map Moment.reply)

variable {m} {d : δ} {d' : ε} {i : ι} {e : KeyEvent} {steps more : List ι}

theorem kept_cons_of_lost (h : m.lost d i = some e) :
    m.kept d (i :: steps) = m.kept (m.step d i).val.2 steps := by
  simp [kept, gather, h]

theorem kept_cons_of_none (h : m.lost d i = none) :
    m.kept d (i :: steps) = i :: m.kept (m.step d i).val.2 steps := by
  simp [kept, gather, h]

theorem kept_append :
    m.kept d (steps ++ more) = m.kept d steps ++ m.kept (after m.step d steps) more :=
  gather_append _ _ _ _ _

namespace Lawful

variable {v : Verbosity} {fair : ι → Prop}

/-- Both sessions lead to devices that look the same. -/
theorem alike_after (h : m.Lawful v fair) (hd : m.Alike d d') (hfair : ∀ i ∈ steps, fair i) :
    m.Alike (after m.step d steps) (after m.other d' (m.kept d steps)) := by
  induction steps generalizing d d' with
  | nil => exact hd
  | cons i rest ih =>
    rw [List.forall_mem_cons] at hfair
    obtain ⟨hi, hrest⟩ := hfair
    cases hlost : m.lost d i with
    | some e =>
      -- the other session is spared this step, and its devices stay as they are
      rw [kept_cons_of_lost hlost, after_cons, h.of_lost hlost]
      exact ih hd hrest
    | none =>
      rw [kept_cons_of_none hlost, after_cons, after_cons]
      exact ih (h.of_kept hd hi hlost).val.2 hrest

/-- The account of both sessions after any steps. -/
theorem beside (h : m.Lawful v fair) (hd : m.Alike d d') (hfair : ∀ i ∈ steps, fair i) :
    m.Beside v fair d d' steps where
  alike := h.alike_after hd hfair
  lost i e hlost := by
    refine ⟨?_, h.of_lost hlost⟩
    rw [kept_append, kept_cons_of_lost hlost]
    exact List.append_nil _
  kept i hi hlost := by
    have hstep := h.of_kept (h.alike_after hd hfair) hi hlost
    refine ⟨?_, hstep.val.1, hstep.log⟩
    rw [kept_append, kept_cons_of_none hlost]
    rfl

/-- Where no event is lost, the two sessions cannot be told apart. -/
theorem indistinguishable (h : m.Lawful v fair) (hd : m.Alike d d') (hfair : ∀ i ∈ steps, fair i)
    (hnone : m.losses d steps = []) : m.Indistinguishable d d' steps := by
  induction steps generalizing d d' with
  | nil => exact ⟨rfl, .nil, rfl⟩
  | cons i rest ih =>
    rw [List.forall_mem_cons] at hfair
    obtain ⟨hi, hrest⟩ := hfair
    obtain ⟨hfirst, hmore⟩ := List.append_eq_nil_iff.1 hnone
    have hlost : m.lost d i = none := Option.toList_eq_nil_iff.1 hfirst
    have hstep := h.of_kept hd hi hlost
    obtain ⟨hkept, hmoments, hreplies⟩ := ih hstep.val.2 hrest hmore
    refine ⟨?_, .cons ⟨hstep.val.2, hstep.log⟩ hmoments, ?_⟩
    · rw [kept_cons_of_none hlost, hkept]
    · rw [play, List.map_cons, hstep.val.1, hreplies]
      rfl

/-- No event is lost as long as the other devices stay within the room that the devices have. -/
theorem losses_eq_nil (h : m.Lawful v fair) (roomy : ε → Prop) (hd : m.Alike d d')
    (hfair : ∀ i ∈ steps, fair i)
    (hover : ∀ {d d' i e}, m.Alike d d' → m.lost d i = some e → ¬ roomy (m.other d' i).val.2)
    (hroomy : ∀ n, roomy (after m.other d' (steps.take n))) : m.losses d steps = [] := by
  induction steps generalizing d d' with
  | nil => rfl
  | cons i rest ih =>
    rw [List.forall_mem_cons] at hfair
    obtain ⟨hi, hrest⟩ := hfair
    cases hlost : m.lost d i with
    | some e => exact absurd (hroomy 1) (hover hd hlost)
    | none =>
      have hmore : m.losses (m.step d i).val.2 rest = [] := by
        refine ih (h.of_kept hd hi hlost).val.2 hrest ?_
        intro n
        exact after_cons m.other d' i (rest.take n) ▸ hroomy (n + 1)
      rw [losses, gather, hlost, Option.toList_none, List.nil_append]
      exact hmore

/-- The whole account: step by step in any case, and from end to end where there is room. -/
theorem account (h : m.Lawful v fair) (roomy : ε → Prop)
    (hover : ∀ {d d' i e}, m.Alike d d' → m.lost d i = some e → ¬ roomy (m.other d' i).val.2)
    (hd : m.Alike d d') (hfair : ∀ i ∈ steps, fair i) :
    m.Beside v fair d d' steps ∧
      ((∀ n, roomy (after m.other d' (steps.take n))) → m.Indistinguishable d d' steps) := by
  refine ⟨h.beside hd hfair, ?_⟩
  intro hroomy
  exact h.indistinguishable hd hfair (h.losses_eq_nil roomy hd hfair hover hroomy)

end Lawful

end Comparison

end Session

end HostDevices
