import HostDevices.Keypad
import HostDevices.Proofs.Keypad.Layout
import Mathlib.Data.List.Induction

/-!
# What the keypad's latch says about the past

A key is held only because of a press that nothing has answered yet.  Presses that were ignored,
releases of keys that were not held and codes that are not on the layout may come in between in any
order; none of them can leave a key held for ever.

* `KeyEvent.last?` — the last event of a code.
* `Keypad.TakenAndKept` — a press of a key's code was taken, and its release has not come since.
* `Keypad.takenAndKept_of_held` — a key held at the end has been taken and kept.
* `Keypad.held_only_by_unreleased_press` — hence the last event of its code is a press, and once the
  last event of every mapped code is a release, no key is held.
-/

namespace HostDevices

/-- The last event of a code. -/
def KeyEvent.last? (code : String) (es : List KeyEvent) : Option KeyEvent :=
  (es.filter fun e => e.code = code).getLast?

/-- When all later events of its code are presses too, a press is the last event of its code. -/
theorem KeyEvent.last?_press {code : String} (before after : List KeyEvent)
    (h : KeyEvent.release code ∉ after) :
    last? code (before ++ press code :: after) = some (press code) := by
  have hall : ∀ e ∈ after.filter fun e => e.code = code, e = press code := by
    rintro ⟨kind, c⟩ hmem
    obtain ⟨hafter, hcode⟩ := List.mem_filter.1 hmem
    obtain rfl : c = code := by simpa using hcode
    cases kind with
    | press => rfl
    | release => exact absurd hafter h
  have hrep := List.eq_replicate_iff.2 ⟨rfl, hall⟩
  rw [last?, List.filter_append, List.filter_cons_of_pos (by simp [press]), hrep,
    ← List.replicate_succ, List.getLast?_append, List.getLast?_replicate]
  simp

namespace Keypad

/-- A key was taken and kept: a press of its code came while no key was held, so that the key was
held after it, and no release of its code has come since. -/
def TakenAndKept (v : Verbosity) (k : Key) (es : List KeyEvent) : Prop :=
  ∃ before after, es = before ++ KeyEvent.press k.code :: after ∧
    (handleAll v {} before).val.held = none ∧
    (handleAll v {} (before ++ [KeyEvent.press k.code])).val.held = some k ∧
    KeyEvent.release k.code ∉ after

/-- The latch after one more event. -/
theorem held_handleAll_concat (v : Verbosity) (es : List KeyEvent) (e : KeyEvent) :
    (handleAll v {} (es ++ [e])).val.held =
      match e.kind with
      | .press => (handleAll v {} es).val.held <|> Key.ofCode? e.code
      | .release =>
        if (handleAll v {} es).val.held = Key.ofCode? e.code then none
        else (handleAll v {} es).val.held := by
  rw [handleAll_append, Logged.val_bind, handleAll_cons, Logged.val_bind, handleAll_nil,
    Logged.val_pure]
  obtain ⟨kind, code⟩ := e
  cases kind <;> simp [handle]

/-- An event that is no release of the key's code leaves a key that was taken kept. -/
theorem TakenAndKept.concat {v : Verbosity} {k : Key} {es : List KeyEvent}
    (h : TakenAndKept v k es) {e : KeyEvent} (he : e ≠ .release k.code) :
    TakenAndKept v k (es ++ [e]) := by
  obtain ⟨before, after, rfl, hbefore, htaken, hafter⟩ := h
  refine ⟨before, after ++ [e], by simp, hbefore, htaken, ?_⟩
  simp only [List.mem_append, List.mem_singleton, not_or]
  exact ⟨hafter, he.symm⟩

/-- A key that is held at the end has been taken and kept. -/
theorem takenAndKept_of_held (v : Verbosity) {k : Key} {es : List KeyEvent}
    (h : (handleAll v {} es).val.held = some k) : TakenAndKept v k es := by
  induction es using List.reverseRecOn with
  | nil => simp at h
  | append_singleton es e ih =>
    have hlast := h
    rw [held_handleAll_concat] at h
    obtain ⟨kind, code⟩ := e
    cases kind with
    | press =>
      cases hheld : (handleAll v {} es).val.held with
      | none =>
        -- the last event is the press that was taken
        have hcode : Key.ofCode? code = some k := by simpa [hheld] using h
        obtain rfl : k.code = code := Key.code_of_ofCode? hcode
        exact ⟨es, [], rfl, hheld, hlast, by simp⟩
      | some l =>
        obtain rfl : l = k := by simpa [hheld] using h
        exact (ih hheld).concat (by simp [KeyEvent.release])
    | release =>
      by_cases hrel : (handleAll v {} es).val.held = Key.ofCode? code
      · simp [hrel] at h
      · have hheld : (handleAll v {} es).val.held = some k := by simpa [hrel] using h
        refine (ih hheld).concat ?_
        rintro heq
        obtain rfl : code = k.code := by simpa [KeyEvent.release] using heq
        exact hrel (hheld.trans (Key.ofCode?_code k).symm)

/-- **No stuck key.**  A key that is held at the end was taken by a press of its code and has not
been released since, so that the last event of its code is a press.  Hence no key is held once the
last event of every mapped code, if there is one, is a release. -/
theorem held_only_by_unreleased_press (v : Verbosity) (es : List KeyEvent) :
    (∀ k, (handleAll v {} es).val.held = some k →
      TakenAndKept v k es ∧ KeyEvent.last? k.code es = some (.press k.code)) ∧
    ((∀ code, (Key.ofCode? code).isSome →
        ∀ e, KeyEvent.last? code es = some e → e.kind = .release) →
      (handleAll v {} es).val.held = none) := by
  have hkept : ∀ k, (handleAll v {} es).val.held = some k →
      TakenAndKept v k es ∧ KeyEvent.last? k.code es = some (.press k.code) := by
    intro k hk
    have htaken := takenAndKept_of_held v hk
    obtain ⟨before, after, hes, -, -, hafter⟩ := id htaken
    refine ⟨htaken, ?_⟩
    rw [hes]
    exact KeyEvent.last?_press before after hafter
  refine ⟨hkept, fun hreleased => ?_⟩
  cases hheld : (handleAll v {} es).val.held with
  | none => rfl
  | some k =>
    have hkind := hreleased k.code (by simp [Key.ofCode?_code]) _ (hkept k hheld).2
    simp [KeyEvent.press] at hkind

/-- A key stays held while others are pressed and let go; its own release then frees the latch, with
no key left that was pressed last. -/
theorem held_until_released :
    let es : List KeyEvent := [.press "KeyQ", .press "KeyW", .release "KeyW", .press "Space"]
    TakenAndKept .all ⟨4⟩ es ∧ (handleAll .all {} (es ++ [.release "KeyQ"])).val.held = none := by
  intro es
  have hheld : (handleAll .all {} es).val.held = some ⟨4⟩ := by decide
  have hreleased : ∀ i, ∀ e ∈ KeyEvent.last? (Key.code ⟨i⟩) (es ++ [.release "KeyQ"]),
      e.kind = .release := by decide
  refine ⟨((held_only_by_unreleased_press .all es).1 _ hheld).1, ?_⟩
  refine (held_only_by_unreleased_press .all _).2 fun code hmapped e he => ?_
  obtain ⟨k, hk⟩ := Option.isSome_iff_exists.1 hmapped
  rw [← Key.code_of_ofCode? hk] at he
  exact hreleased k.index e he

end Keypad

end HostDevices
