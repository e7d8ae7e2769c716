import HostDevices.Proofs.Keypad.CodeLatch

/-!
# Keys that go up and keys that go down

A host that compares the keys held from frame to frame tells the keypad first of the keys that went
up and then of those that went down.  The key held stays unless it is among the former, and an open
latch takes the first of the latter.

* `Keypad.taken` — the presses that a keypad takes.
* `CodeLatch.foldl_step_releases`, `CodeLatch.foldl_step_presses` — releases only, and presses only.
* `Keypad.held_strokes`, `Keypad.taken_strokes` — releases and then presses.
-/

namespace HostDevices

namespace CodeLatch

/-- Releases let the code go that is held, if it is among them. -/
theorem foldl_step_releases (held : Option String) (codes : List String) :
    (codes.map KeyEvent.release).foldl step held = held.filter (· ∉ codes) := by
  induction codes generalizing held with
  | nil => cases held <;> rfl
  | cons code rest ih =>
    rw [List.map_cons, List.foldl_cons, ih]
    cases held with
    | none => rfl
    | some c =>
      by_cases hc : c = code
      · simp [step, KeyEvent.release, Option.filter, hc]
      · simp [step, KeyEvent.release, Option.filter, hc]

/-- Of presses of codes on the layout, a latch that is open takes the first. -/
theorem foldl_step_presses (held : Option String) {codes : List String}
    (h : ∀ code ∈ codes, (Key.ofCode? code).isSome) :
    (codes.map KeyEvent.press).foldl step held = (held <|> codes.head?) := by
  induction codes generalizing held with
  | nil => cases held <;> rfl
  | cons code rest ih =>
    rw [List.forall_mem_cons] at h
    rw [List.map_cons, List.foldl_cons, ih _ h.2]
    cases held <;> simp [step, KeyEvent.press, h.1]

end CodeLatch

namespace Keypad

/-- The keys that go into the open latch while events are handled, in order. -/
def taken (v : Verbosity) (pad : Keypad) : List KeyEvent → List Key
  | [] => []
  | e :: rest =>
    let next := (pad.handle v e).val
    (if pad.held = none then next.held.toList else []) ++ next.taken v rest

variable (v : Verbosity) (pad : Keypad) {released pressed : List String}

theorem taken_append (es fs : List KeyEvent) :
    pad.taken v (es ++ fs) = pad.taken v es ++ (pad.handleAll v es).val.taken v fs := by
  induction es generalizing pad with
  | nil => rfl
  | cons e rest ih => simp [taken, ih]

/-- Releases let the key go that is held, if it is among them. -/
theorem held_releases (released : List String) :
    (pad.handleAll v (released.map .release)).val.held =
      pad.held.filter fun k => k.code ∉ released := by
  rw [CodeLatch.held_handleAll_foldl, CodeLatch.foldl_step_releases]
  cases pad.held with
  | none => rfl
  | some k =>
    by_cases hk : k.code ∈ released <;> simp [Option.filter, hk, Key.ofCode?_code]

/-- Of presses of codes on the layout, a keypad that holds no key takes the first. -/
theorem held_presses (h : ∀ code ∈ pressed, (Key.ofCode? code).isSome) :
    (pad.handleAll v (pressed.map .press)).val.held =
      (pad.held <|> pressed.head?.bind Key.ofCode?) := by
  rw [CodeLatch.held_handleAll_foldl, CodeLatch.foldl_step_presses _ h]
  cases pad.held with
  | none => rfl
  | some k => exact Key.ofCode?_code k

/-- **After releases and then presses**, the key held before is held on unless it was released; then
the first key that was pressed is held. -/
theorem held_strokes (h : ∀ code ∈ pressed, (Key.ofCode? code).isSome) :
    (pad.handleAll v (released.map .release ++ pressed.map .press)).val.held =
      ((pad.held.filter fun k => k.code ∉ released) <|> pressed.head?.bind Key.ofCode?) := by
  rw [handleAll_append, Logged.val_bind, held_presses v _ h, held_releases]

/-! ## The presses that are taken -/

/-- Releases put no key into the latch. -/
theorem taken_releases (released : List String) : pad.taken v (released.map .release) = [] := by
  induction released generalizing pad with
  | nil => rfl
  | cons code rest ih =>
    rw [List.map_cons, taken, ih, List.append_nil]
    by_cases hopen : pad.held = none
    · simp [hopen, handle, KeyEvent.release]
    · exact if_neg hopen

/-- A keypad that holds a key takes no press. -/
theorem taken_presses_of_held (hheld : pad.held ≠ none) (pressed : List String) :
    pad.taken v (pressed.map .press) = [] := by
  induction pressed generalizing pad with
  | nil => rfl
  | cons code rest ih =>
    obtain ⟨k, hk⟩ := Option.ne_none_iff_exists'.1 hheld
    rw [List.map_cons, taken, if_neg hheld, List.nil_append]
    exact ih _ (by simp [handle, KeyEvent.press, hk])

/-- A keypad that holds no key takes the first of presses of codes on the layout, and no other. -/
theorem taken_presses (h : ∀ code ∈ pressed, (Key.ofCode? code).isSome) (hopen : pad.held = none) :
    pad.taken v (pressed.map .press) = (pressed.head?.bind Key.ofCode?).toList := by
  cases pressed with
  | nil => rfl
  | cons code rest =>
    have hnext : (pad.handle v (.press code)).val.held = Key.ofCode? code := by
      simp [handle, KeyEvent.press, hopen]
    have hclosed : (pad.handle v (.press code)).val.held ≠ none := by
      rw [hnext]
      exact Option.isSome_iff_ne_none.1 (h code (by simp))
    rw [List.map_cons, taken, if_pos hopen, hnext, taken_presses_of_held v _ hclosed]
    simp

/-- **Of releases and then presses**, the first press is taken if no key is held on, and no other
press ever is. -/
theorem taken_strokes (h : ∀ code ∈ pressed, (Key.ofCode? code).isSome) :
    pad.taken v (released.map .release ++ pressed.map .press) =
      if (pad.held.filter fun k => k.code ∉ released) = none then
        (pressed.head?.bind Key.ofCode?).toList
      else [] := by
  rw [taken_append, taken_releases, List.nil_append]
  rw [← held_releases v pad]
  split
  · exact taken_presses v _ h (by assumption)
  · exact taken_presses_of_held v _ (by assumption) pressed

end Keypad

end HostDevices
