import HostDevices.Journal.Logged

/-!
# Sessions

A session plays a list of steps on some devices, one after the other, and keeps for each step what
it answered, the devices after it and the records it noted.

* `Session.play` — the moments of a session.
* `Session.final` — the devices at its end.
* `Session.after` — the devices after steps, and `Session.journal` — the records of a session.
* `Session.gather` — what is seen of the steps, each from where it is taken.
-/

namespace HostDevices

/-- What a step answers. -/
inductive Reply where
  | nothing
  | flag (b : Bool)
  | count (n : Nat)
  | key (k : Option Key)
  | event (e : Option KeyEvent)
  | ticks (n : UInt64)
  | period (d : Duration)
  | value (v : UInt8)
  | text (t : String)
deriving DecidableEq, Repr

/-- A step that has been played. -/
structure Moment (δ : Type) where
  reply : Reply
  /-- The devices after the step. -/
  state : δ
  /-- What the step noted. -/
  log : List Record
deriving DecidableEq, Repr

namespace Session

variable {δ ι : Type}

/-- Plays steps in order. -/
def play (step : δ → ι → Logged (Reply × δ)) (d : δ) : List ι → List (Moment δ)
  | [] => []
  | i :: rest =>
    let out := step d i
    ⟨out.val.1, out.val.2, out.log⟩ :: play step out.val.2 rest

/-- The devices after the last step. -/
def final (d : δ) (moments : List (Moment δ)) : δ :=
  (moments.getLast?.map Moment.state).getD d

/-- The first moments of a session are those of a session that ends there. -/
theorem take_play (step : δ → ι → Logged (Reply × δ)) (d : δ) (steps : List ι) (n : Nat) :
    (play step d steps).take n = play step d (steps.take n) := by
  induction steps generalizing d n with
  | nil => simp [play]
  | cons i rest ih =>
    cases n with
    | zero => rfl
    | succ n => simp [play, ih]

/-- The devices at the end are those at the end of what comes after the first moment. -/
@[simp] theorem final_cons (d : δ) (m : Moment δ) (moments : List (Moment δ)) :
    final d (m :: moments) = final m.state moments := by
  cases moments <;> simp [final, List.getLast?_cons]

/-- The devices after steps. -/
def after (step : δ → ι → Logged (Reply × δ)) (d : δ) (steps : List ι) : δ :=
  final d (play step d steps)

/-- What a session noted, in order. -/
def journal (moments : List (Moment δ)) : List Record := moments.flatMap Moment.log

/-- What is seen of each step and of the devices before it, in order. -/
def gather {α : Type} (see : δ → ι → List α) (step : δ → ι → Logged (Reply × δ)) (d : δ) :
    List ι → List α
  | [] => []
  | i :: rest => see d i ++ gather see step (step d i).val.2 rest

section

variable (step : δ → ι → Logged (Reply × δ)) (d : δ) (i : ι) (steps more : List ι)

@[simp] theorem after_nil : after step d [] = d := rfl

@[simp] theorem after_cons : after step d (i :: steps) = after step (step d i).val.2 steps :=
  final_cons d _ _

/-- A session goes on from where it was interrupted. -/
theorem after_append : after step d (steps ++ more) = after step (after step d steps) more := by
  induction steps generalizing d with
  | nil => rfl
  | cons i rest ih => simp [ih]

theorem play_append :
    play step d (steps ++ more) = play step d steps ++ play step (after step d steps) more := by
  induction steps generalizing d with
  | nil => rfl
  | cons i rest ih => simp [play, ih]

/-- What is seen of the later steps is seen from where the earlier ones have led. -/
theorem gather_append {α : Type} (see : δ → ι → List α) :
    gather see step d (steps ++ more) =
      gather see step d steps ++ gather see step (after step d steps) more := by
  induction steps generalizing d with
  | nil => rfl
  | cons i rest ih => simp [gather, ih]

theorem journal_append (moments more : List (Moment δ)) :
    journal (moments ++ more) = journal moments ++ journal more := List.flatMap_append

@[simp] theorem journal_play_nil : journal (play step d []) = [] := rfl

@[simp] theorem journal_play_cons :
    journal (play step d (i :: steps)) =
      (step d i).log ++ journal (play step (step d i).val.2 steps) := rfl

/-- What the steps are to some part of the devices: what the first one is to it comes first. -/
theorem filterMap_cons_toList {κ : Type} (part : ι → Option κ) (i : ι) (rest : List ι) :
    (i :: rest).filterMap part = (part i).toList ++ rest.filterMap part := by
  cases h : part i <;> simp [h]

/-- The moment of a step: it is taken in the state to which the steps before it have led. -/
theorem getElem?_play (n : Nat) :
    (play step d steps)[n]? = steps[n]?.map fun i =>
      let out := step (after step d (steps.take n)) i
      ⟨out.val.1, out.val.2, out.log⟩ := by
  induction steps generalizing d n with
  | nil => rfl
  | cons i rest ih =>
    cases n with
    | zero => rfl
    | succ n => simp [play, ih]

/-- The steps up to a later one are those before a step, the step itself and those behind it. -/
theorem take_eq_append_cons {steps : List ι} {j n : Nat} {i : ι} (h : steps[j]? = some i)
    (hj : j < n) : steps.take n = steps.take j ++ i :: (steps.take n).drop (j + 1) := by
  have hget : (steps.take n)[j]? = some i := by rw [List.getElem?_take_of_lt hj, h]
  obtain ⟨hlt, hi⟩ := List.getElem?_eq_some_iff.1 hget
  have hbefore : (steps.take n).take j = steps.take j := by
    rw [List.take_take, Nat.min_eq_left (Nat.le_of_lt hj)]
  have hbehind := List.drop_eq_getElem_cons hlt
  rw [hi] at hbehind
  rw [← hbefore, ← hbehind, List.take_append_drop]

/-- One step more. -/
theorem after_take_succ {steps : List ι} {n : Nat} {i : ι} (h : steps[n]? = some i) :
    after step d (steps.take (n + 1)) = (step (after step d (steps.take n)) i).val.2 := by
  rw [List.take_add_one, h, after_append]
  exact after_cons _ _ _ _

end

/-- A step that answers nothing. -/
def silently (x : Logged δ) : Logged (Reply × δ) := (fun d => (.nothing, d)) <$> x

end Session

end HostDevices
