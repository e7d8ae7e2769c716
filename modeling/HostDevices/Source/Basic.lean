import HostDevices.Journal.Logged

/-!
# Sources of key events

A source is a line of entries that are taken from the front.  An entry is a key event or a gap; a
gap is taken like an event but hands out nothing, so whoever drains the source stops there.

* `KeySource` — what can be drained.
* `drain` — the events up to the first gap, and the source behind it; `fst_drain` and
  `entries_drain` say so in terms of the entries.
* `KeyBuffer` — what can also be filled and emptied.
-/

namespace HostDevices

/-- A line of entries, taken from the front; an entry `none` is a gap. -/
class KeySource (σ : Type) where
  /-- What has yet to be taken, in order. -/
  entries : σ → List (Option KeyEvent)
  /-- Takes the first entry; an empty source hands out nothing and stays empty. -/
  next : σ → Option KeyEvent × σ
  fst_next : ∀ s, (next s).1 = (entries s).head?.join
  entries_next : ∀ s, entries (next s).2 = (entries s).tail

namespace KeySource

variable {σ : Type} [KeySource σ]

/-- The number of entries, gaps included. -/
def pending (s : σ) : Nat := (entries s).length

/-- Takes events until nothing is handed out, at most `n` of them. -/
def takeUpTo : (n : Nat) → σ → List KeyEvent × σ
  | 0, s => ([], s)
  | n + 1, s =>
    match next s with
    | (none, t) => ([], t)
    | (some e, t) =>
      let rest := takeUpTo n t
      (e :: rest.1, rest.2)

/-- Takes events until nothing is handed out. -/
def drain (s : σ) : List KeyEvent × σ := takeUpTo (pending s + 1) s

/-- The events in front of the first gap. -/
def batch : List (Option KeyEvent) → List KeyEvent
  | some e :: rest => e :: batch rest
  | _ => []

/-- The entries behind the first gap. -/
def behindGap : List (Option KeyEvent) → List (Option KeyEvent)
  | some _ :: rest => behindGap rest
  | none :: rest => rest
  | [] => []

/-- Events without a gap are all in front of it. -/
@[simp] theorem batch_map_some (es : List KeyEvent) : batch (es.map some) = es := by
  induction es with
  | nil => rfl
  | cons e rest ih => rw [List.map_cons, batch, ih]

/-- Nothing is behind it. -/
@[simp] theorem behindGap_map_some (es : List KeyEvent) : behindGap (es.map some) = [] := by
  induction es with
  | nil => rfl
  | cons e rest ih => rw [List.map_cons, behindGap, ih]

theorem takeUpTo_eq (n : Nat) (s : σ) (h : pending s < n) :
    (takeUpTo n s).1 = batch (entries s) ∧ entries (takeUpTo n s).2 = behindGap (entries s) := by
  induction n generalizing s with
  | zero => omega
  | succ n ih =>
    have hfst := fst_next s
    have hsnd := entries_next s
    unfold takeUpTo
    split
    · rename_i t ht
      rw [ht] at hfst hsnd
      cases hs : entries s with
      | nil => simp [batch, behindGap, hsnd, hs]
      | cons a rest =>
        cases a with
        | none => simp [batch, behindGap, hsnd, hs]
        | some e => simp [hs] at hfst
    · rename_i e t ht
      rw [ht] at hfst hsnd
      cases hs : entries s with
      | nil => simp [hs] at hfst
      | cons a rest =>
        cases a with
        | none => simp [hs] at hfst
        | some e' =>
          have hee : e = e' := by simpa [hs] using hfst
          have htail : entries t = rest := by simpa [hs] using hsnd
          have hlt : pending t < n := by
            have hlen : pending s = rest.length + 1 := by simp [pending, hs]
            simp only [pending, htail]
            omega
          obtain ⟨h1, h2⟩ := ih t hlt
          simp [batch, behindGap, h1, h2, htail, hee]

/-- Draining hands out the events in front of the first gap. -/
theorem fst_drain (s : σ) : (drain s).1 = batch (entries s) :=
  (takeUpTo_eq _ s (Nat.lt_succ_self _)).1

/-- Draining leaves what is behind the first gap. -/
theorem entries_drain (s : σ) : entries (drain s).2 = behindGap (entries s) :=
  (takeUpTo_eq _ s (Nat.lt_succ_self _)).2

end KeySource

/-- A source that can be filled at the back. -/
class KeyBuffer (σ : Type) extends KeySource σ where
  /-- Adds an event; a source that may refuse tells whether it took the event. -/
  push : Verbosity → σ → KeyEvent → Logged (Option Bool × σ)
  /-- Adds a gap, where the source has gaps. -/
  pushGap : σ → σ
  /-- Drops every entry. -/
  clear : σ → σ

/-- Adds entries in order, whatever becomes of each. -/
def KeyBuffer.fill {σ : Type} [KeyBuffer σ] (v : Verbosity) (s : σ)
    (entries : List (Option KeyEvent)) : Logged σ :=
  entries.foldlM (fun s entry =>
    match entry with
    | some e => Prod.snd <$> push v s e
    | none => pure (pushGap s)) s

end HostDevices
