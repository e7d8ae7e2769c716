import HostDevices.Source.Basic

/-!
# Scripted sources

A script is an unbounded line of events and gaps: it takes every event and loses none.
-/

namespace HostDevices

/-- Events and gaps in the order in which they will be taken. -/
structure EventScript where
  line : List (Option KeyEvent) := []
deriving DecidableEq, Repr

namespace EventScript

/-- Takes the first entry; a gap hands out nothing. -/
def next (s : EventScript) : Option KeyEvent × EventScript :=
  match s.line with
  | [] => (none, s)
  | entry :: rest => (entry, ⟨rest⟩)

/-- Adds an event at the back. -/
def push (s : EventScript) (e : KeyEvent) : EventScript := ⟨s.line ++ [some e]⟩

/-- Adds a gap at the back. -/
def pushGap (s : EventScript) : EventScript := ⟨s.line ++ [none]⟩

instance : KeyBuffer EventScript where
  entries s := s.line
  next := next
  fst_next s := by
    unfold next
    split <;> simp_all
  entries_next s := by
    unfold next
    split <;> simp_all
  push _ s e := pure (none, s.push e)
  pushGap := pushGap
  clear _ := {}

end EventScript

end HostDevices
