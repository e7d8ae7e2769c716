import HostDevices.Source.Basic

/-!
# Lent sources

A source may stay with its owner and only be lent.  Whoever has borrowed it works on the source
itself, so that its owner finds in it what the borrower has left.
-/

namespace HostDevices

/-- A source that has been borrowed. -/
structure Lent (σ : Type) where
  /-- The source, as its owner will have it back. -/
  owned : σ
deriving DecidableEq, Repr

namespace Lent

variable {σ : Type}

/-- Takes the first entry of the source itself. -/
def next [KeySource σ] (s : Lent σ) : Option KeyEvent × Lent σ :=
  let taken := KeySource.next s.owned
  (taken.1, ⟨taken.2⟩)

instance [KeySource σ] : KeySource (Lent σ) where
  entries s := KeySource.entries s.owned
  next := next
  fst_next s := KeySource.fst_next s.owned
  entries_next s := KeySource.entries_next s.owned

instance [KeyBuffer σ] : KeyBuffer (Lent σ) where
  push v s e := (fun out => (out.1, ⟨out.2⟩)) <$> KeyBuffer.push v s.owned e
  pushGap s := ⟨KeyBuffer.pushGap s.owned⟩
  clear s := ⟨KeyBuffer.clear s.owned⟩

/-- A push goes to the source itself. -/
theorem keyBuffer_push [KeyBuffer σ] (v : Verbosity) (s : Lent σ) (e : KeyEvent) :
    KeyBuffer.push v s e = (fun out => (out.1, Lent.mk out.2)) <$> KeyBuffer.push v s.owned e :=
  rfl

end Lent

end HostDevices
