import HostDevices.Journal.Record

/-!
# Operations that keep a journal

`Logged α` is the outcome of an operation together with the records it noted, oldest first.
Operations are chained with their records in order, and a record is noted only when the verbosity
admits its level.

* `Verbosity.note` — the only way to note a record.
-/

namespace HostDevices

/-- An outcome and the records noted on the way to it. -/
structure Logged (α : Type) where
  val : α
  log : List Record

namespace Logged

instance : Monad Logged where
  pure a := ⟨a, []⟩
  bind x f :=
    let y := f x.val
    ⟨y.val, x.log ++ y.log⟩

@[simp] theorem val_pure {α : Type} (a : α) : (pure a : Logged α).val = a := rfl

@[simp] theorem log_pure {α : Type} (a : α) : (pure a : Logged α).log = [] := rfl

@[simp] theorem val_bind {α β : Type} (x : Logged α) (f : α → Logged β) :
    (x >>= f).val = (f x.val).val := rfl

@[simp] theorem log_bind {α β : Type} (x : Logged α) (f : α → Logged β) :
    (x >>= f).log = x.log ++ (f x.val).log := rfl

@[ext] theorem ext {α : Type} {x y : Logged α} (hval : x.val = y.val) (hlog : x.log = y.log) :
    x = y := by
  cases x; cases y
  simp only at hval hlog
  rw [hval, hlog]

instance : LawfulMonad Logged := LawfulMonad.mk' Logged
  (fun x => by ext1 <;> simp [Functor.map])
  (fun _ _ => by ext1 <;> simp)
  (fun _ _ _ => by ext1 <;> simp)

@[simp] theorem val_map {α β : Type} (f : α → β) (x : Logged α) : (f <$> x).val = f x.val := rfl

@[simp] theorem log_map {α β : Type} (f : α → β) (x : Logged α) : (f <$> x).log = x.log :=
  List.append_nil x.log

end Logged

/-- Notes a record, if its level is admitted. -/
def Verbosity.note (v : Verbosity) (r : Record) : Logged Unit :=
  ⟨(), if v.admits r.level then [r] else []⟩

@[simp] theorem Verbosity.log_note (v : Verbosity) (r : Record) :
    (v.note r).log = if v.admits r.level then [r] else [] := rfl

/-- A record that stands in a journal is its last one or stands in front of it. -/
theorem Record.concat_isPrefix_concat {before log : List Record} {r last : Record} :
    before ++ [r] <+: log ++ [last] ↔ before = log ∧ r = last ∨ before ++ [r] <+: log := by
  rw [List.prefix_concat_iff]
  refine or_congr_left ⟨?_, ?_⟩
  · intro h
    obtain ⟨rfl, hsame⟩ := List.append_inj' h rfl
    exact ⟨rfl, List.singleton_inj.1 hsame⟩
  · rintro ⟨rfl, rfl⟩
    rfl

end HostDevices
