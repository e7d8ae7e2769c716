import HostDevices.Text.Fields

/-!
# Texts that show where they end

Values are often told one after the other in one text, with nothing but their own form to part
them.  A way of writing is self-delimiting when that is safe: whatever stands behind the text of a
value, both the value and what stands behind can be told.

* `SelfDelimiting` — such a way of writing; `SelfDelimiting.of_read` — one that can be read from
  the front.
* `SelfDelimiting.lead`, `SelfDelimiting.close`, `SelfDelimiting.pair` — fixed texts around a value,
  and one value behind another.
* `SelfDelimiting.repeated`, `SelfDelimiting.separated` — any number of values up to a character
  that begins none of them, parted by nothing or by a separator.
* `SelfDelimiting.list` — values in square brackets.
-/

namespace HostDevices

/-- Whatever stands behind it, what is written tells the value and where its text ends. -/
def SelfDelimiting {α : Type} (write : α → List Char) : Prop :=
  ∀ ⦃a b : α⦄ ⦃x y : List Char⦄, write a ++ x = write b ++ y → a = b ∧ x = y

namespace SelfDelimiting

variable {α β : Type} {write : α → List Char} {other : β → List Char}

/-- No two values are written alike. -/
theorem eq_of_eq (hw : SelfDelimiting write) {a b : α} (h : write a = write b) : a = b := by
  have hends : write a ++ [] = write b ++ [] := by rw [h]
  exact (hw hends).1

/-- It is enough that a reader takes the text of any value off the front and leaves what is behind;
it may give whatever tells the value. -/
theorem of_read {f : α → β} (hf : Function.Injective f)
    (read : List Char → Option (β × List Char))
    (hread : ∀ a rest, read (write a ++ rest) = some (f a, rest)) : SelfDelimiting write := by
  intro a b x y h
  have hsame : some (f a, x) = some (f b, y) := by
    rw [← hread a x, ← hread b y, h]
  obtain ⟨hvalue, hrest⟩ := Prod.mk.inj (Option.some.inj hsame)
  exact ⟨hf hvalue, hrest⟩

/-- The value may be told by something that determines it. -/
theorem comap (hw : SelfDelimiting write) {f : β → α} (hf : Function.Injective f) :
    SelfDelimiting fun b => write (f b) := by
  intro a b x y h
  obtain ⟨hvalue, hrest⟩ := hw h
  exact ⟨hf hvalue, hrest⟩

/-- A fixed text in front. -/
theorem lead (hw : SelfDelimiting write) (front : List Char) :
    SelfDelimiting fun a => front ++ write a := by
  intro a b x y h
  rw [List.append_assoc, List.append_assoc] at h
  exact hw (List.append_cancel_left h)

/-- A fixed text behind. -/
theorem close (hw : SelfDelimiting write) (back : List Char) :
    SelfDelimiting fun a => write a ++ back := by
  intro a b x y h
  rw [List.append_assoc, List.append_assoc] at h
  obtain ⟨hvalue, hrest⟩ := hw h
  exact ⟨hvalue, List.append_cancel_left hrest⟩

/-- One value behind another. -/
theorem pair (hw : SelfDelimiting write) (ho : SelfDelimiting other) :
    SelfDelimiting fun p : α × β => write p.1 ++ other p.2 := by
  intro p q x y h
  rw [List.append_assoc, List.append_assoc] at h
  obtain ⟨hfirst, hbehind⟩ := hw h
  obtain ⟨hsecond, hrest⟩ := ho hbehind
  exact ⟨Prod.ext hfirst hsecond, hrest⟩

/-! ## Many values -/

section

variable {stop : Char}

/-- Values one behind the other, up to a character that begins no value. -/
theorem repeated (hw : SelfDelimiting write) (hstop : ∀ a x y, write a ++ x ≠ stop :: y) :
    SelfDelimiting fun as : List α => as.flatMap write ++ [stop] := by
  intro as
  induction as with
  | nil =>
    intro bs x y h
    cases bs with
    | nil => exact ⟨rfl, List.append_cancel_left h⟩
    | cons b rest =>
      -- only one of the two texts ends here
      simp only [List.flatMap_nil, List.flatMap_cons, List.nil_append, List.append_assoc,
        List.singleton_append] at h
      exact absurd h.symm (hstop b _ _)
  | cons a more ih =>
    intro bs x y h
    cases bs with
    | nil =>
      simp only [List.flatMap_nil, List.flatMap_cons, List.nil_append, List.append_assoc,
        List.singleton_append] at h
      exact absurd h (hstop a _ _)
    | cons b rest =>
      simp only [List.flatMap_cons, List.append_assoc] at h
      obtain ⟨rfl, hbehind⟩ := hw h
      rw [← List.append_assoc, ← List.append_assoc] at hbehind
      obtain ⟨rfl, hrest⟩ := ih hbehind
      exact ⟨rfl, hrest⟩

/-- Of texts parted by a separator, every one but the first has the separator in front. -/
theorem intercalate_cons (sep t : List Char) (ts : List (List Char)) :
    sep.intercalate (t :: ts) = t ++ ts.flatMap (sep ++ ·) := by
  induction ts generalizing t with
  | nil => simp
  | cons u rest ih => rw [List.intercalate_cons_cons, ih, List.flatMap_cons, List.append_assoc,
      List.append_assoc]

/-- Values parted by a separator, up to a character that begins neither. -/
theorem separated (hw : SelfDelimiting write) (hstop : ∀ a x y, write a ++ x ≠ stop :: y)
    {mark : Char} (hmark : mark ≠ stop) (sep : List Char) :
    SelfDelimiting fun as : List α => (mark :: sep).intercalate (as.map write) ++ [stop] := by
  have hbehind : SelfDelimiting fun as : List α =>
      as.flatMap (fun a => (mark :: sep) ++ write a) ++ [stop] := by
    apply (hw.lead (mark :: sep)).repeated
    intro a x y h
    exact hmark (List.cons.inj h).1
  intro as bs x y h
  cases as with
  | nil =>
    cases bs with
    | nil => exact ⟨rfl, List.append_cancel_left h⟩
    | cons b rest =>
      simp only [List.map_nil, List.intercalate_nil, List.nil_append, List.map_cons,
        intercalate_cons, List.append_assoc, List.singleton_append] at h
      exact absurd h.symm (hstop b _ _)
  | cons a more =>
    cases bs with
    | nil =>
      simp only [List.map_nil, List.intercalate_nil, List.nil_append, List.map_cons,
        intercalate_cons, List.append_assoc, List.singleton_append] at h
      exact absurd h (hstop a _ _)
    | cons b rest =>
      simp only [List.map_cons, intercalate_cons, List.flatMap_map, List.append_assoc] at h
      obtain ⟨rfl, hmore⟩ := hw h
      rw [← List.append_assoc, ← List.append_assoc] at hmore
      obtain ⟨rfl, hrest⟩ := hbehind hmore
      exact ⟨rfl, hrest⟩

end

/-- Values in square brackets. -/
theorem list {text : α → String} (hw : SelfDelimiting fun a => (text a).toList)
    (hstop : ∀ a x y, (text a).toList ++ x ≠ ']' :: y) :
    SelfDelimiting fun as : List α => (listText (as.map text)).toList := by
  have hcomma : ',' ≠ ']' := by decide
  have hitems := (hw.separated hstop hcomma [' ']).lead ['[']
  intro as bs x y h
  apply hitems
  simpa [listText, Function.comp_def] using h

end SelfDelimiting

end HostDevices
