import HostDevices.Key.Layout
import Mathlib.Data.List.Nodup
import Mathlib.Logic.ExistsUnique

/-!
# Codes and keys

The layout is searched in two ways: from the end for a code, and from the front for a key.  It lists
every code once and every key once, so both searches find the only entry there is, and they are
inverse to each other.

* `lookup_eq_some_iff_mem` — in a table that lists every code once, looking up is membership.
* `Key.ofCode?_eq_some_iff_mem`, `Key.entryOf?_eq_some_iff` — both searches are membership in the
  layout.
* `Key.mem_layout_iff` — a code stands with a key exactly when it is the code of the key.
* `Key.ofCode?_code`, `Key.code_of_ofCode?` — one search after the other.
* `Key.ofCode?_inverse_code` — keys and their codes determine each other, and no other text is a
  code.
-/

namespace HostDevices

/-- In a table that lists every code once, a code is found with what it is listed with. -/
theorem lookup_eq_some_iff_mem {α : Type} {table : List (String × α)}
    (hcodes : (table.map Prod.fst).Nodup) {s : String} {a : α} :
    table.lookup s = some a ↔ (s, a) ∈ table := by
  constructor
  · intro h
    obtain ⟨before, behind, htable, -⟩ := List.lookup_eq_some_iff.1 h
    rw [htable]
    exact List.mem_append_right _ (List.mem_cons_self ..)
  · intro hmem
    obtain ⟨before, behind, rfl⟩ := List.append_of_mem hmem
    refine List.lookup_eq_some_iff.2 ⟨before, behind, rfl, ?_⟩
    intro entry hentry
    -- an entry in front with the same code would list the code twice
    rw [List.map_append, List.nodup_append] at hcodes
    have hne := hcodes.2.2 entry.1 (List.mem_map_of_mem hentry) s (by simp)
    exact bne_iff_ne.2 (Ne.symm hne)

namespace Key

theorem nodup_codes : (layout.map Prod.fst).Nodup := by decide

theorem nodup_keys : (layout.map Prod.snd).Nodup := by decide

/-- From the end or from the front, a code is found in its only entry. -/
theorem ofCode?_eq_some_iff_mem {s : String} {k : Key} :
    ofCode? s = some k ↔ (s, k) ∈ layout := by
  have hcodes : (layout.reverse.map Prod.fst).Nodup := by
    rw [List.map_reverse, List.nodup_reverse]
    exact nodup_codes
  rw [ofCode?, lookup_eq_some_iff_mem hcodes, List.mem_reverse]

/-- What the search for a key finds is an entry of that key. -/
theorem mem_of_entryOf? {k : Key} {entry : String × Key} (h : entryOf? k = some entry) :
    entry ∈ layout ∧ entry.2 = k := by
  have hkey := List.find?_some (p := fun entry : String × Key => entry.2 == k) h
  exact ⟨List.mem_of_find?_eq_some h, beq_iff_eq.1 hkey⟩

/-- The first entry of a key is its only one. -/
theorem entryOf?_eq_some_iff {k : Key} {entry : String × Key} :
    entryOf? k = some entry ↔ entry ∈ layout ∧ entry.2 = k := by
  refine ⟨mem_of_entryOf?, ?_⟩
  rintro ⟨hmem, hkey⟩
  obtain ⟨first, hfirst⟩ := Option.isSome_iff_exists.1 (isSome_entryOf? k)
  obtain ⟨hlisted, hsame⟩ := mem_of_entryOf? hfirst
  rw [hfirst, List.inj_on_of_nodup_map nodup_keys hlisted hmem (hsame.trans hkey.symm)]

/-- The search for a key succeeds, with the code of the key. -/
theorem entryOf?_eq_some (k : Key) : entryOf? k = some (k.code, k) := by
  obtain ⟨entry, hentry⟩ := Option.isSome_iff_exists.1 (isSome_entryOf? k)
  have hkey := (mem_of_entryOf? hentry).2
  have hcode : k.code = entry.1 := by simp [code, hentry]
  rw [hentry, hcode, ← hkey]

/-- A code stands with a key exactly when it is the code of the key. -/
theorem mem_layout_iff {s : String} {k : Key} : (s, k) ∈ layout ↔ s = k.code := by
  constructor
  · intro hmem
    have hfound : entryOf? k = some (s, k) := entryOf?_eq_some_iff.2 ⟨hmem, rfl⟩
    rw [entryOf?_eq_some] at hfound
    exact (congrArg Prod.fst (Option.some.inj hfound)).symm
  · rintro rfl
    exact (mem_of_entryOf? (entryOf?_eq_some k)).1

theorem ofCode?_eq_some_iff {s : String} {k : Key} : ofCode? s = some k ↔ s = k.code := by
  rw [ofCode?_eq_some_iff_mem, mem_layout_iff]

/-- The key is found again at its own code. -/
theorem ofCode?_code (k : Key) : ofCode? k.code = some k := ofCode?_eq_some_iff.2 rfl

/-- A code on the layout is the code of its key, and so of no other key. -/
theorem code_of_ofCode? {s : String} {k : Key} (h : ofCode? s = some k) : k.code = s :=
  (ofCode?_eq_some_iff.1 h).symm

theorem ofCode?_eq_none_iff {s : String} : ofCode? s = none ↔ ∀ k : Key, s ≠ k.code := by
  rw [Option.eq_none_iff_forall_ne_some]
  simp only [ne_eq, ofCode?_eq_some_iff]

/-- **Codes and keys are inverse over all texts.**  A text is the code of a key exactly when the key
is found at it; so every key has exactly one code, every text that is not the code of a key has no
key, and the search for the code of a key always succeeds. -/
theorem ofCode?_inverse_code :
    (∀ s k, ofCode? s = some k ↔ s = k.code) ∧
      (∀ k, ∃! s, ofCode? s = some k) ∧
      (∀ s, ofCode? s = none ↔ ∀ k : Key, s ≠ k.code) ∧
      ∀ k, entryOf? k = some (k.code, k) := by
  refine ⟨fun s k => ofCode?_eq_some_iff, ?_, fun s => ofCode?_eq_none_iff, entryOf?_eq_some⟩
  intro k
  refine ⟨k.code, ofCode?_code k, ?_⟩
  intro s hs
  exact (code_of_ofCode? hs).symm

/-- No text, another case, the beginning of a code, a code with more behind it, and a code with a
Cyrillic letter have no key. -/
example : ∀ s ∈ ["", "keyq", "Key", "KeyQ ", "Digit12", "\u041aeyQ"], ofCode? s = none := by
  decide

end Key

end HostDevices
