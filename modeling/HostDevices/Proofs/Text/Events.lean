import HostDevices.Source.Queue
import HostDevices.Proofs.Text.SelfDelimiting

/-!
# Texts of events and queues

The code of an event may be any text: it may hold quotes, backslashes and line breaks, and it may
itself look like an event in field notation or like a character written by number.  The texts of
events and of queues are unambiguous nevertheless, whatever set of characters is written by number.

* `Quoted.unescape` — takes the first character off a quoted text that has been opened.
* `Quoted.unescape_escape` — it takes off what was written for one character.
* `selfDelimiting_quoted`, `KeyEvent.selfDelimiting_textWith`,
  `EventQueue.selfDelimiting_textWith` — quoted texts, events and queues show where they end.
* `KeyEvent.texts_unambiguous` — events are told apart by their texts and by the warnings that name
  them, queues by their texts.
-/

namespace HostDevices

namespace Quoted

/-! ## Characters by number -/

/-- The value of a lower-case hexadecimal digit. -/
def hexValue (c : Char) : Nat :=
  if c.isDigit then c.toNat - '0'.toNat else c.toNat - 'a'.toNat + 10

/-- The number that lower-case hexadecimal digits denote. -/
def hexNumber (cs : List Char) : Nat := cs.foldl (fun n c => 16 * n + hexValue c) 0

theorem hexValue_digitChar : ∀ d < 16, hexValue (Nat.digitChar d) = d := by decide

theorem digitChar_ne_brace : ∀ d < 16, Nat.digitChar d ≠ '\x7d' := by decide

theorem hexNumber_concat (cs : List Char) (c : Char) :
    hexNumber (cs ++ [c]) = 16 * hexNumber cs + hexValue c := by
  rw [hexNumber, List.foldl_append]
  rfl

/-- A number is read from its digits. -/
theorem hexNumber_toDigits (n : Nat) : hexNumber (Nat.toDigits 16 n) = n := by
  induction n using Nat.strongRecOn with
  | ind n ih =>
    rw [Nat.toDigits_eq_if (by decide)]
    split
    · rename_i hlt
      show 16 * 0 + hexValue n.digitChar = n
      rw [hexValue_digitChar n hlt]
      omega
    · have hlast : n % 16 < 16 := Nat.mod_lt _ (by decide)
      rw [hexNumber_concat, ih (n / 16) (by omega), hexValue_digitChar _ hlast]
      omega

/-- The brace behind a number is none of its digits. -/
theorem ne_brace_of_mem_toDigits {n : Nat} {c : Char} (h : c ∈ Nat.toDigits 16 n) : c ≠ '\x7d' := by
  induction n using Nat.strongRecOn with
  | ind n ih =>
    rw [Nat.toDigits_eq_if (by decide)] at h
    split at h
    · rename_i hlt
      rw [List.mem_singleton.1 h]
      exact digitChar_ne_brace n hlt
    · rcases List.mem_append.1 h with hmem | hmem
      · exact ih (n / 16) (by omega) hmem
      · rw [List.mem_singleton.1 hmem]
        exact digitChar_ne_brace _ (Nat.mod_lt _ (by decide))

/-! ## Quoted text -/

/-- The character that has a name, by its name. -/
def named? : Char → Option Char
  | '"' => some '"'
  | '\\' => some '\\'
  | 'n' => some '\n'
  | 'r' => some '\r'
  | 't' => some '\t'
  | '0' => some '\x00'
  | _ => none

/-- Takes the first character off a quoted text that has been opened, and leaves what is behind it.
At the closing quote there is none. -/
def unescape : List Char → Option (Char × List Char)
  | [] => none
  | '"' :: _ => none
  | '\\' :: 'u' :: '\x7b' :: rest =>
    some (Char.ofNat (hexNumber (rest.takeWhile (· != '\x7d'))),
      (rest.dropWhile (· != '\x7d')).tail)
  | '\\' :: mark :: rest => (named? mark).map fun c => (c, rest)
  | c :: rest => some (c, rest)

variable (hidden : Char → Bool)

theorem unescape_byNumber (c : Char) (rest : List Char) :
    unescape (byNumber c ++ rest) = some (c, rest) := by
  have hdigits : ∀ d ∈ Nat.toDigits 16 c.toNat, (d != '\x7d') = true := by
    intro d hd
    exact bne_iff_ne.2 (ne_brace_of_mem_toDigits hd)
  have hopened : byNumber c ++ rest =
      '\\' :: 'u' :: '\x7b' :: (Nat.toDigits 16 c.toNat ++ '\x7d' :: rest) := by
    simp [byNumber]
  rw [hopened, unescape, List.takeWhile_append_of_pos hdigits, List.dropWhile_append_of_pos hdigits]
  simp [hexNumber_toDigits]

theorem unescape_plain {c : Char} (hquote : c ≠ '"') (hslash : c ≠ '\\') (rest : List Char) :
    unescape (c :: rest) = some (c, rest) := by
  unfold unescape
  split <;> simp_all

/-- What was written for a character is taken off as that character, whether by itself, by name or
by number. -/
theorem unescape_escape (c : Char) (rest : List Char) :
    unescape (escape hidden c ++ rest) = some (c, rest) := by
  unfold escape
  split
  case h_7 hquote hslash _ _ _ _ =>
    split
    · exact unescape_byNumber c rest
    · exact unescape_plain hquote hslash rest
  all_goals rfl

/-- What is written for characters is never taken for the closing quote. -/
theorem escape_append_ne (c : Char) (x y : List Char) : escape hidden c ++ x ≠ '"' :: y := by
  intro h
  have hread := unescape_escape hidden c x
  rw [h] at hread
  cases hread

theorem selfDelimiting_escape : SelfDelimiting (escape hidden) :=
  SelfDelimiting.of_read Function.injective_id unescape (unescape_escape hidden)

end Quoted

/-- A quoted text ends at its closing quote, and tells what was quoted. -/
theorem selfDelimiting_quoted (hidden : Char → Bool) :
    SelfDelimiting fun s => (quoted hidden s).toList := by
  have hchars := (Quoted.selfDelimiting_escape hidden).repeated (Quoted.escape_append_ne hidden)
  have hinj : Function.Injective String.toList := fun _ _ => String.toList_injective
  have hopened := (hchars.comap hinj).lead ['"']
  intro s t x y h
  apply hopened
  simpa [quoted] using h

namespace KeyEvent

theorem Kind.selfDelimiting_text : SelfDelimiting fun kind : Kind => kind.text.toList := by
  intro a b x y h
  cases a <;> cases b <;> simp_all [Kind.text]

variable (hidden : Char → Bool)

theorem toList_textWith (e : KeyEvent) :
    (e.textWith hidden).toList =
      "KeyEvent \x7b kind: ".toList ++
        (e.kind.text.toList ++ (", code: ".toList ++ (quoted hidden e.code).toList)) ++
        " \x7d".toList := by
  simp [textWith, fieldsText]

/-- The text of an event ends at its brace, and tells the event. -/
theorem selfDelimiting_textWith :
    SelfDelimiting fun e : KeyEvent => (e.textWith hidden).toList := by
  have hcode := (selfDelimiting_quoted hidden).lead ", code: ".toList
  have hparts := Kind.selfDelimiting_text.pair hcode
  have hfields := (hparts.lead "KeyEvent \x7b kind: ".toList).close " \x7d".toList
  have hinj : Function.Injective fun e : KeyEvent => (e.kind, e.code) := by
    intro e f h
    obtain ⟨hkind, hsame⟩ := Prod.mk.inj h
    cases e
    cases f
    simp_all
  intro e f x y h
  apply hfields.comap hinj
  simpa only [toList_textWith] using h

/-- No event begins with the bracket that closes a list. -/
theorem toList_textWith_append_ne (e : KeyEvent) (x y : List Char) :
    (e.textWith hidden).toList ++ x ≠ ']' :: y := by
  rw [toList_textWith]
  simp

theorem textWith_inj {e f : KeyEvent} : e.textWith hidden = f.textWith hidden ↔ e = f := by
  constructor
  · intro h
    exact (selfDelimiting_textWith hidden).eq_of_eq (congrArg String.toList h)
  · rintro rfl
    rfl

end KeyEvent

namespace EventQueue

/-- The text of a queue ends at its brace, and tells its events in order. -/
theorem selfDelimiting_textWith (hidden : Char → Bool) :
    SelfDelimiting fun q : EventQueue => (q.textWith hidden).toList := by
  have hevents := SelfDelimiting.list (KeyEvent.selfDelimiting_textWith hidden)
    (KeyEvent.toList_textWith_append_ne hidden)
  have hfields := (hevents.lead "EventQueue \x7b events: ".toList).close " \x7d".toList
  have hinj : Function.Injective EventQueue.events := by
    intro p q h
    exact congrArg EventQueue.mk h
  intro p q x y h
  apply hfields.comap hinj
  simpa [textWith, fieldsText] using h

end EventQueue

/-- **Texts of events and queues are unambiguous.**  Whatever characters are written by number, and
whatever the codes of the events hold: two events have the same text, and the same warning that no
room was left for them, exactly when they are the same event; and two queues have the same text
exactly when they hold the same events in the same order. -/
theorem KeyEvent.texts_unambiguous (hidden : Char → Bool) :
    (∀ e f : KeyEvent, e.textWith hidden = f.textWith hidden ↔ e = f) ∧
      (∀ e f : KeyEvent,
        (Record.eventDropped e).messageWith hidden = (Record.eventDropped f).messageWith hidden ↔
          e = f) ∧
      ∀ p q : EventQueue, p.textWith hidden = q.textWith hidden ↔ p.events = q.events := by
  refine ⟨fun e f => textWith_inj hidden, ?_, ?_⟩
  · intro e f
    show "Event queue full, dropping " ++ e.textWith hidden =
      "Event queue full, dropping " ++ f.textWith hidden ↔ e = f
    rw [String.append_right_inj, textWith_inj]
  · intro p q
    constructor
    · intro h
      have hsame : p = q := (EventQueue.selfDelimiting_textWith hidden).eq_of_eq
        (congrArg String.toList h)
      rw [hsame]
    · intro h
      rw [EventQueue.textWith, EventQueue.textWith, h]

/-- A control character, and a code that looks like the way it is written. -/
example :
    (KeyEvent.press "\x01").text = "KeyEvent \x7b kind: Press, code: \"\\u\x7b1\x7d\" \x7d" ∧
      (KeyEvent.press "\\u\x7b1\x7d").text =
        "KeyEvent \x7b kind: Press, code: \"\\\\u\x7b1\x7d\" \x7d" := by
  decide +kernel

end HostDevices
