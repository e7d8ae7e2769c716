import HostDevices.Session.Keypad
import HostDevices.Source.Script
import Mathlib.Algebra.Ring.Nat
import Mathlib.Data.List.ReduceOption

/-!
# No key event is lost, repeated or reordered

A keypad on a scripted source is given its events in pieces: a sync stops at a gap, single entries
are taken or all of them dropped behind its back, and some events never pass through the source.
Here is the account of every entry.

* `KeySource.upToGap` — what a sync takes from a line of entries.
* `ControllerStep.puts`, `ControllerStep.removes`, `ControllerStep.tells` — the entries that a step
  puts into the source and those that it removes, and the events that it tells the keypad.
* `Accounted` — the account of a session: what was put in is what was removed and what is left.
* `ControllerStep.entries_run`, `ControllerStep.keypad_run` — the account of one step.
* `Controller.accounts_for_entries` — the account of any session, and of a stream cut by gaps.
-/

namespace HostDevices

open Session

namespace KeySource

/-- The entries up to the first gap, with the gap. -/
def upToGap : List (Option KeyEvent) → List (Option KeyEvent)
  | some e :: rest => some e :: upToGap rest
  | none :: _ => [none]
  | [] => []

/-- A line is what is in front of its first gap, with the gap, and what is behind it. -/
theorem upToGap_append_behindGap (line : List (Option KeyEvent)) :
    upToGap line ++ behindGap line = line := by
  fun_induction upToGap line with
  | case1 e rest ih => simp [behindGap, ih]
  | case2 rest => rfl
  | case3 => rfl

/-- The events up to the first gap are the batch in front of it. -/
theorem reduceOption_upToGap (line : List (Option KeyEvent)) :
    (upToGap line).reduceOption = batch line := by
  fun_induction upToGap line with
  | case1 e rest ih => rw [List.reduceOption_cons_of_some, ih, batch]
  | case2 rest => rfl
  | case3 => rfl

/-- The first gap is the only one that is taken, and where there is none, all entries are. -/
theorem upToGap_eq (line : List (Option KeyEvent)) :
    upToGap line = (batch line).map some ++ if none ∈ line then [none] else [] := by
  fun_induction upToGap line with
  | case1 e rest ih => simp [batch, ih]
  | case2 rest => simp [batch]
  | case3 => rfl

/-- Without a gap there is nothing behind it. -/
theorem behindGap_of_notMem {line : List (Option KeyEvent)} (h : none ∉ line) :
    behindGap line = [] := by
  fun_induction behindGap line with
  | case1 e rest ih => exact ih fun hmem => h (List.mem_cons_of_mem _ hmem)
  | case2 rest => exact absurd List.mem_cons_self h
  | case3 => rfl

/-- Where there is a gap, one gap is taken. -/
theorem count_none_upToGap {line : List (Option KeyEvent)} (h : none ∈ line) :
    (upToGap line).count none = 1 := by
  rw [upToGap_eq, if_pos h, List.count_append, List.count_eq_zero.2 (by simp), List.count_singleton]
  rfl

end KeySource

open KeySource

/-- How an entry leaves a source. -/
inductive Fate where
  | consumed
  | discarded
deriving DecidableEq, Repr

namespace ControllerStep

/-- The entries that a step puts into the source. -/
def puts : ControllerStep → List (Option KeyEvent)
  | onSource (.push e) => [some e]
  | onSource .pushGap => [none]
  | _ => []

/-- The entries that a step removes from the source, in order, with their fate. -/
def removes (c : Controller EventScript) : ControllerStep → List (Fate × Option KeyEvent)
  | sync => (upToGap c.source.line).map (.consumed, ·)
  | onSource .next => (c.source.line.take 1).map (.consumed, ·)
  | onSource .clear => c.source.line.map (.discarded, ·)
  | _ => []

/-- The events that a step tells the keypad, in order. -/
def tells (c : Controller EventScript) : ControllerStep → List KeyEvent
  | sync => (upToGap c.source.line).reduceOption
  | handle e => [e]
  | _ => []

end ControllerStep

/-- A keypad on a script, a fresh one unless another is given. -/
def Controller.onScript (line : List (Option KeyEvent)) (pad : Keypad := {}) :
    Controller EventScript :=
  ⟨pad, ⟨line⟩⟩

/-- The account of a session that starts with a fresh keypad on `line` and takes the steps
`done`. -/
structure Accounted (v : Verbosity) (line : List (Option KeyEvent)) (done : List ControllerStep) :
    Prop where
  /-- The entries ever put in are those removed, each once and in the order in which they were put
  in, and behind them those that are left. -/
  entries : line ++ done.flatMap ControllerStep.puts =
    (gather ControllerStep.removes (ControllerStep.run v) (.onScript line) done).map Prod.snd ++
      (after (ControllerStep.run v) (.onScript line) done).source.line
  /-- The keypad has handled the events that it was told, and no others. -/
  keypad : (after (ControllerStep.run v) (.onScript line) done).keypad =
    (Keypad.handleAll v {}
      (gather ControllerStep.tells (ControllerStep.run v) (.onScript line) done)).val
  /-- The records are the ones noted in handling them. -/
  records : journal (play (ControllerStep.run v) (.onScript line) done) =
    (Keypad.handleAll v {}
      (gather ControllerStep.tells (ControllerStep.run v) (.onScript line) done)).log
  /-- A sync at this point takes the entries up to the first gap, and the gap, or all of them where
  there is none.  It answers how many of the events that it took are on the layout. -/
  sync :
    let c := after (ControllerStep.run v) (.onScript line) done
    let out := (ControllerStep.sync.run v c).val
    let gap := if none ∈ c.source.line then [none] else []
    ∃ es : List KeyEvent,
      c.source.line = es.map some ++ gap ++ out.2.source.line ∧
      (none ∉ c.source.line → out.2.source.line = []) ∧
      ControllerStep.sync.removes c = (es.map some ++ gap).map (.consumed, ·) ∧
      ControllerStep.sync.tells c = es ∧
      out.1 = .count (es.countP fun e => (Key.ofCode? e.code).isSome)
  /-- A single entry that is taken at this point is handed out. -/
  next :
    let c := after (ControllerStep.run v) (.onScript line) done
    ((ControllerStep.onSource .next).run v c).val.1 = .event c.source.line.head?.join

namespace ControllerStep

variable (v : Verbosity) (c : Controller EventScript)

/-! ## One step -/

/-- A sync leaves what is behind the first gap. -/
@[simp] theorem line_sync : (sync.run v c).val.2.source.line = behindGap c.source.line :=
  c.entries_sync v

/-- What was in the source and what is put in are what is removed and what is left. -/
theorem entries_run (i : ControllerStep) :
    c.source.line ++ i.puts = (i.removes c).map Prod.snd ++ (i.run v c).val.2.source.line := by
  cases i with
  | sync => simp [puts, removes, Function.comp_def, upToGap_append_behindGap]
  | handle e => simp [puts, removes, run, silently, Controller.handle]
  | isPressed key => simp [puts, removes, run]
  | pressedKey => simp [puts, removes, run]
  | onSource step =>
    cases step with
    | push e => rfl
    | pushGap => rfl
    | next =>
      have hleft : ((onSource .next).run v c).val.2.source.line = c.source.line.tail :=
        entries_next c.source
      cases hline : c.source.line <;> simp [puts, removes, hleft, hline]
    | clear =>
      have hleft : ((onSource .clear).run v c).val.2.source.line = [] := rfl
      simp [puts, removes, Function.comp_def, hleft]
    | pending => simp [puts, removes, run, SourceStep.run]

/-- A step does to the keypad what the events that it tells do, and notes what they note. -/
theorem keypad_run (i : ControllerStep) :
    (fun out => out.2.keypad) <$> i.run v c = c.keypad.handleAll v (i.tells c) := by
  cases i with
  | sync =>
    have hdrained : (drain c.source).1 = batch c.source.line := fst_drain c.source
    simp [tells, run, Controller.sync, reduceOption_upToGap, hdrained]
  | handle e => simp [tells, run, silently, Controller.handle]
  | isPressed key => rfl
  | pressedKey => rfl
  | onSource step => cases step <;> rfl

/-! ## Many steps -/

theorem entries_after (steps : List ControllerStep) :
    c.source.line ++ steps.flatMap puts =
      (gather removes (run v) c steps).map Prod.snd ++ (after (run v) c steps).source.line := by
  induction steps generalizing c with
  | nil => simp [gather]
  | cons i rest ih =>
    calc c.source.line ++ (i :: rest).flatMap puts
        = (c.source.line ++ i.puts) ++ rest.flatMap puts := by simp
      _ = (i.removes c).map Prod.snd ++ ((i.run v c).val.2.source.line ++ rest.flatMap puts) := by
          rw [entries_run v c i, List.append_assoc]
      _ = (gather removes (run v) c (i :: rest)).map Prod.snd ++
            (after (run v) c (i :: rest)).source.line := by
          rw [ih, gather, List.map_append, List.append_assoc, after_cons]

/-- A session leaves the keypad, and its journal, as the events do that it tells the keypad. -/
theorem keypad_play (steps : List ControllerStep) :
    (⟨(after (run v) c steps).keypad, journal (play (run v) c steps)⟩ : Logged Keypad) =
      c.keypad.handleAll v (gather tells (run v) c steps) := by
  induction steps generalizing c with
  | nil => rfl
  | cons i rest ih =>
    have hval : (i.run v c).val.2.keypad = (c.keypad.handleAll v (i.tells c)).val :=
      congrArg Logged.val (keypad_run v c i)
    have hlog : (i.run v c).log = (c.keypad.handleAll v (i.tells c)).log := by
      rw [← keypad_run, Logged.log_map]
    rw [gather, Keypad.handleAll_append, after_cons, journal_play_cons]
    ext1
    · rw [Logged.val_bind, ← hval, ← ih]
    · rw [Logged.log_bind, ← hval, ← hlog, ← ih]

/-! ## A stream cut by gaps -/

/-- As many syncs as there are pieces between the gaps tell the keypad every event of the line and
leave nothing in the source. -/
theorem tells_syncs {gaps : Nat} (hgaps : c.source.line.count none = gaps) :
    gather tells (run v) c (List.replicate (gaps + 1) sync) = c.source.line.reduceOption ∧
      (after (run v) c (List.replicate (gaps + 1) sync)).source.line = [] := by
  induction gaps generalizing c with
  | zero =>
    have hnone : behindGap c.source.line = [] := behindGap_of_notMem (List.count_eq_zero.1 hgaps)
    have htaken : upToGap c.source.line = c.source.line := by
      rw [← List.append_nil (upToGap _), ← hnone, upToGap_append_behindGap]
    simp [gather, tells, htaken, hnone]
  | succ gaps ih =>
    have hmem : none ∈ c.source.line := List.count_pos_iff.1 (by omega)
    -- the sync passes one gap, so one gap less is left for the others
    have hbehind : (behindGap c.source.line).count none = gaps := by
      have hsplit := congrArg (List.count none) (upToGap_append_behindGap c.source.line)
      rw [List.count_append, count_none_upToGap hmem, hgaps] at hsplit
      omega
    obtain ⟨htold, hempty⟩ := ih (sync.run v c).val.2 (by rw [line_sync, hbehind])
    rw [List.replicate_succ, gather, after_cons]
    refine ⟨?_, hempty⟩
    rw [htold, line_sync, tells, ← List.reduceOption_append, upToGap_append_behindGap]

/-- Events that are handed straight to the keypad are the events that it is told. -/
theorem tells_handles (es : List KeyEvent) : gather tells (run v) c (es.map handle) = es := by
  induction es generalizing c with
  | nil => rfl
  | cons e rest ih => rw [List.map_cons, gather, ih, tells, List.singleton_append]

end ControllerStep

/-- How many a step has counted. -/
def Reply.counted : Reply → Nat
  | count n => n
  | _ => 0

/-- How many the steps of a session have counted, together. -/
def Session.total {δ : Type} (moments : List (Moment δ)) : Nat :=
  (moments.map fun m => m.reply.counted).sum

/-- Syncs count, together, the events that they tell the keypad and that are on the layout. -/
theorem ControllerStep.total_syncs (v : Verbosity) (c : Controller EventScript) (n : Nat) :
    total (play (run v) c (List.replicate n sync)) =
      (gather tells (run v) c (List.replicate n sync)).countP
        fun e => (Key.ofCode? e.code).isSome := by
  induction n generalizing c with
  | zero => rfl
  | succ n ih =>
    have hcount : (sync.run v c).val.1.counted =
        (sync.tells c).countP fun e => (Key.ofCode? e.code).isSome := by
      rw [tells, reduceOption_upToGap]
      exact Controller.count_sync v c
    rw [List.replicate_succ, gather, List.countP_append, ← ih, ← hcount]
    exact List.sum_cons

/-! ## The whole account -/

theorem Controller.accounted (v : Verbosity) (line : List (Option KeyEvent))
    (done : List ControllerStep) : Accounted v line done where
  entries := ControllerStep.entries_after v (.onScript line) done
  keypad := congrArg Logged.val (ControllerStep.keypad_play v (.onScript line) done)
  records := congrArg Logged.log (ControllerStep.keypad_play v (.onScript line) done)
  sync := by
    intro c out gap
    have hleft : out.2.source.line = behindGap c.source.line := ControllerStep.line_sync v c
    refine ⟨batch c.source.line, ?_, ?_, ?_, reduceOption_upToGap _, ?_⟩
    · rw [hleft, ← upToGap_eq, upToGap_append_behindGap]
    · intro hnone
      rw [hleft, behindGap_of_notMem hnone]
    · rw [← upToGap_eq, ControllerStep.removes]
    · exact congrArg Reply.count (c.count_sync v)
  next := congrArg Reply.event (fst_next _)

/-- **Every entry is accounted for.**  After any steps of a session on any script, each entry ever
put in has been consumed or discarded, once and in turn, or is still there, and the keypad has
handled the events that it was told.  Hence it does not matter where a stream of events is cut by
gaps: synced once for each piece, it leaves the keypad, the records and the total count that its
events leave when they are handed straight to the keypad. -/
theorem Controller.accounts_for_entries (v : Verbosity) (line : List (Option KeyEvent)) :
    (∀ done, Accounted v line done) ∧
      ∀ (pad : Keypad) (other : List (Option KeyEvent)),
        let es := line.reduceOption
        let syncs := List.replicate (line.count none + 1) ControllerStep.sync
        let cut := play (ControllerStep.run v) (.onScript line pad) syncs
        let straight := play (ControllerStep.run v) (.onScript other pad) (es.map .handle)
        (final (.onScript line pad) cut).source.line = [] ∧
          (final (.onScript line pad) cut).keypad =
            (final (.onScript other pad) straight).keypad ∧
          journal cut = journal straight ∧
          total cut = es.countP fun e => (Key.ofCode? e.code).isSome := by
  refine ⟨accounted v line, fun pad other => ?_⟩
  intro es syncs cut straight
  obtain ⟨htold, hempty⟩ := ControllerStep.tells_syncs v (.onScript line pad) rfl
  have hcut := ControllerStep.keypad_play v (.onScript line pad) syncs
  have hstraight := ControllerStep.keypad_play v (.onScript other pad) (es.map .handle)
  have htotal := ControllerStep.total_syncs v (.onScript line pad) (line.count none + 1)
  rw [ControllerStep.tells_handles] at hstraight
  have hsame := (hcut.trans (congrArg (pad.handleAll v) htold)).trans hstraight.symm
  refine ⟨hempty, congrArg Logged.val hsame, congrArg Logged.log hsame, ?_⟩
  exact htotal.trans (congrArg (List.countP _) htold)

end HostDevices
