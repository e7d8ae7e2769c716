import HostDevices.KeyEvent

/-!
# The demo's window

The window tells in every frame which keys are held, by the names it has for them.  The demo knows
seventeen of these keys and compares them with the frame before: what is held no more has been
released, what is newly held has been pressed.

* `Window.heldCodes` — the physical codes of the known keys in a list of names.
* `Window.changes` — the key events between two frames.
-/

namespace HostDevices.Demo

namespace Window

/-- The keys the demo knows: the window's name of each and its physical code. -/
def keyNames : List (String × String) :=
  [("Key1", "Digit1"), ("Key2", "Digit2"), ("Key3", "Digit3"), ("Key4", "Digit4"),
   ("Q", "KeyQ"), ("W", "KeyW"), ("E", "KeyE"), ("R", "KeyR"),
   ("A", "KeyA"), ("S", "KeyS"), ("D", "KeyD"), ("F", "KeyF"),
   ("Z", "KeyZ"), ("X", "KeyX"), ("C", "KeyC"), ("V", "KeyV"),
   ("Escape", "Escape")]

/-- The code of the key that ends the demo. -/
def escape : String := "Escape"

/-- The physical code of a key by the window's name. -/
def codeOf? (name : String) : Option String := keyNames.lookup name

/-- The set of codes of the named keys, listed in the order of `keyNames`: unknown names are passed
over, and neither the order of the names nor a name that is there twice matters. -/
def heldCodes (names : List String) : List String :=
  (keyNames.map Prod.snd).filter fun code => names.any fun name => codeOf? name == some code

theorem mem_heldCodes {names : List String} {code : String} :
    code ∈ heldCodes names ↔ ∃ name ∈ names, codeOf? name = some code := by
  simp only [heldCodes, List.mem_filter, List.any_eq_true, beq_iff_eq]
  constructor
  · exact fun h => h.2
  · rintro ⟨name, hname, hcode⟩
    obtain ⟨before, behind, htable, -⟩ := List.lookup_eq_some_iff.1 hcode
    exact ⟨List.mem_map.2 ⟨(name, code), by rw [htable]; simp, rfl⟩, name, hname, hcode⟩

/-- An order in which the members of a set of codes are visited. -/
structure Order where
  arrange : List String → List String
  perm : ∀ codes, (arrange codes).Perm codes

/-- The members as they are listed. -/
def Order.listed : Order := ⟨fun codes => codes, fun codes => .refl codes⟩

/-- The key events between two frames: the releases and then the presses, each in its order. -/
def changes (releaseOrder pressOrder : Order) (held now : List String) : List KeyEvent :=
  (releaseOrder.arrange (held.filter (· ∉ now))).map KeyEvent.release ++
    (pressOrder.arrange (now.filter (· ∉ held))).map KeyEvent.press

end Window

/-- What the world does in one frame. -/
structure Frame where
  /-- The names of the keys held; `none` when the window does not tell. -/
  keys : Option (List String)
  /-- Why the window cannot be updated, if it cannot. -/
  failure : Option String := none
  /-- How many microseconds the frame takes beyond its due time. -/
  delay : Int := 0
  /-- The order in which the releases of the frame are queued. -/
  releaseOrder : Window.Order := .listed
  /-- The order in which the presses of the frame are queued. -/
  pressOrder : Window.Order := .listed

/-- The codes held in a frame; none when the window does not tell. -/
def Frame.codes (f : Frame) : List String := Window.heldCodes (f.keys.getD [])

end HostDevices.Demo
