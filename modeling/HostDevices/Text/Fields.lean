/-!
# Field notation

Values are shown by the name of their kind and their named parts, as in
`Name { part: value, other: value }`, and lists in square brackets.

* `fieldsText` — a value with named parts.
* `listText` — several values.
* `optionText` — a value that may be missing.
-/

namespace HostDevices

/-- A value with named parts, in the order given. -/
def fieldsText (name : String) (parts : List (String × String)) : String :=
  name ++ " \x7b " ++ ", ".intercalate (parts.map fun part => part.1 ++ ": " ++ part.2) ++ " \x7d"

/-- Several values in square brackets. -/
def listText (items : List String) : String :=
  "[" ++ ", ".intercalate items ++ "]"

/-- A value that may be missing. -/
def optionText : Option String → String
  | none => "None"
  | some t => "Some(" ++ t ++ ")"

end HostDevices
