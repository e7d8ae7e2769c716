/-!
# Quoted text

A text in double quotes in which nothing can be mistaken for its end: quotes and backslashes are
escaped, line breaks and other control characters have names, and characters that would not show
are written by number.  Which characters do not show is a parameter.

* `Quoted.escape` — what is written for one character.
* `quoted` — the quoted form of a text.
-/

namespace HostDevices

namespace Quoted

/-- A character by its number: lower-case hexadecimal digits, no zeros in front, in braces. -/
def byNumber (c : Char) : List Char :=
  ['\\', 'u', '\x7b'] ++ Nat.toDigits 16 c.toNat ++ ['\x7d']

/-- What is written for one character inside the quotes. -/
def escape (hidden : Char → Bool) : Char → List Char
  | '"' => ['\\', '"']
  | '\\' => ['\\', '\\']
  | '\n' => ['\\', 'n']
  | '\r' => ['\\', 'r']
  | '\t' => ['\\', 't']
  | '\x00' => ['\\', '0']
  | c => if hidden c then byNumber c else [c]

end Quoted

/-- The quoted form of a text, where `hidden` tells the characters written by number. -/
def quoted (hidden : Char → Bool) (s : String) : String :=
  "\"" ++ String.ofList (s.toList.flatMap (Quoted.escape hidden)) ++ "\""

end HostDevices
