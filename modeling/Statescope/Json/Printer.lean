-- SUMMARY: The text of a JSON document, compact or indented.
import Statescope.Json.Basic

/-!
# Writing JSON

One printer with two styles. The compact style writes no blank at all; the
indented style puts every item and member on a line of its own, two blanks
deeper than the line that opens it, and keeps empty arrays and objects on one
line.
-/

namespace Statescope.Json

/-! ## Texts -/

/-- A character inside quotes. Quotes, backslashes and control characters are
escaped, everything else stands for itself. -/
def escape (c : Char) : List Char :=
  if c = '"' then ['\\', '"']
  else if c = '\\' then ['\\', '\\']
  else if c = '\x08' then ['\\', 'b']
  else if c = '\x0c' then ['\\', 'f']
  else if c = '\n' then ['\\', 'n']
  else if c = '\r' then ['\\', 'r']
  else if c = '\t' then ['\\', 't']
  else if c < ' ' then
    ['\\', 'u', '0', '0', Nat.digitChar (c.toNat / 16), Nat.digitChar (c.toNat % 16)]
  else [c]

/-- A text in quotes. A text without content is written as half of a surrogate pair. -/
def quote : Option String → List Char
  | some s => '"' :: s.toList.flatMap escape ++ ['"']
  | none => ['"', '\\', 'u', 'd', '8', '0', '0', '"']

/-! ## Documents -/

inductive Style where
  | compact
  | indented
deriving DecidableEq

namespace Style

/-- What stands before an item at this depth. -/
def gap : Style → Nat → List Char
  | .compact, _ => []
  | .indented, depth => '\n' :: List.replicate (2 * depth) ' '

/-- What stands between a key and its value. -/
def colon : Style → List Char
  | .compact => [':']
  | .indented => [':', ' ']

end Style

mutual

def render (style : Style) (depth : Nat) : Json → List Char
  | .null => "null".toList
  | .bool true => "true".toList
  | .bool false => "false".toList
  | .number n => n.render ['+']
  | .string s => quote s
  | .array [] => ['[', ']']
  | .array (item :: items) =>
    '[' :: style.gap (depth + 1) ++ render style (depth + 1) item
      ++ renderItems style (depth + 1) items ++ style.gap depth ++ [']']
  | .object [] => ['\x7b', '\x7d']
  | .object ((key, value) :: members) =>
    '\x7b' :: style.gap (depth + 1) ++ quote key ++ style.colon ++ render style (depth + 1) value
      ++ renderMembers style (depth + 1) members ++ style.gap depth ++ ['\x7d']

/-- The items after the first one. -/
def renderItems (style : Style) (depth : Nat) : List Json → List Char
  | [] => []
  | item :: items =>
    ',' :: style.gap depth ++ render style depth item ++ renderItems style depth items

/-- The members after the first one. -/
def renderMembers (style : Style) (depth : Nat) : List (Option String × Json) → List Char
  | [] => []
  | (key, value) :: members =>
    ',' :: style.gap depth ++ quote key ++ style.colon ++ render style depth value
      ++ renderMembers style depth members

end

def compact (j : Json) : String := String.ofList (j.render .compact 0)

def indented (j : Json) : String := String.ofList (j.render .indented 0)

end Statescope.Json
