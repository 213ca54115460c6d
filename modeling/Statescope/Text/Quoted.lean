-- SUMMARY: Texts in double quotes, on one line and with nothing in them that cannot be seen.
import Statescope.Text.Standalone

/-!
# Quoted text

A quoted text stands between double quotes. Quotes, backslashes and the common
controls are written as a backslash and a letter, any other character that does
not stand alone as its number in hexadecimal.
-/

namespace Statescope.Text

/-- What is written after a backslash for a character that has a short form. -/
def shortForm? : Char → Option Char
  | '"' => some '"'
  | '\\' => some '\\'
  | '\n' => some 'n'
  | '\r' => some 'r'
  | '\t' => some 't'
  | '\x00' => some '0'
  | _ => none

/-- The number of a character, between braces. -/
def numberForm (c : Char) : List Char :=
  ['\\', 'u', '\x7b'] ++ Nat.toDigits 16 c.toNat ++ ['\x7d']

/-- A character as it is written inside quotes. -/
def quotedChar (c : Char) : List Char :=
  match shortForm? c with
  | some letter => ['\\', letter]
  | none => if isStandalone c then [c] else numberForm c

def quoted (cs : List Char) : List Char := '"' :: cs.flatMap quotedChar ++ ['"']

end Statescope.Text
