-- SUMMARY: Splitting texts at the first occurrence of a word, at a character, and into lines.

/-!
# Splitting

Texts are lists of characters here. `splitFirst?` cuts around the first
occurrence of a word; splitting at a character and into lines follow.
-/

namespace Statescope.Text

/-- What stands after `word`, if the text starts with it. -/
def afterWord? : List Char → List Char → Option (List Char)
  | [], cs => some cs
  | _ :: _, [] => none
  | w :: word, c :: cs => if w = c then afterWord? word cs else none

theorem afterWord?_eq_some {word cs rest : List Char} :
    afterWord? word cs = some rest ↔ cs = word ++ rest := by
  induction word generalizing cs with
  | nil => simp [afterWord?]
  | cons w word ih =>
    cases cs with
    | nil => simp [afterWord?]
    | cons c cs =>
      simp only [afterWord?, List.cons_append, List.cons.injEq]
      split
      · next h => simp [ih, h]
      · next h => simp [Ne.symm h]

/-- What stands before and after the first occurrence of `word`. -/
def splitFirst? (word : List Char) : List Char → Option (List Char × List Char)
  | [] => if word = [] then some ([], []) else none
  | c :: cs =>
    match afterWord? word (c :: cs) with
    | some rest => some ([], rest)
    | none => (splitFirst? word cs).map fun (before, after) => (c :: before, after)

/-- The parts between the occurrences of a character, one more than there are of them. -/
def splitOn (sep : Char) : List Char → List (List Char)
  | [] => [[]]
  | c :: cs =>
    if c = sep then [] :: splitOn sep cs
    else match splitOn sep cs with
      | part :: parts => (c :: part) :: parts
      | [] => [[c]]

/-- A line without the carriage return at its end. -/
def dropReturn (line : List Char) : List Char :=
  if line.getLast? = some '\r' then line.dropLast else line

/-- The lines of a text. A line feed ends a line, and what follows the last one is a
line unless it is empty; a carriage return before a line feed belongs to the end. -/
def lines (cs : List Char) : List (List Char) :=
  let parts := splitOn '\n' cs
  let ended := parts.dropLast.map dropReturn
  match parts.getLast? with
  | some (c :: rest) => ended ++ [c :: rest]
  | _ => ended

end Statescope.Text
