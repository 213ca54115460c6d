-- SUMMARY: Changing the first element of a list that has some property.

/-!
# Changing the first match

`modifyFirst p f` applies `f` to the first element with the property `p` and
leaves everything else as it is.
-/

namespace Statescope

def modifyFirst (p : α → Bool) (f : α → α) : List α → List α
  | [] => []
  | a :: as => if p a then f a :: as else a :: modifyFirst p f as

end Statescope
