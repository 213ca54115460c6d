-- SUMMARY: The words in which a reader of JSON complains of a text.
import Statescope.Json.Parser

/-!
# Wording

What exactly is wrong with a text is for the reader of JSON to say, and nothing
but the message to the user depends on it. So the words are a parameter, one for
each kind of document, which may say different things of different texts.
-/

namespace Statescope

structure Wording where
  snapshot : String → String := fun _ => "not a snapshot document"
  bundle : String → String := fun _ => "not a bundle document"
  document : Json.Source → String := fun _ => "not a document of the expected shape"

end Statescope
