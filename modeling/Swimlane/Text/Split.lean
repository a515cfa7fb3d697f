/-!
# Splitting a text

- `Text.splitAt`: the parts of a text between the places where a character stands.
-/

namespace Swimlane.Text

/-- The parts of a text between the separators. -/
def splitAt (separator : Char) : List Char → List (List Char)
  | [] => [[]]
  | c :: rest =>
    if c = separator then [] :: splitAt separator rest
    else
      match splitAt separator rest with
      | [] => [[c]]
      | part :: parts => (c :: part) :: parts

end Swimlane.Text
