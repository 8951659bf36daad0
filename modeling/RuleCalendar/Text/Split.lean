/-!
# Splitting text

A text split at every occurrence of a character.
-/

namespace RuleCalendar.Text

/-- The parts of a text between the occurrences of a character; there is always at least one. -/
def splitAt (mark : Char) : List Char → List (List Char)
  | [] => [[]]
  | c :: rest =>
    if c = mark then [] :: splitAt mark rest
    else match splitAt mark rest with
      | part :: parts => (c :: part) :: parts
      | [] => [[c]]

end RuleCalendar.Text
