import RuleCalendar.Text.WordTable

/-!
# Word characters

A word is a maximal run of letters, numeric characters and underscores.
-/

namespace RuleCalendar.Text

/-- Letters and numeric characters of any script, and the underscore. -/
def isWord (c : Char) : Bool :=
  c.isAlphanum || c == '_' || (128 ≤ c.toNat && inRanges alphanumericRanges c.toNat)

/-- The maximal runs of word characters of a text, in order. -/
def tokens : List Char → List (List Char)
  | [] => []
  | [c] => if isWord c then [[c]] else []
  | c :: d :: rest =>
    if !isWord c then tokens (d :: rest)
    else if !isWord d then [c] :: tokens (d :: rest)
    else match tokens (d :: rest) with
      | t :: ts => (c :: t) :: ts
      | [] => [[c]]

end RuleCalendar.Text
