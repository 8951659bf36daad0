import RuleCalendar.Text.CaseTable

/-!
# Lower case

The full lower-case mapping. Two letters need a rule of their own: `İ` becomes two characters, and
`Σ` becomes `ς` where it ends a word and `σ` elsewhere.
-/

namespace RuleCalendar.Text

/-- The lower-case letter of a letter in the run, if the run holds it. -/
def CaseRun.lower? (r : CaseRun) (point : Nat) : Option Nat :=
  if r.first ≤ point ∧ point ≤ r.last ∧ (point - r.first) % r.stride = 0 then
    some (point + r.shift).toNat
  else none

/-- The lower case of a character that does not hang on its neighbours. -/
def lowerChar (c : Char) : List Char :=
  if c.toNat < 128 then [c.toLower]
  else if c = 'İ' then ['i', '\u0307']
  else match caseRuns.findSome? (·.lower? c.toNat) with
    | some n => [Char.ofNat n]
    | none => [c]

/-- Whether the first character that counts is one with case. -/
def startsCased (s : List Char) : Bool :=
  match s.dropWhile fun c ↦ inRanges caseIgnorableRanges c.toNat with
  | c :: _ => inRanges casedRanges c.toNat
  | [] => false

/-- The lower case of the rest of a text, given what stands before it, nearest first. -/
def lowerAfter (before : List Char) : List Char → List Char
  | [] => []
  | c :: rest =>
    (if c = 'Σ' then [if startsCased before && !startsCased rest then 'ς' else 'σ']
      else lowerChar c) ++ lowerAfter (c :: before) rest

/-- The text in lower case. -/
def lower (s : List Char) : List Char := lowerAfter [] s

end RuleCalendar.Text
