import RuleCalendar.Text.Digit
import RuleCalendar.Text.Word

/-!
# Patterns over text

A pattern describes a stretch of text and what is read from it. It has no unbounded repetition, so
its meaning is a function by recursion on the pattern: from a place in a text to the list of ways
to match there, most wanted first, each with the numbers it read in order and the place where it
ends. A search tries the places of a text from left to right and takes the first way at the first
place that has one.
-/

namespace RuleCalendar

/-- A place in a text: the characters before it, nearest first, and those after it. -/
structure Cursor where
  /-- The characters before the place, nearest first. -/
  behind : List Char
  /-- The characters after the place. -/
  ahead : List Char
  deriving DecidableEq, Repr

namespace Cursor

/-- The place after the given characters, if they stand ahead. -/
def skip? : List Char → Cursor → Option Cursor
  | [], here => some here
  | c :: cs, ⟨behind, d :: ahead⟩ => if c = d then skip? cs ⟨d :: behind, ahead⟩ else none
  | _ :: _, ⟨_, []⟩ => none

/-- Whether a word begins or ends at the place. -/
def atEdge (here : Cursor) : Bool :=
  (here.behind.head?.any Text.isWord) != (here.ahead.head?.any Text.isWord)

/-- The numbers written with at least `least` and at most `most` further digits, longest first, when
digits worth `value` have been read. -/
def numbers (value least : Nat) : Nat → Cursor → List (Nat × Cursor)
  | 0, here => if least = 0 then [(value, here)] else []
  | most + 1, here =>
    (match here with
      | ⟨behind, c :: ahead⟩ =>
        match Text.digitValue? c with
        | some d => numbers (10 * value + d) (least - 1) most ⟨c :: behind, ahead⟩
        | none => []
      | _ => []) ++ if least = 0 then [(value, here)] else []

end Cursor

/-- What may stand in a text, and the numbers that are read from it. -/
inductive Pattern where
  /-- These characters. -/
  | text (chars : List Char)
  /-- A number of `least` to `most` decimal digits, as many as possible; reads the number. -/
  | number (least most : Nat)
  /-- Nothing; reads `n`. -/
  | reads (n : Int)
  /-- The beginning or end of a word. -/
  | edge
  /-- The pattern, or else nothing. -/
  | optional (p : Pattern)
  /-- The first pattern, or else the second. -/
  | either (p q : Pattern)
  /-- The first pattern and the second after it. -/
  | follow (p q : Pattern)
  /-- Nothing, where the pattern does not match ahead. -/
  | unlessAhead (p : Pattern)
  /-- Nothing, where these characters do not stand behind. -/
  | unlessBehind (chars : List Char)
  deriving DecidableEq, Repr

namespace Pattern

instance : Append Pattern := ⟨follow⟩

instance : OrElse Pattern := ⟨fun p q ↦ either p (q ())⟩

instance : Coe String Pattern := ⟨fun s ↦ text s.toList⟩

/-- The pattern that matches nowhere. -/
def never : Pattern := unlessAhead (text [])

/-- One of several patterns, the earlier ones preferred. -/
def oneOf : List Pattern → Pattern
  | [] => never
  | [p] => p
  | p :: ps => either p (oneOf ps)

/-- One of several texts. -/
def oneOfTexts (texts : List String) : Pattern := oneOf (texts.map fun s ↦ text s.toList)

/-- One of several names; reads the number that goes with the name. -/
def name (names : List (String × Int)) : Pattern :=
  oneOf (names.map fun n ↦ text n.1.toList ++ reads n.2)

/-- The pattern between two word edges. -/
def whole (p : Pattern) : Pattern := edge ++ p ++ edge

/-- The ways to match at a place, most wanted first: what is read, and where the match ends. -/
def run : Pattern → Cursor → List (List Int × Cursor)
  | text chars, here => (here.skip? chars).toList.map fun e ↦ ([], e)
  | number least most, here => (here.numbers 0 least most).map fun r ↦ ([(r.1 : Int)], r.2)
  | reads n, here => [([n], here)]
  | edge, here => if here.atEdge then [([], here)] else []
  | optional p, here => p.run here ++ [([], here)]
  | either p q, here => p.run here ++ q.run here
  | follow p q, here =>
    (p.run here).flatMap fun m ↦ (q.run m.2).map fun r ↦ (m.1 ++ r.1, r.2)
  | unlessAhead p, here => if (p.run here).isEmpty then [([], here)] else []
  | unlessBehind chars, here =>
    if chars.reverse.isPrefixOf here.behind then [] else [([], here)]

/-- What the pattern reads at the first place ahead where it matches. -/
def searchFrom (p : Pattern) (behind : List Char) : List Char → Option (List Int)
  | [] => (p.run ⟨behind, []⟩).head?.map (·.1)
  | c :: ahead =>
    match (p.run ⟨behind, c :: ahead⟩).head? with
    | some m => some m.1
    | none => p.searchFrom (c :: behind) ahead

/-- What the pattern reads at the first place of a text where it matches. -/
def search (p : Pattern) (s : List Char) : Option (List Int) := p.searchFrom [] s

/-- Whether the pattern matches somewhere in a text. -/
def occursIn (p : Pattern) (s : List Char) : Bool := (p.search s).isSome

end Pattern

end RuleCalendar
