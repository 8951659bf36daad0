import RuleCalendar.Yaml.Fault
import RuleCalendar.Yaml.Plain

/-!
# Nodes of YAML

A document is a tree of scalars, lists and mappings. A tag on a node says what it is taken for;
without one, that is told by its form. A mapping may merge others: their entries come before its
own, so that its own values hold.
-/

namespace RuleCalendar.Yaml

/-- A node of a document. -/
inductive Node where
  /-- A scalar, which is plain or a text if it has no tag. -/
  | scalar (tag : Option String) (plain : Bool) (text : List Char)
  /-- The items of a list. -/
  | list (tag : Option String) (items : List Node)
  /-- The entries of a mapping. -/
  | mapping (tag : Option String) (entries : List (Node × Node))
  /-- A mapping that merges something else than mappings. -/
  | unmergeable (tag : Option String)
  deriving Repr

/-- The tag of a kind of value. -/
def standardTag (name : String) : String := "tag:yaml.org,2002:" ++ name

namespace Node

/-- The node of an empty place. -/
def empty : Node := scalar none true []

/-- What a scalar is taken for by its form. -/
def formOf (plain : Bool) (text : List Char) : PlainKind :=
  if plain then PlainKind.ofText text else .text

/-- Whether a key merges another mapping. -/
def isMerge : Node → Bool
  | scalar none plain text => formOf plain text = .merge
  | scalar (some tag) _ _ | list (some tag) _ | mapping (some tag) _ | unmergeable (some tag) =>
    tag = standardTag "merge"
  | _ => false

/-- A key as it is taken in a mapping: the key of a default value is a text there. -/
def asKey : Node → Node
  | scalar none plain text => scalar none (plain && formOf plain text != .default) text
  | scalar (some tag) plain text =>
    if tag = standardTag "value" then scalar none false text else scalar (some tag) plain text
  | node => node

/-- The entries of a mapping that is merged. -/
def entriesOf? : Node → Option (List (Node × Node))
  | mapping _ entries => some entries
  | _ => none

/-- The entries that the value of a merging key stands for. Of several mappings the first comes
last. -/
def merged? : Node → Option (List (Node × Node))
  | mapping _ entries => some entries
  | list _ items => (items.mapM entriesOf?).map fun all ↦ all.reverse.flatten
  | scalar .. | unmergeable _ => none

/-- A mapping of entries, the merged ones first. -/
def ofEntries (tag : Option String) (entries : List (Node × Node)) : Node :=
  let merging := (entries.filter fun e ↦ e.1.isMerge).map (·.2)
  let own := (entries.filter fun e ↦ !e.1.isMerge).map fun e ↦ (e.1.asKey, e.2)
  match merging.mapM merged? with
  | some merged => mapping tag (merged.flatten ++ own)
  | none => unmergeable tag

end Node

end RuleCalendar.Yaml
