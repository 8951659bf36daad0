import RuleCalendar.Yaml.Fault

/-!
# Tokens of YAML

A document is a sequence of tokens. Where a collection is told by indentation alone, tokens without
a text of their own stand for its beginning and its end, and a token for a key stands before what
turns out to be one when its colon is met.
-/

namespace RuleCalendar.Yaml

/-- What a tag says before it is looked up: a handle, if there is one, and the rest. -/
structure TagName where
  /-- The handle. -/
  handle : Option String
  /-- The rest. -/
  suffix : String
  deriving DecidableEq, Repr

/-- A line about the document that follows it. -/
inductive Directive where
  /-- The version of YAML. -/
  | version (major minor : Nat)
  /-- What a handle stands for. -/
  | handle (name expansion : String)
  /-- Anything else. -/
  | other
  deriving DecidableEq, Repr

/-- A token. -/
inductive Token where
  /-- The end of the text. -/
  | finish
  /-- A directive. -/
  | directive (d : Directive)
  /-- The mark before a document. -/
  | documentStart
  /-- The mark after a document. -/
  | documentEnd
  /-- The beginning of a sequence told by indentation. -/
  | blockSequence
  /-- The beginning of a mapping told by indentation. -/
  | blockMapping
  /-- The end of a collection told by indentation. -/
  | blockEnd
  /-- The bracket before a list. -/
  | listOpen
  /-- The bracket after a list. -/
  | listClose
  /-- The bracket before a mapping. -/
  | mappingOpen
  /-- The bracket after a mapping. -/
  | mappingClose
  /-- A comma between brackets. -/
  | comma
  /-- The hyphen before an entry of a sequence. -/
  | entry
  /-- What follows is a key. -/
  | key
  /-- What follows is a value. -/
  | value
  /-- A reference to an anchor. -/
  | reference (name : String)
  /-- The name of what follows. -/
  | anchor (name : String)
  /-- What kind of node follows. -/
  | tag (t : TagName)
  /-- A scalar, and whether it is plain. -/
  | scalar (plain : Bool) (text : List Char)
  /-- From here on the text cannot be read. -/
  | fault (e : ReadError)
  deriving Repr

end RuleCalendar.Yaml
