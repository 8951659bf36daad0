import RuleCalendar.Yaml.Node.Basic
import RuleCalendar.Yaml.Numeral
import RuleCalendar.Yaml.Time

/-!
# What nodes of YAML stand for

A node without a tag is taken for what it looks like, and a node with one for what the tag says, if
it is of the right kind. Keys that are equal as numbers are one key, whether they are written as
truth values, as integers or with a fraction; the first of them stays, with the value of the last.
Of several faults the one nearest to the root is reported, and of those the first.
-/

namespace RuleCalendar.Yaml

/-- The number that a scalar is as a key, if it is one. -/
def keyNumber? : Scalar → Option (Int ⊕ Double)
  | .bool b => some (.inl (if b then 1 else 0))
  | .int n => some (.inl n)
  | .double x => some (x.integer?.elim (.inr x) .inl)
  | _ => none

/-- Whether two scalars are the same key. -/
def sameKey (k k' : Scalar) : Bool :=
  match keyNumber? k, keyNumber? k' with
  | some n, some n' => n = n'
  | none, none => k = k'
  | _, _ => false

/-- The entries with one more, whose value takes the place of that of an entry with the same key. -/
def putEntry (k : Scalar) (v : Value) : List (Scalar × Value) → List (Scalar × Value)
  | [] => [(k, v)]
  | e :: es => if sameKey e.1 k then (e.1, v) :: es else e :: putEntry k v es

/-- The truth value of a word. -/
def readTruth (text : List Char) : Except ReadError Scalar :=
  let word := String.ofList (text.map Char.toLower)
  if trueWords.contains word then .ok (.bool true)
  else if falseWords.contains word then .ok (.bool false)
  else .error (.badTruth word)

/-- The scalar that a text stands for once it is taken for something. -/
def scalarOf (kind : PlainKind) (text : List Char) : Except ReadError Scalar :=
  match kind with
  | .text => .ok (.text (String.ofList text))
  | .null => .ok .null
  | .truth => readTruth text
  | .integer => (readInteger text).map Scalar.int
  | .real => (readReal text).map Scalar.double
  | .time => readTime text
  | .merge | .default => .error (.form .unfitTag)

/-- What the tags of scalars say. -/
def scalarTags : List (String × PlainKind) :=
  [(standardTag "str", .text), (standardTag "null", .null), (standardTag "bool", .truth),
    (standardTag "int", .integer), (standardTag "float", .real), (standardTag "timestamp", .time)]

namespace Node

/-- The scalar that a node is, if it is one. -/
def toScalar : Node → Except ReadError Scalar
  | scalar none plain text => scalarOf (formOf plain text) text
  | scalar (some tag) _ text =>
    match scalarTags.lookup tag with
    | some kind => scalarOf kind text
    | none => .error (.form .unfitTag)
  | list .. | mapping .. | unmergeable _ => .error (.form .keyNotScalar)

/-- What a node stands for, or how deep a fault lies and what it is. -/
abbrev Found (α : Type) := Except (Nat × ReadError) α

/-- Two results, or the fault that is nearer to the root; the first of two equally near ones. -/
def Found.both {α β γ : Type} (f : α → β → γ) (x : Found α) (y : Found β) : Found γ :=
  match x, y with
  | .ok a, .ok b => .ok (f a b)
  | .ok _, .error e | .error e, .ok _ => .error e
  | .error e, .error e' => .error (if e'.1 < e.1 then e' else e)

/-- The tags of lists and of mappings. -/
def collectionTags : List String := [standardTag "seq", standardTag "map"]

/-- What is wrong with the tag of a collection of a kind. What no collection has is seen with the
node, and what another kind has is seen with its parts. -/
def tagFault? (kind : String) (depth : Nat) (tag : Option String) : Option (Nat × ReadError) :=
  match tag with
  | none => none
  | some tag =>
    if tag = standardTag kind then none
    else some (if collectionTags.contains tag then depth + 1 else depth, .form .unfitTag)

/-- What a node at a depth stands for. -/
def valueAt (depth : Nat) : Node → Found Value
  | scalar tag plain text =>
    match (scalar tag plain text).toScalar with
    | .ok s => .ok (.scalar s)
    | .error e => .error (depth, e)
  | list tag items =>
    match tagFault? "seq" depth tag with
    | some e => .error e
    | none => (itemValues (depth + 1) items).map Value.list
  | mapping tag entries =>
    match tagFault? "map" depth tag with
    | some e => .error e
    | none =>
      (entryValues (depth + 1) entries).map fun all ↦
        .mapping (all.foldl (fun es e ↦ putEntry e.1 e.2 es) [])
  | unmergeable tag => .error ((tagFault? "map" depth tag).getD (depth + 1, .form .notMergeable))
where
  itemValues (depth : Nat) : List Node → Found (List Value)
    | [] => .ok []
    | n :: ns => Found.both List.cons (n.valueAt depth) (itemValues depth ns)
  entryValues (depth : Nat) : List (Node × Node) → Found (List (Scalar × Value))
    | [] => .ok []
    | (k, n) :: es =>
      let key : Found Scalar := k.toScalar.mapError fun e ↦ (depth, e)
      Found.both List.cons (Found.both Prod.mk key (n.valueAt depth)) (entryValues depth es)

/-- What a node stands for. -/
def toValue (n : Node) : Except ReadError Value := (n.valueAt 0).mapError (·.2)

end Node

end RuleCalendar.Yaml
