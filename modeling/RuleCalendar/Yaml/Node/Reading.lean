import RuleCalendar.Yaml.Node.Basic
import RuleCalendar.Yaml.Token.Basic

/-!
# Reading the nodes of YAML

The tokens of a document make up one node. An anchor names a node for references after it; a node
that refers to itself has no value here, so that an anchor is known only once its node is read.
-/

namespace RuleCalendar.Yaml

/-- What handles stand for. -/
abbrev Handles := List (String × String)

/-- What is left of the tokens, and the anchors so far. -/
structure Place where
  /-- The tokens that are left. -/
  tokens : List Token
  /-- The nodes that anchors name. -/
  anchors : List (String × Node) := []
  /-- The anchors of nodes that are being read. -/
  opened : List String := []

/-- A step of reading nodes. -/
abbrev Reader := StateT Place (Except ReadError)

namespace Reader

/-- Ends in a form error. -/
def fail {α : Type} (e : FormError) : Reader α := throw (.form e)

/-- The next token. -/
def peek : Reader Token := do
  match (← get).tokens with
  | .fault e :: _ => throw e
  | token :: _ => return token
  | [] => fail .unexpectedEnd

/-- Passes over the next token. -/
def skip : Reader Unit := modify fun p ↦ { p with tokens := p.tokens.drop 1 }

/-- The node that an anchor names. -/
def find (name : String) : Reader Node := do
  match (← get).anchors.lookup name with
  | some node => return node
  | none => fail (.unknownAnchor name)

/-- Begins a node with an anchor. -/
def openAnchor (name : String) : Reader Unit := do
  let p ← get
  if p.opened.contains name || p.anchors.any fun a ↦ a.1 = name then fail (.takenAnchor name)
  set { p with opened := name :: p.opened }

/-- Ends a node with an anchor. -/
def closeAnchor (name : String) (node : Node) : Reader Unit := modify fun p ↦
  { p with anchors := (name, node) :: p.anchors, opened := p.opened.erase name }

/-- The anchor that comes next, if one does. -/
def anchor? : Reader (Option String) := do
  if let .anchor name ← peek then
    skip
    return some name
  return none

/-- The tag that comes next, if one does. -/
def tag? : Reader (Option TagName) := do
  if let .tag t ← peek then
    skip
    return some t
  return none

/-- The anchor and the tag that come next, in either order. -/
def properties : Reader (Option String × Option TagName) := do
  match ← anchor? with
  | some name => return (some name, ← tag?)
  | none =>
    match ← tag? with
    | some t => return (← anchor?, some t)
    | none => return (none, none)

/-- What a tag stands for. A tag that is an exclamation mark alone has the node taken for what it
looks like. -/
def resolve (handles : Handles) (t : TagName) : Reader String :=
  match t.handle with
  | none => return t.suffix
  | some handle =>
    match handles.lookup handle with
    | some expansion => return expansion ++ t.suffix
    | none => fail (.unknownHandle handle)

/-- Whether a node is empty before a token: there is none between a key, a colon and the end. -/
def isAfterEntry : Token → Bool
  | .key | .value | .blockEnd => true
  | _ => false

/-- Whether an item is empty before a token. -/
def isAfterItem : Token → Bool
  | .entry | .blockEnd => true
  | _ => false

/-- Whether a node between brackets is empty before a token. -/
def isAfterFlow (close : Token) (t : Token) : Bool :=
  match close, t with
  | .listClose, .listClose | .mappingClose, .mappingClose | _, .comma => true
  | _, _ => false

/-- Where a node stands. -/
structure Setting where
  /-- Whether a collection that is told by indentation may stand here. -/
  block : Bool := false
  /-- Whether entries may stand in the column of the key before them. -/
  entries : Bool := false

/-- Passes over the comma before an item between brackets that is not the first. -/
def comma (first : Bool) : Reader Unit := do
  if !first then
    if let .comma ← peek then skip else fail .unexpectedToken

mutual

/-- The next node. -/
def node (handles : Handles) : Nat → Setting → Reader Node
  | 0, _ => fail .unexpectedEnd
  | fuel + 1, setting => do
    if let .reference name ← peek then
      skip
      return (← find name)
    let (anchor, tag) ← properties
    let tag ← tag.mapM (resolve handles)
    if let some name := anchor then openAnchor name
    let found ← content handles fuel setting (anchor.isSome || tag.isSome) tag
    if let some name := anchor then closeAnchor name found
    return found

/-- The next node after its anchor and its tag. -/
def content (handles : Handles) : Nat → Setting → Bool → Option String → Reader Node
  | 0, _, _, _ => fail .unexpectedEnd
  | fuel + 1, setting, named, tag => do
    let own := tag.filter (· ≠ "!")
    match ← peek with
    | .scalar plain text =>
      skip
      return .scalar own (plain || tag = some "!") text
    | .listOpen =>
      skip
      return .list own (← flowItems handles fuel true)
    | .mappingOpen =>
      skip
      return .ofEntries own (← flowEntries handles fuel true)
    | .entry =>
      if setting.entries then return .list own (← looseItems handles fuel)
      else if named then return .scalar own true []
      else fail .unexpectedToken
    | .blockSequence =>
      if setting.block then
        skip
        return .list own (← blockItems handles fuel)
      else if named then return .scalar own true []
      else fail .unexpectedToken
    | .blockMapping =>
      if setting.block then
        skip
        return .ofEntries own (← blockEntries handles fuel)
      else if named then return .scalar own true []
      else fail .unexpectedToken
    | _ => if named then return .scalar own true [] else fail .unexpectedToken

/-- The node after a mark, unless a token comes first that cannot begin one. -/
def nodeUnless (handles : Handles) : Nat → (Token → Bool) → Setting → Reader Node
  | 0, _, _ => fail .unexpectedEnd
  | fuel + 1, isAfter, setting => do
    if isAfter (← peek) then return .empty else node handles fuel setting

/-- The items of a sequence up to its end. -/
def blockItems (handles : Handles) : Nat → Reader (List Node)
  | 0 => fail .unexpectedEnd
  | fuel + 1 => do
    match ← peek with
    | .entry =>
      skip
      let item ← nodeUnless handles fuel isAfterItem { block := true }
      return item :: (← blockItems handles fuel)
    | .blockEnd =>
      skip
      return []
    | _ => fail .unexpectedToken

/-- The items of a sequence in the column of the key before it. -/
def looseItems (handles : Handles) : Nat → Reader (List Node)
  | 0 => fail .unexpectedEnd
  | fuel + 1 => do
    if let .entry ← peek then
      skip
      let item ← nodeUnless handles fuel (fun t ↦ isAfterItem t || isAfterEntry t)
        { block := true }
      return item :: (← looseItems handles fuel)
    return []

/-- The entries of a mapping up to its end. -/
def blockEntries (handles : Handles) : Nat → Reader (List (Node × Node))
  | 0 => fail .unexpectedEnd
  | fuel + 1 => do
    match ← peek with
    | .key =>
      skip
      let setting : Setting := { block := true, entries := true }
      let key ← nodeUnless handles fuel isAfterEntry setting
      let value ← valueAfter handles fuel isAfterEntry setting
      return (key, value) :: (← blockEntries handles fuel)
    | .blockEnd =>
      skip
      return []
    | _ => fail .unexpectedToken

/-- The value after a key, which is empty if no colon follows. -/
def valueAfter (handles : Handles) : Nat → (Token → Bool) → Setting → Reader Node
  | 0, _, _ => fail .unexpectedEnd
  | fuel + 1, isAfter, setting => do
    if let .value ← peek then
      skip
      nodeUnless handles fuel isAfter setting
    else return .empty

/-- The items between brackets up to the closing one. -/
def flowItems (handles : Handles) : Nat → Bool → Reader (List Node)
  | 0, _ => fail .unexpectedEnd
  | fuel + 1, first => do
    if let .listClose ← peek then
      skip
      return []
    comma first
    match ← peek with
    | .listClose =>
      skip
      return []
    | .key =>
      skip
      let isAfter := isAfterFlow .listClose
      let key ← nodeUnless handles fuel (fun t ↦ isAfter t || t matches .value) {}
      let value ← valueAfter handles fuel isAfter {}
      let item := Node.ofEntries none [(key, value)]
      return item :: (← flowItems handles fuel false)
    | _ =>
      let item ← node handles fuel {}
      return item :: (← flowItems handles fuel false)

/-- The entries between brackets up to the closing one. -/
def flowEntries (handles : Handles) : Nat → Bool → Reader (List (Node × Node))
  | 0, _ => fail .unexpectedEnd
  | fuel + 1, first => do
    if let .mappingClose ← peek then
      skip
      return []
    comma first
    match ← peek with
    | .mappingClose =>
      skip
      return []
    | .key =>
      skip
      let isAfter := isAfterFlow .mappingClose
      let key ← nodeUnless handles fuel (fun t ↦ isAfter t || t matches .value) {}
      let value ← valueAfter handles fuel isAfter {}
      return (key, value) :: (← flowEntries handles fuel false)
    | _ =>
      let key ← node handles fuel {}
      return (key, .empty) :: (← flowEntries handles fuel false)

end

/-- What handles stand for if nothing is said of them. -/
def usualHandles : Handles := [("!", "!"), ("!!", standardTag "")]

/-- The handles that the directives before a document declare; `versioned` tells whether a version
is given already. -/
def directives (versioned : Bool) (handles : Handles) : Nat → Reader Handles
  | 0 => fail .unexpectedEnd
  | fuel + 1 => do
    match ← peek with
    | .directive (.version major _) =>
      if versioned || major != 1 then fail .badDirective
      skip
      directives true handles fuel
    | .directive (.handle name expansion) =>
      if handles.any fun h ↦ h.1 = name then fail .badDirective
      skip
      directives versioned ((name, expansion) :: handles) fuel
    | .directive .other =>
      skip
      directives versioned handles fuel
    | _ => return handles ++ usualHandles

/-- Passes over the marks after a document. -/
def skipEnds : Nat → Reader Unit
  | 0 => return
  | fuel + 1 => do
    if let .documentEnd ← peek then
      skip
      skipEnds fuel

/-- Whether a document is empty before a token. -/
def isAfterDocument : Token → Bool
  | .directive _ | .documentStart | .documentEnd | .finish => true
  | _ => false

/-- The node of the document, if there is one. -/
def document? (fuel : Nat) : Reader (Option Node) := do
  let setting : Setting := { block := true }
  match ← peek with
  | .finish => return none
  | .directive _ | .documentStart =>
    let handles ← directives false [] fuel
    match ← peek with
    | .documentStart => skip
    | _ => fail .unexpectedToken
    return some (← nodeUnless handles fuel isAfterDocument setting)
  | _ => return some (← node usualHandles fuel setting)

/-- The node of a text that holds one document, if it holds any. -/
def single? (fuel : Nat) : Reader (Option Node) := do
  match ← document? fuel with
  | none => return none
  | some found =>
    skipEnds fuel
    match ← peek with
    | .finish => return some found
    | _ => fail .severalDocuments

end Reader

/-- The node that tokens make up, if they hold a document. -/
def Node.ofTokens? (tokens : List Token) : Except ReadError (Option Node) := do
  return (← (Reader.single? (6 * tokens.length + 6)).run { tokens }).1

end RuleCalendar.Yaml
