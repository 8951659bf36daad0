import RuleCalendar.Command.Argument

/-!
# Command lines

The words of a command line are options and operands. An option may be shortened as long as no other
begins the same way, its value may follow after an equals sign, and short options may share one
hyphen. A word with a space, a negative number and a hyphen alone are operands, and so is everything
after two hyphens. Two hyphens as the value of an option stand for a list without values. What is
left over is reported by whoever called for the words.
-/

namespace RuleCalendar

/-- Why a command line is not carried out. -/
inductive LineStop where
  /-- Help is asked for. -/
  | help
  /-- The text of a template is asked for. -/
  | version (template : String)
  /-- The line cannot be understood. -/
  | misuse (message : String)
  deriving DecidableEq, Repr

/-- Values by name. -/
abbrev Options := List (String × Value)

namespace Options

/-- The options with a value set. -/
def set (o : Options) (name : String) (v : Value) : Options := putNamed (·.1) (name, v) o

/-- The options with the values of others set. -/
def setAll (o others : Options) : Options := others.foldl (fun o x ↦ o.set x.1 x.2) o

/-- The value of a name; no value if there is none. -/
def get (o : Options) (name : String) : Value := (o.lookup name).getD .null

end Options

/-- An option that a word names. -/
structure OptionMatch where
  /-- The option. -/
  option : Argument
  /-- The flag by which it is named. -/
  flag : String
  /-- What follows in the same word, without an equals sign before it. -/
  value : Option (List Char) := none

/-- What a word of a command line is. -/
inductive WordRole where
  /-- An operand, or the value of an option. -/
  | operand
  /-- Two hyphens, after which there are no options. -/
  | marker
  /-- An option, if it is known. -/
  | option (named : Option OptionMatch)

/-- The words that one parser takes. -/
structure Level where
  /-- The options. -/
  options : List Argument
  /-- The operands. -/
  operands : List Argument := []
  /-- Whether a command follows the operands. -/
  hasCommands : Bool := false

namespace Level

/-- The level of a command's arguments. -/
def ofArguments (arguments : List Argument) : Level where
  options := Argument.helpOption :: arguments.filter fun a ↦ !a.isOperand
  operands := arguments.filter (·.isOperand)

/-- The flags with their options. -/
def flags (l : Level) : List (String × Argument) :=
  l.options.flatMap fun a ↦ a.flags.eraseDups.map fun f ↦ (f, a)

/-- The values when nothing is given. -/
def absent (l : Level) : Options :=
  (l.options ++ l.operands).foldl
    (fun o a ↦ match a.kind with
      | .help | .version _ => o
      | _ => if o.any fun x ↦ x.1 = a.name then o else o.set a.name a.absent) []

end Level

/-- Whether a text is a hyphen and a number; a line feed may follow. -/
def isNegativeNumber (word : String) : Bool :=
  match word.toList with
  | '-' :: rest =>
    let rest := if rest.getLast? = some '\n' then rest.dropLast else rest
    let fraction := rest.dropWhile Text.isDigit
    (!rest.isEmpty && fraction.isEmpty) ||
      match fraction with
      | '.' :: digits => !digits.isEmpty && digits.all Text.isDigit
      | _ => false
  | _ => false

/-- A text split at its first equals sign. -/
def splitAtEquals (word : String) : String × Option (List Char) :=
  let before := String.ofList (word.toList.takeWhile (· ≠ '='))
  match word.toList.dropWhile (· ≠ '=') with
  | _ :: after => (before, some after)
  | [] => (word, none)

namespace Level

/-- The options that a word may stand for when it is no flag of the level. -/
def shortened (l : Level) (word : String) : List OptionMatch :=
  if Argument.isLongFlag word then
    let (start, value) := splitAtEquals word
    (l.flags.filter fun f ↦ f.1.startsWith start).map fun f ↦ ⟨f.2, f.1, value⟩
  else
    let short := String.ofList (word.toList.take 2)
    l.flags.filterMap fun f ↦
      if f.1 = short then some ⟨f.2, f.1, some (word.toList.drop 2)⟩
      else if f.1.startsWith word then some ⟨f.2, f.1, none⟩
      else none

/-- What a word before two hyphens is. -/
def role (l : Level) (word : String) : Except LineStop WordRole :=
  if !Argument.isFlag word then .ok .operand
  else match l.flags.lookup word with
    | some a => .ok (.option (some ⟨a, word, none⟩))
    | none =>
      if word = "-" then .ok .operand
      else
        let (flag, value) := splitAtEquals word
        match value, l.flags.lookup flag with
        | some value, some a => .ok (.option (some ⟨a, flag, some value⟩))
        | _, _ =>
          match l.shortened word with
          | [found] => .ok (.option (some found))
          | [] =>
            if isNegativeNumber word && !(l.flags.any fun f ↦ isNegativeNumber f.1) then
              .ok .operand
            else if word.toList.contains ' ' then .ok .operand
            else .ok (.option none)
          | several =>
            let names := ", ".intercalate (several.map (·.flag))
            .error (.misuse s!"ambiguous option: {word} could match {names}")

/-- The words with what they are. -/
def roles (l : Level) : List String → Except LineStop (List (String × WordRole))
  | [] => .ok []
  | word :: rest =>
    if word = "--" then .ok ((word, .marker) :: rest.map fun w ↦ (w, .operand))
    else do return (word, ← l.role word) :: (← l.roles rest)

end Level

/-- What a word stands for as the value of an argument. -/
def Argument.valueOf (a : Argument) (word : String) : Except LineStop Value :=
  let name := a.name
  match a.kind with
  | .integer =>
    match Text.readInteger word.toList with
    | .ok n => .ok (.int n)
    | .error _ => .error (.misuse s!"argument {name}: invalid int value: {word}")
  | .choice names =>
    if names.contains word then .ok (.text word)
    else .error (.misuse s!"argument {name}: invalid choice: {word}")
  | _ => .ok (.text word)

/-- The values when an argument is given with words. A single word is a value of its own. -/
def Argument.take (a : Argument) (words : List String) (o : Options) : Except LineStop Options := do
  match a.kind with
  | .switch => return o.set a.name (.bool true)
  | .help => throw .help
  | .version template => throw (.version template)
  | _ =>
    match ← words.mapM a.valueOf with
    | [v] => return o.set a.name v
    | vs => return o.set a.name (.list vs)

/-- The options that one word names, with their words, and the words that are left. -/
structure OptionRun where
  /-- The options with their words. -/
  given : List (Argument × List String)
  /-- The words that are left. -/
  left : List (String × WordRole)

namespace Level

/-- The misuse of an option. -/
def misuse (a : Argument) (what : String) : LineStop :=
  let name := a.name
  .misuse s!"argument {name}: {what}"

/-- An option that is the last in its word, after others that share the word. -/
def lastOption (before : List (Argument × List String)) (a : Argument)
    (left : List (String × WordRole)) : Except LineStop OptionRun :=
  if a.takesWord then
    match left with
    | (word, .operand) :: left => .ok ⟨before ++ [(a, [word])], left⟩
    | _ => .error (misuse a "expected one argument")
  else .ok ⟨before ++ [(a, [])], left⟩

/-- An option with something after it in its word, after others that share the word. -/
def optionWithRest (l : Level) (before : List (Argument × List String)) (a : Argument)
    (flag : String) (left : List (String × WordRole)) (rest : List Char) :
    Except LineStop OptionRun :=
  if a.takesWord then
    .ok ⟨before ++ [(a, [String.ofList rest].erase "--")], left⟩
  else match rest with
    | [] => .error (misuse a "ignored explicit argument")
    | c :: rest =>
      let shared := String.ofList ['-', c]
      match l.flags.lookup shared with
      | none => .error (misuse a "ignored explicit argument")
      | some next =>
        if Argument.isLongFlag flag then .error (misuse a "ignored explicit argument")
        else match rest with
          | [] => lastOption (before ++ [(a, [])]) next left
          | d :: rest => l.optionWithRest (before ++ [(a, [])]) next shared left (d :: rest)

/-- The options that a word names. -/
def optionRun (l : Level) (m : OptionMatch) (left : List (String × WordRole)) :
    Except LineStop OptionRun :=
  match m.value with
  | none => lastOption [] m.option left
  | some rest => l.optionWithRest [] m.option m.flag left rest

end Level

/-- The next operand with the markers around it, and the words that are left. -/
def nextOperand? (words : List (String × WordRole)) :
    Option (List String × List (String × WordRole)) :=
  let isMarker (w : String × WordRole) : Bool := w.2 matches .marker
  match words.dropWhile isMarker with
  | (word, .operand) :: rest =>
    some ((words.takeWhile isMarker).map (·.1) ++ word :: (rest.takeWhile isMarker).map (·.1),
      rest.dropWhile isMarker)
  | _ => none

/-- What is read of the words of a level. -/
structure LevelReading where
  /-- The values. -/
  values : Options
  /-- The operands that are not given. -/
  missing : List Argument
  /-- The words that are not understood. -/
  extras : List String := []
  /-- The command that is called, with its words. -/
  call : Option (List String) := none

/-- The reading with the first of some words not understood. -/
def LevelReading.passOver (r : LevelReading) (words : List (String × WordRole)) : LevelReading :=
  { r with extras := r.extras ++ (words.take 1).map (·.1) }

namespace Level

/-- The reading after as many operands as follow, and the words that are left. Of the words of an
operand, the first marker is dropped. -/
def takeOperands (o : Options) (words : List (String × WordRole)) :
    List Argument → Except LineStop (Options × List Argument × List (String × WordRole))
  | [] => .ok (o, [], words)
  | a :: rest =>
    match nextOperand? words with
    | none => .ok (o, a :: rest, words)
    | some (found, left) => do takeOperands (← a.take (found.erase "--") o) left rest

/-- The reading of the rest of the words. -/
def readFrom (l : Level) : Nat → LevelReading → List (String × WordRole) →
    Except LineStop LevelReading
  | _, r, [] => .ok r
  | 0, r, _ => .ok r
  | fuel + 1, r, (word, .option named) :: left =>
    match named with
    | none => l.readFrom fuel { r with extras := r.extras ++ [word] } left
    | some m => do
      let run ← l.optionRun m left
      let values ← run.given.foldlM (fun o g ↦ g.1.take g.2 o) r.values
      l.readFrom fuel { r with values } run.left
  | fuel + 1, r, words =>
    if l.hasCommands then
      match nextOperand? words with
      | some _ => .ok { r with call := some (words.map (·.1)) }
      | none => l.readFrom fuel (r.passOver words) (words.drop 1)
    else do
      let (values, missing, left) ← takeOperands r.values words r.missing
      if left.length < words.length then l.readFrom fuel { r with values, missing } left
      else l.readFrom fuel (r.passOver words) (words.drop 1)

/-- The reading of words. -/
def read (l : Level) (words : List String) : Except LineStop LevelReading := do
  let words ← l.roles words
  let r ← l.readFrom (words.length + 1) { values := l.absent, missing := l.operands } words
  if r.missing.isEmpty then return r
  let names := ", ".intercalate (r.missing.map (·.name))
  throw (.misuse s!"the following arguments are required: {names}")

end Level

end RuleCalendar
