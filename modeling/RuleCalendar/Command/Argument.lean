import RuleCalendar.Value.Show

/-!
# Arguments of commands

An argument is an operand, which has a name, or an option, which has one or more flags: words that
begin with a hyphen, long ones with two. The value of an option is found under the first of its long
flags, or else under its first flag, without the hyphens at its beginning and with underscores for
the others.
-/

namespace RuleCalendar

/-- The items with one put in the place of the first of its name, or at the end. -/
def putNamed {β : Type} (name : β → String) (item : β) : List β → List β
  | [] => [item]
  | x :: xs => if name x = name item then item :: xs else x :: putNamed name item xs

/-- What an argument takes. -/
inductive ArgumentKind where
  /-- A text. -/
  | text
  /-- An integer. -/
  | integer
  /-- One of these texts; the first if the option is not given. -/
  | choice (names : List String)
  /-- Nothing: the option is given or not. -/
  | switch
  /-- Nothing: the option asks for help. -/
  | help
  /-- Nothing: the option asks for the text of this template. -/
  | version (template : String)
  deriving DecidableEq, Repr

/-- An argument of a command. -/
structure Argument where
  /-- The name of an operand, or the flags of an option. -/
  flags : List String
  /-- What the argument takes. -/
  kind : ArgumentKind := .text
  deriving DecidableEq, Repr

/-- Arguments or commands that cannot stand side by side. -/
inductive DeclarationError where
  /-- Flags of an option that an option before it has. -/
  | takenFlags (flags taken : List String)
  /-- A command with the name of another. -/
  | takenName (name : String)
  /-- A flag without a hyphen at its beginning. -/
  | notFlag (flag : String)
  /-- An option whose flags have nothing but hyphens; the last of them. -/
  | noName (flag : String)
  /-- An argument without a name or a flag. -/
  | noFlags
  /-- A name or a flag without characters. -/
  | emptyFlag
  deriving DecidableEq, Repr

/-- The text of a declaration error. -/
def DeclarationError.message : DeclarationError → String
  | takenFlags flags taken =>
    let option := "/".intercalate flags
    let noun := if taken.length = 1 then "string" else "strings"
    let names := ", ".intercalate taken
    s!"argument {option}: conflicting option {noun}: {names}"
  | takenName name => s!"argument <command>: conflicting subparser: {name}"
  | notFlag flag =>
    let shown := String.ofList (Text.quoted flag.toList)
    s!"invalid option string {shown}: must start with a character '-'"
  | noName flag =>
    let shown := String.ofList (Text.quoted flag.toList)
    s!"dest= is required for options like {shown}"
  | noFlags =>
    "_ActionsContainer._get_positional_kwargs() missing 1 required positional argument: 'dest'"
  | emptyFlag => "string index out of range"

namespace Argument

/-- Whether a word begins with a hyphen. -/
def isFlag (word : String) : Bool := word.startsWith "-"

/-- Whether a word begins with two hyphens. -/
def isLongFlag (word : String) : Bool := word.startsWith "--"

/-- Whether an argument is an operand. -/
def isOperand (a : Argument) : Bool :=
  match a.flags with
  | [name] => !isFlag name
  | _ => false

/-- The name of a flag without hyphens. -/
def bareName (flag : String) : String :=
  String.ofList ((flag.toList.dropWhile (· = '-')).map fun c ↦ if c = '-' then '_' else c)

/-- The name under which the value of an argument is found. -/
def name (a : Argument) : String :=
  if a.isOperand then a.flags.headD ""
  else bareName ((a.flags.find? isLongFlag).getD (a.flags.headD ""))

/-- The value of an option that is not given. -/
def absent (a : Argument) : Value :=
  match a.kind with
  | .switch => .bool false
  | .choice (first :: _) => .text first
  | _ => .null

/-- Whether an argument takes a word. -/
def takesWord (a : Argument) : Bool :=
  match a.kind with
  | .text | .integer | .choice _ => true
  | .switch | .help | .version _ => false

/-- The error of an argument that is declared after others. -/
def check (before : List Argument) (a : Argument) : Except DeclarationError Unit :=
  match a.flags.find? fun f ↦ !isFlag f with
  | some "" => .error .emptyFlag
  | some flag => if a.isOperand then .ok () else .error (.notFlag flag)
  | none =>
    if a.flags.isEmpty then .error .noFlags
    else
      if a.name = "" then .error (.noName (a.flags.getLastD ""))
      else
        let taken := a.flags.filter fun f ↦ before.any fun b ↦ !b.isOperand && b.flags.contains f
        if taken.isEmpty then .ok () else .error (.takenFlags a.flags taken)

/-- The first error of arguments that are declared after others. -/
def checkAll (before : List Argument) : List Argument → Except DeclarationError Unit
  | [] => .ok ()
  | a :: rest => do
    a.check before
    checkAll (before ++ [a]) rest

/-- The option that asks for help. -/
def helpOption : Argument := { flags := ["-h", "--help"], kind := .help }

end Argument

end RuleCalendar
