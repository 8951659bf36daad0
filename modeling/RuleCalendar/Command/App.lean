import RuleCalendar.Action
import RuleCalendar.Command.Line
import RuleCalendar.Command.Registry
import RuleCalendar.Text.Template

/-!
# Programs of commands

A program has a name, perhaps a version, and commands. Every command line may set the settings file,
the verbosity and the format of reports before the command. A command ends in the exit code that its
result stands for; a failure is written to the standard error stream and ends in its own code.
-/

namespace RuleCalendar

/-- A program. -/
structure App (α : Type) where
  /-- The name of the program. -/
  name : String
  /-- Its version. -/
  version : Option String := none
  /-- Its commands. -/
  registry : Registry α := {}

/-- A command line that is understood. -/
structure Call (α : Type) where
  /-- The values of all options and operands. -/
  options : Options
  /-- What the command does; nothing if no command is named. -/
  action : Option α

/-- Why a program cannot run at all. -/
inductive AppError where
  /-- Its commands or arguments cannot stand side by side. -/
  | declaration (e : DeclarationError)
  /-- The format of its reports is none. -/
  | format (e : UnknownName)
  /-- The text of its version is a template that cannot be filled in. -/
  | template (e : TemplateError)
  deriving Repr

/-- The name under which the command is found. -/
def commandName : String := "command"

/-- The name under which what the command does is found. A value that is given under this name takes
its place. -/
def actionName : String := "_cmd_func"

/-- The exit code of a line that is not understood, or names no command. -/
def misuseCode : Int := 2

/-- The exit code of an interruption. -/
def interruptedCode : Int := 130

/-- The exit code of a failure that is no command error. -/
def failureCode : Int := 1

namespace Group

/-- The name under which the command of a group is found. -/
def commandName {α : Type} (g : Group α) : String := g.name ++ "_cmd"

end Group

namespace App

variable {α : Type}

/-- The options that come before a command. -/
def commonOptions (app : App α) : List Argument :=
  Argument.helpOption ::
    ((app.version.filter (· ≠ "")).map fun v ↦
      ({ flags := ["--version", "-V"], kind := .version s!"%(prog)s {v}" } : Argument)).toList ++
    [{ flags := ["--config", "-c"] },
      { flags := ["--verbose", "-v"], kind := .switch },
      { flags := ["--quiet", "-q"], kind := .switch },
      { flags := ["--output", "-o"], kind := .choice (Format.all.map Format.name) }]

/-- The first error of the declarations. -/
def check (app : App α) : Except DeclarationError Unit := do
  let checkCommand (c : Command α) : Except DeclarationError Unit :=
    Argument.checkAll [Argument.helpOption] c.arguments
  for g in app.registry.groups do
    for c in g.commands do checkCommand c
  for c in app.registry.commands do
    if app.registry.groups.any fun g ↦ g.name = c.name then throw (.takenName c.name)
    checkCommand c

/-- The misuse of a name that no command has. -/
def unknownCommand (name : String) : LineStop := .misuse s!"invalid choice: {name}"

/-- What is read of a part of a command line: the values, the words that are not understood, and
what the command does. -/
abbrev Part (α : Type) := Options × List String × Option α

/-- The words of a command. -/
def readCommand (c : Command α) (words : List String) : Except LineStop (Part α) := do
  let r ← (Level.ofArguments c.arguments).read words
  return (r.values, r.extras, some c.action)

/-- The words of a group. -/
def readGroup (g : Group α) (words : List String) : Except LineStop (Part α) := do
  let level : Level := { options := [Argument.helpOption], hasCommands := true }
  let r ← level.read words
  let values := r.values.set g.commandName .null
  match r.call with
  | none => return (values, r.extras, none)
  | some [] => return (values, r.extras, none)
  | some (name :: rest) =>
    match g.commands.find? fun c ↦ c.name = name with
    | none => throw (unknownCommand name)
    | some c =>
      let (inner, extras, action) ← readCommand c rest
      return ((values.set g.commandName (.text name)).setAll inner, r.extras ++ extras, action)

/-- The words after the options that come before a command. -/
def readCall (app : App α) (name : String) (words : List String) : Except LineStop (Part α) :=
  match app.registry.group? name with
  | some g => readGroup g words
  | none =>
    match app.registry.commands.find? fun c ↦ c.name = name with
    | some c => readCommand c words
    | none => .error (unknownCommand name)

/-- A command line as it is understood. -/
def parse (app : App α) (words : List String) : Except LineStop (Call α) := do
  let level : Level := { options := app.commonOptions, hasCommands := true }
  let r ← level.read words
  let values := r.values.set commandName .null
  let (values, extras, action) ← match r.call with
    | none => pure (values, r.extras, none)
    | some [] => pure (values, r.extras, none)
    | some (name :: rest) => do
      let (inner, extras, action) ← app.readCall name rest
      pure ((values.set commandName (.text name)).setAll inner, r.extras ++ extras, action)
  if extras.isEmpty then return ⟨values, action⟩
  let words := " ".intercalate extras
  throw (.misuse s!"unrecognized arguments: {words}")

/-- How the program is used. -/
def usage (app : App α) : String :=
  let names := app.registry.groups.map (·.name) ++ app.registry.commands.map (·.name)
  let commands := ", ".intercalate names
  s!"usage: {app.name} [options] <command> [arguments]\n\ncommands: {commands}\n"

end App

/-- What is written after a failure that is no command error, if details are wanted. -/
def traceText : String := "The failure above was not expected.\n"

namespace Action

/-- Writes a failure, and gives its exit code. -/
def fail (verbose : Bool) (f : Failure) : Session → Int × Session := fun s ↦
  let lines := s!"Error: {f.message}\n"
  match f with
  | .command e =>
    let hint := match e.hint.filter (· ≠ "") with
      | some hint => s!"Hint: {hint}\n"
      | none => ""
    (e.exitCode, { s with stderr := s.stderr ++ lines ++ hint })
  | _ =>
    (failureCode, { s with stderr := s.stderr ++ lines ++ if verbose then traceText else "" })

/-- Does the action of a command, and gives its exit code. -/
def exec (act : Action Value) (w : World) : Session → Int × Session := fun s ↦
  let whole : Action Int := do ofResult ((← act).toInteger.mapError .number)
  match whole w s with
  | (.ok code, s) => (code, s)
  | (.error (.failure f), s) => fail w.writer.verbose f s
  | (.error (.interrupted _), s) =>
    (interruptedCode, { s with stderr := s.stderr ++ "\nInterrupted.\n" })

end Action

namespace App

/-- The text of a version, with no more than one empty line in a row and none at the ends. -/
def versionText (name : String) (template : String) : Except TemplateError String := do
  let text ← Template.fill [("prog", name)] template.toList
  return String.ofList (Text.trimBreaks (Text.collapseBreaks text))

/-- Writes why a command line is not carried out, and gives the exit code. -/
def stop {α : Type} (app : App α) (e : LineStop) (s : Session) :
    Except TemplateError (Int × Session) :=
  match e with
  | .help => .ok (0, { s with stdout := s.stdout ++ app.usage })
  | .version template => do
    let text ← versionText app.name template
    return (0, { s with stdout := s.stdout ++ text ++ "\n" })
  | .misuse message =>
    .ok (misuseCode,
      { s with stderr := s.stderr ++ app.usage ++ s!"{app.name}: error: {message}\n" })

/-- The writer that options ask for. -/
def writer (o : Options) : Except UnknownName Writer := do
  return {
    format := ← (o.get "output").chooseFormat
    verbose := (o.get "verbose").isTruthy
    quiet := (o.get "quiet").isTruthy }

/-- What a command does, unless a value takes its place: that cannot be done. -/
def chosenAction (call : Call (Options → Action Value)) : Option (Options → Action Value) :=
  match call.options.get actionName with
  | .scalar .null => call.action
  | v => call.action.map fun _ _ ↦
    throw (.failure (.other s!"'{v.kind}' object is not callable" none))

/-- Carries out a command line, and gives the exit code. -/
def run (app : App (Options → Action Value)) (environment : Environment) (clock : Clock)
    (words : List String) (s : Session) : Except AppError (Int × Session) := do
  app.check.mapError .declaration
  match app.parse words with
  | .error e => (app.stop e s).mapError .template
  | .ok call =>
    let writer ← (writer call.options).mapError .format
    match chosenAction call with
    | none => return (misuseCode, { s with stdout := s.stdout ++ app.usage })
    | some action => return (action call.options).exec { environment, clock, writer } s

end App

end RuleCalendar
