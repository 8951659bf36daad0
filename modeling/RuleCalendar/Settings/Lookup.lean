import RuleCalendar.Files.Document
import RuleCalendar.Settings.Basic

/-!
# Looking up settings

A settings file is given by its path, or by the environment, or it is the first that is found in the
directories for user settings. One that is asked for by its path has to be there. No file, or one
with nothing in it, means the defaults.
-/

namespace RuleCalendar.Settings

/-- A text with a directory and names below it, one slash between them. -/
def joinPath (directory : String) (names : List String) : String :=
  names.foldl (fun path name ↦ if path.endsWith "/" then path ++ name else path ++ "/" ++ name)
    directory

/-- The paths at which settings are looked for, the first found first. -/
def usualPaths (e : Environment) : Except HomeError (List String) := do
  match e.filled? "PRODCAL_CONFIG" with
  | some path => return [← e.expandHome path]
  | none =>
    let roots ← ((e.filled? "XDG_CONFIG_HOME").toList ++ ["~/.config"]).mapM e.expandHome
    return (roots.map fun root ↦ joinPath root ["prodcal", "config.yaml"]).eraseDups

/-- The path that is asked for, or the first usual path at which there is anything. -/
def findPath? (e : Environment) (t : FileTree) (given : Option String) :
    Except HomeError (Option String) :=
  match given.filter (· ≠ "") with
  | some path => (e.expandHome path).map some
  | none => (usualPaths e).map (·.find? t.holds)

/-- The entries of a settings file. -/
def readEntries (t : FileTree) (path : String) : Except Failure (List (Scalar × Value)) :=
  match t.readDocument path with
  | .ok none => .ok []
  | .ok (some (.mapping entries)) => .ok entries
  | .ok (some _) => .error (.command (.settingsNotMapping path))
  | .error (.file e) =>
    -- only what the system reports is a matter of the settings
    if e.problem.report?.isSome then .error (.command (.settingsUnreadable path e.message))
    else .error (.file e)
  | .error (.document (.form e)) => .error (.command (.settingsMalformed path e.message))
  | .error f => .error f

/-- A settings file: its path and its entries. -/
abbrev Found := String × List (Scalar × Value)

/-- The settings file that is asked for or found. -/
def find (e : Environment) (t : FileTree) (given : Option String) :
    Except Failure (Option Found) := do
  match ← (findPath? e t given).mapError .home with
  | none => return none
  | some path =>
    if given.any (· ≠ "") && !t.holds path then throw (.command (.settingsMissing path))
    return some (path, ← readEntries t path)

/-- The settings of a settings file, or the defaults. -/
def ofFound (e : Environment) : Option Found → Except Failure Settings
  | none => .ok {}
  | some (path, entries) => ofEntries e path entries

/-- The settings that are asked for or found. -/
def load (e : Environment) (t : FileTree) (given : Option String) : Except Failure Settings := do
  ofFound e (← find e t given)

/-- What is told of a settings file. -/
def logLines (e : Environment) : Option Found → List LogLine
  | none => []
  | some (path, entries) => (unknownKeys e path entries).map (unknownKeyLine path)

end RuleCalendar.Settings
