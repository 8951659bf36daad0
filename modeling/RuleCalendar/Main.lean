import RuleCalendar.Command.Calendar
import Std.Time.Zoned

/-!
# The calendar command

The command line runs on a picture of the files that its options and the settings lead to. The
picture is taken first; what the command changes in it is written back before its output is shown.
-/

namespace RuleCalendar.CalendarApp

/-- The variables that the command looks at. -/
def variableNames : List String := ["HOME", "PRODCAL_CONFIG", "XDG_CONFIG_HOME"]

/-- The account and the home directory in a line of the list of accounts. -/
def accountOfLine? (line : String) : Option (String × String) :=
  match (Text.splitAt ':' line.toList).map String.ofList with
  | name :: _ :: _ :: _ :: _ :: home :: _ => some (name, home)
  | _ => none

/-- The paths at which settings may be. -/
def settingsPaths (e : Environment) (o : Options) : List String :=
  (textOption? o "config").toList.filterMap (fun path ↦ (e.expandHome path).toOption) ++
    (Settings.usualPaths e).toOption.getD []

/-- The paths of a rules file and of the files that an export may write. -/
def otherPaths (e : Environment) (today : Date) (o : Options) (settings : Settings) :
    List String :=
  let rules := ((textOption? o "rules").toList ++ settings.rulesFile.toList).filterMap fun path ↦
    ((Path.ofText path).expandHome e).toOption.map Path.toText
  let year := match o.get "year" with
    | .scalar (.int year) => year
    | _ => settings.year.getD today.year
  rules ++ (textOption? o "out").toList ++ ExportFormat.all.map fun f ↦ f.usualPath year

/-- The path by which the system knows a location. -/
def systemPath (l : Location) : String := "/" ++ "/".intercalate l

/-- What the system has at a location. -/
def entryAt (l : Location) : IO (Option Entry) := do
  if let .ok _ ← (IO.FS.realPath (systemPath (l ++ ["."]))).toBaseIO then return some .directory
  let .ok bytes ← (IO.FS.readBinFile (systemPath l)).toBaseIO | return none
  return some (.file bytes.toList)

/-- The tree with what the system has on the way along names. -/
def explore (l : Location) : List String → FileTree → IO FileTree
  | [], t => return t
  | name :: names, t => do
    match t.step l name with
    | .error _ => return t
    | .ok next =>
      let found ← if (t.get? next).isSome then pure none else entryAt next
      explore next names (found.elim t (t.put next))

/-- The tree with what the system has on the way along paths. -/
def explorePaths (paths : List String) (t : FileTree) : IO FileTree :=
  paths.foldlM (fun t path ↦ explore (t.start path) (FileTree.pathNames path) t) t

/-- The files that a command line may lead to. -/
def picture (e : Environment) (today : Date) (words : List String) : IO FileTree := do
  let working := (FileTree.pathNames (toString (← IO.currentDir))).filter (· ≠ "")
  let t ← explore [] working { working }
  match app.parse words with
  | .error _ => return t
  | .ok call =>
    let t ← explorePaths (settingsPaths e call.options) t
    match Settings.load e t (textOption? call.options "config") with
    | .error _ => return t
    | .ok settings => explorePaths (otherPaths e today call.options settings) t

/-- Makes the directories and writes the files that are new in a tree. -/
def writeBack (old new : FileTree) : IO Unit :=
  new.entries.reverse.forM fun (l, e) ↦ do
    unless old.get? l = some e do
      match e with
      | .directory => IO.FS.createDir (systemPath l)
      | .file bytes => IO.FS.writeBinFile (systemPath l) ⟨bytes.toArray⟩

/-- What the command is told about where it runs. -/
def systemEnvironment : IO Environment := do
  let mut bindings := []
  for name in variableNames do
    if let some value ← IO.getEnv name then bindings := (name, value) :: bindings
  let .ok lines ← (IO.FS.lines "/etc/passwd").toBaseIO | return { bindings }
  return { bindings, accounts := lines.toList.filterMap accountOfLine? }

/-- What the clock of the system tells. Where the user's time is not known it is universal time. -/
def systemClock : IO Clock := do
  let seconds := (← Std.Time.Timestamp.now).toSecondsSinceUnixEpoch.val
  let now ← IO.ofExcept ((Moment.ofSeconds seconds).mapError CalendarError.message)
  let .ok here ← Std.Time.PlainDateTime.now.toBaseIO | return now.clock
  let .ok today := Date.of here.date.year here.date.month.val here.date.day.val
    | return now.clock
  return ⟨now, today⟩

/-- The exit code as the system takes it. -/
def systemCode (code : Int) : UInt32 := UInt32.ofNat (code % 256).toNat

/-- Carries out a command line on the files of the system. -/
def runOnSystem (words : List String) : IO UInt32 := do
  let environment ← systemEnvironment
  let clock ← systemClock
  let files ← picture environment clock.today words
  match app.run environment clock words { files } with
  | .error (.declaration e) => throw (IO.userError e.message)
  | .error (.format e) => throw (IO.userError e.message)
  | .error (.template e) => throw (IO.userError e.message)
  | .ok (code, session) =>
    writeBack files session.files
    (← IO.getStdout).putStr session.stdout
    (← IO.getStderr).putStr session.stderr
    return systemCode code

end RuleCalendar.CalendarApp

/-- Carries out the command line of the program. -/
def main (words : List String) : IO UInt32 := RuleCalendar.CalendarApp.runOnSystem words
