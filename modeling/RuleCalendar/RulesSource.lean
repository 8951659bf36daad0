import RuleCalendar.Files.Document
import RuleCalendar.Log
import RuleCalendar.Sample
import RuleCalendar.Settings.Basic

/-!
# Where rules come from

Rules are given as text, by the path of a file, or by asking for the sample. A text excludes the
other two, and the sample comes before a file. If none is given, the file of the settings is read,
and if they name none, the sample is used.
-/

namespace RuleCalendar

/-- Where rules come from. -/
inductive RulesSource where
  /-- The text itself. -/
  | text (s : String)
  /-- The sample. -/
  | sample
  /-- The file at a path. -/
  | file (path : String)
  deriving DecidableEq, Repr

/-- What is given as a source of rules. -/
structure RulesRequest where
  /-- A text. -/
  text : Option String := none
  /-- The path of a file; an empty one counts as none. -/
  path : Option String := none
  /-- Whether the sample is asked for. -/
  sample : Bool := false
  deriving Repr

namespace RulesSource

/-- The source that is given, or else that of the settings. -/
def choose (r : RulesRequest) (settings : Settings) : Except CommandError RulesSource :=
  let path := r.path.filter (· ≠ "")
  match r.text with
  | some s => if path.isSome ∨ r.sample then .error .conflictingSources else .ok (.text s)
  | none =>
    if r.sample then .ok .sample
    else match path.or (settings.rulesFile.filter (· ≠ "")) with
      | some path => .ok (.file path)
      | none => .ok .sample

/-- The path of a rules file that is there. -/
def locate (e : Environment) (t : FileTree) (path : String) : Except Failure String := do
  let p ← ((Path.ofText path).expandHome e).mapError .home
  match t.look p.toText with
  | .ok _ => return p.toText
  | .error .nameTooLong => throw (.file ⟨.nameTooLong, p.toText⟩)
  | .error _ => throw (.command (.rulesMissing p.toText))

/-- What is told before a rules file is read. -/
def readingLine (path : String) : LogLine :=
  ⟨.info, "prodcal.pipeline", s!"reading rules from {path}"⟩

/-- The text of the rules. -/
def read (e : Environment) (t : FileTree) : RulesSource → Except Failure String
  | text s => .ok s
  | sample => .ok sampleText
  | file path => do return String.ofList (← t.readText (← locate e t path))

end RulesSource

/-- The text of the rules that are given, or else of those of the settings. -/
def RulesRequest.read (e : Environment) (t : FileTree) (settings : Settings) (r : RulesRequest) :
    Except Failure String := do
  (← (RulesSource.choose r settings).mapError Failure.command).read e t

end RuleCalendar
