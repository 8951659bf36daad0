import RuleCalendar.Export.ICalendar
import RuleCalendar.Failure
import RuleCalendar.Log

/-!
# Settings

What a user sets once for all calendars, given as a mapping. Keys that are missing or null keep
their defaults, unknown keys are passed over, and a value of the wrong kind is an error.
-/

namespace RuleCalendar

/-- What a user has set. -/
structure Settings where
  /-- The year of the calendar. -/
  year : Option Int := none
  /-- The path of the rules file. -/
  rulesFile : Option String := none
  /-- The name of the calendar. -/
  calendarName : Option String := none
  /-- How many days before an event its alarm goes off. -/
  reminderDays : Int := 1
  /-- What the ids of exported events end in. -/
  uidDomain : String := "business-calendar.com"
  /-- The product that exported calendars name. -/
  prodid : String := "-//Business Calendar Generator//EN"
  /-- Where the settings come from. -/
  source : Option String := none
  deriving DecidableEq, Repr

/-- What kind of value a setting takes. -/
inductive SettingKind where
  /-- An integer. -/
  | integer
  /-- A text. -/
  | text
  deriving DecidableEq, Repr

/-- The name of a kind in messages. -/
def SettingKind.name : SettingKind → String
  | integer => "int"
  | text => "str"

/-- What can be set. -/
inductive SettingKey where
  /-- The year of the calendar. -/
  | year
  /-- The path of the rules file. -/
  | rulesFile
  /-- The name of the calendar. -/
  | calendarName
  /-- The days before an alarm. -/
  | reminderDays
  /-- What ids end in. -/
  | uidDomain
  /-- The product. -/
  | prodid
  deriving DecidableEq, Repr

namespace SettingKey

/-- All keys. -/
def all : List SettingKey := [year, rulesFile, calendarName, reminderDays, uidDomain, prodid]

/-- The name of a key. -/
def name : SettingKey → String
  | year => "year"
  | rulesFile => "rules_file"
  | calendarName => "calendar_name"
  | reminderDays => "reminder_days"
  | uidDomain => "uid_domain"
  | prodid => "prodid"

/-- The kind of its values. -/
def kind : SettingKey → SettingKind
  | year | reminderDays => .integer
  | rulesFile | calendarName | uidDomain | prodid => .text

/-- The key of a name. -/
def ofScalar? (k : Scalar) : Option SettingKey := all.find? fun key ↦ k = .text key.name

end SettingKey

namespace Settings

/-- The settings with an integer set. -/
def setInt (s : Settings) (key : SettingKey) (n : Int) : Settings :=
  match key with
  | .year => { s with year := some n }
  | .reminderDays => { s with reminderDays := n }
  | _ => s

/-- The settings with a text set. -/
def setText (e : Environment) (s : Settings) (key : SettingKey) (text : String) :
    Except HomeError Settings :=
  match key with
  | .rulesFile => (e.expandHome text).map fun path ↦ { s with rulesFile := some path }
  | .calendarName => .ok { s with calendarName := some text }
  | .uidDomain => .ok { s with uidDomain := text }
  | .prodid => .ok { s with prodid := text }
  | _ => .ok s

/-- The settings with one entry of a mapping taken over. -/
def set (e : Environment) (source : String) (s : Settings) (entry : Scalar × Value) :
    Except Failure Settings :=
  match SettingKey.ofScalar? entry.1 with
  | none => .ok s
  | some key =>
    match key.kind, entry.2 with
    | _, .scalar .null => .ok s
    | .integer, .scalar (.int n) =>
      if key = .reminderDays ∧ n < 0 then .error (.command (.negativeReminder source))
      else .ok (s.setInt key n)
    | .text, .scalar (.text text) => (s.setText e key text).mapError .home
    -- a family is its name too
    | .text, .scalar (.family f) => (s.setText e key f.name).mapError .home
    | kind, v => .error (.command (.settingKind source key.name kind.name v.kind))

/-- The settings of a mapping. -/
def ofEntries (e : Environment) (source : String) (entries : List (Scalar × Value)) :
    Except Failure Settings :=
  entries.foldlM (set e source) { source := some source }

/-- The name of a mapping that is not read from a file. -/
def unnamedSource : String := "<config>"

/-- The unknown keys that are met before the first error. -/
def unknownKeys (e : Environment) (source : String) : List (Scalar × Value) → List Scalar
  | [] => []
  | entry :: rest =>
    match SettingKey.ofScalar? entry.1, set e source {} entry with
    | none, _ => entry.1 :: unknownKeys e source rest
    | some _, .ok _ => unknownKeys e source rest
    | some _, .error _ => []

/-- What is told of an unknown key. -/
def unknownKeyLine (source : String) (key : Scalar) : LogLine :=
  let shown := String.ofList key.quoted
  ⟨.info, "prodcal.config", s!"ignoring unknown config key {shown} in {source}"⟩

/-- The settings as options of an iCalendar export. -/
def calendarOptions (s : Settings) (stamp : Moment) : ICalendar.Options where
  stamp := stamp
  calendarName := s.calendarName
  reminderDays := s.reminderDays
  uidDomain := s.uidDomain
  prodid := s.prodid

end Settings

end RuleCalendar
