import RuleCalendar.Files.Path

/-!
# Environment variables and home directories

A tilde at the beginning of a path stands for the home directory of the user, a tilde with a name
for that of the account of this name. Where no home directory is known the text stays as it is. No
account can be looked for under a name with the character of code zero.
-/

namespace RuleCalendar

/-- What a program is told about where it runs. -/
structure Environment where
  /-- Variables and their values. -/
  bindings : List (String × String)
  /-- The names of accounts and their home directories. -/
  accounts : List (String × String) := []
  deriving Repr

/-- Why a path gets no home directory. -/
inductive HomeError where
  /-- The home directory is not known. -/
  | unknown
  /-- The name of the account holds the character of code zero. -/
  | nullCharacter
  deriving DecidableEq, Repr

/-- The text of a failure to find a home directory. -/
def HomeError.message : HomeError → String
  | unknown => "Could not determine home directory."
  | nullCharacter => "embedded null byte"

namespace Environment

/-- The value of a variable. -/
def value? (e : Environment) (name : String) : Option String := e.bindings.lookup name

/-- The value of a variable that is set and not empty. -/
def filled? (e : Environment) (name : String) : Option String :=
  (e.value? name).filter (· ≠ "")

/-- The home directory of an account; with an empty name, of the user. -/
def home? (e : Environment) (account : String) : Option String :=
  if account = "" then e.value? "HOME" else e.accounts.lookup account

/-- The text without the slashes at its end. -/
def withoutLastSlashes (s : String) : String :=
  String.ofList (s.toList.reverse.dropWhile (· = '/')).reverse

/-- The text with a home directory in place of a tilde at its beginning. -/
def expandHome (e : Environment) (text : String) : Except HomeError String :=
  match text.toList with
  | '~' :: rest =>
    let account := rest.takeWhile (· ≠ '/')
    let below := String.ofList (rest.dropWhile (· ≠ '/'))
    if Char.ofNat 0 ∈ account then .error .nullCharacter
    else match e.home? (String.ofList account) with
      | some home =>
        let expanded := withoutLastSlashes home ++ below
        .ok (if expanded = "" then "/" else expanded)
      | none => .ok text
  | _ => .ok text

end Environment

/-- The path with a home directory in place of a tilde at its beginning. -/
def Path.expandHome (e : Environment) (p : Path) : Except HomeError Path :=
  match p.root, p.names with
  | .working, first :: names =>
    if first.startsWith "~" then do
      let home ← e.expandHome first
      if home.startsWith "~" then .error .unknown
      else
        let base := Path.ofText home
        .ok { base with names := base.names ++ names }
    else .ok p
  | _, _ => .ok p

end RuleCalendar
