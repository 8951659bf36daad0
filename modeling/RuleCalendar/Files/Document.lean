import RuleCalendar.Failure
import RuleCalendar.Text.Blank
import RuleCalendar.Yaml.Document

/-!
# Text files and documents

Text files are UTF-8, and every kind of line end is read as a line feed.
-/

namespace RuleCalendar.FileTree

/-- The text of a file. -/
def readText (t : FileTree) (path : String) : Except Failure (List Char) := do
  let bytes ← (t.read path).mapError .file
  let text ← (Utf8.decode bytes).mapError .encoding
  return Text.plainNewlines text

/-- The value of the document in a file; nothing if there is no such file or nothing in it. -/
def readDocument (t : FileTree) (path : String) : Except Failure (Option Value) :=
  if path = "" then .ok none
  else
    let path := (Path.ofText path).toText
    match t.look path with
    | .ok (.file _) => do
      match ← (Yaml.read (← t.readText path)).mapError .document with
      | .scalar .null => return none
      | v => return some v
    | .error .nameTooLong => .error (.file ⟨.nameTooLong, path⟩)
    | _ => .ok none

end RuleCalendar.FileTree
