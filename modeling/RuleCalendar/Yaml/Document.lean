import RuleCalendar.Text.Blank
import RuleCalendar.Yaml.Node.Meaning
import RuleCalendar.Yaml.Node.Reading
import RuleCalendar.Yaml.Token.Reading

/-!
# YAML documents

A text that holds one document is read as a value; one that holds none is read as no value.
-/

namespace RuleCalendar.Yaml

/-- The value of a text that holds one document; no value if it holds none. -/
def read (text : List Char) : Except ReadError Value := do
  match ← Node.ofTokens? (tokensOf (Text.plainNewlines text)) with
  | some node => node.toValue
  | none => return .null

end RuleCalendar.Yaml
