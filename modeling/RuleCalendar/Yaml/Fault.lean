import RuleCalendar.Date.Timestamp
import RuleCalendar.Text.Integer
import RuleCalendar.Text.Quoted

/-!
# What is wrong with a YAML text

A text is either not well formed, or it is well formed and a scalar in it has a form without a
value. The first is a matter of the document, the second of the kind of value that the scalar was
taken for.
-/

namespace RuleCalendar.Yaml

/-- Why a text is not well formed. -/
inductive FormError where
  /-- A character that no document holds. -/
  | unprintable (c : Char)
  /-- The text ends within a scalar or a collection. -/
  | unexpectedEnd
  /-- A character that cannot stand where it does. -/
  | misplaced (c : Char)
  /-- A backslash with something else than an escape after it. -/
  | badEscape
  /-- Escapes that stand for half a character. -/
  | halfCharacter
  /-- A document ends within quotes. -/
  | documentMarker
  /-- A sequence begins where none may begin. -/
  | sequenceNotAllowed
  /-- A key begins where none may begin. -/
  | keyNotAllowed
  /-- A mapping begins where none may begin. -/
  | mappingNotAllowed
  /-- A bracket that closes nothing. -/
  | unmatchedBracket
  /-- A key without a colon on its line. -/
  | missingColon
  /-- A name, a tag or a directive that is cut short. -/
  | badName
  /-- The header of a scalar in block style. -/
  | badHeader
  /-- A directive that is given twice, or asks for something else than is read here. -/
  | badDirective
  /-- Something else is expected at a place. -/
  | unexpectedToken
  /-- More follows after the document. -/
  | severalDocuments
  /-- A tag whose handle is not declared. -/
  | unknownHandle (handle : String)
  /-- A reference to an anchor that is not there. -/
  | unknownAnchor (name : String)
  /-- An anchor that is there already. -/
  | takenAnchor (name : String)
  /-- A tag that says nothing of a value, or of another kind of node. -/
  | unfitTag
  /-- A list or a mapping is used as a key. -/
  | keyNotScalar
  /-- Something else than mappings is merged into a mapping. -/
  | notMergeable
  deriving DecidableEq, Repr

/-- The text of a form error. -/
def FormError.message : FormError → String
  | unprintable c =>
    let code := c.toNat
    s!"character number {code} is not allowed"
  | unexpectedEnd => "the text ends too early"
  | misplaced c =>
    let code := c.toNat
    s!"character number {code} cannot stand here"
  | badEscape => "unknown escape"
  | halfCharacter => "an escape stands for half a character"
  | documentMarker => "unexpected document marker"
  | sequenceNotAllowed => "sequence entries are not allowed here"
  | keyNotAllowed => "keys are not allowed here"
  | mappingNotAllowed => "mapping values are not allowed here"
  | unmatchedBracket => "a bracket closes nothing"
  | missingColon => "a key has to be followed by a colon"
  | badName => "a name is cut short"
  | badHeader => "unknown header of a scalar"
  | badDirective => "a directive cannot be followed"
  | unexpectedToken => "something else is expected"
  | severalDocuments => "expected a single document"
  | unknownHandle handle => s!"unknown tag handle {handle}"
  | unknownAnchor name => s!"unknown anchor {name}"
  | takenAnchor name => s!"anchor {name} is there already"
  | unfitTag => "a tag does not fit"
  | keyNotScalar => "a key has to be a scalar"
  | notMergeable => "only mappings can be merged"

/-- Why a text gives no value. -/
inductive ReadError where
  /-- It is not well formed. -/
  | form (e : FormError)
  /-- An escape stands for a number beyond all characters. -/
  | noCharacter (code : Nat)
  /-- A number has no characters but marks. -/
  | emptyNumber
  /-- A number holds something else than digits of its base. -/
  | badDigits (base : Nat) (text : String)
  /-- A number has more digits than are read. -/
  | tooManyDigits (digits : Nat)
  /-- A number with a fraction holds something else than digits. -/
  | badReal (text : String)
  /-- A number with a fraction has too many places of base 60. -/
  | realTooLarge
  /-- A truth value is none of the words for one. -/
  | badTruth (text : String)
  /-- A date is not in the calendar. -/
  | date (e : CalendarError)
  /-- The hour of a time is not in 0 to 23. -/
  | hourOutOfRange
  /-- The minute of a time is not in 0 to 59. -/
  | minuteOutOfRange
  /-- The second of a time is not in 0 to 59. -/
  | secondOutOfRange
  /-- A time is a day or more away from universal time. -/
  | offsetOutOfRange (minutes : Int)
  /-- A time is not written like one. -/
  | badTime
  deriving Repr

/-- The code points that an escape may ask for before it is looked at. -/
def mostCode : Nat := 2147483647

/-- The text of a read error. -/
def ReadError.message : ReadError → String
  | form e => e.message
  | noCharacter code =>
    if mostCode < code then "Python int too large to convert to C int"
    else "chr() arg not in range(0x110000)"
  | emptyNumber => "string index out of range"
  | badDigits base text =>
    let shown := String.ofList ((Text.quoted text.toList).take 200)
    s!"invalid literal for int() with base {base}: {shown}"
  | tooManyDigits digits => Text.tooLongMessage digits
  | badReal text =>
    let shown := String.ofList (Text.quoted text.toList)
    s!"could not convert string to float: {shown}"
  | realTooLarge => "int too large to convert to float"
  | badTruth text => String.ofList (Text.quoted text.toList)
  | date e => e.message
  | hourOutOfRange => "hour must be in 0..23"
  | minuteOutOfRange => "minute must be in 0..59"
  | secondOutOfRange => "second must be in 0..59"
  | offsetOutOfRange minutes =>
    let shown := String.ofList (Timestamp.quotedSpan minutes)
    "offset must be a timedelta strictly between -timedelta(hours=24) and timedelta(hours=24), " ++
      s!"not {shown}."
  | badTime => "'NoneType' object has no attribute 'groupdict'"

end RuleCalendar.Yaml
