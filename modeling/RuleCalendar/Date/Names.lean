import RuleCalendar.Date.Basic
import RuleCalendar.Text.Digit
import RuleCalendar.Text.Layout

/-!
# Dates in text

The English names of weekdays and months, and the written forms of dates. Numbers of one
digit are padded with a zero; a year is padded to four digits in the ISO form only.
-/

namespace RuleCalendar

/-- The names of the weekdays in lower case, from Monday. -/
def weekdayNames : List String :=
  ["monday", "tuesday", "wednesday", "thursday", "friday", "saturday", "sunday"]

/-- The names of the months in lower case, from January. -/
def monthNames : List String :=
  ["january", "february", "march", "april", "may", "june", "july", "august", "september",
    "october", "november", "december"]

/-- The capitalized name of a month. A number counts back from the end of the year when it is
negative, and the place before January holds the empty name. -/
def monthName (month : Int) : Except CalendarError String :=
  if !fitsLong month then .error .unnamedBeyondLong
  else
    let place := if month < 0 then month + 13 else month
    if place < 0 then .error .unnamedMonth
    else match ("" :: monthNames)[place.toNat]? with
      | some name => .ok name.capitalize
      | none => .error .unnamedMonth

namespace Date

/-- The capitalized name of a date's weekday. -/
def weekdayName (d : Date) : String := (weekdayNames.getD d.weekday.toNat "").capitalize

/-- The decimal digits of a number of a date, padded with zeros to a width. -/
def digits (width : Nat) (n : Int) : List Char := Text.zeroPadded width n.toNat

/-- Year, month and day, the year in four digits. -/
def iso (d : Date) : String :=
  String.ofList (digits 4 d.year ++ '-' :: digits 2 d.month ++ '-' :: digits 2 d.day)

/-- Year, month and day, the year as short as it is. -/
def dashed (d : Date) : String :=
  String.ofList (digits 1 d.year ++ '-' :: digits 2 d.month ++ '-' :: digits 2 d.day)

/-- Year, month and day without marks between them, the year as short as it is. -/
def compact (d : Date) : String :=
  String.ofList (digits 1 d.year ++ digits 2 d.month ++ digits 2 d.day)

/-- The number that exactly `width` ASCII digits at the start of a text stand for, and the rest. -/
def takeDigits? (width : Nat) (s : List Char) : Option (Int × List Char) :=
  let front := s.take width
  if front.length = width ∧ front.all (·.isDigit) then
    some ((Text.digitsValue 0 front : Int), s.drop width)
  else none

/-- The year, month and day of a text in the ISO form. -/
def fieldsOfIso? (s : List Char) : Option (Int × Int × Int) :=
  match takeDigits? 4 s with
  | some (year, '-' :: rest) =>
    match takeDigits? 2 rest with
    | some (month, '-' :: rest) =>
      match takeDigits? 2 rest with
      | some (day, []) => some (year, month, day)
      | _ => none
    | _ => none
  | _ => none

end Date

end RuleCalendar
