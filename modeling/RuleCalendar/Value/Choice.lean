import RuleCalendar.Value.Show

/-!
# Choosing by name

Families, anchors and shifts that are given by their written names, and what is said of a name that
belongs to none of them.
-/

namespace RuleCalendar

/-- A value that is not one of the names of a fixed set. -/
structure UnknownName where
  /-- The value. -/
  given : Value
  /-- What the names are names of. -/
  among : String
  deriving Repr

/-- The text of an unknown name. -/
def UnknownName.message (u : UnknownName) : String :=
  String.ofList u.given.quoted ++ " is not a valid " ++ u.among

namespace Value

/-- What a value names, by a look-up of texts. -/
def choose {α : Type} (among : String) (ofName? : String → Option α) (v : Value) :
    Except UnknownName α :=
  let found := match v with
    | scalar (.text s) => ofName? s
    | _ => none
  match found with
  | some a => .ok a
  | none => .error ⟨v, among⟩

/-- The family that a value names. -/
def chooseFamily : Value → Except UnknownName Family := choose "RuleFamily" Family.ofName?

/-- The anchor that a value names. -/
def chooseAnchor : Value → Except UnknownName Anchor := choose "Anchor" Anchor.ofName?

/-- The shift that a value names. -/
def chooseShift : Value → Except UnknownName Shift := choose "ShiftPolicy" Shift.ofName?

end Value

end RuleCalendar
