import RuleCalendar.Proofs.Text.Decimal
import RuleCalendar.Proofs.Text.Lines
import RuleCalendar.Schedule

/-!
# The ids of events

An id is the decimals of its line, its month and perhaps its day, joined by hyphens. Main
statements: the numbers can be read back from the id, so that ids are the same only where the
numbers are; and raising the line of an id gives the id of the raised line.
-/

namespace RuleCalendar.Schedule

open Text (decimal digitsValue)

/-- The numbers that the id of an event is made of. -/
def idNumbers (line : Nat) (month day : Int) (multi : Bool) : List Nat :=
  line :: month.toNat :: if multi then [day.toNat] else []

/-- The number of the line that an id begins with. -/
def lineOf (id : String) : Nat := digitsValue 0 ((Text.splitAt '-' id.toList).headD [])

/-- The month that an id tells, in which its event was found. -/
def monthOf (id : String) : Int := digitsValue 0 ((Text.splitAt '-' id.toList).getD 1 [])

/-- The id with the number of its line raised. -/
def raiseLine (count : Nat) (id : String) : String :=
  match Text.splitAt '-' id.toList with
  | line :: rest => String.ofList (['-'].intercalate (decimal (digitsValue 0 line + count) :: rest))
  | [] => id

private theorem toList_repr_int {n : Int} (h : 0 ≤ n) : n.repr.toList = decimal n.toNat := by
  obtain ⟨k, rfl⟩ := Int.eq_ofNat_of_zero_le h
  exact Nat.toList_repr

section

variable {line : Nat} {month day : Int} {multi : Bool} (hm : 0 ≤ month) (hd : 0 ≤ day)
include hm hd

/-- An id is the decimals of its numbers, joined by hyphens. -/
theorem eventId_eq : eventId line month day multi =
    String.ofList (['-'].intercalate ((idNumbers line month day multi).map decimal)) := by
  apply String.toList_inj.1
  have hhyphen : (toString "-").toList = ['-'] := rfl
  cases multi <;>
    simp [eventId, idNumbers, toList_repr_int hm, toList_repr_int hd, hhyphen, decimal,
      List.intercalate]

/-- Ids are made of digits and hyphens. -/
theorem not_mem_eventId {c : Char} (hdigit : c.isDigit = false) (hhyphen : c ≠ '-') :
    c ∉ (eventId line month day multi).toList := by
  rw [eventId_eq hm hd, String.toList_ofList]
  have hchars : ∀ c' ∈ ['-'].intercalate ((idNumbers line month day multi).map decimal),
      c' ≠ c := by
    apply Text.forall_mem_intercalate
    · rintro _ hc rfl
      exact hhyphen (List.mem_singleton.mp hc)
    · rintro l hl _ hc rfl
      obtain ⟨k, -, rfl⟩ := List.mem_map.mp hl
      exact Text.not_mem_decimal hdigit k hc
  exact fun hmem ↦ hchars c hmem rfl

private theorem splitAt_eventId : Text.splitAt '-' (eventId line month day multi).toList =
    (idNumbers line month day multi).map decimal := by
  rw [eventId_eq hm hd, String.toList_ofList]
  exact Text.splitAt_decimals rfl line _

/-- The line of an event is read back from its id. -/
theorem lineOf_eventId : lineOf (eventId line month day multi) = line := by
  rw [lineOf, splitAt_eventId hm hd]
  exact Text.digitsValue_decimal line

/-- The month in which an event was found is read back from its id. -/
theorem monthOf_eventId : monthOf (eventId line month day multi) = month := by
  have hsecond : ((idNumbers line month day multi).map decimal).getD 1 [] = decimal month.toNat := by
    cases multi <;> rfl
  rw [monthOf, splitAt_eventId hm hd, hsecond, Text.digitsValue_decimal]
  exact Int.toNat_of_nonneg hm

/-- Raising the line of an id gives the id of the raised line. -/
theorem raiseLine_eventId (count : Nat) :
    raiseLine count (eventId line month day multi) = eventId (line + count) month day multi := by
  simp only [raiseLine, splitAt_eventId hm hd, idNumbers, List.map_cons,
    Text.digitsValue_decimal]
  rw [eventId_eq hm hd]
  rfl

/-- Ids are the same only where line and month are, both tell the day or neither does, and the days
that they tell are the same. -/
theorem eventId_inj {line' : Nat} {month' day' : Int} {multi' : Bool} (hm' : 0 ≤ month')
    (hd' : 0 ≤ day') (h : eventId line month day multi = eventId line' month' day' multi') :
    line = line' ∧ month = month' ∧ multi = multi' ∧ (multi = true → day = day') := by
  have hdecimals : (idNumbers line month day multi).map decimal =
      (idNumbers line' month' day' multi').map decimal := by
    rw [← splitAt_eventId hm hd, h, splitAt_eventId hm' hd']
  have hnumbers := (List.map_inj_right fun _ _ ↦ Text.decimal_inj).1 hdecimals
  cases multi <;> cases multi' <;> simp [idNumbers] at hnumbers ⊢ <;> omega

end

end RuleCalendar.Schedule
