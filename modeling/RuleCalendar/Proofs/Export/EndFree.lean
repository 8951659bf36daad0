import RuleCalendar.Proofs.Export.ContentLine
import RuleCalendar.Proofs.Export.Uid

/-!
# Texts in which no line ends

Lines of a calendar end in a carriage return and a line feed. Main statement: neither is in an escaped
text value, a number, a date or a time.
-/

namespace RuleCalendar.ICalendar

/-- Whether neither of the characters at which lines of a calendar end is in a text. -/
def EndFree (s : List Char) : Prop := '\r' ∉ s ∧ '\n' ∉ s

instance (s : List Char) : Decidable (EndFree s) :=
  inferInstanceAs (Decidable ('\r' ∉ s ∧ '\n' ∉ s))

/-- No line ends in a text made of two parts if none ends in either. -/
theorem endFree_append {s t : List Char} : EndFree (s ++ t) ↔ EndFree s ∧ EndFree t := by
  simp only [EndFree, List.mem_append, not_or]
  exact and_and_and_comm

/-- No line ends in a text if none ends in any of its parts. -/
theorem endFree_flatten {ls : List (List Char)} : EndFree ls.flatten ↔ ∀ l ∈ ls, EndFree l := by
  induction ls with
  | nil => simp [EndFree]
  | cons l ls ih => rw [List.flatten_cons, endFree_append, ih, List.forall_mem_cons]

/-- No line ends in a text of digits and hyphens. -/
theorem endFree_of_digits {s : List Char} (h : ∀ c : Char, c.isDigit = false → c ≠ '-' → c ∉ s) :
    EndFree s := ⟨h _ rfl (by decide), h _ rfl (by decide)⟩

/-- No line ends in a number. -/
theorem endFree_integer (n : Int) : EndFree (toString n).toList :=
  endFree_of_digits fun _ hdigit hhyphen ↦ Text.not_mem_toString_int hdigit hhyphen n

/-- No line ends in a date. -/
theorem endFree_compact (d : Date) : EndFree d.compact.toList :=
  endFree_of_digits fun _ hdigit _ ↦ not_mem_compact hdigit d

/-- No line ends in a time stamp. -/
theorem endFree_stamp (m : Moment) : EndFree m.compact.toList := by
  have hpadded : ∀ n, EndFree (Text.zeroPadded 2 n) := fun n ↦
    endFree_of_digits fun _ hdigit _ ↦ Text.not_mem_zeroPadded hdigit 2 n
  have hmarks : EndFree ['T'] ∧ EndFree ['Z'] := by decide
  have hm : m.compact.toList = m.date.compact.toList ++ (['T'] ++ Text.zeroPadded 2 m.hour ++
      Text.zeroPadded 2 m.minute ++ Text.zeroPadded 2 m.second ++ ['Z']) := by
    simp [Moment.compact]
  simp only [hm, endFree_append, endFree_compact, hpadded, hmarks, and_self]

/-- No line ends in an escaped text. -/
theorem endFree_escape (s : List Char) : EndFree (escape s) :=
  ⟨not_mem_escape (.inl rfl) s, not_mem_escape (.inr rfl) s⟩

/-- A number between texts in which no line ends. -/
theorem endFree_around {s t : String} (hs : EndFree s.toList) (ht : EndFree t.toList) (n : Int) :
    EndFree (s ++ toString n ++ t).toList := by
  rw [String.toList_append, String.toList_append, endFree_append, endFree_append]
  exact ⟨⟨hs, endFree_integer n⟩, ht⟩

/-- No line ends in what an alarm says of the days left. -/
theorem endFree_whenText (days : Int) : EndFree (whenText days).toList := by
  rw [whenText]
  split
  · decide
  · exact endFree_around (s := "in ") (t := " days") (by decide) (by decide) days

end RuleCalendar.ICalendar
