import Mathlib.Data.List.Nodup
import RuleCalendar.Report.Writer

/-!
# Names that are chosen

Families, anchors, shifts and formats are given by their written names. Main statement: a value is
taken for the one whose name it is, and refused, with the value told, if it is the name of none.
-/

namespace RuleCalendar.Value

variable {α : Type} {all : List α} {name : α → String} {v : Value}

/-- Things are chosen by their names, and of any other value it is told that it is no name. -/
structure ChoosesByName (choice : Value → Except UnknownName α) (name : α → String)
    (among : String) : Prop where
  ok_iff : ∀ v a, choice v = .ok a ↔ v = .text (name a)
  error_iff : ∀ v e, choice v = .error e ↔ e = ⟨v, among⟩ ∧ ∀ a, v ≠ .text (name a)

private theorem choose_name (hall : ∀ a, a ∈ all) (hnodup : (all.map name).Nodup)
    (among : String) (a : α) :
    choose among (fun s ↦ all.find? fun b ↦ name b = s) (.text (name a)) = .ok a := by
  have hfind : all.find? (fun b ↦ name b = name a) = some a := by
    cases hfound : all.find? fun b ↦ name b = name a with
    | none => exact absurd (decide_eq_true rfl) (List.find?_eq_none.mp hfound a (hall a))
    | some b =>
      have hname : name b = name a := by simpa using List.find?_some hfound
      rw [List.inj_on_of_nodup_map hnodup (hall b) (hall a) hname]
  simp only [choose, text, hfind]

private theorem choose_of_ne (among : String) (h : ∀ a, v ≠ .text (name a)) :
    choose among (fun s ↦ all.find? fun b ↦ name b = s) v = .error ⟨v, among⟩ := by
  rcases v with s | items | entries
  · cases s with
    | text s =>
      have hfind : all.find? (fun b ↦ name b = s) = none := by
        rw [List.find?_eq_none]
        intro b _ hname
        exact h b (by rw [of_decide_eq_true hname]; rfl)
      simp only [choose, hfind]
    | _ => rfl
  · rfl
  · rfl

/-- A look-up in a list of all things, of which no two have one name, chooses them by name. -/
theorem choosesByName (hall : ∀ a, a ∈ all) (hnodup : (all.map name).Nodup) (among : String) :
    ChoosesByName (choose among fun s ↦ all.find? fun a ↦ name a = s) name among := by
  constructor
  case ok_iff =>
    intro v a
    constructor
    · intro hok
      by_contra hne
      by_cases hnamed : ∃ b, v = .text (name b)
      · obtain ⟨b, rfl⟩ := hnamed
        rw [choose_name hall hnodup] at hok
        exact hne (by rw [Except.ok.inj hok])
      · rw [choose_of_ne among (not_exists.mp hnamed)] at hok
        cases hok
    · rintro rfl
      exact choose_name hall hnodup among a
  case error_iff =>
    intro v e
    constructor
    · intro herror
      have hne : ∀ a, v ≠ .text (name a) := by
        rintro a rfl
        rw [choose_name hall hnodup] at herror
        cases herror
      rw [choose_of_ne among hne] at herror
      exact ⟨(Except.error.inj herror).symm, hne⟩
    · rintro ⟨rfl, hne⟩
      exact choose_of_ne among hne

/-- Families are chosen by their names. -/
theorem chooseFamily_byName : ChoosesByName chooseFamily Family.name "RuleFamily" :=
  choosesByName (by intro f; cases f <;> decide) (by decide) _

/-- Anchors are chosen by their names. -/
theorem chooseAnchor_byName : ChoosesByName chooseAnchor Anchor.name "Anchor" :=
  choosesByName (by intro a; cases a <;> decide) (by decide) _

/-- Shifts are chosen by their names. -/
theorem chooseShift_byName : ChoosesByName chooseShift Shift.name "ShiftPolicy" :=
  choosesByName (by intro s; cases s <;> decide) (by decide) _

/-- Formats are chosen by their names. -/
theorem chooseFormat_byName : ChoosesByName chooseFormat Format.name "OutputFormat" :=
  choosesByName (by intro f; cases f <;> decide) (by decide) _

end RuleCalendar.Value
