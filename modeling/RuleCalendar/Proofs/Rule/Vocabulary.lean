import RuleCalendar.Proofs.Pattern.Match
import RuleCalendar.Rule.Reading

/-!
# Patterns that hold others

Main statements: the phrases for January alone name a month, so that a text that holds one of them
is a text with a named month; and a day number of every month holds the words for every month.
-/

namespace RuleCalendar.Vocabulary

open Pattern

variable {here mid there : Cursor} {l r : List Char}

/-- A word begins or ends between two characters of which one is part of a word. -/
theorem atEdge_between (hl : here.Reads l mid) (hr : mid.Reads r there) {d e : Char}
    (hd : l.getLast? = some d) (he : r.head? = some e) (h : Text.isWord d ≠ Text.isWord e) :
    mid.atEdge = true := by
  have hbehind : mid.behind.head? = some d := by
    rw [hl.behind, List.head?_append, List.head?_reverse, hd]
    rfl
  have hahead : mid.ahead.head? = some e := by
    rw [hr.ahead, List.head?_append, he]
    rfl
  rw [Cursor.atEdge, hbehind, hahead]
  exact bne_iff_ne.mpr h

private theorem monthWord_matches (hstart : here.atEdge = true)
    (hread : here.Reads "january".toList there) (hend : there.atEdge = true) :
    monthWord.Matches here [1] there := by
  exact matches_whole.mpr ⟨hstart, matches_name.mpr ⟨("january", 1), by decide, rfl, hread⟩, hend⟩

/-- Where a month is named, its number is read. -/
theorem first?_monthWord_isSome {s : List Char} (h : monthWord.occursIn s = true) :
    (monthWord.first? s).isSome = true := by
  obtain ⟨ns, hns⟩ := Option.isSome_iff_exists.mp h
  obtain ⟨here, there, -, hmatch⟩ := matches_of_search hns
  obtain ⟨n, -, rfl, -⟩ := matches_name.mp (matches_whole.mp hmatch).2.1
  rw [first?, hns]
  rfl

/-- A phrase for January alone names a month. -/
theorem monthWord_of_januaryOnly {s : List Char} (h : januaryOnly.occursIn s = true) :
    monthWord.occursIn s = true := by
  obtain ⟨here, ns, there, hs, hmatch⟩ := occursIn_iff.mp h
  rw [occursIn_iff]
  cases matches_either.mp hmatch with
  | inl hlast =>
    obtain ⟨hstart, htext, hend⟩ := matches_whole.mp hlast
    have hread : here.Reads ("only in ".toList ++ "january".toList) there :=
      (matches_text.mp htext).2
    obtain ⟨mid, hl, hr⟩ := hread.exists_mid
    have hedge : mid.atEdge = true := atEdge_between (d := ' ') (e := 'j') hl hr rfl rfl (by decide)
    exact ⟨mid, [1], there, hl.text_eq.trans hs, monthWord_matches hedge hr hend⟩
  | inr hfirst =>
    obtain ⟨hstart, htext, hend⟩ := matches_whole.mp hfirst
    have hread : here.Reads ("january".toList ++ " only".toList) there :=
      (matches_text.mp htext).2
    obtain ⟨mid, hl, hr⟩ := hread.exists_mid
    have hedge : mid.atEdge = true := atEdge_between (d := 'y') (e := ' ') hl hr rfl rfl (by decide)
    exact ⟨here, [1], mid, hs, monthWord_matches hstart hl hedge⟩

/-- A day number of every month is monthly. -/
theorem monthly_of_dayOfEveryMonth {s : List Char} (h : dayOfEveryMonth.occursIn s = true) :
    monthly.occursIn s = true := by
  obtain ⟨here, ns, there, hs, hmatch⟩ := occursIn_iff.mp h
  obtain ⟨-, hday, hend⟩ := matches_whole.mp hmatch
  obtain ⟨_, start, _, hnumber, htext, -⟩ := matches_follow.mp hday
  have hread : start.Reads (" of ".toList ++ "every month".toList) there :=
    (matches_text.mp htext).2
  obtain ⟨mid, hl, hr⟩ := hread.exists_mid
  have hedge : mid.atEdge = true := atEdge_between (d := ' ') (e := 'e') hl hr rfl rfl (by decide)
  have hevery : (whole "every month").Matches mid [] there :=
    matches_whole.mpr ⟨hedge, matches_text.mpr ⟨rfl, hr⟩, hend⟩
  rw [occursIn_iff]
  exact ⟨mid, [], there, (hl.text_eq.trans hnumber.text_eq).trans hs,
    matches_either.mpr (.inl hevery)⟩

end RuleCalendar.Vocabulary
