import RuleCalendar.Proofs.Pattern.Boundary
import RuleCalendar.Proofs.Rule.WrittenDate
import RuleCalendar.Proofs.Text.Normal

/-!
# Rule texts with more words

What an entry of the table looks for is still there when other words stand before or behind it, a
space away. Main statement: two rule texts with a space between them are taken by every entry that
takes one of them, so that the entry which decides comes no later in the table than those which decide
the two texts alone.
-/

namespace RuleCalendar

variable {p : Pattern} {here there : Cursor} {ns : List Int} {s t : List Char}

/-! ### Matches inside a longer text -/

private theorem Cursor.Reads.inside {l : List Char} (h : here.Reads l there) (left right : List Char) :
    (here.inside left right).Reads l (there.inside left right) where
  ahead := by rw [Cursor.inside, Cursor.inside, h.ahead, List.append_assoc]
  behind := by rw [Cursor.inside, Cursor.inside, h.behind, List.append_assoc]

namespace Pattern

/-- Whether no match of the pattern is lost when the character and more text come to stand beside
it. -/
def persists (c : Char) : Pattern → Bool
  | text _ | number _ _ | reads _ | edge => true
  | optional p => p.persists c
  | either p q | follow p q => p.persists c && q.persists c
  | unlessAhead _ => false
  | unlessBehind chars => !chars.contains c

/-- Text beyond a mark on either side takes no match away. -/
theorem Matches.inside {c : Char} {left right : List Char} (hc : IsMark c)
    (hl : StartsWith c left) (hr : StartsWith c right) (hp : p.persists c = true)
    (h : p.Matches here ns there) :
    p.Matches (here.inside left right) ns (there.inside left right) := by
  induction p generalizing here ns there with
  | text chars =>
    obtain ⟨rfl, hread⟩ := matches_text.mp h
    exact matches_text.mpr ⟨rfl, hread.inside left right⟩
  | number least most =>
    obtain ⟨ds, hread, hdigits⟩ := matches_number.mp h
    exact matches_number.mpr ⟨ds, hread.inside left right, hdigits⟩
  | reads n =>
    obtain ⟨rfl, rfl⟩ := matches_reads.mp h
    exact matches_reads.mpr ⟨rfl, rfl⟩
  | edge =>
    obtain ⟨hedge, rfl, rfl⟩ := matches_edge.mp h
    exact matches_edge.mpr ⟨(Cursor.atEdge_inside hc hl hr _).trans hedge, rfl, rfl⟩
  | optional p ih =>
    apply matches_optional.mpr
    cases matches_optional.mp h with
    | inl hmatch => exact .inl (ih hp hmatch)
    | inr hstay =>
      obtain ⟨rfl, rfl⟩ := hstay
      exact .inr ⟨rfl, rfl⟩
  | either p q ihp ihq =>
    rw [persists, Bool.and_eq_true] at hp
    apply matches_either.mpr
    cases matches_either.mp h with
    | inl hmatch => exact .inl (ihp hp.1 hmatch)
    | inr hmatch => exact .inr (ihq hp.2 hmatch)
  | follow p q ihp ihq =>
    rw [persists, Bool.and_eq_true] at hp
    obtain ⟨ks, mid, ms, hfirst, hsecond, rfl⟩ := matches_follow.mp h
    exact matches_follow.mpr
      ⟨ks, mid.inside left right, ms, ihp hp.1 hfirst, ihq hp.2 hsecond, rfl⟩
  | unlessAhead p => cases hp
  | unlessBehind chars =>
    obtain ⟨hbehind, rfl, rfl⟩ := matches_unlessBehind.mp h
    have hchars : c ∉ chars.reverse := by simpa [persists] using hp
    exact matches_unlessBehind.mpr ⟨(isPrefixOf_append hl hchars _).trans hbehind, rfl, rfl⟩

/-- What occurs in a text occurs in it with a space and more text before or behind it. -/
theorem occursIn_append_space (hp : p.persists ' ' = true)
    (h : p.occursIn s = true ∨ p.occursIn t = true) : p.occursIn (s ++ ' ' :: t) = true := by
  have hmark : IsMark ' ' := ⟨by decide, by decide⟩
  have hnone : StartsWith ' ' [] := nofun
  have hsome (l : List Char) : StartsWith ' ' (' ' :: l) := by simp [StartsWith]
  rw [occursIn_iff]
  cases h with
  | inl hs =>
    obtain ⟨here, ns, there, rfl, hmatch⟩ := occursIn_iff.mp hs
    exact ⟨_, ns, _, by simp [Cursor.text, Cursor.inside], hmatch.inside hmark hnone (hsome t) hp⟩
  | inr ht =>
    obtain ⟨here, ns, there, rfl, hmatch⟩ := occursIn_iff.mp ht
    exact ⟨_, ns, _, by simp [Cursor.text, Cursor.inside],
      hmatch.inside hmark (hsome s.reverse) hnone hp⟩

end Pattern

/-! ### The table -/

/-- The entries before the last one look for what recurrences are named by. -/
theorem map_applies_ruleTable : ruleTable.map (·.applies) =
    Vocabulary.recurrences.map (·.occursIn) ++ [fun s ↦ !s.isEmpty] := rfl

/-- The place in the table of the first entry that takes a text. -/
def tablePosition (s : List Char) : Nat := ruleTable.findIdx (·.applies s)

/-- An entry takes a text if it takes a part of it that a space sets off. -/
theorem applies_append_space {entry : RuleEntry} (hentry : entry ∈ ruleTable)
    (h : entry.applies s = true ∨ entry.applies t = true) :
    entry.applies (s ++ ' ' :: t) = true := by
  have hpersists : ∀ p ∈ Vocabulary.recurrences, p.persists ' ' = true := by
    decide
  have hmem : entry.applies ∈ ruleTable.map (·.applies) := List.mem_map_of_mem hentry
  rw [map_applies_ruleTable, List.mem_append, List.mem_map, List.mem_singleton] at hmem
  obtain ⟨p, hp, happlies⟩ | happlies := hmem
  · rw [← happlies] at h ⊢
    exact Pattern.occursIn_append_space (hpersists p hp) h
  · rw [happlies]
    simp

/-- The entry at the place of a text is the first of those that take it. -/
theorem head?_ruleNames (s : List Char) :
    (ruleNames s).head? = ruleTable[tablePosition s]?.map (·.name) := by
  rw [ruleNames, List.head?_map, List.head?_filter, tablePosition,
    List.find?_eq_getElem?_findIdx]

/-- Words that are added to a text leave it with all entries that take it. -/
theorem ruleNames_append_space (s t : List Char) :
    (ruleNames s).Sublist (ruleNames (s ++ ' ' :: t)) := by
  have hfilter : ruleTable.filter (·.applies s) =
      (ruleTable.filter (·.applies (s ++ ' ' :: t))).filter (·.applies s) := by
    rw [List.filter_filter]
    apply List.filter_congr
    intro entry hentry
    cases happlies : entry.applies s with
    | true => simp [applies_append_space hentry (.inl happlies)]
    | false => simp
  rw [ruleNames, ruleNames, hfilter]
  exact List.filter_sublist.map _

/-- The entry at the place of a normal form makes its rule. -/
theorem Rule.ofText_of_position (hnormal : Text.normalForm s = s) (hne : s ≠ []) :
    ∃ entry, ruleTable[tablePosition s]? = some entry ∧ Rule.ofText s = entry.rule s := by
  have hlast : ∃ entry ∈ ruleTable, entry.applies s = true :=
    ⟨.singleDate, by simp [ruleTable], by simpa [RuleEntry.singleDate] using hne⟩
  obtain ⟨entry, hentry⟩ := Option.isSome_iff_exists.mp (List.find?_isSome.mpr hlast)
  refine ⟨entry, ?_, ?_⟩
  · rw [tablePosition, ← List.find?_eq_getElem?_findIdx, hentry]
  · simp only [ofText, hnormal, hentry]

/-- Words that are added to a rule text leave it with all entries that take it, and the entry that
decides the longer text is none behind those that decide its parts. -/
theorem Rule.tablePosition_append_le (hs : Text.normalForm s = s) (ht : Text.normalForm t = t)
    (hsne : s ≠ []) (htne : t ≠ []) :
    (∀ entry ∈ ruleTable, entry.applies s = true ∨ entry.applies t = true →
        entry.applies (s ++ ' ' :: t) = true) ∧
      tablePosition (s ++ ' ' :: t) ≤ min (tablePosition s) (tablePosition t) ∧
      ∃ entry, ruleTable[tablePosition (s ++ ' ' :: t)]? = some entry ∧
        Rule.ofText (s ++ ' ' :: t) = entry.rule (s ++ ' ' :: t) := by
  refine ⟨fun entry hentry h ↦ applies_append_space hentry h, ?_, ?_⟩
  · apply Nat.le_min.mpr
    constructor
    · exact List.findIdx_le_findIdx fun entry hentry h ↦ applies_append_space hentry (.inl h)
    · exact List.findIdx_le_findIdx fun entry hentry h ↦ applies_append_space hentry (.inr h)
  · have hjoined : Text.IsNormal (s ++ ' ' :: t) :=
      (Text.isNormal_iff.mpr hs).append_space (Text.isNormal_iff.mpr ht) hsne htne
    exact ofText_of_position hjoined.normalForm_eq (by simp)

/-- Weekly rules come before monthly ones, also where the text names them the other way round. -/
theorem Rule.tablePosition_monthly_weekly :
    let s := "monthly".toList
    let t := "or rather weekly".toList
    (Text.normalForm s = s ∧ Text.normalForm t = t ∧ s ≠ [] ∧ t ≠ []) ∧
      (∀ entry ∈ ruleTable, entry.applies s = true ∨ entry.applies t = true →
        entry.applies (s ++ ' ' :: t) = true) ∧
      tablePosition (s ++ ' ' :: t) ≤ min (tablePosition s) (tablePosition t) ∧
      ∃ entry, ruleTable[tablePosition (s ++ ' ' :: t)]? = some entry ∧
        Rule.ofText (s ++ ' ' :: t) = entry.rule (s ++ ' ' :: t) := by
  have hs : Text.normalForm "monthly".toList = "monthly".toList := by decide +kernel
  have ht : Text.normalForm "or rather weekly".toList = "or rather weekly".toList := by
    decide +kernel
  exact ⟨⟨hs, ht, by decide, by decide⟩,
    tablePosition_append_le hs ht (by decide) (by decide)⟩

end RuleCalendar
