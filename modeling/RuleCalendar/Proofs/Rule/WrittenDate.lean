import RuleCalendar.Proofs.Date.Spelling
import RuleCalendar.Proofs.Pattern.First
import RuleCalendar.Rule.Table

/-!
# Written dates

Main statement: a date written in digits gives the rule for this one date, and a named month and day
gives the rule for this day of every year. No text of these kinds holds the words that a recurrence
or a shift is named by, and each number is read from all its digits.
-/

namespace RuleCalendar

open Pattern

variable {here there : Cursor} {s : List Char}

/-! ### Digits -/

/-- A pattern for numbers of some lengths takes all digits of a number of a date. -/
structure Legible (least most width : Nat) (n : Int) : Prop where
  width : least ≤ width ∧ width ≤ most
  nonneg : 0 ≤ n
  length : (Text.decimal n.toNat).length ≤ most

private theorem legible_day {width : Nat} (hwidth : width ∈ [1, 2]) {n : Int} (hn : 1 ≤ n ∧ n ≤ 31) :
    Legible 1 2 width n := by
  have hcases : width = 1 ∨ width = 2 := by simpa using hwidth
  exact ⟨by omega, by omega, Text.length_decimal_le_two (by omega)⟩

/-- The digits of a number of a date are read as the number. -/
theorem prefers_digits {least most width : Nat} {n : Int} (hn : Legible least most width n)
    (hread : here.Reads (Date.digits width n) there) (hstop : there.AfterNumber) :
    (number least most).Prefers here [n] there := by
  have hlength := Date.length_digits hn.width.2 hn.length
  rw [← Date.digitsValue_digits width hn.nonneg]
  exact prefers_number hread (fun c ↦ Date.isDigit_of_mem_digits)
    ⟨hn.width.1.trans hlength.1, hlength.2⟩ hstop

/-- Digits stand at the edges of words. -/
theorem any_isWord_digits (width : Nat) (n : Int) :
    (Date.digits width n).head?.any Text.isWord = true ∧
      (Date.digits width n).getLast?.any Text.isWord = true :=
  Text.any_isWord_of_isDigit (Date.digits_ne_nil width n) fun _ hc ↦
    Text.isDigit_of_ascii (Date.isDigit_of_mem_digits hc)

/-- Three numbers with a mark between them are read in order. -/
theorem search_joined (mark : Char) (hmark : Text.digitValue? mark = none)
    {least most width least' most' width' least'' most'' width'' : Nat} {k m n : Int}
    (hk : Legible least most width k) (hm : Legible least' most' width' m)
    (hn : Legible least'' most'' width'' n) :
    (whole (number least most ++ text [mark] ++ number least' most' ++ text [mark] ++
      number least'' most'')).search (Date.digits width k ++ mark :: Date.digits width' m ++
        mark :: Date.digits width'' n) = some [k, m, n] := by
  generalize hs : Date.digits width k ++ mark :: Date.digits width' m ++
    mark :: Date.digits width'' n = s
  have hread : (⟨[], s⟩ : Cursor).Reads (Date.digits width k ++ ([mark] ++
      (Date.digits width' m ++ ([mark] ++ Date.digits width'' n)))) ⟨s.reverse, []⟩ := by
    constructor <;> simp [← hs]
  obtain ⟨afterFirst, hfirst, hread⟩ := hread.exists_mid
  obtain ⟨second, hmark₁, hread⟩ := hread.exists_mid
  obtain ⟨afterSecond, hsecond, hread⟩ := hread.exists_mid
  obtain ⟨third, hmark₂, hthird⟩ := hread.exists_mid
  have hstop {mid there : Cursor} (h : mid.Reads [mark] there) : mid.AfterNumber := by
    intro c hc
    rw [h.ahead, List.singleton_append, List.head?_cons, Option.some.injEq] at hc
    rw [← hc, hmark]
  have hend : (⟨s.reverse, []⟩ : Cursor).AfterNumber := nofun
  have hstart := Cursor.atEdge_start hfirst (any_isWord_digits width k).1
  have hedge := Cursor.atEdge_end hthird (any_isWord_digits width'' n).2
  refine search_of_prefers (.whole hstart ?_ hedge)
  exact ((((prefers_digits hk hfirst (hstop hmark₁)).follow (prefers_text hmark₁)).follow
    (prefers_digits hm hsecond (hstop hmark₂))).follow (prefers_text hmark₂)).follow
      (prefers_digits hn hthird hend)

/-! ### Texts without other words -/

namespace Vocabulary

/-- The words that recurrences are named by, in the order in which they are tried. -/
def recurrences : List Pattern :=
  [daily, weekly, monthly, everyWeekday, biweekly, quarterly, semiannual, annual, endOfMonth,
    ordinalWeekday, businessDay]

/-- What is left of a named month and day without its digits, whichever comes first. -/
def frame (ending name : String) : List Char :=
  ending.toList ++ ' ' :: "of".toList ++ ' ' :: name.toList ++ [' ']

private theorem isMissingFrom_marks :
    ∀ p ∈ recurrences, p.isMissingFrom "--//".toList = true := by
  decide +kernel

private theorem isMissingFrom_frame {p : Pattern}
    (hp : p ∈ recurrences ++ [isoDate, slashDate] ++ shifts.map Prod.fst) {ending name : String}
    (hending : ending ∈ Date.ordinalEndings) (hname : name ∈ monthNames) :
    p.isMissingFrom (frame ending name) = true := by
  have hall : ∀ p ∈ recurrences ++ [isoDate, slashDate] ++ shifts.map Prod.fst,
      ∀ ending ∈ Date.ordinalEndings, ∀ name ∈ monthNames,
        p.isMissingFrom (frame ending name) = true := by
    decide +kernel
  exact hall p hp ending hending name hname

end Vocabulary

/-- The last entry of the table decides the texts that hold something and name no recurrence. -/
theorem find?_eq_singleDate_iff : ruleTable.find? (·.applies s) = some .singleDate ↔
    (∀ p ∈ Vocabulary.recurrences, p.occursIn s = false) ∧ s ≠ [] := by
  let earlier := ruleTable.take 11
  have hsplit : ruleTable = earlier ++ [.singleDate] := rfl
  have hdeclines : earlier.find? (·.applies s) = none ↔
      ∀ p ∈ Vocabulary.recurrences, p.occursIn s = false := by
    have happlies : earlier.map (·.applies) = Vocabulary.recurrences.map (·.occursIn) := rfl
    have hall := List.forall_mem_map (l := earlier) (f := (·.applies)) (P := fun f ↦ ¬ f s = true)
    rw [List.find?_eq_none, ← hall, happlies, List.forall_mem_map]
    simp only [Bool.not_eq_true]
  rw [hsplit, List.find?_append, ← hdeclines]
  constructor
  · intro h
    cases hfind : earlier.find? (·.applies s) with
    | none =>
      rw [hfind, Option.none_or] at h
      have hholds := List.find?_some h
      exact ⟨rfl, by simpa [RuleEntry.singleDate] using hholds⟩
    | some entry =>
      rw [hfind, Option.some_or, Option.some.injEq] at h
      have hname : entry.name ∈ earlier.map (·.name) :=
        List.mem_map_of_mem (List.mem_of_find?_eq_some hfind)
      rw [h] at hname
      exact absurd hname (by decide)
  · rintro ⟨hnone, hne⟩
    rw [hnone, Option.none_or]
    exact List.find?_cons_of_pos (by simpa [RuleEntry.singleDate] using hne)

/-- A text in which no recurrence is named is read as a single date. -/
theorem Rule.ofText_eq_ofSingleDate {t : List Char} (ht : Text.normalForm t = s) (hne : s ≠ [])
    (h : ∀ p ∈ Vocabulary.recurrences, p.search s = none) : Rule.ofText t = Rule.ofSingleDate s := by
  have hdeclines : ∀ p ∈ Vocabulary.recurrences, p.occursIn s = false := by
    intro p hp
    rw [occursIn, h p hp]
    rfl
  simp only [Rule.ofText, ht, find?_eq_singleDate_iff.mpr ⟨hdeclines, hne⟩]
  rfl

/-! ### Dates in digits -/

namespace Text

private theorem withoutDigits_digits (width : Nat) (n : Int) : withoutDigits (Date.digits width n) = [] := by
  rw [withoutDigits, List.filter_eq_nil_iff]
  intro c hc
  simp [Date.isDigit_of_mem_digits hc]

end Text

namespace Date

variable (d : Date)

private theorem legible_fields : Legible 4 4 4 d.year ∧ (∀ width ∈ [1, 2], Legible 1 2 width d.month) ∧
    ∀ width ∈ [1, 2], Legible 1 2 width d.day := by
  have hyear := d.year_bounds
  have hmonth := d.month_bounds
  have hday := d.day_bounds
  have hlength := lengthOfMonth_bounds d.year d.month
  refine ⟨⟨by omega, by omega, ?_⟩, fun width hwidth ↦ ?_, fun width hwidth ↦ ?_⟩
  · exact Text.length_decimal_le_four (by omega)
  · exact legible_day hwidth (by omega)
  · exact legible_day hwidth (by omega)

private theorem search_iso : Vocabulary.isoDate.search d.iso.toList = some [d.year, d.month, d.day] := by
  obtain ⟨hyear, hmonth, hday⟩ := d.legible_fields
  rw [iso, String.toList_ofList]
  exact search_joined '-' (by decide) hyear (hmonth 2 (by decide)) (hday 2 (by decide))

private theorem search_slashed :
    Vocabulary.slashDate.search d.slashed.toList = some [d.month, d.day, d.year] := by
  obtain ⟨hyear, hmonth, hday⟩ := d.legible_fields
  rw [slashed, String.toList_ofList]
  exact search_joined '/' (by decide) (hmonth 2 (by decide)) (hday 2 (by decide)) hyear

/-- The rule for one date. -/
def rule (pattern : String) : Rule :=
  { SingleDate.inMonth (SingleDate.onDay pattern d.day) d.month with year := some d.year }

private theorem onDate_fields (pattern : String) :
    SingleDate.onDate pattern d.year d.month d.day = some (d.rule pattern) :=
  if_pos d.month_bounds

/-- A date with hyphens gives the rule for the date. -/
theorem ofText_iso : Rule.ofText d.iso.toList = d.rule "iso_date" := by
  obtain ⟨hpart, hnormal⟩ := d.normalForm_iso
  have hframe : Text.withoutDigits d.iso.toList <:+: "--//".toList := by
    have hmark : '-'.isDigit = false := by decide
    simp only [iso, String.toList_ofList, Text.withoutDigits_append, Text.withoutDigits_digits,
      Text.withoutDigits_cons hmark]
    decide
  have hanswer : SingleDate.isoDate? d.iso.toList = some (d.rule "iso_date") := by
    rw [SingleDate.isoDate?, search_iso]
    exact d.onDate_fields "iso_date"
  rw [Rule.ofText_eq_ofSingleDate hnormal hpart.ne_nil fun p hp ↦
    search_eq_none_of_isMissingFrom hframe (Vocabulary.isMissingFrom_marks p hp)]
  simp only [Rule.ofSingleDate, SingleDate.matchers, List.findSome?_cons, hanswer,
    Option.getD_some]

/-- A date with slashes gives the rule for the date. -/
theorem ofText_slashed : Rule.ofText d.slashed.toList = d.rule "slash_date" := by
  obtain ⟨hpart, hnormal⟩ := d.normalForm_slashed
  have hmarks : Text.withoutDigits d.slashed.toList = "//".toList := by
    have hmark : '/'.isDigit = false := by decide
    simp only [slashed, String.toList_ofList, Text.withoutDigits_append,
      Text.withoutDigits_digits, Text.withoutDigits_cons hmark]
    rfl
  have hframe : Text.withoutDigits d.slashed.toList <:+: "--//".toList := by
    rw [hmarks]
    decide
  have hhyphen : Vocabulary.isoDate.isMissingFrom (Text.withoutDigits d.slashed.toList) = true := by
    rw [hmarks]
    decide +kernel
  have hiso : SingleDate.isoDate? d.slashed.toList = none := by
    rw [SingleDate.isoDate?, search_eq_none_of_isMissingFrom List.infix_rfl hhyphen]
  have hanswer : SingleDate.slashDate? d.slashed.toList = some (d.rule "slash_date") := by
    rw [SingleDate.slashDate?, search_slashed]
    exact d.onDate_fields "slash_date"
  rw [Rule.ofText_eq_ofSingleDate hnormal hpart.ne_nil fun p hp ↦
    search_eq_none_of_isMissingFrom hframe (Vocabulary.isMissingFrom_marks p hp)]
  simp only [Rule.ofSingleDate, SingleDate.matchers, List.findSome?_cons, hiso, hanswer,
    Option.getD_some]

end Date

/-! ### Named months -/

namespace Vocabulary

/-- Month names stand at the edges of words. -/
theorem any_isWord_monthName {name : String} (h : name ∈ monthNames) :
    name.toList.head?.any Text.isWord = true ∧ name.toList.getLast?.any Text.isWord = true := by
  have hall : ∀ name ∈ monthNames, name.toList.head?.any Text.isWord = true ∧
      name.toList.getLast?.any Text.isWord = true := by
    decide
  exact hall name h

/-- The only month that a text names is read, where it is a word of its own. -/
theorem search_monthWord {name : String} {month : Int} (hmem : (name, month) ∈ Date.monthNumbers)
    {l r : List Char} (hl : l.getLast?.any Text.isWord = false)
    (hr : r.head?.any Text.isWord = false)
    (honly : ∀ name' ∈ monthNames, name'.toList <:+: l ++ name.toList ++ r → name' = name) :
    monthWord.search (l ++ name.toList ++ r) = some [month] := by
  have hnames : ∀ n ∈ Date.monthNumbers, n.1 ∈ monthNames := by decide
  have hinjective : ∀ n ∈ Date.monthNumbers, ∀ n' ∈ Date.monthNumbers, n.1 = n'.1 → n = n' := by
    decide
  have hword := any_isWord_monthName (hnames _ hmem)
  have hne : name.toList ≠ [] := by
    rintro hnil
    simp [hnil] at hword
  have hmatch : monthWord.Matches ⟨l.reverse, name.toList ++ r⟩ [month]
      ⟨name.toList.reverse ++ l.reverse, r⟩ := by
    refine matches_whole.mpr ⟨?_, matches_name.mpr ⟨_, hmem, rfl, rfl, rfl⟩, ?_⟩
    · rw [Cursor.atEdge, List.head?_reverse, hl, List.head?_append_of_ne_nil _ hne, hword.1]
      rfl
    · rw [Cursor.atEdge, List.head?_append_of_ne_nil _ (List.reverse_ne_nil_iff.mpr hne),
        List.head?_reverse, hword.2, hr]
      rfl
  have hoccurs : monthWord.occursIn (l ++ name.toList ++ r) = true :=
    occursIn_iff.mpr ⟨_, _, _, by simp [Cursor.text], hmatch⟩
  obtain ⟨ns, hns⟩ := Option.isSome_iff_exists.mp hoccurs
  obtain ⟨here, there, htext, hmatch'⟩ := matches_of_search hns
  obtain ⟨n, hn, rfl, hread⟩ := matches_name.mp (matches_whole.mp hmatch').2.1
  have hsame : n.1 = name := honly n.1 (hnames n hn) (htext ▸ hread.isInfix)
  rw [hns, hinjective n hn _ hmem hsame]

/-- No other month is named beside a month, an ending and "of". -/
theorem eq_of_infix_frame {ending name name' : String} (hending : ending ∈ Date.ordinalEndings)
    (hname : name ∈ monthNames) (hname' : name' ∈ monthNames)
    (h : name'.toList <:+: frame ending name) : name' = name := by
  have hall : ∀ ending ∈ Date.ordinalEndings, ∀ name ∈ monthNames, ∀ name' ∈ monthNames,
      name'.toList <:+: frame ending name → name' = name := by
    decide +kernel
  exact hall ending hending name hname name' hname' h

/-- A month name stands at the end after an ending and "of". -/
theorem not_infix_of_space {ending name name' : String} (hending : ending ∈ Date.ordinalEndings)
    (hname : name ∈ monthNames) (hname' : name' ∈ monthNames) :
    ¬name'.toList ++ " ".toList <:+: ending.toList ++ ' ' :: "of".toList ++ ' ' :: name.toList := by
  have hall : ∀ ending ∈ Date.ordinalEndings, ∀ name ∈ monthNames, ∀ name' ∈ monthNames,
      ¬name'.toList ++ " ".toList <:+:
        ending.toList ++ ' ' :: "of".toList ++ ' ' :: name.toList := by
    decide +kernel
  exact hall ending hending name hname name' hname'

/-- The letters of the names and endings. -/
theorem withoutDigits_word (word : String)
    (h : word ∈ "of" :: monthNames ++ Date.ordinalEndings) :
    Text.withoutDigits word.toList = word.toList := by
  have hall : ∀ word ∈ "of" :: monthNames ++ Date.ordinalEndings,
      Text.withoutDigits word.toList = word.toList := by
    decide
  exact hall word h

end Vocabulary

namespace Date

variable {d : Date} {name : String} {width : Nat}

/-- A month and the day after it. -/
theorem search_monthThenDay (hname : name ∈ monthNames) (hday : Legible 1 2 width d.day) :
    Vocabulary.monthThenDay.search (name.toList ++ ' ' :: digits width d.day) = some [d.day] := by
  generalize hs : name.toList ++ ' ' :: digits width d.day = s
  have hread : (⟨[], s⟩ : Cursor).Reads (name.toList ++ (" ".toList ++ digits width d.day))
      ⟨s.reverse, []⟩ := by
    constructor <;> simp [← hs]
  obtain ⟨afterName, hfirst, hread⟩ := hread.exists_mid
  obtain ⟨second, hspace, hsecond⟩ := hread.exists_mid
  have hend : (⟨s.reverse, []⟩ : Cursor).AfterNumber := nofun
  have hstart := Cursor.atEdge_start hfirst (Vocabulary.any_isWord_monthName hname).1
  have hedge := Cursor.atEdge_end hsecond (any_isWord_digits width d.day).2
  refine search_of_prefers (.whole hstart ?_ hedge)
  exact (((prefers_oneOfTexts (by decide) hname hfirst).follow (prefers_text hspace)).follow
    (prefers_digits hday hsecond hend)).follow (prefers_optional_of_run_eq_nil rfl)

/-- A day and the month after it. -/
theorem search_dayThenMonth {ending : String} (hname : name ∈ monthNames)
    (hending : ending ∈ ordinalEndings) (hday : Legible 1 2 width d.day) :
    Vocabulary.dayThenMonth.search (digits width d.day ++ ending.toList ++ ' ' :: "of".toList ++
      ' ' :: name.toList) = some [d.day] := by
  generalize hs : digits width d.day ++ ending.toList ++ ' ' :: "of".toList ++
      ' ' :: name.toList = s
  have hread : (⟨[], s⟩ : Cursor).Reads (digits width d.day ++ (ending.toList ++ (" ".toList ++
      ("of ".toList ++ name.toList)))) ⟨s.reverse, []⟩ := by
    constructor <;> simp [← hs]
  obtain ⟨afterDay, hfirst, hread⟩ := hread.exists_mid
  obtain ⟨afterEnding, hsuffix, hread⟩ := hread.exists_mid
  obtain ⟨second, hspace, hread⟩ := hread.exists_mid
  obtain ⟨third, hof, hthird⟩ := hread.exists_mid
  have hstop : afterDay.AfterNumber := by
    have hall : ∀ ending ∈ ordinalEndings, ∃ c rest, ending.toList = c :: rest ∧
        Text.digitValue? c = none := by
      simp only [ordinalEndings, List.forall_mem_cons]
      exact ⟨⟨'s', ['t'], rfl, by decide⟩, ⟨'n', ['d'], rfl, by decide⟩,
        ⟨'r', ['d'], rfl, by decide⟩, ⟨'t', ['h'], rfl, by decide⟩, nofun⟩
    obtain ⟨c, rest, hc, hnone⟩ := hall ending hending
    intro c' hc'
    rw [hsuffix.ahead, hc, List.cons_append, List.head?_cons, Option.some.injEq] at hc'
    rw [← hc', hnone]
  have hstart := Cursor.atEdge_start hfirst (any_isWord_digits width d.day).1
  have hedge := Cursor.atEdge_end hthird (Vocabulary.any_isWord_monthName hname).2
  refine search_of_prefers (.whole hstart ?_ hedge)
  exact ((((prefers_digits hday hfirst hstop).follow
    (prefers_oneOfTexts (by decide) hending hsuffix).optional).follow (prefers_text hspace)).follow
      (prefers_text hof).optional).follow (prefers_oneOfTexts (by decide) hname hthird)

/-- The letters of a day and the month after it. -/
theorem withoutDigits_dayThenMonth {ending : String} (hname : name ∈ monthNames)
    (hending : ending ∈ ordinalEndings) (width : Nat) :
    Text.withoutDigits (digits width d.day ++ ending.toList ++ ' ' :: "of".toList ++
      ' ' :: name.toList) = ending.toList ++ ' ' :: "of".toList ++ ' ' :: name.toList := by
  have hspace : ' '.isDigit = false := by decide
  rw [Text.withoutDigits_append, Text.withoutDigits_append, Text.withoutDigits_append,
    Text.withoutDigits_digits, Text.withoutDigits_cons hspace, Text.withoutDigits_cons hspace,
    Vocabulary.withoutDigits_word ending (List.mem_append_right _ hending),
    Vocabulary.withoutDigits_word "of" (by simp),
    Vocabulary.withoutDigits_word name (by simp [hname]), List.nil_append]

/-- No month stands before a day in a text where it stands after it. -/
theorem search_monthThenDay_eq_none {ending : String} (hname : name ∈ monthNames)
    (hending : ending ∈ ordinalEndings) (width : Nat) :
    Vocabulary.monthThenDay.search (digits width d.day ++ ending.toList ++ ' ' :: "of".toList ++
      ' ' :: name.toList) = none := by
  have hletters := withoutDigits_dayThenMonth (d := d) hname hending width
  generalize digits width d.day ++ ending.toList ++ ' ' :: "of".toList ++
      ' ' :: name.toList = s at *
  cases hsearch : Vocabulary.monthThenDay.search s with
  | none => rfl
  | some ns =>
    obtain ⟨here, there, rfl, hmatch⟩ := matches_of_search hsearch
    obtain ⟨_, _, _, hfirst, -⟩ := matches_follow.mp (matches_whole.mp hmatch).2.1
    obtain ⟨_, afterSpace, _, hbefore, -⟩ := matches_follow.mp hfirst
    obtain ⟨_, _, _, hmonth, hspace, -⟩ := matches_follow.mp hbefore
    obtain ⟨p, hp, hmonth⟩ := matches_oneOf.mp hmonth
    obtain ⟨name', hname', rfl⟩ := List.mem_map.mp hp
    have hread := (matches_text.mp hmonth).2.trans (matches_text.mp hspace).2
    have hpart := Text.isInfix_withoutDigits hread.isInfix
    have hspaceLetters : Text.withoutDigits " ".toList = " ".toList := by decide
    rw [hletters, Text.withoutDigits_append, hspaceLetters,
      Vocabulary.withoutDigits_word name' (by simp [hname'])] at hpart
    exact absurd hpart (Vocabulary.not_infix_of_space hending hname hname')

/-- What is left of a named month and day without its digits. -/
theorem infix_frame_of_mem_spellings (h : s ∈ d.spellings) :
    ∃ ending ∈ ordinalEndings,
      Text.withoutDigits s <:+: Vocabulary.frame ending d.monthWord := by
  have hname := d.monthWord_mem_monthNames
  obtain ⟨width, -, rfl | ⟨ending, hending, rfl⟩⟩ := mem_spellings h
  · have hspace : ' '.isDigit = false := by decide
    refine ⟨"st", by decide, "st of ".toList, [], ?_⟩
    rw [Text.withoutDigits_append, Text.withoutDigits_cons hspace, Text.withoutDigits_digits,
      Vocabulary.withoutDigits_word d.monthWord (by simp [hname])]
    simp [Vocabulary.frame]
  · refine ⟨ending, hending, [], [' '], ?_⟩
    rw [withoutDigits_dayThenMonth hname hending, Vocabulary.frame, List.nil_append]

/-- The month of a named month and day is read. -/
theorem month?_of_mem_spellings (h : s ∈ d.spellings) : Reading.month? s = some d.month := by
  have hname := d.monthWord_mem_monthNames
  have hword := Vocabulary.any_isWord_monthName hname
  obtain ⟨ending, hending, hframe⟩ := infix_frame_of_mem_spellings h
  have honly : ∀ name ∈ monthNames, name.toList <:+: s → name = d.monthWord := by
    intro name hmem hpart
    have hletters := Text.isInfix_withoutDigits hpart
    rw [Vocabulary.withoutDigits_word name (by simp [hmem])] at hletters
    exact Vocabulary.eq_of_infix_frame hending hname hmem (hletters.trans hframe)
  have hmem := d.monthWord_mem_monthNumbers
  have hspace : Text.isWord ' ' = false := by decide
  have hsearch : Vocabulary.monthWord.search s = some [d.month] := by
    obtain ⟨width, -, rfl | ⟨ending', -, rfl⟩⟩ := mem_spellings h
    · exact Vocabulary.search_monthWord (l := []) hmem rfl hspace honly
    · have hparts : digits width d.day ++ ending'.toList ++ ' ' :: "of".toList ++
          ' ' :: d.monthWord.toList = (digits width d.day ++ ending'.toList ++
            ' ' :: "of".toList ++ [' ']) ++ d.monthWord.toList ++ [] := by simp
      rw [hparts] at honly ⊢
      exact Vocabulary.search_monthWord hmem (by rw [List.getLast?_concat]; exact hspace) rfl honly
  rw [Reading.month?, first?, hsearch]
  rfl

/-- A day number that is read is one that a month can have. -/
theorem validDay?_day {p : Pattern} (h : p.search s = some [d.day]) :
    Reading.validDay? p s = some d.day := by
  have hday := d.day_bounds
  have hlength := lengthOfMonth_bounds d.year d.month
  have hvalid : Reading.isDayNumber d.day = true := by
    simp only [Reading.isDayNumber, Bool.and_eq_true, decide_eq_true_eq]
    omega
  rw [Reading.validDay?, first?, h]
  exact Option.filter_some_pos hvalid

/-- The day of a named month and day is read. -/
theorem monthDay?_of_mem_spellings (h : s ∈ d.spellings) : Reading.monthDay? s = some d.day := by
  have hname := d.monthWord_mem_monthNames
  obtain ⟨width, hwidth, rfl | ⟨ending, hending, rfl⟩⟩ := mem_spellings h
  · have hafter := search_monthThenDay hname (d.legible_fields.2.2 width hwidth)
    rw [Reading.monthDay?, validDay?_day hafter]
    rfl
  · have hbefore := search_dayThenMonth hname hending (d.legible_fields.2.2 width hwidth)
    have hnone := search_monthThenDay_eq_none (d := d) hname hending width
    rw [Reading.monthDay?, Reading.validDay?, first?, hnone, validDay?_day hbefore]
    rfl

/-- A named month and day gives the rule for this day of every year. -/
theorem ofText_of_spelling {t : List Char} (h : t.map Char.toLower ∈ d.spellings) :
    Rule.ofText t = SingleDate.inMonth (SingleDate.onDay "named_month" d.day) d.month := by
  obtain ⟨hpart, hnormal⟩ := normalForm_of_spelling h
  have hne : t.map Char.toLower ≠ [] := by simpa using hpart.ne_nil
  obtain ⟨ending, hending, hframe⟩ := infix_frame_of_mem_spellings h
  generalize t.map Char.toLower = s at *
  have habsent {p : Pattern} (hp : p ∈ Vocabulary.recurrences ++
      [Vocabulary.isoDate, Vocabulary.slashDate] ++ Vocabulary.shifts.map Prod.fst) :
      p.search s = none :=
    search_eq_none_of_isMissingFrom hframe
      (Vocabulary.isMissingFrom_frame hp hending d.monthWord_mem_monthNames)
  have hiso : SingleDate.isoDate? s = none := by
    rw [SingleDate.isoDate?, habsent (by simp)]
  have hslash : SingleDate.slashDate? s = none := by
    rw [SingleDate.slashDate?, habsent (by simp)]
  have hshift : Reading.shift s = .none := by
    have hfind : Vocabulary.shifts.find? (fun p ↦ p.1.occursIn s) = none := by
      rw [List.find?_eq_none]
      intro p hp
      rw [occursIn, habsent (List.mem_append_right _ (List.mem_map_of_mem hp))]
      exact Bool.false_ne_true
    rw [Reading.shift, hfind]
    rfl
  have hanswer : SingleDate.namedMonth? s =
      some (SingleDate.inMonth (SingleDate.onDay "named_month" d.day) d.month) := by
    rw [SingleDate.namedMonth?, month?_of_mem_spellings h, monthDay?_of_mem_spellings h, hshift]
    rfl
  rw [Rule.ofText_eq_ofSingleDate hnormal hne fun p hp ↦ habsent (by simp [hp])]
  simp only [Rule.ofSingleDate, SingleDate.matchers, List.findSome?_cons, hiso, hslash, hanswer,
    Option.getD_some]

end Date

end RuleCalendar
