import Mathlib.Data.List.Forall2
import RuleCalendar.Export.ICalendar
import RuleCalendar.Proofs.Text.Lines

/-!
# Reading content lines

Text is read by RFC 5545: lines end in a carriage return and a line feed, a line that begins with a
space goes on with the line before it, and a content line is a name, perhaps with parameters, and a
value after a colon. Main statements: folded content lines are read as they were before, wherever
they are folded; an escaped text value is read as the text without its carriage returns.
-/

namespace RuleCalendar.ICalendar

/-! ### The reader -/

/-- The lines of a text, each up to a carriage return with a line feed after it. -/
def crlfLines : List Char → List (List Char)
  | [] => []
  | '\r' :: '\n' :: rest => [] :: crlfLines rest
  | c :: rest =>
    match crlfLines rest with
    | l :: ls => (c :: l) :: ls
    | [] => [[c]]

/-- The lines after `line` and with it, those that begin with a space joined to the line before. -/
def unfoldFrom (line : List Char) : List (List Char) → List (List Char)
  | [] => [line]
  | (' ' :: l) :: ls => unfoldFrom (line ++ l) ls
  | l :: ls => line :: unfoldFrom l ls

/-- The lines with those that begin with a space joined to the line before. -/
def unfolded : List (List Char) → List (List Char)
  | [] => []
  | l :: ls => unfoldFrom l ls

/-- A content line. -/
structure ContentLine where
  /-- What the line is about. -/
  name : String
  /-- What stands after the name and a semicolon. -/
  params : List Char := []
  /-- What stands after the colon. -/
  value : List Char
  deriving DecidableEq, Repr

/-- The text before the first colon that does not stand between quotes, and the text after it. -/
def cutAtColon (quoted : Bool) : List Char → Option (List Char × List Char)
  | [] => none
  | c :: s =>
    if c = ':' ∧ quoted = false then some ([], s)
    else (cutAtColon (quoted != (c == '"')) s).map fun p ↦ (c :: p.1, p.2)

/-- The content line of a text. -/
def readLine (s : List Char) : Option ContentLine :=
  (cutAtColon false s).map fun p ↦
    { name := String.ofList (p.1.takeWhile (· ≠ ';'))
      params := (p.1.dropWhile (· ≠ ';')).drop 1
      value := p.2 }

/-- The content lines of a text. -/
def readLines (s : List Char) : Option (List ContentLine) := (unfolded (crlfLines s)).mapM readLine

/-- The text that a text value is written for. -/
def unescape : List Char → Option (List Char)
  | [] => some []
  | ['\\'] => none
  | '\\' :: c :: s =>
    if c = '\\' ∨ c = ';' ∨ c = ',' then (unescape s).map (c :: ·)
    else if c = 'n' ∨ c = 'N' then (unescape s).map ('\n' :: ·)
    else none
  | c :: s => if c = ';' ∨ c = ',' then none else (unescape s).map (c :: ·)

/-! ### Text values -/

/-- The text without carriage returns. -/
def withoutReturns (s : List Char) : List Char := s.filter (· ≠ '\r')

private theorem withoutReturns_cons {c : Char} (h : c ≠ '\r') (s : List Char) :
    withoutReturns (c :: s) = c :: withoutReturns s :=
  List.filter_cons_of_pos (by simpa using h)

/-- A text is escaped one character at a time. -/
theorem escape_cons (c : Char) (s : List Char) : escape (c :: s) = escapeChar c ++ escape s :=
  List.flatMap_cons

/-- What a character is written as: a backslash and itself, a line end, nothing, or itself. -/
theorem escapeChar_cases (c : Char) :
    (c = '\\' ∨ c = ';' ∨ c = ',') ∧ escapeChar c = ['\\', c] ∨
      c = '\n' ∧ escapeChar c = ['\\', 'n'] ∨ c = '\r' ∧ escapeChar c = [] ∨
      ¬(c = '\\' ∨ c = ';' ∨ c = ',') ∧ c ≠ '\n' ∧ c ≠ '\r' ∧ escapeChar c = [c] := by
  by_cases hspecial : c = '\\' ∨ c = ';' ∨ c = ','
  · exact .inl ⟨hspecial, if_pos hspecial⟩
  by_cases hbreak : c = '\n'
  · exact .inr (.inl ⟨hbreak, by rw [hbreak]; rfl⟩)
  by_cases hreturn : c = '\r'
  · exact .inr (.inr (.inl ⟨hreturn, by rw [hreturn]; rfl⟩))
  · have hself : escapeChar c = [c] := by
      rw [escapeChar, if_neg hspecial, if_neg hbreak, if_neg hreturn]
    exact .inr (.inr (.inr ⟨hspecial, hbreak, hreturn, hself⟩))

/-- Reading an escaped text value gives the text without its carriage returns. -/
theorem unescape_escape (s : List Char) : unescape (escape s) = some (withoutReturns s) := by
  induction s with
  | nil => rfl
  | cons c s ih =>
    rw [escape_cons]
    obtain ⟨hspecial, hc⟩ | ⟨rfl, hc⟩ | ⟨rfl, -⟩ | ⟨hplain, -, hreturn, hc⟩ := escapeChar_cases c
    · have hreturn : c ≠ '\r' := by
        rintro rfl
        revert hspecial
        decide
      rw [hc, List.cons_append, List.singleton_append, unescape, if_pos hspecial, ih,
        withoutReturns_cons hreturn]
      rfl
    · rw [hc, List.cons_append, List.singleton_append, unescape, if_neg (by decide),
        if_pos (by decide), ih]
      rfl
    · exact ih
    · rw [hc, List.singleton_append, withoutReturns_cons hreturn]
      simp only [not_or] at hplain
      rw [unescape.eq_4 c _ (fun h _ ↦ hplain.1 h) fun _ _ h _ ↦ hplain.1 h,
        if_neg (by simp [hplain]), ih]
      rfl

/-- No character at which a line ends is left in an escaped text value. -/
theorem not_mem_escape {d : Char} (hd : d = '\r' ∨ d = '\n') (s : List Char) : d ∉ escape s := by
  intro h
  obtain ⟨c, -, hmem⟩ := List.mem_flatMap.mp h
  obtain ⟨hspecial, hc⟩ | ⟨rfl, -⟩ | ⟨rfl, -⟩ | ⟨-, hbreak, hreturn, hc⟩ := escapeChar_cases c
  · rw [hc, List.mem_cons, List.mem_singleton] at hmem
    obtain rfl | rfl := hmem
    · exact absurd hd (by decide)
    · rcases hd with rfl | rfl <;> exact absurd hspecial (by decide)
  · rcases hd with rfl | rfl <;> exact absurd hmem (by decide)
  · exact List.not_mem_nil hmem
  · rw [hc, List.mem_singleton] at hmem
    subst hmem
    exact hd.elim hreturn hbreak

/-! ### Folds -/

/-- A line ends at the first carriage return with a line feed after it. -/
theorem crlfLines_append {s : List Char} (hs : '\r' ∉ s) (rest : List Char) :
    crlfLines (s ++ '\r' :: '\n' :: rest) = s :: crlfLines rest := by
  induction s with
  | nil => rfl
  | cons c s ih =>
    rw [List.mem_cons, not_or] at hs
    rw [List.cons_append, crlfLines.eq_3 c _ fun _ hc _ ↦ hs.1 hc.symm, ih hs.2]

/-- The pieces of a line make up the line. -/
theorem flatten_pieces (limit : Nat) (current s : List Char) :
    (pieces limit current s).flatten = current.reverse ++ s := by
  induction s generalizing limit current with
  | nil => simp [pieces]
  | cons c s ih =>
    rw [pieces]
    split
    · rw [ih, List.reverse_cons, List.append_assoc, List.singleton_append]
    · rw [List.flatten_cons, ih, List.reverse_singleton, List.singleton_append]

/-- The piece in the making begins the pieces. -/
theorem exists_pieces_eq (limit : Nat) (current s : List Char) :
    ∃ t ps, pieces limit current s = (current.reverse ++ t) :: ps := by
  induction s generalizing current with
  | nil => exact ⟨[], [], by rw [pieces, List.append_nil]⟩
  | cons c s ih =>
    rw [pieces]
    split
    · obtain ⟨t, ps, hpieces⟩ := ih (c :: current)
      refine ⟨c :: t, ps, ?_⟩
      rw [hpieces, List.reverse_cons, List.append_assoc, List.singleton_append]
    · exact ⟨[], _, by rw [List.append_nil]⟩

/-- Each line has a first piece, even an empty line. -/
theorem exists_foldPieces_eq (line : List Char) : ∃ p ps, foldPieces line = p :: ps := by
  obtain ⟨t, ps, hpieces⟩ := exists_pieces_eq mostOctets [] line
  exact ⟨_, ps, hpieces⟩

/-- The pieces of a line make the line. -/
theorem flatten_foldPieces (line : List Char) : (foldPieces line).flatten = line :=
  flatten_pieces mostOctets [] line

/-- A piece holds no character that the line does not hold. -/
theorem not_mem_foldPieces {c : Char} {line : List Char} (h : c ∉ line) :
    ∀ q ∈ foldPieces line, c ∉ q := by
  intro q hq hc
  apply h
  rw [← flatten_foldPieces line]
  exact List.mem_flatten.mpr ⟨q, hq, hc⟩

/-- The lines of pieces of a line: all but the first begin with a space. -/
theorem crlfLines_intercalate {p : List Char} {ps : List (List Char)}
    (h : ∀ q ∈ p :: ps, '\r' ∉ q) (rest : List Char) :
    crlfLines (['\r', '\n', ' '].intercalate (p :: ps) ++ '\r' :: '\n' :: rest) =
      p :: ps.map (' ' :: ·) ++ crlfLines rest := by
  induction ps generalizing p with
  | nil =>
    rw [List.intercalate_singleton, crlfLines_append (h p List.mem_cons_self)]
    rfl
  | cons q qs ih =>
    have hrest := ih fun r hr ↦ h r (List.mem_cons_of_mem p hr)
    rw [List.intercalate_cons_cons, List.append_assoc, List.append_assoc, List.cons_append,
      List.cons_append, List.singleton_append, crlfLines_append (h p List.mem_cons_self),
      crlfLines.eq_3 ' ' _ (by simp), hrest]
    rfl

private theorem unfoldFrom_pieces (line : List Char) (ps rest : List (List Char)) :
    unfoldFrom line (ps.map (' ' :: ·) ++ rest) = unfoldFrom (line ++ ps.flatten) rest := by
  induction ps generalizing line with
  | nil => simp
  | cons p ps ih =>
    rw [List.map_cons, List.cons_append, unfoldFrom, ih, List.flatten_cons, List.append_assoc]

/-- A line is complete before a line that does not begin with a space. -/
theorem unfoldFrom_eq (line : List Char) {ls : List (List Char)}
    (h : ∀ l ∈ ls.head?, l.head? ≠ some ' ') : unfoldFrom line ls = line :: unfolded ls := by
  cases ls with
  | nil => rfl
  | cons l ls =>
    have hl := h l rfl
    rw [unfoldFrom.eq_3 line l ls (by rintro t rfl; exact hl rfl), unfolded]

/-- Folded lines come back, where none of them begins with a space or holds a carriage return. -/
theorem unfolded_crlfLines {ls : List (List Char)}
    (h : ∀ l ∈ ls, '\r' ∉ l ∧ l.head? ≠ some ' ') :
    unfolded (crlfLines (ls.flatMap fun l ↦ fold l ++ ['\r', '\n'])) = ls ∧
      ∀ k ∈ (crlfLines (ls.flatMap fun l ↦ fold l ++ ['\r', '\n'])).head?,
        k.head? ≠ some ' ' := by
  induction ls with
  | nil => exact ⟨rfl, nofun⟩
  | cons l ls ih =>
    obtain ⟨hreturn, hspace⟩ := h l List.mem_cons_self
    obtain ⟨hunfolded, hhead⟩ := ih fun k hk ↦ h k (List.mem_cons_of_mem l hk)
    obtain ⟨p, ps, hpieces⟩ := exists_foldPieces_eq l
    have hl := flatten_foldPieces l
    have hreturns := not_mem_foldPieces hreturn
    rw [hpieces] at hl hreturns
    rw [List.flatten_cons] at hl
    rw [List.flatMap_cons, fold, hpieces, List.append_assoc, List.cons_append,
      List.singleton_append, crlfLines_intercalate hreturns]
    constructor
    · rw [List.cons_append, unfolded, unfoldFrom_pieces, hl, unfoldFrom_eq l hhead, hunfolded]
    · rintro k ⟨⟩ hk
      refine hspace ?_
      rw [← hl, List.head?_append, hk]
      rfl

/-! ### Lines of a calendar -/

/-- Whether a text is written for a content line: it is read as the line and can be told from the
lines around it. -/
structure IsWrittenFor (text : List Char) (line : ContentLine) : Prop where
  reads : readLine text = some line
  unbroken : '\r' ∉ text
  unindented : text.head? ≠ some ' '

instance (text : List Char) (line : ContentLine) : Decidable (IsWrittenFor text line) :=
  decidable_of_iff (readLine text = some line ∧ '\r' ∉ text ∧ text.head? ≠ some ' ')
    ⟨fun h ↦ ⟨h.1, h.2.1, h.2.2⟩, fun h ↦ ⟨h.reads, h.unbroken, h.unindented⟩⟩

private theorem cutAtColon_append {quoted : Bool} {s before after : List Char}
    (h : cutAtColon quoted s = some (before, after)) (v : List Char) :
    cutAtColon quoted (s ++ v) = some (before, after ++ v) := by
  induction s generalizing quoted before with
  | nil => cases h
  | cons c s ih =>
    rw [cutAtColon] at h
    rw [List.cons_append, cutAtColon]
    split at h
    · next hc =>
      cases h
      exact if_pos hc
    · next hc =>
      obtain ⟨⟨rest, _⟩, hrest, ⟨⟩⟩ := Option.map_eq_some_iff.mp h
      rw [if_neg hc, ih hrest]
      rfl

/-- The beginning of a content line up to its value goes with any value. -/
theorem isWrittenFor_append {head : List Char} {name : String} {params : List Char}
    (h : IsWrittenFor head { name := name, params := params, value := [] }) {v : List Char}
    (hv : '\r' ∉ v) :
    IsWrittenFor (head ++ v) { name := name, params := params, value := v } where
  reads := by
    obtain ⟨⟨before, after⟩, hcut, hline⟩ := Option.map_eq_some_iff.mp h.reads
    cases hline
    rw [readLine, cutAtColon_append hcut]
    rfl
  unbroken := by
    rw [List.mem_append, not_or]
    exact ⟨h.unbroken, hv⟩
  unindented := by
    cases head with
    | nil => cases h.reads
    | cons c head => exact h.unindented

/-- The content lines that texts are written for are read from the texts, folded. -/
theorem readLines_fold {texts : List (List Char)} {lines : List ContentLine}
    (h : List.Forall₂ IsWrittenFor texts lines) :
    readLines (texts.flatMap fun l ↦ fold l ++ ['\r', '\n']) = some lines := by
  have htexts : ∀ l ∈ texts, '\r' ∉ l ∧ l.head? ≠ some ' ' := by
    induction h with
    | nil => exact nofun
    | cons hline _ ih =>
      rw [List.forall_mem_cons]
      exact ⟨⟨hline.unbroken, hline.unindented⟩, ih⟩
  rw [readLines, (unfolded_crlfLines htexts).1]
  induction h with
  | nil => rfl
  | cons hline _ ih =>
    rw [List.mapM_cons, hline.reads, ih fun l hl ↦ htexts l (List.mem_cons_of_mem _ hl)]
    rfl

end RuleCalendar.ICalendar
