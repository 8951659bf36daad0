import RuleCalendar.Proofs.Export.EndFree
import RuleCalendar.Proofs.Text.Layout
import RuleCalendar.Proofs.Text.Replace
import RuleCalendar.Text.Utf8

/-!
# Folded lines

A content line is folded by filling one line after the other. Main statement: a folded line is read
as lines of at most 75 octets of which each but the first has one space added and each but the last
has no room for the character after it; characters are kept whole, and the content line comes back
when line ends with a space after them are taken out.
-/

namespace RuleCalendar.ICalendar

/-! ### Lines of a folded line -/

/-- The lines that a content line is written as, with a space before those that continue it. -/
def foldedLines (line : List Char) : List (List Char) :=
  match foldPieces line with
  | [] => []
  | p :: ps => p :: ps.map (' ' :: ·)

private theorem foldedLines_eq {line p : List Char} {ps : List (List Char)}
    (h : foldPieces line = p :: ps) : foldedLines line = p :: ps.map (' ' :: ·) := by
  rw [foldedLines, h]

/-- To begin the later pieces with a space and to join all with line ends is to join them with line
ends that a space follows. -/
theorem intercalate_indented (p : List Char) (ps : List (List Char)) :
    ['\r', '\n'].intercalate (p :: ps.map (' ' :: ·)) =
      ['\r', '\n', ' '].intercalate (p :: ps) := by
  have hspace : ∀ (q : List Char) (ls : List (List Char)),
      ['\r', '\n'].intercalate ((' ' :: q) :: ls) = ' ' :: ['\r', '\n'].intercalate (q :: ls) := by
    intro q ls
    cases ls with
    | nil => rfl
    | cons l ls =>
      rw [List.intercalate_cons_cons, List.intercalate_cons_cons]
      rfl
  induction ps generalizing p with
  | nil => rfl
  | cons q qs ih =>
    rw [List.map_cons, List.intercalate_cons_cons, hspace, ih, List.intercalate_cons_cons]
    simp only [List.append_assoc, List.cons_append, List.nil_append]

/-- A folded line is its lines with line ends between them. -/
theorem intercalate_foldedLines (line : List Char) :
    ['\r', '\n'].intercalate (foldedLines line) = fold line := by
  obtain ⟨p, ps, hpieces⟩ := exists_foldPieces_eq line
  rw [fold, foldedLines_eq hpieces, hpieces, intercalate_indented]

/-- A folded content line is written as its lines, each with a line end after it. -/
theorem fold_append_end (line : List Char) :
    fold line ++ ['\r', '\n'] = (foldedLines line).flatMap (· ++ ['\r', '\n']) := by
  obtain ⟨p, ps, hpieces⟩ := exists_foldPieces_eq line
  obtain hnil | ⟨before, last, hlines⟩ := List.eq_nil_or_concat (foldedLines line)
  · rw [foldedLines_eq hpieces] at hnil
    cases hnil
  · rw [← intercalate_foldedLines, hlines, List.concat_eq_append, Text.intercalate_append_cons,
      List.flatMap_append, List.flatMap_nil, List.append_nil, List.append_assoc,
      List.flatMap_singleton]

/-- Folding brings in no line ends but its own. -/
theorem forall_endFree_foldedLines (line : List Char) :
    (∀ l ∈ foldedLines line, EndFree l) ↔ EndFree line := by
  obtain ⟨p, ps, hpieces⟩ := exists_foldPieces_eq line
  have hline : line = (p :: ps).flatten := by rw [← hpieces, flatten_foldPieces]
  have hspace : ∀ l, EndFree (' ' :: l) ↔ EndFree l := by simp [EndFree]
  rw [foldedLines_eq hpieces]
  conv_rhs => rw [hline]
  rw [endFree_flatten]
  simp only [List.forall_mem_cons, List.forall_mem_map, hspace]

/-! ### Octets -/

private theorem length_encode (s : List Char) : (Utf8.encode s).length = octets s := by
  induction s with
  | nil => rfl
  | cons c s ih =>
    have hc : Utf8.encode (c :: s) = String.utf8EncodeChar c ++ Utf8.encode s := List.flatMap_cons
    rw [hc, List.length_append, String.length_utf8EncodeChar, ih, octets]

private theorem octets_append (s t : List Char) : octets (s ++ t) = octets s + octets t := by
  rw [← length_encode, Utf8.encode, List.flatMap_append, List.length_append]
  exact congrArg₂ (· + ·) (length_encode s) (length_encode t)

private theorem octets_reverse (s : List Char) : octets s.reverse = octets s := by
  induction s with
  | nil => rfl
  | cons c s ih =>
    rw [List.reverse_cons, octets_append, ih, octets, octets, octets]
    omega

/-- The lines of octets, each up to the octet of a carriage return with that of a line feed after
it. -/
def octetLines : List UInt8 → List (List UInt8)
  | [] => []
  | [b] => [[b]]
  | b :: b' :: rest =>
    if b = 13 ∧ b' = 10 then [] :: octetLines rest
    else (b :: (octetLines (b' :: rest)).headD []) :: (octetLines (b' :: rest)).tail

private theorem octetLines_cons {b : UInt8} {rest : List UInt8} (h : ¬(b = 13 ∧ rest.head? = some 10)) :
    octetLines (b :: rest) = (b :: (octetLines rest).headD []) :: (octetLines rest).tail := by
  cases rest with
  | nil => rfl
  | cons b' rest =>
    rw [octetLines, if_neg]
    rintro ⟨hreturn, hfeed⟩
    exact h ⟨hreturn, by rw [List.head?_cons, hfeed]⟩

private theorem octetLines_append {bs : List UInt8} (h : 13 ∉ bs) (hne : bs ≠ []) (rest : List UInt8) :
    octetLines (bs ++ rest) = (bs ++ (octetLines rest).headD []) :: (octetLines rest).tail := by
  induction bs with
  | nil => exact absurd rfl hne
  | cons b bs ih =>
    rw [List.mem_cons, not_or] at h
    rw [List.cons_append, octetLines_cons fun hb ↦ h.1 hb.1.symm]
    cases bs with
    | nil => rfl
    | cons b' bs => rw [ih h.2 (List.cons_ne_nil b' bs), List.headD_cons, List.tail_cons]; rfl

/-- An octet of ASCII is a character of its own. -/
theorem eq_of_mem_utf8EncodeChar {b : UInt8} {c : Char} (hb : b.toNat < 0x80)
    (h : b ∈ String.utf8EncodeChar c) : c.toNat = b.toNat := by
  have hc : c.toNat = c.val.toNat := rfl
  rw [String.utf8EncodeChar] at h
  generalize c.val.toNat = v at hc h
  rw [hc]
  split at h
  · rw [List.mem_singleton.mp h, UInt8.toNat_ofNat']
    omega
  split at h
  · simp only [List.mem_cons, List.not_mem_nil, or_false] at h
    rcases h with rfl | rfl <;> rw [UInt8.toNat_ofNat'] at hb <;> omega
  split at h
  · simp only [List.mem_cons, List.not_mem_nil, or_false] at h
    rcases h with rfl | rfl | rfl <;> rw [UInt8.toNat_ofNat'] at hb <;> omega
  · simp only [List.mem_cons, List.not_mem_nil, or_false] at h
    rcases h with rfl | rfl | rfl | rfl <;> rw [UInt8.toNat_ofNat'] at hb <;> omega

private theorem eq_of_toNat_eq {b : UInt8} {c d : Char} (hb : b.toNat < 0x80) (h : b ∈ String.utf8EncodeChar c)
    (hd : d.toNat = b.toNat) : c = d := by
  rw [← Char.ofNat_toNat c, ← Char.ofNat_toNat d, eq_of_mem_utf8EncodeChar hb h, hd]

section

variable {c : Char} {rest : List Char} (h : ¬(c = '\r' ∧ rest.head? = some '\n'))
include h

/-- A character after which no line ends goes on with the line after it. -/
theorem crlfLines_cons :
    crlfLines (c :: rest) = (c :: (crlfLines rest).headD []) :: (crlfLines rest).tail := by
  rw [crlfLines.eq_3 c rest]
  · cases crlfLines rest <;> rfl
  · rintro rest' rfl rfl
    exact h ⟨rfl, rfl⟩

private theorem octetLines_encode_cons : octetLines (Utf8.encode (c :: rest)) =
    (String.utf8EncodeChar c ++ (octetLines (Utf8.encode rest)).headD []) ::
      (octetLines (Utf8.encode rest)).tail := by
  have hbytes : Utf8.encode (c :: rest) = String.utf8EncodeChar c ++ Utf8.encode rest :=
    List.flatMap_cons
  rw [hbytes]
  by_cases hc : c = '\r'
  · subst hc
    have hreturn : String.utf8EncodeChar '\r' = [13] := rfl
    rw [hreturn, List.singleton_append, octetLines_cons, List.singleton_append]
    rintro ⟨-, hfeed⟩
    cases rest with
    | nil => cases hfeed
    | cons d rest =>
      have hmem : (10 : UInt8) ∈ String.utf8EncodeChar d := by
        have hne : String.utf8EncodeChar d ≠ [] := String.utf8EncodeChar_ne_nil
        rw [Utf8.encode, List.flatMap_cons, List.head?_append_of_ne_nil _ hne] at hfeed
        exact List.mem_of_head? hfeed
      exact h ⟨rfl, by rw [List.head?_cons, eq_of_toNat_eq (d := '\n') (by decide) hmem rfl]⟩
  · apply octetLines_append
    · intro hmem
      exact hc (eq_of_toNat_eq (by decide) hmem rfl)
    · exact String.utf8EncodeChar_ne_nil

end

/-- Characters stay whole at line ends: the octets between them are those of the lines. -/
theorem octetLines_encode (s : List Char) :
    octetLines (Utf8.encode s) = (crlfLines s).map Utf8.encode := by
  have hstep : ∀ c rest, ¬(c = '\r' ∧ rest.head? = some '\n') →
      octetLines (Utf8.encode rest) = (crlfLines rest).map Utf8.encode →
        octetLines (Utf8.encode (c :: rest)) = (crlfLines (c :: rest)).map Utf8.encode := by
    intro c rest h ih
    rw [octetLines_encode_cons h, crlfLines_cons h, ih]
    cases crlfLines rest with
    | nil => simp [Utf8.encode]
    | cons l ls => simp [Utf8.encode]
  have hnext : ∀ c rest, (∀ rest', c = '\r' → rest = '\n' :: rest' → False) →
      ¬(c = '\r' ∧ rest.head? = some '\n') := by
    rintro c rest h ⟨hc, hfeed⟩
    obtain ⟨rest', hrest⟩ := List.head?_eq_some_iff.mp hfeed
    exact h rest' hc hrest
  induction s using crlfLines.induct with
  | case1 => rfl
  | case2 rest ih =>
    have hbytes : Utf8.encode ('\r' :: '\n' :: rest) = 13 :: 10 :: Utf8.encode rest := rfl
    rw [hbytes, octetLines, if_pos ⟨rfl, rfl⟩, ih, crlfLines, List.map_cons]
    rfl
  | case3 c rest hbreak _ _ _ ih => exact hstep c rest (hnext c rest hbreak) ih
  | case4 c rest hbreak _ ih => exact hstep c rest (hnext c rest hbreak) ih

/-! ### Pieces -/

/-- Whether pieces of a line have at most `limit` octets, the later ones at most as many as go after
a space, and each piece is followed by one that begins with a character it has no room for. -/
def Filled (limit : Nat) : List (List Char) → Prop
  | [] => True
  | p :: ps => octets p ≤ limit ∧
      (∀ q ∈ ps.head?, ∃ c r, q = c :: r ∧ limit < octets p + c.utf8Size) ∧
      Filled (mostOctets - 1) ps

/-- As long as the piece in the making fits, pieces are filled one after the other. -/
theorem filled_pieces {limit : Nat} {current : List Char} (h : octets current ≤ limit)
    (s : List Char) : Filled limit (pieces limit current s) := by
  induction s generalizing limit current with
  | nil =>
    rw [pieces]
    refine ⟨by rwa [octets_reverse], ?_, trivial⟩
    intro q hq
    cases hq
  | cons c s ih =>
    rw [pieces]
    split
    · apply ih
      rw [octets]
      omega
    · next hfull =>
      obtain ⟨t, ps, hpieces⟩ := exists_pieces_eq (mostOctets - 1) [c] s
      have hc : octets [c] ≤ mostOctets - 1 := by
        have hsize := c.utf8Size_le_four
        rw [octets, octets, mostOctets]
        omega
      refine ⟨by rwa [octets_reverse], ?_, ih hc⟩
      rintro q hq
      rw [hpieces, List.head?_cons, Option.mem_some_iff] at hq
      refine ⟨c, t, hq.symm, ?_⟩
      rw [octets_reverse]
      omega

private theorem filled_foldPieces (line : List Char) : Filled mostOctets (foldPieces line) :=
  filled_pieces (Nat.zero_le mostOctets) line

/-- A line that fits is one piece. -/
theorem pieces_of_fits {limit : Nat} {current s : List Char}
    (h : octets current + octets s ≤ limit) : pieces limit current s = [current.reverse ++ s] := by
  induction s generalizing current with
  | nil => rw [pieces, List.append_nil]
  | cons c s ih =>
    rw [octets] at h
    rw [pieces, if_pos (by omega), ih (by rw [octets]; omega), List.reverse_cons,
      List.append_assoc, List.singleton_append]

/-! ### The lines of a folded line -/

/-- Whether a line has no room for the character after it, which stands behind a space. -/
def IsFull (l next : List Char) : Prop :=
  ∀ c r, next = ' ' :: c :: r → 75 < (Utf8.encode (l ++ [c])).length

/-- What a content line is folded into: no line is empty or too long, each line but the first has one
space and a part of the content line, the parts make up the content line, and each line but the last
is full. -/
structure IsFoldInto (line : List Char) (lines : List (List Char)) : Prop where
  ne_nil : ∀ l ∈ lines, l ≠ []
  length_le : ∀ l ∈ lines, (Utf8.encode l).length ≤ 75
  continued : ∀ l ∈ lines.tail, ∃ c r, l = ' ' :: c :: r
  parts : lines.headD [] ++ (lines.tail.map List.tail).flatten = line
  full : lines.IsChain IsFull

/-- Filled pieces behind a space are lines of at most 75 octets. -/
theorem Filled.length_le {ps : List (List Char)} (h : Filled (mostOctets - 1) ps) :
    ∀ l ∈ ps.map (' ' :: ·), (Utf8.encode l).length ≤ 75 := by
  induction ps with
  | nil => exact List.forall_mem_nil _
  | cons p ps ih =>
    rw [List.map_cons, List.forall_mem_cons]
    refine ⟨?_, ih h.2.2⟩
    have hp := h.1
    have hspace : (' ' : Char).utf8Size = 1 := rfl
    rw [mostOctets] at hp
    rw [length_encode, octets, hspace]
    omega

/-- Pieces after the first hold a character each. -/
theorem Filled.continued {limit : Nat} {p : List Char} {ps : List (List Char)}
    (h : Filled limit (p :: ps)) : ∀ l ∈ ps.map (' ' :: ·), ∃ c r, l = ' ' :: c :: r := by
  induction ps generalizing limit p with
  | nil => exact List.forall_mem_nil _
  | cons q qs ih =>
    rw [List.map_cons, List.forall_mem_cons]
    obtain ⟨c, r, hq, -⟩ := h.2.1 q rfl
    exact ⟨⟨c, r, by rw [hq]⟩, ih h.2.2⟩

/-- Filled pieces behind a text are full lines, where the text and the limit make up 75 octets. -/
theorem Filled.isChain {limit : Nat} {p : List Char} (indent : List Char)
    (hlimit : octets indent + limit = 75) {ps : List (List Char)} (h : Filled limit (p :: ps)) :
    ((indent ++ p) :: ps.map (' ' :: ·)).IsChain IsFull := by
  induction ps generalizing indent p limit with
  | nil => exact List.isChain_singleton _
  | cons q qs ih =>
    rw [List.map_cons, List.isChain_cons_cons]
    refine ⟨?_, ih [' '] rfl h.2.2⟩
    rintro c r hq
    obtain ⟨d, t, hqd, hfull⟩ := h.2.1 q rfl
    have hc : c = d := by
      rw [hqd] at hq
      simp only [List.cons.injEq, true_and] at hq
      exact hq.1.symm
    rw [length_encode, octets_append, octets_append, octets, octets, hc]
    omega

private theorem crlfLines_of_not_mem {s : List Char} (h : '\r' ∉ s) (hne : s ≠ []) :
    crlfLines s = [s] := by
  induction s with
  | nil => exact absurd rfl hne
  | cons c s ih =>
    rw [List.mem_cons, not_or] at h
    rw [crlfLines_cons fun hc ↦ h.1 hc.1.symm]
    cases s with
    | nil => rfl
    | cons d s => rw [ih h.2 (List.cons_ne_nil d s)]; rfl

/-- The lines of pieces, where no line end follows the last of them. -/
theorem crlfLines_pieces {p : List Char} {ps : List (List Char)}
    (h : ∀ q ∈ p :: ps, '\r' ∉ q ∧ q ≠ []) :
    crlfLines (['\r', '\n', ' '].intercalate (p :: ps)) = p :: ps.map (' ' :: ·) := by
  induction ps generalizing p with
  | nil =>
    obtain ⟨hreturn, hne⟩ := h p List.mem_cons_self
    rw [List.intercalate_singleton, crlfLines_of_not_mem hreturn hne, List.map_nil]
  | cons q qs ih =>
    have hrest := ih fun r hr ↦ h r (List.mem_cons_of_mem p hr)
    have hspace : ¬(' ' = '\r' ∧
        (['\r', '\n', ' '].intercalate (q :: qs)).head? = some '\n') := by
      rintro ⟨hreturn, -⟩
      cases hreturn
    rw [List.intercalate_cons_cons, List.append_assoc, List.cons_append, List.cons_append,
      List.singleton_append, crlfLines_append (h p List.mem_cons_self).1, crlfLines_cons hspace,
      hrest]
    rfl

/-! ### Main statement -/

/-- The first piece of a line that is not empty holds its first character. -/
theorem ne_nil_of_foldPieces {line p : List Char} {ps : List (List Char)} (hne : line ≠ [])
    (hpieces : foldPieces line = p :: ps) : p ≠ [] := by
  cases line with
  | nil => exact absurd rfl hne
  | cons c s =>
    have hsize := c.utf8Size_le_four
    obtain ⟨t, ps', hfirst⟩ := exists_pieces_eq mostOctets [c] s
    rw [foldPieces, pieces, if_pos (by rw [octets, mostOctets]; omega), hfirst,
      List.cons.injEq] at hpieces
    rw [← hpieces.1]
    exact List.cons_ne_nil c t

/-- A line is kept as it is exactly if it fits. -/
theorem fold_eq_self_iff {line : List Char} (hline : '\r' ∉ line) :
    fold line = line ↔ octets line ≤ mostOctets := by
  constructor
  · intro hfold
    obtain ⟨p, ps, hpieces⟩ := exists_foldPieces_eq line
    have hfilled := filled_foldPieces line
    have hflatten := flatten_foldPieces line
    rw [hpieces] at hfilled hflatten
    cases ps with
    | nil =>
      rw [List.flatten_singleton] at hflatten
      rw [← hflatten]
      exact hfilled.1
    | cons q qs =>
      rw [fold, hpieces, List.intercalate_cons_cons] at hfold
      rw [← hfold] at hline
      simp at hline
  · intro hfits
    rw [fold, foldPieces, pieces_of_fits (by rwa [octets, Nat.zero_add]),
      List.intercalate_singleton]
    rfl

/-- Filled pieces, the later ones behind a space, are what the line that they make up is folded
into. -/
theorem Filled.isFoldInto {p : List Char} {ps : List (List Char)} (h : Filled mostOctets (p :: ps))
    (hp : p ≠ []) : IsFoldInto (p :: ps).flatten (p :: ps.map (' ' :: ·)) := by
  refine ⟨?_, ?_, h.continued, ?_, h.isChain [] rfl⟩
  · rw [List.forall_mem_cons]
    refine ⟨hp, fun l hl ↦ ?_⟩
    obtain ⟨c, r, rfl⟩ := h.continued l hl
    exact List.cons_ne_nil ' ' (c :: r)
  · rw [List.forall_mem_cons]
    exact ⟨by rw [length_encode]; exact h.1, h.2.2.length_le⟩
  · have htails : (ps.map (' ' :: ·)).map List.tail = ps := by
      rw [List.map_map]
      exact List.map_id ps
    rw [List.headD_cons, List.tail_cons, htails, List.flatten_cons]

section

variable {line : List Char} (hline : EndFree line)
include hline

/-- The lines of a folded line that is not empty are read back from it. -/
theorem crlfLines_fold (hne : line ≠ []) : crlfLines (fold line) = foldedLines line := by
  obtain ⟨p, ps, hpieces⟩ := exists_foldPieces_eq line
  have hreturn := not_mem_foldPieces hline.1
  have hfilled := filled_foldPieces line
  rw [hpieces] at hreturn hfilled
  rw [fold, foldedLines_eq hpieces, hpieces]
  apply crlfLines_pieces
  rw [List.forall_mem_cons]
  refine ⟨⟨hreturn p List.mem_cons_self, ne_nil_of_foldPieces hne hpieces⟩, fun q hq ↦ ⟨?_, ?_⟩⟩
  · exact hreturn q (List.mem_cons_of_mem p hq)
  · obtain ⟨c, r, hcr⟩ := hfilled.continued (' ' :: q) (List.mem_map_of_mem hq)
    rw [List.cons.injEq] at hcr
    rw [hcr.2]
    exact List.cons_ne_nil c r

/-- A line without line ends is folded into lines that are as long as can be, whole characters in
each of them; an empty line has none. -/
theorem fold_isFoldInto :
    IsFoldInto line (crlfLines (fold line)) ∧
      ['\r', '\n'].intercalate (crlfLines (fold line)) = fold line ∧
      Text.replaceAll ['\r', '\n', ' '] [] (fold line) = line ∧
      octetLines (Utf8.encode (fold line)) = (crlfLines (fold line)).map Utf8.encode ∧
      (fold line = line ↔ (Utf8.encode line).length ≤ 75) := by
  obtain ⟨p, ps, hpieces⟩ := exists_foldPieces_eq line
  have hfilled := filled_foldPieces line
  have hflatten := flatten_foldPieces line
  have hreturn := not_mem_foldPieces hline.1
  rw [hpieces] at hfilled hflatten hreturn
  refine ⟨?_, ?_, ?_, octetLines_encode _, ?_⟩
  · by_cases hne : line = []
    · subst hne
      exact ⟨nofun, nofun, nofun, rfl, List.isChain_nil⟩
    · rw [crlfLines_fold hline hne, foldedLines_eq hpieces, ← hflatten]
      exact hfilled.isFoldInto (ne_nil_of_foldPieces hne hpieces)
  · by_cases hne : line = []
    · subst hne
      rfl
    · rw [crlfLines_fold hline hne, intercalate_foldedLines]
  · rw [fold, hpieces, Text.replaceAll_intercalate hreturn, hflatten]
  · rw [fold_eq_self_iff hline.1, length_encode, mostOctets]

end

/-- A summary of one letter over and over that takes two octets, of which 33 fit beside the name. -/
theorem fold_isFoldInto_accents :
    let line := "SUMMARY:".toList ++ List.replicate 40 'é'
    EndFree line ∧ IsFoldInto line (crlfLines (fold line)) ∧
      ['\r', '\n'].intercalate (crlfLines (fold line)) = fold line ∧
      Text.replaceAll ['\r', '\n', ' '] [] (fold line) = line ∧
      octetLines (Utf8.encode (fold line)) = (crlfLines (fold line)).map Utf8.encode ∧
      (fold line = line ↔ (Utf8.encode line).length ≤ 75) :=
  have hline : EndFree ("SUMMARY:".toList ++ List.replicate 40 'é') := by decide
  ⟨hline, fold_isFoldInto hline⟩

end RuleCalendar.ICalendar
