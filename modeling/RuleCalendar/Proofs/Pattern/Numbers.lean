import Mathlib.Data.List.Forall2
import RuleCalendar.Proofs.Pattern.Match
import RuleCalendar.Rule.Reading

/-!
# The numbers that a pattern reads

How many numbers the matches of a pattern read and how large they can be follows from the pattern
alone. Main statement: where a pattern is found to read numbers within some bounds only, a search
for it reads as many numbers as there are bounds, each within its own.
-/

namespace RuleCalendar

/-- Digits are worth at most nine. -/
theorem Text.digitValue?_le {c : Char} {d : Nat} (h : digitValue? c = some d) : d ≤ 9 := by
  simp only [digitValue?] at h
  split at h
  · split at h
    · next hdigit =>
      obtain rfl := Option.some.inj h
      simp only [Bool.and_eq_true, decide_eq_true_eq] at hdigit
      omega
    · cases h
  · obtain ⟨z, hz, rfl⟩ := Option.map_eq_some_iff.mp h
    have hrange := List.find?_some hz
    simp only [Bool.and_eq_true, decide_eq_true_eq] at hrange
    omega

/-- A number with so many further digits is less than the power of ten that comes after them. -/
theorem Text.digitsValue_lt (value : Nat) (ds : List Char) :
    digitsValue value ds < (value + 1) * Nat.pow 10 ds.length := by
  induction ds generalizing value with
  | nil => exact Nat.lt_of_lt_of_eq (Nat.lt_succ_self value) (Nat.mul_one _).symm
  | cons c ds ih =>
    have hc : (digitValue? c).getD 0 ≤ 9 := by
      cases hd : digitValue? c with
      | none => exact Nat.zero_le 9
      | some d => exact digitValue?_le hd
    calc digitsValue value (c :: ds)
        < (10 * value + (digitValue? c).getD 0 + 1) * Nat.pow 10 ds.length := ih _
      _ ≤ ((value + 1) * 10) * Nat.pow 10 ds.length := Nat.mul_le_mul_right _ (by omega)
      _ = (value + 1) * Nat.pow 10 (c :: ds).length := by
        rw [Nat.mul_assoc, Nat.mul_comm 10]
        rfl

namespace Pattern

/-- Bounds for the numbers of a match: the least and the greatest that each can be. -/
abbrev Bounds := List (Int × Int)

/-- The numbers are as many as the bounds, each within its own. -/
def Within : List Int → Bounds → Prop :=
  List.Forall₂ fun n b ↦ b.1 ≤ n ∧ n ≤ b.2

/-- Bounds for the numbers that the pattern reads, for each way through it. -/
def readings : Pattern → List Bounds
  | number _ most => [[(0, (Nat.pow 10 most : Nat) - 1)]]
  | reads n => [[(n, n)]]
  | optional p => p.readings ++ [[]]
  | either p q => p.readings ++ q.readings
  | follow p q => p.readings.flatMap fun b ↦ q.readings.map (b ++ ·)
  | text _ | edge | unlessAhead _ | unlessBehind _ => [[]]

variable {p : Pattern} {here there : Cursor} {ns : List Int} {s : List Char}

/-- A match reads numbers within the bounds for one of the ways through its pattern. -/
theorem Matches.within (h : p.Matches here ns there) : ∃ b ∈ p.readings, Within ns b := by
  have hnil : Within [] [] := .nil
  induction p generalizing here ns there with
  | text chars =>
    rw [(matches_text.mp h).1]
    exact ⟨[], by simp [readings], hnil⟩
  | number least most =>
    obtain ⟨ds, -, -, hlength, rfl⟩ := matches_number.mp h
    have hlt : Text.digitsValue 0 ds < Nat.pow 10 most :=
      calc Text.digitsValue 0 ds < (0 + 1) * Nat.pow 10 ds.length := Text.digitsValue_lt 0 ds
        _ = Nat.pow 10 ds.length := by rw [Nat.zero_add, Nat.one_mul]
        _ ≤ Nat.pow 10 most := Nat.pow_le_pow_right (by decide) hlength.2
    exact ⟨_, List.mem_singleton_self _,
      .cons ⟨Int.natCast_nonneg _, Int.le_sub_one_of_lt (Int.ofNat_lt.mpr hlt)⟩ .nil⟩
  | reads n =>
    rw [(matches_reads.mp h).1]
    exact ⟨_, List.mem_singleton_self _, .cons ⟨Int.le_refl n, Int.le_refl n⟩ .nil⟩
  | edge =>
    rw [(matches_edge.mp h).2.1]
    exact ⟨[], by simp [readings], hnil⟩
  | optional p ih =>
    cases matches_optional.mp h with
    | inl hp =>
      obtain ⟨b, hb, hwithin⟩ := ih hp
      exact ⟨b, List.mem_append_left _ hb, hwithin⟩
    | inr hstay =>
      rw [hstay.1]
      exact ⟨[], by simp [readings], hnil⟩
  | either p q ihp ihq =>
    cases matches_either.mp h with
    | inl hp =>
      obtain ⟨b, hb, hwithin⟩ := ihp hp
      exact ⟨b, List.mem_append_left _ hb, hwithin⟩
    | inr hq =>
      obtain ⟨b, hb, hwithin⟩ := ihq hq
      exact ⟨b, List.mem_append_right _ hb, hwithin⟩
  | follow p q ihp ihq =>
    obtain ⟨ks, mid, ms, hp, hq, rfl⟩ := matches_follow.mp h
    obtain ⟨b, hb, hks⟩ := ihp hp
    obtain ⟨c, hc, hms⟩ := ihq hq
    exact ⟨b ++ c, List.mem_flatMap.mpr ⟨b, hb, List.mem_map_of_mem hc⟩, List.rel_append hks hms⟩
  | unlessAhead p =>
    rw [(matches_unlessAhead.mp h).2.1]
    exact ⟨[], by simp [readings], hnil⟩
  | unlessBehind chars =>
    rw [(matches_unlessBehind.mp h).2.1]
    exact ⟨[], by simp [readings], hnil⟩

/-- Whether all numbers within the first bounds are within the second. -/
def tighter : Bounds → Bounds → Bool
  | [], [] => true
  | b :: bs, c :: cs => decide (c.1 ≤ b.1 ∧ b.2 ≤ c.2) && tighter bs cs
  | _, _ => false

private theorem Within.of_tighter {b c : Bounds} (h : Within ns b) (hbc : tighter b c = true) :
    Within ns c := by
  induction h generalizing c with
  | nil =>
    cases c with
    | nil => exact .nil
    | cons => cases hbc
  | cons hn _ ih =>
    cases c with
    | nil => cases hbc
    | cons c cs =>
      rw [tighter, Bool.and_eq_true, decide_eq_true_eq] at hbc
      obtain ⟨⟨hlow, hhigh⟩, hrest⟩ := hbc
      exact .cons ⟨Int.le_trans hlow hn.1, Int.le_trans hn.2 hhigh⟩ (ih hrest)

/-- Whether every way through the pattern reads numbers within the bounds. -/
def readsWithin (p : Pattern) (bounds : Bounds) : Bool := p.readings.all (tighter · bounds)

/-- A search reads numbers within bounds that hold for every way through its pattern. -/
theorem within_of_search {bounds : Bounds} (hp : p.readsWithin bounds = true)
    (h : p.search s = some ns) : Within ns bounds := by
  obtain ⟨here, there, -, hmatch⟩ := matches_of_search h
  obtain ⟨b, hb, hwithin⟩ := hmatch.within
  exact hwithin.of_tighter (List.all_eq_true.mp hp b hb)

/-- The only number that a pattern reads is within its bounds. -/
theorem bounds_of_first? {low high n : Int} (hp : p.readsWithin [(low, high)] = true)
    (h : p.first? s = some n) : low ≤ n ∧ n ≤ high := by
  obtain ⟨ns, hns, hhead⟩ := Option.bind_eq_some_iff.mp h
  cases within_of_search hp hns with
  | cons hn _ =>
    obtain rfl := Option.some.inj hhead
    exact hn

/-- Where a pattern that reads a number occurs, it reads one. -/
theorem first?_isSome {low high : Int} (hp : p.readsWithin [(low, high)] = true)
    (h : p.occursIn s = true) : (p.first? s).isSome = true := by
  obtain ⟨ns, hns⟩ := Option.isSome_iff_exists.mp h
  rw [first?, hns]
  cases within_of_search hp hns with
  | cons _ _ => rfl

end Pattern

end RuleCalendar
