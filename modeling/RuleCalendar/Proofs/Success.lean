import Mathlib.Data.List.Basic

/-!
# Steps that succeed or fail

A chain of steps whose steps all succeed is the chain of their results; one of whose steps some fail,
all alike, fails like them. Where each step goes on from the one before, the first failure is that of
the chain.
-/

namespace RuleCalendar

universe u v w

variable {ε : Type u} {α : Type w} {β : Type v}

/-- What follows a value goes on with it. -/
@[simp] theorem ok_bind {α : Type v} (a : α) (f : α → Except ε β) :
    (Except.ok a >>= f) = f a := rfl

/-- Nothing follows an error. -/
@[simp] theorem error_bind {α : Type v} (e : ε) (f : α → Except ε β) :
    (Except.error e >>= f) = .error e := rfl

/-- Steps that succeed on all members of a list give the list of their results. -/
theorem mapM_eq_ok {f : α → Except ε β} {g : α → β} {l : List α}
    (h : ∀ a ∈ l, f a = .ok (g a)) : l.mapM f = .ok (l.map g) := by
  induction l with
  | nil => rfl
  | cons a l ih =>
    rw [List.mapM_cons, h a List.mem_cons_self, ok_bind,
      ih fun b hb ↦ h b (List.mem_cons_of_mem a hb)]
    rfl

/-- Steps that succeed on all members of a list give results that look as the members tell. -/
theorem exists_mapM_eq_ok {γ : Type*} {f : α → Except ε β} {view : β → γ} {value : α → γ}
    {l : List α} (h : ∀ a ∈ l, ∃ b, f a = .ok b ∧ view b = value a) :
    ∃ bs, l.mapM f = .ok bs ∧ bs.map view = l.map value := by
  induction l with
  | nil => exact ⟨[], rfl, rfl⟩
  | cons a l ih =>
    obtain ⟨b, hb, hview⟩ := h a List.mem_cons_self
    obtain ⟨bs, hbs, hviews⟩ := ih fun c hc ↦ h c (List.mem_cons_of_mem a hc)
    refine ⟨b :: bs, ?_, by rw [List.map_cons, List.map_cons, hview, hviews]⟩
    rw [List.mapM_cons, hb, ok_bind, hbs]
    rfl

/-- A step that goes on from another succeeds where both do. -/
theorem bind_eq_ok_iff {α : Type v} {x : Except ε α} {f : α → Except ε β} {b : β} :
    (x >>= f) = .ok b ↔ ∃ a, x = .ok a ∧ f a = .ok b := by
  cases x with
  | ok a => simp
  | error e => simp

/-- Each result of steps on all members of a list is that of the step on one of them. -/
theorem exists_of_mem_mapM {f : α → Except ε β} {l : List α} {bs : List β}
    (h : l.mapM f = .ok bs) {b : β} (hb : b ∈ bs) : ∃ a ∈ l, f a = .ok b := by
  induction l generalizing bs with
  | nil =>
    cases h
    cases hb
  | cons a l ih =>
    rw [List.mapM_cons, bind_eq_ok_iff] at h
    obtain ⟨c, hc, h⟩ := h
    obtain ⟨cs, hcs, hbs⟩ := bind_eq_ok_iff.mp h
    cases hbs
    obtain rfl | hb := List.mem_cons.mp hb
    · exact ⟨a, List.mem_cons_self, hc⟩
    · obtain ⟨a', ha', hfound⟩ := ih hcs hb
      exact ⟨a', List.mem_cons_of_mem a ha', hfound⟩

section

variable {f : α → Except ε β} {l : List α} {e : ε}
  (hall : ∀ a ∈ l, (∃ b, f a = .ok b) ∨ f a = .error e)
include hall

/-- Steps that can fail in one way only succeed together or fail in this way. -/
theorem mapM_eq_ok_or_error : (∃ bs, l.mapM f = .ok bs) ∨ l.mapM f = .error e := by
  induction l with
  | nil => exact .inl ⟨[], rfl⟩
  | cons a l ih =>
    rw [List.mapM_cons]
    cases hall a List.mem_cons_self with
    | inl hok =>
      obtain ⟨b, hb⟩ := hok
      rw [hb, ok_bind]
      cases ih fun c hc ↦ hall c (List.mem_cons_of_mem a hc) with
      | inl hrest =>
        obtain ⟨bs, hbs⟩ := hrest
        exact .inl ⟨b :: bs, by rw [hbs, ok_bind]; rfl⟩
      | inr hrest => exact .inr (by rw [hrest, error_bind])
    | inr herror => exact .inr (by rw [herror, error_bind])

/-- Steps that can fail in one way only fail in this way where one of them does. -/
theorem mapM_eq_error (h : ∃ a ∈ l, f a = .error e) : l.mapM f = .error e := by
  induction l with
  | nil =>
    obtain ⟨a, ha, -⟩ := h
    cases ha
  | cons a l ih =>
    have hrest : ∀ b ∈ l, (∃ c, f b = .ok c) ∨ f b = .error e := fun b hb ↦
      hall b (List.mem_cons_of_mem a hb)
    rw [List.mapM_cons]
    cases hall a List.mem_cons_self with
    | inl hok =>
      obtain ⟨b, hb⟩ := hok
      obtain ⟨c, hc, herror⟩ := h
      obtain rfl | hc := List.mem_cons.mp hc
      · rw [hb] at herror
        cases herror
      · rw [hb, ok_bind, ih hrest ⟨c, hc, herror⟩, error_bind]
    | inr herror => rw [herror, error_bind]

end

/-- A chain of steps fails at the first member of a list whose step fails. -/
theorem foldlM_eq_error_iff {f : β → α → Except ε β} {b : β} {l : List α} {e : ε} :
    l.foldlM f b = .error e ↔
      ∃ before a after c, l = before ++ a :: after ∧ before.foldlM f b = .ok c ∧
        f c a = .error e := by
  induction l generalizing b with
  | nil =>
    constructor
    · intro h
      cases h
    · rintro ⟨before, a, after, c, hl, -⟩
      simp at hl
  | cons a l ih =>
    rw [List.foldlM_cons]
    cases ha : f b a with
    | error e' =>
      rw [error_bind]
      constructor
      · intro h
        exact ⟨[], a, l, b, rfl, rfl, ha.trans h⟩
      · rintro ⟨before, a', after, c, hl, hbefore, herror⟩
        cases before with
        | nil =>
          cases hl
          cases hbefore
          exact ha.symm.trans herror
        | cons a'' before =>
          cases hl
          rw [List.foldlM_cons, ha, error_bind] at hbefore
          cases hbefore
    | ok b' =>
      rw [ok_bind, ih]
      constructor
      · rintro ⟨before, a', after, c, rfl, hbefore, herror⟩
        refine ⟨a :: before, a', after, c, rfl, ?_, herror⟩
        rw [List.foldlM_cons, ha, ok_bind, hbefore]
      · rintro ⟨before, a', after, c, hl, hbefore, herror⟩
        cases before with
        | nil =>
          cases hl
          cases hbefore
          rw [ha] at herror
          cases herror
        | cons a'' before =>
          cases hl
          rw [List.foldlM_cons, ha, ok_bind] at hbefore
          exact ⟨before, a', after, c, rfl, hbefore, herror⟩

end RuleCalendar
