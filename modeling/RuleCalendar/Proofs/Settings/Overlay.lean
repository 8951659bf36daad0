import Mathlib.Data.List.Nodup
import RuleCalendar.Proofs.Settings.Load

/-!
# Settings overlay their defaults

An entry of a mapping is refused if its key is known and its value is neither null nor one that the
key takes. Main statement: a mapping without refused entries gives its values laid over the
defaults, in whatever order its entries stand and whatever unknown keys it has, and one with a
refused entry is refused with an error of settings, unless a rules file before it names an account
that there cannot be: that is a failure of another kind.
-/

namespace RuleCalendar

/-- The values that a key takes. -/
inductive SettingKey.Takes : SettingKey → Value → Prop
  /-- Integers, but no negative number of days. -/
  | integer {key : SettingKey} {n : Int} (hkind : key.kind = .integer)
    (hdays : key = .reminderDays → 0 ≤ n) : key.Takes (.int n)
  /-- Texts. -/
  | text {key : SettingKey} {s : String} (hkind : key.kind = .text) : key.Takes (.text s)
  /-- Families, which are texts too. -/
  | family {key : SettingKey} {g : Family} (hkind : key.kind = .text) :
    key.Takes (.scalar (.family g))

namespace Settings

variable {e : Environment} {source : String}

/-- The value that is set for a key, null if there is none. -/
def valueOf (s : Settings) : SettingKey → Value
  | .year => (s.year.map Value.int).getD .null
  | .rulesFile => (s.rulesFile.map Value.text).getD .null
  | .calendarName => (s.calendarName.map Value.text).getD .null
  | .reminderDays => .int s.reminderDays
  | .uidDomain => .text s.uidDomain
  | .prodid => .text s.prodid

/-- The value that is set for a given one: a home directory stands in the path of the rules file,
and a family is set as its name. -/
def setValue (e : Environment) : SettingKey → Value → Value
  | .rulesFile, .scalar (.text path) => .text ((e.expandHome path).toOption.getD path)
  | _, .scalar (.family g) => .text g.name
  | _, v => v

/-- An entry whose key is known and does not take its value. -/
def IsRefused (entry : Scalar × Value) : Prop :=
  ∃ key : SettingKey, entry.1 = .text key.name ∧ entry.2 ≠ .null ∧ ¬ key.Takes entry.2

/-- An entry for a rules file whose path names an account that there cannot be. -/
def HasNoHome (entry : Scalar × Value) : Prop :=
  ∃ path, entry = (.text SettingKey.rulesFile.name, .text path) ∧ NamesNullAccount path

/-! ### One entry -/

private theorem name_inj {key key' : SettingKey} (h : key.name = key'.name) : key = key' := by
  cases key <;> cases key' <;> first | rfl | (exact absurd h (by decide))

private theorem ofScalar?_name (key : SettingKey) :
    SettingKey.ofScalar? (.text key.name) = some key := by
  cases key <;> rfl

private theorem ofScalar?_eq_none_iff {k : Scalar} :
    SettingKey.ofScalar? k = none ↔ ∀ key : SettingKey, k ≠ .text key.name := by
  constructor
  · rintro h key rfl
    rw [ofScalar?_name] at h
    cases h
  · intro h
    cases hkey : SettingKey.ofScalar? k with
    | none => rfl
    | some key => exact absurd (eq_text_of_ofScalar? hkey) (h key)

/-- Settings laid over others: those of a mapping where it has a value, the others elsewhere. -/
structure Overlays (e : Environment) (entries : List (Scalar × Value)) (s s' : Settings) :
    Prop where
  source : s'.source = s.source
  given : ∀ (key : SettingKey) (v : Value), (.text key.name, v) ∈ entries → v ≠ .null →
    s'.valueOf key = setValue e key v
  kept : ∀ key : SettingKey, (∀ v, (.text key.name, v) ∈ entries → v = .null) →
    s'.valueOf key = s.valueOf key

variable {s : Settings} {entry : Scalar × Value}

private theorem valueOf_setInt {key : SettingKey} (hkind : key.kind = .integer) (n : Int)
    (key' : SettingKey) :
    (s.setInt key n).valueOf key' = if key' = key then .int n else s.valueOf key' := by
  cases key <;> cases hkind <;> cases key' <;> rfl

private theorem source_setInt (s : Settings) (key : SettingKey) (n : Int) :
    (s.setInt key n).source = s.source := by
  cases key <;> rfl

private theorem setText_ok {key : SettingKey} (hkind : key.kind = .text) {text : String}
    (hhome : key = .rulesFile → ¬ NamesNullAccount text) :
    ∃ s', s.setText e key text = .ok s' ∧ s'.source = s.source ∧ ∀ key',
      s'.valueOf key' = if key' = key then setValue e key (.text text) else s.valueOf key' := by
  cases key with
  | rulesFile =>
    cases hpath : e.expandHome text with
    | ok path =>
      refine ⟨{ s with rulesFile := some path }, by simp [setText, hpath, Except.map], rfl, ?_⟩
      have hvalue : setValue e .rulesFile (.text text) = .text path := by
        simp [setValue, Value.text, hpath, Except.toOption]
      intro key'
      rw [hvalue]
      cases key' <;> rfl
    | error h => exact absurd (Environment.expandHome_eq_error_iff.mp hpath).1 (hhome rfl)
  | calendarName | uidDomain | prodid =>
    refine ⟨_, rfl, rfl, fun key' ↦ ?_⟩
    cases key' <;> rfl
  | year | reminderDays => cases hkind

private theorem setValue_family (key : SettingKey) (g : Family) :
    setValue e key (.text g.name) = setValue e key (.scalar (.family g)) := by
  cases key with
  | rulesFile => simp [setValue, Value.text, Environment.expandHome_family, Except.toOption]
  | _ => rfl

/-- Settings that differ from others in the value of one key overlay these with its entry. -/
theorem overlays_singleton {s' : Settings} {key : SettingKey} {v : Value}
    (hsource : s'.source = s.source)
    (hvalue : ∀ key', s'.valueOf key' = if key' = key then setValue e key v else s.valueOf key')
    (hnull : v ≠ .null) : Overlays e [(.text key.name, v)] s s' where
  source := hsource
  given key' v' hmem _ := by
    obtain ⟨hname, rfl⟩ := Prod.mk.inj (List.mem_singleton.mp hmem)
    obtain rfl := name_inj (Scalar.text.inj hname)
    rw [hvalue, if_pos rfl]
  kept key' hkept := by
    have hne : key' ≠ key := by
      rintro rfl
      exact hnull (hkept v List.mem_cons_self)
    rw [hvalue, if_neg hne]

/-- An entry that sets nothing leaves all settings as they are. -/
theorem overlays_self (h : ∀ key : SettingKey, entry.1 = .text key.name → entry.2 = .null) :
    Overlays e [entry] s s where
  source := rfl
  given key v hmem hnull := by
    obtain rfl := List.mem_singleton.mp hmem
    exact absurd (h key rfl) hnull
  kept _ _ := rfl

/-- An entry that is not refused is set, if its path has a home. -/
theorem set_ok (e : Environment) (source : String) (s : Settings)
    (hrefused : ¬ IsRefused entry) (hhome : ¬ HasNoHome entry) :
    ∃ s', set e source s entry = .ok s' ∧ Overlays e [entry] s s' := by
  obtain ⟨k, v⟩ := entry
  cases hkey : SettingKey.ofScalar? k with
  | none =>
    refine ⟨s, by simp [set, hkey], overlays_self fun key hk ↦ ?_⟩
    exact absurd hk (ofScalar?_eq_none_iff.mp hkey key)
  | some key =>
    obtain rfl := eq_text_of_ofScalar? hkey
    by_cases hnull : v = .null
    · subst hnull
      refine ⟨s, ?_, overlays_self fun _ _ ↦ rfl⟩
      cases key <;> rfl
    · have htakes : key.Takes v := by
        by_contra hnot
        exact hrefused ⟨key, rfl, hnull, hnot⟩
      cases htakes with
      | @integer n hkind hdays =>
        refine ⟨s.setInt key n, ?_, overlays_singleton (source_setInt s key n) ?_ hnull⟩
        · have hinside : ¬ (key = .reminderDays ∧ n < 0) := fun h ↦ by
            have := hdays h.1
            omega
          simp only [set, hkey, hkind, Value.int, if_neg hinside]
        · intro key'
          rw [valueOf_setInt hkind]
          cases key <;> cases hkind <;> rfl
      | @text text hkind =>
        obtain ⟨s', hs', hsource, hvalue⟩ := setText_ok hkind (e := e) (s := s) fun hfile hnone ↦ by
          subst hfile
          exact hhome ⟨text, rfl, hnone⟩
        refine ⟨s', ?_, overlays_singleton hsource hvalue hnull⟩
        simp only [set, hkey, hkind, Value.text, hs', Except.mapError]
      | @family g hkind =>
        obtain ⟨s', hs', hsource, hvalue⟩ := setText_ok hkind (e := e) (s := s) fun _ ↦
          not_namesNullAccount_family g
        rw [setValue_family] at hvalue
        refine ⟨s', ?_, overlays_singleton hsource hvalue hnull⟩
        simp only [set, hkey, hkind, hs', Except.mapError]

/-- An entry that is refused is an error of settings. -/
theorem set_of_isRefused (h : IsRefused entry) :
    ∃ f, set e source s entry = .error f ∧ f.IsOfSettings := by
  obtain ⟨k, v⟩ := entry
  obtain ⟨key, rfl, hnull, hnot⟩ := h
  unfold set
  rw [ofScalar?_name]
  simp only
  split
  · exact absurd rfl hnull
  · next n hkind =>
    by_cases hnegative : key = .reminderDays ∧ n < 0
    · exact ⟨.command (.negativeReminder source), by rw [if_pos hnegative], rfl⟩
    · have hdays : key = .reminderDays → 0 ≤ n := fun hkey ↦ by
        have := not_and.mp hnegative hkey
        omega
      exact absurd (.integer hkind hdays) hnot
  · next text hkind => exact absurd (.text hkind) hnot
  · next g hkind => exact absurd (.family hkind) hnot
  · exact ⟨_, rfl, rfl⟩

private theorem set_of_hasNoHome (h : HasNoHome entry) :
    set e source s entry = .error (.home .nullCharacter) := by
  obtain ⟨path, rfl, hnull⟩ := h
  exact (set_eq_error_iff.mpr ⟨path, rfl, hnull, rfl⟩).1

private theorem not_isRefused_of_hasNoHome (h : HasNoHome entry) : ¬ IsRefused entry := by
  obtain ⟨path, rfl, -⟩ := h
  rintro ⟨key, hname, -, hnot⟩
  obtain rfl := name_inj (Scalar.text.inj hname)
  exact hnot (.text rfl)

/-- An entry is refused, or its path has no home, or it is set. -/
theorem set_cases (e : Environment) (source : String) (s : Settings) (entry : Scalar × Value) :
    (IsRefused entry ∧ ∃ f, set e source s entry = .error f ∧ f.IsOfSettings) ∨
      (HasNoHome entry ∧ set e source s entry = .error (.home .nullCharacter)) ∨
      ((¬ IsRefused entry ∧ ¬ HasNoHome entry) ∧
        ∃ s', set e source s entry = .ok s' ∧ Overlays e [entry] s s') := by
  by_cases hrefused : IsRefused entry
  · exact .inl ⟨hrefused, set_of_isRefused hrefused⟩
  · by_cases hhome : HasNoHome entry
    · exact .inr (.inl ⟨hhome, set_of_hasNoHome hhome⟩)
    · exact .inr (.inr ⟨⟨hrefused, hhome⟩, set_ok e source s hrefused hhome⟩)

private theorem exists_set_eq_ok_iff (e : Environment) (source : String) (s : Settings) :
    (∃ s', set e source s entry = .ok s') ↔ ¬ IsRefused entry ∧ ¬ HasNoHome entry := by
  constructor
  · rintro ⟨s', hs'⟩
    obtain ⟨-, f, hf, -⟩ | ⟨-, hf⟩ | ⟨hfaultless, -⟩ := set_cases e source s entry
    · rw [hs'] at hf
      cases hf
    · rw [hs'] at hf
      cases hf
    · exact hfaultless
  · rintro ⟨hrefused, hhome⟩
    obtain ⟨s', hs', -⟩ := set_ok e source s hrefused hhome
    exact ⟨s', hs'⟩

/-! ### All entries of a mapping -/

variable {entries : List (Scalar × Value)}

/-- Entries that give no known key two values, as those of a mapping do. -/
def IsMapping (entries : List (Scalar × Value)) : Prop :=
  ∀ (key : SettingKey) (v v' : Value), (.text key.name, v) ∈ entries →
    (.text key.name, v') ∈ entries → v = v'

private theorem IsMapping.of_cons (h : IsMapping (entry :: entries)) : IsMapping entries :=
  fun key v v' hv hv' ↦ h key v v' (List.mem_cons_of_mem _ hv) (List.mem_cons_of_mem _ hv')

/-- Settings laid over others that are laid over others again. -/
theorem Overlays.cons (hmap : IsMapping (entry :: entries)) {s₁ s₂ : Settings}
    (hfirst : Overlays e [entry] s s₁) (hrest : Overlays e entries s₁ s₂) :
    Overlays e (entry :: entries) s s₂ where
  source := hrest.source.trans hfirst.source
  given key v hmem hnull := by
    -- a key that comes again comes with the same value, so that the later one decides
    by_cases hlater : (.text key.name, v) ∈ entries
    · exact hrest.given key v hlater hnull
    · have hentry : (.text key.name, v) = entry := by
        obtain h | h := List.mem_cons.mp hmem
        · exact h
        · exact absurd h hlater
      have hnone : ∀ v', (.text key.name, v') ∈ entries → v' = .null := by
        intro v' hv'
        obtain rfl := hmap key v' v (List.mem_cons_of_mem _ hv') hmem
        exact absurd hv' hlater
      rw [hrest.kept key hnone]
      exact hfirst.given key v (List.mem_singleton.mpr hentry) hnull
  kept key hnone := by
    rw [hrest.kept key fun v hv ↦ hnone v (List.mem_cons_of_mem _ hv)]
    refine hfirst.kept key fun v hv ↦ hnone v ?_
    rw [List.mem_singleton.mp hv]
    exact List.mem_cons_self

/-- Entries of which none is refused or without a home are all set. -/
theorem foldlM_set_ok (e : Environment) (source : String) (s : Settings)
    (hmap : IsMapping entries)
    (h : ∀ entry ∈ entries, ¬ IsRefused entry ∧ ¬ HasNoHome entry) :
    ∃ s', entries.foldlM (set e source) s = .ok s' ∧ Overlays e entries s s' := by
  induction entries generalizing s with
  | nil => exact ⟨s, rfl, ⟨rfl, fun _ _ hmem ↦ absurd hmem List.not_mem_nil, fun _ _ ↦ rfl⟩⟩
  | cons entry entries ih =>
    obtain ⟨hrefused, hhome⟩ := h entry List.mem_cons_self
    obtain ⟨s₁, hs₁, hfirst⟩ := set_ok e source s hrefused hhome
    obtain ⟨s₂, hs₂, hrest⟩ := ih s₁ hmap.of_cons fun x hx ↦ h x (List.mem_cons_of_mem _ hx)
    refine ⟨s₂, ?_, hfirst.cons hmap hrest⟩
    rw [List.foldlM_cons, hs₁, ok_bind, hs₂]

/-- A member of one kind comes before all of another. -/
def ComesFirst {α : Type*} (P Q : α → Prop) (l : List α) : Prop :=
  ∃ before a after, l = before ++ a :: after ∧ P a ∧ ∀ b ∈ before, ¬ Q b

private theorem comesFirst_cons {α : Type*} {P Q : α → Prop} {a : α} {l : List α} :
    ComesFirst P Q (a :: l) ↔ P a ∨ ¬ Q a ∧ ComesFirst P Q l := by
  constructor
  · rintro ⟨before, b, after, hl, hb, hbefore⟩
    cases before with
    | nil =>
      cases hl
      exact .inl hb
    | cons c before =>
      cases hl
      refine .inr ⟨hbefore a List.mem_cons_self, before, b, after, rfl, hb, fun x hx ↦ ?_⟩
      exact hbefore x (List.mem_cons_of_mem _ hx)
  · rintro (ha | ⟨ha, before, b, after, rfl, hb, hbefore⟩)
    · exact ⟨[], a, l, rfl, ha, fun _ hx ↦ nomatch hx⟩
    · exact ⟨a :: before, b, after, rfl, hb, List.forall_mem_cons.mpr ⟨ha, hbefore⟩⟩

private theorem not_comesFirst_nil {α : Type*} {P Q : α → Prop} : ¬ ComesFirst P Q [] := by
  rintro ⟨before, a, after, hl, -⟩
  simp at hl

/-- Which of two faults a mapping is refused for is decided by the first entry that has one. -/
theorem foldlM_set_eq_error (e : Environment) (source : String) (entries : List (Scalar × Value))
    (s : Settings) :
    ((∃ f, entries.foldlM (set e source) s = .error f ∧ f.IsOfSettings) ↔
        ComesFirst IsRefused HasNoHome entries) ∧
      ∀ f, entries.foldlM (set e source) s = .error f ∧ ¬ f.IsOfSettings ↔
        f = .home .nullCharacter ∧ ComesFirst HasNoHome IsRefused entries := by
  induction entries generalizing s with
  | nil => simp [not_comesFirst_nil, pure, Except.pure]
  | cons entry entries ih =>
    simp only [List.foldlM_cons, comesFirst_cons]
    obtain ⟨hrefused, g, hg, hsettings⟩ | ⟨hhome, hg⟩ | ⟨⟨hrefused, hhome⟩, s₁, hs₁, -⟩ :=
      set_cases e source s entry
    · have hhome : ¬ HasNoHome entry := fun h ↦ not_isRefused_of_hasNoHome h hrefused
      simp only [hg, error_bind, hrefused, hhome]
      refine ⟨by simpa using hsettings, fun f ↦ ?_⟩
      simp only [not_true_eq_false, false_and, or_self, and_false, iff_false]
      rintro ⟨hf, hnot⟩
      cases hf
      exact hnot hsettings
    · have hrefused := not_isRefused_of_hasNoHome hhome
      simp only [hg, error_bind, hrefused, hhome]
      constructor
      · simp [Failure.IsOfSettings]
      · intro f
        simp only [Except.error.injEq, not_false_eq_true, true_and, true_or, and_true]
        constructor
        · rintro ⟨rfl, -⟩
          rfl
        · rintro rfl
          exact ⟨rfl, id⟩
    · simp only [hs₁, ok_bind, hrefused, hhome, not_false_eq_true, true_and, false_or]
      exact ih s₁

/-- Settings with the same values and the same source are the same. -/
theorem eq_of_valueOf {s s' : Settings} (hvalue : ∀ key, s.valueOf key = s'.valueOf key)
    (hsource : s.source = s'.source) : s = s' := by
  have hyear := hvalue .year
  have hrules := hvalue .rulesFile
  have hname := hvalue .calendarName
  have hdays := hvalue .reminderDays
  have hdomain := hvalue .uidDomain
  have hprodid := hvalue .prodid
  obtain ⟨year, rulesFile, calendarName, reminderDays, uidDomain, prodid, origin⟩ := s
  obtain ⟨year', rulesFile', calendarName', reminderDays', uidDomain', prodid', origin'⟩ := s'
  simp only [valueOf] at *
  obtain rfl : year = year' := by
    cases year <;> cases year' <;> simp_all [Value.int, Value.null]
  obtain rfl : rulesFile = rulesFile' := by
    cases rulesFile <;> cases rulesFile' <;> simp_all [Value.text, Value.null]
  obtain rfl : calendarName = calendarName' := by
    cases calendarName <;> cases calendarName' <;> simp_all [Value.text, Value.null]
  simp_all [Value.int, Value.text]

/-- Only one thing is laid over given settings by the entries of a mapping, in whatever order. -/
theorem Overlays.eq_of_perm {entries' : List (Scalar × Value)} (hperm : entries'.Perm entries)
    {s₁ s₂ : Settings} (h₁ : Overlays e entries s s₁) (h₂ : Overlays e entries' s s₂) :
    s₂ = s₁ := by
  refine eq_of_valueOf (fun key ↦ ?_) (h₂.source.trans h₁.source.symm)
  by_cases hnone : ∀ v, (.text key.name, v) ∈ entries → v = .null
  · rw [h₁.kept key hnone, h₂.kept key fun v hv ↦ hnone v (hperm.mem_iff.mp hv)]
  · push Not at hnone
    obtain ⟨v, hv, hnull⟩ := hnone
    rw [h₁.given key v hv hnull, h₂.given key v (hperm.mem_iff.mpr hv) hnull]

private theorem set_of_ofScalar?_eq_none (h : SettingKey.ofScalar? entry.1 = none) :
    set e source s entry = .ok s := by
  simp only [set, h]

/-- Entries with unknown keys are passed over. -/
theorem foldlM_set_filter (entries : List (Scalar × Value)) (s : Settings) :
    (entries.filter fun entry ↦ (SettingKey.ofScalar? entry.1).isSome).foldlM (set e source) s =
      entries.foldlM (set e source) s := by
  induction entries generalizing s with
  | nil => rfl
  | cons entry entries ih =>
    rw [List.foldlM_cons]
    cases hkey : SettingKey.ofScalar? entry.1 with
    | none =>
      rw [List.filter_cons_of_neg (by simp [hkey]), ih, set_of_ofScalar?_eq_none hkey, ok_bind]
    | some key =>
      rw [List.filter_cons_of_pos (by simp [hkey]), List.foldlM_cons]
      simp only [ih]

/-- Entries with different keys are those of a mapping. -/
theorem isMapping_of_nodup (h : (entries.map Prod.fst).Nodup) : IsMapping entries := by
  intro key v v' hv hv'
  exact congrArg Prod.snd (List.inj_on_of_nodup_map h hv hv' rfl)

/-- A mapping is refused with an error of settings if an entry is refused before any names an
account that there cannot be, and with another failure if it is the other way round. Else it gives
its values laid over the defaults, whatever the order of its entries; unknown keys make no
difference. -/
theorem ofEntries_overlays (e : Environment) (source : String) {entries : List (Scalar × Value)}
    (hmap : IsMapping entries) :
    ((∃ f, ofEntries e source entries = .error f ∧ f.IsOfSettings) ↔
        ComesFirst IsRefused HasNoHome entries) ∧
      (∀ f, ofEntries e source entries = .error f ∧ ¬ f.IsOfSettings ↔
        f = .home .nullCharacter ∧ ComesFirst HasNoHome IsRefused entries) ∧
      ((∀ entry ∈ entries, ¬ IsRefused entry ∧ ¬ HasNoHome entry) →
        ∃ s, Overlays e entries { source := some source } s ∧
          ∀ entries', entries'.Perm entries → ofEntries e source entries' = .ok s) ∧
      ofEntries e source (entries.filter fun entry ↦ (SettingKey.ofScalar? entry.1).isSome) =
        ofEntries e source entries := by
  obtain ⟨hrefused, hhome⟩ := foldlM_set_eq_error e source entries { source := some source }
  refine ⟨hrefused, hhome, fun hall ↦ ?_, foldlM_set_filter entries _⟩
  obtain ⟨s, -, hs⟩ := foldlM_set_ok e source { source := some source } hmap hall
  refine ⟨s, hs, fun entries' hperm ↦ ?_⟩
  have hall' : ∀ entry ∈ entries', ¬ IsRefused entry ∧ ¬ HasNoHome entry := fun entry hentry ↦
    hall entry (hperm.mem_iff.mp hentry)
  have hmap' : IsMapping entries' := fun key v v' hv hv' ↦
    hmap key v v' (hperm.mem_iff.mp hv) (hperm.mem_iff.mp hv')
  obtain ⟨s', hs', hoverlays⟩ := foldlM_set_ok e source { source := some source } hmap' hall'
  rw [ofEntries, hs', hs.eq_of_perm hperm hoverlays]

/-- The rules file of a mapping is looked for in the account's home, in whatever order the entries
stand. -/
theorem ofEntries_overlays_home :
    let e : Environment := ⟨[("HOME", "/home/ann/")], []⟩
    let entries : List (Scalar × Value) :=
      [(.text "rules_file", .text "~/rules.txt"), (.text "source", .text "here"),
        (.text "year", .null), (.text "reminder_days", .int 0)]
    IsMapping entries ∧ ∃ s, Overlays e entries { source := some "c.yaml" } s ∧
      s.rulesFile = some "/home/ann/rules.txt" ∧
      ∀ entries', entries'.Perm entries → ofEntries e "c.yaml" entries' = .ok s := by
  intro e entries
  have hmap : IsMapping entries := isMapping_of_nodup (by decide)
  have hall : ∀ entry ∈ entries, ¬ IsRefused entry ∧ ¬ HasNoHome entry := by
    intro entry hentry
    apply (exists_set_eq_ok_iff e "c.yaml" {}).mp
    simp only [entries, List.mem_cons, List.not_mem_nil, or_false] at hentry
    obtain rfl | rfl | rfl | rfl := hentry <;> exact ⟨_, rfl⟩
  obtain ⟨s, hs, hperm⟩ := (ofEntries_overlays e "c.yaml" hmap).2.2.1 hall
  refine ⟨hmap, s, hs, ?_, hperm⟩
  have hs : ofEntries e "c.yaml" entries = .ok s := hperm entries (.refl entries)
  cases hs
  rfl

/-- An entry with a value that its key takes is not told as an error of settings, and yet there are
no settings. -/
theorem exists_ofEntries_eq_nullCharacter : ∃ entries, IsMapping entries ∧
    (∀ entry ∈ entries, ¬ IsRefused entry) ∧
      ofEntries ⟨[], []⟩ unnamedSource entries = .error (.home .nullCharacter) := by
  refine ⟨[(.text "rules_file", .text "~\x00")], isMapping_of_nodup (by decide), ?_, rfl⟩
  rintro entry hentry ⟨key, hname, -, hnot⟩
  obtain rfl := List.mem_singleton.mp hentry
  have hkey : .rulesFile = key := name_inj (Scalar.text.inj hname)
  subst hkey
  exact hnot (.text rfl)

end Settings

end RuleCalendar
