import RuleCalendar.Proofs.Success
import RuleCalendar.Proofs.Text.Replace
import RuleCalendar.Settings.Lookup

/-!
# Settings that cannot be used

Settings that are looked up are found, or refused with an error of settings that the user is told, or
else there is an obstacle of another kind: the bytes of the settings file are no UTF-8, its document
is well formed but a scalar in it has no value, or a path begins with an account whose name holds the
character of code zero, be it the path of the settings file or that of the rules file. Main statement:
there are no other obstacles, and where there is one the failure is its own.
-/

namespace RuleCalendar

variable {e : Environment} {t : FileTree} {given : Option String} {path : String}

/-- Whether a failure is an error of settings, meant for the user. -/
def Failure.IsOfSettings : Failure → Prop
  | .command c => c.kind = .settings
  | _ => False

/-! ### Home directories -/

/-- Whether a path begins with an account whose name holds the character of code zero. -/
def NamesNullAccount (path : String) : Prop :=
  ∃ rest, path.toList = '~' :: rest ∧ Char.ofNat 0 ∈ rest.takeWhile (· ≠ '/')

/-- The home directory of an account is refused only if its name holds the character of code
zero. -/
theorem Environment.expandHome_eq_error_iff {h : HomeError} :
    e.expandHome path = .error h ↔ NamesNullAccount path ∧ h = .nullCharacter := by
  unfold expandHome NamesNullAccount
  split
  · next rest hpath =>
    rw [hpath]
    simp only [List.cons.injEq, true_and, exists_eq_left']
    by_cases hnull : Char.ofNat 0 ∈ rest.takeWhile (· ≠ '/')
    · rw [if_pos hnull, Except.error.injEq]
      exact ⟨fun h ↦ ⟨hnull, h.symm⟩, fun h ↦ h.2.symm⟩
    · rw [if_neg hnull]
      constructor
      · intro h
        split at h <;> cases h
      · intro h
        exact absurd h.1 hnull
  · next hpath =>
    constructor
    · intro h
      cases h
    · rintro ⟨⟨rest, hrest, -⟩, -⟩
      exact absurd hrest (hpath rest)

/-- The name of a family begins with no tilde. -/
theorem Environment.expandHome_family (e : Environment) (g : Family) :
    e.expandHome g.name = .ok g.name := by
  cases g <;> rfl

/-- The name of a family begins with no account. -/
theorem not_namesNullAccount_family (g : Family) : ¬ NamesNullAccount g.name := by
  intro hnull
  have herror := Environment.expandHome_eq_error_iff (e := ⟨[], []⟩).mpr ⟨hnull, rfl⟩
  rw [Environment.expandHome_family] at herror
  cases herror

/-! ### Documents -/

namespace FileTree

variable {bytes : List UInt8} {text : List Char}

private theorem read_eq_ok_iff : t.read path = .ok bytes ↔ t.look path = .ok (.file bytes) := by
  unfold read
  split <;> simp_all

section

variable (hpath : path ≠ "") (hread : t.read (Path.ofText path).toText = .ok bytes)
include hpath hread

private theorem readDocument_of_decode_eq_error {u : Utf8Error} (hdecode : Utf8.decode bytes = .error u) :
    t.readDocument path = .error (.encoding u) := by
  unfold readDocument readText
  simp only [if_neg hpath, read_eq_ok_iff.mp hread, hread, Except.mapError, ok_bind, hdecode,
    error_bind]

variable (hdecode : Utf8.decode bytes = .ok text)
include hdecode

private theorem readDocument_of_read_eq_error {d : Yaml.ReadError}
    (hdocument : Yaml.read (Text.newlinePasses text) = .error d) :
    t.readDocument path = .error (.document d) := by
  unfold readDocument readText
  simp only [if_neg hpath, read_eq_ok_iff.mp hread, hread, Except.mapError, ok_bind, hdecode]
  simp only [pure, Except.pure, ok_bind, Text.plainNewlines_eq_passes, hdocument, error_bind]

private theorem exists_readDocument_eq_ok {v : Value}
    (hdocument : Yaml.read (Text.newlinePasses text) = .ok v) :
    ∃ found, t.readDocument path = .ok found := by
  unfold readDocument readText
  simp only [if_neg hpath, read_eq_ok_iff.mp hread, hread, Except.mapError, ok_bind, hdecode]
  simp only [pure, Except.pure, ok_bind, Text.plainNewlines_eq_passes, hdocument]
  split <;> exact ⟨_, rfl⟩

end

/-- A document that is not read is in a file, or its path is too long for the system. -/
theorem exists_read_of_readDocument_eq_error {f : Failure} (h : t.readDocument path = .error f) :
    (∃ p, f = .file ⟨.nameTooLong, p⟩) ∨
      ∃ bytes, t.read (Path.ofText path).toText = .ok bytes := by
  unfold readDocument at h
  split at h
  · cases h
  · simp only at h
    split at h
    · next bytes hlook => exact .inr ⟨bytes, read_eq_ok_iff.mpr hlook⟩
    · cases h
      exact .inl ⟨_, rfl⟩
    · cases h

private theorem ne_empty_of_holds (h : t.holds path = true) : path ≠ "" := by
  rintro rfl
  simp [holds, look, locate] at h

end FileTree

namespace Settings

variable {source : String} {s : Settings} {f : Failure}

/-! ### Entries -/

/-- A key of settings is the text of its name. -/
theorem eq_text_of_ofScalar? {k : Scalar} {key : SettingKey}
    (h : SettingKey.ofScalar? k = some key) : k = .text key.name := by
  simpa using List.find?_some h

/-- The only text that can be refused as such is the path of the rules file. -/
theorem setText_eq_error_iff {key : SettingKey} {text : String} {h : HomeError} :
    setText e s key text = .error h ↔
      key = .rulesFile ∧ NamesNullAccount text ∧ h = .nullCharacter := by
  rw [← Environment.expandHome_eq_error_iff (e := e)]
  cases key with
  | rulesFile => cases hhome : e.expandHome text <;> simp [setText, hhome, Except.map]
  | year | calendarName | reminderDays | uidDomain | prodid => simp [setText]

/-- The entries that are refused with something else than an error of settings. -/
theorem set_eq_error_iff {entry : Scalar × Value} :
    set e source s entry = .error f ∧ ¬ f.IsOfSettings ↔
      ∃ rules, entry = (.text "rules_file", .scalar (.text rules)) ∧ NamesNullAccount rules ∧
        f = .home .nullCharacter := by
  constructor
  · rintro ⟨herror, hf⟩
    obtain ⟨k, v⟩ := entry
    unfold set at herror
    split at herror
    · cases herror
    · next key hkey =>
      have hk := eq_text_of_ofScalar? hkey
      split at herror
      · cases herror
      · split at herror <;> cases herror
        exact absurd rfl hf
      · next text hkind hv =>
        cases htext : setText e s key text with
        | ok s' =>
          rw [htext] at herror
          cases herror
        | error h =>
          rw [htext] at herror
          cases herror
          obtain ⟨rfl, hnull, rfl⟩ := setText_eq_error_iff.mp htext
          exact ⟨text, Prod.ext hk hv, hnull, rfl⟩
      · next g hkind hv =>
        cases htext : setText e s key g.name with
        | ok s' =>
          rw [htext] at herror
          cases herror
        | error h =>
          obtain ⟨-, hnull, -⟩ := setText_eq_error_iff.mp htext
          exact absurd hnull (not_namesNullAccount_family g)
      · cases herror
        exact absurd rfl hf
  · rintro ⟨rules, rfl, hnull, rfl⟩
    have htext : setText e s .rulesFile rules = .error .nullCharacter :=
      setText_eq_error_iff.mpr ⟨rfl, hnull, rfl⟩
    have hkey : SettingKey.ofScalar? (.text "rules_file") = some .rulesFile := rfl
    refine ⟨?_, id⟩
    simp only [set, hkey, SettingKey.kind, htext]
    rfl

/-- A mapping is refused with something else than an error of settings for the path of its rules
file, if all is well with the entries before it. -/
theorem ofEntries_eq_error_iff {entries : List (Scalar × Value)} :
    ofEntries e source entries = .error f ∧ ¬ f.IsOfSettings ↔
      ∃ before rules after s, entries = before ++ (.text "rules_file", .scalar (.text rules)) :: after ∧
        ofEntries e source before = .ok s ∧ NamesNullAccount rules ∧ f = .home .nullCharacter := by
  unfold ofEntries
  rw [foldlM_eq_error_iff]
  constructor
  · rintro ⟨⟨before, entry, after, s, rfl, hbefore, herror⟩, hf⟩
    obtain ⟨rules, rfl, hnull, rfl⟩ := set_eq_error_iff.mp ⟨herror, hf⟩
    exact ⟨before, rules, after, s, rfl, hbefore, hnull, rfl⟩
  · rintro ⟨before, rules, after, s, rfl, hbefore, hnull, rfl⟩
    obtain ⟨herror, hf⟩ := set_eq_error_iff.mpr ⟨rules, rfl, hnull, rfl⟩
    exact ⟨⟨before, _, after, s, rfl, hbefore, herror⟩, hf⟩

/-! ### The settings file -/

/-- The paths whose home directories are looked for before a settings file is. -/
def namedPaths (e : Environment) (given : Option String) : List String :=
  match given.filter (· ≠ "") with
  | some path => [path]
  | none =>
    match (e.bindings.lookup "PRODCAL_CONFIG").filter (· ≠ "") with
    | some path => [path]
    | none => ((e.bindings.lookup "XDG_CONFIG_HOME").filter (· ≠ "")).toList

-- The home directory of the user can be looked for.
private theorem exists_expandHome_config (e : Environment) :
    ∃ home, e.expandHome "~/.config" = .ok home := by
  cases hhome : e.expandHome "~/.config" with
  | ok home => exact ⟨home, rfl⟩
  | error h =>
    obtain ⟨⟨rest, hrest, hnull⟩, -⟩ := Environment.expandHome_eq_error_iff.mp hhome
    obtain rfl : "/.config".toList = rest := List.tail_eq_of_cons_eq hrest
    cases hnull

private theorem usualPaths_eq_error_iff {h : HomeError} : usualPaths e = .error h ↔
    (∃ path ∈ namedPaths e none, NamesNullAccount path) ∧ h = .nullCharacter := by
  unfold usualPaths namedPaths Environment.filled? Environment.value?
  rw [Option.filter_none]
  cases (e.bindings.lookup "PRODCAL_CONFIG").filter (· ≠ "") with
  | some path =>
    simp only [List.mem_singleton, exists_eq_left]
    rw [← Environment.expandHome_eq_error_iff (e := e)]
    cases e.expandHome path <;> simp [pure, Except.pure]
  | none =>
    obtain ⟨home, hhome⟩ := exists_expandHome_config e
    cases (e.bindings.lookup "XDG_CONFIG_HOME").filter (· ≠ "") with
    | some root =>
      simp only [Option.toList_some, List.mem_singleton, exists_eq_left, List.singleton_append,
        List.mapM_cons, List.mapM_nil, hhome]
      rw [← Environment.expandHome_eq_error_iff (e := e)]
      cases e.expandHome root <;> simp [pure, Except.pure]
    | none => simp [hhome, pure, Except.pure]

private theorem findPath?_eq_error_iff {h : HomeError} : findPath? e t given = .error h ↔
    (∃ path ∈ namedPaths e given, NamesNullAccount path) ∧ h = .nullCharacter := by
  unfold findPath?
  cases hgiven : given.filter (· ≠ "") with
  | some path =>
    simp only [namedPaths, hgiven, List.mem_singleton, exists_eq_left]
    rw [← Environment.expandHome_eq_error_iff (e := e)]
    cases e.expandHome path <;> simp [Except.map]
  | none =>
    have hnamed : namedPaths e given = namedPaths e none := by
      simp only [namedPaths, hgiven, Option.filter_none]
    rw [hnamed, ← usualPaths_eq_error_iff]
    cases usualPaths e <;> simp [Except.map]

/-- The settings file that is asked for or found is there, at a path. -/
structure IsAt (e : Environment) (t : FileTree) (given : Option String) (path : String) :
    Prop where
  find : findPath? e t given = .ok (some path)
  holds : t.holds path = true

private theorem load_of_isAt (h : IsAt e t given path) :
    load e t given = (do ofEntries e path (← readEntries t path)) := by
  unfold load Settings.find
  rw [h.find]
  simp only [Except.mapError, ok_bind, h.holds, Bool.not_true, Bool.and_false]
  cases readEntries t path <;> rfl

/-- A file that is not asked for is there when it is found. -/
theorem holds_of_findPath? (hgiven : given.any (· ≠ "") = false)
    (h : findPath? e t given = .ok (some path)) : t.holds path = true := by
  have hnone : given.filter (· ≠ "") = none := by
    cases given with
    | none => rfl
    | some p => simpa using hgiven
  unfold findPath? at h
  rw [hnone] at h
  cases hpaths : usualPaths e with
  | error e' =>
    rw [hpaths] at h
    cases h
  | ok paths =>
    rw [hpaths] at h
    exact List.find?_some (Except.ok.inj h)

/-- What stands in the way of settings and is not told as an error of theirs, by the failure that it
leads to. -/
inductive Obstacle (e : Environment) (t : FileTree) (given : Option String) : Failure → Prop
  /-- A path by which the settings file is looked for names no account that there can be. -/
  | account {path : String} (hnamed : path ∈ namedPaths e given) (hnull : NamesNullAccount path) :
    Obstacle e t given (.home .nullCharacter)
  /-- The settings file is no UTF-8. -/
  | encoding {path : String} {bytes : List UInt8} {u : Utf8Error} (hpath : IsAt e t given path)
    (hread : t.read (Path.ofText path).toText = .ok bytes) (hdecode : Utf8.decode bytes = .error u) :
    Obstacle e t given (.encoding u)
  /-- The document of the settings file is well formed, but a scalar in it has no value. -/
  | document {path : String} {bytes : List UInt8} {text : List Char} {d : Yaml.ReadError}
    (hpath : IsAt e t given path) (hread : t.read (Path.ofText path).toText = .ok bytes)
    (hdecode : Utf8.decode bytes = .ok text)
    (hdocument : Yaml.read (Text.newlinePasses text) = .error d) (hform : ∀ m, d ≠ .form m) :
    Obstacle e t given (.document d)
  /-- The path of the rules file names no account that there can be. -/
  | rulesFile {path rules : String} {before after : List (Scalar × Value)} {s : Settings}
    (hpath : IsAt e t given path)
    (hdocument : t.readDocument path =
      .ok (some (.mapping (before ++ (.text "rules_file", .scalar (.text rules)) :: after))))
    (hbefore : ofEntries e path before = .ok s) (hnull : NamesNullAccount rules) :
    Obstacle e t given (.home .nullCharacter)

private theorem load_of_obstacle (h : Obstacle e t given f) :
    load e t given = .error f ∧ ¬ f.IsOfSettings := by
  cases h with
  | account hnamed hnull =>
    have hfind := findPath?_eq_error_iff (t := t).mpr ⟨⟨_, hnamed, hnull⟩, rfl⟩
    refine ⟨?_, id⟩
    simp only [load, Settings.find, hfind, Except.mapError, error_bind]
  | encoding hpath hread hdecode =>
    have hdocument := FileTree.readDocument_of_decode_eq_error
      (FileTree.ne_empty_of_holds hpath.holds) hread hdecode
    refine ⟨?_, id⟩
    simp only [load_of_isAt hpath, readEntries, hdocument, error_bind]
  | @document path bytes text d hpath hread hdecode hdocument hform =>
    have hdocument := FileTree.readDocument_of_read_eq_error
      (FileTree.ne_empty_of_holds hpath.holds) hread hdecode hdocument
    refine ⟨?_, id⟩
    cases d with
    | form m => exact absurd rfl (hform m)
    | _ => simp only [load_of_isAt hpath, readEntries, hdocument, error_bind]
  | @rulesFile path rules before after s hpath hdocument hbefore hnull =>
    rw [load_of_isAt hpath, readEntries, hdocument]
    exact ofEntries_eq_error_iff.mpr ⟨before, rules, after, s, rfl, hbefore, hnull, rfl⟩

/-- Entries that are read are those of a mapping. -/
theorem readDocument_of_readEntries {entries : List (Scalar × Value)} (hne : entries ≠ [])
    (h : readEntries t path = .ok entries) :
    t.readDocument path = .ok (some (.mapping entries)) := by
  unfold readEntries at h
  split at h
  · exact absurd (Except.ok.inj h).symm hne
  · next hdocument => rw [hdocument, Except.ok.inj h]
  · cases h
  · split at h <;> cases h
  · cases h
  · cases h

/-- A settings file that cannot be read is refused with an error of settings, or there is an
obstacle. -/
theorem obstacle_of_readEntries (hpath : IsAt e t given path)
    (h : readEntries t path = .error f) (hf : ¬ f.IsOfSettings) : Obstacle e t given f := by
  have hne := FileTree.ne_empty_of_holds hpath.holds
  cases hdocument : t.readDocument path with
  | ok found =>
    simp only [readEntries, hdocument] at h
    split at h
    · cases h
    · cases h
    · cases h
      exact absurd rfl hf
    all_goals contradiction
  | error g =>
    rw [readEntries, hdocument] at h
    obtain ⟨p, rfl⟩ | ⟨bytes, hread⟩ := FileTree.exists_read_of_readDocument_eq_error hdocument
    · cases h
      exact absurd rfl hf
    · cases hdecode : Utf8.decode bytes with
      | error u =>
        rw [FileTree.readDocument_of_decode_eq_error hne hread hdecode] at hdocument
        cases hdocument
        cases h
        exact .encoding hpath hread hdecode
      | ok text =>
        cases hyaml : Yaml.read (Text.newlinePasses text) with
        | ok v =>
          obtain ⟨found, hfound⟩ := FileTree.exists_readDocument_eq_ok hne hread hdecode hyaml
          rw [hfound] at hdocument
          cases hdocument
        | error d =>
          rw [FileTree.readDocument_of_read_eq_error hne hread hdecode hyaml] at hdocument
          cases hdocument
          cases d with
          | form m =>
            cases h
            exact absurd rfl hf
          | _ =>
            cases h
            exact .document hpath hread hdecode hyaml nofun

/-- Looking up settings fails with something else than an error of settings just where there is an
obstacle, and fails like it. -/
theorem load_eq_error_iff (e : Environment) (t : FileTree) (given : Option String) (f : Failure) :
    load e t given = .error f ∧ ¬ f.IsOfSettings ↔ Obstacle e t given f := by
  refine ⟨?_, load_of_obstacle⟩
  rintro ⟨herror, hf⟩
  cases hfind : findPath? e t given with
  | error h =>
    obtain ⟨⟨path, hnamed, hnull⟩, rfl⟩ := findPath?_eq_error_iff.mp hfind
    rw [load, Settings.find, hfind] at herror
    cases herror
    exact .account hnamed hnull
  | ok found =>
    cases found with
    | none =>
      rw [load, Settings.find, hfind] at herror
      cases herror
    | some path =>
      cases hholds : t.holds path with
      | false =>
        have hgiven : given.any (· ≠ "") = true := by
          by_contra hany
          rw [Bool.not_eq_true] at hany
          rw [holds_of_findPath? hany hfind] at hholds
          cases hholds
        rw [load, Settings.find, hfind] at herror
        simp only [Except.mapError, ok_bind, hgiven, hholds] at herror
        cases herror
        exact absurd rfl hf
      | true =>
        have hpath : IsAt e t given path := ⟨hfind, hholds⟩
        rw [load_of_isAt hpath] at herror
        cases hentries : readEntries t path with
        | error f' =>
          rw [hentries, error_bind] at herror
          cases herror
          exact obstacle_of_readEntries hpath hentries hf
        | ok entries =>
          rw [hentries, ok_bind] at herror
          obtain ⟨before, rules, after, s, rfl, hbefore, hnull, rfl⟩ :=
            ofEntries_eq_error_iff.mp ⟨herror, hf⟩
          exact .rulesFile hpath (readDocument_of_readEntries (by simp) hentries) hbefore hnull

-- A date that is in no calendar is well formed and has no value.
example : (Yaml.read "since: 2024-02-30".toList).isOk = false ∧
    (Yaml.read "since: 2024-02-29".toList).isOk = true := by
  decide +kernel

/-- A settings file that is no UTF-8 is not told as an error of settings. -/
theorem exists_load_eq_encoding : ∃ (t : FileTree) (u : Utf8Error),
    load ⟨[], []⟩ t (some "c.yaml") = .error (.encoding u) ∧
      ¬ (Failure.encoding u).IsOfSettings := by
  let t : FileTree := ⟨[(["c.yaml"], .file [0xFF])], []⟩
  have hpath : IsAt ⟨[], []⟩ t (some "c.yaml") "c.yaml" := ⟨rfl, by decide +kernel⟩
  have hread : t.read (Path.ofText "c.yaml").toText = .ok [0xFF] := by decide +kernel
  exact ⟨t, ⟨0, 1, 0xFF, .invalidStart⟩, load_of_obstacle (.encoding hpath hread rfl)⟩

end Settings

end RuleCalendar
