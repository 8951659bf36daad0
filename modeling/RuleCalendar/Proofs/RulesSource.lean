import RuleCalendar.Proofs.Success
import RuleCalendar.Proofs.Text.Replace
import RuleCalendar.RulesSource

/-!
# The source of rules that is used

A request can give a text, ask for the sample and give a path. Main statement: a text with anything
beside it is refused. Else the first that is given is the source, or if none is the file of the
settings, or if they have none the sample, and the answer is that of this source alone: no other
stands in where its file is missing or cannot be read. Asking for the sample and giving a path are
two sources too, but not refused.
-/

namespace RuleCalendar

namespace RulesRequest

/-- The sources that are given, in the order in which they are looked at. -/
def given (r : RulesRequest) : List RulesSource :=
  (r.text.map RulesSource.text).toList ++ (if r.sample then [.sample] else []) ++
    ((r.path.filter (· ≠ "")).map RulesSource.file).toList

/-- The source of the settings, for requests that give none. -/
def fallback (settings : Settings) : RulesSource :=
  ((settings.rulesFile.filter (· ≠ "")).map RulesSource.file).getD .sample

/-- The source that comes first. -/
def first (r : RulesRequest) (settings : Settings) : RulesSource :=
  r.given.head?.getD (fallback settings)

/-- Whether a request is refused: it gives several sources, a text among them. -/
def IsRefused (r : RulesRequest) : Prop := 1 < r.given.length ∧ r.text.isSome

end RulesRequest

namespace RulesSource

variable {e : Environment} {t : FileTree} {settings : Settings} {r : RulesRequest}

/-- What is got from a source. -/
inductive Outcome (e : Environment) (t : FileTree) : RulesSource → Except Failure String → Prop
  /-- A text is what it is. -/
  | text (s : String) : Outcome e t (.text s) (.ok s)
  /-- The sample is what it is. -/
  | sample : Outcome e t .sample (.ok sampleText)
  /-- The home directory in the path is not found. -/
  | noHome {path : String} {h : HomeError} (hpath : (Path.ofText path).expandHome e = .error h) :
    Outcome e t (.file path) (.error (.home h))
  /-- The path leads to nothing. -/
  | missing {path : String} {p : Path} {problem : FileProblem}
    (hpath : (Path.ofText path).expandHome e = .ok p) (hlook : t.look p.toText = .error problem)
    (hproblem : problem ≠ .nameTooLong) :
    Outcome e t (.file path) (.error (.command (.rulesMissing p.toText)))
  /-- The path is too long to lead anywhere. -/
  | tooLong {path : String} {p : Path} (hpath : (Path.ofText path).expandHome e = .ok p)
    (hlook : t.look p.toText = .error .nameTooLong) :
    Outcome e t (.file path) (.error (.file ⟨.nameTooLong, p.toText⟩))
  /-- The path leads to a directory. -/
  | directory {path : String} {p : Path} (hpath : (Path.ofText path).expandHome e = .ok p)
    (hlook : t.look p.toText = .ok .directory) :
    Outcome e t (.file path) (.error (.file ⟨.isDirectory, p.toText⟩))
  /-- The file is no UTF-8. -/
  | encoding {path : String} {p : Path} {bytes : List UInt8} {u : Utf8Error}
    (hpath : (Path.ofText path).expandHome e = .ok p)
    (hlook : t.look p.toText = .ok (.file bytes)) (hdecode : Utf8.decode bytes = .error u) :
    Outcome e t (.file path) (.error (.encoding u))
  /-- The text of the file, with line feeds for the ends of its lines. -/
  | contents {path : String} {p : Path} {bytes : List UInt8} {text : List Char}
    (hpath : (Path.ofText path).expandHome e = .ok p)
    (hlook : t.look p.toText = .ok (.file bytes)) (hdecode : Utf8.decode bytes = .ok text) :
    Outcome e t (.file path) (.ok (String.ofList (Text.newlinePasses text)))

/-- A source has one outcome. -/
theorem Outcome.unique {source : RulesSource} {x y : Except Failure String}
    (hx : Outcome e t source x) (hy : Outcome e t source y) : x = y := by
  cases hx <;> cases hy <;> simp_all

/-- The only error for the user that a source gives is that its file is missing. -/
theorem Outcome.kind_eq {source : RulesSource} {c : CommandError}
    (h : Outcome e t source (.error (.command c))) : c.kind = .notFound := by
  cases h
  rfl

section

variable {path : String} {p : Path} (hpath : (Path.ofText path).expandHome e = .ok p)
include hpath

private theorem locate_of_look_eq_ok {entry : Entry} (hlook : t.look p.toText = .ok entry) :
    locate e t path = .ok p.toText := by
  simp only [locate, hpath, Except.mapError, ok_bind, hlook]
  rfl

private theorem locate_of_look_eq_error {problem : FileProblem} (hlook : t.look p.toText = .error problem)
    (hproblem : problem ≠ .nameTooLong) :
    locate e t path = .error (.command (.rulesMissing p.toText)) := by
  simp only [locate, hpath, Except.mapError, ok_bind, hlook]
  cases problem with
  | nameTooLong => exact absurd rfl hproblem
  | _ => rfl

private theorem locate_of_nameTooLong (hlook : t.look p.toText = .error .nameTooLong) :
    locate e t path = .error (.file ⟨.nameTooLong, p.toText⟩) := by
  simp only [locate, hpath, Except.mapError, ok_bind, hlook]
  rfl

end

/-- What is read from a source is its outcome. -/
theorem outcome_read (e : Environment) (t : FileTree) (source : RulesSource) :
    Outcome e t source (source.read e t) := by
  cases source with
  | text s => exact .text s
  | sample => exact .sample
  | file path =>
    cases hpath : (Path.ofText path).expandHome e with
    | error h =>
      have hlocate : locate e t path = .error (.home h) := by
        simp only [locate, hpath, Except.mapError, error_bind]
      simp only [read, hlocate, error_bind]
      exact .noHome hpath
    | ok p =>
      cases hlook : t.look p.toText with
      | error problem =>
        by_cases hproblem : problem = .nameTooLong
        · subst hproblem
          simp only [read, locate_of_nameTooLong hpath hlook, error_bind]
          exact .tooLong hpath hlook
        · simp only [read, locate_of_look_eq_error hpath hlook hproblem, error_bind]
          exact .missing hpath hlook hproblem
      | ok entry =>
        simp only [read, locate_of_look_eq_ok hpath hlook, ok_bind]
        cases entry with
        | directory =>
          simp only [FileTree.readText, FileTree.read, hlook, Except.mapError, error_bind]
          exact .directory hpath hlook
        | file bytes =>
          simp only [FileTree.readText, FileTree.read, hlook, Except.mapError, ok_bind]
          cases hdecode : Utf8.decode bytes with
          | error u => exact .encoding hpath hlook hdecode
          | ok text =>
            simp only [ok_bind, Text.plainNewlines_eq_passes]
            exact .contents hpath hlook hdecode

/-- A request that is refused has no source. -/
theorem choose_of_isRefused (h : r.IsRefused) :
    choose r settings = .error .conflictingSources := by
  obtain ⟨text, path, sample⟩ := r
  obtain ⟨hlength, htext⟩ := h
  obtain ⟨s, rfl⟩ := Option.isSome_iff_exists.mp htext
  unfold RulesRequest.given at hlength
  unfold choose
  generalize path.filter (· ≠ "") = p at hlength ⊢
  cases p <;> cases sample <;> simp at hlength ⊢

/-- A request that is not refused has the source that comes first. -/
theorem choose_of_not_isRefused (h : ¬ r.IsRefused) :
    choose r settings = .ok (r.first settings) := by
  obtain ⟨text, path, sample⟩ := r
  unfold RulesRequest.IsRefused RulesRequest.given at h
  unfold choose RulesRequest.first RulesRequest.given RulesRequest.fallback
  generalize path.filter (· ≠ "") = p at h ⊢
  generalize settings.rulesFile.filter (· ≠ "") = q
  cases text with
  | some s => cases p <;> cases sample <;> simp at h ⊢
  | none => cases p <;> cases sample <;> cases q <;> rfl

end RulesSource

namespace RulesRequest

/-- A request is refused if it gives several sources and a text is among them. Else it gives the
outcome of the first source that is given or set. -/
theorem read_outcome (e : Environment) (t : FileTree) (settings : Settings) (r : RulesRequest) :
    ((∃ c, r.read e t settings = .error (.command c) ∧ c.kind = .usage) ↔ r.IsRefused) ∧
      (r.IsRefused → r.read e t settings = .error (.command .conflictingSources)) ∧
      (¬ r.IsRefused →
        RulesSource.Outcome e t (r.first settings) (r.read e t settings)) := by
  have hrefused : r.IsRefused → r.read e t settings = .error (.command .conflictingSources) := by
    intro h
    simp only [read, RulesSource.choose_of_isRefused h, Except.mapError, error_bind]
  have houtcome : ¬ r.IsRefused →
      RulesSource.Outcome e t (r.first settings) (r.read e t settings) := by
    intro h
    simp only [read, RulesSource.choose_of_not_isRefused h, Except.mapError, ok_bind]
    exact RulesSource.outcome_read e t _
  refine ⟨⟨?_, fun h ↦ ⟨_, hrefused h, rfl⟩⟩, hrefused, houtcome⟩
  rintro ⟨c, hread, hkind⟩
  by_contra h
  have hc := houtcome h
  rw [hread] at hc
  rw [hc.kind_eq] at hkind
  cases hkind

/-- Where the file of the settings is missing from the home directory, the sample does not stand in
for it. -/
theorem read_outcome_missing :
    let e : Environment := ⟨[("HOME", "/home/ann")], []⟩
    let r : RulesRequest := {}
    let settings : Settings := { rulesFile := some "~/rules.txt" }
    ¬ r.IsRefused ∧ r.first settings = .file "~/rules.txt" ∧
      r.read e ⟨[], []⟩ settings = .error (.command (.rulesMissing "/home/ann/rules.txt")) := by
  intro e r settings
  have h : ¬ r.IsRefused := fun h ↦ by cases h.2
  have houtcome := (read_outcome e ⟨[], []⟩ settings r).2.2 h
  have hpath : (Path.ofText "~/rules.txt").expandHome e =
      .ok ⟨.slash, ["home", "ann", "rules.txt"]⟩ := by
    decide +kernel
  have hlook : FileTree.look ⟨[], []⟩ "/home/ann/rules.txt" = .error .notFound := by
    decide +kernel
  exact ⟨h, rfl, houtcome.unique (.missing hpath hlook nofun)⟩

/-- The sample and a path are two sources, and the path is passed over without a word, although there
is something in the sample. -/
theorem exists_read_eq_sampleText : ∃ r : RulesRequest, 1 < r.given.length ∧ sampleText ≠ "" ∧
    ∀ e t settings, r.read e t settings = .ok sampleText :=
  ⟨{ path := some "r.txt", sample := true }, by decide, by decide +kernel, fun _ _ _ ↦ rfl⟩

end RulesRequest

end RuleCalendar
