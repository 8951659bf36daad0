import RuleCalendar.Export.Request
import RuleCalendar.Proofs.Success

/-!
# Files saved in a tree

Directories that are made leave the files of a tree alone and its directories in place, so that what
a path led to it still leads to. Main statements: a file that is saved holds what was written, stands
in a directory, and is the only file that changes; where it cannot be saved no file changes.
-/

namespace RuleCalendar.FileTree

variable {t t' t'' : FileTree}

/-! ### Where paths lead -/

/-- Whether the text of a path can lead anywhere. -/
def IsUsable (path : String) : Prop :=
  Char.ofNat 0 ∉ path.toList ∧ path ≠ "" ∧ path.utf8ByteSize ≤ longestPath

private theorem locate_ok_iff {path : String} {l : Location} : t.locate path = .ok l ↔
    IsUsable path ∧ t.walk (t.start path) (pathNames path) = .ok l := by
  unfold locate IsUsable
  split
  · next hnull => simp [hnull]
  split
  · next hempty => simp [hempty]
  split
  · next hlong => simp [Nat.not_le.mpr hlong]
  · next hnull hempty hlong => simp [hnull, hempty, Nat.le_of_not_lt hlong]

/-- A name leads on only from a directory. -/
theorem directory_of_step_ok {l l' : Location} {name : String} (h : t.step l name = .ok l') :
    t.get? l = some .directory := by
  unfold step at h
  split at h
  · cases h
  · cases h
  · assumption

private theorem walk_cons_ok_iff {l l' : Location} {name : String} {names : List String} :
    t.walk l (name :: names) = .ok l' ↔ ∃ m, t.step l name = .ok m ∧ t.walk m names = .ok l' := by
  rw [walk]
  cases t.step l name <;> simp

/-- All names but the last lead to directories. -/
theorem exists_directory_of_walk_ok {l l' : Location} {names : List String}
    (h : t.walk l names = .ok l') {k : Nat} (hk : k < names.length) :
    ∃ d, t.walk l (names.take k) = .ok d ∧ t.get? d = some .directory := by
  induction names generalizing l k with
  | nil => exact absurd hk (Nat.not_lt_zero k)
  | cons name names ih =>
    obtain ⟨m, hstep, hwalk⟩ := walk_cons_ok_iff.mp h
    cases k with
    | zero => exact ⟨l, rfl, directory_of_step_ok hstep⟩
    | succ k =>
      obtain ⟨d, hd, hdirectory⟩ := ih hwalk (Nat.lt_of_succ_lt_succ hk)
      refine ⟨d, ?_, hdirectory⟩
      rw [List.take_succ_cons]
      exact walk_cons_ok_iff.mpr ⟨m, hstep, hd⟩

private theorem holdsDirectory_iff {path : String} : t.holdsDirectory path = true ↔
    ∃ l, t.locate path = .ok l ∧ t.get? l = some .directory := by
  unfold holdsDirectory look
  cases t.locate path with
  | error e => simp
  | ok l =>
    rw [ok_bind]
    cases hl : t.get? l with
    | none => simp [hl]
    | some e => cases e <;> simp [hl]

/-! ### Directories that stay -/

/-- Whether the directories of a tree are directories of another. -/
structure KeepsDirectories (t t' : FileTree) : Prop where
  working : t'.working = t.working
  directory : ∀ l, t.get? l = some .directory → t'.get? l = some .directory

private theorem KeepsDirectories.trans (h : KeepsDirectories t t') (h' : KeepsDirectories t' t'') :
    KeepsDirectories t t'' :=
  ⟨h'.working.trans h.working, fun l hl ↦ h'.directory l (h.directory l hl)⟩

section

variable (h : KeepsDirectories t t')
include h

private theorem KeepsDirectories.step_ok {l l' : Location} {name : String}
    (hstep : t.step l name = .ok l') : t'.step l name = .ok l' := by
  have hl := directory_of_step_ok hstep
  have hl' := h.directory l hl
  rw [step, hl] at hstep
  rw [step, hl']
  exact hstep

private theorem KeepsDirectories.walk_ok {l l' : Location} {names : List String}
    (hwalk : t.walk l names = .ok l') : t'.walk l names = .ok l' := by
  induction names generalizing l with
  | nil => exact hwalk
  | cons name names ih =>
    obtain ⟨m, hstep, hwalk⟩ := walk_cons_ok_iff.mp hwalk
    exact walk_cons_ok_iff.mpr ⟨m, h.step_ok hstep, ih hwalk⟩

/-- A path leads where it led. -/
theorem KeepsDirectories.locate_ok {path : String} {l : Location}
    (hlocate : t.locate path = .ok l) : t'.locate path = .ok l := by
  rw [locate_ok_iff] at hlocate ⊢
  have hstart : t'.start path = t.start path := by rw [start, start, h.working]
  rw [hstart]
  exact ⟨hlocate.1, h.walk_ok hlocate.2⟩

private theorem KeepsDirectories.holdsDirectory {path : String} (hholds : t.holdsDirectory path = true) :
    t'.holdsDirectory path = true := by
  obtain ⟨l, hlocate, hl⟩ := holdsDirectory_iff.mp hholds
  exact holdsDirectory_iff.mpr ⟨l, h.locate_ok hlocate, h.directory l hl⟩

end

/-- What is put where there is no directory takes none away. -/
theorem keepsDirectories_put {l : Location} (hl : t.get? l ≠ some .directory) (e : Entry) :
    KeepsDirectories t (t.put l e) where
  working := rfl
  directory m hm := by
    have hne : m ≠ l := by
      rintro rfl
      exact hl hm
    rw [get?_put_of_ne hne]
    exact hm

/-! ### Directories that are added -/

/-- Whether a tree has what another has, and more only of directories. -/
structure AddsDirectories (t t' : FileTree) : Prop extends KeepsDirectories t t' where
  file : ∀ l bytes, t'.get? l = some (.file bytes) ↔ t.get? l = some (.file bytes)

/-- A tree of files adds no directory to itself. -/
theorem AddsDirectories.refl (t : FileTree) : AddsDirectories t t :=
  ⟨⟨rfl, fun _ h ↦ h⟩, fun _ _ ↦ .rfl⟩

private theorem AddsDirectories.trans (h : AddsDirectories t t') (h' : AddsDirectories t' t'') :
    AddsDirectories t t'' :=
  ⟨h.toKeepsDirectories.trans h'.toKeepsDirectories,
    fun l bytes ↦ (h'.file l bytes).trans (h.file l bytes)⟩

private theorem ne_nil_of_not_directory {l : Location} (h : t.get? l ≠ some .directory) : l ≠ [] := by
  rintro rfl
  exact h rfl

private theorem addsDirectories_put {l : Location} (h : t.get? l = none) :
    AddsDirectories t (t.put l .directory) where
  toKeepsDirectories := keepsDirectories_put (by rw [h]; nofun) _
  file m bytes := by
    by_cases hm : m = l
    · subst hm
      rw [get?_put_self (ne_nil_of_not_directory (by rw [h]; nofun)), h]
      simp
    · rw [get?_put_of_ne hm]

/-- Whether a tree has a directory at a path that another may lack, and else what the other has. -/
structure HasDirectory (t t' : FileTree) (path : String) : Prop extends AddsDirectories t t' where
  holds : t'.holdsDirectory path = true

private theorem makeDirectory_ok {path : Path} (h : t.makeDirectory path = .ok t') :
    HasDirectory t t' path.toText := by
  unfold makeDirectory at h
  split at h
  · cases h
  · next l hlocate =>
    split at h
    · cases h
    · next hl =>
      cases h
      have hadds := addsDirectories_put hl
      refine ⟨hadds, holdsDirectory_iff.mpr ⟨l, hadds.locate_ok hlocate, ?_⟩⟩
      exact get?_put_self (ne_nil_of_not_directory (by rw [hl]; nofun))

private theorem ensureDirectory_ok {path : Path} (h : t.ensureDirectory path = .ok t') :
    HasDirectory t t' path.toText := by
  unfold ensureDirectory at h
  split at h
  · split at h
    · next hholds =>
      cases h
      exact ⟨.refl t, hholds.2⟩
    · cases h
  · exact makeDirectory_ok h

private theorem ensureBelow_adds (root : PathRoot) (names : List String) (t : FileTree) :
    AddsDirectories t (ensureBelow root names t).1 := by
  induction names generalizing t with
  | nil =>
    rw [ensureBelow]
    split
    · next hmade => exact (ensureDirectory_ok hmade).toAddsDirectories
    · exact .refl t
  | cons last before ih =>
    rw [ensureBelow]
    split
    · next hmade => exact (ensureDirectory_ok hmade).toAddsDirectories
    split
    · -- the last directory is made in the tree that the ones above it leave
      have hbefore := ih t
      split
      · next t' hbelow =>
        rw [hbelow] at hbefore
        split
        · next hmade => exact hbefore.trans (ensureDirectory_ok hmade).toAddsDirectories
        · exact hbefore
      · exact hbefore
    · exact .refl t

/-- Where nothing goes wrong the whole path leads to a directory. -/
theorem ensureBelow_ok {root : PathRoot} {names : List String}
    (h : ensureBelow root names t = (t', .ok ())) :
    t'.holdsDirectory (Path.mk root names.reverse).toText = true := by
  cases names with
  | nil =>
    rw [ensureBelow] at h
    split at h
    · next hmade =>
      cases h
      exact (ensureDirectory_ok hmade).holds
    · cases h
  | cons last before =>
    rw [ensureBelow] at h
    split at h
    · next hmade =>
      cases h
      exact (ensureDirectory_ok hmade).holds
    split at h
    · split at h
      · split at h
        · next hmade =>
          cases h
          exact (ensureDirectory_ok hmade).holds
        · cases h
      · next hfailed => exact absurd h (hfailed t')
    · cases h

private theorem ensureDirectories_adds (t : FileTree) (path : Path) :
    AddsDirectories t (t.ensureDirectories path).1 := ensureBelow_adds path.root _ t

private theorem ensureDirectories_ok {path : Path} (h : t.ensureDirectories path = (t', .ok ())) :
    t'.holdsDirectory path.toText = true := by
  have hholds := ensureBelow_ok h
  rwa [List.reverse_reverse] at hholds

/-- Where the directory is there nothing is made. -/
theorem ensureDirectories_of_holdsDirectory {path : Path}
    (h : t.holdsDirectory path.toText = true) : t.ensureDirectories path = (t, .ok ()) := by
  obtain ⟨l, hlocate, hl⟩ := holdsDirectory_iff.mp h
  have hensured : t.ensureDirectory path = .ok t := by
    rw [ensureDirectory, makeDirectory, hlocate]
    simp only [hl]
    rw [if_pos ⟨by decide, h⟩]
  have hbelow : ∀ names, t.ensureDirectory ⟨path.root, names.reverse⟩ = .ok t →
      ensureBelow path.root names t = (t, .ok ()) := by
    intro names hnames
    cases names with
    | nil =>
      rw [ensureBelow]
      simp only [List.reverse_nil] at hnames
      rw [hnames]
    | cons last before =>
      rw [ensureBelow]
      simp only [hnames]
  apply hbelow
  rwa [List.reverse_reverse]

/-! ### Files that are saved -/

/-- Whether a tree has a file with certain bytes where a path leads, below directories, and else the
files that another tree has. -/
structure IsSaved (t t' : FileTree) (path : Path) (bytes : List UInt8) : Prop where
  file : ∃ l, t'.locate path.toText = .ok l ∧ t'.get? l = some (.file bytes) ∧
    ∀ m ≠ l, ∀ other, t'.get? m = some (.file other) ↔ t.get? m = some (.file other)
  parent : t'.holdsDirectory path.parent.toText = true
  above : ∀ k < (pathNames path.toText).length, ∃ d,
    t'.walk (t'.start path.toText) ((pathNames path.toText).take k) = .ok d ∧
      t'.get? d = some .directory
  keeps : KeepsDirectories t t'

private theorem write_ok {path : String} {bytes : List UInt8} (h : t.write path bytes = .ok t') :
    ∃ l, t.locate path = .ok l ∧ t.get? l ≠ some .directory ∧ t' = t.put l (.file bytes) := by
  unfold write at h
  split at h
  · cases h
  · next l hlocate =>
    split at h
    · cases h
    · next hl =>
      cases h
      exact ⟨l, hlocate, hl, rfl⟩

/-- A file is saved, or nothing but directories is added. -/
theorem save_cases (t : FileTree) (path : Path) (content : List Char) :
    (∃ t', t.save path content = (t', .ok ()) ∧ IsSaved t t' path (Utf8.encode content)) ∨
      ∃ t' e, t.save path content = (t', .error e) ∧ AddsDirectories t t' := by
  have hadds := ensureDirectories_adds t path.parent
  rw [save]
  split
  · next t' e hmade =>
    rw [hmade] at hadds
    exact .inr ⟨t', e, rfl, hadds⟩
  · next t' hmade =>
    rw [hmade] at hadds
    split
    · next t'' hwrite =>
      obtain ⟨l, hlocate, hl, rfl⟩ := write_ok hwrite
      have hput := keepsDirectories_put hl (.file (Utf8.encode content))
      have hlocate' := hput.locate_ok hlocate
      refine .inl ⟨_, rfl, ⟨l, hlocate', get?_put_self (ne_nil_of_not_directory hl), ?_⟩,
        hput.holdsDirectory (ensureDirectories_ok hmade), ?_, hadds.toKeepsDirectories.trans hput⟩
      · intro m hm other
        rw [get?_put_of_ne hm]
        exact hadds.file m other
      · intro k hk
        exact exists_directory_of_walk_ok (locate_ok_iff.mp hlocate').2 hk
    · next e hwrite => exact .inr ⟨t', e, rfl, hadds⟩

/-- In a directory that is there, a file is saved unless a directory has its name. -/
theorem save_ok {path : Path} (hparent : t.holdsDirectory path.parent.toText = true) {l : Location}
    (hlocate : t.locate path.toText = .ok l) (hl : t.get? l ≠ some .directory)
    (content : List Char) :
    t.save path content = (t.put l (.file (Utf8.encode content)), .ok ()) := by
  have hwrite : t.write path.toText (Utf8.encode content) =
      .ok (t.put l (.file (Utf8.encode content))) := by
    rw [write, hlocate]
    cases hentry : t.get? l with
    | none => simp only [hentry]
    | some e =>
      cases e with
      | directory => exact absurd hentry hl
      | file _ => simp only [hentry]
  rw [save, ensureDirectories_of_holdsDirectory hparent]
  simp only [hwrite]

end RuleCalendar.FileTree
