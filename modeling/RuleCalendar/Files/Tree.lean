import RuleCalendar.Files.Path
import RuleCalendar.Text.Quoted

/-!
# File trees

A tree of directories and files with a working directory. What is in it has a location, the names
that lead there from the root directory. The text of a path is walked name by name: each name is
looked for in a directory, two dots lead to the directory above, and an empty name or a single dot,
such as after a slash at the end, stays where it is but asks for a directory too.

Main statements: after a file is written it is read back, and what is at other locations stays.
-/

namespace RuleCalendar

/-- The names that lead from the root directory to a place in a tree. -/
abbrev Location := List String

/-- What is at a location. -/
inductive Entry where
  /-- A directory. -/
  | directory
  /-- A file with its bytes. -/
  | file (bytes : List UInt8)
  deriving DecidableEq, Repr

/-- Why a path cannot be used. -/
inductive FileProblem where
  /-- Nothing is there. -/
  | notFound
  /-- Something is there already. -/
  | alreadyExists
  /-- A file is where a directory should be. -/
  | notDirectory
  /-- A directory is where a file should be. -/
  | isDirectory
  /-- A name on the way is longer than names may be, or the whole path is. -/
  | nameTooLong
  /-- The path holds the character of code zero. -/
  | nullCharacter
  deriving DecidableEq, Repr

/-- A path that cannot be used. -/
structure FileError where
  /-- Why not. -/
  problem : FileProblem
  /-- The text of the path. -/
  path : String
  deriving DecidableEq, Repr

namespace FileProblem

/-- The number and the wording by which the system reports a problem. -/
def report? : FileProblem → Option (Nat × String)
  | notFound => some (2, "No such file or directory")
  | alreadyExists => some (17, "File exists")
  | notDirectory => some (20, "Not a directory")
  | isDirectory => some (21, "Is a directory")
  | nameTooLong => some (36, "File name too long")
  | nullCharacter => none

end FileProblem

/-- The text of a file error. -/
def FileError.message (e : FileError) : String :=
  match e.problem.report? with
  | some (number, wording) =>
    let path := String.ofList (Text.quoted e.path.toList)
    s!"[Errno {number}] {wording}: {path}"
  | none => "embedded null byte"

/-- Directories and files, and a working directory. -/
structure FileTree where
  /-- What is at the locations of the tree, each location at most once. -/
  entries : List (Location × Entry) := []
  /-- The location of the working directory. -/
  working : Location := []
  deriving Repr

namespace FileTree

/-- What is at a location. The root directory is always there. -/
def get? (t : FileTree) (l : Location) : Option Entry :=
  if l = [] then some .directory else t.entries.lookup l

/-- The tree with something put at a location, in place of what was there. -/
def put (t : FileTree) (l : Location) (e : Entry) : FileTree :=
  { t with entries := (l, e) :: t.entries.filter fun x ↦ x.1 ≠ l }

/-- The most bytes of a name. -/
def longestName : Nat := 255

/-- The most bytes of a path. -/
def longestPath : Nat := 4095

/-- The location of a name below another location, which has to be a directory. -/
def step (t : FileTree) (l : Location) (name : String) : Except FileProblem Location :=
  match t.get? l with
  | none => .error .notFound
  | some (.file _) => .error .notDirectory
  | some .directory =>
    if name = "" ∨ name = "." then .ok l
    else if name = ".." then .ok l.dropLast
    else if longestName < name.utf8ByteSize then .error .nameTooLong
    else .ok (l ++ [name])

/-- The location to which names lead. -/
def walk (t : FileTree) : Location → List String → Except FileProblem Location
  | l, [] => .ok l
  | l, name :: names => do t.walk (← t.step l name) names

/-- The location where the text of a path begins. -/
def start (t : FileTree) (path : String) : Location :=
  if path.startsWith "/" then [] else t.working

/-- The names in the text of a path, in order. -/
def pathNames (path : String) : List String := (Text.splitAt '/' path.toList).map String.ofList

/-- The location that the text of a path leads to, whether or not anything is there. -/
def locate (t : FileTree) (path : String) : Except FileProblem Location :=
  if Char.ofNat 0 ∈ path.toList then .error .nullCharacter
  else if path = "" then .error .notFound
  else if longestPath < path.utf8ByteSize then .error .nameTooLong
  else t.walk (t.start path) (pathNames path)

/-- What the text of a path leads to. -/
def look (t : FileTree) (path : String) : Except FileProblem Entry := do
  match t.get? (← t.locate path) with
  | some e => .ok e
  | none => .error .notFound

/-- Whether the text of a path leads to anything. -/
def holds (t : FileTree) (path : String) : Bool :=
  match t.look path with
  | .ok _ => true
  | .error _ => false

/-- Whether the text of a path leads to a directory. -/
def holdsDirectory (t : FileTree) (path : String) : Bool :=
  match t.look path with
  | .ok .directory => true
  | _ => false

/-- The bytes of a file. -/
def read (t : FileTree) (path : String) : Except FileError (List UInt8) :=
  match t.look path with
  | .ok (.file bytes) => .ok bytes
  | .ok .directory => .error ⟨.isDirectory, path⟩
  | .error problem => .error ⟨problem, path⟩

/-- The tree with new bytes in a file, which is made if only it is missing. -/
def write (t : FileTree) (path : String) (bytes : List UInt8) : Except FileError FileTree :=
  match t.locate path with
  | .error problem => .error ⟨problem, path⟩
  | .ok l =>
    match t.get? l with
    | some .directory => .error ⟨.isDirectory, path⟩
    | _ => .ok (t.put l (.file bytes))

/-- The tree with one more directory. -/
def makeDirectory (t : FileTree) (path : Path) : Except FileError FileTree :=
  match t.locate path.toText with
  | .error problem => .error ⟨problem, path.toText⟩
  | .ok l =>
    match t.get? l with
    | some _ => .error ⟨.alreadyExists, path.toText⟩
    | none => .ok (t.put l .directory)

/-- The tree with a directory at a path, which may be there already. -/
def ensureDirectory (t : FileTree) (path : Path) : Except FileError FileTree :=
  match t.makeDirectory path with
  | .error e =>
    if e.problem ≠ .notFound ∧ t.holdsDirectory path.toText then .ok t else .error e
  | made => made

/-- The tree with the directories of a path, given by its last name first, and what went wrong. The
directories above are made where they are missed. -/
def ensureBelow (root : PathRoot) : List String → FileTree → FileTree × Except FileError Unit
  | [], t =>
    match t.ensureDirectory ⟨root, []⟩ with
    | .ok t => (t, .ok ())
    | .error e => (t, .error e)
  | last :: before, t =>
    let path : Path := ⟨root, (last :: before).reverse⟩
    match t.ensureDirectory path with
    | .ok t => (t, .ok ())
    | .error e =>
      if e.problem = .notFound then
        match ensureBelow root before t with
        | (t, .ok ()) =>
          match t.ensureDirectory path with
          | .ok t => (t, .ok ())
          | .error e => (t, .error e)
        | failed => failed
      else (t, .error e)

/-- The tree with all directories of a path, and what went wrong. -/
def ensureDirectories (t : FileTree) (path : Path) : FileTree × Except FileError Unit :=
  ensureBelow path.root path.names.reverse t

/-- What is put at a location below the root is found there. -/
@[simp] theorem get?_put_self {t : FileTree} {l : Location} {e : Entry} (h : l ≠ []) :
    (t.put l e).get? l = some e := by
  simp [get?, put, h]

private theorem lookup_filter_ne {l m : Location} (h : m ≠ l) (xs : List (Location × Entry)) :
    (xs.filter fun x ↦ x.1 ≠ l).lookup m = xs.lookup m := by
  induction xs with
  | nil => rfl
  | cons x xs ih =>
    obtain ⟨k, e⟩ := x
    by_cases hk : k = l
    · subst hk
      have hm : (m == k) = false := by simpa using h
      simpa [List.lookup_cons, hm] using ih
    · by_cases hm : m = k
      · simp [hk, hm]
      · have hb : (m == k) = false := by simpa using hm
        simpa [hk, List.lookup_cons, hb] using ih

/-- What is put at a location changes no other location. -/
theorem get?_put_of_ne {t : FileTree} {l m : Location} {e : Entry} (h : m ≠ l) :
    (t.put l e).get? m = t.get? m := by
  have hb : (m == l) = false := by simpa using h
  unfold get? put
  split
  · rfl
  · simpa [List.lookup_cons, hb] using lookup_filter_ne h t.entries

end FileTree

end RuleCalendar
