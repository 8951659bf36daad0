import RuleCalendar.Proofs.Export.ContentLine

/-!
# Reading components

A component begins and ends with a line that names it; between them stand its properties and the
components that are part of it. Main statement: the lines of a component are read as the component,
and inside another one they add it to the parts of the other.
-/

namespace RuleCalendar.ICalendar

/-- A calendar, or what a calendar is made of. -/
structure Component where
  /-- What kind of component it is. -/
  name : List Char
  /-- What is said of it. -/
  properties : List ContentLine := []
  /-- The components that are part of it. -/
  parts : List Component := []

namespace Component

/-- The values of the properties with a name, in order. -/
def values (c : Component) (name : String) : List (List Char) :=
  (c.properties.filter (·.name = name)).map (·.value)

/-- The component with more properties. -/
def withProperties (c : Component) (ps : List ContentLine) : Component :=
  { c with properties := c.properties ++ ps }

/-- The component with more parts. -/
def withParts (c : Component) (cs : List Component) : Component := { c with parts := c.parts ++ cs }

@[simp] private theorem withProperties_nil (c : Component) : c.withProperties [] = c := by
  cases c
  simp [withProperties]

@[simp] private theorem withProperties_withProperties (c : Component) (ps qs : List ContentLine) :
    (c.withProperties ps).withProperties qs = c.withProperties (ps ++ qs) := by
  simp [withProperties]

@[simp] private theorem withParts_nil (c : Component) : c.withParts [] = c := by
  cases c
  simp [withParts]

@[simp] private theorem withParts_withParts (c : Component) (cs ds : List Component) :
    (c.withParts cs).withParts ds = c.withParts (cs ++ ds) := by
  simp [withParts]

/-! ### The reader -/

/-- What a content line makes of the components that have begun and not ended, innermost first. -/
def step (begun : List Component) (line : ContentLine) : Option (List Component) :=
  if line.name = "BEGIN" then some ({ name := line.value } :: begun)
  else if line.name = "END" then
    match begun with
    | c :: outer :: begun =>
      if c.name = line.value then some (outer.withParts [c] :: begun) else none
    | _ => none
  else
    match begun with
    | c :: begun => some (c.withProperties [line] :: begun)
    | [] => none

/-- The component that content lines are, if they are one. -/
def read (lines : List ContentLine) : Option Component := do
  match ← lines.foldlM step [{ name := [] }] with
  | [⟨_, [], [c]⟩] => some c
  | _ => none

/-! ### Blocks -/

/-- Whether content lines are those of a component, wherever it begins. -/
def IsBlock (lines : List ContentLine) (c : Component) : Prop :=
  ∀ outer begun, lines.foldlM step (outer :: begun) = some (outer.withParts [c] :: begun)

/-- A block is read as its component. -/
theorem IsBlock.read_eq {lines : List ContentLine} {c : Component} (h : IsBlock lines c) :
    read lines = some c := by
  rw [read, h]
  rfl

/-- Lines that neither begin nor end a component are properties of the innermost one. -/
theorem foldlM_properties {ps : List ContentLine}
    (hps : ∀ p ∈ ps, p.name ∉ ["BEGIN", "END"]) (c : Component)
    (begun : List Component) :
    ps.foldlM step (c :: begun) = some (c.withProperties ps :: begun) := by
  induction ps generalizing c with
  | nil => simp
  | cons p ps ih =>
    obtain ⟨hp, hps⟩ := List.forall_mem_cons.mp hps
    simp only [List.mem_cons, List.not_mem_nil, or_false, not_or] at hp
    have hstep : step (c :: begun) p = some (c.withProperties [p] :: begun) := by
      unfold step
      rw [if_neg hp.1, if_neg hp.2]
    rw [List.foldlM_cons, hstep, Option.bind_eq_bind, Option.bind_some, ih hps]
    simp

/-- Blocks in a row are parts of the innermost component. -/
theorem foldlM_blocks {blocks : List (List ContentLine)} {cs : List Component}
    (h : List.Forall₂ IsBlock blocks cs) (outer : Component) (begun : List Component) :
    blocks.flatten.foldlM step (outer :: begun) = some (outer.withParts cs :: begun) := by
  induction h generalizing outer with
  | nil => simp
  | cons hblock _ ih =>
    rw [List.flatten_cons, List.foldlM_append, hblock, Option.bind_eq_bind, Option.bind_some, ih]
    simp

/-- The lines of a component, its properties before its parts. -/
theorem isBlock {name : List Char} {ps : List ContentLine} {blocks : List (List ContentLine)}
    {cs : List Component} (hps : ∀ p ∈ ps, p.name ∉ ["BEGIN", "END"])
    (hblocks : List.Forall₂ IsBlock blocks cs) :
    IsBlock ({ name := "BEGIN", value := name } :: ps ++ blocks.flatten ++
      [{ name := "END", value := name }])
      { name := name, properties := ps, parts := cs } := by
  intro outer begun
  have hbegin : step (outer :: begun) { name := "BEGIN", value := name } =
      some ({ name := name } :: outer :: begun) := rfl
  have hbody : (({ name := name } : Component).withProperties ps).withParts cs =
      { name := name, properties := ps, parts := cs } := by
    simp [withProperties, withParts]
  have hend (c : Component) (hc : c.name = name) :
      step (c :: outer :: begun) { name := "END", value := name } =
        some (outer.withParts [c] :: begun) := by
    have hne : "END" ≠ "BEGIN" := by decide
    unfold step
    rw [if_neg hne, if_pos rfl]
    exact if_pos hc
  simp only [List.cons_append, List.append_assoc, List.foldlM_cons, List.foldlM_append, hbegin,
    foldlM_properties hps, foldlM_blocks hblocks, hbody, hend, List.foldlM_nil,
    Option.bind_eq_bind, Option.bind_some, Option.pure_def]

end Component

end RuleCalendar.ICalendar
