import RuleCalendar.Command.Argument

/-!
# Commands and their arguments

Commands are declared step by step. Arguments come before the command that takes them: they wait
until the next command is declared, which takes all that wait, the last one first. A command may
belong to a group. Declaring a name again replaces what was declared under it, in its place. A group
that is replaced is out of reach of the program, but whoever holds it can still declare commands
of it.
-/

namespace RuleCalendar

/-- A command. -/
structure Command (α : Type) where
  /-- The word that calls it. -/
  name : String
  /-- Its arguments. -/
  arguments : List Argument
  /-- What it does. -/
  action : α
  deriving Repr

/-- Commands under one name. -/
structure Group (α : Type) where
  /-- The word that calls it. -/
  name : String
  /-- Its commands. -/
  commands : List (Command α)
  deriving Repr

/-- The commands that are declared, and the arguments that wait for one. -/
structure Registry (α : Type) where
  /-- The arguments that wait, in the order in which they were declared. -/
  waiting : List Argument := []
  /-- The commands outside groups. -/
  commands : List (Command α) := []
  /-- The groups. -/
  groups : List (Group α) := []
  /-- The groups that were replaced, in the order in which they were. -/
  former : List (Group α) := []
  deriving Repr

/-- A step of declaring commands. -/
inductive Step (α : Type) where
  /-- Declare an argument. -/
  | argument (a : Argument)
  /-- Declare a command. -/
  | command (name : String) (action : α)
  /-- Declare a group. -/
  | group (name : String)
  /-- Declare a command of a group. -/
  | groupCommand (group name : String) (action : α)
  /-- Declare a command of a group that was replaced. -/
  | formerGroupCommand (index : Nat) (name : String) (action : α)
  deriving Repr

/-- The group with one more command. -/
def Group.put {α : Type} (g : Group α) (c : Command α) : Group α :=
  { g with commands := putNamed Command.name c g.commands }

namespace Registry

variable {α : Type}

/-- The command that takes the waiting arguments. -/
def declared (r : Registry α) (name : String) (action : α) : Command α :=
  ⟨name, r.waiting.reverse, action⟩

/-- The group of a name. -/
def group? (r : Registry α) (name : String) : Option (Group α) :=
  r.groups.find? fun g ↦ g.name = name

/-- The registry after a step. A command of a group that there is not changes nothing. -/
def apply (r : Registry α) : Step α → Registry α
  | .argument a => { r with waiting := r.waiting ++ [a] }
  | .command name action =>
    { r with
      waiting := []
      commands := putNamed Command.name (r.declared name action) r.commands }
  | .group name =>
    { r with
      groups := putNamed Group.name ⟨name, []⟩ r.groups
      former := r.former ++ (r.group? name).toList }
  | .groupCommand group name action =>
    match r.group? group with
    | none => r
    | some g =>
      { r with
        waiting := []
        groups := putNamed Group.name (g.put (r.declared name action)) r.groups }
  | .formerGroupCommand index name action =>
    match r.former[index]? with
    | none => r
    | some g =>
      { r with
        waiting := []
        former := r.former.set index (g.put (r.declared name action)) }

/-- The registry after steps. -/
def applyAll (r : Registry α) (steps : List (Step α)) : Registry α := steps.foldl apply r

/-- The registry that steps declare. -/
def ofSteps (steps : List (Step α)) : Registry α := applyAll {} steps

end Registry

end RuleCalendar
