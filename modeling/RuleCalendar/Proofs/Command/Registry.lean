import Mathlib.Data.List.Induction
import RuleCalendar.Command.Registry

/-!
# Arguments go to the next command

A command is declared at a place: outside groups, in a group, or in a group that was replaced. It
takes the arguments that wait, so that the steps of declaring commands fall into rounds, each of
which ends with the declaration of a command. Main statement: the command of a round has the name and
the action of its step and exactly the arguments of its round, the last one first, those after the
last round wait, and what is found under a name is what was declared under it last.
-/

namespace RuleCalendar

variable {α : Type}

/-! ### Items by their names -/

/-- Under a name stands the item that was put there, and under other names what stood there. -/
theorem find?_putNamed {β : Type} (name : β → String) (item : β) (xs : List β) (n : String) :
    (putNamed name item xs).find? (fun x ↦ name x = n) =
      if n = name item then some item else xs.find? fun x ↦ name x = n := by
  induction xs with
  | nil =>
    by_cases hn : n = name item
    · simp [putNamed, hn]
    · simp [putNamed, hn, Ne.symm hn]
  | cons x xs ih =>
    by_cases hx : name x = name item
    · by_cases hn : n = name item
      · simp [putNamed, hx, hn]
      · simp [putNamed, hx, hn, Ne.symm hn]
    · by_cases hn : n = name item
      · subst hn
        simpa [putNamed, hx] using ih
      · by_cases hxn : name x = n
        · simp [putNamed, hn, hxn]
        · simpa [putNamed, hx, hn, hxn] using ih

/-- The argument that a step declares. -/
def Step.argument? : Step α → Option Argument
  | .argument a => some a
  | _ => none

namespace Registry

/-! ### Places -/

/-- Where a command is declared. -/
inductive Place where
  /-- Outside groups. -/
  | outside
  /-- In the group of a name. -/
  | group (name : String)
  /-- In a group that was replaced. -/
  | former (index : Nat)
  deriving DecidableEq, Repr

/-- A command and the place where it is declared. -/
structure Registration (α : Type) where
  /-- The place. -/
  place : Place
  /-- The command. -/
  command : Command α

/-- The step that declares a command of this name and action at this place. -/
def Registration.step (reg : Registration α) : Step α :=
  match reg.place with
  | .outside => .command reg.command.name reg.command.action
  | .group group => .groupCommand group reg.command.name reg.command.action
  | .former index => .formerGroupCommand index reg.command.name reg.command.action

/-- The command that is found under a name at a place. -/
def command? (r : Registry α) (place : Place) (name : String) : Option (Command α) :=
  match place with
  | .outside => r.commands.find? fun c ↦ c.name = name
  | .group group => (r.group? group).bind fun g ↦ g.commands.find? fun c ↦ c.name = name
  | .former index => r.former[index]?.bind fun g ↦ g.commands.find? fun c ↦ c.name = name

/-- The command that a step declares, and where. -/
def registration? (r : Registry α) : Step α → Option (Registration α)
  | .command name action => some ⟨.outside, r.declared name action⟩
  | .groupCommand group name action =>
    (r.group? group).map fun _ ↦ ⟨.group group, r.declared name action⟩
  | .formerGroupCommand index name action =>
    r.former[index]?.map fun _ ↦ ⟨.former index, r.declared name action⟩
  | .argument _ | .group _ => none

/-- The commands that steps declare, and where, in their order. -/
def registrations (r : Registry α) : List (Step α) → List (Registration α)
  | [] => []
  | step :: steps => (r.registration? step).toList ++ (r.apply step).registrations steps

variable {r : Registry α} {step : Step α}

private theorem group?_putNamed (r : Registry α) (g : Group α) (former : List (Group α))
    (waiting : List Argument) (name : String) :
    Registry.group? { r with waiting, groups := putNamed Group.name g r.groups, former } name =
      if name = g.name then some g else r.group? name :=
  find?_putNamed Group.name g r.groups name

private theorem name_of_group? {g : Group α} {name : String} (h : r.group? name = some g) :
    g.name = name := by
  simpa using List.find?_some h

/-! ### One step -/

/-- Arguments wait until a command is declared, which takes all of them, the last one first. -/
theorem waiting_apply (r : Registry α) (step : Step α) :
    (r.apply step).waiting =
      if (r.registration? step).isSome then [] else r.waiting ++ step.argument?.toList := by
  cases step with
  | argument a => simp [apply, registration?, Step.argument?]
  | command name action => simp [apply, registration?]
  | group name => simp [apply, registration?, Step.argument?]
  | groupCommand group name action =>
    cases hg : r.group? group <;> simp [apply, registration?, Step.argument?, hg]
  | formerGroupCommand index name action =>
    cases hg : r.former[index]? <;> simp [apply, registration?, Step.argument?, hg]

/-- A declared command has the name and the action of the step, stands where the step says, and takes
the waiting arguments, the last one first. -/
theorem eq_of_registration {reg : Registration α} (h : r.registration? step = some reg) :
    step = reg.step ∧ reg.command.arguments = r.waiting.reverse := by
  cases step with
  | argument a => cases h
  | command name action =>
    cases h
    exact ⟨rfl, rfl⟩
  | group name => cases h
  | groupCommand group name action =>
    obtain ⟨g, -, rfl⟩ := Option.map_eq_some_iff.mp h
    exact ⟨rfl, rfl⟩
  | formerGroupCommand index name action =>
    obtain ⟨g, -, rfl⟩ := Option.map_eq_some_iff.mp h
    exact ⟨rfl, rfl⟩

/-- A declared command is found under its name at its place, and no other command is touched. -/
theorem command?_apply_of_registration {reg : Registration α} (h : r.registration? step = some reg)
    (place : Place) (name : String) :
    (r.apply step).command? place name =
      if place = reg.place ∧ name = reg.command.name then some reg.command
      else r.command? place name := by
  cases step with
  | argument a => cases h
  | group name => cases h
  | command name' action =>
    cases h
    cases place with
    | outside => simp [apply, command?, find?_putNamed]
    | group g => simp [apply, command?, group?]
    | former i => simp [apply, command?]
  | groupCommand group name' action =>
    obtain ⟨g, hg, rfl⟩ := Option.map_eq_some_iff.mp h
    cases place with
    | outside => simp [apply, command?, hg]
    | group g' =>
      by_cases hsame : g' = group
      · subst hsame
        simp [apply, command?, hg, group?_putNamed, Group.put, name_of_group? hg, find?_putNamed]
      · simp [apply, command?, hg, group?_putNamed, Group.put, name_of_group? hg, hsame]
    | former i => simp [apply, command?, hg]
  | formerGroupCommand index name' action =>
    obtain ⟨g, hg, rfl⟩ := Option.map_eq_some_iff.mp h
    cases place with
    | outside => simp [apply, command?, hg]
    | group g' => simp [apply, command?, hg, group?]
    | former i =>
      by_cases hsame : i = index
      · subst hsame
        have hi := (List.getElem?_eq_some_iff.mp hg).1
        simp [apply, command?, Group.put, find?_putNamed, hi]
      · simp [apply, command?, hg, hsame, List.getElem?_set_ne (Ne.symm hsame)]

/-- A step that declares no command and no group leaves the commands as they are. -/
theorem command?_apply_of_quiet (h : r.registration? step = none) (hgroup : ∀ g, step ≠ .group g)
    (place : Place) (name : String) :
    (r.apply step).command? place name = r.command? place name := by
  cases step with
  | argument a => cases place <;> rfl
  | command name' action => cases h
  | group g => exact absurd rfl (hgroup g)
  | groupCommand group name' action =>
    have hg : r.group? group = none := Option.map_eq_none_iff.mp h
    simp [apply, hg]
  | formerGroupCommand index name' action =>
    have hg : r.former[index]? = none := Option.map_eq_none_iff.mp h
    simp [apply, hg]

/-- A group begins without commands. -/
theorem command?_apply_group_self (r : Registry α) (g name : String) :
    (r.apply (.group g)).command? (.group g) name = none := by
  simp [apply, command?, group?_putNamed]

/-- A group that is replaced keeps its commands. -/
theorem command?_apply_group_former (r : Registry α) (g name : String) :
    (r.apply (.group g)).command? (.former r.former.length) name = r.command? (.group g) name := by
  cases hg : r.group? g <;> simp [apply, command?, hg]

/-- Declaring a group does not touch other groups, nor what is outside groups. -/
theorem command?_apply_group_of_ne (r : Registry α) {g : String} {place : Place}
    (hgroup : place ≠ .group g) (hformer : ∀ i, place = .former i → i < r.former.length)
    (name : String) : (r.apply (.group g)).command? place name = r.command? place name := by
  cases place with
  | outside => rfl
  | group g' =>
    have hne : g' ≠ g := fun heq ↦ hgroup (congrArg Place.group heq)
    simp [apply, command?, group?_putNamed, hne]
  | former i => simp [apply, command?, List.getElem?_append_left (hformer i rfl)]

private theorem length_former_le_apply (r : Registry α) (step : Step α) :
    r.former.length ≤ (r.apply step).former.length := by
  cases step with
  | argument a => exact Nat.le_refl _
  | command name action => exact Nat.le_refl _
  | group g => simp [apply]
  | groupCommand group name action => cases hg : r.group? group <;> simp [apply, hg]
  | formerGroupCommand index name action => cases hg : r.former[index]? <;> simp [apply, hg]

/-! ### Many steps -/

@[simp] private theorem applyAll_nil (r : Registry α) : r.applyAll [] = r := rfl

@[simp] private theorem applyAll_cons (r : Registry α) (step : Step α) (steps : List (Step α)) :
    r.applyAll (step :: steps) = (r.apply step).applyAll steps := rfl

private theorem applyAll_append (r : Registry α) (steps steps' : List (Step α)) :
    r.applyAll (steps ++ steps') = (r.applyAll steps).applyAll steps' :=
  List.foldl_append

private theorem registrations_append (r : Registry α) (steps steps' : List (Step α)) :
    r.registrations (steps ++ steps') =
      r.registrations steps ++ (r.applyAll steps).registrations steps' := by
  induction steps generalizing r with
  | nil => rfl
  | cons step steps ih => simp [registrations, ih]

/-- Where no command is declared, all arguments wait. -/
theorem waiting_applyAll (steps : List (Step α)) (r : Registry α)
    (h : r.registrations steps = []) :
    (r.applyAll steps).waiting = r.waiting ++ steps.filterMap Step.argument? := by
  induction steps generalizing r with
  | nil => simp
  | cons step steps ih =>
    obtain ⟨hstep, hsteps⟩ := List.append_eq_nil_iff.mp h
    have hnone : r.registration? step = none := by simpa using hstep
    rw [applyAll_cons, ih _ hsteps, waiting_apply, hnone]
    cases hargument : step.argument? <;> simp [hargument]

/-- The command that was declared last under a name at a place. -/
def latest (regs : List (Registration α)) (place : Place) (name : String) : Option (Command α) :=
  (regs.reverse.find? fun reg ↦ reg.place = place ∧ reg.command.name = name).map (·.command)

private theorem latest_append (regs regs' : List (Registration α)) (place : Place) (name : String) :
    latest (regs ++ regs') place name =
      (latest regs' place name).or (latest regs place name) := by
  rw [latest, List.reverse_append, List.find?_append, Option.map_or]
  rfl

/-- A place that steps leave where it is: its group is not replaced by them. -/
def Stays (r : Registry α) (steps : List (Step α)) : Place → Prop
  | .outside => True
  | .group g => .group g ∉ steps
  | .former i => i < r.former.length

/-- What is found under a name at a place is what was declared there last, or else what was found
there before. -/
theorem command?_applyAll (steps : List (Step α)) (r : Registry α) {place : Place}
    (hstays : r.Stays steps place) (name : String) :
    (r.applyAll steps).command? place name =
      (latest (r.registrations steps) place name).or (r.command? place name) := by
  induction steps generalizing r with
  | nil => rfl
  | cons step steps ih =>
    have hstays' : (r.apply step).Stays steps place := by
      cases place with
      | outside => trivial
      | group g => exact fun hmem ↦ hstays (List.mem_cons_of_mem _ hmem)
      | former i => exact Nat.lt_of_lt_of_le hstays (length_former_le_apply r step)
    rw [applyAll_cons, ih _ hstays', registrations, latest_append, Option.or_assoc]
    congr 1
    cases hreg : r.registration? step with
    | some reg =>
      rw [command?_apply_of_registration hreg]
      by_cases hsame : place = reg.place ∧ name = reg.command.name
      · obtain ⟨rfl, rfl⟩ := hsame
        simp [latest]
      · have hother : ¬ (reg.place = place ∧ reg.command.name = name) :=
          fun h ↦ hsame ⟨h.1.symm, h.2.symm⟩
        simp [latest, hsame, hother]
    | none =>
      by_cases hgroup : ∃ g, step = .group g
      · obtain ⟨g, rfl⟩ := hgroup
        refine command?_apply_group_of_ne r ?_ ?_ name
        · rintro rfl
          exact hstays List.mem_cons_self
        · rintro i rfl
          exact hstays
      · exact command?_apply_of_quiet hreg (fun g hg ↦ hgroup ⟨g, hg⟩) place name

private theorem isSome_group?_apply (r : Registry α) (step : Step α) (g : String) :
    ((r.apply step).group? g).isSome ↔ (r.group? g).isSome ∨ step = .group g := by
  cases step with
  | argument a => simp [apply, group?]
  | command name action => simp [apply, group?]
  | group name =>
    by_cases hsame : g = name
    · simp [apply, group?_putNamed, hsame]
    · simp [apply, group?_putNamed, hsame, Ne.symm hsame]
  | groupCommand group name action =>
    cases hg : r.group? group with
    | none => simp [apply, hg]
    | some g' =>
      have hname := name_of_group? hg
      by_cases hsame : g = group
      · subst hsame
        simp [apply, hg, group?_putNamed, Group.put, hname]
      · simp [apply, hg, group?_putNamed, Group.put, hname, hsame]
  | formerGroupCommand index name action =>
    cases hg : r.former[index]? <;> simp [apply, group?, hg]

/-- The groups are those that were declared. -/
theorem isSome_group?_applyAll (steps : List (Step α)) (r : Registry α) (g : String) :
    ((r.applyAll steps).group? g).isSome ↔ (r.group? g).isSome ∨ .group g ∈ steps := by
  induction steps generalizing r with
  | nil => simp
  | cons step steps ih =>
    rw [applyAll_cons, ih, isSome_group?_apply, List.mem_cons, or_assoc]
    simp only [eq_comm]

/-! ### Rounds -/

/-- Steps up to one that declares a command. -/
structure Round (α : Type) where
  /-- The steps before it. -/
  before : List (Step α)
  /-- The step that declares a command. -/
  step : Step α
  /-- The command that it declares, and where. -/
  registration : Registration α

/-- The steps of a round. -/
def Round.steps (ρ : Round α) : List (Step α) := ρ.before ++ [ρ.step]

/-- A round declares one command, with its last step. This command has the name and the action of the
step, where the step says, and the arguments of the round, the last one first. -/
structure IsRound (r : Registry α) (ρ : Round α) : Prop where
  quiet : r.registrations ρ.before = []
  registers : (r.applyAll ρ.before).registration? ρ.step = some ρ.registration
  declares : ρ.step = ρ.registration.step
  arguments : ρ.registration.command.arguments = (ρ.before.filterMap Step.argument?).reverse

/-- Rounds one after the other. -/
def AreRounds (r : Registry α) : List (Round α) → Prop
  | [] => True
  | ρ :: rounds => r.IsRound ρ ∧ (r.applyAll ρ.steps).AreRounds rounds

/-- After a round no arguments wait. -/
theorem IsRound.waiting {ρ : Round α} (h : r.IsRound ρ) : (r.applyAll ρ.steps).waiting = [] := by
  rw [Round.steps, applyAll_append, applyAll_cons, applyAll_nil, waiting_apply, h.registers]
  rfl

private theorem IsRound.registrations {ρ : Round α} (h : r.IsRound ρ) :
    r.registrations ρ.steps = [ρ.registration] := by
  rw [Round.steps, registrations_append, h.quiet]
  simp [Registry.registrations, h.registers]

private theorem IsRound.filterMap_argument? {ρ : Round α} (h : r.IsRound ρ) :
    ρ.steps.filterMap Step.argument? = ρ.registration.command.arguments.reverse := by
  have hstep : ρ.step.argument? = none := by
    have hreg := h.registers
    cases hs : ρ.step with
    | argument a =>
      rw [hs] at hreg
      cases hreg
    | _ => rfl
  simp [Round.steps, h.arguments, hstep]

private theorem applyAll_flatMap_cons (r : Registry α) (ρ : Round α) (rounds : List (Round α)) :
    r.applyAll ((ρ :: rounds).flatMap Round.steps) =
      (r.applyAll ρ.steps).applyAll (rounds.flatMap Round.steps) := by
  rw [List.flatMap_cons, applyAll_append]

private theorem areRounds_concat {rounds : List (Round α)} {ρ : Round α} :
    r.AreRounds (rounds ++ [ρ]) ↔
      r.AreRounds rounds ∧ (r.applyAll (rounds.flatMap Round.steps)).IsRound ρ := by
  induction rounds generalizing r with
  | nil => simp [AreRounds]
  | cons ρ' rounds ih =>
    rw [List.cons_append, AreRounds, ih, AreRounds, applyAll_flatMap_cons, and_assoc]

private theorem AreRounds.waiting {rounds : List (Round α)} (h : r.AreRounds rounds)
    (hr : r.waiting = []) : (r.applyAll (rounds.flatMap Round.steps)).waiting = [] := by
  induction rounds generalizing r with
  | nil => exact hr
  | cons ρ rounds ih =>
    rw [applyAll_flatMap_cons]
    exact ih h.2 h.1.waiting

private theorem AreRounds.registrations {rounds : List (Round α)} (h : r.AreRounds rounds) :
    r.registrations (rounds.flatMap Round.steps) = rounds.map (·.registration) := by
  induction rounds generalizing r with
  | nil => rfl
  | cons ρ rounds ih =>
    rw [List.flatMap_cons, registrations_append, h.1.registrations, ih h.2]
    rfl

private theorem AreRounds.filterMap_argument? {rounds : List (Round α)} (h : r.AreRounds rounds) :
    (rounds.flatMap Round.steps).filterMap Step.argument? =
      rounds.flatMap fun ρ ↦ ρ.registration.command.arguments.reverse := by
  induction rounds generalizing r with
  | nil => rfl
  | cons ρ rounds ih =>
    rw [List.flatMap_cons, List.filterMap_append, h.1.filterMap_argument?, ih h.2,
      List.flatMap_cons]

/-- Steps fall into rounds and the steps after the last of them, which declare no command. -/
theorem exists_rounds (r : Registry α) (hr : r.waiting = []) (steps : List (Step α)) :
    ∃ (rounds : List (Round α)) (recent : List (Step α)),
      steps = rounds.flatMap Round.steps ++ recent ∧ r.AreRounds rounds ∧
        (r.applyAll (rounds.flatMap Round.steps)).registrations recent = [] := by
  induction steps using List.reverseRecOn with
  | nil => exact ⟨[], [], rfl, trivial, rfl⟩
  | append_singleton steps step ih =>
    obtain ⟨rounds, recent, rfl, hrounds, hrecent⟩ := ih
    cases hreg : ((r.applyAll (rounds.flatMap Round.steps)).applyAll recent).registration? step with
    | none =>
      refine ⟨rounds, recent ++ [step], by rw [List.append_assoc], hrounds, ?_⟩
      rw [registrations_append, hrecent]
      simp [Registry.registrations, hreg]
    | some reg =>
      have hround : (r.applyAll (rounds.flatMap Round.steps)).IsRound ⟨recent, step, reg⟩ := by
        obtain ⟨hdeclares, harguments⟩ := eq_of_registration hreg
        refine ⟨hrecent, hreg, hdeclares, ?_⟩
        rw [harguments, waiting_applyAll _ _ hrecent, hrounds.waiting hr, List.nil_append]
      refine ⟨rounds ++ [⟨recent, step, reg⟩], [], ?_, areRounds_concat.mpr ⟨hrounds, hround⟩, rfl⟩
      simp [Round.steps]

/-- What is found under a name is what was declared under it last: outside groups, in a group since
the group itself was declared last, and in a group that was replaced since then, or else before. -/
structure KeepsLatest (steps : List (Step α)) : Prop where
  outside : ∀ name,
    (ofSteps steps).command? .outside name = latest (registrations {} steps) .outside name
  groups : ∀ g, ((ofSteps steps).group? g).isSome ↔ .group g ∈ steps
  group : ∀ before g after, steps = before ++ .group g :: after → .group g ∉ after → ∀ name,
    (ofSteps steps).command? (.group g) name =
      latest ((ofSteps (before ++ [.group g])).registrations after) (.group g) name
  former : ∀ before g after, steps = before ++ .group g :: after → .group g ∈ before → ∀ name,
    let place := Place.former (ofSteps before).former.length
    (ofSteps steps).command? place name =
      (latest ((ofSteps (before ++ [.group g])).registrations after) place name).or
        ((ofSteps before).command? (.group g) name)

private theorem ofSteps_append (steps steps' : List (Step α)) :
    ofSteps (steps ++ steps') = (ofSteps steps).applyAll steps' :=
  applyAll_append {} steps steps'

private theorem keepsLatest (steps : List (Step α)) : KeepsLatest steps where
  outside name := by
    have hstays : Stays ({} : Registry α) steps .outside := trivial
    rw [ofSteps, command?_applyAll steps {} hstays]
    exact Option.or_none
  groups g := by
    rw [ofSteps, isSome_group?_applyAll]
    simp [group?]
  group := by
    rintro before g after rfl hafter name
    have hstays : ((ofSteps before).apply (.group g)).Stays after (.group g) := hafter
    rw [List.append_cons, ofSteps_append, ofSteps_append, applyAll_cons, applyAll_nil,
      command?_applyAll after _ hstays, command?_apply_group_self, Option.or_none]
  former := by
    intro before g after hsteps hbefore name place
    have hgroup : ((ofSteps before).group? g).isSome :=
      (isSome_group?_applyAll before {} g).mpr (.inr hbefore)
    have hstays : ((ofSteps before).apply (.group g)).Stays after place := by
      obtain ⟨g', hg'⟩ := Option.isSome_iff_exists.mp hgroup
      simp [place, Stays, apply, hg']
    rw [hsteps, List.append_cons, ofSteps_append, ofSteps_append, applyAll_cons, applyAll_nil,
      command?_applyAll after _ hstays, command?_apply_group_former]

/-- Steps fall into rounds. The command that ends a round is that of its last step and has the
arguments of the round, the last one first; the arguments after the last round wait; each argument
that was declared is in one of these lists, once; declaring a group leaves those that wait; and what
is found under a name is what was declared under it last. -/
theorem ofSteps_rounds (steps : List (Step α)) :
    ∃ (rounds : List (Round α)) (recent : List (Step α)),
      steps = rounds.flatMap Round.steps ++ recent ∧ AreRounds {} rounds ∧
        (ofSteps (rounds.flatMap Round.steps)).registrations recent = [] ∧
        registrations {} steps = rounds.map (·.registration) ∧
        (ofSteps steps).waiting = recent.filterMap Step.argument? ∧
        steps.filterMap Step.argument? =
          (rounds.flatMap fun ρ ↦ ρ.registration.command.arguments.reverse) ++
            (ofSteps steps).waiting ∧
        (∀ g, (ofSteps (steps ++ [.group g])).waiting = (ofSteps steps).waiting) ∧
        KeepsLatest steps := by
  obtain ⟨rounds, recent, hsteps, hrounds, hquiet⟩ := exists_rounds {} rfl steps
  have hrecent : (ofSteps (rounds.flatMap Round.steps)).registrations recent = [] := hquiet
  have hwaiting : (ofSteps steps).waiting = recent.filterMap Step.argument? := by
    rw [hsteps, ofSteps_append, waiting_applyAll _ _ hrecent, ofSteps, hrounds.waiting rfl,
      List.nil_append]
  refine ⟨rounds, recent, hsteps, hrounds, hrecent, ?_, hwaiting, ?_, ?_, keepsLatest steps⟩
  · rw [hsteps, registrations_append, hrounds.registrations, hquiet, List.append_nil]
  · rw [hwaiting, hsteps, List.filterMap_append, hrounds.filterMap_argument?]
  · intro g
    rw [ofSteps_append]
    rfl

/-- A command of a group that was replaced takes the arguments; the new group has no commands. -/
example (a b : Argument) :
    let r : Registry Nat := ofSteps
      [.argument a, .group "export", .argument b, .group "export", .formerGroupCommand 0 "csv" 1]
    r.command? (.former 0) "csv" = some ⟨"csv", [b, a], 1⟩ ∧
      r.command? (.group "export") "csv" = none ∧ r.waiting = [] :=
  ⟨rfl, rfl, rfl⟩

end Registry

end RuleCalendar
