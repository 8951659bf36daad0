import RuleCalendar.Envelope
import RuleCalendar.Proofs.Action

/-!
# Operations and their exit codes

An operation is done, its outcome is written, and an exit code is given. Main statement: the payload
of a success is written and the exit code is zero; of a failure a line on the standard error stream
tells what its text is, unless it has none, and the exit code is its own. So the exit code is zero
after a success and after a failure that carries the code zero, which no command error does.
-/

namespace RuleCalendar

namespace Failure

/-- The line that tells of a failure; there is none if the failure has no text. -/
def line (f : Failure) : String :=
  if f.message = "" then "" else "Error: " ++ f.message ++ "\n"

/-- The exit code that a code asks for: an integer or a truth value, or else two. -/
def exitCodeOf : Option Value → Int
  | some (.scalar (.int n)) => n
  | some (.scalar (.bool b)) => if b then 1 else 0
  | _ => 2

/-- A failure of any text and code ends in that code. -/
theorem getD_code?_other (message : String) (code : Option Value) :
    (other message code).code?.getD 2 = exitCodeOf code := by
  rcases code with _ | (s | items | entries)
  · rfl
  · cases s <;> rfl
  · rfl
  · rfl

end Failure

private theorem CommandError.exitCode_pos (e : CommandError) : 0 < e.exitCode := by
  unfold exitCode
  cases e.kind <;> decide

namespace Envelope

variable {α : Type}

private theorem isSuccess_ofResult_ok (a : α) : (ofResult (.ok a)).isSuccess = true := rfl

private theorem payload_ofResult_ok (a : α) : (ofResult (.ok a)).payload = some a := rfl

private theorem isSuccess_ofResult_error (f : Failure) :
    (ofResult (.error f) : Envelope α).isSuccess = false := rfl

private theorem exitCode_ofResult_ok (a : α) : (ofResult (.ok a)).exitCode = .ok 0 := rfl

private theorem exitCode_ofResult_error (f : Failure) :
    (ofResult (.error f) : Envelope α).exitCode = .ok (f.code?.getD 2) := by
  rw [exitCode, isSuccess_ofResult_error, if_neg Bool.false_ne_true, ofResult]
  cases f.code? <;> rfl

private theorem errorText_ofResult_error (f : Failure) :
    String.ofList (ofResult (.error f) : Envelope α).errorText = f.line := by
  have htruthy : ∀ m : String, Value.isTruthy (.text m) = !m.isEmpty := fun _ ↦ rfl
  have hshown : ∀ m : String, Value.shown (.text m) = m.toList := fun _ ↦ rfl
  simp only [errorText, ofResult, Option.filter_some, htruthy, Failure.line]
  generalize f.message = m
  by_cases hempty : m = ""
  · rw [if_pos hempty, hempty]
    rfl
  · rw [if_neg hempty, if_pos (by simpa using hempty)]
    simp only [hshown, String.ofList_append, String.ofList_toList]

end Envelope

namespace Action

variable {α : Type}

/-- A failure is put into the envelope; an interruption goes through. -/
theorem outcome_process (act : Action α) (w : World) (s : Session) :
    act.process.outcome w s =
      match act.outcome w s with
      | (.ok a, s) => (.ok (.ofResult (.ok a)), s)
      | (.error (.failure f), s) => (.ok (.ofResult (.error f)), s)
      | (.error (.interrupted message), s) => (.error (.interrupted message), s) := by
  rw [process, outcome_bind, outcome_attempt]
  cases act.outcome w s with
  | mk result s' =>
    cases result with
    | ok a => rfl
    | error e => cases e <;> rfl

/-- An operation that succeeds ends as the writing of its payload does; one that fails ends in a
code, whatever would have been written of a payload. -/
theorem outcome_runPipeline (act : Action α) (success : Option α → Action Unit) (w : World)
    (s : Session) : (act.runPipeline success).outcome w s =
      match act.outcome w s with
      | (.ok a, s) =>
        match (success (some a)).outcome w s with
        | (written, s) => (written.map fun _ ↦ 0, s)
      | (.error (.failure f), s) => (.ok (f.code?.getD 2), { s with stderr := s.stderr ++ f.line })
      | (.error (.interrupted message), s) => (.error (.interrupted message), s) := by
  rw [runPipeline, outcome_bind, outcome_process]
  cases act.outcome w s with
  | mk result s' =>
    cases result with
    | ok a =>
      simp only [Envelope.produce, Envelope.isSuccess_ofResult_ok, Envelope.exitCode_ofResult_ok,
        Envelope.payload_ofResult_ok, if_true, outcome_bind]
      cases (success (some a)).outcome w s' with
      | mk written s'' => cases written <;> rfl
    | error e =>
      cases e with
      | failure f =>
        simp only [Envelope.produce, Envelope.isSuccess_ofResult_error, Bool.false_eq_true,
          if_false, Envelope.exitCode_ofResult_error, outcome_bind, outcome_complain,
          Envelope.errorText_ofResult_error]
        rfl
      | interrupted message => rfl

/-- The payload of a success is written and the exit code is zero unless the writing stops; a failure
is told on the standard error stream if it has a text, and its code is the exit code, or else two,
whatever its text and its code are. The exit code is zero after a success and after a failure of the
code zero, which is no command error. -/
theorem runPipeline_eq_zero_iff (act : Action α) (success : Option α → Action Unit) (w : World)
    (s : Session) :
    ((act.runPipeline success).outcome w s =
      match act.outcome w s with
      | (.ok a, s) =>
        match (success (some a)).outcome w s with
        | (written, s) => (written.map fun _ ↦ 0, s)
      | (.error (.failure f), s) => (.ok (f.code?.getD 2), { s with stderr := s.stderr ++ f.line })
      | (.error (.interrupted message), s) => (.error (.interrupted message), s)) ∧
    ((∃ s', (act.runPipeline success).outcome w s = (.ok 0, s')) ↔
      (∃ a s₁ s₂, act.outcome w s = (.ok a, s₁) ∧
        (success (some a)).outcome w s₁ = (.ok (), s₂)) ∨
      ∃ f s₁, act.outcome w s = (.error (.failure f), s₁) ∧ f.code? = some 0) ∧
    (∀ message code, (Failure.other message code).code?.getD 2 = Failure.exitCodeOf code ∧
      (Failure.other message code).line =
        if message = "" then "" else "Error: " ++ message ++ "\n") ∧
    ∀ e : CommandError, (Failure.command e).code? ≠ some 0 := by
  refine ⟨outcome_runPipeline act success w s, ?_, ?_, ?_⟩
  · rw [outcome_runPipeline]
    cases act.outcome w s with
    | mk result s₁ =>
      cases result with
      | ok a =>
        cases hwritten : (success (some a)).outcome w s₁ with
        | mk written s₂ =>
          cases written with
          | ok =>
            refine iff_of_true ⟨s₂, ?_⟩ (.inl ⟨a, s₁, s₂, rfl, hwritten⟩)
            simp only [hwritten]
            rfl
          | error e => simp [hwritten, Except.map]
      | error e =>
        cases e with
        | failure f => cases hcode : f.code? <;> simp [hcode]
        | interrupted message => simp
  · exact fun message code ↦ ⟨Failure.getD_code?_other message code, rfl⟩
  · intro e hzero
    have hcode : e.exitCode = 0 := Option.some.inj hzero
    have hpos := e.exitCode_pos
    omega

/-- A failure that carries the code zero ends like a success, and one without a text is not told. -/
theorem exists_runPipeline_zero_of_failure :
    let zero : Action Nat := throw (.failure (.other "r" (some (.int 0))))
    let untold : Action Nat := throw (.failure (.other "" none))
    let success : Option Nat → Action Unit := fun _ ↦ pure ()
    let w : World := ⟨⟨[], []⟩, Moment.clock ⟨⟨738000, by decide, by decide⟩, 12, 0, 0⟩, {}⟩
    ¬ ((∃ s, (zero.runPipeline success).outcome w {} = (.ok 0, s)) ↔
        ∃ n s, zero.outcome w {} = (.ok n, s)) ∧
      untold.outcome w {} = (.error (.failure (.other "" none)), {}) ∧
      (untold.runPipeline success).outcome w {} = (.ok 2, {}) := by
  intro zero untold success w
  refine ⟨?_, rfl, ?_⟩
  · intro hiff
    have hzero : (zero.runPipeline success).outcome w {} = (.ok 0, { stderr := "Error: r\n" }) := by
      rw [outcome_runPipeline]
      rfl
    obtain ⟨n, s, hstop⟩ := hiff.mp ⟨_, hzero⟩
    cases hstop
  · rw [outcome_runPipeline]
    rfl

end Action

end RuleCalendar
