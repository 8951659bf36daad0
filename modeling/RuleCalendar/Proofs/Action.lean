import RuleCalendar.Action

/-!
# How actions end

An action that is done in a session ends in one way and leaves one session. What actions are made
of is done one after the other: an action that stops is the last one.
-/

namespace RuleCalendar

namespace Action

variable {α β : Type}

/-- How an action that is done in a session ends, and the session that it leaves. -/
def outcome (act : Action α) (w : World) (s : Session) : Except Stop α × Session := act w s

/-- The world is read without a trace in the session. -/
@[simp] theorem outcome_read (w : World) (s : Session) : outcome read w s = (.ok w, s) := rfl

/-- The session is read without a trace in it. -/
@[simp] theorem outcome_get (w : World) (s : Session) : outcome get w s = (.ok s, s) := rfl

/-- A change of the session is made once. -/
@[simp] theorem outcome_modify (f : Session → Session) (w : World) (s : Session) :
    outcome (modify f) w s = (.ok (), f s) := rfl

/-- An action that goes on from another is done in the session that the other leaves. -/
theorem outcome_bind (act : Action α) (f : α → Action β) (w : World) (s : Session) :
    (act >>= f).outcome w s =
      match act.outcome w s with
      | (.ok a, s) => (f a).outcome w s
      | (.error e, s) => (.error e, s) := by
  simp only [outcome, bind, ReaderT.bind, ExceptT.bind, ExceptT.mk, StateT.bind]
  cases act w s with
  | mk result s' => cases result <;> rfl

/-- After an action that succeeds, the next one goes on in the session it leaves. -/
theorem outcome_bind_ok {act : Action α} {w : World} {s s' : Session} {a : α}
    (h : act.outcome w s = (.ok a, s')) (f : α → Action β) :
    (act >>= f).outcome w s = (f a).outcome w s' := by
  rw [outcome_bind, h]

/-- A result that is a value is given as it is. -/
@[simp] theorem outcome_ofResult_ok (a : α) (w : World) (s : Session) :
    (ofResult (.ok a)).outcome w s = (.ok a, s) := rfl

/-- A complaint is written after what the standard error stream holds. -/
@[simp] theorem outcome_complain (text : List Char) (w : World) (s : Session) :
    (complain text).outcome w s =
      (.ok (), { s with stderr := s.stderr ++ String.ofList text }) := rfl

/-- Writing log lines changes nothing but the standard error stream. -/
theorem exists_outcome_log (l : LogLine) (w : World) (s : Session) :
    ∃ text, (log l).outcome w s = (.ok (), { s with stderr := s.stderr ++ text }) := by
  rw [log, outcome_bind, outcome_read]
  simp only
  split
  · exact ⟨_, outcome_complain _ w s⟩
  · exact ⟨"", by rw [String.append_empty]; rfl⟩

/-- Logging succeeds and only adds to the standard error stream. -/
theorem exists_outcome_forM_log (ls : List LogLine) (w : World) (s : Session) :
    ∃ text, (ls.forM log).outcome w s = (.ok (), { s with stderr := s.stderr ++ text }) := by
  induction ls generalizing s with
  | nil => exact ⟨"", by rw [String.append_empty]; rfl⟩
  | cons l ls ih =>
    obtain ⟨text, hlog⟩ := exists_outcome_log l w s
    obtain ⟨texts, hlogs⟩ := ih { s with stderr := s.stderr ++ text }
    refine ⟨text ++ texts, ?_⟩
    have hcons : (l :: ls).forM log = log l >>= fun _ ↦ ls.forM log := rfl
    rw [hcons, outcome_bind_ok hlog, hlogs, String.append_assoc]

/-- What is done after a stop is done in the session that the stopped action leaves. -/
theorem outcome_tryCatch (act : Action α) (handle : Stop → Action α) (w : World) (s : Session) :
    (tryCatch act handle).outcome w s =
      match act.outcome w s with
      | (.ok a, s) => (.ok a, s)
      | (.error e, s) => (handle e).outcome w s := by
  simp only [outcome, tryCatch, tryCatchThe, MonadExceptOf.tryCatch, ExceptT.tryCatch, ExceptT.mk,
    bind, StateT.bind]
  cases act w s with
  | mk result s' => cases result <;> rfl

/-- A function is applied to the value that an action gives, if it gives one. -/
theorem outcome_map (f : α → β) (act : Action α) (w : World) (s : Session) :
    (f <$> act).outcome w s = ((act.outcome w s).1.map f, (act.outcome w s).2) := by
  rw [← bind_pure_comp, outcome_bind]
  cases act.outcome w s with
  | mk result s' => cases result <;> rfl

/-- An attempt keeps what was done before a failure; an interruption is no result of it. -/
theorem outcome_attempt (act : Action α) (w : World) (s : Session) :
    act.attempt.outcome w s =
      match act.outcome w s with
      | (.ok a, s) => (.ok (.ok a), s)
      | (.error (.failure f), s) => (.ok (.error f), s)
      | (.error (.interrupted message), s) => (.error (.interrupted message), s) := by
  rw [attempt, outcome_tryCatch, outcome_map]
  cases act.outcome w s with
  | mk result s' =>
    cases result with
    | ok a => rfl
    | error e => cases e <;> rfl

end Action

end RuleCalendar
