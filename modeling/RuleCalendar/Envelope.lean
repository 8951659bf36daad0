import RuleCalendar.Action

/-!
# Envelopes

An operation's outcome in an envelope: a status, a payload if the operation succeeded, and otherwise
a message and a code. The producer of a command writes the payload of a success; of anything else
the message is written, and the code becomes the exit code.
-/

namespace RuleCalendar

/-- What is told of an operation that did not succeed. -/
structure Diagnostics where
  /-- What went wrong. -/
  message : Option Value := none
  /-- The exit code. -/
  code : Option Value := none
  deriving Repr

/-- The outcome of an operation. -/
structure Envelope (α : Type) where
  /-- How the operation ended. -/
  status : String
  /-- What a successful operation gives. -/
  payload : Option α := none
  /-- What is told of an operation that did not succeed. -/
  diagnostics : Diagnostics := {}
  deriving Repr

namespace Envelope

variable {α : Type}

/-- The status of an operation that succeeded. -/
def successStatus : String := "success"

/-- The status of an operation that failed. -/
def errorStatus : String := "error"

/-- The exit code of an operation that did not succeed and says nothing else. -/
def usualCode : Int := 2

/-- Whether the operation succeeded. -/
def isSuccess (e : Envelope α) : Bool := e.status = successStatus

/-- The exit code that the outcome ends in. -/
def exitCode (e : Envelope α) : Except NumberError Int :=
  if e.isSuccess then .ok 0 else (e.diagnostics.code.getD (.int usualCode)).toInteger

/-- The envelope of a result or a failure. -/
def ofResult : Except Failure α → Envelope α
  | .ok a => { status := successStatus, payload := some a }
  | .error f =>
    { status := errorStatus
      diagnostics := { message := some (.text f.message), code := f.code?.map Value.int } }

/-- What is written about an operation that did not succeed. -/
def errorText (e : Envelope α) : List Char :=
  match e.diagnostics.message.filter Value.isTruthy with
  | some message => "Error: ".toList ++ message.shown ++ ['\n']
  | none => []

/-- Writes the payload of a success or what is told of anything else. -/
def produce (e : Envelope α) (success : Option α → Action Unit) : Action Unit :=
  if e.isSuccess then success e.payload else Action.complain e.errorText

/-- The producer that knows no payload. -/
def noProducer (_ : Option α) : Action Unit := throw (.failure .unimplemented)

end Envelope

/-- The outcome of an action in an envelope. -/
def Action.process {α : Type} (act : Action α) : Action (Envelope α) := do
  return Envelope.ofResult (← act.attempt)

/-- Does an action, writes its outcome, and gives the exit code. -/
def Action.runPipeline {α : Type} (act : Action α) (success : Option α → Action Unit) :
    Action Int := do
  let envelope ← act.process
  envelope.produce success
  ofResult (envelope.exitCode.mapError .number)

end RuleCalendar
