import ComponentManifest.Json.Printer
import ComponentManifest.Report.Event

/-!
# Answers

How the result of an operation is given to a caller. A failure becomes an answer too, in the shape
that the operation's results have, and is reported: expected faults as warnings with their message,
all others as errors.
-/

namespace ComponentManifest

open Text (ofString)

/-- The shape of an operation's answers. -/
inductive AnswerShape where
  | text
  | object
  | json
  | list
  deriving DecidableEq, Repr

namespace AnswerShape

/-- The shape with the given name; any other name means text. -/
def ofName (name : Text) : AnswerShape :=
  if name = ofString "dict" then .object
  else if name = ofString "json" then .json
  else if name = ofString "list" then .list
  else .text

/-- The answer for a failure. -/
def failure (shape : AnswerShape) (message : Text) : Json :=
  let v : Json := .obj [(ofString "error", .str (ofString "Operation failed: " ++ message))]
  match shape with
  | .text => .str (ofString "Error: " ++ message)
  | .object => v
  | .json => .str (v.line .ascii)
  | .list => .arr [v]

end AnswerShape

/-- The report of a failure. -/
def failureEvent (operation message : Text) (expected : Bool) : Event :=
  if expected then .operationFailed operation message else .operationBroke operation

/-- The answer to a request, and all that was reported. -/
def answer (operation : Text) (shape : AnswerShape) (o : Outcome Json) : List Event × Json :=
  match o.result with
  | .ok v => (o.events, v)
  | .error e =>
    (o.events ++ [failureEvent operation e.message e.isExpected], shape.failure e.message)

end ComponentManifest
