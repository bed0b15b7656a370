/-!
# Log events

The program reports conditions that do not stop it, such as a settings file that
cannot be parsed, as log events. An event has a level, the module it comes from, a
message and named fields; it is written on one line as
`LEVEL target: message name=value ...`.
-/

namespace BqnEdit.Log

/-- The severity of an event. -/
inductive Level where
  | warn
  | info
  deriving DecidableEq, Repr, Inhabited

/-- The name a level is written with. -/
def Level.name : Level → String
  | .warn => "WARN"
  | .info => "INFO"

/-- An event: its level, where it comes from, what happened, and named values. -/
structure Event where
  level : Level := .warn
  target : String
  message : String
  fields : List (String × String) := []
  deriving DecidableEq, Repr, Inhabited

/-- The line an event is written as. -/
def Event.render (e : Event) : String :=
  e.level.name ++ " " ++ e.target ++ ": " ++ e.message ++
    String.join (e.fields.map fun (k, v) => " " ++ k ++ "=" ++ v)

end BqnEdit.Log
