import BqnEdit.Eval.Output

/-!
# Running a program

A run evaluates source text with fresh system values for the input file. Its outputs
are the shown values, in the order shown, followed by the result when there is one,
or by the error. Values are written with a formatter and errors as `Error: ` and the
message.

The evaluator is a parameter: the editor runs programs with whatever interpreter it
is given. A scripted evaluator, which plays a fixed list of steps against the system
values, makes runs reproducible.
-/

namespace BqnEdit.Eval

/-- An evaluator (`Runtime::evaluate` in `runtime`, lines 162–166): from source text and system
    values to a result, no result, or an error, with the system values after the evaluation. -/
abbrev Evaluator := String → SystemValues → Except EvalError (Option Value) × SystemValues

/-- How an error is written (`Runtime::format_error` in `runtime`, lines 170–172). -/
def formatError (e : EvalError) : String := "Error: " ++ e.message

/-- The outputs of a run (`run` in `runtime`, lines 180–205). -/
def run (eval : Evaluator) (format : Value → String) (source : String)
    (input : Option InputFile) : List Output :=
  let (result, sys) := eval source (SystemValues.ofInput input)
  let shown := sys.shown.map fun v => ({ text := format v } : Output)
  match result with
  | .ok (some v) => shown ++ [{ text := format v }]
  | .ok none => shown
  | .error e => shown ++ [{ text := formatError e, error := true }]

/-- A step of a scripted evaluation. -/
inductive ScriptStep where
  /-- Show a value. -/
  | display (v : Value)
  /-- Read an input line into the result. -/
  | getLine
  /-- Set the sample rate and make it the result; a bad rate ends the evaluation. -/
  | setSampleRate (v : Value)
  /-- Make the sample rate the result. -/
  | sampleRate
  /-- Make a value the result. -/
  | result (v : Value)
  /-- Clear the result. -/
  | noResult
  /-- End the evaluation with an error. -/
  | fail (message : String)
  deriving Inhabited

/-- Play script steps against system values, with the result so far. -/
def playScript : List ScriptStep → Option Value → SystemValues →
    Except EvalError (Option Value) × SystemValues
  | [], r, s => (.ok r, s)
  | .display v :: rest, r, s => playScript rest r (s.showValue v)
  | .getLine :: rest, _, s =>
    let (v, s) := s.getLine
    playScript rest (some v) s
  | .setSampleRate v :: rest, _, s =>
    match s.setSampleRate v with
    | .ok (x, s) => playScript rest (some (.number x)) s
    | .error e => (.error e, s)
  | .sampleRate :: rest, _, s => playScript rest (some (.number s.sampleRate)) s
  | .result v :: rest, _, s => playScript rest (some v) s
  | .noResult :: rest, _, s => playScript rest none s
  | .fail m :: _, _, s => (.error ⟨m⟩, s)

/-- An evaluator that ignores the source and plays a script. -/
def scripted (steps : List ScriptStep) : Evaluator :=
  fun _ s => playScript steps none s

end BqnEdit.Eval
