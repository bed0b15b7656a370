import BqnEdit.Eval.Value

/-!
# System values of an evaluation

An evaluation may read lines of an input file one at a time (`•GetLine`), set the
sample rate of sound output (`•SetSampleRate`) and show values (`•Show`). The input
file's lines are its pieces between line feeds, without the empty piece after a
final line feed; once they are used up, reading gives the null character. A sample
rate must be a number from 1 up to, but not including, 2^32, and is rounded to the
nearest integer, halves away from zero.
-/

namespace BqnEdit.Eval

/-- An error of an evaluation, with its message (`EvalError` in `runtime`, lines 61–63). -/
structure EvalError where
  message : String
  deriving DecidableEq, Repr, Inhabited

/-- A file given to a program as its input (`InputFile` in `runtime`, lines 76–79). -/
structure InputFile where
  fileName : String
  content : String
  deriving DecidableEq, Repr, Inhabited

/-- The lines of an input file (`InputFile::lines` in `runtime`, lines 90–96): one empty piece after
    a final line feed is dropped. -/
def InputFile.lines (f : InputFile) : List String :=
  let pieces := (f.content.toList.splitOn '\n').map String.ofList
  if pieces.getLast? = some "" then pieces.dropLast else pieces

/-- The sample rate before any is set (`DEFAULT_SAMPLE_RATE` in `runtime`, line 18). -/
def defaultSampleRate : Float := 8000

/-- What an evaluation can read and change outside its own values (`SystemValues` in `runtime`,
    lines 101–106). -/
structure SystemValues where
  lines : List String := []
  nextLine : Nat := 0
  sampleRate : Float := defaultSampleRate
  shown : List Value := []
  deriving Inhabited

namespace SystemValues

/-- Fresh system values for an input file (`SystemValues::new` in `runtime`, lines 109–116). -/
def ofInput (input : Option InputFile) : SystemValues :=
  { lines := (input.map InputFile.lines).getD [] }

/-- Read the next input line, or the null character once the lines are used up
    (`SystemValues::get_line` in `runtime`, lines 120–128). -/
def getLine (s : SystemValues) : Value × SystemValues :=
  match s.lines[s.nextLine]? with
  | some l => (Value.string l, { s with nextLine := s.nextLine + 1 })
  | none => (.char '\x00', s)

/-- Set the sample rate from a value (`SystemValues::set_sample_rate` in `runtime`,
    lines 136–147). -/
def setSampleRate (s : SystemValues) : Value → Except EvalError (Float × SystemValues)
  | .number x =>
    if 1 ≤ x ∧ x < 4294967296 then .ok (x.round, { s with sampleRate := x.round })
    else .error ⟨"•SetSampleRate: 𝕩 must be between 1 and 4294967295"⟩
  | _ => .error ⟨"•SetSampleRate: 𝕩 must be a number"⟩

/-- Show a value (`SystemValues::show` in `runtime`, lines 150–152). -/
def showValue (s : SystemValues) (v : Value) : SystemValues :=
  { s with shown := s.shown ++ [v] }

end SystemValues

end BqnEdit.Eval
