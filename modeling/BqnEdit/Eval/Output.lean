import BqnEdit.Eval.System

/-!
# Outputs of runs

A run yields outputs: the text of each shown value and of the result, or the text of
an error. The output log numbers the outputs it receives consecutively from 0, and
clearing the log never reuses a number.

Main results:

* `ids_append`: appending gives the new outputs the next numbers in order.
-/

namespace BqnEdit.Eval

/-- One output (`Output` in `runtime::output`, lines 5–11): its number in the log, its text, and
    whether it reports an error. -/
structure Output where
  id : Nat := 0
  text : String
  error : Bool := false
  deriving DecidableEq, Repr, Inhabited

/-- The outputs shown, and the number the next output gets (`OutputLog` in `runtime::output`,
    lines 36–39). -/
structure OutputLog where
  outputs : List Output := []
  nextId : Nat := 0
  deriving DecidableEq, Repr, Inhabited

namespace OutputLog

/-- Number outputs from `n` on. -/
def number : Nat → List Output → List Output
  | _, [] => []
  | n, o :: os => { o with id := n } :: number (n + 1) os

/-- Append outputs, numbering them (`OutputLog::append` in `runtime::output`, lines 46–52). -/
def append (log : OutputLog) (os : List Output) : OutputLog :=
  { outputs := log.outputs ++ number log.nextId os, nextId := log.nextId + os.length }

/-- Remove all outputs; the numbering goes on (`OutputLog::clear` in `runtime::output`,
    lines 54–56). -/
def clear (log : OutputLog) : OutputLog := { log with outputs := [] }

/-- The last output (`OutputLog::last` in `runtime::output`, lines 62–64). -/
def last? (log : OutputLog) : Option Output := log.outputs.getLast?

theorem ids_number (n : Nat) (os : List Output) :
    (number n os).map Output.id = List.range' n os.length := by
  induction os generalizing n with
  | nil => rfl
  | cons o os ih => simp [number, ih, List.range'_succ]

theorem ids_append (log : OutputLog) (os : List Output) :
    (log.append os).outputs.map Output.id =
      log.outputs.map Output.id ++ List.range' log.nextId os.length := by
  simp [append, ids_number]

end OutputLog

end BqnEdit.Eval
