/-!
# Error reports

A command that fails reports an error and the chain of errors that caused it, the
outermost first. The report reads `Error: ` and the message; when there are causes, a
blank line, `Caused by:`, and one indented line per cause. A single cause is indented
by four spaces; several are numbered from zero, the number right-aligned in five
columns and followed by a colon. A cause of several lines keeps its later lines
aligned under its first.

Main results:

* `render_noCauses`: a report without causes is one line.
-/

namespace BqnEdit.Cli

/-- An error and its causes, outermost first. -/
structure ErrorReport where
  message : String
  causes : List String := []
  deriving DecidableEq, Repr, Inhabited

namespace ErrorReport

/-- Right-align a number in five columns. -/
def number (n : Nat) : String :=
  let s := toString n
  String.ofList (List.replicate (5 - s.length) ' ') ++ s

/-- One cause, as it stands under `Caused by:`. -/
def causeLines (label : Option Nat) (c : String) : String :=
  let (first, rest) := match label with
    | some n => (number n ++ ": ", "       ")
    | none => ("    ", "    ")
  match c.splitOn "\n" with
  | [] => first
  | l :: ls => first ++ l ++ String.join (ls.map fun l => "\n" ++ rest ++ l)

/-- The text of a report, ending in a line feed. -/
def render (r : ErrorReport) : String :=
  let causes := match r.causes with
    | [] => ""
    | [c] => "\n\nCaused by:\n" ++ causeLines none c
    | cs => "\n\nCaused by:" ++ String.join (cs.zipIdx.map fun (c, i) => "\n" ++ causeLines (some i) c)
  "Error: " ++ r.message ++ causes ++ "\n"

theorem render_noCauses (m : String) : render { message := m } = "Error: " ++ m ++ "\n" := by
  simp [render]

end ErrorReport

end BqnEdit.Cli
