import BqnEdit.Editor.Selection
import BqnEdit.Editor.Lines

/-!
# Block transforms

A block transform changes every line that the selection touches, as a block, and
turns the result into one edit of the text. It refuses (edits nothing) when the
change alters the number of lines or changes no line. Otherwise each end of the
selection moves with the text of its line: an end moves by the change in its line's
length, but never before the line's start nor past its new end.

The transforms the editor ships are indenting by two spaces, outdenting by up to two
spaces, and toggling a `#` comment at the common indentation of the block.

Main results:

* `length_indentLines`, `length_outdentLines`, `length_toggleCommentLines`: the
  shipped transforms keep the number of lines.
-/

namespace BqnEdit.Editor

/-- A change of a block of lines, line list to line list (`LineTransform` in `editor::lines`,
    lines 61–72). -/
abbrev LineMap := List String → List String

/-- Change the lines that a selection touches and describe the change as one edit of the whole text
    (`apply_block_transform` in `editor::lines`, lines 80–139). -/
def applyBlock (f : LineMap) (text : String) (sel : Selection) : Edit :=
  let sel := sel.clamp text.length
  let ix := LineIndex.ofText text
  let lines := textLines text
  let first := ix.lineOf sel.start
  let last := ix.lineOf sel.stop
  let startLocal := sel.start - ix.start first
  let stopLocal := sel.stop - ix.start last
  let block := (lines.drop first).take (last + 1 - first)
  let rewritten := f block
  if rewritten.length ≠ block.length ∨ rewritten = block then Edit.unchanged sel
  else
    let newLens := rewritten.map String.length
    let k := newLens.length - 1
    let shift (o i : Nat) : Nat :=
      min (o + newLens.getD i 0 - ix.lineLen (first + i)) (newLens.getD i 0)
    let blockStart := ix.start first
    -- the zero of the sum is named, so that the sum reads the same whatever instances
    -- of `Zero Nat` are in scope
    let lastStart := blockStart + @List.sum Nat _ Zero.ofOfNat0 ((newLens.take k).map (· + 1))
    { lo := blockStart
      hi := ix.stop last
      text := "\n".intercalate rewritten
      selection := Selection.new (blockStart + shift startLocal 0)
        (lastStart + shift stopLocal k) sel.direction }

/-- The indentation unit, two spaces (`INDENT` in `editor::transform`, line 4). -/
def indentUnit : String := "  "

/-- Indent every line by two spaces, blank lines included (`indent_lines` in `editor::transform`,
    lines 7–9). -/
def indentLines (ls : List String) : List String :=
  ls.map (indentUnit ++ ·)

/-- Remove two leading spaces from a line, or else one, or else nothing. -/
def outdentLine (l : String) : String :=
  match l.toList with
  | ' ' :: ' ' :: rest => String.ofList rest
  | ' ' :: rest => String.ofList rest
  | _ => l

/-- Outdent every line by up to two spaces (`outdent_lines` in `editor::transform`, lines 12–22). -/
def outdentLines (ls : List String) : List String :=
  ls.map outdentLine

/-- The number of spaces a line starts with (`leading_spaces` in `editor::transform`,
    lines 24–26). -/
def leadingSpaces (l : String) : Nat :=
  (l.toList.takeWhile (· == ' ')).length

/-- Toggle a `#` comment at the common indentation, the fewest leading spaces of any line (blank
    lines included) (`toggle_comment_lines` in `editor::transform`, lines 33–48). When every line
    has `#` at that column, it is removed; otherwise a `#` is put there on every line. -/
def toggleCommentLines (ls : List String) : List String :=
  let level := (ls.map leadingSpaces).min?.getD 0
  let commented := ls.all (fun l => (l.toList.drop level).head? == some '#')
  ls.map fun l =>
    let cs := l.toList
    if commented then String.ofList (cs.take level ++ cs.drop (level + 1))
    else String.ofList (cs.take level ++ '#' :: cs.drop level)

theorem length_indentLines (ls : List String) : (indentLines ls).length = ls.length := by
  simp [indentLines]

theorem length_outdentLines (ls : List String) : (outdentLines ls).length = ls.length := by
  simp [outdentLines]

theorem length_toggleCommentLines (ls : List String) :
    (toggleCommentLines ls).length = ls.length := by
  simp [toggleCommentLines]

/-- The block transforms the editor offers (`BlockTransform` in `editor`, lines 153–157). -/
inductive BlockTransform where
  | indent
  | outdent
  | toggleComment
  deriving DecidableEq, Repr, Inhabited

namespace BlockTransform

/-- The short name of a transform, as commands spell it (`BlockTransform::name` in `editor`,
    lines 168–174). -/
def name : BlockTransform → String
  | indent => "indent"
  | outdent => "outdent"
  | toggleComment => "comment"

/-- The transform with a given short name. -/
def ofName? : String → Option BlockTransform
  | "indent" => some indent
  | "outdent" => some outdent
  | "comment" => some toggleComment
  | _ => none

/-- The change a transform makes to a block's lines (`indent`, `outdent` and `toggle_comment` in
    `editor::transform`, lines 50–60). -/
def lineMap : BlockTransform → LineMap
  | indent => indentLines
  | outdent => outdentLines
  | toggleComment => toggleCommentLines

/-- The edit a transform makes on a text with a selection (`BlockTransform::apply` in `editor`,
    lines 160–166). -/
def apply (t : BlockTransform) (text : String) (sel : Selection) : Edit :=
  applyBlock t.lineMap text sel

end BlockTransform

end BqnEdit.Editor
