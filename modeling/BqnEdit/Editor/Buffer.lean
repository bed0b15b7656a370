import BqnEdit.Editor.Selection
import BqnEdit.Editor.Insert
import BqnEdit.Editor.Block
import BqnEdit.Editor.Rope

/-!
# The editor buffer

The buffer holds the code being edited in a rope, the selection in it and whether it
changed since it was last saved. Every change goes through an edit: the edit's range
is clamped to the rope's character count (an end before the start is the start), the
range is removed from the rope and the edit's text inserted where it began, and the
edit's selection, clamped too, becomes the buffer's selection. An edit that removes
and inserts nothing leaves the rope and the saved flag alone, and one that does
anything marks the buffer changed, even when the text it writes is the text it
replaces.

The buffer's lines are its rope's, which end at every Unicode line break; a line is read
without the line feeds at its end.

Main results:

* `Buffer.lineCount_eq`, `Buffer.lineAt_eq`: the lines are the text cut after every line
  break, the line feeds at the end of each stripped.
* `Buffer.apply_noop`: an edit that does nothing only moves the selection.
* `Buffer.setSelection_le`: a selection set on the buffer lies within its text.
-/

namespace BqnEdit.Editor

/-- A line without the line feeds at its end (the trim in `EditorBuffer::line_at` in
    `editor::buffer`, line 71). A carriage return before them stays. -/
def stripFeeds (l : List Char) : String :=
  String.ofList (l.reverse.dropWhile (· = '\n')).reverse

/-- The edit that removes the characters from `lo` to `hi` and leaves the caret at `lo`
    (`EditorBuffer::delete_range` in `editor::buffer`, lines 169–175). -/
def Edit.deletion (lo hi : Nat) : Edit := ⟨lo, hi, "", Selection.caret lo⟩

/-- The text being edited, kept in a rope, its selection, and whether it changed since it was saved
    (`EditorBuffer` in `editor::buffer`, lines 10–14). -/
structure Buffer (R : Type) where
  rope : R
  selection : Selection
  dirty : Bool
  deriving DecidableEq, Repr, Inhabited

namespace Buffer

variable {R : Type} [Rope R]

/-- The whole text (`EditorBuffer::text` in `editor::buffer`, lines 75–77). -/
def text (b : Buffer R) : String := Rope.text b.rope

/-- A saved buffer holding `s`, with the caret at its start (`EditorBuffer::from_text` in
    `editor::buffer`, lines 18–24). -/
def ofText (s : String) : Buffer R := ⟨Rope.ofString s, Selection.caret 0, false⟩

/-- The saved empty buffer (`EditorBuffer::empty` in `editor::buffer`, lines 27–29). -/
def empty : Buffer R := ofText ""

/-- The number of characters, as the rope counts them (`EditorBuffer::len_chars` in
    `editor::buffer`, lines 61–63). -/
def lenChars (b : Buffer R) : Nat := Rope.lenChars b.rope

/-- Select `s`, brought within the text (`EditorBuffer::set_selection` in `editor::buffer`,
    lines 42–44). -/
def setSelection (b : Buffer R) (s : Selection) : Buffer R :=
  { b with selection := s.clamp b.lenChars }

/-- Forget that the buffer changed, after it was saved (`EditorBuffer::mark_clean` in
    `editor::buffer`, lines 52–54). -/
def markClean (b : Buffer R) : Buffer R := { b with dirty := false }

/-- The number of lines, as the rope counts them (`EditorBuffer::line_count` in `editor::buffer`,
    lines 57–59). -/
def lineCount (b : Buffer R) : Nat := Rope.lenLines b.rope

/-- The line at an index without its trailing line feeds, if there is such a line
    (`EditorBuffer::line_at` in `editor::buffer`, lines 66–72). -/
def lineAt (b : Buffer R) (i : Nat) : Option String :=
  if i < Rope.lenLines b.rope then some (stripFeeds (Rope.line b.rope i).toList) else none

/-- The selected characters (`EditorBuffer::selected_text` in `editor::buffer`, lines 79–83). -/
def selectedText (b : Buffer R) : String :=
  String.ofList ((b.text.toList.drop b.selection.start).take b.selection.len)

/-- Apply an edit (`EditorBuffer::apply` in `editor::buffer`, lines 86–96): unless it does nothing,
    splice the rope at the clamped range and mark the buffer changed; then take its selection. -/
def apply (b : Buffer R) (e : Edit) : Buffer R :=
  let b :=
    if e.isNoop then b
    else
      -- the range is clamped on character indexes, the end into `[start, len]`
      let len := b.lenChars
      let start := min e.lo len
      let stop := max start (min e.hi len)
      { b with rope := Rope.insert (Rope.remove b.rope start stop) start e.text, dirty := true }
  b.setSelection e.selection

/-- Type `literal` over the selection, wrapping a non-empty selection when a closing text is given
    (`EditorBuffer::insert` in `editor::buffer`, lines 99–103). Gives the edit made. -/
def insert (b : Buffer R) (literal : String) (closing : Option String) : Edit × Buffer R :=
  let e := Editor.insert b.text b.selection literal closing
  (e, b.apply e)

/-- Indent, outdent or comment the selected lines (`EditorBuffer::transform` in `editor::buffer`,
    lines 106–110). Gives the edit made. -/
def transform (b : Buffer R) (t : BlockTransform) : Edit × Buffer R :=
  let e := t.apply b.text b.selection
  (e, b.apply e)

/-- Replace the whole text, with the caret at its start, and mark the buffer changed
    (`EditorBuffer::replace_all` in `editor::buffer`, lines 113–117). -/
def replaceAll (_b : Buffer R) (s : String) : Buffer R := ⟨Rope.ofString s, Selection.caret 0, true⟩

/-- What Backspace removes: the selection, or the character before the caret. Nothing
    at the start of the text. -/
def backDeletion (b : Buffer R) : Option Edit :=
  let s := b.selection
  if s.isEmpty && s.start == 0 then none
  else some (Edit.deletion (if s.isEmpty then s.start - 1 else s.start) s.stop)

/-- What Delete removes: the selection, or the character after the caret. Nothing at
    the end of the text. -/
def forwardDeletion (b : Buffer R) : Option Edit :=
  let s := b.selection
  if s.isEmpty && b.lenChars ≤ s.stop then none
  else some (Edit.deletion s.start (if s.isEmpty then s.stop + 1 else s.stop))

/-- Backspace (`EditorBuffer::delete_back` in `editor::buffer`, lines 122–130): remove the
    selection, or the character before the caret. Gives false, changing nothing, at the start of the
    text. -/
def deleteBack (b : Buffer R) : Bool × Buffer R :=
  match b.backDeletion with
  | some e => (true, b.apply e)
  | none => (false, b)

/-- Delete (`EditorBuffer::delete_forward` in `editor::buffer`, lines 135–143): remove the
    selection, or the character after the caret. Gives false, changing nothing, at the end of the
    text. -/
def deleteForward (b : Buffer R) : Bool × Buffer R :=
  match b.forwardDeletion with
  | some e => (true, b.apply e)
  | none => (false, b)

/-- Move the caret one character left, or to the start of the selection (`EditorBuffer::move_left`
    in `editor::buffer`, lines 146–154). -/
def moveLeft (b : Buffer R) : Buffer R :=
  let s := b.selection
  { b with selection := Selection.caret (if s.isEmpty then s.start - 1 else s.start) }

/-- Move the caret one character right, or to the end of the selection (`EditorBuffer::move_right`
    in `editor::buffer`, lines 157–165). -/
def moveRight (b : Buffer R) : Buffer R :=
  let s := b.selection
  { b with selection := Selection.caret (if s.isEmpty then min (s.stop + 1) b.lenChars else s.stop) }

/-- The capitalised name of a direction, as the buffer's description shows it. -/
def directionLabel : Direction → String
  | .forward => "Forward"
  | .backward => "Backward"
  | .none => "None"

/-- A one-line description of the buffer (`Debug` for `EditorBuffer` in `editor::buffer`,
    lines 178–189): its line count, selection and saved flag. -/
def describe (b : Buffer R) : String :=
  "EditorBuffer \x7b rope: Rope(" ++ toString b.lineCount ++ " lines), selection: Selection \x7b start: " ++
    toString b.selection.start ++ ", end: " ++ toString b.selection.stop ++ ", direction: " ++
    directionLabel b.selection.direction ++ " \x7d, dirty: " ++ toString b.dirty ++ " \x7d"

section Lawful

variable [LawfulRope R]

theorem lineCount_eq (b : Buffer R) : b.lineCount = (brokenLines b.text.toList).length :=
  LawfulRope.lenLines_eq b.rope

theorem lineAt_eq (b : Buffer R) (i : Nat) :
    b.lineAt i = (brokenLines b.text.toList)[i]?.map stripFeeds := by
  unfold lineAt
  split
  · next hi => rw [text, LawfulRope.getElem?_brokenLines b.rope hi, Option.map_some]
  · next hi =>
    rw [← lineCount, lineCount_eq, Nat.not_lt] at hi
    rw [List.getElem?_eq_none hi, Option.map_none]

end Lawful

theorem apply_noop (b : Buffer R) (e : Edit) (h : e.isNoop = true) :
    b.apply e = b.setSelection e.selection := by
  simp [apply, h]

theorem setSelection_le (b : Buffer R) (s : Selection) :
    (b.setSelection s).selection.start ≤ (b.setSelection s).selection.stop ∧
      (b.setSelection s).selection.stop ≤ b.lenChars :=
  Selection.clamp_le s b.lenChars

end Buffer

end BqnEdit.Editor
