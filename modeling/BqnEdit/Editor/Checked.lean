import BqnEdit.Editor.Block
import BqnEdit.Editor.Insert

/-!
# The editing operations as the machine runs them

Offsets in the editor count characters, but a text in memory is UTF-8 bytes, and the machine
checks every step that can go wrong: a subtraction below zero, an index past the end of a
list, a range of a list that runs backwards or past its end, and a cut of a text at a byte
offset that is not a character boundary. A failed check stops the program: it panics. This
module spells the block transforms, typing over a selection and applying an edit out step by
step with those checks, in the order the steps are taken, each failure a `Panic`. Sums add
lengths and offsets of texts held in memory and are not checked.
-/

namespace BqnEdit.Editor

/-- Why a checked step stops the program. -/
inductive Panic where
  /-- `a - b` with `b > a`. -/
  | subtractBelowZero (a b : Nat)
  /-- An index at or past the end of a list of the given length. -/
  | indexOutOfRange (index length : Nat)
  /-- A range `start..stop` of a list of the given length with `start > stop` or
      `stop > length`. -/
  | rangeOutOfRange (start stop length : Nat)
  /-- A byte offset of a text that is past its end or inside a character. -/
  | notCharBoundary (offset : Nat)
  deriving DecidableEq, Repr

/-- A computation that may panic. -/
abbrev Checked := Except Panic

/-- The number of characters that the first `b` bytes of a text encode, when byte `b` is a
    character boundary: the start of the text, the start of a character, or the end. -/
def charsBefore? : List Char → Nat → Option Nat
  | _, 0 => some 0
  | [], _ + 1 => none
  | c :: cs, b + 1 =>
    if c.utf8Size ≤ b + 1 then (charsBefore? cs (b + 1 - c.utf8Size)).map (· + 1) else none

/-- The byte offset of character `i` of a text, or the text's byte length when it has no character
    `i` (`char_to_byte` in `editor`, lines 146–148). -/
def charToByte (t : String) (i : Nat) : Nat :=
  if i < t.length then (String.ofList (t.toList.take i)).utf8ByteSize else t.utf8ByteSize

namespace Checked

/-- `a - b`; panics when `b > a`. -/
def sub (a b : Nat) : Checked Nat :=
  if b ≤ a then pure (a - b) else throw (.subtractBelowZero a b)

/-- `xs[i]`; panics past the end. -/
def index {α : Type} (xs : List α) (i : Nat) : Checked α :=
  match xs[i]? with
  | some x => pure x
  | none => throw (.indexOutOfRange i xs.length)

/-- `xs[a..b]`; panics when `a > b` or `b` is past the end. -/
def range {α : Type} (xs : List α) (a b : Nat) : Checked (List α) :=
  if a ≤ b ∧ b ≤ xs.length then pure ((xs.drop a).take (b - a))
  else throw (.rangeOutOfRange a b xs.length)

/-- The text before byte `b`, `s[..b]`; panics off a character boundary. -/
def sliceTo (s : String) (b : Nat) : Checked String :=
  match charsBefore? s.toList b with
  | some k => pure (String.ofList (s.toList.take k))
  | none => throw (.notCharBoundary b)

/-- The text from byte `b` on, `s[b..]`; panics off a character boundary. -/
def sliceFrom (s : String) (b : Nat) : Checked String :=
  match charsBefore? s.toList b with
  | some k => pure (String.ofList (s.toList.drop k))
  | none => throw (.notCharBoundary b)

/-- A text cut in two at byte `b`, `s.split_at(b)`; panics off a character boundary. -/
def splitAt (s : String) (b : Nat) : Checked (String × String) :=
  match charsBefore? s.toList b with
  | some k => pure (String.ofList (s.toList.take k), String.ofList (s.toList.drop k))
  | none => throw (.notCharBoundary b)

end Checked

/-! ## Applying an edit -/

/-- Apply an edit to the bytes of a text (`Edit::apply` in `editor`, lines 134–142): both ends of
    the range become byte offsets (an end before the start counts as the start), room is reserved
    for the result, and the bytes before the start, the new text and the bytes from the end on are
    joined. -/
def Edit.applyChecked (e : Edit) (t : String) : Checked String := do
  let start := charToByte t e.lo
  let stop := charToByte t (max e.hi e.lo)
  let _room ← Checked.sub t.utf8ByteSize (← Checked.sub stop start)
  let before ← Checked.sliceTo t start
  let after ← Checked.sliceFrom t stop
  pure (before ++ e.text ++ after)

/-! ## Typing over a selection -/

/-- Typing over a selection, the length of a wrapped selection taken by subtraction (`insert` in
    `editor::insert`, lines 9–35). -/
def insertChecked (text : String) (sel : Selection) (literal : String) (closing : Option String) :
    Checked Edit := do
  let sel := sel.clamp text.length
  match closing with
  | some c =>
    if sel.isEmpty then
      pure ⟨sel.start, sel.stop, literal, Selection.caret (sel.start + literal.length)⟩
    else
      let n ← Checked.sub sel.stop sel.start
      let selected := String.ofList ((text.toList.drop sel.start).take n)
      let t := literal ++ selected ++ c
      pure ⟨sel.start, sel.stop, t, Selection.new sel.start (sel.start + t.length) sel.direction⟩
  | none => pure ⟨sel.start, sel.stop, literal, Selection.caret (sel.start + literal.length)⟩

/-! ## Toggling comments -/

/-- The number of spaces a line starts with, as the byte length of the line less the byte length of
    the line without them (`leading_spaces` in `editor::transform`, lines 24–26). -/
def leadingSpacesChecked (l : String) : Checked Nat :=
  Checked.sub l.utf8ByteSize (String.ofList (l.toList.dropWhile (· == ' '))).utf8ByteSize

/-- Whether a line has `#` at byte `level`, cutting the line there (the test in
    `toggle_comment_lines` in `editor::transform`, line 35). -/
def commentedAtChecked (level : Nat) (l : String) : Checked Bool := do
  let rest ← Checked.sliceFrom l level
  pure (rest.toList.head? == some '#')

/-- One line of a toggled block (the line map in `toggle_comment_lines` in `editor::transform`,
    lines 40–45): cut at byte `level`, then the `#` after the cut taken away or one put there. -/
def toggleLineChecked (level : Nat) (commented : Bool) (l : String) : Checked String := do
  let (indent, rest) ← Checked.splitAt l level
  if commented then
    let tail ← Checked.sliceFrom rest 1
    pure (indent ++ tail)
  else pure (indent ++ "#" ++ rest)

/-- Toggle a `#` comment at the common indentation of lines, counted in bytes
    (`toggle_comment_lines` in `editor::transform`, lines 33–48). -/
def toggleCommentLinesChecked (ls : List String) : Checked (List String) := do
  let level := (← ls.mapM leadingSpacesChecked).min?.getD 0
  let commented ← ls.allM (commentedAtChecked level)
  ls.mapM (toggleLineChecked level commented)

/-! ## Block transforms -/

namespace LineIndex

/-- The offset where a line starts, with its index check (`LineIndex::start` in `editor::lines`,
    lines 35–37). -/
def startChecked (ix : LineIndex) (line : Nat) : Checked Nat := Checked.index ix.starts line

/-- The length of a line, with its index check (`LineIndex::line_len` in `editor::lines`,
    lines 44–46). -/
def lineLenChecked (ix : LineIndex) (line : Nat) : Checked Nat := Checked.index ix.lens line

/-- The offset where a line ends, with its index checks (`LineIndex::end` in `editor::lines`,
    lines 40–42). -/
def stopChecked (ix : LineIndex) (line : Nat) : Checked Nat := do
  pure ((← ix.startChecked line) + (← ix.lineLenChecked line))

/-- The line an offset falls on (`LineIndex::line_of` in `editor::lines`, lines 51–55): the first
    line that ends at or after it, else the last line, whose number is computed whether or not it is
    needed. -/
def lineOfChecked (ix : LineIndex) (o : Nat) : Checked Nat := do
  let found ← (List.range ix.size).findM? fun l => do pure (decide (o ≤ (← ix.stopChecked l)))
  pure (found.getD (← Checked.sub ix.size 1))

end LineIndex

/-- Where an end of the selection goes on line `i` of the block (the `shift` closure in
    `apply_block_transform` in `editor::lines`, lines 110–115): its offset on the old line moved by
    the change in the line's length, never before the line's start nor past its new end. -/
def shiftChecked (ix : LineIndex) (first : Nat) (newLens : List Nat) (o i : Nat) : Checked Nat := do
  let oldLen ← ix.lineLenChecked (first + i)
  let newLen ← Checked.index newLens i
  pure (min (o + newLen - oldLen) newLen)

/-- A block transform with the machine's checks; the line map may itself panic
    (`apply_block_transform` in `editor::lines`, lines 80–139). -/
def applyBlockChecked (f : List String → Checked (List String)) (text : String) (sel : Selection) :
    Checked Edit := do
  let sel := sel.clamp text.length
  let ix := LineIndex.ofText text
  let lines := textLines text
  let first ← ix.lineOfChecked sel.start
  let last ← ix.lineOfChecked sel.stop
  let startLocal ← Checked.sub sel.start (← ix.startChecked first)
  let stopLocal ← Checked.sub sel.stop (← ix.startChecked last)
  -- the lines `first` to `last`, both included
  let block ← Checked.range lines first (last + 1)
  let rewritten ← f block
  if rewritten.length ≠ block.length then return Edit.unchanged sel
  if (rewritten.zip block).all (fun p => p.1 == p.2) then return Edit.unchanged sel
  let newLens := rewritten.map String.length
  let k ← Checked.sub newLens.length 1
  let newStart ← shiftChecked ix first newLens startLocal 0
  let newStop ← shiftChecked ix first newLens stopLocal k
  let blockStart ← ix.startChecked first
  let before ← Checked.range newLens 0 k
  let lastStart := blockStart + @List.sum Nat _ Zero.ofOfNat0 (before.map (· + 1))
  let hi ← ix.stopChecked last
  pure { lo := blockStart
         hi := hi
         text := "\n".intercalate rewritten
         selection := Selection.new (blockStart + newStart) (lastStart + newStop) sel.direction }

namespace BlockTransform

/-- The change a transform makes to a block's lines, with its checks (`indent`, `outdent` and
    `toggle_comment` in `editor::transform`, lines 50–60). -/
def lineMapChecked : BlockTransform → List String → Checked (List String)
  | indent => fun ls => pure (indentLines ls)
  | outdent => fun ls => pure (outdentLines ls)
  | toggleComment => toggleCommentLinesChecked

/-- The edit a transform makes, with the machine's checks (`BlockTransform::apply` in `editor`,
    lines 160–166). -/
def applyChecked (t : BlockTransform) (text : String) (sel : Selection) : Checked Edit :=
  applyBlockChecked t.lineMapChecked text sel

end BlockTransform

end BqnEdit.Editor
