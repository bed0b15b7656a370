import BqnEdit.Editor.Selection

/-!
# Typing text over a selection

Typing replaces the selection with the typed text and leaves a caret after it. A
glyph that opens a pair (a bracket, a quote) wraps a non-empty selection instead: the
opening text, the selected text and the closing text replace it, and all of them are
selected, in the old direction.

Main results:

* `insert_range`: the edit always replaces exactly the clamped selection.
-/

namespace BqnEdit.Editor

/-- The edit that types `literal` over the selection, wrapping a non-empty selection when a closing
    text is given (`insert` in `editor::insert`, lines 9–35). -/
def insert (text : String) (sel : Selection) (literal : String) (closing : Option String) : Edit :=
  let sel := sel.clamp text.length
  match closing with
  | some c =>
    if sel.isEmpty then ⟨sel.start, sel.stop, literal, Selection.caret (sel.start + literal.length)⟩
    else
      let selected := String.ofList ((text.toList.drop sel.start).take sel.len)
      let t := literal ++ selected ++ c
      ⟨sel.start, sel.stop, t, Selection.new sel.start (sel.start + t.length) sel.direction⟩
  | none => ⟨sel.start, sel.stop, literal, Selection.caret (sel.start + literal.length)⟩

theorem insert_range (text : String) (sel : Selection) (literal : String) (closing : Option String) :
    (insert text sel literal closing).lo = (sel.clamp text.length).start ∧
      (insert text sel literal closing).hi = (sel.clamp text.length).stop := by
  unfold insert
  cases closing with
  | none => simp
  | some c => by_cases h : (sel.clamp text.length).isEmpty <;> simp [h]

end BqnEdit.Editor
