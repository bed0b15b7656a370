import BqnEdit.Editor.Insert
import BqnEdit.Proofs.Block

/-!
# Typing over a selection

Typing first brings the selection within the text, giving the range `[s, e)` with
`s ≤ e`, and always replaces exactly that range. With a closing text and a non-empty
range the selected characters stay, between the typed text and the closing text, and
the whole wrapped text is selected in the old direction. Otherwise the selected
characters go and a caret, with no direction, follows the typed text. Offsets count
characters, so an astral glyph moves the caret by one.

Main results:

* `insert_of_wraps`, `insert_of_replaces`: the edit of each case.
* `toList_apply_insert`: the text after typing is the text before the range, the edit's
  text and the text after the range.
* `insert_spec`: the whole behaviour, for every text, selection, typed text and closing
  text, with the new selection inside the new text.
-/

namespace BqnEdit.Editor

section
variable (text : String) (sel : Selection) (literal : String)

/-- The characters a selection covers once brought within the text. -/
def clampedChars : List Char :=
  (text.toList.drop (sel.clamp text.length).start).take
    ((sel.clamp text.length).stop - (sel.clamp text.length).start)

theorem length_clampedChars :
    (clampedChars text sel).length = (sel.clamp text.length).stop - (sel.clamp text.length).start := by
  have h := Selection.clamp_le sel text.length
  simp only [clampedChars, List.length_take, List.length_drop, String.length_toList]
  omega

/-- With a closing text and a non-empty range, typing writes the typed text, the selected
    characters and the closing text, and selects all of it in the old direction. -/
theorem insert_of_wraps (c : String)
    (h : (sel.clamp text.length).start < (sel.clamp text.length).stop) :
    insert text sel literal (some c) =
      let t := literal ++ String.ofList (clampedChars text sel) ++ c
      ⟨(sel.clamp text.length).start, (sel.clamp text.length).stop, t,
        ⟨(sel.clamp text.length).start, (sel.clamp text.length).start + t.length, sel.direction⟩⟩ := by
  have hne : (sel.clamp text.length).isEmpty = false := by
    simp only [Selection.isEmpty, beq_eq_false_iff_ne]
    omega
  simp only [insert, hne, Bool.false_eq_true, if_false, Selection.len, clampedChars]
  rw [Selection.new_of_le (Nat.le_add_right _ _), Selection.direction_clamp]

/-- Without a closing text, or over an empty range, typing writes the typed text in place of
    the range and leaves a caret after it. -/
theorem insert_of_replaces {closing : Option String}
    (h : closing = none ∨ (sel.clamp text.length).start = (sel.clamp text.length).stop) :
    insert text sel literal closing =
      ⟨(sel.clamp text.length).start, (sel.clamp text.length).stop, literal,
        Selection.caret ((sel.clamp text.length).start + literal.length)⟩ := by
  rcases h with rfl | hempty
  · rfl
  · cases closing with
    | none => rfl
    | some c =>
      have he : (sel.clamp text.length).isEmpty = true := by
        simp [Selection.isEmpty, hempty]
      simp only [insert, he, if_true]

theorem toList_apply_insert (closing : Option String) :
    ((insert text sel literal closing).apply text).toList =
      text.toList.take (sel.clamp text.length).start ++
        (insert text sel literal closing).text.toList ++
        text.toList.drop (sel.clamp text.length).stop := by
  obtain ⟨hlo, hhi⟩ := insert_range text sel literal closing
  have hle := (Selection.clamp_le sel text.length).1
  rw [Edit.toList_apply, hlo, hhi, Nat.max_eq_left hle]

theorem length_apply_insert (closing : Option String) :
    ((insert text sel literal closing).apply text).length + (sel.clamp text.length).stop =
      text.length + (sel.clamp text.length).start + (insert text sel literal closing).text.length := by
  have h := congrArg List.length (toList_apply_insert text sel literal closing)
  have hle := Selection.clamp_le sel text.length
  simp only [List.length_append, List.length_take, List.length_drop, String.length_toList] at h
  omega

/-- Wrapping: the typed text, the selected characters and the closing text stand in place of
    the range, and exactly they are selected, in the old direction. -/
theorem insert_wraps (c : String) (h : (sel.clamp text.length).start < (sel.clamp text.length).stop) :
    ((insert text sel literal (some c)).apply text).toList =
        text.toList.take (sel.clamp text.length).start ++ literal.toList ++
          (text.toList.drop (sel.clamp text.length).start).take
            ((sel.clamp text.length).stop - (sel.clamp text.length).start) ++
          c.toList ++ text.toList.drop (sel.clamp text.length).stop ∧
      (insert text sel literal (some c)).selection =
        ⟨(sel.clamp text.length).start, (sel.clamp text.length).start + literal.length +
          ((sel.clamp text.length).stop - (sel.clamp text.length).start) + c.length, sel.direction⟩ := by
  have hedit := insert_of_wraps text sel literal c h
  have hchars := length_clampedChars text sel
  refine ⟨?_, ?_⟩
  · rw [toList_apply_insert, hedit]
    simp [clampedChars]
  · rw [hedit]
    simp only [String.length_append, String.length_ofList, hchars, Nat.add_assoc]

/-- Replacing: the typed text stands in place of the range, with a caret after it. -/
theorem insert_replaces {closing : Option String}
    (h : closing = none ∨ (sel.clamp text.length).start = (sel.clamp text.length).stop) :
    ((insert text sel literal closing).apply text).toList =
        text.toList.take (sel.clamp text.length).start ++ literal.toList ++
          text.toList.drop (sel.clamp text.length).stop ∧
      (insert text sel literal closing).selection =
        Selection.caret ((sel.clamp text.length).start + literal.length) := by
  have hedit := insert_of_replaces text sel literal h
  exact ⟨by rw [toList_apply_insert, hedit], by rw [hedit]⟩

/-- The selection typing leaves lies within the new text. -/
theorem insert_selection_within (closing : Option String) :
    (insert text sel literal closing).selection.start ≤ (insert text sel literal closing).selection.stop ∧
      (insert text sel literal closing).selection.stop ≤ ((insert text sel literal closing).apply text).length := by
  have hlen := length_apply_insert text sel literal closing
  have hle := Selection.clamp_le sel text.length
  by_cases hw : ∃ c, closing = some c ∧ (sel.clamp text.length).start < (sel.clamp text.length).stop
  · -- the wrapped text is selected: it ends where the text after the range begins
    obtain ⟨c, rfl, hlt⟩ := hw
    have hchars := length_clampedChars text sel
    rw [insert_of_wraps text sel literal c hlt] at hlen ⊢
    simp only [String.length_append, String.length_ofList, hchars] at hlen ⊢
    omega
  · -- the caret follows the typed text
    have hcase : closing = none ∨ (sel.clamp text.length).start = (sel.clamp text.length).stop := by
      cases closing with
      | none => exact .inl rfl
      | some c => exact .inr (by by_contra hne; exact hw ⟨c, rfl, by omega⟩)
    rw [insert_of_replaces text sel literal hcase] at hlen ⊢
    simp only [Selection.caret] at hlen ⊢
    omega

end

/-- The whole behaviour of typing `literal` over `sel` in `text`, with `[s, e)` the clamped
    selection. The edit replaces exactly `[s, e)`. With a closing text `c` and `s < e` the new
    text is the text before `s`, the typed text, the characters from `s` to `e`, `c`, and the
    text after `e`, and the selection covers exactly the wrapped text, in the old direction.
    Otherwise the new text is the text before `s`, the typed text and the text after `e`, with
    a caret right after the typed text. Either way the new selection lies within the new text. -/
theorem insert_spec (text : String) (sel : Selection) (literal : String) (closing : Option String) :
    let s := (sel.clamp text.length).start
    let e := (sel.clamp text.length).stop
    let edit := insert text sel literal closing
    edit.lo = s ∧ edit.hi = e ∧
      (∀ c, closing = some c → s < e →
        (edit.apply text).toList = text.toList.take s ++ literal.toList ++
          (text.toList.drop s).take (e - s) ++ c.toList ++ text.toList.drop e ∧
        edit.selection = ⟨s, s + literal.length + (e - s) + c.length, sel.direction⟩) ∧
      (closing = none ∨ s = e →
        (edit.apply text).toList = text.toList.take s ++ literal.toList ++ text.toList.drop e ∧
        edit.selection = Selection.caret (s + literal.length)) ∧
      edit.selection.start ≤ edit.selection.stop ∧ edit.selection.stop ≤ (edit.apply text).length := by
  obtain ⟨hlo, hhi⟩ := insert_range text sel literal closing
  refine ⟨hlo, hhi, ?_, insert_replaces text sel literal, insert_selection_within text sel literal closing⟩
  rintro c rfl hlt
  exact insert_wraps text sel literal c hlt

/-- Wrapping a selection in the list brackets. -/
theorem insert_spec_list_brackets :
    let sel : Selection := ⟨2, 5, .backward⟩
    let edit := insert "x←abc" sel "⟨" (some "⟩")
    ((some "⟩" : Option String) = some "⟩" ∧ (sel.clamp 5).start < (sel.clamp 5).stop) ∧
      edit.apply "x←abc" = "x←⟨abc⟩" ∧ edit.selection = ⟨2, 7, .backward⟩ := by
  have h := (insert_spec "x←abc" ⟨2, 5, .backward⟩ "⟨" (some "⟩")).2.2.1 "⟩" rfl (by decide)
  refine ⟨⟨rfl, by decide⟩, String.ext ?_, h.2⟩
  rw [h.1]
  decide

end BqnEdit.Editor
