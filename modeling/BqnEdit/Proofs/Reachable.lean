import BqnEdit.Proofs.Splice

/-!
# What every reachable buffer guarantees

A buffer starts from a text with the caret at its start and then changes only through its
calls. Each call leaves the selection ordered and within the text: those that edit set
the selection last, clamped to the new text, and those that only move it keep it within
the old one. So in every reachable buffer the selected text is exactly as long as the
selection, and the two deletions do what they say: Backspace and Delete report a change
exactly when they make one, and then they have removed the selection, or the one
character before (Backspace) or after (Delete) the caret, and left the caret where the
removed characters began.

Main results:

* `Buffer.Reachable.selectionWithin`: every reachable buffer's selection lies within it.
* `Buffer.deleteBack_deletes`, `Buffer.deleteForward_deletes`: the deletions of a buffer
  whose selection lies within it.
* `Buffer.Reachable.selection_bounded_and_deletes`: both, for every reachable buffer.
-/

namespace BqnEdit.Editor

theorem Selection.caret_clamp_of_le {o n : Nat} (h : o ≤ n) : (Selection.caret o).clamp n = .caret o := by
  simp [Selection.clamp, Selection.new, Selection.caret, Nat.min_eq_left h]

namespace Buffer

variable {R : Type} [Rope R]

/-! ## The selection stays within the text -/

/-- The selection is ordered and its end lies within the text, as the rope counts it. -/
def SelectionWithin (b : Buffer R) : Prop :=
  b.selection.start ≤ b.selection.stop ∧ b.selection.stop ≤ b.lenChars

theorem selectionWithin_setSelection (b : Buffer R) (s : Selection) :
    (b.setSelection s).SelectionWithin :=
  setSelection_le b s

/-- An edit leaves the selection within the text from any buffer, since it sets the
    selection last. -/
theorem selectionWithin_apply (b : Buffer R) (e : Edit) : (b.apply e).SelectionWithin := by
  unfold apply
  exact selectionWithin_setSelection _ _

theorem selectionWithin_insert (b : Buffer R) (literal : String) (closing : Option String) :
    (b.insert literal closing).2.SelectionWithin :=
  selectionWithin_apply _ _

theorem selectionWithin_transform (b : Buffer R) (t : BlockTransform) :
    (b.transform t).2.SelectionWithin :=
  selectionWithin_apply _ _

theorem selectionWithin_replaceAll (b : Buffer R) (s : String) :
    (b.replaceAll s).SelectionWithin := by
  simp [SelectionWithin, replaceAll, Selection.caret]

theorem selectionWithin_deleteBack {b : Buffer R} (h : b.SelectionWithin) :
    b.deleteBack.2.SelectionWithin := by
  unfold deleteBack
  split
  · exact selectionWithin_apply _ _
  · exact h

theorem selectionWithin_deleteForward {b : Buffer R} (h : b.SelectionWithin) :
    b.deleteForward.2.SelectionWithin := by
  unfold deleteForward
  split
  · exact selectionWithin_apply _ _
  · exact h

theorem selectionWithin_moveLeft {b : Buffer R} (h : b.SelectionWithin) :
    b.moveLeft.SelectionWithin := by
  obtain ⟨hss, hsl⟩ := h
  simp only [SelectionWithin, moveLeft, Selection.caret, lenChars] at hsl ⊢
  split <;> omega

theorem selectionWithin_moveRight {b : Buffer R} (h : b.SelectionWithin) :
    b.moveRight.SelectionWithin := by
  obtain ⟨hss, hsl⟩ := h
  simp only [SelectionWithin, moveRight, Selection.caret, lenChars] at hsl ⊢
  split <;> omega

theorem selectionWithin_markClean {b : Buffer R} (h : b.SelectionWithin) :
    b.markClean.SelectionWithin := h

/-- The buffers that calls reach from a new one (`empty` is the new buffer of the empty
    text). -/
inductive Reachable : Buffer R → Prop
  | ofText (s : String) : Reachable (ofText s)
  | setSelection {b : Buffer R} (s : Selection) : Reachable b → Reachable (b.setSelection s)
  | apply {b : Buffer R} (e : Edit) : Reachable b → Reachable (b.apply e)
  | insert {b : Buffer R} (literal : String) (closing : Option String) :
      Reachable b → Reachable (b.insert literal closing).2
  | transform {b : Buffer R} (t : BlockTransform) : Reachable b → Reachable (b.transform t).2
  | replaceAll {b : Buffer R} (s : String) : Reachable b → Reachable (b.replaceAll s)
  | deleteBack {b : Buffer R} : Reachable b → Reachable b.deleteBack.2
  | deleteForward {b : Buffer R} : Reachable b → Reachable b.deleteForward.2
  | moveLeft {b : Buffer R} : Reachable b → Reachable b.moveLeft
  | moveRight {b : Buffer R} : Reachable b → Reachable b.moveRight
  | markClean {b : Buffer R} : Reachable b → Reachable b.markClean

/-- Every reachable buffer's selection is ordered and lies within its text. -/
theorem Reachable.selectionWithin {b : Buffer R} (h : b.Reachable) : b.SelectionWithin := by
  induction h with
  | ofText s => simp [SelectionWithin, Buffer.ofText, Selection.caret]
  | setSelection s _ _ => exact selectionWithin_setSelection _ s
  | apply e _ _ => exact selectionWithin_apply _ e
  | insert literal closing _ _ => exact selectionWithin_insert _ literal closing
  | transform t _ _ => exact selectionWithin_transform _ t
  | replaceAll s _ _ => exact selectionWithin_replaceAll _ s
  | deleteBack _ ih => exact selectionWithin_deleteBack ih
  | deleteForward _ ih => exact selectionWithin_deleteForward ih
  | moveLeft _ ih => exact selectionWithin_moveLeft ih
  | moveRight _ ih => exact selectionWithin_moveRight ih
  | markClean _ ih => exact selectionWithin_markClean ih

/-! ## Deleting -/

/-- A deletion call on `b` that gave `d` reports a change exactly when it changed the
    text, and when it reports one it has removed the characters from `lo` to `hi`, at
    least one and all within the text, and left the caret at `lo`. -/
def Deletes (b : Buffer R) (d : Bool × Buffer R) (lo hi : Nat) : Prop :=
  (d.1 = true ↔ d.2.text ≠ b.text) ∧
    (d.1 = true → lo < hi ∧ hi ≤ b.text.length ∧
      d.2.text.toList = b.text.toList.take lo ++ b.text.toList.drop hi ∧
      d.2.selection = Selection.caret lo)

theorem deletes_unchanged (b : Buffer R) (lo hi : Nat) : b.Deletes (false, b) lo hi := by
  simp [Deletes]

variable [LawfulRope R]

theorem selectedText_length {b : Buffer R} (h : b.SelectionWithin) :
    b.selectedText.length = b.selection.len := by
  obtain ⟨hss, hsl⟩ := h
  rw [lenChars_eq] at hsl
  simp only [selectedText, Selection.len, String.length_ofList, List.length_take,
    List.length_drop, String.length_toList]
  omega

/-- Applying the deletion of a non-empty range within the text removes that range, leaves
    the caret at its start, and so changes the text. -/
theorem deletes_deletion (b : Buffer R) {lo hi : Nat} (hlt : lo < hi) (hhi : hi ≤ b.text.length) :
    b.Deletes (true, b.apply (Edit.deletion lo hi)) lo hi := by
  have htext : (b.apply (Edit.deletion lo hi)).text.toList =
      b.text.toList.take lo ++ b.text.toList.drop hi := by
    rw [text_apply, Edit.toList_apply]
    simp [Edit.deletion, Nat.max_eq_left (Nat.le_of_lt hlt)]
  -- the edited text keeps the characters before `lo` and loses at least one
  have hlen : (b.apply (Edit.deletion lo hi)).text.length = b.text.length - (hi - lo) := by
    rw [← String.length_toList, htext]
    simp only [List.length_append, List.length_take, List.length_drop, String.length_toList]
    omega
  have hsel : (b.apply (Edit.deletion lo hi)).selection = Selection.caret lo := by
    rw [selection_apply, ← text_apply, hlen]
    exact Selection.caret_clamp_of_le (by omega)
  have hne : (b.apply (Edit.deletion lo hi)).text ≠ b.text := fun heq => by
    rw [heq] at hlen
    omega
  exact ⟨by simpa using hne, fun _ => ⟨hlt, hhi, htext, hsel⟩⟩

/-- Backspace removes the selection, or the character before a caret, and reports it. -/
theorem deleteBack_deletes {b : Buffer R} (h : b.SelectionWithin) :
    b.Deletes b.deleteBack
      (if b.selection.isEmpty then b.selection.start - 1 else b.selection.start)
      b.selection.stop := by
  obtain ⟨hss, hsl⟩ := h
  rw [lenChars_eq] at hsl
  unfold deleteBack backDeletion
  by_cases hnone : b.selection.isEmpty && b.selection.start == 0
  · simpa [hnone] using deletes_unchanged b _ _
  · simp only [hnone]
    -- a caret past the start, or a selection of at least one character
    apply deletes_deletion b _ hsl
    simp only [Selection.isEmpty, Bool.and_eq_true, beq_iff_eq, not_and] at hnone ⊢
    split <;> omega

/-- Delete removes the selection, or the character after a caret, and reports it. -/
theorem deleteForward_deletes {b : Buffer R} (h : b.SelectionWithin) :
    b.Deletes b.deleteForward b.selection.start
      (if b.selection.isEmpty then b.selection.stop + 1 else b.selection.stop) := by
  obtain ⟨hss, hsl⟩ := h
  unfold deleteForward forwardDeletion
  by_cases hnone : b.selection.isEmpty && decide (b.lenChars ≤ b.selection.stop)
  · simpa [hnone] using deletes_unchanged b _ _
  · simp only [hnone]
    rw [lenChars_eq] at hsl hnone
    -- a caret before the end, or a selection of at least one character
    simp only [Selection.isEmpty, Bool.and_eq_true, beq_iff_eq, decide_eq_true_eq,
      not_and, Nat.not_le] at hnone
    apply deletes_deletion b <;> simp only [Selection.isEmpty, beq_iff_eq] <;> split <;> omega

/-- In every buffer that its calls reach, the selection is ordered and lies within the
    text, so the selected text is as long as the selection; and Backspace and Delete report
    a change exactly when they make one, removing the selection, or the one character
    before (Backspace) or after (Delete) the caret, and leaving the caret where the
    removed characters began. -/
theorem Reachable.selection_bounded_and_deletes {b : Buffer R} (h : b.Reachable) :
    (b.selection.start ≤ b.selection.stop ∧ b.selection.stop ≤ b.lenChars) ∧
      b.selectedText.length = b.selection.len ∧
      b.Deletes b.deleteBack
        (if b.selection.isEmpty then b.selection.start - 1 else b.selection.start)
        b.selection.stop ∧
      b.Deletes b.deleteForward b.selection.start
        (if b.selection.isEmpty then b.selection.stop + 1 else b.selection.stop) :=
  ⟨h.selectionWithin, selectedText_length h.selectionWithin, deleteBack_deletes h.selectionWithin,
    deleteForward_deletes h.selectionWithin⟩

/-- With the last two characters of `a𝕩b` selected, Backspace removes exactly them and
    leaves the caret after `a`. -/
theorem Reachable.deleteBack_removes_selection :
    let b : Buffer String := (Buffer.ofText "a𝕩b").setSelection ⟨1, 9, .forward⟩
    b.selection.stop ≤ b.lenChars ∧ b.deleteBack.2.text.toList = ['a'] ∧
      b.deleteBack.2.selection = .caret 1 := by
  intro b
  have hb : b.Reachable := .setSelection _ (.ofText "a𝕩b")
  obtain ⟨⟨-, hstop⟩, -, ⟨-, hdel⟩, -⟩ := hb.selection_bounded_and_deletes
  obtain ⟨-, -, htext, hsel⟩ := hdel (by decide)
  exact ⟨hstop, htext.trans (by decide), hsel.trans (by decide)⟩

end Buffer

end BqnEdit.Editor
