import BqnEdit.Editor.Buffer

/-!
# The rope splice is the edit's splice

The buffer edits its rope in the rope's own way: it clamps the edit's range on character
indexes (the start to the character count, the end into the start and the count), removes
that range and inserts the edit's text at its start. `Edit.apply` edits a plain text
instead: the characters before the range, the edit's text, and the characters after it.
For every rope that splices as a rope must, the two agree on every edit, ranges that run
backwards or past the end included, and an edit that does nothing leaves the rope alone.
So a buffer driven by any sequence of editing calls holds the text that replaying their
edits on a plain text gives.

Main results:

* `Edit.apply_of_isNoop`: an edit that does nothing leaves a text as it is.
* `Buffer.text_apply`, `Buffer.selection_apply`: the text and selection after an edit.
* `Buffer.text_performAll`: after a run of calls the buffer holds the replayed text.
* `Buffer.apply_refines_edit`: the whole correspondence, step and run.
-/

namespace BqnEdit.Editor

/-! ## Plain texts -/

namespace Edit

theorem apply_of_isNoop {e : Edit} (h : e.isNoop = true) (t : String) : e.apply t = t := by
  simp only [isNoop, Bool.and_eq_true, decide_eq_true_eq, String.isEmpty_iff] at h
  obtain ⟨hle, htext⟩ := h
  apply String.ext
  rw [toList_apply, htext, Nat.max_eq_right hle]
  simp

/-- Replay edits on a plain text, in order. -/
def replay (t : String) (es : List Edit) : String := es.foldl (fun t e => e.apply t) t

@[simp] theorem replay_nil (t : String) : replay t [] = t := rfl

theorem replay_append (t : String) (es es' : List Edit) :
    replay t (es ++ es') = replay (replay t es) es' := by
  simp [replay, List.foldl_append]

end Edit

/-! ## The rope splice -/

section Splice

variable {R : Type} [Rope R]

namespace Buffer

@[simp] theorem text_setSelection (b : Buffer R) (s : Selection) :
    (b.setSelection s).text = b.text := rfl

@[simp] theorem selection_setSelection (b : Buffer R) (s : Selection) :
    (b.setSelection s).selection = s.clamp b.lenChars := rfl

theorem rope_apply_of_isNoop (b : Buffer R) {e : Edit} (h : e.isNoop = true) :
    (b.apply e).rope = b.rope ∧ (b.apply e).dirty = b.dirty := by
  simp [apply, h, setSelection]

theorem dirty_apply (b : Buffer R) {e : Edit} (h : e.isNoop = false) : (b.apply e).dirty = true := by
  simp [apply, h, setSelection]

/-- The selection is set last, clamped to the buffer that already holds the edited rope. -/
theorem selection_apply_eq_clamp (b : Buffer R) (e : Edit) :
    (b.apply e).selection = e.selection.clamp (b.apply e).lenChars := by
  cases h : e.isNoop <;> simp [apply, setSelection, lenChars, h]

end Buffer

variable [LawfulRope R]

/-- Removing the clamped range of an edit from a rope and inserting the edit's text at the
    clamped start splices the rope's text as `Edit.apply` does. -/
theorem toList_splice (r : R) (e : Edit) :
    let len := Rope.lenChars r
    let start := min e.lo len
    let stop := max start (min e.hi len)
    (Rope.text (Rope.insert (Rope.remove r start stop) start e.text)).toList =
      (e.apply (Rope.text r)).toList := by
  intro len start stop
  have hstart : start = min e.lo len := rfl
  have hstop : stop = max start (min e.hi len) := rfl
  have hlen : len = (Rope.text r).toList.length := by
    rw [String.length_toList]
    exact LawfulRope.lenChars_eq r
  have hremove := LawfulRope.toList_remove r (by omega : start ≤ stop) (by omega : stop ≤ len)
  -- what is left after the removal still reaches the start, where the text goes in
  have hroom : start ≤ Rope.lenChars (Rope.remove r start stop) := by
    rw [LawfulRope.lenChars_eq, ← String.length_toList, hremove]
    simp only [List.length_append, List.length_take, List.length_drop]
    omega
  have hcut : ((Rope.text r).toList.take start).length = start := by simp; omega
  rw [LawfulRope.toList_insert _ _ hroom, hremove, List.take_left' hcut, List.drop_left' hcut,
    Edit.toList_apply]
  -- both sides cut the text at the same two places once the clamps are taken off
  have htake : (Rope.text r).toList.take start = (Rope.text r).toList.take e.lo :=
    List.take_eq_take_iff.2 (by omega)
  have hdrop : (Rope.text r).toList.drop stop = (Rope.text r).toList.drop (max e.hi e.lo) :=
    List.drop_eq_drop_iff.2 (by omega)
  rw [htake, hdrop]

namespace Buffer

@[simp] theorem text_ofText (s : String) : (ofText s : Buffer R).text = s :=
  LawfulRope.text_ofString s

theorem lenChars_eq (b : Buffer R) : b.lenChars = b.text.length :=
  LawfulRope.lenChars_eq b.rope

/-- The buffer's text after an edit is the edit applied to its text. -/
theorem text_apply (b : Buffer R) (e : Edit) : (b.apply e).text = e.apply b.text := by
  cases h : e.isNoop with
  | true =>
    rw [Edit.apply_of_isNoop h]
    simp [apply, h]
  | false =>
    apply String.ext
    simp only [apply, h, Bool.false_eq_true, if_false, text_setSelection]
    exact toList_splice b.rope e

@[simp] theorem lenChars_apply (b : Buffer R) (e : Edit) :
    (b.apply e).lenChars = (e.apply b.text).length := by
  rw [lenChars_eq, text_apply]

/-- The buffer's selection after an edit is the edit's, clamped to the edited text. -/
theorem selection_apply (b : Buffer R) (e : Edit) :
    (b.apply e).selection = e.selection.clamp (e.apply b.text).length := by
  rw [← lenChars_apply, selection_apply_eq_clamp]

end Buffer

end Splice

/-! ## Runs of editing calls -/

/-- A call that edits the buffer: an edit given whole, typing, a block transform, and the
    two deletions. -/
inductive EditCall where
  | apply (e : Edit)
  | insert (literal : String) (closing : Option String)
  | transform (t : BlockTransform)
  | deleteBack
  | deleteForward

namespace Buffer

variable {R : Type} [Rope R] [LawfulRope R]

/-- Make a call: the edit it commits, if any, and the buffer after it. -/
def perform (b : Buffer R) : EditCall → Option Edit × Buffer R
  | .apply e => (some e, b.apply e)
  | .insert literal closing => let (e, b) := b.insert literal closing; (some e, b)
  | .transform t => let (e, b) := b.transform t; (some e, b)
  | .deleteBack => (b.backDeletion, b.deleteBack.2)
  | .deleteForward => (b.forwardDeletion, b.deleteForward.2)

/-- Make calls in turn: the edits they commit, in order, and the buffer after them. -/
def performAll (b : Buffer R) : List EditCall → List Edit × Buffer R
  | [] => ([], b)
  | c :: cs =>
    let (e, b) := b.perform c
    let (es, b) := b.performAll cs
    (e.toList ++ es, b)

/-- One call leaves the text that its committed edit, if any, makes of the text. -/
theorem text_perform (b : Buffer R) (c : EditCall) :
    (b.perform c).2.text = Edit.replay b.text (b.perform c).1.toList := by
  cases c with
  | apply e => simp [perform, Edit.replay, text_apply]
  | insert literal closing => simp [perform, insert, Edit.replay, text_apply]
  | transform t => simp [perform, transform, Edit.replay, text_apply]
  | deleteBack =>
    cases h : b.backDeletion <;> simp [perform, deleteBack, h, Edit.replay, text_apply]
  | deleteForward =>
    cases h : b.forwardDeletion <;> simp [perform, deleteForward, h, Edit.replay, text_apply]

/-- A run of calls leaves the text that replaying its committed edits makes of the text. -/
theorem text_performAll (b : Buffer R) (cs : List EditCall) :
    (b.performAll cs).2.text = Edit.replay b.text (b.performAll cs).1 := by
  induction cs generalizing b with
  | nil => rfl
  | cons c cs ih =>
    simp only [performAll, Edit.replay_append, ← text_perform]
    exact ih _

/-- The rope-backed buffer refines plain texts edited by `Edit.apply`. An edit leaves the
    edited text and the edit's selection clamped to it; it marks the buffer changed when it
    does anything and leaves the rope and the flag alone when it does nothing. A run of
    editing calls leaves the text that replaying the edits they commit gives. -/
theorem apply_refines_edit (b : Buffer R) (e : Edit) (cs : List EditCall) :
    (b.apply e).text = e.apply b.text ∧
      (b.apply e).selection = e.selection.clamp (e.apply b.text).length ∧
      (e.isNoop = false → (b.apply e).dirty = true) ∧
      (e.isNoop = true → (b.apply e).rope = b.rope ∧ (b.apply e).dirty = b.dirty) ∧
      (b.performAll cs).2.text = Edit.replay b.text (b.performAll cs).1 :=
  ⟨text_apply b e, selection_apply b e, dirty_apply b, rope_apply_of_isNoop b,
    text_performAll b cs⟩

/-- A range that runs backwards from past the end of the text appends the edit's text, and
    a deletion and a typed bracket after it leave the replayed text. -/
theorem apply_refines_edit_backwards :
    let b : Buffer String := ofText "a𝕩b"
    let e : Edit := ⟨7, 1, "yz", Selection.caret 9⟩
    let cs := [EditCall.deleteForward, .insert "⟨" (some "⟩")]
    (b.apply e).text = "a𝕩byz" ∧ (b.apply e).dirty = true ∧
      (b.performAll cs).2.text = Edit.replay b.text (b.performAll cs).1 := by
  intro b e cs
  have h := apply_refines_edit b e cs
  exact ⟨h.1.trans (by decide), h.2.2.1 (by decide), h.2.2.2.2⟩

end Buffer

end BqnEdit.Editor
