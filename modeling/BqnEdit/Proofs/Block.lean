import Mathlib
import BqnEdit.Editor.Block
import BqnEdit.Proofs.Lines

/-!
# What a block transform does to the text and the selection

A block transform cuts the text into lines, hands the lines the selection touches to a
line map, and splices what comes back in their place. When the map keeps lines free of
line feeds, the lines of the new text are the old lines before the block, the new
block, and the old lines after it; each end of the selection stays on its own line and
moves with the change in that line's length.

Main results:

* `applyBlock_spec`: the whole behaviour of a block transform, for any text, any
  selection and any line map that keeps lines unbroken: the refused and unchanged
  cases leave the text as it is, and otherwise the edit replaces exactly the touched
  lines, which become the new block, with each selection end placed on its line.
* `keepsUnbroken_indentLines`, `keepsUnbroken_outdentLines`,
  `keepsUnbroken_toggleCommentLines`: the shipped transforms keep lines unbroken.
-/

namespace BqnEdit.Editor

/-- Lines none of which holds a line feed. -/
def Unbroken (ls : List String) : Prop := ∀ l ∈ ls, '\n' ∉ l.toList

/-- A line map that turns lines without line feeds into lines without line feeds. -/
def LineMap.KeepsUnbroken (f : LineMap) : Prop := ∀ ls, Unbroken ls → Unbroken (f ls)

/-! ## Selections and edits -/

theorem Selection.new_of_le {a b : Nat} (h : a ≤ b) (d : Direction) :
    Selection.new a b d = ⟨a, b, d⟩ := by
  simp [Selection.new, h]

@[simp] theorem Selection.direction_clamp (s : Selection) (n : Nat) :
    (s.clamp n).direction = s.direction := by
  unfold Selection.clamp Selection.new
  split <;> rfl

@[simp] theorem Edit.apply_unchanged (s : Selection) (t : String) : (Edit.unchanged s).apply t = t := by
  rw [String.ext_iff, Edit.toList_apply]
  simp [Edit.unchanged]

/-! ## The lines of a text around a block -/

theorem textLines_eq (t : String) : textLines t = (splitLines t.toList).map String.ofList := rfl

theorem unbroken_textLines (t : String) : Unbroken (textLines t) := by
  intro l hl
  obtain ⟨cs, hcs, rfl⟩ := List.mem_map.mp hl
  simpa using not_mem_of_mem_splitLines hcs

theorem take_append_block_append_drop {α : Type} (L : List α) {s e : Nat} (hse : s ≤ e) :
    L.take s ++ (L.drop s).take (e + 1 - s) ++ L.drop (e + 1) = L := by
  have hrest : L.drop (e + 1) = (L.drop s).drop (e + 1 - s) := by
    rw [List.drop_drop]
    congr 1
    omega
  rw [hrest, List.append_assoc, List.take_append_drop, List.take_append_drop]

/-- A text is the lines before a block, each with its line feed, the block, and the lines
    after it, each after a line feed. -/
theorem toList_eq_around (t : String) {s e : Nat} (hse : s ≤ e)
    (he : e < (splitLines t.toList).length) :
    t.toList = ((splitLines t.toList).take s).flatMap (· ++ ['\n']) ++
      joinLines (((splitLines t.toList).drop s).take (e + 1 - s)) ++
      ((splitLines t.toList).drop (e + 1)).flatMap ('\n' :: ·) := by
  have hB : ((splitLines t.toList).drop s).take (e + 1 - s) ≠ [] := by
    simp only [ne_eq, List.take_eq_nil_iff, List.drop_eq_nil_iff]
    omega
  have h := joinLines_splice ((splitLines t.toList).take s) hB ((splitLines t.toList).drop (e + 1))
  rwa [take_append_block_append_drop _ hse, joinLines_splitLines] at h

/-- A line ends where the text after it, from its line feed on, begins. -/
theorem LineIndex.stop_ofText (t : String) {e : Nat} (he : e < (splitLines t.toList).length) :
    (LineIndex.ofText t).stop e + (((splitLines t.toList).drop (e + 1)).flatMap ('\n' :: ·)).length =
      t.length := by
  have h := congrArg List.length (toList_eq_around t (Nat.le_refl e) he)
  have hone : ((splitLines t.toList).drop e).take (e + 1 - e) = [(splitLines t.toList)[e]] := by
    rw [Nat.add_sub_cancel_left, List.drop_eq_getElem_cons he]
    rfl
  rw [hone, String.length_toList] at h
  rw [LineIndex.stop, LineIndex.start_ofText t he, LineIndex.lineLen_ofText, h]
  simp [joinLines, List.getD_eq_getElem?_getD, List.getElem?_eq_getElem he]
  omega

/-- Line `e` ends after the text before line `s ≤ e` and the lines `s` to `e`. -/
theorem LineIndex.stop_ofText_block (t : String) {s e : Nat} (hse : s ≤ e)
    (he : e < (splitLines t.toList).length) :
    (LineIndex.ofText t).stop e = (LineIndex.ofText t).start s +
      (joinLines (((splitLines t.toList).drop s).take (e + 1 - s))).length := by
  have hlen := congrArg List.length (toList_eq_around t hse he)
  have hend := LineIndex.stop_ofText t he
  rw [List.length_append, List.length_append, String.length_toList] at hlen
  rw [LineIndex.start_ofText t (by omega)]
  omega

theorem Edit.toList_apply_of_eq (e : Edit) {t : String} {P M S : List Char}
    (ht : t.toList = P ++ M ++ S) (hlo : e.lo = P.length) (hhi : e.hi = P.length + M.length) :
    (e.apply t).toList = P ++ e.text.toList ++ S := by
  have hpre : (P ++ M ++ S).take P.length = P := by simp
  have hsuf : (P ++ M ++ S).drop (P.length + M.length) = S := by
    rw [← List.length_append, List.drop_left]
  rw [Edit.toList_apply, ht, hlo, hhi, Nat.max_eq_left (Nat.le_add_right _ _), hpre, hsuf]

theorem length_getD_textLines (t : String) (i : Nat) :
    ((textLines t).getD i "").length = ((splitLines t.toList).getD i []).length := by
  simp only [textLines, List.getD_eq_getElem?_getD, List.getElem?_map]
  cases (splitLines t.toList)[i]? <;> simp

theorem getD_map_length (R : List String) (i : Nat) :
    (R.map String.length).getD i 0 = (R.getD i "").length := by
  simp only [List.getD_eq_getElem?_getD, List.getElem?_map]
  cases R[i]? <;> simp

theorem getD_zero_lt_sum_take (ns : List Nat) {k : Nat} (hk : 0 < k) (hns : ns ≠ []) :
    ns.getD 0 0 < ((ns.take k).map (· + 1)).sum := by
  obtain ⟨n, ns, rfl⟩ := List.exists_cons_of_ne_nil hns
  obtain ⟨k, rfl⟩ := Nat.exists_eq_add_of_lt hk
  simp
  omega

/-- Splicing lines without line feeds in place of a block: the new text splits into the
    lines before the block, the new lines, and the lines after it. -/
theorem splitLines_splice (cs : List (List Char)) (hcs : ∀ l ∈ cs, '\n' ∉ l) (s e : Nat)
    {R : List (List Char)} (hR : ∀ l ∈ R, '\n' ∉ l) (hne : R ≠ []) :
    splitLines ((cs.take s).flatMap (· ++ ['\n']) ++ joinLines R ++
        (cs.drop (e + 1)).flatMap ('\n' :: ·)) = cs.take s ++ R ++ cs.drop (e + 1) := by
  rw [← joinLines_splice _ hne]
  apply splitLines_joinLines _ (by simp [hne])
  intro l hl
  simp only [List.mem_append] at hl
  rcases hl with (hl | hl) | hl
  · exact hcs l (List.mem_of_mem_take hl)
  · exact hR l hl
  · exact hcs l (List.mem_of_mem_drop hl)

theorem length_flatMap_append_newline (ls : List (List Char)) :
    (ls.flatMap (· ++ ['\n'])).length = ((ls.map List.length).map (· + 1)).sum := by
  simp [Function.comp_def]

/-- An edit from the start of line `s` to the end of line `e` that writes lines without
    line feeds leaves the lines before and after the block, with the written lines in
    its place. -/
theorem splitLines_apply_block (t : String) {s e : Nat} (hse : s ≤ e)
    (he : e < (splitLines t.toList).length) {R : List String} (hRu : Unbroken R) (hRne : R ≠ [])
    (ed : Edit) (hlo : ed.lo = (LineIndex.ofText t).start s)
    (hhi : ed.hi = (LineIndex.ofText t).stop e) (htxt : ed.text = "\n".intercalate R) :
    splitLines (ed.apply t).toList =
      (splitLines t.toList).take s ++ R.map String.toList ++ (splitLines t.toList).drop (e + 1) := by
  have htext := toList_eq_around t hse he
  have hstart : (LineIndex.ofText t).start s =
      (((splitLines t.toList).take s).flatMap (· ++ ['\n'])).length :=
    LineIndex.start_ofText t (by omega)
  have hstop := LineIndex.stop_ofText_block t hse he
  have hjoin : ed.text.toList = joinLines (R.map String.toList) := by
    simp [htxt, joinLines_eq_intercalate]
  rw [Edit.toList_apply_of_eq ed htext (by rw [hlo, hstart]) (by rw [hhi, hstop, hstart]), hjoin]
  refine splitLines_splice _ (fun l hl => not_mem_of_mem_splitLines hl) s e ?_ (by simpa using hRne)
  intro l hl
  obtain ⟨r, hr, rfl⟩ := List.mem_map.mp hl
  exact hRu r hr

theorem start_ofText_splice {t : String} {P R C : List (List Char)}
    (ht : splitLines t.toList = P ++ R ++ C) {k : Nat} (hk : k < R.length) :
    (LineIndex.ofText t).start (P.length + k) =
      (P.flatMap (· ++ ['\n'])).length + (((R.take k).map List.length).map (· + 1)).sum := by
  rw [LineIndex.start_ofText _ (by rw [ht]; simp; omega), ht, List.append_assoc, List.take_append,
    List.take_of_length_le (by omega), Nat.add_sub_cancel_left,
    List.take_append_of_le_length (by omega), List.flatMap_append, List.length_append,
    length_flatMap_append_newline (R.take k)]

/-! ## The shipped transforms -/

theorem toList_outdentLine_suffix (l : String) : (outdentLine l).toList <:+ l.toList := by
  unfold outdentLine
  split
  next rest h =>
    rw [h, String.toList_ofList]
    exact (List.suffix_cons _ _).trans (List.suffix_cons _ _)
  next _ h =>
    rw [h, String.toList_ofList]
    exact List.suffix_cons _ _
  · exact List.suffix_refl _

theorem keepsUnbroken_indentLines : LineMap.KeepsUnbroken indentLines := by
  intro ls h l' hl'
  obtain ⟨l, hl, rfl⟩ := List.mem_map.mp hl'
  simpa [indentUnit] using h l hl

theorem keepsUnbroken_outdentLines : LineMap.KeepsUnbroken outdentLines := by
  intro ls h l' hl'
  obtain ⟨l, hl, rfl⟩ := List.mem_map.mp hl'
  exact fun hn => h l hl ((toList_outdentLine_suffix l).subset hn)

theorem keepsUnbroken_toggleCommentLines : LineMap.KeepsUnbroken toggleCommentLines := by
  intro ls h l' hl'
  obtain ⟨l, hl, rfl⟩ := List.mem_map.mp hl'
  have hno := h l hl
  split
  · simp only [String.toList_ofList, List.mem_append]
    rintro (hn | hn)
    · exact hno (List.mem_of_mem_take hn)
    · exact hno (List.mem_of_mem_drop hn)
  · simp only [String.toList_ofList, List.mem_append, List.mem_cons]
    rintro (hn | hn | hn)
    · exact hno (List.mem_of_mem_take hn)
    · exact absurd hn (by decide)
    · exact hno (List.mem_of_mem_drop hn)

/-- Every block transform the editor offers keeps lines unbroken. -/
theorem BlockTransform.keepsUnbroken_lineMap (t : BlockTransform) : t.lineMap.KeepsUnbroken := by
  cases t with
  | indent => exact keepsUnbroken_indentLines
  | outdent => exact keepsUnbroken_outdentLines
  | toggleComment => exact keepsUnbroken_toggleCommentLines

/-! ## The block transform -/

/-- The whole behaviour of a block transform. Let `s` and `e` be the lines of the clamped
    selection's ends and `R` what the line map makes of lines `s` to `e`. When `R` has
    another number of lines, or is the block itself, the edit changes nothing and keeps the
    clamped selection. Otherwise it replaces the text from the start of line `s` to the end
    of line `e`, the new text's lines are the old ones with `R` in place of the block, and
    each end of the selection sits on its own line, moved by the change in that line's
    length but never before its start nor past its end. -/
theorem applyBlock_spec (f : LineMap) (hf : f.KeepsUnbroken) (text : String) (sel : Selection) :
    let sel' := sel.clamp text.length
    let ix := LineIndex.ofText text
    let L := textLines text
    let s := ix.lineOf sel'.start
    let e := ix.lineOf sel'.stop
    let block := (L.drop s).take (e + 1 - s)
    let R := f block
    let edit := applyBlock f text sel
    if R.length ≠ block.length ∨ R = block then
      edit = Edit.unchanged sel' ∧ edit.apply text = text
    else
      let ix' := LineIndex.ofText (edit.apply text)
      edit.lo = ix.start s ∧ edit.hi = ix.stop e ∧ edit.lo ≤ edit.hi ∧ edit.hi ≤ text.length ∧
      textLines (edit.apply text) = L.take s ++ R ++ L.drop (e + 1) ∧
      edit.selection =
        ⟨ix'.start s + min (sel'.start - ix.start s + (R.getD 0 "").length - (L.getD s "").length)
            (R.getD 0 "").length,
         ix'.start e +
          min (sel'.stop - ix.start e + (R.getD (e - s) "").length - (L.getD e "").length)
            (R.getD (e - s) "").length,
         sel.direction⟩ := by
  intro sel' ix L s e block R edit
  by_cases h : R.length ≠ block.length ∨ R = block
  · rw [if_pos h]
    have hedit : edit = Edit.unchanged sel' := by
      simp only [edit, applyBlock]
      rw [if_pos h]
    exact ⟨hedit, by rw [hedit, Edit.apply_unchanged]⟩
  rw [if_neg h]
  have hedit : edit =
      { lo := ix.start s, hi := ix.stop e, text := "\n".intercalate R,
        selection := Selection.new
          (ix.start s + min (sel'.start - ix.start s + (R.map String.length).getD 0 0 -
              ix.lineLen (s + 0)) ((R.map String.length).getD 0 0))
          (ix.start s + (((R.map String.length).take (R.length - 1)).map (· + 1)).sum +
            min (sel'.stop - ix.start e + (R.map String.length).getD (R.length - 1) 0 -
              ix.lineLen (s + (R.length - 1))) ((R.map String.length).getD (R.length - 1) 0))
          sel'.direction } := by
    simp only [edit, applyBlock, List.length_map]
    rw [if_neg h]
  simp only [ne_eq, not_or, Decidable.not_not] at h
  obtain ⟨hlen, hchanged⟩ := h
  -- where the block lies
  have hsize := LineIndex.size_ofText_pos text
  have hse : s ≤ e := LineIndex.lineOf_mono ix hsize (Selection.clamp_le sel text.length).1
  have he : e < (splitLines text.toList).length := by
    rw [← LineIndex.size_ofText]
    exact LineIndex.lineOf_lt_size ix hsize _
  have hL : L.length = (splitLines text.toList).length := by simp [L, textLines]
  have hR : R.length = e + 1 - s := by
    rw [hlen]
    simp only [block, List.length_take, List.length_drop]
    omega
  have hRne : R ≠ [] := by
    intro h0
    simp only [h0, List.length_nil] at hR
    omega
  have hRu : Unbroken R := hf block fun l hl =>
    unbroken_textLines text l (List.mem_of_mem_drop (List.mem_of_mem_take hl))
  -- the lines of the new text, and where the selection's lines start in it
  have hsplit := splitLines_apply_block text hse he hRu hRne edit (by rw [hedit]) (by rw [hedit])
    (by rw [hedit])
  have hA : ((splitLines text.toList).take s).length = s := by simp; omega
  have hlo : ix.start s = (((splitLines text.toList).take s).flatMap (· ++ ['\n'])).length :=
    LineIndex.start_ofText text (by omega)
  have hs' : (LineIndex.ofText (edit.apply text)).start s = ix.start s := by
    have h0 := start_ofText_splice hsplit (k := 0) (by simp; omega)
    rw [hA, Nat.add_zero] at h0
    simp [h0, hlo]
  have he' : (LineIndex.ofText (edit.apply text)).start e =
      ix.start s + (((R.map String.length).take (e - s)).map (· + 1)).sum := by
    have hk := start_ofText_splice hsplit (k := e - s) (by simp; omega)
    rw [hA, Nat.add_sub_cancel' hse] at hk
    simp [hk, hlo, List.map_take, Function.comp_def, String.length_toList]
  have hhi : ix.stop e = ix.start s +
      (joinLines (((splitLines text.toList).drop s).take (e + 1 - s))).length :=
    LineIndex.stop_ofText_block text hse he
  have hstop : ix.stop e ≤ text.length := by
    have hend : ix.stop e + _ = text.length := LineIndex.stop_ofText text he
    omega
  have hk : R.length - 1 = e - s := by omega
  have hse' : s + (e - s) = e := by omega
  have hlineLen : ∀ i, ix.lineLen i = (L.getD i "").length := fun i => by
    rw [LineIndex.lineLen_ofText, length_getD_textLines]
  rw [hk, hse', Nat.add_zero, hlineLen, hlineLen, getD_map_length, getD_map_length] at hedit
  -- the new selection is ordered: in one line both ends move alike, and over several lines
  -- the start stays on the first line, before the last line begins
  have hsel : sel'.start ≤ sel'.stop := (Selection.clamp_le sel text.length).1
  have hord : ix.start s + min (sel'.start - ix.start s + (R.getD 0 "").length -
        (L.getD s "").length) (R.getD 0 "").length ≤
      ix.start s + (((R.map String.length).take (e - s)).map (· + 1)).sum +
        min (sel'.stop - ix.start e + (R.getD (e - s) "").length - (L.getD e "").length)
          (R.getD (e - s) "").length := by
    rcases Nat.lt_or_ge s e with hlt | hge
    · have hfirst := getD_zero_lt_sum_take (R.map String.length) (k := e - s) (by omega)
        (by simpa using hRne)
      rw [getD_map_length] at hfirst
      omega
    · have hes : e = s := by omega
      rw [hes, Nat.sub_self, List.take_zero]
      simp only [List.map_nil, List.sum_nil, Nat.add_zero]
      omega
  refine ⟨by rw [hedit], by rw [hedit], by rw [hedit]; dsimp only; omega,
    by rw [hedit]; dsimp only; omega, ?_, ?_⟩
  · rw [textLines_eq, hsplit]
    simp [L, textLines_eq, List.map_take, List.map_drop, Function.comp_def]
  · rw [hs', he', hedit]
    dsimp only
    rw [Selection.new_of_le hord, Selection.direction_clamp]

/-- Indenting two lines of a text with a selection across them. -/
theorem applyBlock_spec_indent : LineMap.KeepsUnbroken indentLines ∧
    let sel' := (⟨1, 4, .forward⟩ : Selection).clamp "ab\ncd".length
    let ix := LineIndex.ofText "ab\ncd"
    let L := textLines "ab\ncd"
    let s := ix.lineOf sel'.start
    let e := ix.lineOf sel'.stop
    let block := (L.drop s).take (e + 1 - s)
    let R := indentLines block
    let edit := applyBlock indentLines "ab\ncd" ⟨1, 4, .forward⟩
    if R.length ≠ block.length ∨ R = block then
      edit = Edit.unchanged sel' ∧ edit.apply "ab\ncd" = "ab\ncd"
    else
      let ix' := LineIndex.ofText (edit.apply "ab\ncd")
      edit.lo = ix.start s ∧ edit.hi = ix.stop e ∧ edit.lo ≤ edit.hi ∧ edit.hi ≤ "ab\ncd".length ∧
      textLines (edit.apply "ab\ncd") = L.take s ++ R ++ L.drop (e + 1) ∧
      edit.selection =
        ⟨ix'.start s + min (sel'.start - ix.start s + (R.getD 0 "").length - (L.getD s "").length)
            (R.getD 0 "").length,
         ix'.start e +
          min (sel'.stop - ix.start e + (R.getD (e - s) "").length - (L.getD e "").length)
            (R.getD (e - s) "").length,
         Direction.forward⟩ :=
  ⟨keepsUnbroken_indentLines,
    applyBlock_spec indentLines keepsUnbroken_indentLines "ab\ncd" ⟨1, 4, .forward⟩⟩

end BqnEdit.Editor
