import BqnEdit.Proofs.Comment

/-!
# Indenting and outdenting a block

Indenting puts two spaces before every line the selection touches; outdenting takes two
leading spaces away from each, or one, or none. Both are line maps that change the touched
lines one by one, so the selection the first leaves touches exactly the lines it wrote, and
a second map that undoes the first on those lines gives back the text. When the first map
lengthens every line by the same amount, each end of the selection moves right by it on its
own line and back again, so the selection comes back too.

Main results:

* `applyBlock_map_touched`: after a block transform that changes the touched lines one by
  one, the selection it leaves touches exactly the changed lines.
* `applyBlock_map_twice`: a second transform that undoes the first on those lines gives
  back the text, and each end of the selection lands where two line-local moves take it.
* `indent_selection`: indenting moves the selection's start two places right, and its end
  two places for every touched line.
* `indent_outdent_inverse`: outdenting undoes indenting, text and selection, and indenting
  undoes outdenting on lines that all start with two spaces.
-/

namespace BqnEdit.Editor

/-- Where an end of the selection lands, at line-local offset `o`, when its line changes
    from `old` to `new`: it moves by the change in length, but never before the line's start
    nor past its new end. -/
def shiftOn (o : Nat) (old new : String) : Nat := min (o + new.length - old.length) new.length

theorem shiftOn_shiftOn_of_lengthen {o d : Nat} {old new : String} (ho : o ≤ old.length)
    (hnew : new.length = old.length + d) : shiftOn (shiftOn o old new) new old = o := by
  simp only [shiftOn, hnew]
  omega

theorem map_ne_self_of_length_ne {g : String → String} {B : List String} (hne : B ≠ [])
    (hg : ∀ l ∈ B, (g l).length ≠ l.length) : B.map g ≠ B := by
  obtain ⟨l, rest, rfl⟩ := List.exists_cons_of_ne_nil hne
  intro h
  rw [List.map_cons, List.cons.injEq] at h
  exact hg l List.mem_cons_self (congrArg String.length h.1)

/-- Lengthening every line of a block by `d` lengthens the block, each line with its line
    feed, by `d` for every line. -/
theorem sum_map_lengthen {g : String → String} {d : Nat} :
    {B : List String} → (∀ l ∈ B, (g l).length = l.length + d) →
      ((B.map g).map (·.length + 1)).sum = (B.map (·.length + 1)).sum + d * B.length
  | [], _ => rfl
  | l :: B, hg => by
    have ih := sum_map_lengthen (B := B) fun l' hl' => hg l' (List.mem_cons_of_mem _ hl')
    simp only [List.map_cons, List.sum_cons, List.length_cons, hg l List.mem_cons_self] at ih ⊢
    rw [ih, Nat.mul_succ]
    omega

theorem LineIndex.start_ofText_eq_sum (t : String) {i : Nat} (hi : i < (textLines t).length) :
    (ofText t).start i = (((textLines t).take i).map (·.length + 1)).sum := by
  rw [textLines, List.length_map] at hi
  rw [start_ofText t hi, length_flatMap_append_newline, textLines, ← List.map_take, List.map_map,
    List.map_map]
  congr 2
  funext l
  simp

theorem length_take_lineOf (text : String) (o : Nat) :
    ((textLines text).take ((LineIndex.ofText text).lineOf o)).length = (LineIndex.ofText text).lineOf o :=
  List.length_take_of_le (LineIndex.lineOf_lt_length_textLines text o).le

/-! ## A block transform that maps the touched lines -/

section Twice

variable {f : LineMap} (hf : f.KeepsUnbroken) (g : String → String) {text : String}
  {sel : Selection} (hsel : sel.start ≤ sel.stop) (hlen : sel.stop ≤ text.length)
  (hfg : f (touchedLines text sel) = (touchedLines text sel).map g)
  (hchanged : (touchedLines text sel).map g ≠ touchedLines text sel)
include hf hsel hlen hfg hchanged

/-- The lines of the text after a block transform that maps the touched lines: the changed
    lines stand where the touched ones stood, and each end of the selection sits on its line,
    moved as `shiftOn` says. -/
theorem applyBlock_map_shiftOn :
    let ix := LineIndex.ofText text
    let L := textLines text
    let s := ix.lineOf sel.start
    let e := ix.lineOf sel.stop
    let edit := applyBlock f text sel
    let ix' := LineIndex.ofText (edit.apply text)
    textLines (edit.apply text) = L.take s ++ (touchedLines text sel).map g ++ L.drop (e + 1) ∧
      edit.selection =
        ⟨ix'.start s + shiftOn (sel.start - ix.start s) (L.getD s "") (g (L.getD s "")),
          ix'.start e + shiftOn (sel.stop - ix.start e) (L.getD e "") (g (L.getD e "")),
          sel.direction⟩ :=
  applyBlock_map hf g hsel hlen hfg hchanged

/-- Line `s + i` of the new text, for `s` the line of the selection's start and `s + i` a
    touched line, is that line changed. -/
theorem applyBlock_map_getD {i : Nat}
    (hi : i ≤ (LineIndex.ofText text).lineOf sel.stop - (LineIndex.ofText text).lineOf sel.start) :
    (textLines ((applyBlock f text sel).apply text)).getD ((LineIndex.ofText text).lineOf sel.start + i) "" =
      g ((textLines text).getD ((LineIndex.ofText text).lineOf sel.start + i) "") := by
  have hlines := (applyBlock_map_shiftOn hf g hsel hlen hfg hchanged).1
  have hse := lineOf_start_le_lineOf_stop text hsel
  have helt := LineIndex.lineOf_lt_length_textLines text sel.stop
  have hBlen := length_touchedLines hsel hlen
  rw [hlines, getD_splice (length_take_lineOf text sel.start) (by simp only [List.length_map]; omega), getD_map_of_lt _ (by omega),
    getD_touchedLines hsel hlen hi]

/-- The lines of both ends of the selection, changed. -/
theorem applyBlock_map_getD_ends :
    (textLines ((applyBlock f text sel).apply text)).getD ((LineIndex.ofText text).lineOf sel.start) "" =
        g ((textLines text).getD ((LineIndex.ofText text).lineOf sel.start) "") ∧
      (textLines ((applyBlock f text sel).apply text)).getD ((LineIndex.ofText text).lineOf sel.stop) "" =
        g ((textLines text).getD ((LineIndex.ofText text).lineOf sel.stop) "") := by
  have hse := lineOf_start_le_lineOf_stop text hsel
  have h0 := applyBlock_map_getD hf g hsel hlen hfg hchanged (Nat.zero_le _)
  have he := applyBlock_map_getD hf g hsel hlen hfg hchanged (Nat.le_refl _)
  rw [Nat.add_zero] at h0
  rw [Nat.add_sub_cancel' hse] at he
  exact ⟨h0, he⟩

theorem length_textLines_applyBlock_map :
    (textLines ((applyBlock f text sel).apply text)).length = (textLines text).length := by
  have hse := lineOf_start_le_lineOf_stop text hsel
  have helt := LineIndex.lineOf_lt_length_textLines text sel.stop
  rw [(applyBlock_map_shiftOn hf g hsel hlen hfg hchanged).1]
  simp only [List.length_append, List.length_map, List.length_drop, length_take_lineOf,
    length_touchedLines hsel hlen]
  omega

/-- After a block transform that maps the touched lines and changes them, the selection it
    leaves is ordered, lies within the new text, has its ends on the same lines as before, and
    touches exactly the changed lines. -/
theorem applyBlock_map_touched :
    let ix := LineIndex.ofText text
    let edit := applyBlock f text sel
    let ix' := LineIndex.ofText (edit.apply text)
    edit.selection.start ≤ edit.selection.stop ∧ edit.selection.stop ≤ (edit.apply text).length ∧
      ix'.lineOf edit.selection.start = ix.lineOf sel.start ∧
      ix'.lineOf edit.selection.stop = ix.lineOf sel.stop ∧
      touchedLines (edit.apply text) edit.selection = (touchedLines text sel).map g := by
  obtain ⟨hlines1, hsel1⟩ := applyBlock_map_shiftOn hf g hsel hlen hfg hchanged
  dsimp only at hlines1 hsel1 ⊢
  set t1 := (applyBlock f text sel).apply text with ht1
  set sel1 := (applyBlock f text sel).selection with hsel1def
  set ix := LineIndex.ofText text with hix
  set L := textLines text with hL
  set s := ix.lineOf sel.start with hs
  set e := ix.lineOf sel.stop with he
  set B := touchedLines text sel with hB
  have hse : s ≤ e := lineOf_start_le_lineOf_stop text hsel
  have helt : e < L.length := LineIndex.lineOf_lt_length_textLines text _
  have hBlen : B.length = e + 1 - s := length_touchedLines hsel hlen
  have hA : (L.take s).length = s := length_take_lineOf text sel.start
  have hlen1 : (textLines t1).length = L.length :=
    length_textLines_applyBlock_map hf g hsel hlen hfg hchanged
  obtain ⟨hline_s, hline_e⟩ := applyBlock_map_getD_ends hf g hsel hlen hfg hchanged
  -- each end stays within its changed line
  have hj_s : shiftOn (sel.start - ix.start s) (L.getD s "") (g (L.getD s "")) ≤
      ((textLines t1).getD s "").length := by
    rw [hline_s]
    exact Nat.min_le_right _ _
  have hj_e : shiftOn (sel.stop - ix.start e) (L.getD e "") (g (L.getD e "")) ≤
      ((textLines t1).getD e "").length := by
    rw [hline_e]
    exact Nat.min_le_right _ _
  have hs1 : (LineIndex.ofText t1).lineOf sel1.start = s := by
    rw [hsel1]
    exact LineIndex.lineOf_start_add_of_le t1 (by omega) hj_s
  have he1 : (LineIndex.ofText t1).lineOf sel1.stop = e := by
    rw [hsel1]
    exact LineIndex.lineOf_start_add_of_le t1 (by omega) hj_e
  have hord1 : sel1.start ≤ sel1.stop := by
    rw [hsel1]
    dsimp only
    rcases Nat.lt_or_ge s e with hlt | hge
    · -- the start stays on an earlier line, before the line of the end begins
      have := LineIndex.start_add_lt_start t1 hlt (by omega) hj_s
      omega
    · -- on one line both ends move alike, so they keep their order
      have hes : e = s := by omega
      rw [hes]
      have hoffs : sel.start - ix.start s ≤ sel.stop - ix.start e := by
        rw [hes]
        omega
      rw [hes] at hoffs
      simp only [shiftOn]
      omega
  have hlen1' : sel1.stop ≤ t1.length := by
    rw [hsel1]
    exact LineIndex.start_add_le_length t1 (by omega) hj_e
  refine ⟨hord1, hlen1', hs1, he1, ?_⟩
  have hClen : (B.map g).length = e + 1 - s := by
    simp only [List.length_map]
    omega
  simp only [touchedLines, Selection.clamp_of_le hord1 hlen1', hs1, he1, hlines1]
  rw [List.append_assoc, List.drop_left' hA, List.take_left' hClen]

/-- When the map lengthens every touched line by `d`, line `s + i` of the block starts `d`
    places later for every changed line before it. -/
theorem applyBlock_map_start {d : Nat} (hd : ∀ l ∈ touchedLines text sel, (g l).length = l.length + d)
    {i : Nat}
    (hi : i ≤ (LineIndex.ofText text).lineOf sel.stop - (LineIndex.ofText text).lineOf sel.start) :
    (LineIndex.ofText ((applyBlock f text sel).apply text)).start
        ((LineIndex.ofText text).lineOf sel.start + i) =
      (LineIndex.ofText text).start ((LineIndex.ofText text).lineOf sel.start + i) + d * i := by
  have hlines := (applyBlock_map_shiftOn hf g hsel hlen hfg hchanged).1
  set s := (LineIndex.ofText text).lineOf sel.start with hs
  set e := (LineIndex.ofText text).lineOf sel.stop with he
  set B := touchedLines text sel with hB
  set L := textLines text with hL
  have hse : s ≤ e := lineOf_start_le_lineOf_stop text hsel
  have helt : e < L.length := LineIndex.lineOf_lt_length_textLines text _
  have hBlen : B.length = e + 1 - s := length_touchedLines hsel hlen
  have hA : (L.take s).length = s := length_take_lineOf text sel.start
  -- the lines before line `s + i`: those before the block, and `i` lines of the block
  have hbefore : ∀ C : List String, C.length = B.length →
      (L.take s ++ C ++ L.drop (e + 1)).take (s + i) = L.take s ++ C.take i := by
    intro C hC
    rw [List.append_assoc, List.take_append, List.take_take, hA, Nat.min_eq_right (Nat.le_add_right _ _),
      Nat.add_sub_cancel_left, List.take_append_of_le_length (by omega)]
  have hnew : (textLines ((applyBlock f text sel).apply text)).take (s + i) = L.take s ++ (B.take i).map g := by
    rw [hlines, hbefore _ (List.length_map _), List.map_take]
  have haround : L = L.take s ++ B ++ L.drop (e + 1) := textLines_eq_around hsel hlen
  have hold : L.take (s + i) = L.take s ++ B.take i := (congrArg _ haround).trans (hbefore B rfl)
  have hlen' : (textLines ((applyBlock f text sel).apply text)).length = L.length :=
    length_textLines_applyBlock_map hf g hsel hlen hfg hchanged
  have hlt : s + i < L.length := by omega
  have hlt' : s + i < (textLines ((applyBlock f text sel).apply text)).length := by omega
  have hsum := sum_map_lengthen (g := g) (B := B.take i) fun l hl => hd l (List.mem_of_mem_take hl)
  rw [LineIndex.start_ofText_eq_sum _ hlt', LineIndex.start_ofText_eq_sum _ hlt, hnew, hold,
    List.map_append, List.map_append, List.sum_append, List.sum_append, hsum, List.length_take,
    Nat.min_eq_left (by omega)]
  omega

/-- A second block transform that maps the lines the first one wrote back to the touched
    lines, applied with the selection the first one left, gives back the text; each end of
    the selection is moved on its line as the first map moved it, and then back. -/
theorem applyBlock_map_twice {f' : LineMap} (hf' : f'.KeepsUnbroken) (g' : String → String)
    (hfg' : f' ((touchedLines text sel).map g) = ((touchedLines text sel).map g).map g')
    (hinv : ∀ l ∈ touchedLines text sel, g' (g l) = l) :
    let ix := LineIndex.ofText text
    let L := textLines text
    let s := ix.lineOf sel.start
    let e := ix.lineOf sel.stop
    let e1 := applyBlock f text sel
    let e2 := applyBlock f' (e1.apply text) e1.selection
    e2.apply (e1.apply text) = text ∧
      e2.selection =
        ⟨ix.start s + shiftOn (shiftOn (sel.start - ix.start s) (L.getD s "") (g (L.getD s "")))
            (g (L.getD s "")) (L.getD s ""),
          ix.start e + shiftOn (shiftOn (sel.stop - ix.start e) (L.getD e "") (g (L.getD e "")))
            (g (L.getD e "")) (L.getD e ""),
          sel.direction⟩ := by
  obtain ⟨hlines1, hsel1⟩ := applyBlock_map_shiftOn hf g hsel hlen hfg hchanged
  obtain ⟨hord1, hlen1, hs1, he1, htouched⟩ := applyBlock_map_touched hf g hsel hlen hfg hchanged
  dsimp only at hlines1 hsel1 hs1 he1 htouched ⊢
  set t1 := (applyBlock f text sel).apply text with ht1
  set sel1 := (applyBlock f text sel).selection with hsel1def
  set ix := LineIndex.ofText text with hix
  set L := textLines text with hL
  set s := ix.lineOf sel.start with hs
  set e := ix.lineOf sel.stop with he
  set B := touchedLines text sel with hB
  have hse : s ≤ e := lineOf_start_le_lineOf_stop text hsel
  have helt : e < L.length := LineIndex.lineOf_lt_length_textLines text _
  have hBlen : B.length = e + 1 - s := length_touchedLines hsel hlen
  have hA : (L.take s).length = s := length_take_lineOf text sel.start
  -- the second map gives back the touched lines, so it changes the lines the first wrote
  have hback : (B.map g).map g' = B := by
    rw [List.map_map]
    conv_rhs => rw [← List.map_id B]
    exact List.map_congr_left fun l hl => hinv l hl
  have hchanged' : (touchedLines t1 sel1).map g' ≠ touchedLines t1 sel1 := by
    rw [htouched, hback]
    exact fun h => hchanged h.symm
  obtain ⟨hlines2, hsel2⟩ := applyBlock_map_shiftOn hf' g' hord1 hlen1 (by rw [htouched]; exact hfg')
    hchanged'
  rw [hs1, he1, htouched, hback] at hlines2
  rw [hs1, he1] at hsel2
  -- the lines come back
  have htext : (applyBlock f' t1 sel1).apply t1 = text := by
    apply textLines_injective
    have hAC : (L.take s ++ B.map g).length = e + 1 := by
      simp only [List.length_append, hA, List.length_map]
      omega
    have htake : (L.take s ++ B.map g ++ L.drop (e + 1)).take s = L.take s := by
      rw [List.append_assoc, List.take_left' hA]
    rw [hlines2, hlines1, htake, List.drop_left' hAC]
    exact (textLines_eq_around hsel hlen).symm
  refine ⟨htext, ?_⟩
  -- each end was moved on its changed line, and is moved back on the restored one
  obtain ⟨hlen1s, hlen1e⟩ := applyBlock_map_getD_ends hf g hsel hlen hfg hchanged
  have hback_s : g' (g (L.getD s "")) = L.getD s "" :=
    hinv _ (ends_mem_touchedLines hsel hlen).1
  have hback_e : g' (g (L.getD e "")) = L.getD e "" :=
    hinv _ (ends_mem_touchedLines hsel hlen).2
  rw [hsel2, htext, ← hix, hlen1s, hlen1e, hback_s, hback_e, hsel1]
  simp only [Nat.add_sub_cancel_left]
  rfl

end Twice

/-! ## Indenting and outdenting -/

theorem length_indentUnit_append (l : String) : (indentUnit ++ l).length = l.length + 2 := by
  rw [String.length_append, Nat.add_comm]
  rfl

theorem outdentLine_indentUnit_append (l : String) : outdentLine (indentUnit ++ l) = l := by
  have h : (indentUnit ++ l).toList = ' ' :: ' ' :: l.toList := by
    rw [String.toList_append]
    rfl
  rw [outdentLine, h]
  exact String.ofList_toList

section Indented
variable {l : String} (h : indentUnit.toList <+: l.toList)
include h

theorem indentUnit_append_outdentLine : indentUnit ++ outdentLine l = l := by
  obtain ⟨rest, hrest⟩ := h
  have hl : l = indentUnit ++ String.ofList rest := by
    apply String.ext
    rw [String.toList_append, String.toList_ofList, hrest]
  rw [hl, outdentLine_indentUnit_append]

theorem length_outdentLine_of_prefix : (outdentLine l).length + 2 = l.length := by
  conv_rhs => rw [← indentUnit_append_outdentLine h]
  rw [length_indentUnit_append]

end Indented

theorem touchedLines_ne_nil {text : String} {sel : Selection} (hsel : sel.start ≤ sel.stop)
    (hlen : sel.stop ≤ text.length) : touchedLines text sel ≠ [] := by
  have hB := length_touchedLines hsel hlen
  have hse := lineOf_start_le_lineOf_stop text hsel
  intro h
  rw [h, List.length_nil] at hB
  omega

section
variable {text : String} {sel : Selection} (hsel : sel.start ≤ sel.stop) (hlen : sel.stop ≤ text.length)
include hsel hlen

theorem indent_changes :
    (touchedLines text sel).map (indentUnit ++ ·) ≠ touchedLines text sel :=
  map_ne_self_of_length_ne (touchedLines_ne_nil hsel hlen) fun l _ => by
    rw [length_indentUnit_append]
    omega

/-- Indenting moves the selection's start two places right, and its end two places for each
    touched line, and keeps its direction. -/
theorem indent_selection :
    (BlockTransform.indent.apply text sel).selection =
      ⟨sel.start + 2, sel.stop + 2 * (touchedLines text sel).length, sel.direction⟩ := by
  have hlens : ∀ l ∈ touchedLines text sel, (indentUnit ++ l).length = l.length + 2 :=
    fun l _ => length_indentUnit_append l
  have hsel1 := (applyBlock_map_shiftOn keepsUnbroken_indentLines (indentUnit ++ ·) hsel hlen rfl
    (indent_changes hsel hlen)).2
  have hse := lineOf_start_le_lineOf_stop text hsel
  have hstart0 := applyBlock_map_start keepsUnbroken_indentLines (indentUnit ++ ·) hsel hlen rfl
    (indent_changes hsel hlen) hlens (Nat.zero_le _)
  have hstart := applyBlock_map_start keepsUnbroken_indentLines (indentUnit ++ ·) hsel hlen rfl
    (indent_changes hsel hlen) hlens (Nat.le_refl _)
  rw [Nat.add_zero] at hstart0
  rw [Nat.add_sub_cancel' hse] at hstart
  have hoff_s := LineIndex.offset_within_lineOf text (hsel.trans hlen)
  have hoff_e := LineIndex.offset_within_lineOf text hlen
  have hB := length_touchedLines hsel hlen
  rw [show BlockTransform.indent.apply text sel = applyBlock indentLines text sel from rfl, hsel1,
    hstart0, hstart, Selection.mk.injEq]
  simp only [shiftOn, length_indentUnit_append, and_true]
  constructor <;> omega

/-- Outdenting, with the selection that indenting left, gives back the text and the
    selection. -/
theorem outdent_indent :
    let e1 := BlockTransform.indent.apply text sel
    let e2 := BlockTransform.outdent.apply (e1.apply text) e1.selection
    e2.apply (e1.apply text) = text ∧ e2.selection = sel := by
  have htwice := applyBlock_map_twice keepsUnbroken_indentLines (indentUnit ++ ·) hsel hlen rfl
    (indent_changes hsel hlen) keepsUnbroken_outdentLines outdentLine rfl
    (fun l _ => outdentLine_indentUnit_append l)
  dsimp only at htwice ⊢
  refine ⟨htwice.1, htwice.2.trans ?_⟩
  have hoff_s := LineIndex.offset_within_lineOf text (hsel.trans hlen)
  have hoff_e := LineIndex.offset_within_lineOf text hlen
  rw [shiftOn_shiftOn_of_lengthen hoff_s.2 (length_indentUnit_append _),
    shiftOn_shiftOn_of_lengthen hoff_e.2 (length_indentUnit_append _), Selection.mk.injEq]
  exact ⟨by omega, by omega, rfl⟩

/-- On lines that all start with two spaces, indenting, with the selection that outdenting
    left, gives back the text. -/
theorem indent_outdent_of_prefix
    (hind : ∀ l ∈ touchedLines text sel, indentUnit.toList <+: l.toList) :
    let o1 := BlockTransform.outdent.apply text sel
    (BlockTransform.indent.apply (o1.apply text) o1.selection).apply (o1.apply text) = text := by
  have hchanged : (touchedLines text sel).map outdentLine ≠ touchedLines text sel :=
    map_ne_self_of_length_ne (touchedLines_ne_nil hsel hlen) fun l hl => by
      have := length_outdentLine_of_prefix (hind l hl)
      omega
  exact (applyBlock_map_twice keepsUnbroken_outdentLines outdentLine hsel hlen rfl hchanged
    keepsUnbroken_indentLines (indentUnit ++ ·) rfl
    (fun l hl => indentUnit_append_outdentLine (hind l hl))).1

end

/-- Indenting the lines a selection touches moves its start two places right and its end two
    places for each touched line, in the same direction; outdenting with that selection gives
    back the text and the selection. Conversely, when every touched line starts with two
    spaces, indenting with the selection outdenting leaves gives back the text. -/
theorem indent_outdent_inverse (text : String) (sel : Selection) (hsel : sel.start ≤ sel.stop)
    (hlen : sel.stop ≤ text.length) :
    let e1 := BlockTransform.indent.apply text sel
    let e2 := BlockTransform.outdent.apply (e1.apply text) e1.selection
    e1.selection = ⟨sel.start + 2, sel.stop + 2 * (touchedLines text sel).length, sel.direction⟩ ∧
      e2.apply (e1.apply text) = text ∧ e2.selection = sel ∧
      ((∀ l ∈ touchedLines text sel, indentUnit.toList <+: l.toList) →
        let o1 := BlockTransform.outdent.apply text sel
        (BlockTransform.indent.apply (o1.apply text) o1.selection).apply (o1.apply text) = text) :=
  ⟨indent_selection hsel hlen, (outdent_indent hsel hlen).1, (outdent_indent hsel hlen).2,
    indent_outdent_of_prefix hsel hlen⟩

/-- Indenting two indented lines with a selection across them, and undoing it either way. -/
theorem indent_outdent_inverse_two_lines :
    let text := "  ab\n  cd"
    let sel : Selection := ⟨3, 8, .forward⟩
    (sel.start ≤ sel.stop ∧ sel.stop ≤ text.length ∧
      ∀ l ∈ touchedLines text sel, indentUnit.toList <+: l.toList) ∧
    let e1 := BlockTransform.indent.apply text sel
    let e2 := BlockTransform.outdent.apply (e1.apply text) e1.selection
    e1.selection = ⟨5, 12, .forward⟩ ∧ e2.apply (e1.apply text) = text ∧ e2.selection = sel ∧
      let o1 := BlockTransform.outdent.apply text sel
      (BlockTransform.indent.apply (o1.apply text) o1.selection).apply (o1.apply text) = text := by
  have hpre : (⟨3, 8, .forward⟩ : Selection).start ≤ (⟨3, 8, .forward⟩ : Selection).stop ∧
      (⟨3, 8, .forward⟩ : Selection).stop ≤ "  ab\n  cd".length ∧
      ∀ l ∈ touchedLines "  ab\n  cd" ⟨3, 8, .forward⟩, indentUnit.toList <+: l.toList := by
    decide
  obtain ⟨h1, h2, h3, h4⟩ := indent_outdent_inverse "  ab\n  cd" ⟨3, 8, .forward⟩ hpre.1 hpre.2.1
  refine ⟨hpre, h1.trans ?_, h2, h3, h4 hpre.2.2⟩
  decide

end BqnEdit.Editor
