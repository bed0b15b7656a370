import BqnEdit.Proofs.Indent

/-!
# Where the lines of a text lie

The line index of a text lays its pieces between line feeds out end to end: it has one
entry per piece, each entry is as long as its piece and starts where the piece starts, the
first at offset zero, each later one just past the line feed that ends the one before, and
the last ends where the text ends. The line an offset falls on is then the number of line
feeds before it: an offset at the end of a line belongs to that line, and the offset just
past a line feed to the next one.

Main results:

* `count_take_start_add`: up to an offset on line `k`, a text holds `k` line feeds.
* `lineOf_eq_count`: the line of an offset is the number of line feeds before it.
* `LineIndex.ofText_layout`: the index lays the pieces out end to end, and every offset of
  the text lies on the line of its line feeds, between that line's start and end.
-/

namespace BqnEdit.Editor

namespace LineIndex

theorem count_flatMap_append_newline {ls : List (List Char)} (h : ∀ l ∈ ls, '\n' ∉ l) :
    (ls.flatMap (· ++ ['\n'])).count '\n' = ls.length := by
  induction ls with
  | nil => rfl
  | cons l ls ih =>
    have hl : l.count '\n' = 0 := List.count_eq_zero.mpr (h l List.mem_cons_self)
    have hrest := ih fun m hm => h m (List.mem_cons_of_mem l hm)
    simp [List.count_append, hl, hrest]

theorem toList_eq_around_line (b : String) {k : Nat} (hk : k < (splitLines b.toList).length) :
    b.toList = ((splitLines b.toList).take k).flatMap (· ++ ['\n']) ++ (splitLines b.toList)[k] ++
      ((splitLines b.toList).drop (k + 1)).flatMap ('\n' :: ·) := by
  have h := toList_eq_around b (Nat.le_refl k) hk
  have hone : ((splitLines b.toList).drop k).take (k + 1 - k) = [(splitLines b.toList)[k]] := by
    rw [Nat.add_sub_cancel_left, List.drop_eq_getElem_cons hk]
    rfl
  rwa [hone, joinLines] at h

/-- Line `k` of the index covers exactly the `k`-th piece of the text. -/
theorem take_drop_start_ofText (b : String) {k : Nat} (hk : k < (splitLines b.toList).length) :
    (b.toList.drop ((ofText b).start k)).take ((ofText b).lineLen k) = (splitLines b.toList)[k] := by
  obtain ⟨P, S, hb, hP⟩ : ∃ P S, b.toList = P ++ (splitLines b.toList)[k] ++ S ∧
      P.length = (ofText b).start k :=
    ⟨_, _, toList_eq_around_line b hk, (start_ofText b hk).symm⟩
  rw [← hP, lineLen_ofText, List.getD_eq_getElem _ _ hk]
  generalize (splitLines b.toList)[k] = M at hb ⊢
  rw [hb, List.append_assoc, List.drop_left, List.take_left']
  rfl

/-- Up to an offset on line `k`, at most the line's length past its start, a text holds `k`
    line feeds: one after each line before it, and none on line `k`. -/
theorem count_take_start_add (b : String) {k j : Nat} (hk : k < (splitLines b.toList).length)
    (hj : j ≤ (ofText b).lineLen k) : (b.toList.take ((ofText b).start k + j)).count '\n' = k := by
  have hfree : ∀ l ∈ splitLines b.toList, '\n' ∉ l := fun l hl => not_mem_of_mem_splitLines hl
  obtain ⟨P, S, hb, hP, hcount⟩ : ∃ P S, b.toList = P ++ (splitLines b.toList)[k] ++ S ∧
      P.length = (ofText b).start k ∧ P.count '\n' = k := by
    refine ⟨_, _, toList_eq_around_line b hk, (start_ofText b hk).symm, ?_⟩
    rw [count_flatMap_append_newline fun l hl => hfree l (List.mem_of_mem_take hl),
      List.length_take, Nat.min_eq_left hk.le]
  have hline : '\n' ∉ (splitLines b.toList)[k] := hfree _ (List.getElem_mem hk)
  rw [lineLen_ofText, List.getD_eq_getElem _ _ hk] at hj
  rw [← hP]
  generalize (splitLines b.toList)[k] = M at hb hj hline ⊢
  rw [hb, List.append_assoc, List.take_append, List.take_of_length_le (by omega),
    Nat.add_sub_cancel_left, List.take_append_of_le_length hj, List.count_append, hcount,
    List.count_eq_zero.mpr fun hm => hline (List.mem_of_mem_take hm), Nat.add_zero]

/-- The line of an offset of the text is the number of line feeds before it. -/
theorem lineOf_eq_count (b : String) {o : Nat} (ho : o ≤ b.length) :
    (ofText b).lineOf o = (b.toList.take o).count '\n' := by
  have hl : (ofText b).lineOf o < (splitLines b.toList).length := by
    rw [← size_ofText]
    exact lineOf_lt_size _ (size_ofText_pos b) o
  obtain ⟨hstart, hstop⟩ := start_le_and_le_stop_lineOf b ho
  rw [stop] at hstop
  -- `o` is its line's start plus at most the line's length
  have h := count_take_start_add b hl (j := o - (ofText b).start ((ofText b).lineOf o)) (by omega)
  rw [Nat.add_sub_cancel' hstart] at h
  exact h.symm

/-- The line index of a text lays the pieces between its line feeds out end to end: one
    entry per piece, each as long as its piece and starting at the piece's offset, the
    first at zero, each later one just past the end of the one before, and the last ending
    where the text ends. An offset of the text lies on the line numbered by the line feeds
    before it, between that line's start and end. -/
theorem ofText_layout (b : String) :
    (ofText b).size = (b.toList.splitOn '\n').length ∧
    (∀ l (hl : l < (b.toList.splitOn '\n').length),
      (ofText b).lineLen l = (b.toList.splitOn '\n')[l].length ∧
      (ofText b).start l = (((b.toList.splitOn '\n').take l).map (·.length + 1)).sum ∧
      (b.toList.drop ((ofText b).start l)).take ((ofText b).lineLen l) =
        (b.toList.splitOn '\n')[l]) ∧
    (∀ l, l + 1 < (ofText b).size → (ofText b).start (l + 1) = (ofText b).stop l + 1) ∧
    (ofText b).start 0 = 0 ∧ (ofText b).stop ((ofText b).size - 1) = b.length ∧
    ∀ o ≤ b.length, (ofText b).lineOf o = (b.toList.take o).count '\n' ∧
      (ofText b).start ((ofText b).lineOf o) ≤ o ∧ o ≤ (ofText b).stop ((ofText b).lineOf o) := by
  have hsize : (ofText b).size = (splitLines b.toList).length := size_ofText b
  rw [← splitLines_eq_splitOn]
  refine ⟨hsize, fun l hl => ⟨?_, ?_, take_drop_start_ofText b hl⟩, fun l hl => ?_, ?_, ?_,
    fun o ho => ⟨lineOf_eq_count b ho, start_le_and_le_stop_lineOf b ho⟩⟩
  · rw [lineLen_ofText, List.getD_eq_getElem _ _ hl]
  · have hl' : l < (textLines b).length := by simpa [textLines] using hl
    rw [start_ofText_eq_sum b hl', textLines, ← List.map_take, List.map_map]
    simp [Function.comp_def]
  · exact start_succ_ofText b (hsize ▸ hl)
  · rw [start_ofText b (List.length_pos_iff.mpr (splitLines_ne_nil _))]
    rfl
  · rw [hsize]
    exact stop_last_ofText b

/-- The offset just past the line feed of `ab⏎cd` starts the second line. -/
theorem ofText_layout_after_feed :
    3 ≤ "ab\ncd".length ∧ ((ofText "ab\ncd").lineOf 3 = ("ab\ncd".toList.take 3).count '\n' ∧
      (ofText "ab\ncd").start ((ofText "ab\ncd").lineOf 3) ≤ 3 ∧
      3 ≤ (ofText "ab\ncd").stop ((ofText "ab\ncd").lineOf 3)) :=
  ⟨by decide, (ofText_layout "ab\ncd").2.2.2.2.2 3 (by decide)⟩

end LineIndex

end BqnEdit.Editor
