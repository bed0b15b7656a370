import Mathlib
import BqnEdit.Proofs.Block

/-!
# Commenting a block and uncommenting it again

Toggling comments puts a `#` at the common indentation of the lines the selection
touches, or takes it away when every line has one there. A line that gets a `#` keeps
its indentation, so after commenting, the block's common indentation is the same and
every line has a `#` at it: toggling again takes exactly those `#` away. Each end of the
selection moves one character right on its line, stays on the same line, and moves
back.

Main results:

* `toggleCommentLines_toggleCommentLines`: on a block not entirely commented, the line
  map undoes itself.
* `lengthens_iff_not_allCommented`: toggling lengthens the text exactly when the touched
  block is not entirely commented.
* `toggleComment_toggleComment`: commenting a block and toggling again, with the
  selection the first edit leaves, gives back the text and the selection.
-/

namespace BqnEdit.Editor

/-! ## Commenting one line -/

/-- A `#` put after the first `n` characters of a line. -/
def commentAt (n : Nat) (l : String) : String :=
  String.ofList (l.toList.take n ++ '#' :: l.toList.drop n)

/-- The character after the first `n` characters of a line taken away. -/
def uncommentAt (n : Nat) (l : String) : String :=
  String.ofList (l.toList.take n ++ l.toList.drop (n + 1))

/-- The common indentation of a block: the fewest leading spaces of any of its lines. -/
def commentLevel (ls : List String) : Nat := (ls.map leadingSpaces).min?.getD 0

/-- Every line of a block has a `#` at the block's common indentation. -/
def allCommented (ls : List String) : Bool :=
  ls.all fun l => (l.toList.drop (commentLevel ls)).head? == some '#'

theorem toggleCommentLines_eq (ls : List String) :
    toggleCommentLines ls = ls.map fun l =>
      if allCommented ls then uncommentAt (commentLevel ls) l else commentAt (commentLevel ls) l :=
  rfl

theorem toggleCommentLines_of_allCommented {ls : List String} (h : allCommented ls = true) :
    toggleCommentLines ls = ls.map (uncommentAt (commentLevel ls)) := by
  simp [toggleCommentLines_eq, h]

theorem toggleCommentLines_of_not_allCommented {ls : List String} (h : allCommented ls = false) :
    toggleCommentLines ls = ls.map (commentAt (commentLevel ls)) := by
  simp [toggleCommentLines_eq, h]

@[simp] theorem length_commentAt (n : Nat) (l : String) : (commentAt n l).length = l.length + 1 := by
  rw [← String.length_toList, commentAt, String.toList_ofList]
  simp only [List.length_append, List.length_take, List.length_cons, List.length_drop,
    String.length_toList]
  omega

theorem leadingSpaces_le_length (l : String) : leadingSpaces l ≤ l.length := by
  rw [leadingSpaces, ← String.length_toList]
  exact (List.takeWhile_prefix _).length_le

theorem take_eq_replicate_of_le_leadingSpaces {n : Nat} {l : String} (h : n ≤ leadingSpaces l) :
    l.toList.take n = List.replicate n ' ' := by
  have hpre : l.toList.take n = (l.toList.takeWhile (· == ' ')).take n := by
    conv_lhs => rw [← List.takeWhile_append_dropWhile (p := (· == ' ')) (l := l.toList)]
    exact List.take_append_of_le_length h
  rw [hpre, List.eq_replicate_iff]
  refine ⟨by simp only [List.length_take]; exact Nat.min_eq_left h, fun c hc => ?_⟩
  simpa using List.mem_takeWhile_imp (List.mem_of_mem_take hc)

theorem leadingSpaces_commentAt {n : Nat} {l : String} (h : n ≤ leadingSpaces l) :
    leadingSpaces (commentAt n l) = n := by
  rw [leadingSpaces, commentAt, String.toList_ofList, take_eq_replicate_of_le_leadingSpaces h,
    List.takeWhile_append]
  simp

theorem drop_commentAt {n : Nat} {l : String} (h : n ≤ l.length) :
    (commentAt n l).toList.drop n = '#' :: l.toList.drop n := by
  have hlen : (l.toList.take n).length = n := by
    rw [List.length_take, String.length_toList]
    exact Nat.min_eq_left h
  rw [commentAt, String.toList_ofList, List.drop_left' hlen]

/-- Taking away a `#` put at column `n ≤ length` gives back the line. -/
theorem uncommentAt_commentAt {n : Nat} {l : String} (h : n ≤ l.length) :
    uncommentAt n (commentAt n l) = l := by
  have hlen : (l.toList.take n).length = n := by
    rw [List.length_take, String.length_toList]
    exact Nat.min_eq_left h
  have htake : (l.toList.take n ++ '#' :: l.toList.drop n).take n = l.toList.take n :=
    List.take_left' hlen
  have hdrop : (l.toList.take n ++ '#' :: l.toList.drop n).drop (n + 1) = l.toList.drop n := by
    rw [← List.drop_drop, List.drop_left' hlen, List.drop_one, List.tail_cons]
  rw [uncommentAt, commentAt, String.toList_ofList, htake, hdrop, List.take_append_drop,
    String.ofList_toList]

/-! ## The common indentation of a block -/

theorem commentLevel_le {ls : List String} {l : String} (hl : l ∈ ls) :
    commentLevel ls ≤ leadingSpaces l := by
  unfold commentLevel
  cases hm : (ls.map leadingSpaces).min? with
  | none => simp
  | some a =>
    rw [List.min?_eq_some_iff] at hm
    exact hm.2 _ (List.mem_map_of_mem hl)

/-- Commenting every line at the common indentation keeps the common indentation. -/
theorem commentLevel_map_commentAt {ls : List String} (hne : ls ≠ []) :
    commentLevel (ls.map (commentAt (commentLevel ls))) = commentLevel ls := by
  have hsame : (ls.map (commentAt (commentLevel ls))).map leadingSpaces =
      List.replicate ls.length (commentLevel ls) := by
    rw [List.map_map, List.eq_replicate_iff]
    refine ⟨by simp, fun n hn => ?_⟩
    obtain ⟨l, hl, rfl⟩ := List.mem_map.mp hn
    exact leadingSpaces_commentAt (commentLevel_le hl)
  rw [commentLevel, hsame, List.min?_replicate, if_neg (by simpa using hne)]
  rfl

theorem allCommented_map_commentAt {ls : List String} (hne : ls ≠ []) :
    allCommented (ls.map (commentAt (commentLevel ls))) = true := by
  rw [allCommented, commentLevel_map_commentAt hne, List.all_eq_true]
  intro l' hl'
  obtain ⟨l, hl, rfl⟩ := List.mem_map.mp hl'
  have hlevel := (commentLevel_le hl).trans (leadingSpaces_le_length l)
  simp [drop_commentAt hlevel]

/-- In an entirely commented block, every line reaches past the common indentation. -/
theorem commentLevel_lt_of_allCommented {ls : List String} (hc : allCommented ls = true)
    {l : String} (hl : l ∈ ls) : commentLevel ls < l.length := by
  rw [allCommented, List.all_eq_true] at hc
  have h := hc l hl
  rw [← String.length_toList]
  cases hd : l.toList.drop (commentLevel ls) with
  | nil => simp [hd] at h
  | cons c cs =>
    have hlen := congrArg List.length hd
    simp only [List.length_drop, List.length_cons] at hlen
    omega

/-- On a block not entirely commented, toggling twice changes nothing. -/
theorem toggleCommentLines_toggleCommentLines {ls : List String} (hne : ls ≠ [])
    (hc : allCommented ls = false) : toggleCommentLines (toggleCommentLines ls) = ls := by
  rw [toggleCommentLines_of_not_allCommented hc,
    toggleCommentLines_of_allCommented (allCommented_map_commentAt hne),
    commentLevel_map_commentAt hne, List.map_map]
  conv_rhs => rw [← List.map_id ls]
  refine List.map_congr_left fun l hl => ?_
  exact uncommentAt_commentAt ((commentLevel_le hl).trans (leadingSpaces_le_length l))

theorem sum_map_commentAt (n : Nat) (ls : List String) :
    ((ls.map (commentAt n)).map (·.length + 1)).sum = (ls.map (·.length + 1)).sum + ls.length := by
  induction ls with
  | nil => rfl
  | cons l ls ih =>
    simp only [List.map_cons, List.sum_cons, length_commentAt, List.length_cons] at ih ⊢
    omega

theorem length_uncommentAt {n : Nat} {l : String} (h : n < l.length) :
    (uncommentAt n l).length + 1 = l.length := by
  rw [← String.length_toList, uncommentAt, String.toList_ofList]
  simp only [List.length_append, List.length_take, List.length_drop, String.length_toList]
  omega

theorem sum_map_uncommentAt {n : Nat} {ls : List String} (h : ∀ l ∈ ls, n < l.length) :
    ((ls.map (uncommentAt n)).map (·.length + 1)).sum + ls.length = (ls.map (·.length + 1)).sum := by
  induction ls with
  | nil => rfl
  | cons l ls ih =>
    have hl := length_uncommentAt (h l List.mem_cons_self)
    have hrest := ih fun l' hl' => h l' (List.mem_cons_of_mem _ hl')
    simp only [List.map_cons, List.sum_cons, List.length_cons] at hrest ⊢
    omega

/-! ## Lengths and offsets of lines -/

theorem length_joinLines_add_one : {ls : List (List Char)} → ls ≠ [] →
    (joinLines ls).length + 1 = (ls.map (·.length + 1)).sum
  | [], h => absurd rfl h
  | [l], _ => by simp [joinLines]
  | l :: l' :: ls, _ => by
    have ih : (joinLines (l' :: ls)).length + 1 = ((l' :: ls).map (·.length + 1)).sum :=
      length_joinLines_add_one (by simp)
    rw [joinLines, List.length_append, List.length_cons, List.map_cons, List.sum_cons]
    · omega
    · simp

theorem length_add_one_eq_sum_textLines (t : String) :
    t.length + 1 = ((textLines t).map (·.length + 1)).sum := by
  have h := length_joinLines_add_one (splitLines_ne_nil t.toList)
  rw [joinLines_splitLines, String.length_toList] at h
  rw [h, textLines, List.map_map]
  exact congrArg List.sum (List.map_congr_left fun l _ => by simp)


theorem textLines_injective {a b : String} (h : textLines a = textLines b) : a = b := by
  have hsplit : splitLines a.toList = splitLines b.toList := by
    have := congrArg (List.map String.toList) h
    simpa [textLines, List.map_map, Function.comp_def] using this
  rw [← String.toList_inj, ← joinLines_splitLines a.toList, hsplit, joinLines_splitLines]

theorem getD_splice {A C D : List String} {n i : Nat} (hA : A.length = n) (hi : i < C.length) :
    (A ++ C ++ D).getD (n + i) "" = C.getD i "" := by
  rw [List.append_assoc, List.getD_append_right _ _ _ _ (by omega), hA, Nat.add_sub_cancel_left,
    List.getD_append _ _ _ _ hi]

namespace LineIndex

theorem start_succ_ofText (t : String) {k : Nat} (hk : k + 1 < (splitLines t.toList).length) :
    (ofText t).start (k + 1) = (ofText t).stop k + 1 := by
  rw [stop, start_ofText t hk, start_ofText t (by omega), lineLen_ofText, List.take_add_one,
    List.getElem?_eq_getElem (by omega), List.getD_eq_getElem _ _ (by omega)]
  simp only [Option.toList_some, List.flatMap_append, List.length_append, List.flatMap_singleton,
    List.length_append, List.length_singleton]
  omega

/-- A line ends before any later line starts. -/
theorem stop_lt_start_ofText (t : String) {k k' : Nat} (hk : k < k')
    (hk' : k' < (splitLines t.toList).length) : (ofText t).stop k < (ofText t).start k' := by
  induction k', hk using Nat.le_induction with
  | base => rw [start_succ_ofText t hk']; omega
  | succ m hm ih =>
    have hprev := ih (by omega)
    have hnext := start_succ_ofText t hk'
    have hline : (ofText t).start m ≤ (ofText t).stop m := Nat.le_add_right _ _
    omega

theorem lineOf_start_add (t : String) {k j : Nat} (hk : k < (splitLines t.toList).length)
    (hj : j ≤ (ofText t).lineLen k) : (ofText t).lineOf ((ofText t).start k + j) = k := by
  have hsize : k < (ofText t).size := by rwa [size_ofText]
  refine Nat.le_antisymm (lineOf_le hsize (by rw [stop]; omega)) (Nat.le_of_not_lt fun hlt => ?_)
  rcases lineOf_eq_last_or_le_stop (ofText t) ((ofText t).start k + j) with hlast | hle
  · omega
  · have hbefore := stop_lt_start_ofText t hlt hk
    omega

theorem stop_last_ofText (t : String) :
    (ofText t).stop ((splitLines t.toList).length - 1) = t.length := by
  have hpos := List.length_pos_iff.mpr (splitLines_ne_nil t.toList)
  have h := LineIndex.stop_ofText t (e := (splitLines t.toList).length - 1) (by omega)
  rwa [Nat.sub_add_cancel hpos, List.drop_length, List.flatMap_nil, List.length_nil,
    Nat.add_zero] at h

/-- An offset of a text lies between the start and the end of the line it falls on. -/
theorem start_le_and_le_stop_lineOf (t : String) {o : Nat} (ho : o ≤ t.length) :
    (ofText t).start ((ofText t).lineOf o) ≤ o ∧ o ≤ (ofText t).stop ((ofText t).lineOf o) := by
  have hl : (ofText t).lineOf o < (splitLines t.toList).length := by
    rw [← size_ofText]
    exact lineOf_lt_size _ (size_ofText_pos t) o
  constructor
  · -- the line before ends before `o`, or the line of `o` would be that one
    rcases Nat.eq_zero_or_pos ((ofText t).lineOf o) with h0 | hpos
    · rw [h0, start_ofText t (by omega)]
      simp
    · have hprev : ¬ o ≤ (ofText t).stop ((ofText t).lineOf o - 1) := fun hle =>
        absurd (lineOf_le (by rw [size_ofText]; omega) hle) (by omega)
      have hstart := start_succ_ofText t (k := (ofText t).lineOf o - 1) (by omega)
      rw [Nat.sub_add_cancel hpos] at hstart
      omega
  · rcases lineOf_eq_last_or_le_stop (ofText t) o with hlast | hle
    · rw [hlast, size_ofText, stop_last_ofText]
      exact ho
    · exact hle

theorem lineOf_start_add_of_le (t : String) {k j : Nat} (hk : k < (textLines t).length)
    (hj : j ≤ ((textLines t).getD k "").length) : (ofText t).lineOf ((ofText t).start k + j) = k := by
  rw [textLines, List.length_map] at hk
  rw [length_getD_textLines, ← lineLen_ofText] at hj
  exact lineOf_start_add t hk hj

theorem start_add_le_length (t : String) {k j : Nat} (hk : k < (textLines t).length)
    (hj : j ≤ ((textLines t).getD k "").length) : (ofText t).start k + j ≤ t.length := by
  rw [textLines, List.length_map] at hk
  rw [length_getD_textLines, ← lineLen_ofText] at hj
  have h := LineIndex.stop_ofText t hk
  rw [stop] at h
  omega

theorem start_add_lt_start (t : String) {k k' j : Nat} (hkk : k < k') (hk' : k' < (textLines t).length)
    (hj : j ≤ ((textLines t).getD k "").length) : (ofText t).start k + j < (ofText t).start k' := by
  rw [textLines, List.length_map] at hk'
  rw [length_getD_textLines, ← lineLen_ofText] at hj
  have h := stop_lt_start_ofText t hkk hk'
  rw [stop] at h
  omega

theorem lineOf_lt_length_textLines (t : String) (o : Nat) :
    (ofText t).lineOf o < (textLines t).length := by
  rw [textLines, List.length_map, ← size_ofText]
  exact lineOf_lt_size _ (size_ofText_pos t) o

end LineIndex

/-! ## The touched lines -/

/-- The lines a selection touches, once brought within the text: from the line of its
    start to the line of its end. -/
def touchedLines (text : String) (sel : Selection) : List String :=
  let sel := sel.clamp text.length
  let ix := LineIndex.ofText text
  ((textLines text).drop (ix.lineOf sel.start)).take (ix.lineOf sel.stop + 1 - ix.lineOf sel.start)

theorem getD_take_drop {L : List String} {s n i : Nat} (hi : i < n) :
    ((L.drop s).take n).getD i "" = L.getD (s + i) "" := by
  simp [List.getD_eq_getElem?_getD, hi, List.getElem?_drop]

theorem getD_map_of_lt (f : String → String) {B : List String} {i : Nat} (hi : i < B.length) :
    (B.map f).getD i "" = f (B.getD i "") := by
  simp [List.getD_eq_getElem?_getD, List.getElem?_eq_getElem hi]

theorem LineIndex.offset_within_lineOf (t : String) {o : Nat} (ho : o ≤ t.length) :
    (ofText t).start ((ofText t).lineOf o) ≤ o ∧
      o - (ofText t).start ((ofText t).lineOf o) ≤ ((textLines t).getD ((ofText t).lineOf o) "").length := by
  have h := start_le_and_le_stop_lineOf t ho
  rw [stop, lineLen_ofText, ← length_getD_textLines] at h
  omega

theorem Selection.clamp_of_le {sel : Selection} {n : Nat} (hsel : sel.start ≤ sel.stop)
    (hn : sel.stop ≤ n) : sel.clamp n = sel := by
  rw [Selection.clamp, Nat.min_eq_left (hsel.trans hn), Nat.min_eq_left hn,
    Selection.new_of_le hsel]

theorem lineOf_start_le_lineOf_stop (text : String) {sel : Selection} (hsel : sel.start ≤ sel.stop) :
    (LineIndex.ofText text).lineOf sel.start ≤ (LineIndex.ofText text).lineOf sel.stop :=
  LineIndex.lineOf_mono _ (LineIndex.size_ofText_pos text) hsel

section
variable {text : String} {sel : Selection} (hsel : sel.start ≤ sel.stop) (hlen : sel.stop ≤ text.length)
include hsel hlen

theorem length_touchedLines :
    (touchedLines text sel).length =
      (LineIndex.ofText text).lineOf sel.stop + 1 - (LineIndex.ofText text).lineOf sel.start := by
  have hse := lineOf_start_le_lineOf_stop text hsel
  have helt := LineIndex.lineOf_lt_length_textLines text sel.stop
  simp only [touchedLines, Selection.clamp_of_le hsel hlen, List.length_take, List.length_drop]
  omega

theorem getD_touchedLines {i : Nat}
    (hi : i ≤ (LineIndex.ofText text).lineOf sel.stop - (LineIndex.ofText text).lineOf sel.start) :
    (touchedLines text sel).getD i "" =
      (textLines text).getD ((LineIndex.ofText text).lineOf sel.start + i) "" := by
  have hse := lineOf_start_le_lineOf_stop text hsel
  simp only [touchedLines, Selection.clamp_of_le hsel hlen]
  exact getD_take_drop (by omega)

theorem textLines_eq_around :
    textLines text = (textLines text).take ((LineIndex.ofText text).lineOf sel.start) ++
      touchedLines text sel ++ (textLines text).drop ((LineIndex.ofText text).lineOf sel.stop + 1) := by
  have hse := lineOf_start_le_lineOf_stop text hsel
  simp only [touchedLines, Selection.clamp_of_le hsel hlen]
  exact (take_append_block_append_drop _ hse).symm

/-- The lines of both ends of the selection are among the touched lines. -/
theorem ends_mem_touchedLines :
    (textLines text).getD ((LineIndex.ofText text).lineOf sel.start) "" ∈ touchedLines text sel ∧
      (textLines text).getD ((LineIndex.ofText text).lineOf sel.stop) "" ∈ touchedLines text sel := by
  have hse := lineOf_start_le_lineOf_stop text hsel
  have hmem : ∀ i, i ≤ (LineIndex.ofText text).lineOf sel.stop - (LineIndex.ofText text).lineOf sel.start →
      (textLines text).getD ((LineIndex.ofText text).lineOf sel.start + i) "" ∈ touchedLines text sel := by
    intro i hi
    have hlt : i < (touchedLines text sel).length := by
      rw [length_touchedLines hsel hlen]
      omega
    rw [← getD_touchedLines hsel hlen hi, List.getD_eq_getElem _ _ hlt]
    exact List.getElem_mem hlt
  refine ⟨?_, ?_⟩
  · simpa using hmem 0 (Nat.zero_le _)
  · simpa [Nat.add_sub_cancel' hse] using hmem _ (Nat.le_refl _)

end

theorem BlockTransform.apply_toggleComment (text : String) (sel : Selection) :
    BlockTransform.toggleComment.apply text sel = applyBlock toggleCommentLines text sel := rfl

/-- A block transform that maps the touched lines one by one and changes them: the lines
    of the new text, and where each end of the selection goes on its line. -/
theorem applyBlock_map {f : LineMap} (hf : f.KeepsUnbroken) (g : String → String)
    {text : String} {sel : Selection} (hsel : sel.start ≤ sel.stop) (hlen : sel.stop ≤ text.length)
    (hfg : f (touchedLines text sel) = (touchedLines text sel).map g)
    (hchanged : (touchedLines text sel).map g ≠ touchedLines text sel) :
    let ix := LineIndex.ofText text
    let L := textLines text
    let s := ix.lineOf sel.start
    let e := ix.lineOf sel.stop
    let edit := applyBlock f text sel
    let ix' := LineIndex.ofText (edit.apply text)
    textLines (edit.apply text) = L.take s ++ (touchedLines text sel).map g ++ L.drop (e + 1) ∧
      edit.selection =
        ⟨ix'.start s + min (sel.start - ix.start s + (g (L.getD s "")).length - (L.getD s "").length)
            (g (L.getD s "")).length,
          ix'.start e + min (sel.stop - ix.start e + (g (L.getD e "")).length - (L.getD e "").length)
            (g (L.getD e "")).length,
          sel.direction⟩ := by
  dsimp only
  have hclamp := Selection.clamp_of_le hsel hlen
  have hspec := applyBlock_spec f hf text sel
  dsimp only at hspec
  rw [hclamp] at hspec
  have hBdef : ((textLines text).drop ((LineIndex.ofText text).lineOf sel.start)).take
      ((LineIndex.ofText text).lineOf sel.stop + 1 - (LineIndex.ofText text).lineOf sel.start) =
        touchedLines text sel := by
    simp only [touchedLines, hclamp]
  rw [hBdef, hfg] at hspec
  have hse := lineOf_start_le_lineOf_stop text hsel
  have hBlen := length_touchedLines hsel hlen
  have hB0 : ((touchedLines text sel).map g).getD 0 "" =
      g ((textLines text).getD ((LineIndex.ofText text).lineOf sel.start) "") := by
    rw [getD_map_of_lt g (by omega), getD_touchedLines hsel hlen (Nat.zero_le _), Nat.add_zero]
  have hBk : ((touchedLines text sel).map g).getD
      ((LineIndex.ofText text).lineOf sel.stop - (LineIndex.ofText text).lineOf sel.start) "" =
        g ((textLines text).getD ((LineIndex.ofText text).lineOf sel.stop) "") := by
    rw [getD_map_of_lt g (by omega), getD_touchedLines hsel hlen (Nat.le_refl _),
      Nat.add_sub_cancel' hse]
  rw [if_neg (not_or.mpr ⟨fun h => h (List.length_map _), hchanged⟩), hB0, hBk] at hspec
  exact ⟨hspec.2.2.2.2.1, hspec.2.2.2.2.2⟩

/-- Commenting the touched lines, when they are not all commented: each gets its `#` at
    the common indentation, and each end of the selection moves one place right on its line. -/
theorem toggleComment_comments (text : String) (sel : Selection) (hsel : sel.start ≤ sel.stop)
    (hlen : sel.stop ≤ text.length) (hc : allCommented (touchedLines text sel) = false) :
    let ix := LineIndex.ofText text
    let L := textLines text
    let s := ix.lineOf sel.start
    let e := ix.lineOf sel.stop
    let B := touchedLines text sel
    let edit := BlockTransform.toggleComment.apply text sel
    let ix' := LineIndex.ofText (edit.apply text)
    textLines (edit.apply text) = L.take s ++ B.map (commentAt (commentLevel B)) ++ L.drop (e + 1) ∧
      edit.selection = ⟨ix'.start s + (sel.start - ix.start s + 1),
        ix'.start e + (sel.stop - ix.start e + 1), sel.direction⟩ := by
  dsimp only
  rw [BlockTransform.apply_toggleComment]
  -- commenting lengthens every line, so the block changes
  have hchanged : (touchedLines text sel).map (commentAt (commentLevel (touchedLines text sel))) ≠
      touchedLines text sel := fun h => by
    have hsum := sum_map_commentAt (commentLevel (touchedLines text sel)) (touchedLines text sel)
    rw [h] at hsum
    have hlines := length_touchedLines hsel hlen
    have hse := lineOf_start_le_lineOf_stop text hsel
    omega
  obtain ⟨hlines, hselection⟩ := applyBlock_map keepsUnbroken_toggleCommentLines
    (commentAt (commentLevel (touchedLines text sel))) hsel hlen
    (toggleCommentLines_of_not_allCommented hc) hchanged
  have hstart := (LineIndex.offset_within_lineOf text (hsel.trans hlen)).2
  have hstop := (LineIndex.offset_within_lineOf text hlen).2
  refine ⟨hlines, hselection.trans ?_⟩
  rw [length_commentAt, length_commentAt, Selection.mk.injEq]
  exact ⟨by omega, by omega, rfl⟩

/-- Uncommenting the touched lines, when they are all commented: each loses the `#` at the
    common indentation, and each end of the selection moves one place left on its line, but
    not before the line's start. -/
theorem toggleComment_uncomments (text : String) (sel : Selection) (hsel : sel.start ≤ sel.stop)
    (hlen : sel.stop ≤ text.length) (hc : allCommented (touchedLines text sel) = true) :
    let ix := LineIndex.ofText text
    let L := textLines text
    let s := ix.lineOf sel.start
    let e := ix.lineOf sel.stop
    let B := touchedLines text sel
    let edit := BlockTransform.toggleComment.apply text sel
    let ix' := LineIndex.ofText (edit.apply text)
    textLines (edit.apply text) = L.take s ++ B.map (uncommentAt (commentLevel B)) ++ L.drop (e + 1) ∧
      edit.selection = ⟨ix'.start s + (sel.start - ix.start s - 1),
        ix'.start e + (sel.stop - ix.start e - 1), sel.direction⟩ := by
  dsimp only
  rw [BlockTransform.apply_toggleComment]
  have hlt := fun l (hl : l ∈ touchedLines text sel) => commentLevel_lt_of_allCommented hc hl
  -- uncommenting shortens every line, so the block changes
  have hchanged : (touchedLines text sel).map (uncommentAt (commentLevel (touchedLines text sel))) ≠
      touchedLines text sel := fun h => by
    have hsum := sum_map_uncommentAt hlt
    rw [h] at hsum
    have hlines := length_touchedLines hsel hlen
    have hse := lineOf_start_le_lineOf_stop text hsel
    omega
  obtain ⟨hlines, hselection⟩ := applyBlock_map keepsUnbroken_toggleCommentLines
    (uncommentAt (commentLevel (touchedLines text sel))) hsel hlen
    (toggleCommentLines_of_allCommented hc) hchanged
  have hstart := (LineIndex.offset_within_lineOf text (hsel.trans hlen)).2
  have hstop := (LineIndex.offset_within_lineOf text hlen).2
  have hse := lineOf_start_le_lineOf_stop text hsel
  have hfirst := length_uncommentAt (hlt _ (ends_mem_touchedLines hsel hlen).1)
  have hlast := length_uncommentAt (hlt _ (ends_mem_touchedLines hsel hlen).2)
  refine ⟨hlines, hselection.trans ?_⟩
  rw [Selection.mk.injEq]
  exact ⟨by omega, by omega, rfl⟩

/-! ## Commenting and toggling again -/

/-- Toggling lengthens the text exactly when the touched lines are not all commented. -/
theorem lengthens_iff_not_allCommented (text : String) (sel : Selection)
    (hsel : sel.start ≤ sel.stop) (hlen : sel.stop ≤ text.length) :
    text.length < ((BlockTransform.toggleComment.apply text sel).apply text).length ↔
      allCommented (touchedLines text sel) = false := by
  have hbefore := length_add_one_eq_sum_textLines text
  have hafter := length_add_one_eq_sum_textLines ((BlockTransform.toggleComment.apply text sel).apply text)
  have hB := length_touchedLines hsel hlen
  have hse := lineOf_start_le_lineOf_stop text hsel
  rw [textLines_eq_around hsel hlen] at hbefore
  cases hc : allCommented (touchedLines text sel) with
  | false =>
    -- every touched line gains its `#`
    rw [(toggleComment_comments text sel hsel hlen hc).1] at hafter
    simp only [List.map_append, List.sum_append, sum_map_commentAt] at hbefore hafter
    simp only [iff_true]
    omega
  | true =>
    -- every touched line loses the `#` at the common indentation
    rw [(toggleComment_uncomments text sel hsel hlen hc).1] at hafter
    simp only [List.map_append, List.sum_append] at hbefore hafter
    have hsum := sum_map_uncommentAt fun l hl => commentLevel_lt_of_allCommented hc hl
    simp only [Bool.true_eq_false, iff_false, not_lt]
    omega

/-- Commenting the touched lines and toggling again, with the selection the first edit leaves,
    gives back the text and the selection, direction included. -/
theorem toggleComment_round_trip (text : String) (sel : Selection) (hsel : sel.start ≤ sel.stop)
    (hlen : sel.stop ≤ text.length) (hc : allCommented (touchedLines text sel) = false) :
    let e1 := BlockTransform.toggleComment.apply text sel
    let e2 := BlockTransform.toggleComment.apply (e1.apply text) e1.selection
    e2.apply (e1.apply text) = text ∧ e2.selection = sel := by
  dsimp only
  obtain ⟨hlines1, hsel1⟩ := toggleComment_comments text sel hsel hlen hc
  set t1 := (BlockTransform.toggleComment.apply text sel).apply text with ht1
  set sel1 := (BlockTransform.toggleComment.apply text sel).selection with hsel1def
  set ix := LineIndex.ofText text with hix
  set L := textLines text with hL
  set s := ix.lineOf sel.start with hs
  set e := ix.lineOf sel.stop with he
  set B := touchedLines text sel with hB
  set C := B.map (commentAt (commentLevel B)) with hC
  -- the commented text: lines `s` to `e` are the touched lines, each with its `#`
  have hse : s ≤ e := lineOf_start_le_lineOf_stop text hsel
  have helt : e < L.length := LineIndex.lineOf_lt_length_textLines text _
  have hBlen : B.length = e + 1 - s := length_touchedLines hsel hlen
  have hBne : B ≠ [] := List.ne_nil_of_length_pos (by omega)
  have hA : (L.take s).length = s := by simp only [List.length_take]; omega
  have hlen1 : (textLines t1).length = L.length := by
    rw [hlines1]
    simp only [List.length_append, List.length_map, List.length_drop, hA, hBlen, hC]
    omega
  have hline : ∀ i, i ≤ e - s → (textLines t1).getD (s + i) "" =
      commentAt (commentLevel B) (L.getD (s + i) "") := by
    intro i hi
    rw [hlines1, getD_splice hA (by simp only [hC, List.length_map]; omega), hC,
      getD_map_of_lt _ (by omega), getD_touchedLines hsel hlen hi]
  have hline_s : (textLines t1).getD s "" = commentAt (commentLevel B) (L.getD s "") := by
    simpa using hline 0 (Nat.zero_le _)
  have hline_e : (textLines t1).getD e "" = commentAt (commentLevel B) (L.getD e "") := by
    simpa [Nat.add_sub_cancel' hse] using hline (e - s) (Nat.le_refl _)
  -- where the first toggle leaves the selection: one place right on the same lines
  have hstart : ix.start s ≤ sel.start ∧ sel.start - ix.start s ≤ (L.getD s "").length :=
    LineIndex.offset_within_lineOf text (hsel.trans hlen)
  have hstop : ix.start e ≤ sel.stop ∧ sel.stop - ix.start e ≤ (L.getD e "").length :=
    LineIndex.offset_within_lineOf text hlen
  have hj_s : sel.start - ix.start s + 1 ≤ ((textLines t1).getD s "").length := by
    rw [hline_s, length_commentAt]
    omega
  have hj_e : sel.stop - ix.start e + 1 ≤ ((textLines t1).getD e "").length := by
    rw [hline_e, length_commentAt]
    omega
  have hs1 : (LineIndex.ofText t1).lineOf sel1.start = s := by
    rw [hsel1]
    exact LineIndex.lineOf_start_add_of_le t1 (by omega) hj_s
  have he1 : (LineIndex.ofText t1).lineOf sel1.stop = e := by
    rw [hsel1]
    exact LineIndex.lineOf_start_add_of_le t1 (by omega) hj_e
  have hord1 : sel1.start ≤ sel1.stop := by
    rw [hsel1]
    dsimp only
    rcases Nat.lt_or_ge s e with hlt | hge
    · have := LineIndex.start_add_lt_start t1 hlt (by omega) hj_s
      omega
    · have hes : e = s := by omega
      rw [hes]
      have hle : sel.start - ix.start s ≤ sel.stop - ix.start e := by
        rw [hes]
        omega
      rw [hes] at hle
      omega
  have hlen1' : sel1.stop ≤ t1.length := by
    rw [hsel1]
    exact LineIndex.start_add_le_length t1 (by omega) hj_e
  -- the second toggle touches the commented lines, all commented, and takes their `#` away
  have htouched : touchedLines t1 sel1 = C := by
    simp only [touchedLines, Selection.clamp_of_le hord1 hlen1', hs1, he1, hlines1]
    have hClen : C.length = e + 1 - s := by
      simp only [hC, List.length_map]
      omega
    rw [List.append_assoc, List.drop_left' hA, List.take_left' hClen]
  have hc1 : allCommented (touchedLines t1 sel1) = true := by
    rw [htouched]
    exact allCommented_map_commentAt hBne
  obtain ⟨hlines2, hsel2⟩ := toggleComment_uncomments t1 sel1 hord1 hlen1' hc1
  rw [hs1, he1, htouched, hC, commentLevel_map_commentAt hBne, List.map_map] at hlines2
  -- the lines come back
  have hB' : B.map (uncommentAt (commentLevel B) ∘ commentAt (commentLevel B)) = B := by
    conv_rhs => rw [← List.map_id B]
    exact List.map_congr_left fun l hl =>
      uncommentAt_commentAt ((commentLevel_le hl).trans (leadingSpaces_le_length l))
  have htext : (BlockTransform.toggleComment.apply t1 sel1).apply t1 = text := by
    apply textLines_injective
    have hAC : (L.take s ++ C).length = e + 1 := by
      simp only [List.length_append, hA, hC, List.length_map]
      omega
    have htake : (L.take s ++ C ++ L.drop (e + 1)).take s = L.take s := by
      rw [List.append_assoc, List.take_left' hA]
    rw [hlines2, hB', hlines1, htake, List.drop_left' hAC]
    exact (textLines_eq_around hsel hlen).symm
  refine ⟨htext, ?_⟩
  -- the selection comes back: one place left on the same lines
  rw [hsel2, hs1, he1, htext, ← hix, hsel1]
  dsimp only
  rw [Selection.mk.injEq]
  exact ⟨by omega, by omega, rfl⟩

/-- Toggling comments on the lines a selection touches lengthens the text exactly when they are
    not all commented at their common indentation, and then toggling again, with the selection
    the first toggle leaves, gives back the text and the selection, direction included. -/
theorem toggleComment_twice (text : String) (sel : Selection) (hsel : sel.start ≤ sel.stop)
    (hlen : sel.stop ≤ text.length) :
    let e1 := BlockTransform.toggleComment.apply text sel
    let e2 := BlockTransform.toggleComment.apply (e1.apply text) e1.selection
    (allCommented (touchedLines text sel) = false ↔ text.length < (e1.apply text).length) ∧
      (allCommented (touchedLines text sel) = false →
        e2.apply (e1.apply text) = text ∧ e2.selection = sel) :=
  ⟨(lengthens_iff_not_allCommented text sel hsel hlen).symm, toggleComment_round_trip text sel hsel hlen⟩

/-- Commenting a blank line between a comment and code, and toggling back. -/
theorem toggleComment_twice_blank_line :
    ((⟨0, 2, .forward⟩ : Selection).start ≤ (⟨0, 2, .forward⟩ : Selection).stop ∧
      (⟨0, 2, .forward⟩ : Selection).stop ≤ "#\n\nx".length) ∧
    let e1 := BlockTransform.toggleComment.apply "#\n\nx" ⟨0, 2, .forward⟩
    let e2 := BlockTransform.toggleComment.apply (e1.apply "#\n\nx") e1.selection
    (allCommented (touchedLines "#\n\nx" ⟨0, 2, .forward⟩) = false ↔
        "#\n\nx".length < (e1.apply "#\n\nx").length) ∧
      (allCommented (touchedLines "#\n\nx" ⟨0, 2, .forward⟩) = false →
        e2.apply (e1.apply "#\n\nx") = "#\n\nx" ∧ e2.selection = ⟨0, 2, .forward⟩) :=
  ⟨⟨by decide, by decide⟩, toggleComment_twice "#\n\nx" ⟨0, 2, .forward⟩ (by decide) (by decide)⟩

end BqnEdit.Editor
