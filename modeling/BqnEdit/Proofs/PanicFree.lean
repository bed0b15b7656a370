import BqnEdit.Editor.Checked
import BqnEdit.Proofs.Comment

/-!
# The editing operations never panic

Every check the machine makes while editing passes, whatever the text, the selection (ends
in either order and as far past the text as they like), the line map of a block transform,
the typed text and the range of an edit: run with its checks, each operation gives exactly
the edit or the text that the operation without checks gives.

The checks pass for reasons the line index and the clamping provide. A clamped offset lies
between the start and the end of its line, so its distance from the line start is no
subtraction below zero, and a later offset falls on no earlier line, so the touched lines
form a range of the lines, never empty. Only a line map that keeps the number of lines gets
past the refusal, so its new lengths are as many as the touched lines. A run of leading
spaces is as many bytes as characters, so the common indentation cuts every line on a
character boundary, and in an entirely commented block a one-byte `#` follows it. The byte
offset of a character is a character boundary, and a later character's offset is no smaller.

Main results:

* `charsBefore?_isSome_iff`: the boundary check is the library's valid position of a text.
* `Edit.applyChecked_eq`, `insertChecked_eq`, `toggleCommentLinesChecked_eq`,
  `applyBlockChecked_pure`: each checked operation gives the unchecked result.
* `editing_never_panics`: all of them together, and the shipped block transforms.
-/

namespace BqnEdit.Editor

/-! ## Checked steps that pass -/

namespace Checked

theorem sub_of_le {a b : Nat} (h : b ≤ a) : sub a b = pure (a - b) := by
  simp [sub, h]

theorem index_of_lt {α : Type} {xs : List α} {i : Nat} (h : i < xs.length) :
    index xs i = pure xs[i] := by
  simp [index, h]

theorem range_of_le {α : Type} {xs : List α} {a b : Nat} (hab : a ≤ b) (hb : b ≤ xs.length) :
    range xs a b = pure ((xs.drop a).take (b - a)) := by
  simp [range, hab, hb]

theorem mapM_eq_pure {α β : Type} {f : α → Checked β} {g : α → β} :
    {xs : List α} → (∀ x ∈ xs, f x = pure (g x)) → xs.mapM f = pure (xs.map g)
  | [], _ => rfl
  | x :: xs, h => by
    rw [List.mapM_cons, h x List.mem_cons_self,
      mapM_eq_pure fun y hy => h y (List.mem_cons_of_mem x hy)]
    rfl

theorem allM_eq_pure {α : Type} {f : α → Checked Bool} {p : α → Bool} :
    {xs : List α} → (∀ x ∈ xs, f x = pure (p x)) → xs.allM f = pure (xs.all p)
  | [], _ => rfl
  | x :: xs, h => by
    rw [List.allM_cons, h x List.mem_cons_self, pure_bind, List.all_cons]
    cases p x with
    | false => rfl
    | true => exact allM_eq_pure fun y hy => h y (List.mem_cons_of_mem x hy)

theorem findM?_eq_pure {α : Type} {f : α → Checked Bool} {q : α → Bool} :
    {xs : List α} → (∀ x ∈ xs, f x = pure (q x)) → xs.findM? f = pure (xs.find? q)
  | [], _ => rfl
  | x :: xs, h => by
    rw [List.findM?, h x List.mem_cons_self, pure_bind, List.find?_cons]
    cases q x with
    | false => exact findM?_eq_pure fun y hy => h y (List.mem_cons_of_mem x hy)
    | true => rfl

end Checked

/-! ## Byte offsets -/

theorem utf8ByteSize_ofList_cons (c : Char) (cs : List Char) :
    (String.ofList (c :: cs)).utf8ByteSize = c.utf8Size + (String.ofList cs).utf8ByteSize := by
  rw [String.ofList_cons, String.utf8ByteSize_append, String.utf8ByteSize_singleton]

theorem utf8ByteSize_ofList_of_ascii {cs : List Char} (h : ∀ c ∈ cs, c.utf8Size = 1) :
    (String.ofList cs).utf8ByteSize = cs.length := by
  induction cs with
  | nil => rfl
  | cons c cs ih =>
    rw [utf8ByteSize_ofList_cons, h c List.mem_cons_self,
      ih fun d hd => h d (List.mem_cons_of_mem c hd), List.length_cons, Nat.add_comm]

theorem utf8ByteSize_take_le_take (cs : List Char) {i j : Nat} (h : i ≤ j) :
    (String.ofList (cs.take i)).utf8ByteSize ≤ (String.ofList (cs.take j)).utf8ByteSize := by
  have hsplit : cs.take j = cs.take i ++ (cs.take j).drop i := by
    conv_lhs => rw [← List.take_append_drop i (cs.take j)]
    rw [List.take_take, Nat.min_eq_left h]
  rw [hsplit, String.ofList_append, String.utf8ByteSize_append]
  exact Nat.le_add_right _ _

/-- The byte offset of a character boundary gives back the number of characters before it. -/
theorem charsBefore?_utf8ByteSize_take (cs : List Char) (k : Nat) :
    charsBefore? cs (String.ofList (cs.take k)).utf8ByteSize = some (min k cs.length) := by
  induction cs generalizing k with
  | nil => simp [charsBefore?]
  | cons c cs ih =>
    cases k with
    | zero => simp [charsBefore?]
    | succ k =>
      have hpos := c.utf8Size_pos
      rw [List.take_succ_cons, utf8ByteSize_ofList_cons]
      -- the offset is past the first byte, as `charsBefore?` reads it
      obtain ⟨b, hb⟩ : ∃ b, c.utf8Size + (String.ofList (cs.take k)).utf8ByteSize = b + 1 :=
        ⟨_, (Nat.succ_pred_eq_of_pos (by omega)).symm⟩
      rw [hb, charsBefore?, if_pos (by omega),
        show b + 1 - c.utf8Size = (String.ofList (cs.take k)).utf8ByteSize by omega, ih]
      simp [Nat.succ_min_succ]

/-- A character boundary is the byte offset of the characters before it. -/
theorem eq_utf8ByteSize_of_charsBefore? {cs : List Char} {b k : Nat} (h : charsBefore? cs b = some k) :
    k ≤ cs.length ∧ b = (String.ofList (cs.take k)).utf8ByteSize := by
  induction cs generalizing b k with
  | nil =>
    cases b with
    | zero => cases h; simp
    | succ b => simp [charsBefore?] at h
  | cons c cs ih =>
    cases b with
    | zero => cases h; simp
    | succ b =>
      rw [charsBefore?] at h
      split at h
      · obtain ⟨k', hk', rfl⟩ := Option.map_eq_some_iff.mp h
        obtain ⟨hle, hb⟩ := ih hk'
        refine ⟨by simpa using hle, ?_⟩
        rw [List.take_succ_cons, utf8ByteSize_ofList_cons]
        omega
      · cases h

/-- The boundary check accepts exactly the valid positions of the text: the byte offsets of
    its character boundaries. -/
theorem charsBefore?_isSome_iff (s : String) (b : Nat) :
    (charsBefore? s.toList b).isSome ↔ (⟨b⟩ : String.Pos.Raw).IsValid s := by
  rw [String.Pos.Raw.isValid_iff_exists_take_toList]
  constructor
  · intro h
    obtain ⟨k, hk⟩ := Option.isSome_iff_exists.mp h
    exact ⟨k, (eq_utf8ByteSize_of_charsBefore? hk).2⟩
  · rintro ⟨i, hi⟩
    rw [show b = _ from hi, charsBefore?_utf8ByteSize_take]
    rfl

-- `𝕩` takes four bytes: a cut after its first byte falls inside it, one after all four does not
example : charsBefore? "a𝕩".toList 2 = none := by decide
example : charsBefore? "a𝕩".toList 5 = some 2 := by decide

namespace Checked

theorem sliceTo_take (s : String) (k : Nat) :
    sliceTo s (String.ofList (s.toList.take k)).utf8ByteSize = pure (String.ofList (s.toList.take k)) := by
  rw [sliceTo, charsBefore?_utf8ByteSize_take]
  by_cases hk : k ≤ s.toList.length
  · simp [Nat.min_eq_left hk]
  · simp [Nat.min_eq_right (Nat.le_of_not_le hk), List.take_of_length_le (Nat.le_of_not_le hk)]

theorem sliceFrom_take (s : String) (k : Nat) :
    sliceFrom s (String.ofList (s.toList.take k)).utf8ByteSize = pure (String.ofList (s.toList.drop k)) := by
  rw [sliceFrom, charsBefore?_utf8ByteSize_take]
  by_cases hk : k ≤ s.toList.length
  · simp [Nat.min_eq_left hk]
  · simp [Nat.min_eq_right (Nat.le_of_not_le hk), List.drop_eq_nil_of_le (Nat.le_of_not_le hk)]

theorem splitAt_take (s : String) (k : Nat) :
    splitAt s (String.ofList (s.toList.take k)).utf8ByteSize =
      pure (String.ofList (s.toList.take k), String.ofList (s.toList.drop k)) := by
  rw [splitAt, charsBefore?_utf8ByteSize_take]
  by_cases hk : k ≤ s.toList.length
  · simp [Nat.min_eq_left hk]
  · simp [Nat.min_eq_right (Nat.le_of_not_le hk), List.drop_eq_nil_of_le (Nat.le_of_not_le hk),
      List.take_of_length_le (Nat.le_of_not_le hk)]

end Checked

theorem charToByte_eq (t : String) (i : Nat) :
    charToByte t i = (String.ofList (t.toList.take i)).utf8ByteSize := by
  unfold charToByte
  split
  · rfl
  · next h =>
    rw [List.take_of_length_le (by rw [String.length_toList]; omega), String.ofList_toList]

/-! ## Applying an edit -/

/-- Applying an edit byte by byte passes every check and gives the edited text. -/
theorem Edit.applyChecked_eq (e : Edit) (t : String) : e.applyChecked t = pure (e.apply t) := by
  have hmono := utf8ByteSize_take_le_take t.toList (Nat.le_max_right e.hi e.lo)
  have hall : (String.ofList (t.toList.take (max e.hi e.lo))).utf8ByteSize ≤ t.utf8ByteSize := by
    conv_rhs => rw [← String.ofList_toList (s := t), ← List.take_append_drop (max e.hi e.lo) t.toList]
    rw [String.ofList_append, String.utf8ByteSize_append]
    exact Nat.le_add_right _ _
  unfold Edit.applyChecked
  simp (disch := omega) only [charToByte_eq, Checked.sub_of_le, pure_bind, Checked.sliceTo_take,
    Checked.sliceFrom_take]
  rw [Edit.apply, Edit.applyChars, String.ofList_append, String.ofList_append, String.ofList_toList]

/-! ## Typing over a selection -/

/-- Typing over a selection passes its check and gives the typing edit. -/
theorem insertChecked_eq (text : String) (sel : Selection) (literal : String)
    (closing : Option String) :
    insertChecked text sel literal closing = pure (insert text sel literal closing) := by
  have hle := (Selection.clamp_le sel text.length).1
  unfold insertChecked insert
  cases closing with
  | none => rfl
  | some c =>
    dsimp only
    split
    · rfl
    · rw [Checked.sub_of_le hle]
      rfl

/-! ## Toggling comments -/

theorem leadingSpacesChecked_eq (l : String) : leadingSpacesChecked l = pure (leadingSpaces l) := by
  have hspaces : (String.ofList (l.toList.takeWhile (· == ' '))).utf8ByteSize =
      leadingSpaces l := by
    refine utf8ByteSize_ofList_of_ascii fun c hc => ?_
    rw [show c = ' ' by simpa using List.mem_takeWhile_imp hc]
    rfl
  have hsize : l.utf8ByteSize = leadingSpaces l +
      (String.ofList (l.toList.dropWhile (· == ' '))).utf8ByteSize := by
    conv_lhs =>
      rw [← String.ofList_toList (s := l),
        ← List.takeWhile_append_dropWhile (p := (· == ' ')) (l := l.toList)]
    rw [String.ofList_append, String.utf8ByteSize_append, hspaces]
  unfold leadingSpacesChecked
  rw [Checked.sub_of_le (by omega), hsize, Nat.add_sub_cancel]

theorem utf8ByteSize_take_of_le_leadingSpaces {n : Nat} {l : String} (h : n ≤ leadingSpaces l) :
    (String.ofList (l.toList.take n)).utf8ByteSize = n := by
  rw [take_eq_replicate_of_le_leadingSpaces h, utf8ByteSize_ofList_of_ascii fun c hc => by
    rw [List.eq_of_mem_replicate hc]; rfl]
  exact List.length_replicate

theorem commentedAtChecked_eq {n : Nat} {l : String} (h : n ≤ leadingSpaces l) :
    commentedAtChecked n l = pure ((l.toList.drop n).head? == some '#') := by
  unfold commentedAtChecked
  conv_lhs => rw [← utf8ByteSize_take_of_le_leadingSpaces h]
  rw [Checked.sliceFrom_take, pure_bind, String.toList_ofList]

/-- A line cut within its leading spaces loses the `#` after the cut, or gets one there. -/
theorem toggleLineChecked_eq {n : Nat} {commented : Bool} {l : String} (h : n ≤ leadingSpaces l)
    (hc : commented = true → (l.toList.drop n).head? = some '#') :
    toggleLineChecked n commented l =
      pure (if commented then uncommentAt n l else commentAt n l) := by
  unfold toggleLineChecked
  conv_lhs => rw [← utf8ByteSize_take_of_le_leadingSpaces h]
  rw [Checked.splitAt_take, pure_bind]
  cases commented with
  | false => simp [commentAt, String.ofList_append, String.append_assoc]
  | true =>
    obtain ⟨rest, hrest⟩ : ∃ rest, l.toList.drop n = '#' :: rest := by
      cases hd : l.toList.drop n with
      | nil => simp [hd] at hc
      | cons c rest => simp [hd] at hc; exact ⟨rest, by rw [hc]⟩
    -- the `#` after the cut is one byte
    have hone : (String.ofList ((String.ofList (l.toList.drop n)).toList.take 1)).utf8ByteSize = 1 := by
      rw [String.toList_ofList, hrest]
      rfl
    simp only [↓reduceIte]
    rw [← hone, Checked.sliceFrom_take, pure_bind, uncommentAt, String.toList_ofList,
      List.drop_drop, String.ofList_append, Nat.add_comm]

/-- Toggling comments byte by byte passes every check and gives the toggled lines. -/
theorem toggleCommentLinesChecked_eq (ls : List String) :
    toggleCommentLinesChecked ls = pure (toggleCommentLines ls) := by
  have hlevels : ls.mapM leadingSpacesChecked = pure (ls.map leadingSpaces) :=
    Checked.mapM_eq_pure fun l _ => leadingSpacesChecked_eq l
  have hcommented : ls.allM (commentedAtChecked (commentLevel ls)) = pure (allCommented ls) :=
    Checked.allM_eq_pure fun l hl => commentedAtChecked_eq (commentLevel_le hl)
  unfold toggleCommentLinesChecked
  rw [hlevels, pure_bind, show (ls.map leadingSpaces).min?.getD 0 = commentLevel ls from rfl]
  dsimp only
  rw [hcommented, pure_bind, toggleCommentLines_eq]
  refine Checked.mapM_eq_pure fun l hl => toggleLineChecked_eq (commentLevel_le hl) fun hc => ?_
  rw [allCommented, List.all_eq_true] at hc
  simpa using hc l hl

/-! ## Block transforms -/

namespace LineIndex

theorem startChecked_ofText {t : String} {l : Nat} (h : l < (ofText t).size) :
    (ofText t).startChecked l = pure ((ofText t).start l) := by
  rw [startChecked, Checked.index_of_lt h, start, List.getD_eq_getElem _ _ h]

theorem lineLenChecked_ofText {t : String} {l : Nat} (h : l < (ofText t).size) :
    (ofText t).lineLenChecked l = pure ((ofText t).lineLen l) := by
  have hl : l < (ofText t).lens.length := by simpa [ofText, size, length_startsFrom] using h
  rw [lineLenChecked, Checked.index_of_lt hl, lineLen, List.getD_eq_getElem]

theorem stopChecked_ofText {t : String} {l : Nat} (h : l < (ofText t).size) :
    (ofText t).stopChecked l = pure ((ofText t).stop l) := by
  rw [stopChecked, startChecked_ofText h, pure_bind, lineLenChecked_ofText h, pure_bind]
  rfl

/-- Every line's end can be looked up, and the text has a last line, so finding the line of
    an offset passes its checks. -/
theorem lineOfChecked_ofText (t : String) (o : Nat) :
    (ofText t).lineOfChecked o = pure ((ofText t).lineOf o) := by
  have hpos := size_ofText_pos t
  unfold lineOfChecked
  rw [Checked.findM?_eq_pure (q := fun l => decide (o ≤ (ofText t).stop l)) fun l hl => by
      rw [stopChecked_ofText (List.mem_range.mp hl), pure_bind], pure_bind,
    Checked.sub_of_le hpos, pure_bind]
  rfl

end LineIndex

theorem shiftChecked_ofText {t : String} {first i : Nat} {newLens : List Nat}
    (hline : first + i < (LineIndex.ofText t).size) (hi : i < newLens.length) (o : Nat) :
    shiftChecked (LineIndex.ofText t) first newLens o i =
      pure (min (o + newLens.getD i 0 - (LineIndex.ofText t).lineLen (first + i)) (newLens.getD i 0)) := by
  rw [shiftChecked, LineIndex.lineLenChecked_ofText hline, pure_bind, Checked.index_of_lt hi,
    pure_bind, List.getD_eq_getElem _ _ hi]

/-- Lists of one length agree at every place exactly when they are equal. -/
theorem all_zip_beq_iff {xs ys : List String} (h : xs.length = ys.length) :
    (xs.zip ys).all (fun p => p.1 == p.2) = true ↔ xs = ys := by
  induction xs generalizing ys with
  | nil => cases ys <;> simp_all
  | cons x xs ih =>
    cases ys with
    | nil => simp at h
    | cons y ys =>
      simp only [List.length_cons, Nat.add_right_cancel_iff] at h
      simp [ih h]

/-- A block transform run with its checks passes every one of them, for any text, any
    selection and any line map, and makes the edit the transform makes. -/
theorem applyBlockChecked_pure (f : LineMap) (text : String) (sel : Selection) :
    applyBlockChecked (fun ls => pure (f ls)) text sel = pure (applyBlock f text sel) := by
  obtain ⟨hse, hend⟩ := Selection.clamp_le sel text.length
  have hpos := LineIndex.size_ofText_pos text
  have hsize : (LineIndex.ofText text).size = (textLines text).length := by
    simp [LineIndex.size_ofText, textLines]
  have hfirst := LineIndex.lineOf_lt_size _ hpos (sel.clamp text.length).start
  have hlast := LineIndex.lineOf_lt_size _ hpos (sel.clamp text.length).stop
  have hmono := LineIndex.lineOf_mono _ hpos hse
  have hs1 := (LineIndex.start_le_and_le_stop_lineOf text (hse.trans hend)).1
  have hs2 := (LineIndex.start_le_and_le_stop_lineOf text hend).1
  have hblock : Checked.range (textLines text) ((LineIndex.ofText text).lineOf (sel.clamp text.length).start)
      ((LineIndex.ofText text).lineOf (sel.clamp text.length).stop + 1) =
      pure (((textLines text).drop ((LineIndex.ofText text).lineOf (sel.clamp text.length).start)).take
        ((LineIndex.ofText text).lineOf (sel.clamp text.length).stop + 1 -
          (LineIndex.ofText text).lineOf (sel.clamp text.length).start)) :=
    Checked.range_of_le (by omega) (by omega)
  unfold applyBlockChecked applyBlock
  simp only [LineIndex.lineOfChecked_ofText, LineIndex.startChecked_ofText hfirst,
    LineIndex.startChecked_ofText hlast, pure_bind, Checked.sub_of_le hs1, Checked.sub_of_le hs2,
    hblock]
  set ix := LineIndex.ofText text with hix
  set s := sel.clamp text.length with hs
  set first := ix.lineOf s.start with hfirstdef
  set last := ix.lineOf s.stop with hlastdef
  set B := ((textLines text).drop first).take (last + 1 - first) with hB
  set R := f B with hR
  have hBlen : B.length = last + 1 - first := by
    simp only [hB, List.length_take, List.length_drop]
    omega
  by_cases hlen : R.length = B.length
  · by_cases heq : R = B
    · rw [heq, if_neg fun h => h rfl, if_pos ((all_zip_beq_iff rfl).mpr rfl), if_pos (Or.inr rfl)]
    · -- a map that keeps the number of lines and changes one: every later check passes
      have hzip : ¬ ((R.zip B).all fun p => p.1 == p.2) = true :=
        fun h => heq ((all_zip_beq_iff hlen).mp h)
      have hk : 1 ≤ (R.map String.length).length := by
        rw [List.length_map]
        omega
      have hfirstLine : first + 0 < ix.size := by omega
      have hlastLine : first + ((R.map String.length).length - 1) < ix.size := by
        rw [List.length_map]
        omega
      rw [if_neg (by simpa using hlen), if_neg hzip, if_neg (by simp [hlen, heq]),
        Checked.sub_of_le hk, pure_bind, shiftChecked_ofText hfirstLine (by omega), pure_bind,
        shiftChecked_ofText hlastLine (by omega), pure_bind, Checked.range_of_le (Nat.zero_le _)
        (Nat.sub_le _ _), pure_bind, LineIndex.stopChecked_ofText hlast, pure_bind]
      rfl
  · simp [hlen]

/-- The shipped block transforms, run with their checks, pass every one of them. -/
theorem BlockTransform.applyChecked_eq (t : BlockTransform) (text : String) (sel : Selection) :
    t.applyChecked text sel = pure (t.apply text sel) := by
  cases t with
  | indent => exact applyBlockChecked_pure indentLines text sel
  | outdent => exact applyBlockChecked_pure outdentLines text sel
  | toggleComment =>
    have hmap : toggleCommentLinesChecked = fun ls => pure (toggleCommentLines ls) :=
      funext toggleCommentLinesChecked_eq
    rw [BlockTransform.applyChecked, BlockTransform.lineMapChecked, hmap]
    exact applyBlockChecked_pure toggleCommentLines text sel

/-! ## No editing operation panics -/

/-- The editing operations never panic. For every text and every selection, whatever its
    ends, a block transform with any line map, each shipped transform, toggling comments on
    any lines, typing any text with or without a closing text, and applying any edit pass
    every check the machine makes on the way (no subtraction below zero, no index or range
    out of bounds, no cut of a text off a character boundary), and give exactly the edit or
    the text the operation gives. -/
theorem editing_never_panics :
    (∀ (f : LineMap) (text : String) (sel : Selection),
      applyBlockChecked (fun ls => pure (f ls)) text sel = pure (applyBlock f text sel)) ∧
    (∀ (t : BlockTransform) (text : String) (sel : Selection),
      t.applyChecked text sel = pure (t.apply text sel)) ∧
    (∀ ls : List String, toggleCommentLinesChecked ls = pure (toggleCommentLines ls)) ∧
    (∀ (text : String) (sel : Selection) (literal : String) (closing : Option String),
      insertChecked text sel literal closing = pure (insert text sel literal closing)) ∧
    ∀ (e : Edit) (t : String), e.applyChecked t = pure (e.apply t) :=
  ⟨applyBlockChecked_pure, BlockTransform.applyChecked_eq, toggleCommentLinesChecked_eq,
    insertChecked_eq, Edit.applyChecked_eq⟩

end BqnEdit.Editor
