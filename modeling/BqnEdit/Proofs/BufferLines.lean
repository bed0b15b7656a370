import BqnEdit.Proofs.Lines
import BqnEdit.Proofs.Splice

/-!
# The buffer's lines and the lines of a text

The buffer counts lines as its rope does, at every Unicode line break, while the line index
and the block transforms cut a text at line feeds only. The two agree on a line feed, and on
a carriage return right before one: the pair ends a line of the buffer, and the buffer's
line, its line feeds stripped, keeps the carriage return, as the line between the line feeds
does. Every other break (a lone carriage return, vertical tab, form feed, next line, and the
line and paragraph separators) ends a line of the buffer inside a line of the text.

So the buffer has one line more than the text for each such other break, and its line view
is the text's lines exactly when the text has none.

Main results:

* `length_brokenLines`: the buffer's lines number the text's lines and the other breaks.
* `map_stripFeeds_brokenLines`: without other breaks, the buffer's lines with their line
  feeds stripped are the text's lines.
* `Buffer.lineView_iff`: the buffer's line count is the line index's count plus the other
  breaks, and its line view is the text's lines exactly when there are no other breaks.
-/

namespace BqnEdit.Editor

/-- The line breaks among characters other than line feeds. A carriage return right before
    a line feed is not one: the pair is a single break, which the line feed stands for. -/
def otherBreaks : List Char → Nat
  | [] => 0
  | '\r' :: '\n' :: cs => otherBreaks cs
  | c :: cs => (if isBreakChar c && c != '\n' then 1 else 0) + otherBreaks cs

/-! ## Counting lines -/

theorem ne_feed_of_not_isBreakChar {c : Char} (h : ¬isBreakChar c = true) : c ≠ '\n' := by
  rintro rfl
  simp [isBreakChar] at h

theorem splitLines_cons_of_ne {c : Char} (hc : c ≠ '\n') (cs : List Char) :
    splitLines (c :: cs) = (splitLines cs).modifyHead (c :: ·) := by
  rw [splitLines, if_neg hc]
  cases hs : splitLines cs with
  | nil => exact absurd hs (splitLines_ne_nil cs)
  | cons l ls => rfl

theorem splitLines_crlf (cs : List Char) :
    splitLines ('\r' :: '\n' :: cs) = ['\r'] :: splitLines cs := by
  rw [splitLines_cons_of_ne (by decide), splitLines, if_pos rfl]
  rfl

/-- The buffer has a line for each line of the text and one more for each other break. -/
theorem length_brokenLines (cs : List Char) :
    (brokenLines cs).length = (splitLines cs).length + otherBreaks cs := by
  rw [length_splitLines]
  fun_induction brokenLines cs with
  | case1 => rfl
  | case2 cs ih =>
    rw [List.length_cons, ih, otherBreaks]
    simp
    omega
  | case3 c cs hcr hb ih =>
    rw [List.length_cons, ih, otherBreaks.eq_3 c cs hcr]
    -- a line feed is counted as a line feed, any other break as another break
    by_cases hc : c = '\n'
    · subst hc
      simp
      omega
    · simp [hc, hb]
      omega
  | case4 c cs hcr hb l ls hs ih =>
    have hc := ne_feed_of_not_isBreakChar hb
    rw [hs, List.length_cons] at ih
    rw [List.length_cons, otherBreaks.eq_3 c cs hcr]
    simp [hc, hb]
    omega
  | case5 c cs _ _ hs _ => exact absurd hs (brokenLines_ne_nil cs)

/-! ## The lines themselves -/

theorem toList_stripFeeds (l : List Char) :
    (stripFeeds l).toList = (l.reverse.dropWhile (· = '\n')).reverse := by
  rw [stripFeeds, String.toList_ofList]

theorem toList_stripFeeds_cons {c : Char} (hc : c ≠ '\n') (l : List Char) :
    (stripFeeds (c :: l)).toList = c :: (stripFeeds l).toList := by
  rw [toList_stripFeeds, toList_stripFeeds, List.reverse_cons, List.dropWhile_append]
  split
  · rename_i hd
    rw [List.isEmpty_iff.mp hd]
    simp [hc]
  · simp

theorem stripFeeds_cons {c : Char} (hc : c ≠ '\n') {l : List Char} {l' : List Char}
    (h : stripFeeds l = String.ofList l') : stripFeeds (c :: l) = String.ofList (c :: l') := by
  apply String.toList_injective
  rw [toList_stripFeeds_cons hc, h, String.toList_ofList, String.toList_ofList]

/-- Without other breaks, the buffer's lines with their line feeds stripped are the text's
    lines. -/
theorem map_stripFeeds_brokenLines {cs : List Char} (h : otherBreaks cs = 0) :
    (brokenLines cs).map stripFeeds = (splitLines cs).map String.ofList := by
  fun_induction brokenLines cs with
  | case1 => rfl
  | case2 cs ih =>
    rw [otherBreaks] at h
    rw [List.map_cons, ih h, splitLines_crlf, List.map_cons]
    rfl
  | case3 c cs hcr hb ih =>
    rw [otherBreaks.eq_3 c cs hcr] at h
    -- the only break left is the line feed, which ends an empty piece of the buffer's line
    have hc : c = '\n' := by
      by_contra hc
      simp [hb, hc] at h
    subst hc
    rw [List.map_cons, ih (by simpa using h), splitLines, if_pos rfl, List.map_cons]
    rfl
  | case4 c cs hcr hb l ls hs ih =>
    rw [otherBreaks.eq_3 c cs hcr] at h
    have hc := ne_feed_of_not_isBreakChar hb
    have ih := ih (by simpa [hb] using h)
    rw [hs, List.map_cons] at ih
    rw [splitLines_cons_of_ne hc]
    cases hsl : splitLines cs with
    | nil => exact absurd hsl (splitLines_ne_nil cs)
    | cons l' ls' =>
      rw [hsl, List.map_cons, List.cons.injEq] at ih
      rw [List.modifyHead_cons, List.map_cons, List.map_cons, ih.2, stripFeeds_cons hc ih.1]
  | case5 c cs _ _ hs _ => exact absurd hs (brokenLines_ne_nil cs)

/-! ## The buffer's line view -/

namespace Buffer

variable {R : Type} [Rope R] [LawfulRope R]

theorem lineCount_ofText (t : String) :
    (ofText t : Buffer R).lineCount = (LineIndex.ofText t).size + otherBreaks t.toList := by
  rw [lineCount_eq, text_ofText, length_brokenLines, LineIndex.size_ofText]

theorem lineAt_ofText {t : String} (h : otherBreaks t.toList = 0) (i : Nat) :
    (ofText t : Buffer R).lineAt i = (textLines t)[i]? := by
  rw [lineAt_eq, text_ofText, ← List.getElem?_map, map_stripFeeds_brokenLines h, textLines]

/-- The buffer's line count is the line index's count plus the other breaks, the line
    index counts the text's lines, and the buffer's lines are the text's lines, in count and
    line by line, exactly when the text has no other break. -/
theorem lineView_iff (t : String) :
    (ofText t : Buffer R).lineCount = (LineIndex.ofText t).size + otherBreaks t.toList ∧
      (LineIndex.ofText t).size = (textLines t).length ∧
      (((ofText t : Buffer R).lineCount = (LineIndex.ofText t).size ∧
          ∀ i, (ofText t : Buffer R).lineAt i = (textLines t)[i]?) ↔
        otherBreaks t.toList = 0) := by
  have hsize : (LineIndex.ofText t).size = (textLines t).length := by
    rw [LineIndex.size_ofText, textLines, List.length_map]
  refine ⟨lineCount_ofText t, hsize, ?_, fun h => ⟨?_, lineAt_ofText h⟩⟩
  · rintro ⟨hcount, -⟩
    rw [lineCount_ofText] at hcount
    omega
  · rw [lineCount_ofText, h, Nat.add_zero]

/-- A carriage return and line feed agree with the text's lines. -/
theorem lineView_iff_crlf :
    (ofText "a\r\nb" : Buffer String).lineCount = (LineIndex.ofText "a\r\nb").size ∧
      ∀ i, (ofText "a\r\nb" : Buffer String).lineAt i = (textLines "a\r\nb")[i]? :=
  (lineView_iff "a\r\nb").2.2.mpr (by decide)

/-- A lone carriage return ends a line of the buffer inside the text's one line. -/
theorem lineCount_lone_carriageReturn :
    (ofText "a\rb" : Buffer String).lineCount = 2 ∧ (LineIndex.ofText "a\rb").size = 1 ∧
      (ofText "a\rb" : Buffer String).lineAt 0 = some "a\r" ∧
      textLines "a\rb" = ["a\rb"] := by
  decide

end Buffer

end BqnEdit.Editor
