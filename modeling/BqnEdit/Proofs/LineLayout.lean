import BqnEdit.Syntax.StyledLines
import BqnEdit.Proofs.Lines
import BqnEdit.Proofs.Tokenize

/-!
# Styled lines of a text

A layout keeps the lines it has finished and the spans of the line it is on. Two views of a
layout carry every proof: the text it has drawn, its lines joined by line feeds, and its
spans read in order across all lines. A piece of text adds itself to the drawn text and, when
not empty, one span; a line break adds a line feed and no span. So laying out tokens draws
their contents, a line feed for each line break token, and spans that are the non-empty pieces
of each token between line feeds, in the token's style. No span holds a line feed, so the
lines are the pieces of the text between line feeds.

Main results:

* `flatten_highlightLines`: the spans of all lines, in order, are the spans of the tokens.
* `map_lineText_highlightLines`: the text of each line is the matching piece of the tokens'
  text between line feeds, when every line break token is one line feed.
* `highlightLines_tokenize`: the lines of the tokens of a text are one more than its line
  feeds, each with the text of its line; no span is empty, and each carries the style of the
  token it was cut from.
-/

namespace BqnEdit.Syntax

open BqnEdit.Editor

/-- The text of a drawn line: the contents of its spans, in order. -/
def lineText (line : List Span) : String :=
  String.join (line.map Span.content)

/-- The spans a token is drawn as: the pieces of its text between line feeds that are not
    empty, each in the style of the token's class. A line break token draws none. -/
def Token.spans (bg : Background) (t : Token) : List Span :=
  if t.cls = some .newline then []
  else ((t.content.toList.splitOn '\n').filter (· ≠ [])).map
    fun p => ⟨String.ofList p, palette bg t.cls⟩

theorem isEmpty_ofList {p : List Char} : (String.ofList p).isEmpty = true ↔ p = [] := by
  rw [String.isEmpty_iff, String.ext_iff, String.toList_ofList, String.toList_empty]

@[simp] theorem toList_lineText (line : List Span) :
    (lineText line).toList = line.flatMap (·.content.toList) := by
  rw [lineText, String.toList_join, List.flatMap_map]

theorem Token.mem_spans {bg : Background} {t : Token} {sp : Span} (h : sp ∈ t.spans bg) :
    sp.content ≠ "" ∧ '\n' ∉ sp.content.toList ∧ sp.style = palette bg t.cls := by
  unfold Token.spans at h
  split at h
  · cases h
  · obtain ⟨p, hp, rfl⟩ := List.mem_map.mp h
    obtain ⟨hpiece, hne⟩ := List.mem_filter.mp hp
    have hne : p ≠ [] := by simpa using hne
    refine ⟨ofList_ne_empty hne, ?_, rfl⟩
    rw [String.toList_ofList]
    rw [← splitLines_eq_splitOn] at hpiece
    exact not_mem_of_mem_splitLines hpiece

namespace LineLayout

/-- The text a layout has drawn: its lines joined by line feeds. -/
def text (l : LineLayout) : List Char :=
  joinLines (l.finish.map fun line => (lineText line).toList)

theorem finish_eq (l : LineLayout) : l.finish = l.done.reverse ++ [l.current.reverse] := by
  simp [finish]

theorem finish_ne_nil (l : LineLayout) : l.finish ≠ [] := by
  simp [finish_eq]

/-- The drawn text is the finished lines, each closed by a line feed, then the current line. -/
theorem text_eq (l : LineLayout) :
    l.text = (l.done.reverse.map fun line => (lineText line).toList).flatMap (· ++ ['\n']) ++
      (lineText l.current.reverse).toList := by
  rw [text, finish_eq, List.map_append, List.map_singleton,
    joinLines_append_left _ (List.cons_ne_nil _ _)]
  rfl

@[simp] theorem text_empty : ({} : LineLayout).text = [] := rfl

@[simp] theorem flatten_finish_empty : ({} : LineLayout).finish.flatten = [] := rfl

/-! ## One piece, one line break -/

theorem text_push (l : LineLayout) (p : String) (st : Style) :
    (l.push p st).text = l.text ++ p.toList := by
  unfold push
  split
  · rename_i hp
    simp [String.isEmpty_iff.mp hp]
  · simp [text_eq]

theorem flatten_push (l : LineLayout) (p : String) (st : Style) :
    (l.push p st).finish.flatten =
      l.finish.flatten ++ (if p.isEmpty then [] else [⟨p, st⟩]) := by
  unfold push
  split <;> simp [finish_eq]

theorem text_breakLine (l : LineLayout) : l.breakLine.text = l.text ++ ['\n'] := by
  simp [text_eq, breakLine]

theorem flatten_breakLine (l : LineLayout) : l.breakLine.finish.flatten = l.finish.flatten := by
  simp [finish_eq, breakLine]

/-! ## The pieces of a token -/

/-- Pieces add themselves with a line feed between each two. -/
theorem text_pushPieces (st : Style) (l : LineLayout) (ps : List String) :
    (pushPieces st l ps).text = l.text ++ joinLines (ps.map String.toList) := by
  fun_induction pushPieces st l ps with
  | case1 l => simp [joinLines]
  | case2 l p => simp [text_push, joinLines]
  | case3 l p rest hrest ih =>
    obtain ⟨q, rest', rfl⟩ := List.exists_cons_of_ne_nil hrest
    rw [ih, text_breakLine, text_push]
    simp [joinLines]

/-- Pieces add a span each, unless they are empty. -/
theorem flatten_pushPieces (st : Style) (l : LineLayout) (ps : List String) :
    (pushPieces st l ps).finish.flatten =
      l.finish.flatten ++ (ps.filter (!·.isEmpty)).map (⟨·, st⟩) := by
  fun_induction pushPieces st l ps with
  | case1 l => simp
  | case2 l p => by_cases hp : p.isEmpty <;> simp [flatten_push, hp]
  | case3 l p rest _ ih =>
    rw [ih, flatten_breakLine, flatten_push]
    by_cases hp : p.isEmpty <;> simp [hp]

/-- A token adds its text, when a line break token is one line feed. -/
theorem text_addToken (bg : Background) (l : LineLayout) {t : Token}
    (ht : t.cls = some .newline → t.content = "\n") :
    (addToken bg l t).text = l.text ++ t.content.toList := by
  unfold addToken
  split
  · rename_i hnl
    rw [text_breakLine, ht hnl]
    rfl
  · rw [text_pushPieces, List.map_map]
    -- the pieces between line feeds, joined by line feeds, are the token's text
    have hpieces : (t.content.toList.splitOn '\n').map (String.toList ∘ String.ofList) =
        t.content.toList.splitOn '\n' := by
      simp
    rw [hpieces, ← splitLines_eq_splitOn, joinLines_splitLines]

/-- A token adds its spans. -/
theorem flatten_addToken (bg : Background) (l : LineLayout) (t : Token) :
    (addToken bg l t).finish.flatten = l.finish.flatten ++ t.spans bg := by
  unfold addToken Token.spans
  split
  · rw [flatten_breakLine, List.append_nil]
  · rw [flatten_pushPieces, List.filter_map, List.map_map]
    congr 2
    apply List.filter_congr
    intro p _
    have hempty : (String.ofList p).isEmpty = decide (p = []) := by
      rw [Bool.eq_iff_iff, isEmpty_ofList, decide_eq_true_iff]
    simp [hempty]

/-! ## A run over tokens -/

theorem text_foldl_addToken (bg : Background) (ts : List Token) (l : LineLayout)
    (hts : ∀ t ∈ ts, t.cls = some .newline → t.content = "\n") :
    (ts.foldl (addToken bg) l).text = l.text ++ (contents ts).toList := by
  induction ts generalizing l with
  | nil => simp
  | cons t ts ih =>
    rw [List.foldl_cons, ih _ fun u hu => hts u (List.mem_cons_of_mem t hu),
      text_addToken bg l (hts t List.mem_cons_self), contents_cons, String.toList_append,
      List.append_assoc]

theorem flatten_foldl_addToken (bg : Background) (ts : List Token) (l : LineLayout) :
    (ts.foldl (addToken bg) l).finish.flatten = l.finish.flatten ++ ts.flatMap (Token.spans bg) := by
  induction ts generalizing l with
  | nil => simp
  | cons t ts ih =>
    rw [List.foldl_cons, ih, flatten_addToken, List.flatMap_cons, List.append_assoc]

end LineLayout

/-! ## The lines of tokens -/

/-- The spans of all lines, in order, are the spans of the tokens: each token's non-empty
    pieces between line feeds, in the style of its class. -/
theorem flatten_highlightLines (bg : Background) (ts : List Token) :
    (highlightLines bg ts).flatten = ts.flatMap (Token.spans bg) := by
  rw [highlightLines, LineLayout.flatten_foldl_addToken, LineLayout.flatten_finish_empty,
    List.nil_append]

/-- Every span of every line is a span of a token: not empty, with no line feed, and in the
    style of that token's class. -/
theorem mem_spans_of_mem_highlightLines {bg : Background} {ts : List Token} {line : List Span}
    (hline : line ∈ highlightLines bg ts) {sp : Span} (hsp : sp ∈ line) :
    ∃ t ∈ ts, sp ∈ t.spans bg := by
  have hflat : sp ∈ (highlightLines bg ts).flatten := List.mem_flatten.mpr ⟨line, hline, hsp⟩
  rw [flatten_highlightLines] at hflat
  exact List.mem_flatMap.mp hflat

/-- The text of each line is the matching piece of the tokens' text between line feeds, when
    every line break token is one line feed. -/
theorem map_lineText_highlightLines (bg : Background) {ts : List Token}
    (hts : ∀ t ∈ ts, t.cls = some .newline → t.content = "\n") :
    (highlightLines bg ts).map lineText = ((contents ts).toList.splitOn '\n').map String.ofList := by
  -- no line holds a line feed, so the lines split back from the text they join into
  have hunbroken : ∀ cs ∈ (highlightLines bg ts).map (fun line => (lineText line).toList),
      '\n' ∉ cs := by
    intro cs hcs hmem
    obtain ⟨line, hline, rfl⟩ := List.mem_map.mp hcs
    rw [toList_lineText] at hmem
    obtain ⟨sp, hsp, hc⟩ := List.mem_flatMap.mp hmem
    obtain ⟨t, -, hspans⟩ := mem_spans_of_mem_highlightLines hline hsp
    exact (Token.mem_spans hspans).2.1 hc
  have hjoin : joinLines ((highlightLines bg ts).map fun line => (lineText line).toList) =
      (contents ts).toList := by
    have := LineLayout.text_foldl_addToken bg ts {} hts
    rwa [LineLayout.text_empty, List.nil_append] at this
  have hlines := splitLines_joinLines hunbroken
    (by simpa [highlightLines] using LineLayout.finish_ne_nil _)
  rw [hjoin, splitLines_eq_splitOn] at hlines
  rw [hlines, List.map_map]
  exact List.map_congr_left fun line _ => (String.ofList_toList).symm

/-- The lines drawn for the tokens of a text: one more than the text has line feeds, the
    text of each the matching piece of the text between line feeds, no span empty, and the
    spans, read in order across the lines, the non-empty pieces of each token between line
    feeds, each in the style of its token's class, so a string token over several lines keeps
    its style on each. -/
theorem highlightLines_tokenize (bg : Background) (s : String) :
    (highlightLines bg (tokenize s)).length = s.toList.count '\n' + 1 ∧
      (highlightLines bg (tokenize s)).map lineText = (s.toList.splitOn '\n').map String.ofList ∧
      (∀ line ∈ highlightLines bg (tokenize s), ∀ sp ∈ line, sp.content ≠ "") ∧
      (highlightLines bg (tokenize s)).flatten = (tokenize s).flatMap (Token.spans bg) := by
  have hlines : (highlightLines bg (tokenize s)).map lineText =
      (s.toList.splitOn '\n').map String.ofList := by
    have := map_lineText_highlightLines bg fun t ht => (wellFormed_tokenize s t ht).newline_eq
    rwa [contents_tokenize] at this
  refine ⟨?_, hlines, ?_, flatten_highlightLines bg _⟩
  · rw [← List.length_map (f := lineText), hlines, List.length_map, ← splitLines_eq_splitOn,
      length_splitLines]
  · intro line hline sp hsp
    obtain ⟨t, -, hspans⟩ := mem_spans_of_mem_highlightLines hline hsp
    exact (Token.mem_spans hspans).1

end BqnEdit.Syntax
