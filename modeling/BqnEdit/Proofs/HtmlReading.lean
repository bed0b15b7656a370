import BqnEdit.Syntax.Html
import BqnEdit.Proofs.Tokens

/-!
# Reading the HTML of tokens back

A reader of the HTML that tokens are written as sees a sequence of bare text and of spans
`<span class="syn-NAME">TEXT</span>`. Text is character data: each of the five entities
`&amp; &lt; &gt; &quot; &#39;` stands for its character, and any other markup character
fails the reading, as does a class name that holds one. The reader is a machine over the
characters: it collects a field (bare text, a class name or a span's text) up to the character
that ends it, and then expects the rest of the tag that character begins.

Escaping writes every character as text that unescapes to it and holds no `<`, and a class
name holds no markup character and no quote. So each token's HTML reads as one step of the
machine: bare text grows by the token's text, or a span closes the bare text before it.

Main results:

* `unescape_escapeChars`: escaped text unescapes to itself.
* `readFrom_plain`, `readFrom_span`: what the reader does with the HTML of one token.
* `read_toHtml`: the HTML of any tokens reads back; its text is the tokens' text, and its
  spans are the tokens with a class other than a line break, each with its class name and
  its text.
-/

namespace BqnEdit.Syntax.Html

/-- A piece of HTML as a reader sees it: bare text, or a span with a class name around text. -/
inductive Piece where
  | bare (text : String)
  | span (name text : String)
  deriving DecidableEq, Repr

namespace Piece

/-- The text a piece shows. -/
def text : Piece → String
  | bare t => t
  | span _ t => t

/-- The class name and the text of a span; bare text has none. -/
def span? : Piece → Option (String × String)
  | bare _ => none
  | span n t => some (n, t)

end Piece

/-- The characters that markup gives a meaning to. -/
def isMarkup (c : Char) : Bool :=
  c == '&' || c == '<' || c == '>' || c == '"' || c == '\''

/-- The character an entity names. -/
def entityChar : List Char → Option Char
  | ['a', 'm', 'p'] => some '&'
  | ['l', 't'] => some '<'
  | ['g', 't'] => some '>'
  | ['q', 'u', 'o', 't'] => some '"'
  | ['#', '3', '9'] => some '\''
  | _ => none

/-- Unescape character data: an entity `&name;` stands for the character it names, and any
    other markup character fails. `entity` holds the name of the entity being read, reversed. -/
def unescapeFrom : Option (List Char) → List Char → Option (List Char)
  | none, [] => some []
  | none, c :: cs =>
    if c = '&' then unescapeFrom (some []) cs
    else if isMarkup c then none
    else (unescapeFrom none cs).map (c :: ·)
  | some _, [] => none
  | some e, c :: cs =>
    if c = ';' then (entityChar e.reverse).bind fun d => (unescapeFrom none cs).map (d :: ·)
    else unescapeFrom (some (c :: e)) cs

/-- Bare text, reversed, in front of the pieces after it; empty bare text is no piece. -/
def bareText (raw : List Char) (rest : Option (List Piece)) : Option (List Piece) :=
  if raw = [] then rest
  else (unescapeFrom none raw.reverse).bind fun t => rest.map (.bare (String.ofList t) :: ·)

/-- A span with its text, reversed, in front of the pieces after it. Its class name may hold
    no markup character. -/
def spanText (name raw : List Char) (rest : Option (List Piece)) : Option (List Piece) :=
  if name.any isMarkup then none
  else (unescapeFrom none raw.reverse).bind fun t =>
    rest.map (.span (String.ofList name) (String.ofList t) :: ·)

/-- What a reader collects the characters of. -/
inductive Field where
  /-- bare text, up to the next tag -/
  | bare
  /-- the class name in a span's opening tag, up to its closing quote -/
  | name
  /-- the text of a span of the given class name, up to the closing tag -/
  | body (name : List Char)

/-- Where a reader stands: collecting a field, with what it holds so far reversed, or inside a
    tag, expecting `c` and then `rest` before it goes on at `next`. -/
inductive Stage where
  | field (f : Field) (raw : List Char)
  | expect (c : Char) (rest : List Char) (next : Stage)

/-- Expect the characters of a tag, then go on at `next`. -/
def Stage.expecting : List Char → Stage → Stage
  | [], next => next
  | c :: rest, next => .expect c rest next

/-- What follows `<` after bare text: a span's opening tag, up to its class name. -/
def openTagRest : List Char := "span class=\"syn-".toList

/-- What follows `<` after a span's text: its closing tag. -/
def closeTagRest : List Char := "/span>".toList

namespace Field

/-- The character that ends a field. -/
def stop : Field → Char
  | bare => '<'
  | name => '"'
  | body _ => '<'

/-- Where the reader goes after the character that ends a field: into the tag it begins. -/
def next : Field → List Char → Stage
  | bare, _ => Stage.expecting openTagRest (.field .name [])
  | name, raw => Stage.expecting ['>'] (.field (.body raw.reverse) [])
  | body _, _ => Stage.expecting closeTagRest (.field .bare [])

/-- The pieces a finished field puts in front of those after it. -/
def close : Field → List Char → Option (List Piece) → Option (List Piece)
  | bare, raw, rest => bareText raw rest
  | name, _, rest => rest
  | body n, raw, rest => spanText n raw rest

/-- A field at the end of the input: only bare text may end it. -/
def atEnd : Field → List Char → Option (List Piece)
  | bare, raw => bareText raw (some [])
  | name, _ => none
  | body _, _ => none

end Field

/-- Read HTML from a stage on. -/
def readFrom : Stage → List Char → Option (List Piece)
  | .field f raw, [] => f.atEnd raw
  | .field f raw, c :: cs =>
    if c = f.stop then f.close raw (readFrom (f.next raw) cs)
    else readFrom (.field f (c :: raw)) cs
  | .expect _ _ _, [] => none
  | .expect e rest next, c :: cs =>
    if c = e then readFrom (Stage.expecting rest next) cs else none

/-- Read HTML as bare text and spans, with their text unescaped. -/
def read (html : String) : Option (List Piece) :=
  readFrom (.field .bare []) html.toList

/-! ## Escaped text -/

/-- Characters as HTML text. -/
def escapeChars (cs : List Char) : List Char :=
  cs.flatMap fun c => (escapeChar c).toList

@[simp] theorem escapeChars_nil : escapeChars [] = [] := rfl

@[simp] theorem escapeChars_append (xs ys : List Char) :
    escapeChars (xs ++ ys) = escapeChars xs ++ escapeChars ys := by
  simp [escapeChars]

theorem toList_escapeHtml (s : String) : (escapeHtml s).toList = escapeChars s.toList := by
  rw [escapeHtml, String.toList_join, List.flatMap_map]
  rfl

/-- Unescaping the text of a character gives the character. -/
theorem unescapeFrom_escapeChar (c : Char) (cs : List Char) :
    unescapeFrom none ((escapeChar c).toList ++ cs) = (unescapeFrom none cs).map (c :: ·) := by
  unfold escapeChar
  split
  · rfl
  · rfl
  · rfl
  · rfl
  · rfl
  · -- any other character is no markup character and stands for itself
    rename_i hamp hlt hgt hquot happ
    have hmarkup : isMarkup c = false := by
      simp only [isMarkup, Bool.or_eq_false_iff, beq_eq_false_iff_ne]
      exact ⟨⟨⟨⟨hamp, hlt⟩, hgt⟩, hquot⟩, happ⟩
    simp [unescapeFrom, show c ≠ '&' from hamp, hmarkup]

theorem unescape_escapeChars (cs rest : List Char) :
    unescapeFrom none (escapeChars cs ++ rest) = (unescapeFrom none rest).map (cs ++ ·) := by
  induction cs with
  | nil => simp
  | cons c cs ih =>
    rw [escapeChars, List.flatMap_cons, List.append_assoc, unescapeFrom_escapeChar]
    rw [← escapeChars, ih, Option.map_map]
    rfl

theorem unescape_escapeChars_self (cs : List Char) : unescapeFrom none (escapeChars cs) = some cs := by
  simpa [unescapeFrom] using unescape_escapeChars cs []

theorem escapeChar_ne_empty (c : Char) : escapeChar c ≠ "" := by
  unfold escapeChar
  split <;> simp [String.ext_iff]

theorem escapeChars_eq_nil {cs : List Char} : escapeChars cs = [] ↔ cs = [] := by
  cases cs with
  | nil => simp
  | cons c cs => simp [escapeChars, escapeChar_ne_empty c]

/-- Escaped text holds no `<`. -/
theorem lt_not_mem_escapeChars (cs : List Char) : '<' ∉ escapeChars cs := by
  have hchar : ∀ c, '<' ∉ (escapeChar c).toList := by
    intro c
    unfold escapeChar
    split
    · decide
    · decide
    · decide
    · decide
    · decide
    · rename_i hlt _ _ _
      simpa [eq_comm] using hlt
  simp [escapeChars, hchar]

/-- A class name holds no markup character, and so no quote. -/
theorem TokenClass.any_isMarkup_name (c : TokenClass) : c.name.toList.any isMarkup = false := by
  cases c <;> decide

theorem TokenClass.quote_not_mem_name (c : TokenClass) : '"' ∉ c.name.toList := by
  intro hmem
  have hany := TokenClass.any_isMarkup_name c
  rw [List.any_eq_false] at hany
  exact hany '"' hmem rfl

/-! ## The reader -/

theorem readFrom_field_append (f : Field) (raw : List Char) {xs : List Char} (hxs : f.stop ∉ xs)
    (cs : List Char) : readFrom (.field f raw) (xs ++ cs) = readFrom (.field f (xs.reverse ++ raw)) cs := by
  induction xs generalizing raw with
  | nil => rfl
  | cons x xs ih =>
    have hx : x ≠ f.stop := fun h => hxs (h ▸ List.mem_cons_self)
    rw [List.cons_append, readFrom, if_neg hx, ih _ fun h => hxs (List.mem_cons_of_mem x h)]
    simp

theorem readFrom_field_stop (f : Field) (raw cs : List Char) :
    readFrom (.field f raw) (f.stop :: cs) = f.close raw (readFrom (f.next raw) cs) := by
  rw [readFrom, if_pos rfl]

theorem readFrom_expecting (xs : List Char) (next : Stage) (cs : List Char) :
    readFrom (Stage.expecting xs next) (xs ++ cs) = readFrom next cs := by
  induction xs with
  | nil => rfl
  | cons x xs ih => rw [Stage.expecting, List.cons_append, readFrom, if_pos rfl, ih]

/-- The bare text piece of some text: none for empty text. -/
def bareRun (w : List Char) : List Piece :=
  if w = [] then [] else [.bare (String.ofList w)]

@[simp] theorem text_bareRun (w : List Char) :
    String.join ((bareRun w).map Piece.text) = String.ofList w := by
  unfold bareRun
  split <;> simp_all [Piece.text]

@[simp] theorem filterMap_span_bareRun (w : List Char) : (bareRun w).filterMap Piece.span? = [] := by
  unfold bareRun
  split <;> rfl

theorem bareText_escapeChars (w : List Char) (rest : Option (List Piece)) :
    bareText (escapeChars w).reverse rest = rest.map (bareRun w ++ ·) := by
  by_cases hw : w = []
  · subst hw
    simp [bareText, bareRun]
  · have hne : (escapeChars w).reverse ≠ [] := by simpa [escapeChars_eq_nil] using hw
    rw [bareText, if_neg hne, List.reverse_reverse, unescape_escapeChars_self]
    simp [bareRun, hw]

theorem spanText_escapeChars (c : TokenClass) (w : List Char) (rest : Option (List Piece)) :
    spanText c.name.toList (escapeChars w).reverse rest =
      rest.map (.span c.name (String.ofList w) :: ·) := by
  rw [spanText, if_neg (by simp [TokenClass.any_isMarkup_name]), List.reverse_reverse,
    unescape_escapeChars_self]
  simp

end BqnEdit.Syntax.Html

namespace BqnEdit.Syntax

open Html

/-- The span a token is written as: its class name and its text, for a token whose class is
    not a line break. -/
def Token.htmlSpan? (t : Token) : Option (String × String) :=
  t.cls.bind fun c => if c = .newline then none else some (c.name, t.content)

theorem Token.toHtml_of_plain {t : Token} (h : t.cls = none ∨ t.cls = some .newline) :
    t.toHtml = escapeHtml t.content := by
  unfold Token.toHtml
  rcases h with h | h <;> rw [h]

theorem Token.toHtml_of_class {t : Token} {c : TokenClass} (hc : t.cls = some c)
    (hnl : c ≠ .newline) :
    t.toHtml = "<span class=\"" ++ c.cssClass ++ "\">" ++ escapeHtml t.content ++ "</span>" := by
  unfold Token.toHtml
  split <;> simp_all

/-- The text of a span, cut where its tags begin and end. -/
theorem toList_spanHtml (c : TokenClass) (text : String) (cs : List Char) :
    ("<span class=\"" ++ c.cssClass ++ "\">" ++ text ++ "</span>").toList ++ cs =
      '<' :: (openTagRest ++ (c.name.toList ++ '"' :: (['>'] ++ (text.toList ++
        '<' :: (closeTagRest ++ cs))))) := by
  have hopen : "<span class=\"".toList ++ "syn-".toList = '<' :: openTagRest := by rfl
  have hmid : "\">".toList = ['"', '>'] := by rfl
  have hclose : "</span>".toList = '<' :: closeTagRest := by rfl
  simp only [TokenClass.cssClass, String.toList_append, List.append_assoc]
  rw [← List.append_assoc "<span class=\"".toList, hopen, hmid, hclose]
  simp

theorem toList_toHtml_cons (t : Token) (ts : List Token) :
    (toHtml (t :: ts)).toList = t.toHtml.toList ++ (toHtml ts).toList := by
  simp [toHtml, String.toList_join]

theorem readFrom_plain {t : Token} (ht : t.cls = none ∨ t.cls = some .newline) (w cs : List Char) :
    readFrom (.field .bare (escapeChars w).reverse) (t.toHtml.toList ++ cs) =
      readFrom (.field .bare (escapeChars (w ++ t.content.toList)).reverse) cs := by
  rw [Token.toHtml_of_plain ht, toList_escapeHtml,
    readFrom_field_append .bare _ (lt_not_mem_escapeChars _), escapeChars_append,
    List.reverse_append]

/-- The HTML of a token of any other class closes the bare text read so far with a span of
    its class name and text. -/
theorem readFrom_span {t : Token} {c : TokenClass} (hc : t.cls = some c) (hnl : c ≠ .newline)
    (raw cs : List Char) :
    readFrom (.field .bare raw) (t.toHtml.toList ++ cs) =
      bareText raw (spanText c.name.toList (escapeChars t.content.toList).reverse
        (readFrom (.field .bare []) cs)) := by
  -- the HTML cut at the characters where the reader changes field
  have hhtml : t.toHtml.toList ++ cs = Field.bare.stop :: (openTagRest ++ (c.name.toList ++
      Field.name.stop :: (['>'] ++ (escapeChars t.content.toList ++
        (Field.body c.name.toList).stop :: (closeTagRest ++ cs))))) := by
    rw [Token.toHtml_of_class hc hnl, toList_spanHtml, toList_escapeHtml]
    rfl
  rw [hhtml, readFrom_field_stop, Field.close, Field.next, readFrom_expecting,
    readFrom_field_append .name [] (TokenClass.quote_not_mem_name c), readFrom_field_stop,
    Field.close, Field.next, List.append_nil, List.reverse_reverse, readFrom_expecting,
    readFrom_field_append (.body _) [] (lt_not_mem_escapeChars _), readFrom_field_stop,
    Field.close, Field.next, List.append_nil, readFrom_expecting]

theorem readFrom_toHtml (ts : List Token) (w : List Char) :
    ∃ ps, readFrom (.field .bare (escapeChars w).reverse) (toHtml ts).toList = some ps ∧
      String.join (ps.map Piece.text) = String.ofList w ++ contents ts ∧
      ps.filterMap Piece.span? = ts.filterMap Token.htmlSpan? := by
  induction ts generalizing w with
  | nil =>
    refine ⟨bareRun w, ?_, by simp, by simp⟩
    have hend : readFrom (.field .bare (escapeChars w).reverse) [] =
        bareText (escapeChars w).reverse (some []) := rfl
    simp [toHtml, hend, bareText_escapeChars]
  | cons t ts ih =>
    rw [toList_toHtml_cons]
    -- a token without a class or a line break is bare text; any other is a span
    by_cases hplain : t.cls = none ∨ t.cls = some .newline
    · obtain ⟨ps, hread, htext, hspans⟩ := ih (w ++ t.content.toList)
      have hnone : t.htmlSpan? = none := by
        rcases hplain with h | h <;> simp [Token.htmlSpan?, h]
      refine ⟨ps, by rw [readFrom_plain hplain, hread], ?_, ?_⟩
      · rw [htext, contents_cons, String.ofList_append, String.ofList_toList, String.append_assoc]
      · rw [hspans, List.filterMap_cons, hnone]
    · obtain ⟨c, hc, hnl⟩ : ∃ c, t.cls = some c ∧ c ≠ .newline := by
        rcases hcls : t.cls with _ | c
        · exact absurd (.inl hcls) hplain
        · exact ⟨c, rfl, fun h => hplain (.inr (h ▸ hcls))⟩
      obtain ⟨ps, hread, htext, hspans⟩ := ih []
      rw [escapeChars_nil, List.reverse_nil] at hread
      have hsome : t.htmlSpan? = some (c.name, t.content) := by
        simp [Token.htmlSpan?, hc, hnl]
      refine ⟨bareRun w ++ .span c.name t.content :: ps, ?_, ?_, ?_⟩
      · rw [readFrom_span hc hnl, hread, spanText_escapeChars, bareText_escapeChars]
        simp
      · rw [List.map_append, String.join_append, text_bareRun, List.map_cons, String.join_cons,
          htext, contents_cons]
        simp [Piece.text]
      · rw [List.filterMap_append, filterMap_span_bareRun, List.filterMap_cons, hspans,
          List.filterMap_cons, hsome]
        rfl

/-- The HTML of any tokens reads back as bare text and spans: its text, unescaped, is the
    tokens' text, and its spans are, in order, the tokens whose class is neither absent nor a
    line break, each with its class name and its own text. Reading fails on a markup character
    outside the tags, so there is none. -/
theorem read_toHtml (ts : List Token) :
    ∃ ps, read (toHtml ts) = some ps ∧
      String.join (ps.map Piece.text) = contents ts ∧
      ps.filterMap Piece.span? = ts.filterMap Token.htmlSpan? := by
  obtain ⟨ps, hread, htext, hspans⟩ := readFrom_toHtml ts []
  refine ⟨ps, hread, ?_, hspans⟩
  rw [htext, String.ofList_nil, String.empty_append]

example : read "1 &lt; <span class=\"syn-number\">2</span>" =
    some [.bare "1 < ", .span "number" "2"] := by decide

example : read "a < b" = none := by decide

end BqnEdit.Syntax
