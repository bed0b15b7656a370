/-!
# Lines of a text

The lines of a text are the pieces between its line feeds: a text with `k` line
feeds has `k + 1` lines, the empty text has one empty line, and a carriage return
is an ordinary character of its line. The line index records where each line starts
and how long it is, in characters.

Main results:

* `length_splitLines`: a text has one line more than it has line feeds.
* `joinLines_splitLines`: joining the lines with line feeds gives back the text.
-/

namespace BqnEdit.Editor

/-- Cut characters at every line feed. -/
def splitLines : List Char → List (List Char)
  | [] => [[]]
  | c :: cs =>
    if c = '\n' then [] :: splitLines cs
    else
      match splitLines cs with
      | l :: ls => (c :: l) :: ls
      | [] => [[c]]

/-- Join lines with line feeds between them. -/
def joinLines : List (List Char) → List Char
  | [] => []
  | [l] => l
  | l :: ls => l ++ '\n' :: joinLines ls

theorem splitLines_ne_nil (cs : List Char) : splitLines cs ≠ [] := by
  cases cs with
  | nil => simp [splitLines]
  | cons c cs =>
    unfold splitLines
    split
    · simp
    · split <;> simp

theorem joinLines_splitLines (cs : List Char) : joinLines (splitLines cs) = cs := by
  induction cs with
  | nil => rfl
  | cons c cs ih =>
    unfold splitLines
    by_cases h : c = '\n'
    · subst h
      have := splitLines_ne_nil cs
      cases hs : splitLines cs with
      | nil => exact absurd hs this
      | cons l ls => rw [hs] at ih; simp [joinLines, ih]
    · simp only [h, if_false]
      cases hs : splitLines cs with
      | nil => exact absurd hs (splitLines_ne_nil cs)
      | cons l ls =>
        rw [hs] at ih
        cases ls with
        | nil => simp_all [joinLines]
        | cons m ms => simp_all [joinLines]

theorem length_splitLines (cs : List Char) :
    (splitLines cs).length = cs.count '\n' + 1 := by
  induction cs with
  | nil => rfl
  | cons c cs ih =>
    unfold splitLines
    by_cases h : c = '\n'
    · subst h; simp [ih]
    · simp only [h, if_false]
      cases hs : splitLines cs with
      | nil => exact absurd hs (splitLines_ne_nil cs)
      | cons l ls =>
        rw [hs] at ih
        simp only [List.length_cons] at ih ⊢
        rw [List.count_cons]
        simp [h, ih]

/-- The lines of a text. -/
def textLines (s : String) : List String :=
  (splitLines s.toList).map String.ofList

/-- Where each line of a text starts and how many characters it has (`LineIndex` in `editor::lines`,
    lines 7–10). -/
structure LineIndex where
  starts : List Nat
  lens : List Nat
  deriving DecidableEq, Repr, Inhabited

namespace LineIndex

/-- The starts of lines with the given lengths, the first at `o`. -/
def startsFrom : Nat → List Nat → List Nat
  | _, [] => []
  | o, n :: ns => o :: startsFrom (o + n + 1) ns

/-- The line index of a text (`LineIndex::new` in `editor::lines`, lines 13–24). -/
def ofText (s : String) : LineIndex :=
  let lens := (splitLines s.toList).map List.length
  ⟨startsFrom 0 lens, lens⟩

/-- The number of lines (`LineIndex::len` in `editor::lines`, lines 27–29). -/
def size (ix : LineIndex) : Nat := ix.starts.length

/-- The offset where a line starts (`LineIndex::start` in `editor::lines`, lines 35–37). -/
def start (ix : LineIndex) (line : Nat) : Nat := ix.starts.getD line 0

/-- The length of a line (`LineIndex::line_len` in `editor::lines`, lines 44–46). -/
def lineLen (ix : LineIndex) (line : Nat) : Nat := ix.lens.getD line 0

/-- The offset where a line ends, before its line feed (`LineIndex::end` in `editor::lines`,
    lines 40–42). -/
def stop (ix : LineIndex) (line : Nat) : Nat := ix.start line + ix.lineLen line

/-- The line an offset falls on (`LineIndex::line_of` in `editor::lines`, lines 51–55): the first
    line that ends at or after it, and the last line for an offset past the end. -/
def lineOf (ix : LineIndex) (o : Nat) : Nat :=
  ((List.range ix.size).find? (fun l => o ≤ ix.stop l)).getD (ix.size - 1)

/-- The ends of all lines. -/
def stops (ix : LineIndex) : List Nat :=
  (List.range ix.size).map ix.stop

end LineIndex

end BqnEdit.Editor
