/-!
# Ropes of characters

The buffer keeps its text in a rope, which a library provides. The buffer uses seven of
its operations: building a rope from a text, reading the whole text back, counting its
characters, removing a range of characters, inserting a text at a character index,
counting its lines and reading one line. `Rope` names these operations, and `LawfulRope`
states what the buffer relies on them to do: removing and inserting splice the characters
at the given indexes when the indexes lie within the rope (the library refuses others, and
the buffer never asks), and the lines are the text cut after every line break.

The library's documented line breaks are those of Unicode: line feed, carriage return, the
pair carriage return and line feed (one break), vertical tab, form feed, next line
(U+0085), and the line and paragraph separators (U+2028, U+2029). A break ends its line,
so a text ending in a break has an empty last line. `brokenLines` is that rule.

A text is a rope of itself, spliced on its characters and cut by that rule; the editor
runs with that rope.

Main results:

* `flatten_brokenLines`: the lines, breaks included, make up the text again.
* `brokenLines_ne_nil`: every text has a line, the empty text one empty line.
-/

namespace BqnEdit.Editor

/-- The characters that end a line on their own. -/
def isBreakChar (c : Char) : Bool :=
  c = '\n' || c = '\x0b' || c = '\x0c' || c = '\r' || c = '\x85' || c = '\u2028' || c = '\u2029'

/-- Cut characters into lines after every line break, keeping each break at the end of
    its line. Carriage return and line feed together make one break. -/
def brokenLines : List Char → List (List Char)
  | [] => [[]]
  | '\r' :: '\n' :: cs => ['\r', '\n'] :: brokenLines cs
  | c :: cs =>
    if isBreakChar c then [c] :: brokenLines cs
    else
      match brokenLines cs with
      | l :: ls => (c :: l) :: ls
      | [] => [[c]]

theorem brokenLines_ne_nil (cs : List Char) : brokenLines cs ≠ [] := by
  fun_induction brokenLines cs <;> simp_all

theorem flatten_brokenLines (cs : List Char) : (brokenLines cs).flatten = cs := by
  fun_induction brokenLines cs with
  | case1 => rfl
  | case2 cs ih => simp [ih]
  | case3 c cs _ _ ih => simp [ih]
  | case4 c cs _ _ l ls h ih => simp_all
  | case5 c cs _ _ h _ => exact absurd h (brokenLines_ne_nil cs)

/-- The operations of a rope of characters that the buffer uses. -/
class Rope (R : Type) where
  ofString : String → R
  /-- The whole text of the rope. -/
  text : R → String
  lenChars : R → Nat
  /-- Remove the characters from `lo` to `hi`. -/
  remove : R → Nat → Nat → R
  /-- Insert a text before the character at an index. -/
  insert : R → Nat → String → R
  /-- The number of lines. -/
  lenLines : R → Nat
  /-- A line with the break that ends it; the buffer asks only for lines the rope has. -/
  line : R → Nat → String

/-- What the buffer relies on a rope to do: the text it is built from reads back, it
    counts the characters of its text, removing and inserting within it splice its
    characters, and its lines are its text cut after every line break. -/
class LawfulRope (R : Type) [Rope R] : Prop where
  text_ofString (s : String) : Rope.text (Rope.ofString s : R) = s
  lenChars_eq (r : R) : Rope.lenChars r = (Rope.text r).length
  toList_remove (r : R) {lo hi : Nat} (hlo : lo ≤ hi) (hhi : hi ≤ Rope.lenChars r) :
    (Rope.text (Rope.remove r lo hi)).toList =
      (Rope.text r).toList.take lo ++ (Rope.text r).toList.drop hi
  toList_insert (r : R) {i : Nat} (s : String) (hi : i ≤ Rope.lenChars r) :
    (Rope.text (Rope.insert r i s)).toList =
      (Rope.text r).toList.take i ++ s.toList ++ (Rope.text r).toList.drop i
  lenLines_eq (r : R) : Rope.lenLines r = (brokenLines (Rope.text r).toList).length
  getElem?_brokenLines (r : R) {i : Nat} (hi : i < Rope.lenLines r) :
    (brokenLines (Rope.text r).toList)[i]? = some (Rope.line r i).toList

/-- A text as the rope of its own characters. -/
instance : Rope String where
  ofString s := s
  text s := s
  lenChars s := s.length
  remove s lo hi := String.ofList (s.toList.take lo ++ s.toList.drop hi)
  insert s i t := String.ofList (s.toList.take i ++ t.toList ++ s.toList.drop i)
  lenLines s := (brokenLines s.toList).length
  line s i := String.ofList ((brokenLines s.toList)[i]?.getD [])

instance : LawfulRope String where
  text_ofString _ := rfl
  lenChars_eq _ := rfl
  toList_remove _ _ _ _ _ := String.toList_ofList
  toList_insert _ _ _ _ := String.toList_ofList
  lenLines_eq _ := rfl
  getElem?_brokenLines s i hi := by
    change i < (brokenLines s.toList).length at hi
    change (brokenLines s.toList)[i]? = some (String.ofList ((brokenLines s.toList)[i]?.getD [])).toList
    rw [String.toList_ofList, List.getElem?_eq_getElem hi, Option.getD_some]

end BqnEdit.Editor
