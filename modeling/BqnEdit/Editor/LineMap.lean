import BqnEdit.Editor.Block
import BqnEdit.Text.Case
import BqnEdit.Text.Unsigned

/-!
# Named line recipes

A small language of recipes that change a block of lines, for driving block transforms
beyond the three the editor ships: some keep the number of lines (case changes,
adding text at either end, cutting), some do not (and are then refused by the
block transform). A recipe is named by a word, and a parameter follows a colon:
`prefix:# `, `truncate:3`. A count that does not read as one is zero.
-/

namespace BqnEdit.Editor

/-- A recipe that changes a block of lines. -/
inductive LineRecipe where
  /-- Every line in upper case. -/
  | upper
  /-- The lines as they are. -/
  | identity
  /-- No lines at all. -/
  | empty
  /-- Without its first line. -/
  | dropFirst
  /-- With one more line at the end. -/
  | addLine (s : String)
  /-- Text put before every line. -/
  | prependAll (s : String)
  /-- Text put after every line. -/
  | appendAll (s : String)
  /-- Text put before the first line only. -/
  | prependFirst (s : String)
  /-- Text put before the last line only. -/
  | prependLast (s : String)
  /-- Every line cut to its first `n` characters. -/
  | truncate (n : Nat)
  /-- Every line without its first `n` characters. -/
  | dropStart (n : Nat)
  /-- The lines in reverse order. -/
  | reverseLines
  /-- Every line emptied. -/
  | clear
  deriving DecidableEq, Repr

namespace LineRecipe

/-- A count: an unsigned machine word in decimal, and zero for any text that is not
    one. -/
def count (s : String) : Nat :=
  match Text.parseUnsigned (Nat.pow 2 64) s with
  | .ok n => n
  | .error _ => 0

/-- The recipe a word names. The name stands before the first colon and the parameter
    after it; a recipe without a parameter ignores one. -/
def ofName? (s : String) : Option LineRecipe :=
  let (word, arg) := match s.splitOn ":" with
    | w :: rest@(_ :: _) => (w, ":".intercalate rest)
    | _ => (s, "")
  match word with
  | "upper" => some upper
  | "identity" => some identity
  | "empty" => some empty
  | "drop_first" => some dropFirst
  | "reverse_lines" => some reverseLines
  | "clear" => some clear
  | "add_line" => some (addLine arg)
  | "prefix" => some (prependAll arg)
  | "suffix" => some (appendAll arg)
  | "first_prefix" => some (prependFirst arg)
  | "last_prefix" => some (prependLast arg)
  | "truncate" => some (truncate (count arg))
  | "drop_start" => some (dropStart (count arg))
  | _ => none

/-- Put text before the line at one position of a list. -/
def prependAt (s : String) (i : Nat) (ls : List String) : List String :=
  ls.modify i (s ++ ·)

/-- The block the recipe makes. -/
def apply : LineRecipe → LineMap
  | upper, ls => ls.map Text.toUpper
  | identity, ls => ls
  | empty, _ => []
  | dropFirst, ls => ls.drop 1
  | addLine s, ls => ls ++ [s]
  | prependAll s, ls => ls.map (s ++ ·)
  | appendAll s, ls => ls.map (· ++ s)
  | prependFirst s, ls => prependAt s 0 ls
  | prependLast s, ls => prependAt s (ls.length - 1) ls
  | truncate n, ls => ls.map (fun l => String.ofList (l.toList.take n))
  | dropStart n, ls => ls.map (fun l => String.ofList (l.toList.drop n))
  | reverseLines, ls => ls.reverse
  | clear, ls => ls.map (fun _ => "")

end LineRecipe

end BqnEdit.Editor
