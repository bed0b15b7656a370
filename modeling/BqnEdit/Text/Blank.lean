/-!
# Blank characters

The characters with the Unicode `White_Space` property. Core's `Char.isWhitespace`
knows only a handful of ASCII blanks; the tokenizer needs the whole property,
so that a no-break space or an ideographic space is a blank run like any other.

Main results:

* `isBlank_of_isWhitespace`: every blank that core knows is in the table.
* `isBlank_newline`: the line feed is a blank (the tokenizer takes it apart first).
* `blank_free_words`: no word holds a blank.
-/

namespace BqnEdit.Text

/-- The code points of the Unicode `White_Space` property, in increasing order:
    the controls from tab to carriage return, space, next line, no-break space,
    ogham space mark, the typographic spaces from en quad to hair space, the line
    and paragraph separators, the narrow no-break space, the medium mathematical
    space and the ideographic space. Zero-width space and the byte order mark are
    not in it. -/
def blankCodePoints : List Nat :=
  [0x09, 0x0A, 0x0B, 0x0C, 0x0D, 0x20, 0x85, 0xA0, 0x1680,
   0x2000, 0x2001, 0x2002, 0x2003, 0x2004, 0x2005, 0x2006, 0x2007, 0x2008, 0x2009, 0x200A,
   0x2028, 0x2029, 0x202F, 0x205F, 0x3000]

/-- `c` has the Unicode `White_Space` property. -/
def isBlank (c : Char) : Bool :=
  blankCodePoints.contains c.toNat

theorem isBlank_of_isWhitespace (c : Char) (h : c.isWhitespace = true) : isBlank c = true := by
  simp only [Char.isWhitespace, Bool.or_eq_true, decide_eq_true_eq] at h
  rcases h with ((h | h) | h) | h <;> subst h <;> decide

theorem isBlank_newline : isBlank '\n' = true := by decide

/-- Cut characters into words at runs of blanks; `acc` holds the current word,
    reversed. -/
def wordsFrom : List Char → List Char → List String
  | [], acc => if acc.isEmpty then [] else [String.ofList acc.reverse]
  | c :: cs, acc =>
    if isBlank c then
      (if acc.isEmpty then wordsFrom cs [] else String.ofList acc.reverse :: wordsFrom cs [])
    else wordsFrom cs (c :: acc)

/-- Cut text into words at runs of blanks. -/
def words (s : String) : List String := wordsFrom s.toList []

/-- The text without its leading and trailing blanks. -/
def trim (s : String) : String :=
  String.ofList ((s.toList.dropWhile isBlank).reverse.dropWhile isBlank).reverse

theorem blank_free_wordsFrom (cs acc : List Char) (hacc : ∀ c ∈ acc, isBlank c = false) :
    ∀ w ∈ wordsFrom cs acc, ∀ c ∈ w.toList, isBlank c = false := by
  induction cs generalizing acc with
  | nil =>
    intro w hw c hc
    by_cases h : acc.isEmpty <;> simp_all [wordsFrom]
  | cons d cs ih =>
    intro w hw c hc
    simp only [wordsFrom] at hw
    split at hw
    · split at hw
      · exact ih [] (by simp) w hw c hc
      · rcases List.mem_cons.1 hw with rfl | hw
        · simp_all
        · exact ih [] (by simp) w hw c hc
    · refine ih (d :: acc) ?_ w hw c hc
      intro x hx
      rcases List.mem_cons.1 hx with rfl | hx
      · simp_all
      · exact hacc x hx

theorem blank_free_words (s : String) : ∀ w ∈ words s, ∀ c ∈ w.toList, isBlank c = false :=
  blank_free_wordsFrom s.toList [] (by simp)

end BqnEdit.Text
