import Mathlib.Tactic.SplitIfs
import BqnEdit.Proofs.RcFile

/-!
# Flags from several places

The program takes its flags from the global rc file, the local one and the command line,
and merges what each place gives, the later over the earlier. Reading the words of all the
places in one go gives the same flags, provided no word of one place is taken as the value
of a flag from the place before it, and no later place names an unknown theme: an unknown
theme reads as no theme and so clears a theme read before it, while merging keeps the
earlier theme when the later place has none.

The reader takes the words as items: `--theme` and `--store` with the word after them as
their value, and every other word alone. Reading is then a fold of one step per item, and
merging commutes with every step that names no unknown theme (`FlagItem.read_union`). Only
the last item of a list can be a flag still waiting for its value, and when there is none
the items of two lists of words side by side are the items of each (`flagItems_append`).

Main results:

* `readWords_eq_foldl`: reading words is reading their items one after another.
* `parse_append_union`: the flags of two lists of words read together are the flags of
  each merged, and merging is associative with the empty flags on either side.
* `parse_layers`: the global, local and command-line flags merged are the flags of all
  their words read in that order.
-/

namespace BqnEdit.Config

open BqnEdit.Syntax

/-- What the flag reader takes at a time: `--theme` or `--store` with the word after it as
    its value, or any other word. -/
inductive FlagItem where
  | theme (v : String)
  | store (v : String)
  | word (w : String)
  deriving DecidableEq, Repr

namespace FlagItem

/-- Read one item over the flags read before it. -/
def read (f : ConfigFlags) : FlagItem → ConfigFlags
  | theme v => { f with theme := Theme.ofName? v }
  | store v => { f with store := some v }
  | word w => f.readWord w

/-- The theme an item names, if it names one: the value of `--theme` or of `--theme=`. -/
def themeName? : FlagItem → Option String
  | theme v => some v
  | store _ => none
  | word w => if w.startsWith "--theme=" then some (w.drop 8).toString else none

/-- Whether the item names no theme or a known one. -/
def namesKnownTheme (i : FlagItem) : Bool :=
  i.themeName?.all fun v => (Theme.ofName? v).isSome

/-- `--theme` or `--store` with no word after it to take as its value. -/
def waitsForValue : FlagItem → Bool
  | word w => w == "--theme" || w == "--store"
  | _ => false

end FlagItem

/-- Words as the flag reader takes them. -/
def flagItems : List String → List FlagItem
  | "--theme" :: v :: ws => .theme v :: flagItems ws
  | "--store" :: v :: ws => .store v :: flagItems ws
  | w :: ws => .word w :: flagItems ws
  | [] => []

/-- The words end with `--theme` or `--store` left without its value. -/
def endsOpen (ws : List String) : Bool :=
  (flagItems ws).getLast?.any FlagItem.waitsForValue

/-- Every theme the words name is a known one. -/
def themesKnown (ws : List String) : Bool :=
  (flagItems ws).all FlagItem.namesKnownTheme

namespace ConfigFlags

/-! ## Merging -/

@[simp] theorem empty_union (f : ConfigFlags) : ({} : ConfigFlags).union f = f := by
  cases f
  simp [union]

@[simp] theorem union_empty (f : ConfigFlags) : f.union {} = f := by
  cases f
  simp [union]

/-! ## Reading item by item -/

theorem flagItems_cons_of_ne {w : String} (hth : w ≠ "--theme") (hst : w ≠ "--store")
    (ws : List String) : flagItems (w :: ws) = .word w :: flagItems ws :=
  flagItems.eq_3 w ws (fun _ _ h _ => hth h) (fun _ _ h _ => hst h)

theorem readWords_eq_foldl (f : ConfigFlags) (ws : List String) :
    readWords f ws = (flagItems ws).foldl FlagItem.read f := by
  fun_induction readWords f ws with
  | case1 f => rfl
  | case2 f v ws ih => rw [flagItems, List.foldl_cons, ih]; rfl
  | case3 f v ws ih => rw [flagItems, List.foldl_cons, ih]; rfl
  | case4 f w ws hth hst ih => rw [flagItems.eq_3 w ws hth hst, List.foldl_cons, ih]; rfl

theorem parse_eq_foldl (ws : List String) : parse ws = (flagItems ws).foldl FlagItem.read {} :=
  readWords_eq_foldl {} ws

/-- Only the last item can be a flag waiting for its value. -/
theorem getLast?_flagItems_of_waits {i : FlagItem} {ws : List String} (hi : i ∈ flagItems ws)
    (hw : i.waitsForValue = true) : (flagItems ws).getLast? = some i := by
  fun_induction flagItems ws with
  | case1 v ws ih | case2 v ws ih =>
    rcases List.mem_cons.mp hi with rfl | hi
    · simp [FlagItem.waitsForValue] at hw
    · rw [List.getLast?_cons, ih hi]
      rfl
  | case3 w ws hth hst ih =>
    rcases List.mem_cons.mp hi with rfl | hi
    · -- a waiting flag took no value, so it was the last word
      have hnil : ws = [] := by
        cases ws with
        | nil => rfl
        | cons v ws =>
          simp only [FlagItem.waitsForValue, Bool.or_eq_true, beq_iff_eq] at hw
          rcases hw with h | h
          · exact (hth v ws h rfl).elim
          · exact (hst v ws h rfl).elim
      subst hnil
      rfl
    · rw [List.getLast?_cons, ih hi]
      rfl
  | case4 => simp at hi

theorem endsOpen_eq_false_iff (ws : List String) :
    endsOpen ws = false ↔ ∀ i ∈ flagItems ws, i.waitsForValue = false := by
  constructor
  · intro h i hi
    cases hw : i.waitsForValue with
    | false => rfl
    | true =>
      rw [endsOpen, getLast?_flagItems_of_waits hi hw] at h
      simp [hw] at h
  · intro h
    rw [endsOpen]
    cases hl : (flagItems ws).getLast? with
    | none => rfl
    | some i => simpa using h i (List.mem_of_getLast? hl)

/-- When no flag of the first words waits for a value, the items of two lists of words side
    by side are the items of each. -/
theorem flagItems_append {a : List String} (ha : ∀ i ∈ flagItems a, i.waitsForValue = false)
    (b : List String) : flagItems (a ++ b) = flagItems a ++ flagItems b := by
  fun_induction flagItems a with
  | case1 v ws ih | case2 v ws ih =>
    rw [List.cons_append, List.cons_append, flagItems, ih fun i hi => ha i (by simp [hi])]
    rfl
  | case3 w ws hth hst ih =>
    -- the word takes no value, so it is neither `--theme` nor `--store`
    have hw := ha (.word w) List.mem_cons_self
    simp only [FlagItem.waitsForValue, Bool.or_eq_false_iff, beq_eq_false_iff_ne] at hw
    rw [List.cons_append, flagItems_cons_of_ne hw.1 hw.2,
      ih fun i hi => ha i (List.mem_cons_of_mem _ hi)]
    rfl
  | case4 => rfl

end ConfigFlags

/-! ## Reading commutes with merging -/

open ConfigFlags in
/-- Reading an item that names no unknown theme over merged flags merges what it reads. -/
theorem FlagItem.read_union (f g : ConfigFlags) {i : FlagItem} (hi : i.namesKnownTheme = true) :
    i.read (f.union g) = f.union (i.read g) := by
  cases i with
  | theme v =>
    obtain ⟨t, ht⟩ := Option.isSome_iff_exists.mp (by simpa [FlagItem.namesKnownTheme,
      FlagItem.themeName?] using hi)
    simp [FlagItem.read, union, ht]
  | store v => simp [FlagItem.read, union]
  | word w =>
    simp only [FlagItem.read, readWord]
    split_ifs with h₁ h₂ h₃ h₄ h₅
    · simp [union]
    · simp [union]
    · simp [union]
    · -- `--theme=` names a known theme, which the merge keeps
      obtain ⟨t, ht⟩ := Option.isSome_iff_exists.mp (by simpa [FlagItem.namesKnownTheme,
        FlagItem.themeName?, h₄] using hi)
      simp [union, ht]
    · simp [union]
    · rfl

namespace ConfigFlags

theorem foldl_read_union (f g : ConfigFlags) {is : List FlagItem}
    (h : ∀ i ∈ is, i.namesKnownTheme = true) :
    is.foldl FlagItem.read (f.union g) = f.union (is.foldl FlagItem.read g) := by
  induction is generalizing g with
  | nil => rfl
  | cons i is ih =>
    rw [List.foldl_cons, List.foldl_cons, FlagItem.read_union f g (h i List.mem_cons_self),
      ih _ fun j hj => h j (List.mem_cons_of_mem i hj)]

/-- The flags of two lists of words read together are the flags of each merged, when the
    first does not end waiting for a value and the second names no unknown theme. -/
theorem parse_append {a b : List String} (ha : endsOpen a = false) (hb : themesKnown b = true) :
    parse (a ++ b) = (parse a).union (parse b) := by
  have hitems := flagItems_append ((endsOpen_eq_false_iff a).mp ha) b
  have hknown : ∀ i ∈ flagItems b, i.namesKnownTheme = true := List.all_eq_true.mp hb
  calc parse (a ++ b)
      = (flagItems b).foldl FlagItem.read ((parse a).union {}) := by
        rw [parse_eq_foldl (a ++ b), hitems, List.foldl_append, union_empty, parse_eq_foldl a]
    _ = (parse a).union (parse b) := by
        rw [foldl_read_union _ _ hknown, parse_eq_foldl b]

/-- Reading two lists of words together merges what each reads, when the first does not end
    waiting for a value and the second names only known themes; merging is associative, with
    the empty flags on either side. -/
theorem parse_append_union (a b : List String) (ha : endsOpen a = false)
    (hb : themesKnown b = true) :
    parse (a ++ b) = (parse a).union (parse b) ∧
      (∀ x y z : ConfigFlags, (x.union y).union z = x.union (y.union z)) ∧
      ∀ x : ConfigFlags, ({} : ConfigFlags).union x = x ∧ x.union {} = x :=
  ⟨parse_append ha hb, union_assoc, fun x => ⟨empty_union x, union_empty x⟩⟩

/-- A `--store` whose value is the word `--theme` reads the same in one list and merged. -/
theorem parse_append_union_theme_store :
    endsOpen ["--theme", "light", "--mod-toggle"] = false ∧
      themesKnown ["--store", "--theme", "--theme=dark"] = true ∧
      parse (["--theme", "light", "--mod-toggle"] ++ ["--store", "--theme", "--theme=dark"]) =
        (parse ["--theme", "light", "--mod-toggle"]).union
          (parse ["--store", "--theme", "--theme=dark"]) :=
  have hb : themesKnown ["--store", "--theme", "--theme=dark"] = true := by decide +kernel
  ⟨by decide, hb, (parse_append_union _ _ (by decide) hb).1⟩

/-- The global, local and command-line flags merged, as the program merges them, are the
    flags of all their words read in that order. -/
theorem parse_layers {g l c : List String} (hg : endsOpen g = false) (hl : endsOpen l = false)
    (hlk : themesKnown l = true) (hck : themesKnown c = true) :
    ((parse g).union (parse l)).union (parse c) = parse (g ++ l ++ c) := by
  have hgl : endsOpen (g ++ l) = false := by
    rw [endsOpen_eq_false_iff, flagItems_append ((endsOpen_eq_false_iff g).mp hg)]
    intro i hi
    rcases List.mem_append.mp hi with hi | hi
    · exact (endsOpen_eq_false_iff g).mp hg i hi
    · exact (endsOpen_eq_false_iff l).mp hl i hi
  rw [parse_append hgl hck, parse_append hg hlk]

end ConfigFlags

end BqnEdit.Config
