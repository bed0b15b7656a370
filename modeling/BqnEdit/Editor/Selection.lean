/-!
# Selections and edits

Offsets count characters (Unicode scalar values), never bytes. A selection is a
range of offsets with the direction in which it was made; the head, where the
caret is drawn, is the start of a backward selection and the end of any other.

An edit replaces a range of the text and says where the selection goes afterwards.
Applying an edit clamps its range to the text: an offset past the end is the end,
and an end before the start is the start.

Main results:

* `length_apply`: the length of an edited text.
* `Selection.clamp_le`: a clamped selection lies within the text.
-/

namespace BqnEdit.Editor

/-- The direction in which a selection was made (`SelectionDirection` in `editor`, lines 28–33). -/
inductive Direction where
  | forward
  | backward
  | none
  deriving DecidableEq, Repr, Inhabited

namespace Direction

/-- The lowercase name of a direction. -/
def name : Direction → String
  | forward => "forward"
  | backward => "backward"
  | none => "none"

/-- The direction with a given lowercase name. -/
def ofName? : String → Option Direction
  | "forward" => some forward
  | "backward" => some backward
  | "none" => some none
  | _ => Option.none

end Direction

/-- A range of character offsets and its direction (`Selection` in `editor`, lines 37–42). The ends
    are usually ordered (`Selection.new` orders them), but a selection read from JSON keeps its ends
    as given. -/
structure Selection where
  start : Nat
  stop : Nat
  direction : Direction := .none
  deriving DecidableEq, Repr, Inhabited

namespace Selection

/-- An empty selection at an offset, with no direction (`Selection::caret` in `editor`,
    lines 46–52). -/
def caret (o : Nat) : Selection := ⟨o, o, .none⟩

/-- A selection between two offsets in either order, keeping the direction (`Selection::new` in
    `editor`, lines 55–69). -/
def new (a b : Nat) (d : Direction) : Selection :=
  if a ≤ b then ⟨a, b, d⟩ else ⟨b, a, d⟩

/-- The selection made by dragging from `anchor` to `head` (`Selection::from_anchor` in `editor`,
    lines 72–80). -/
def fromAnchor (anchor head : Nat) : Selection :=
  if anchor = head then caret head
  else if anchor < head then new anchor head .forward
  else new head anchor .backward

/-- No character is selected (`Selection::len` in `editor`, lines 86–88) (`Selection::is_empty` in
    `editor`, lines 82–84). -/
def isEmpty (s : Selection) : Bool := s.start == s.stop

/-- The number of selected characters (`Selection::head` in `editor`, lines 91–96) (`Selection::len`
    in `editor`, lines 86–88). -/
def len (s : Selection) : Nat := s.stop - s.start

/-- Where the caret is drawn (`Selection::head` in `editor`, lines 91–96): the start of a backward
    selection, else the end. -/
def head (s : Selection) : Nat :=
  match s.direction with
  | .backward => s.start
  | _ => s.stop

/-- Bring both ends within a text of `n` characters (`Selection::clamp` in `editor`,
    lines 100–102). -/
def clamp (s : Selection) (n : Nat) : Selection :=
  new (min s.start n) (min s.stop n) s.direction

theorem clamp_le (s : Selection) (n : Nat) :
    (s.clamp n).start ≤ (s.clamp n).stop ∧ (s.clamp n).stop ≤ n := by
  unfold clamp new
  split <;> simp <;> omega

end Selection

/-- A replacement of the characters from `lo` to `hi` by `text`, and the selection that follows it
    (`Edit` in `editor`, lines 111–117). -/
structure Edit where
  lo : Nat
  hi : Nat
  text : String
  selection : Selection
  deriving DecidableEq, Repr, Inhabited

namespace Edit

/-- The edit that changes nothing and leaves `s` selected (`Edit::unchanged` in `editor`,
    lines 121–127): an empty replacement at the start of the selection. -/
def unchanged (s : Selection) : Edit := ⟨s.start, s.start, "", s⟩

/-- An edit that removes nothing and inserts nothing (`Edit::is_noop` in `editor`,
    lines 129–131). -/
def isNoop (e : Edit) : Bool := e.hi ≤ e.lo && e.text.isEmpty

/-- The characters of `t` after editing. -/
def applyChars (e : Edit) (t : List Char) : List Char :=
  t.take e.lo ++ e.text.toList ++ t.drop (max e.hi e.lo)

/-- Apply an edit to a text (`Edit::apply` in `editor`, lines 134–142). Offsets past the end are the
    end, and an end before the start is the start. -/
def apply (e : Edit) (t : String) : String :=
  String.ofList (e.applyChars t.toList)

theorem toList_apply (e : Edit) (t : String) :
    (e.apply t).toList = t.toList.take e.lo ++ e.text.toList ++ t.toList.drop (max e.hi e.lo) := by
  simp [apply, applyChars]

theorem length_apply (e : Edit) (t : String) :
    (e.apply t).length =
      min e.lo t.length + e.text.length + (t.length - max e.hi e.lo) := by
  rw [← String.length_toList, toList_apply]
  simp only [List.length_append, List.length_take, List.length_drop, String.length_toList]

end Edit

end BqnEdit.Editor
