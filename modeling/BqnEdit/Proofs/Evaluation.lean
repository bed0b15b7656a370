import Mathlib.Logic.Function.Iterate
import BqnEdit.Eval.Run

/-!
# What a program reads and prints

A program reads the lines of its input file one at a time and prints what it shows and
what it returns. The lines are the pieces of the file between line feeds, less the one
empty piece after a final line feed: inner blank lines stay, an empty file has no lines,
and joining the lines with line feeds gives the file back, with its final line feed when it
has one. Reading gives the lines in order while there are any, and the null character from
then on. A run prints the values shown, in the order shown, and then one output for a
result, one flagged as an error for an error, and nothing for no result.

Main results:

* `getLast?_splitOn_eq_some_nil_iff`: a text cut at a separator ends with an empty piece
  exactly when it is empty or ends with the separator.
* `intercalate_lines`: the lines of a file joined with line feeds, and a line feed when the
  file ends with one, are the file.
* `iterate_getLine`: after `k` reads the next line to read is line `min k n` of the `n`.
* `run_eq`: a run's outputs are the shown values and then what its result adds.
* `inputLines_reads_run`: the lines of a file give the file back, reading serves them in order
  and then the null character, and a run prints the shown values before its result.
-/

namespace BqnEdit.Eval

/-! ## Cutting at a separator -/

section Separator

variable {α : Type}

theorem intercalate_append_nil (a : α) {ls : List (List α)} (h : ls ≠ []) :
    [a].intercalate (ls ++ [[]]) = [a].intercalate ls ++ [a] := by
  induction ls with
  | nil => exact absurd rfl h
  | cons l ls ih =>
    cases ls with
    | nil => simp [List.intercalate_cons_cons]
    | cons l' ls =>
      rw [List.cons_append, List.cons_append, List.intercalate_cons_cons, ← List.cons_append,
        ih (by simp), List.intercalate_cons_cons]
      simp

variable [BEq α] [LawfulBEq α]

/-- A text cut at a separator ends with an empty piece exactly when it is empty or ends with
    the separator. -/
theorem getLast?_splitOn_eq_some_nil_iff (a : α) (cs : List α) :
    (cs.splitOn a).getLast? = some [] ↔ cs = [] ∨ cs.getLast? = some a := by
  constructor
  · intro h
    obtain ⟨ys, hys⟩ := List.getLast?_eq_some_iff.mp h
    -- the pieces joined back give the text, which then ends with the separator
    have hcs : cs = [a].intercalate (ys ++ [[]]) := by rw [← hys, List.intercalate_splitOn]
    by_cases hd : ys = []
    · left
      rw [hcs, hd]
      rfl
    · right
      rw [hcs, intercalate_append_nil a hd, List.getLast?_concat]
  · rintro (rfl | h)
    · rfl
    · obtain ⟨pre, rfl⟩ := List.getLast?_eq_some_iff.mp h
      rw [List.splitOn_append_cons_self pre [], List.splitOn_nil, List.getLast?_concat]

end Separator

/-! ## The lines of an input file -/

/-- The pieces of a text between line feeds. -/
theorem InputFile.lines_eq (f : InputFile) :
    f.lines =
      if f.content.toList = [] ∨ f.content.toList.getLast? = some '\n' then
        ((f.content.toList.splitOn '\n').dropLast).map String.ofList
      else (f.content.toList.splitOn '\n').map String.ofList := by
  have hlast : ((f.content.toList.splitOn '\n').map String.ofList).getLast? = some "" ↔
      (f.content.toList.splitOn '\n').getLast? = some [] := by
    rw [List.getLast?_map, Option.map_eq_some_iff]
    constructor
    · rintro ⟨l, hl, hempty⟩
      rwa [String.ofList_eq_empty_iff.mp hempty] at hl
    · intro h
      exact ⟨[], h, rfl⟩
  unfold InputFile.lines
  simp only [List.map_dropLast]
  by_cases h : f.content.toList = [] ∨ f.content.toList.getLast? = some '\n'
  · rw [if_pos (hlast.mpr ((getLast?_splitOn_eq_some_nil_iff _ _).mpr h)), if_pos h]
  · rw [if_neg (fun hp => h ((getLast?_splitOn_eq_some_nil_iff _ _).mp (hlast.mp hp))), if_neg h]

/-- The lines of a file joined with line feeds, and a line feed when the file ends with one,
    are the file. -/
theorem intercalate_lines (f : InputFile) :
    "\n".intercalate f.lines ++ (if f.content.toList.getLast? = some '\n' then "\n" else "") =
      f.content := by
  apply String.toList_injective
  rw [String.toList_append, String.toList_intercalate, InputFile.lines_eq]
  by_cases hend : f.content.toList.getLast? = some '\n'
  · -- the final line feed is written after the lines, not as an empty line
    obtain ⟨pre, hpre⟩ := List.getLast?_eq_some_iff.mp hend
    rw [if_pos (Or.inr hend), if_pos hend, hpre, List.splitOn_append_cons_self pre [],
      List.splitOn_nil, List.dropLast_concat, List.map_map]
    simp [List.intercalate_splitOn]
  · by_cases hnil : f.content.toList = []
    · rw [if_pos (Or.inl hnil), if_neg hend, hnil]
      rfl
    · rw [if_neg (by simp [hnil, hend]), if_neg hend, List.map_map]
      simp [List.intercalate_splitOn]

/-! ## Reading lines -/

namespace SystemValues

theorem getLine_of_lt {s : SystemValues} (h : s.nextLine < s.lines.length) :
    s.getLine = (Value.string s.lines[s.nextLine], { s with nextLine := s.nextLine + 1 }) := by
  simp [getLine, h]

theorem getLine_of_le {s : SystemValues} (h : s.lines.length ≤ s.nextLine) :
    s.getLine = (.char '\x00', s) := by
  simp [getLine, List.getElem?_eq_none h]

@[simp] theorem lines_ofInput (f : InputFile) : (ofInput (some f)).lines = f.lines := rfl

/-- After `k` reads from a fresh file, the next line to read is line `k`, or the end. -/
theorem iterate_getLine (f : InputFile) (k : Nat) :
    (fun s => s.getLine.2)^[k] (ofInput (some f)) =
      { ofInput (some f) with nextLine := min k f.lines.length } := by
  induction k with
  | zero => rfl
  | succ k ih =>
    rw [Function.iterate_succ_apply', ih]
    by_cases hk : k < f.lines.length
    · rw [getLine_of_lt (show min k f.lines.length < f.lines.length by omega)]
      simp only
      congr 1
      omega
    · rw [getLine_of_le (show f.lines.length ≤ min k f.lines.length by omega)]
      simp only
      congr 1
      omega

/-- The read after `k` reads from a fresh file gives line `k`, or the null character once
    the lines are used up. -/
theorem getLine_iterate (f : InputFile) (k : Nat) :
    ((fun s => s.getLine.2)^[k] (ofInput (some f))).getLine.1 =
      if h : k < f.lines.length then Value.string f.lines[k] else .char '\x00' := by
  rw [iterate_getLine]
  split
  · rename_i hk
    rw [getLine_of_lt (show min k f.lines.length < f.lines.length by omega)]
    simp [Nat.min_eq_left (Nat.le_of_lt hk)]
  · rename_i hk
    rw [getLine_of_le (show f.lines.length ≤ min k f.lines.length by omega)]

end SystemValues

@[simp] theorem Value.asString?_string (t : String) : (Value.string t).asString? = some t := by
  -- every character of the list reads back as itself
  have hc : (Value.char? ∘ Value.char) = (fun c => pure (id c) : Char → Option Char) := rfl
  rw [Value.string, Value.asString?, List.mapM_map, hc, List.mapM_pure, List.map_id]
  simp

/-! ## Runs -/

/-- What a result adds after the shown values: its value, an error flagged as one, or
    nothing. -/
def resultOutputs (format : Value → String) : Except EvalError (Option Value) → List Output
  | .ok (some v) => [{ text := format v }]
  | .ok none => []
  | .error e => [{ text := formatError e, error := true }]

/-- A run prints the values shown, in the order shown, and then what its result adds. -/
theorem run_eq (eval : Evaluator) (format : Value → String) (source : String)
    (input : Option InputFile) :
    run eval format source input =
      (eval source (SystemValues.ofInput input)).2.shown.map (fun v => { text := format v }) ++
        resultOutputs format (eval source (SystemValues.ofInput input)).1 := by
  unfold run
  rcases (eval source (SystemValues.ofInput input)) with ⟨r, sys⟩
  rcases r with e | (_ | v) <;> simp [resultOutputs]

/-- The lines of a file give the file back; reading from a fresh file serves its lines in
    order and then the null character, each line read back as its text; and a run prints the
    shown values, in the order shown, before what its result adds. -/
theorem inputLines_reads_run (f : InputFile) (eval : Evaluator) (format : Value → String)
    (source : String) (input : Option InputFile) :
    "\n".intercalate f.lines ++ (if f.content.toList.getLast? = some '\n' then "\n" else "") =
        f.content ∧
      (∀ k, ((fun s => s.getLine.2)^[k] (SystemValues.ofInput (some f))).getLine.1 =
        if h : k < f.lines.length then Value.string f.lines[k] else .char '\x00') ∧
      (∀ t, (Value.string t).asString? = some t) ∧
      run eval format source input =
        (eval source (SystemValues.ofInput input)).2.shown.map (fun v => { text := format v }) ++
          resultOutputs format (eval source (SystemValues.ofInput input)).1 :=
  ⟨intercalate_lines f, SystemValues.getLine_iterate f, Value.asString?_string,
    run_eq eval format source input⟩

end BqnEdit.Eval
