import Mathlib
import BqnEdit.Editor.Lines

/-!
# Lines of a text and where they start

`splitLines` is the library's `List.splitOn` at line feeds and `joinLines` its
`List.intercalate`, so lines that hold no line feed split back into themselves. A text is
the lines before line `i`, each followed by its line feed, then line `i`, then the lines
after it, each preceded by a line feed; the line index puts line `i` exactly there.

Main results:

* `splitLines_eq_splitOn`, `joinLines_eq_intercalate`: the two cuts are the library's.
* `splitLines_joinLines`: lines without line feeds split back into themselves.
* `joinLines_splice`: the text of lines around a block of them.
* `start_ofText`, `lineLen_ofText`: the line index reads off the lines.
* `lineOf_lt_size`, `lineOf_mono`: an offset falls on a line of the text, and a later
  offset never on an earlier line.
-/

namespace BqnEdit.Editor

/-! ## Cutting and joining -/

theorem splitLines_eq_splitOn (cs : List Char) : splitLines cs = cs.splitOn '\n' := by
  induction cs with
  | nil => rfl
  | cons c cs ih =>
    rw [List.splitOn_cons_eq_if_modifyHead, ← ih, splitLines]
    by_cases h : c = '\n'
    · simp [h]
    · have hne := splitLines_ne_nil cs
      cases hs : splitLines cs with
      | nil => exact absurd hs hne
      | cons l ls => simp [h]

theorem joinLines_eq_intercalate : (ls : List (List Char)) → joinLines ls = ['\n'].intercalate ls
  | [] => rfl
  | [l] => by simp [joinLines]
  | l :: l' :: ls => by simp [joinLines, joinLines_eq_intercalate (l' :: ls)]

theorem splitLines_joinLines {ls : List (List Char)} (h : ∀ l ∈ ls, '\n' ∉ l) (hne : ls ≠ []) :
    splitLines (joinLines ls) = ls := by
  rw [splitLines_eq_splitOn, joinLines_eq_intercalate]
  exact List.splitOn_intercalate '\n' h hne

theorem not_mem_of_mem_splitLines {l : List Char} : {cs : List Char} → l ∈ splitLines cs → '\n' ∉ l
  | [], h => by simp_all [splitLines]
  | c :: cs, h => by
    unfold splitLines at h
    by_cases hc : c = '\n'
    · simp only [hc, if_true, List.mem_cons] at h
      rcases h with rfl | h
      · simp
      · exact not_mem_of_mem_splitLines h
    · simp only [hc, if_false] at h
      cases hs : splitLines cs with
      | nil => exact absurd hs (splitLines_ne_nil cs)
      | cons l' ls =>
        have hrest : ∀ m ∈ l' :: ls, '\n' ∉ m := fun m hm =>
          not_mem_of_mem_splitLines (show m ∈ splitLines cs by rw [hs]; exact hm)
        rw [hs, List.mem_cons] at h
        rcases h with rfl | h
        · simp [Ne.symm hc, hrest l' List.mem_cons_self]
        · exact hrest l (List.mem_cons_of_mem _ h)

theorem joinLines_cons (l : List Char) (C : List (List Char)) :
    joinLines (l :: C) = l ++ C.flatMap ('\n' :: ·) := by
  induction C generalizing l with
  | nil => simp [joinLines]
  | cons l' C ih => simp [joinLines, ih]

theorem joinLines_append_left (A : List (List Char)) {M : List (List Char)} (hM : M ≠ []) :
    joinLines (A ++ M) = A.flatMap (· ++ ['\n']) ++ joinLines M := by
  induction A with
  | nil => rfl
  | cons l A ih =>
    rw [List.cons_append, joinLines_eq_intercalate, List.intercalate_cons_of_ne_nil (by simp [hM]),
      ← joinLines_eq_intercalate, ih]
    simp

theorem joinLines_append_right {B : List (List Char)} (hB : B ≠ []) (C : List (List Char)) :
    joinLines (B ++ C) = joinLines B ++ C.flatMap ('\n' :: ·) := by
  obtain ⟨b, B, rfl⟩ := List.exists_cons_of_ne_nil hB
  rw [List.cons_append, joinLines_cons, joinLines_cons, List.flatMap_append, List.append_assoc]

theorem joinLines_splice (A : List (List Char)) {B : List (List Char)} (hB : B ≠ [])
    (C : List (List Char)) :
    joinLines (A ++ B ++ C) = A.flatMap (· ++ ['\n']) ++ joinLines B ++ C.flatMap ('\n' :: ·) := by
  rw [List.append_assoc, joinLines_append_left A (by simp [hB]), joinLines_append_right hB,
    List.append_assoc]

/-! ## The line index -/

namespace LineIndex

theorem length_startsFrom (o : Nat) (ns : List Nat) : (startsFrom o ns).length = ns.length := by
  induction ns generalizing o with
  | nil => rfl
  | cons n ns ih => simp [startsFrom, ih]

/-- Line `i` starts after the lines before it, each with its line feed. -/
theorem getD_startsFrom (o : Nat) {ns : List Nat} {i : Nat} (hi : i < ns.length) :
    (startsFrom o ns).getD i 0 = o + ((ns.take i).map (· + 1)).sum := by
  induction ns generalizing o i with
  | nil => simp at hi
  | cons n ns ih =>
    cases i with
    | zero => simp [startsFrom]
    | succ i =>
      rw [startsFrom, List.getD_cons_succ, ih _ (by simpa using hi)]
      simp only [List.take_succ_cons, List.map_cons, List.sum_cons]
      omega

theorem size_ofText (t : String) : (ofText t).size = (splitLines t.toList).length := by
  simp [ofText, size, length_startsFrom]

theorem size_ofText_pos (t : String) : 0 < (ofText t).size := by
  rw [size_ofText, List.length_pos_iff]
  exact splitLines_ne_nil _

theorem start_ofText (t : String) {i : Nat} (hi : i < (splitLines t.toList).length) :
    (ofText t).start i = (((splitLines t.toList).take i).flatMap (· ++ ['\n'])).length := by
  rw [start, ofText, getD_startsFrom 0 (by simpa using hi)]
  simp [List.map_take, Function.comp_def]

theorem lineLen_ofText (t : String) (i : Nat) :
    (ofText t).lineLen i = ((splitLines t.toList).getD i []).length := by
  simp only [lineLen, ofText, List.getD_eq_getElem?_getD, List.getElem?_map]
  cases (splitLines t.toList)[i]? <;> rfl

theorem lineOf_lt_size (ix : LineIndex) (h : 0 < ix.size) (o : Nat) : ix.lineOf o < ix.size := by
  unfold lineOf
  cases hf : (List.range ix.size).find? (fun l => decide (o ≤ ix.stop l)) with
  | none => simp; omega
  | some l =>
    rw [List.find?_range_eq_some] at hf
    simpa using hf.2.1

/-- An offset falls at latest on any line that ends at or after it. -/
theorem lineOf_le {ix : LineIndex} {o l : Nat} (hl : l < ix.size) (ho : o ≤ ix.stop l) :
    ix.lineOf o ≤ l := by
  unfold lineOf
  cases hf : (List.range ix.size).find? (fun l => decide (o ≤ ix.stop l)) with
  | none =>
    rw [List.find?_range_eq_none] at hf
    simpa [ho] using hf l hl
  | some l₀ =>
    rw [List.find?_range_eq_some] at hf
    simp only [Option.getD_some]
    refine Nat.le_of_not_lt fun hlt => ?_
    simpa [ho] using hf.2.2 l hlt

theorem lineOf_eq_last_or_le_stop (ix : LineIndex) (o : Nat) :
    ix.lineOf o = ix.size - 1 ∨ o ≤ ix.stop (ix.lineOf o) := by
  unfold lineOf
  cases hf : (List.range ix.size).find? (fun l => decide (o ≤ ix.stop l)) with
  | none => exact .inl rfl
  | some l =>
    rw [List.find?_range_eq_some] at hf
    exact .inr (by simpa using hf.1)

theorem lineOf_mono (ix : LineIndex) (h : 0 < ix.size) {o o' : Nat} (ho : o ≤ o') :
    ix.lineOf o ≤ ix.lineOf o' := by
  have hlt := lineOf_lt_size ix h o'
  rcases lineOf_eq_last_or_le_stop ix o' with hlast | hstop
  · have := lineOf_lt_size ix h o
    omega
  · exact lineOf_le hlt (by omega)

end LineIndex

end BqnEdit.Editor
