/-!
# Similar names

When a name on the command line is not known, the closest known names are offered
instead. Closeness is the Jaro similarity of the two names, computed on characters in
double precision: with `m` matching characters (equal characters no further apart
than half the longer length, less one) and `t` half-transpositions among them, it is
`(m / |a| + m / |b| + (m - t) / m) / 3`, and zero without matches. A name is offered
when its similarity is above 0.7; the offers are ordered from the least to the most
similar, names that score the same keeping the order they came in.

Main results:

* `matchFlags_length`: matching marks each character of the first name once.
-/

namespace BqnEdit.Cli

/-- Match the characters of `a` against `b` within `window`: for each character of
    `a`, in order, the first unused equal character of `b` close enough to it. Gives
    which characters of `a` and which of `b` are matched. -/
def matchFlags (a b : List Char) (window : Nat) : List Bool × List Bool :=
  let step := fun (acc : List Bool × List Bool × Nat) (c : Char) =>
    let (fa, fb, i) := acc
    let lo := i - window
    let hi := min b.length (i + window + 1)
    let found := (List.range hi).find? fun j => lo ≤ j && b[j]? == some c && fb[j]? == some false
    match found with
    | some j => (fa ++ [true], fb.set j true, i + 1)
    | none => (fa ++ [false], fb, i + 1)
  let (fa, fb, _) := a.foldl step ([], b.map fun _ => false, 0)
  (fa, fb)

theorem matchFlags_length (a b : List Char) (window : Nat) : (matchFlags a b window).1.length = a.length := by
  unfold matchFlags
  suffices h : ∀ (xs : List Char) (acc : List Bool × List Bool × Nat),
      (xs.foldl (fun (acc : List Bool × List Bool × Nat) (c : Char) =>
        let (fa, fb, i) := acc
        let lo := i - window
        let hi := min b.length (i + window + 1)
        let found := (List.range hi).find? fun j => lo ≤ j && b[j]? == some c && fb[j]? == some false
        match found with
        | some j => (fa ++ [true], fb.set j true, i + 1)
        | none => (fa ++ [false], fb, i + 1)) acc).1.length = acc.1.length + xs.length by
    simpa using h a ([], b.map fun _ => false, 0)
  intro xs
  induction xs with
  | nil => simp
  | cons x xs ih =>
    intro acc
    simp only [List.foldl_cons]
    rw [ih]
    obtain ⟨fa, fb, i⟩ := acc
    simp only
    split <;> simp <;> omega

/-- The matched characters of a list, in order. -/
def matched (flags : List Bool) (cs : List Char) : List Char :=
  (flags.zip cs).filterMap fun (f, c) => if f then some c else none

/-- The Jaro similarity of two names. -/
def jaro (a b : String) : Float :=
  let ca := a.toList
  let cb := b.toList
  if ca.isEmpty && cb.isEmpty then 1
  else if ca.isEmpty || cb.isEmpty then 0
  else
    let window := max ca.length cb.length / 2 - 1
    let (fa, fb) := matchFlags ca cb window
    let ma := matched fa ca
    let mb := matched fb cb
    let m := ma.length
    if m = 0 then 0
    else
      let t := ((ma.zip mb).filter fun (x, y) => x != y).length / 2
      let mf := m.toFloat
      (mf / ca.length.toFloat + mf / cb.length.toFloat + (m - t).toFloat / mf) / 3

/-- Insert into a list kept in ascending order of score, after the equal scores. -/
def insertByScore (x : Float × String) : List (Float × String) → List (Float × String)
  | [] => [x]
  | y :: ys => if x.1 < y.1 then x :: y :: ys else y :: insertByScore x ys

/-- The known names similar to `v`, from the least to the most similar. -/
def similarNames (v : String) (known : List String) : List String :=
  let scored := known.filterMap fun k =>
    let s := jaro v k
    if s > 0.7 then some (s, k) else none
  (scored.foldl (fun acc x => insertByScore x acc) []).map (·.2)

/-- The most similar known name, if any is similar enough. -/
def mostSimilar (v : String) (known : List String) : Option String :=
  (similarNames v known).getLast?

end BqnEdit.Cli
