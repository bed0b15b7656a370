import BqnEdit.Json.Read

/-!
# Reading records

A record is read from an object, member by member in any order, or from an array of
its fields in declaration order. Fields that may be left out keep a default. A field
that must be given and is missing is an error: `missing field` for an object, and
`invalid length` (the number of elements read) for an array. Unknown members are
skipped, and a member given twice is an error.
-/

namespace BqnEdit.Json

open Reader

/-- A field of a record read into a state `σ`. -/
structure FieldSpec (σ : Type) where
  name : String
  read : σ → Reader σ
  required : Bool := false

/-- Read the members of an object, returning the state and the names seen. -/
def readMembersSeen (fields : List (FieldSpec σ)) :
    Nat → Bool → List String → σ → Reader (σ × List String)
  | 0, _, _, _ => failHere "recursion limit exceeded"
  | fuel + 1, first, seen, acc => do
    match ← nextKey first with
    | none => pure (acc, seen)
    | some k =>
      match fields.find? (·.name == k) with
      | some f =>
        if k ∈ seen then failUnplaced ("duplicate field `" ++ k ++ "`")
        else do
          readColon
          let acc ← f.read acc
          readMembersSeen fields fuel false (k :: seen) acc
      | none => do
        readColon
        skipAny
        readMembersSeen fields fuel false seen acc

/-- Read the elements of an array as the fields in order; after the first missing
    element every later field is missing too. -/
def readElementsInOrder (record : String) (count : Nat) :
    List (FieldSpec σ) → Nat → Bool → σ → Reader σ
  | [], _, _, acc => pure acc
  | f :: fs, i, ended, acc => do
    let next ← if ended then pure none else nextElement (i == 0) (f.read acc)
    match next with
    | some acc => readElementsInOrder record count fs (i + 1) false acc
    | none =>
      if f.required then
        failUnplaced ("invalid length " ++ toString i ++ ", expected struct " ++ record ++
          " with " ++ toString count ++ " elements")
      else readElementsInOrder record count fs (i + 1) true acc

/-- Read a record named `record` with the given fields, starting from `init`. -/
def readRecordOf (record : String) (fields : List (FieldSpec σ)) (init : σ) : Reader σ :=
  readRecord record
    (do
      let (acc, seen) ← readMembersSeen fields ((← remaining) + 1) true [] init
      match fields.find? (fun f => f.required && !(f.name ∈ seen)) with
      | some f => failUnplaced ("missing field `" ++ f.name ++ "`")
      | none => pure acc)
    (readElementsInOrder record fields.length fields 0 false init)

end BqnEdit.Json
