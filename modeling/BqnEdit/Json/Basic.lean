/-!
# JSON values

The values of the JSON format. Numbers keep the three kinds a reader tells apart:
non-negative integers, negative integers, and everything else as a double. Objects
keep their members in the order written.
-/

namespace BqnEdit

/-- A JSON number: a non-negative integer, a negative integer, or a double. -/
inductive JsonNumber where
  | nat (n : Nat)
  | neg (n : Int)
  | float (f : Float)
  deriving Inhabited

/-- A JSON value; object members in order. -/
inductive Json where
  | null
  | bool (b : Bool)
  | num (n : JsonNumber)
  | str (s : String)
  | arr (xs : List Json)
  | obj (kvs : List (String × Json))
  deriving Inhabited

end BqnEdit
