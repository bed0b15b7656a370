import BqnEdit.Cli.Help
import BqnEdit.Cli.Similar
import BqnEdit.Text.Unsigned
import BqnEdit.Settings.Basic

/-!
# Reading the command line

The words of the command line are read from left to right against the grammar. A word
that names a subcommand hands the rest of the line to that subcommand (`help` prints
the help of the commands named after it instead), unless an option waits for its
value: then the word is that value. A word `--` makes every later word
positional. A word starting with `--` is a long option, with its value after `=` or in
the next word; a word starting with one `-` is a run of short options. Any other word
is the value the last option waits for, or the next positional argument.

A value is checked when the next word is read, a subcommand begins, or the line ends,
so the first problem from the left is the one reported. When the line is read, missing values,
missing subcommands and missing required arguments are reported. An option given
twice is an error, and a switch takes no value.

Reading ends early with a page to print: help or the version on standard output, or
an error on standard error, which makes the program fail with status 2. With no words
at all, the help page goes to standard error.
-/

namespace BqnEdit.Cli

open BqnEdit.Settings

/-- Why reading the command line stopped. -/
inductive Stop where
  /-- A page for standard output: help or the version. -/
  | page (text : String)
  /-- A page for standard error, and status 2. -/
  | failure (text : String)
  deriving DecidableEq, Repr, Inhabited

/-- What was read for one command: its path, the values given, the defaults of the
    arguments not given, and the subcommand. -/
inductive Matches where
  | mk (path : List String) (given : List (String × List String)) (defaults : List (String × String))
      (sub : Option Matches)
  deriving Inhabited

/-- What the reader waits for. -/
inductive Expect where
  /-- Anything. -/
  | ready
  /-- The value of the option with this id. -/
  | value (id : String)
  deriving DecidableEq, Repr, Inhabited

/-- The reader's state within one command. -/
structure Scan where
  /-- The arguments given so far, with their values, in the order they were taken. -/
  given : List (String × List String) := []
  /-- The argument whose values are not yet checked. -/
  pending : Option (String × List String) := none
  expect : Expect := .ready
  /-- The position the next positional value takes. -/
  position : Nat := 1
  /-- Whether `--` was read. -/
  escaped : Bool := false
  deriving Inhabited

/-- Stop with an error. -/
def fail (e : UsageError) : Except Stop α := .error (.failure e.render)

namespace Level

/-- The error for an option with an empty value. -/
def emptyValue (a : ArgSpec) : UsageError :=
  { message := "a value is required for '" ++ a.display ++ "' but none was supplied" ++
      valuesList "possible values" a.possibleValues }

/-- Check one value of an argument. -/
def checkValue (a : ArgSpec) (v : String) : Except UsageError Unit :=
  let invalid := "invalid value '" ++ v ++ "' for '" ++ a.display ++ "'"
  match a.kind with
  | .text => .ok ()
  | .path => if v.isEmpty then .error (emptyValue a) else .ok ()
  | .count =>
    match Text.parseUnsigned (Nat.pow 2 64) v with
    | .ok _ => .ok ()
    | .error f => .error { message := invalid ++ ": " ++ f.message }
  | .choice names =>
    if names.contains v then .ok ()
    else if v.isEmpty then .error (emptyValue a)
    else .error { message := invalid ++ valuesList "possible values" names,
                  tips := similarTip "value" (mostSimilar v names).toList }
  | .setting =>
    match SettingKey.parse v with
    | .ok _ => .ok ()
    | .error m => .error { message := invalid ++ ": " ++ m }

/-- The ids given, in order. -/
def givenIds (st : Scan) : List String := st.given.map (·.1)

/-- Take an argument with its values: it must have values if it takes any, must not be
    given twice, and its values must be valid. -/
def take (l : Level) (st : Scan) (a : ArgSpec) (vals : List String) : Except Stop Scan := do
  if a.takesValue && vals.isEmpty then fail (emptyValue a)
  else if (givenIds st).contains a.id then
    fail { message := "the argument '" ++ a.display ++ "' cannot be used multiple times",
           usage := some l.fullUsage }
  else
    for v in vals do
      match checkValue a v with
      | .ok () => pure ()
      | .error e => fail e
    pure { st with given := st.given ++ [(a.id, if a.takesValue then vals else ["true"])] }

/-- Check the pending argument, if any. -/
def resolve (l : Level) (st : Scan) : Except Stop Scan :=
  match st.pending with
  | none => .ok st
  | some (id, vals) =>
    match l.findId id with
    | none => .ok { st with pending := none }
    | some a => l.take { st with pending := none } a vals

/-- Settle the pending argument, ignoring its problems, before reporting another error:
    it counts as given all the same. -/
def dropPending (l : Level) (st : Scan) : Scan :=
  match l.resolve st with
  | .ok st => st
  | .error _ =>
    match st.pending with
    | some (id, vals) =>
      if (givenIds st).contains id then { st with pending := none }
      else { st with pending := none, given := st.given ++ [(id, vals)] }
    | none => st

/-- The error for a word that fits nowhere. -/
def unplaced (l : Level) (st : Scan) (w : String) : UsageError :=
  let unexpected := "unexpected argument '" ++ w ++ "' found"
  if st.escaped && (l.findSub w).isSome then
    { message := unexpected,
      tips := ["subcommand '" ++ w ++ "' exists; to use it, remove the '--' before it"],
      usage := some l.fullUsage }
  else if !l.subs.isEmpty then
    let candidates := similarNames w (l.subs.map (·.name))
    if !candidates.isEmpty then
      { message := "unrecognized subcommand '" ++ w ++ "'", tips := similarTip "subcommand" candidates,
        usage := some l.fullUsage }
    else if l.positionals.isEmpty then
      { message := "unrecognized subcommand '" ++ w ++ "'", usage := some l.fullUsage }
    else { message := unexpected, usage := some l.fullUsage }
  else { message := unexpected, usage := some l.fullUsage }

/-- The tip for a word that looks like an option but could be meant as a value. -/
def asValueTip (l : Level) (st : Scan) (w : String) : List String :=
  if !st.escaped && !l.positionals.isEmpty then
    ["to pass '" ++ w ++ "' as a value, use '-- " ++ w ++ "'"]
  else []

/-- The error for an unknown long option `--name`; `rest` are the words after it. -/
def unknownLong (l : Level) (st : Scan) (name : String) (rest : List String) : UsageError :=
  let longs := l.args.filterMap (·.long)
  let nearby : Option (String × Option String) :=
    match mostSimilar name longs with
    | some c => some (c, none)
    | none =>
      let scored := l.subs.filterMap fun sc =>
        let subLongs := (l.enter sc).args.filterMap (·.long)
        match mostSimilar name subLongs, rest.idxOf? sc.name with
        | some c, some i => some (i, c, sc.name)
        | _, _ => none
      let best := scored.foldl (fun (b : Option (Nat × String × String)) x =>
        match b with
        | none => some x
        | some y => if x.1 < y.1 then some x else some y) none
      best.map fun (_, c, s) => (c, some s)
  let arg := "--" ++ name
  let used := match nearby with
    | some (c, none) =>
      match l.findLong c with
      | some a => pushNew (givenIds st) a.id
      | none => givenIds st
    | _ => givenIds st
  let tips := match nearby with
    | some (c, none) => similarTip "argument" ["--" ++ c]
    | some (c, some s) => ["'" ++ s ++ " --" ++ c ++ "' exists"]
    | none => l.asValueTip st arg
  { message := "unexpected argument '" ++ arg ++ "' found", tips, usage := some (l.usageFor used) }

/-- The error for an unknown short option `-c`. -/
def unknownShort (l : Level) (st : Scan) (c : Char) : UsageError :=
  let arg := "-" ++ String.singleton c
  { message := "unexpected argument '" ++ arg ++ "' found", tips := l.asValueTip st arg,
    usage := some l.fullUsage }

/-- The page printed by the version option. -/
def versionPage (l : Level) : String := l.spec.version.getD "" ++ "\n"

/-- Take an argument that takes no value: a switch, help or the version. -/
def takeFlag (l : Level) (st : Scan) (a : ArgSpec) : Except Stop Scan := do
  let st ← l.resolve st
  match a.role with
  | .help => .error (.page l.helpPage)
  | .version => .error (.page l.versionPage)
  | _ => l.take st a []

/-- Read a run of short options, the characters after `-`. -/
def readShorts (l : Level) (st : Scan) : List Char → Except Stop Scan
  | [] => .ok st
  | c :: cs =>
    match l.findShort c with
    | none => fail (l.unknownShort (l.dropPending st) c)
    | some a =>
      if a.takesValue then
        let attached := match cs with
          | '=' :: v => some (String.ofList v)
          | [] => none
          | v => some (String.ofList v)
        match attached with
        | some v => do
          let st ← l.resolve st
          let st ← l.take st a [v]
          pure { st with expect := .ready }
        | none => do
          let st ← l.resolve st
          pure { st with pending := some (a.id, []), expect := .value a.id }
      else do
        let st ← l.takeFlag st a
        readShorts l { st with expect := .ready } cs

/-- Read a long option word, `--name` or `--name=value`; `rest` are the words after it. -/
def readLong (l : Level) (st : Scan) (word : String) (rest : List String) : Except Stop Scan :=
  let body := (word.drop 2).toString
  let (name, attached) := match body.splitOn "=" with
    | [n] => (n, none)
    | n :: vs => (n, some ("=".intercalate vs))
    | [] => (body, none)
  match l.findLong name with
  | none => fail (l.unknownLong (l.dropPending st) name rest)
  | some a =>
    if a.takesValue then
      match attached with
      | some v => do
        let st ← l.resolve st
        let st ← l.take st a [v]
        pure { st with expect := .ready }
      | none => do
        let st ← l.resolve st
        pure { st with pending := some (a.id, []), expect := .value a.id }
    else
      match attached with
      | some v =>
        let required := l.requiredIds
        let used := (givenIds st).filter (!required.contains ·) ++ [a.id]
        fail { message := "unexpected value '" ++ v ++ "' for '" ++ a.display ++
                 "' found; no more were expected",
               usage := some (l.shortUsage used) }
      | none => do
        let st ← l.takeFlag st a
        pure { st with expect := .ready }

/-- Read a positional value. -/
def readPositional (l : Level) (st : Scan) (w : String) : Except Stop Scan :=
  match l.positionalAt st.position with
  | none => fail (l.unplaced (l.dropPending st) w)
  | some a => do
    let st ← l.resolve st
    pure { st with pending := some (a.id, [w]), position := st.position + 1, expect := .ready }

/-- Read one word that is not a subcommand. -/
def readWord (l : Level) (st : Scan) (w : String) (rest : List String) : Except Stop Scan :=
  if st.escaped then l.readPositional st w
  else if w = "--" then .ok { st with escaped := true }
  else if w.startsWith "--" then l.readLong st w rest
  else if w.startsWith "-" && w != "-" then l.readShorts st (w.drop 1).toString.toList
  else
    match st.expect, st.pending with
    | .value id, some (pid, vals) =>
      if id == pid then .ok { st with pending := some (pid, vals ++ [w]), expect := .ready }
      else l.readPositional st w
    | _, _ => l.readPositional st w

/-- The page `help` prints for the commands named after it. -/
def helpFor (l : Level) : List String → Stop
  | [] => .page l.helpPage
  | n :: ns =>
    match l.findSub n with
    | some sc => helpFor (l.enter sc) ns
    | none => .failure { message := "unrecognized subcommand '" ++ n ++ "'", usage := some l.fullUsage :
        UsageError }.render

/-- Finish a command: check the pending value, fill in defaults, and report what is
    missing. -/
def finish (l : Level) (st : Scan) (sub : Option Matches) : Except Stop Matches := do
  let st ← l.resolve st
  let defaults := l.args.filterMap fun a =>
    match a.default with
    | some d => if (givenIds st).contains a.id then none else some (a.id, d)
    | none => none
  if sub.isNone && l.spec.subRequired then
    if st.given.isEmpty then .error (.failure l.helpPage)
    else
      fail { message := "'" ++ l.binName ++ "' requires a subcommand but one was not provided" ++
               valuesList "subcommands" (l.subs.map (·.name)),
             usage := some l.fullUsage }
  else
    let missing := l.requiredIds.filter fun id => !(givenIds st).contains id
    if missing.isEmpty then pure (.mk l.path st.given defaults sub)
    else
      let listed := l.requiredUsage missing (givenIds st)
      fail { message := "the following required arguments were not provided:" ++
               String.join (listed.map ("\n  " ++ ·)),
             usage := some (l.shortUsage (givenIds st ++ missing)) }

end Level

/-- Read the words of one command and of the subcommand they name. -/
def parseLevel (l : Level) (st : Scan) : List String → Except Stop Matches
  | [] => l.finish st none
  | w :: rest =>
    -- an option waiting for its value takes the word, even one naming a subcommand
    let waiting := match st.expect with
      | .value _ => true
      | .ready => false
    match (if st.escaped || waiting then none else l.findSub w) with
    | some sc =>
      if sc.name == "help" then .error (l.helpFor rest)
      else do
        let st ← l.resolve st
        let sub ← parseLevel (l.enter sc) {} rest
        l.finish st (some sub)
    | none => do
      let st ← l.readWord st w rest
      parseLevel l st rest

/-- Read a whole command line, the program name left out. -/
def parseArgs (args : List String) : Except Stop Matches := parseLevel root {} args

end BqnEdit.Cli
