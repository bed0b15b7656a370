import BqnEdit.Cli.Spec

/-!
# Usage lines, help pages and error messages

A usage line names the command and what it needs. The full usage line, used in help
and in most errors, shows `[OPTIONS]` when the command has options that are not
required, then the required options, then the positional arguments (optional ones in
brackets), then `<COMMAND>` or `[COMMAND]` when the command has subcommands. The
short usage line, used when an error is about particular arguments, shows the
required arguments and the arguments that were given: options first, in the order
they come, then positional arguments by position.

A help page is the description, the full usage line, and three sections: the
subcommands, the positional arguments and the options, each a column of names with
their descriptions aligned two spaces after the longest name. An option's description
ends with its default value and its possible values, in brackets.

An error message starts with `error: `, may add tips, the usage line, and always ends
by pointing at `--help`.

Main results:

* `render_ends`: every error message ends with the pointer to `--help`.
-/

namespace BqnEdit.Cli

/-- A string of spaces. -/
def spaces (n : Nat) : String := String.ofList (List.replicate n ' ')

/-- Remove trailing blanks. -/
def trimEnd (s : String) : String :=
  String.ofList (s.toList.reverse.dropWhile (fun c => c = ' ' || c = '\n')).reverse

/-- Add an item to a list unless it is there already. -/
def pushNew (xs : List String) (x : String) : List String := if xs.contains x then xs else xs ++ [x]

/-- Put a positional argument's text at its position, replacing what was there. -/
def putPositional (ps : List (Nat × String)) (i : Nat) (s : String) : List (Nat × String) :=
  if ps.any (·.1 == i) then ps.map fun p => if p.1 == i then (i, s) else p
  else ps ++ [(i, s)]

/-- Sort positional texts by position. -/
def sortByIndex (ps : List (Nat × String)) : List String :=
  let insert := fun (acc : List (Nat × String)) (p : Nat × String) =>
    let (lo, hi) := acc.span fun q => q.1 ≤ p.1
    lo ++ [p] ++ hi
  (ps.foldl insert []).map (·.2)

namespace Level

/-- The ids of the required arguments, in declaration order. -/
def requiredIds (l : Level) : List String := (l.args.filter (·.required)).map (·.id)

/-- The required arguments and the arguments `incls`, leaving out those in `present`:
    options first, each once, then positional arguments by position. -/
def requiredUsage (l : Level) (incls present : List String) : List String :=
  let ids := l.requiredIds ++ incls
  let step := fun (acc : List String × List (Nat × String)) (id : String) =>
    if present.contains id then acc
    else
      match l.findId id with
      | none => acc
      | some a =>
        if a.isPositional then (acc.1, putPositional acc.2 a.index (a.shownAs true))
        else (pushNew acc.1 (a.shownAs true), acc.2)
  let (opts, pos) := ids.foldl step ([], [])
  opts ++ sortByIndex pos

/-- Whether the full usage line shows `[OPTIONS]`: some option is neither help,
    version nor required. -/
def needsOptionsTag (l : Level) : Bool :=
  l.options.any fun a => a.role != .help && a.role != .version && !a.required

/-- The full usage line. -/
def fullUsage (l : Level) : String :=
  let opts := (l.options.filter (·.required)).map (·.shownAs true)
  let pos := sortByIndex (l.positionals.map fun a => (a.index, a.shownAs a.required))
  let sub := if l.subs.isEmpty then [] else [if l.spec.subRequired then "<COMMAND>" else "[COMMAND]"]
  " ".intercalate ([l.binName] ++ (if l.needsOptionsTag then ["[OPTIONS]"] else []) ++ opts ++ pos ++ sub)

/-- The short usage line for the arguments `used`. -/
def shortUsage (l : Level) (used : List String) : String :=
  " ".intercalate ([l.binName] ++ l.requiredUsage used [] ++
    (if l.spec.subRequired then ["<COMMAND>"] else []))

/-- The usage line errors show: the full one when no argument is named, else the
    short one. -/
def usageFor (l : Level) (used : List String) : String :=
  if used.isEmpty then l.fullUsage else l.shortUsage used

end Level

/-- The bracketed notes after an option's description: default and possible values. -/
def notes (a : ArgSpec) : String :=
  let dflt := match a.default with
    | some d => ["[default: " ++ d ++ "]"]
    | none => []
  let pvs := match a.possibleValues with
    | [] => []
    | vs => ["[possible values: " ++ ", ".intercalate vs ++ "]"]
  " ".intercalate (dflt ++ pvs)

/-- A description followed by its notes. -/
def describe (about notesText : String) : String :=
  if notesText.isEmpty then about
  else if about.isEmpty then notesText
  else about ++ " " ++ notesText

/-- The key options are listed by: declaration order, then the short name (lowercase
    before uppercase) or the long name. -/
def sortKey (a : ArgSpec) : Nat × String :=
  (a.order, match a.short with
    | some c => String.singleton c.toLower ++ (if c.isLower then "0" else "1")
    | none => a.long.getD "")

/-- Whether one key comes before another. -/
def keyLe (x y : Nat × String) : Bool := x.1 < y.1 || (x.1 == y.1 && decide (x.2 ≤ y.2))

/-- Sort options for help. -/
def sortOptions (as : List ArgSpec) : List ArgSpec :=
  let insert := fun (acc : List ArgSpec) (a : ArgSpec) =>
    let (lo, hi) := acc.span fun b => keyLe (sortKey b) (sortKey a)
    lo ++ [a] ++ hi
  as.foldl insert []

/-- The help line of an option, aligned for names up to `longest` wide. -/
def optionLine (longest : Nat) (a : ArgSpec) : String :=
  let shortPart := match a.short with
    | some c => "-" ++ String.singleton c ++ (if a.long.isSome then ", " else "")
    | none => if a.long.isSome then "    " else ""
  let longPart := match a.long with
    | some l => "--" ++ l
    | none => ""
  let valuePart := if a.role == .value then " " ++ a.placeholder true else ""
  let width := a.display.length
  "  " ++ shortPart ++ longPart ++ valuePart ++ spaces (longest + 2 - width) ++ describe a.about (notes a)

/-- The help line of a positional argument. -/
def positionalLine (longest : Nat) (a : ArgSpec) : String :=
  let name := a.display
  "  " ++ name ++ spaces (longest + 2 - name.length) ++ describe a.about (notes a)

/-- The help line of a subcommand. -/
def commandLine (longest : Nat) (c : CommandSpec) : String :=
  "  " ++ c.name ++ spaces (longest + 2 - c.name.length) ++ c.about

/-- The widest name, at least two. -/
def widest (names : List String) : Nat := names.foldl (fun m s => max m s.length) 2

namespace Level

/-- The help page of a command. -/
def helpPage (l : Level) : String :=
  let subs := l.subs
  let pos := l.positionals
  let opts := sortOptions l.options
  let block := fun (title : String) (lines : List String) =>
    if lines.isEmpty then [] else [title ++ ":\n" ++ "\n".intercalate lines]
  let subLines := subs.map (commandLine (widest (subs.map (·.name))))
  let posLines := pos.map (positionalLine (widest (pos.map (·.display))))
  let optLines := opts.map (optionLine (widest (opts.map (·.display))))
  let body := "\n\n".intercalate
    (block "Commands" subLines ++ block "Arguments" posLines ++ block "Options" optLines)
  let aboutPart := if l.spec.about.isEmpty then "" else l.spec.about ++ "\n\n"
  trimEnd (aboutPart ++ "Usage: " ++ l.fullUsage ++ "\n\n" ++ body) ++ "\n"

end Level

/-- A usage error: the message, the tips, and the usage line if one is shown. -/
structure UsageError where
  message : String
  tips : List String := []
  usage : Option String := none
  deriving DecidableEq, Repr, Inhabited

/-- The text of a usage error. -/
def UsageError.render (e : UsageError) : String :=
  let tips := if e.tips.isEmpty then "" else "\n" ++ String.join (e.tips.map ("\n  tip: " ++ ·))
  let usage := match e.usage with
    | some u => "\n\nUsage: " ++ u
    | none => ""
  "error: " ++ e.message ++ tips ++ usage ++ "\n\nFor more information, try '--help'.\n"

theorem render_ends (e : UsageError) :
    ∃ pre, e.render = pre ++ "\n\nFor more information, try '--help'.\n" :=
  ⟨_, rfl⟩

/-- The tip offering similar names. -/
def similarTip (what : String) : List String → List String
  | [] => []
  | [x] => ["a similar " ++ what ++ " exists: '" ++ x ++ "'"]
  | xs => ["some similar " ++ what ++ "s exist: " ++ ", ".intercalate (xs.map fun x => "'" ++ x ++ "'")]

/-- The list of possible values shown under a message. -/
def valuesList (title : String) : List String → String
  | [] => ""
  | vs => "\n  [" ++ title ++ ": " ++ ", ".intercalate vs ++ "]"

end BqnEdit.Cli
