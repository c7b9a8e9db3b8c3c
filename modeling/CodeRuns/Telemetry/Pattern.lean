import CodeRuns.Telemetry.Pattern.Bracket
import CodeRuns.Text.Alphanumeric

/-! Patterns for the values of fields. A filter only has to know whether a pattern can be
built: whether it is well formed in the mode that holds at each place, nested no deeper
than a limit, and free of word edges between characters. There are no counted
repetitions, because a closing brace ends the field. -/

namespace CodeRuns.Telemetry.Pattern

inductive Fault where
  | malformed
  | wordEdge
  deriving DecidableEq

def Fault.message : Fault → String
  | malformed => "error building NFA"
  | wordEdge =>
    "unsupported regex feature for DFAs: cannot build DFAs for regexes with Unicode word boundaries; switch to ASCII word boundaries, or heuristically enable Unicode word boundaries or use a different regex engine"

def depthLimit : Nat := 250

structure Group where
  mode : Mode
  branches : List Nat
  pieces : List (Option Nat)

namespace Group

def opened (m : Mode) : Group := ⟨m, [], []⟩

def sequenceDepth : List (Option Nat) → Nat
  | [] => 0
  | [piece] => piece.getD 0
  | pieces => pieces.foldr (fun piece d => max (piece.getD 0) d) 0 + 1

def depth (g : Group) : Nat :=
  match g.branches with
  | [] => sequenceDepth g.pieces
  | branches => branches.foldr max (sequenceDepth g.pieces) + 1

def add (g : Group) (depth : Nat) : Group := { g with pieces := some depth :: g.pieces }

def branch (g : Group) : Group :=
  { g with branches := sequenceDepth g.pieces :: g.branches, pieces := [] }

def switch (g : Group) (signs : List Char) : Group :=
  { g with mode := g.mode.withOptions signs, pieces := none :: g.pieces }

def repeat? (g : Group) : Option Group :=
  match g.pieces with
  | some d :: pieces => some { g with pieces := some (d + 1) :: pieces }
  | _ => none

end Group

structure State where
  group : Group
  outer : List Group
  sets : List Bracket.Level
  names : List (List Char)
  wordEdge : Bool

namespace State

def start : State := ⟨.opened .usual, [], [], [], false⟩

def mode (s : State) : Mode := s.group.mode

def add (s : State) (depth : Nat) : State := { s with group := s.group.add depth }

def opened (s : State) (m : Mode) : State :=
  { s with group := .opened m, outer := s.group :: s.outer }

def closeGroup? (s : State) : Option State :=
  match s.outer with
  | [] => none
  | above :: outer => some { s with group := above.add (s.group.depth + 1), outer := outer }

def isNameStart (c : Char) : Bool := c == '_' || Text.Alphanumeric.isAlphabetic c

def isNamePart (c : Char) : Bool :=
  ['_', '.', '[', ']'].contains c || Text.Alphanumeric.isAlphanumeric c

def isName : List Char → Bool
  | [] => false
  | c :: cs => isNameStart c && cs.all isNamePart

def openNamed (s : State) (cs : List Char) : Option (State × List Char) :=
  let name := cs.takeWhile (· ≠ '>')
  match cs.dropWhile (· ≠ '>') with
  | [] => none
  | _ :: rest =>
    if isName name && !s.names.contains name then
      some ({ s with names := name :: s.names }.opened s.mode, rest)
    else none

def openOptions (s : State) (cs : List Char) : Option (State × List Char) :=
  let inOptions (c : Char) : Bool := c ≠ ':' && c ≠ ')'
  let signs := cs.takeWhile inOptions
  if !Mode.areOptions signs then none
  else match cs.dropWhile inOptions with
    | ':' :: rest => some (s.opened (s.mode.withOptions signs), rest)
    | ')' :: rest =>
      if signs.isEmpty then none else some ({ s with group := s.group.switch signs }, rest)
    | _ => none

def openGroup (s : State) (cs : List Char) : Option (State × List Char) :=
  match s.mode.skip cs with
  | '?' :: 'P' :: '<' :: rest => s.openNamed rest
  | '?' :: '<' :: rest => s.openNamed rest
  | '?' :: rest => s.openOptions rest
  | rest => some (s.opened s.mode, rest)

def repeatLast (s : State) (cs : List Char) : Option (State × List Char) :=
  match s.group.repeat? with
  | none => none
  | some group =>
    match cs with
    | '?' :: rest => some ({ s with group := group }, rest)
    | rest => some ({ s with group := group }, rest)

def addEscape (s : State) (cs : List Char) : Option (State × List Char) :=
  match Escape.read s.mode cs with
  | none => none
  | some (.character c asByte, rest) =>
    if s.mode.takesCharacter c asByte then some (s.add 0, rest) else none
  | some (.kind negated, rest) => if s.mode.takesKind negated then some (s.add 0, rest) else none
  | some (.textEdge, rest) => some (s.add 0, rest)
  | some (.wordEdge, rest) =>
    some ({ s with wordEdge := s.wordEdge || s.mode.unicode }.add 0, rest)

def stepOutside (s : State) (cs : List Char) : Option (State × List Char) :=
  match s.mode.skip cs with
  | [] => some (s, [])
  | '(' :: rest => s.openGroup rest
  | ')' :: rest => s.closeGroup?.map (·, rest)
  | '|' :: rest => some ({ s with group := s.group.branch }, rest)
  | '[' :: rest => (Bracket.enter s.mode rest).map fun (l, rest) => ({ s with sets := [l] }, rest)
  | '*' :: rest => s.repeatLast rest
  | '+' :: rest => s.repeatLast rest
  | '?' :: rest => s.repeatLast rest
  | '\x7b' :: _ => none
  | '\\' :: rest => s.addEscape rest
  | '.' :: rest => if s.mode.takesAny then some (s.add 0, rest) else none
  | '^' :: rest => some (s.add 0, rest)
  | '$' :: rest => some (s.add 0, rest)
  | c :: rest => if s.mode.takesCharacter c false then some (s.add 0, rest) else none

def step (s : State) (cs : List Char) : Option (State × List Char) :=
  match s.sets with
  | [] => s.stepOutside cs
  | l :: outer =>
    match Bracket.step s.mode l outer cs with
    | none => none
    | some (.inside levels, rest) => some ({ s with sets := levels }, rest)
    | some (.closed depth, rest) => some ({ s with sets := [] }.add depth, rest)

def run (s : State) (cs : List Char) : Option State :=
  match cs with
  | [] => some s
  | c :: cs =>
    match s.step (c :: cs) with
    | none => none
    -- every step takes characters away
    | some (next, rest) => if rest.length < (c :: cs).length then next.run rest else none
termination_by cs.length
decreasing_by assumption

def isWhole (s : State) : Bool :=
  s.sets.isEmpty && s.outer.isEmpty && decide (s.group.depth ≤ depthLimit)

end State

def fault? (cs : List Char) : Option Fault :=
  match State.start.run cs with
  | none => some .malformed
  | some s =>
    if !s.isWhole then some .malformed
    else if s.wordEdge then some .wordEdge
    else none

end CodeRuns.Telemetry.Pattern
