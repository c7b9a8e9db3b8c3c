import CodeRuns.Telemetry.Pattern.Escape

/-! Sets of characters in square brackets: single characters, ranges, kinds, named classes
and brackets in brackets, joined by operators between two unions of these. What is kept
of a set is how deep it is nested. -/

namespace CodeRuns.Telemetry.Pattern.Bracket

structure Level where
  left : Option Nat
  members : List Nat
  deriving DecidableEq

namespace Level

def unionDepth : List Nat → Nat
  | [] => 0
  | [d] => d
  | ds => ds.foldr max 0 + 1

def depth (l : Level) : Nat :=
  match l.left with
  | none => unionDepth l.members
  | some d => max d (unionDepth l.members) + 1

def add (l : Level) (depth : Nat) : Level := { l with members := depth :: l.members }

def operate (l : Level) : Level := ⟨some l.depth, []⟩

def ofCount (n : Nat) : Level := ⟨none, List.replicate n 0⟩

end Level

def leadingHyphens (m : Mode) (cs : List Char) : Nat × List Char :=
  match cs with
  | '-' :: rest =>
    let (n, after) := leadingHyphens m (m.skip rest)
    (n + 1, after)
  | _ => (0, cs)
termination_by cs.length
decreasing_by exact Nat.lt_succ_of_le (m.skip_length_le rest)

def firstMembers (m : Mode) (cs : List Char) : Option (Level × List Char) :=
  let (n, after) := leadingHyphens m cs
  if n = 0 then
    match after with
    | ']' :: rest => if m.takesMember ']' then some (.ofCount 1, m.skip rest) else none
    | _ => some (.ofCount 0, after)
  else if m.takesMember '-' then some (.ofCount n, after)
  else none

def enter (m : Mode) (cs : List Char) : Option (Level × List Char) :=
  match m.skip cs with
  | '^' :: rest => if m.takesComplement then firstMembers m (m.skip rest) else none
  | rest => firstMembers m rest

def classNames : List String :=
  ["alnum", "alpha", "ascii", "blank", "cntrl", "digit", "graph", "lower", "print", "punct",
    "space", "upper", "word", "xdigit"]

def named? (cs : List Char) : Option (Bool × List Char) :=
  match cs with
  | ':' :: rest =>
    let (negated, rest) := match rest with
      | '^' :: rest => (true, rest)
      | _ => (false, rest)
    match rest.dropWhile (· ≠ ':') with
    | ':' :: ']' :: after =>
      if classNames.contains (String.ofList (rest.takeWhile (· ≠ ':'))) then some (negated, after)
      else none
    | _ => none
  | _ => none

def readMember (m : Mode) (cs : List Char) : Option (Option Char × List Char) :=
  match cs with
  | [] => none
  | '\\' :: rest =>
    match Escape.read m rest with
    | some (.character c _, rest) => if m.takesMember c then some (some c, rest) else none
    | some (.kind negated, rest) => if m.takesKind negated then some (none, rest) else none
    | _ => none
  | c :: rest => if m.takesMember c then some (some c, rest) else none

def deciding? (m : Mode) (cs : List Char) : Option Char :=
  if m.spaced then
    match cs.dropWhile Text.Blank.isBlank with
    | '#' :: rest => (rest.dropWhile Text.Blank.isBlank).head?
    | rest => rest.head?
  else cs.head?

def makesRange (m : Mode) (afterHyphen : List Char) : Bool :=
  deciding? m afterHyphen != some ']' && deciding? m afterHyphen != some '-'

def readRange (m : Mode) (cs : List Char) : Option (List Char) :=
  match readMember m cs with
  | none => none
  | some (first, rest) =>
    match m.skip rest with
    | [] => none
    | '-' :: after =>
      if makesRange m after then
        match first, readMember m (m.skip after) with
        | some low, some (some high, rest) => if low ≤ high then some rest else none
        | _, _ => none
      else some ('-' :: after)
    | rest => some rest

inductive Progress where
  | inside (levels : List Level)
  | closed (depth : Nat)

def close (l : Level) (outer : List Level) : Progress :=
  match outer with
  | [] => .closed (l.depth + 1)
  | above :: outer => .inside (above.add (l.depth + 1) :: outer)

def step (m : Mode) (l : Level) (outer : List Level) (cs : List Char) :
    Option (Progress × List Char) :=
  match m.skip cs with
  | [] => none
  | ']' :: rest => some (close l outer, rest)
  | '[' :: rest =>
    match named? rest with
    | some (negated, rest) =>
      if m.takesNamed negated then some (.inside (l.add 0 :: outer), rest) else none
    | none => (enter m rest).map fun (inner, rest) => (.inside (inner :: l :: outer), rest)
  | '&' :: '&' :: rest => some (.inside (l.operate :: outer), rest)
  | '-' :: '-' :: rest => some (.inside (l.operate :: outer), rest)
  | '~' :: '~' :: rest => some (.inside (l.operate :: outer), rest)
  | rest => (readRange m rest).map fun rest => (.inside (l.add 0 :: outer), rest)

end CodeRuns.Telemetry.Pattern.Bracket
