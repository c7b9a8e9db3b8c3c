import CodeRuns.RunTable
import CodeRuns.Event

/-! Numbers about a table: its runs without the sentinel, its size in bytes, how many runs
repeat the role before them, and how many have each role. Any two lists have them. -/

namespace CodeRuns.RunTable

def runRoles (t : RunTable) : List Role := t.roles.toList.dropLast

def bytes (t : RunTable) : Nat := 4 * t.starts.size + t.roles.size

def repeats : List Role → Nat
  | a :: b :: rest => (if a = b then 1 else 0) + repeats (b :: rest)
  | _ => 0

structure Stats where
  runs : Nat
  bytes : Nat
  repeated : Nat
  counts : List (Role × Nat)
  deriving DecidableEq

def rolesByName : List Role :=
  [.formatControl, .identifierPart, .identifierStart, .other, .whitespace]

theorem rolesByName_perm : rolesByName.Perm Role.all := by decide

def countOne : List (Role × Nat) → Role → List (Role × Nat)
  | [], r => [(r, 1)]
  | (s, n) :: rest, r => if s = r then (s, n + 1) :: rest else (s, n) :: countOne rest r

def byName (counts : List (Role × Nat)) : List (Role × Nat) :=
  rolesByName.filterMap fun r => (counts.lookup r).map fun n => (r, n)

/-- The roles that occur, with the number of their occurrences, in the order of their names. -/
def tally (roles : List Role) : List (Role × Nat) := byName (roles.foldl countOne [])

def stats (t : RunTable) : Stats where
  runs := t.runRoles.length
  bytes := t.bytes
  repeated := repeats t.runRoles
  counts := tally t.runRoles

def Stats.ranked (s : Stats) : List (Role × Nat) :=
  s.counts.mergeSort fun a b => decide (b.2 ≤ a.2)

def Stats.events (s : Stats) : List Event :=
  .tableSize s.runs s.bytes s.repeated :: s.ranked.map fun (role, runs) => .roleRuns role runs

end CodeRuns.RunTable
