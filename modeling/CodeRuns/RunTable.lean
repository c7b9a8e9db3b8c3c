import CodeRuns.CodePoint
import CodeRuns.Role

/-! Runs of code points that share a role, and tables of them. A table keeps the starts
and the roles as two lists, which need not have one length; its records pair them and
stop at the shorter. The last record, the sentinel, closes the run before it. -/

namespace CodeRuns

structure Run where
  start : CodePoint
  role : Role
  deriving DecidableEq

def Run.text (r : Run) : String := r.start.text ++ " " ++ r.role.name

structure RunTable where
  starts : Array CodePoint
  roles : Array Role
  deriving DecidableEq

namespace RunTable

def empty : RunTable := ⟨#[], #[]⟩

def size (t : RunTable) : Nat := t.starts.size

def isEmpty (t : RunTable) : Bool := t.starts.isEmpty

def records (t : RunTable) : List Run := List.zipWith Run.mk t.starts.toList t.roles.toList

def sentinel? (t : RunTable) : Option Run := t.records.getLast?

def push (t : RunTable) (r : Run) : RunTable := ⟨t.starts.push r.start, t.roles.push r.role⟩

def pop (t : RunTable) : RunTable := ⟨t.starts.pop, t.roles.pop⟩

def popStart (t : RunTable) : RunTable := { t with starts := t.starts.pop }

def setStart? (t : RunTable) (i : Nat) (c : CodePoint) : Option RunTable :=
  if h : i < t.starts.size then some { t with starts := t.starts.set i c h } else none

def setRole? (t : RunTable) (i : Nat) (r : Role) : Option RunTable :=
  if h : i < t.roles.size then some { t with roles := t.roles.set i r h } else none

def ofRecords (rs : List Run) : RunTable :=
  ⟨(rs.map Run.start).toArray, (rs.map Run.role).toArray⟩

theorem records_ofRecords (rs : List Run) : (ofRecords rs).records = rs := by
  simp only [records, ofRecords]
  induction rs with
  | nil => rfl
  | cons r rs ih => simp [ih]

theorem push_ofRecords (rs : List Run) (r : Run) :
    (ofRecords rs).push r = ofRecords (rs ++ [r]) := by simp [push, ofRecords]

end RunTable
end CodeRuns
