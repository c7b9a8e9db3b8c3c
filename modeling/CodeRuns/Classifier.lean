import CodeRuns.RunTable.Search

/-! A classifier is a well-formed table used for look-ups. It covers the code points
from its first start to the sentinel; a covered code point has the role of the last
record that starts at it or before it, so a gap inherits the role of what precedes it. -/

namespace CodeRuns

structure Classifier where
  table : RunTable
  sound : table.WellFormed

def RunTable.classifier (t : RunTable) : Except RunTable.Fault Classifier :=
  match h : t.fault? with
  | none => .ok ⟨t, (t.fault?_eq_none_iff).1 h⟩
  | some fault => .error fault

namespace Classifier

def size (k : Classifier) : Nat := k.table.size

def records (k : Classifier) : List Run := k.table.records

def firstCode (k : Classifier) : CodePoint :=
  have := k.sound.two_le
  k.table.starts[0]

def lastCode (k : Classifier) : CodePoint :=
  have := k.sound.two_le
  k.table.starts[k.table.starts.size - 1]

def get? (k : Classifier) (code : CodePoint) : Option Role :=
  if code < k.firstCode ∨ k.lastCode < code then none
  else k.table.roles[RunTable.countUpTo k.table.starts code - 1]?

def lookup (k : Classifier) (code : CodePoint) : Role := (k.get? code).getD .other

end Classifier

namespace RunTable

theorem classifier_eq_ok_iff (t : RunTable) (k : Classifier) :
    t.classifier = .ok k ↔ k.table = t := by
  unfold classifier
  split
  · constructor
    · rintro ⟨⟩
      rfl
    · rintro rfl
      rfl
  · rename_i fault h
    constructor
    · intro bad
      cases bad
    · rintro rfl
      rw [(k.table.fault?_eq_none_iff).2 k.sound] at h
      cases h

theorem classifier_eq_error_iff (t : RunTable) (fault : Fault) :
    t.classifier = .error fault ↔ t.fault? = some fault := by
  unfold classifier
  split <;> simp_all

end RunTable
end CodeRuns
