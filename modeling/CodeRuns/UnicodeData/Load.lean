import CodeRuns.Disk
import CodeRuns.UnicodeData

/-! The text of a database file, whole and as it stands: a byte order mark stays in it. -/

namespace CodeRuns.UnicodeData

structure LoadFault where
  path : String
  reason : Disk.Fault
  deriving DecidableEq

def LoadFault.message (f : LoadFault) : String :=
  s!"не удалось прочитать {f.path}: {f.reason.message}"

def load (path : String) (content : Except Disk.Fault String) : Except LoadFault String :=
  content.mapError fun reason => ⟨path, reason⟩

end CodeRuns.UnicodeData
