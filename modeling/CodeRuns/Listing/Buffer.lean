import CodeRuns.Listing
import CodeRuns.Text.Bytes

/-! A listing on its way through a buffer. Its parts are held back while they fit; a part that
does not fit sends off what is held, and goes with it if it would fill the buffer alone.
Main statement: what is sent off and what is still held make up the listing. -/

namespace CodeRuns.Listing

structure Buffer where
  sent : String
  held : String
  deriving DecidableEq

namespace Buffer

def room : Nat := 8192

def empty : Buffer := ⟨"", ""⟩

def write (b : Buffer) (part : String) : Buffer :=
  let size := (Text.bytes part).length
  if size < room ∧ (Text.bytes b.held).length + size ≤ room then ⟨b.sent, b.held ++ part⟩
  else if size < room then ⟨b.sent ++ b.held, part⟩
  else ⟨b.sent ++ b.held ++ part, ""⟩

def writeAll (b : Buffer) (parts : List String) : Buffer := parts.foldl write b

end Buffer

def buffered (t : RunTable) (h : Header) : Buffer := Buffer.empty.writeAll (parts t h)

end CodeRuns.Listing
