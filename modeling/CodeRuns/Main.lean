import CodeRuns.Command.Arguments

/-! The command in a terminal: files, environment and streams of the system it runs in. -/

namespace CodeRuns.Command

def faultOf : IO.Error → Disk.Fault
  | .noFileOrDirectory .. => .notFound
  | .inappropriateType .. => .isDirectory
  | .resourceExhausted _ 28 _ => .noSpace
  | e => .system e.toString

def answer {A : Type} (access : IO A) : IO (Except Disk.Fault A) := do
  return (← access.toBaseIO).mapError faultOf

def terminal : System IO IO.FS.Handle where
  readText path := do
    return (← answer (IO.FS.readBinFile path)).bind fun content =>
      Disk.decoded content.data.toList
  create path := answer (IO.FS.Handle.mk path .write)
  send handle text := answer (handle.putStr text *> handle.flush)
  printOut lines := lines.forM IO.println
  printError lines := lines.forM IO.eprintln

end CodeRuns.Command

open CodeRuns CodeRuns.Command in
def main (args : List String) : IO UInt32 := do
  let environment := (← IO.getEnv "RUST_LOG").map Text.bytes
  return UInt32.ofNat (← terminal.run readers environment args)
