import CodeRuns.Classifier
import CodeRuns.Command.Options
import CodeRuns.Listing.Buffer
import CodeRuns.RunTable.Build
import CodeRuns.RunTable.Stats
import CodeRuns.Telemetry
import CodeRuns.UnicodeData.Load

/-! One run of the command in any system: set up the log, read the database, build and check
the table, write its listing. The first stage that fails ends the run; the output file is
touched only when the table is complete. -/

namespace CodeRuns.Command

inductive Failure where
  | telemetry (fault : Telemetry.Fault)
  | load (fault : UnicodeData.LoadFault)
  | data (fault : UnicodeData.Fault)
  | build (fault : RunTable.BuildFault)
  | table (fault : RunTable.Fault)
  | create (path : String) (reason : Disk.Fault)
  | write (path : String) (reason : Disk.Fault)
  deriving DecidableEq

namespace Failure

def message : Failure → String
  | telemetry fault => fault.message
  | load fault => fault.message
  | data fault => fault.message
  | build fault => fault.message
  | table _ => "собранная таблица не прошла проверку"
  | create path _ => s!"не удалось создать {path}"
  | write path _ => s!"не удалось записать {path}"

def cause? : Failure → Option String
  | load fault => some fault.reason.message
  | table fault => some fault.message
  | create _ reason | write _ reason => some reason.message
  | telemetry _ | data _ | build _ => none

def report (f : Failure) : List String :=
  match f.cause? with
  | none => ["Error: " ++ f.message]
  | some cause => ["Error: " ++ f.message, "", "Caused by:", "    " ++ cause]

end Failure

def tableOf (path : String) (loaded : Except UnicodeData.LoadFault String) :
    Except Failure RunTable × List Event :=
  match loaded with
  | .error fault => (.error (.load fault), [])
  | .ok text =>
    let reading := UnicodeData.read text
    match reading.result with
    | .error fault => (.error (.data fault), reading.log)
    | .ok entries =>
      let events := reading.log ++ [.dataRead path entries.length]
      let built := RunTable.build entries
      match built.result with
      | .error fault => (.error (.build fault), events ++ built.log)
      | .ok table =>
        match table.classifier with
        | .error fault => (.error (.table fault), events ++ built.log)
        | .ok _ => (.ok table, events ++ built.log)

structure Quit where
  exit : Nat
  out : List String
  error : List String

/-- How arguments and filters are read is left open here. -/
structure Readers (F : Type) where
  arguments : List String → Except Quit Given
  filters : FilterLanguage F

/-- What a run asks of the system around it. Creating a file leaves nothing of what it held,
and texts are added to its end. -/
structure System (m : Type → Type) (Handle : Type) where
  readText : String → m (Except Disk.Fault String)
  create : String → m (Except Disk.Fault Handle)
  send : Handle → String → m (Except Disk.Fault Unit)
  printOut : List String → m Unit
  printError : List String → m Unit

section Run

variable {m : Type → Type} [Monad m] {Handle F : Type}

namespace System

def fail (s : System m Handle) (f : Failure) : m Nat := do
  s.printError f.report
  return 1

/-- The numbers about the table are reported once its listing is in the buffer, whether or not
the rest of it can be stored then. -/
def writeListing (s : System m Handle) (log : List Event → m Unit) (o : Options)
    (table : RunTable) (handle : Handle) : m Nat := do
  let buffer := Listing.buffered table ⟨o.version⟩
  match ← s.send handle buffer.sent with
  | .error reason => s.fail (.write o.output reason)
  | .ok _ =>
    log table.stats.events
    match ← s.send handle buffer.held with
    | .error reason => s.fail (.write o.output reason)
    | .ok _ =>
      log [.tableWritten o.output]
      return 0

def buildListing (s : System m Handle) (log : List Event → m Unit) (o : Options) : m Nat := do
  let content ← s.readText o.input
  let (result, events) := tableOf o.input (UnicodeData.load o.input content)
  log events
  match result with
  | .error failure => s.fail failure
  | .ok table =>
    match ← s.create o.output with
    | .error reason => s.fail (.create o.output reason)
    | .ok handle => s.writeListing log o table handle

def runOptions (s : System m Handle) (filters : FilterLanguage F)
    (environment : Option (List UInt8)) (o : Options) : m Nat :=
  match Telemetry.fresh.setUp filters environment o.logFilter with
  | .error fault => s.fail (.telemetry fault)
  | .ok t => s.buildListing (fun events => s.printError (t.lines filters events)) o

def run (s : System m Handle) (readers : Readers F) (environment : Option (List UInt8))
    (args : List String) : m Nat := do
  match readers.arguments args with
  | .error quit =>
    s.printOut quit.out
    s.printError quit.error
    return quit.exit
  | .ok given => s.runOptions readers.filters environment (.ofGiven given)

end System

end Run

structure World where
  disk : Disk
  out : String
  error : String

namespace World

def start (d : Disk) : World := ⟨d, "", ""⟩

def printError (w : World) (lines : List String) : World :=
  { w with error := w.error ++ Text.printed lines }

def system : System (StateM World) Location where
  readText path := fun w => (w.disk.readText path, w)
  create path := fun w =>
    match w.disk.place path with
    | .error reason => (.error reason, w)
    | .ok place => (.ok place, { w with disk := w.disk.clear place })
  send place text := fun w =>
    match w.disk.append place (Text.bytes text) with
    | .error reason => (.error reason, w)
    | .ok disk => (.ok (), { w with disk := disk, error := w.error ++ w.disk.echo place text })
  printOut lines := fun w => ((), { w with out := w.out ++ Text.printed lines })
  printError lines := fun w => ((), w.printError lines)

end World
end CodeRuns.Command
