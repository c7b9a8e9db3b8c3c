import CodeRuns.Text.Bytes

/-! A disk of files, directories and devices, and paths on it. A path names its steps from
the working directory, or from the root if it begins with a slash; every step but the last
has to be a directory. Reading gives a whole file; writing begins with an empty file in the
place of an old one or a new one, while a device keeps nothing. -/

namespace CodeRuns

inductive Device where
  | null
  | endless
  | full
  | errorStream
  deriving DecidableEq

inductive Node where
  | file (content : List UInt8)
  | directory
  | device (d : Device)
  deriving DecidableEq

abbrev Location := List String

structure Disk where
  node? : Location → Option Node
  here : Location

namespace Disk

inductive Fault where
  | notFound
  | notDirectory
  | isDirectory
  | nameTooLong
  | nulInPath
  | invalidText
  | noMemory
  | noSpace
  | system (text : String)
  deriving DecidableEq

def Fault.message : Fault → String
  | notFound => "No such file or directory (os error 2)"
  | notDirectory => "Not a directory (os error 20)"
  | isDirectory => "Is a directory (os error 21)"
  | nameTooLong => "File name too long (os error 36)"
  | nulInPath => "file name contained an unexpected NUL byte"
  | invalidText => "stream did not contain valid UTF-8"
  | noMemory => "out of memory"
  | noSpace => "No space left on device (os error 28)"
  | system text => text

def rootNames : List String :=
  ["bin", "boot", "dev", "etc", "home", "lib", "lib64", "media", "mnt", "opt", "proc", "root", "run",
    "sbin", "srv", "sys", "tmp", "usr", "var"]

def devices : List (String × Device) :=
  [("null", .null), ("stdin", .null), ("stdout", .null), ("stderr", .errorStream),
    ("full", .full), ("zero", .endless), ("random", .endless), ("urandom", .endless)]

def empty : Disk where
  node?
    | [] | ["tmp", "work"] => some .directory
    | [name] => if name ∈ rootNames then some .directory else none
    | ["dev", name] => (devices.lookup name).map .device
    | _ => none
  here := ["tmp", "work"]

def set (d : Disk) (place : Location) (n : Node) : Disk :=
  { d with node? := fun other => if other = place then some n else d.node? other }

def steps (path : String) : List String := (path.toList.splitOn '/').map String.ofList

def nameLimit : Nat := 255

def pathLimit : Nat := 4096

def enter (d : Disk) (place : Location) (name : String) : Except Fault Location :=
  match d.node? place with
  | none => .error .notFound
  | some (.file _) | some (.device _) => .error .notDirectory
  | some .directory =>
    if name = "" ∨ name = "." then .ok place
    else if name = ".." then .ok place.dropLast
    else if nameLimit < (Text.bytes name).length then .error .nameTooLong
    else .ok (place ++ [name])

def walk (d : Disk) (place : Location) (names : List String) : Except Fault Location :=
  names.foldlM d.enter place

def origin (d : Disk) (path : String) : Location :=
  if path.toList.head? = some '/' then [] else d.here

def pathFault? (path : String) : Option Fault :=
  if path.toList.contains '\x00' then some .nulInPath
  else if path.isEmpty then some .notFound
  else if pathLimit ≤ (Text.bytes path).length then some .nameTooLong
  else none

def locate (d : Disk) (path : String) : Except Fault Location :=
  match pathFault? path with
  | some fault => .error fault
  | none => d.walk (d.origin path) (steps path)

def readBytes (d : Disk) (path : String) : Except Fault (List UInt8) :=
  match d.locate path with
  | .error fault => .error fault
  | .ok place =>
    match d.node? place with
    | some (.file content) => .ok content
    | some .directory => .error .isDirectory
    | some (.device .null) => .ok []
    | some (.device _) => .error .noMemory
    | none => .error .notFound

def decoded (content : List UInt8) : Except Fault String :=
  match Text.ofBytes? content with
  | some text => .ok text
  | none => .error .invalidText

def readText (d : Disk) (path : String) : Except Fault String :=
  match d.readBytes path with
  | .ok content => decoded content
  | .error fault => .error fault

def namesDirectory (name : String) : Bool := name == "" || name == "." || name == ".."

def endsInSlash (path : String) : Bool := path.toList.getLast? == some '/'

/-- Where a file of a path stands or would stand. The last name is looked up only if it can name
a file and no slash follows it. -/
def place (d : Disk) (path : String) : Except Fault Location :=
  match pathFault? path, (steps path).reverse.dropWhile String.isEmpty with
  | some fault, _ => .error fault
  | none, [] => .error .isDirectory
  | none, last :: before =>
    match d.walk (d.origin path) (before.reverse ++ [""]) with
    | .error fault => .error fault
    | .ok above =>
      if namesDirectory last || endsInSlash path then .error .isDirectory
      else match d.enter above last with
        | .error fault => .error fault
        | .ok target =>
          if d.node? target = some .directory then .error .isDirectory else .ok target

def clear (d : Disk) (place : Location) : Disk :=
  match d.node? place with
  | some (.device _) => d
  | _ => d.set place (.file [])

def append (d : Disk) (place : Location) (content : List UInt8) : Except Fault Disk :=
  match d.node? place with
  | some (.file old) => .ok (d.set place (.file (old ++ content)))
  | some (.device .full) => if content.isEmpty then .ok d else .error .noSpace
  | _ => .ok d

def echo (d : Disk) (place : Location) (text : String) : String :=
  match d.node? place with
  | some (.device .errorStream) => text
  | _ => ""

def install (d : Disk) (path : String) (n : Node) : Disk :=
  let names := (steps path).filter (!namesDirectory ·)
  let parents := (List.range names.length).map fun i => d.here ++ names.take i
  (parents.foldl (fun d above => d.set above .directory) d).set (d.here ++ names) n

end Disk
end CodeRuns
