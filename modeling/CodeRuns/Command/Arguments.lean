import CodeRuns.Command
import CodeRuns.Telemetry.Filter
import CodeRuns.Text.Terminal

/-! The command line as the program reads it: four settings that take a value, in the next
argument or after an equals sign, and a request for help. A setting is taken over when the
next one that exists, the request or the end comes, so that an argument nobody knows is
reported before a fault of the setting in front of it. -/

namespace CodeRuns.Command

inductive Setting where
  | input
  | output
  | version
  | logFilter
  deriving DecidableEq

namespace Setting

def flag : Setting → String
  | input => "input"
  | output => "output"
  | version => "ucd-version"
  | logFilter => "log-filter"

def usage : Setting → String
  | input => "--input <INPUT>"
  | output => "--output <OUTPUT>"
  | version => "--ucd-version <UCD_VERSION>"
  | logFilter => "--log-filter <LOG_FILTER>"

def all : List Setting := [input, output, version, logFilter]

def named? (flag : String) : Option Setting := all.find? (·.flag = flag)

def refuses (s : Setting) (value : String) : Bool :=
  match s with
  | input | output => value.isEmpty
  | version | logFilter => false

end Setting

inductive UsageFault where
  | valueRequired (setting : Setting)
  | repeated (setting : Setting)
  | unexpectedArgument (text : String)
  | unexpectedHelpValue (value : String)
  deriving DecidableEq

def UsageFault.message : UsageFault → String
  | valueRequired s => s!"a value is required for '{s.usage}' but none was supplied"
  | repeated s => s!"the argument '{s.usage}' cannot be used multiple times"
  | unexpectedArgument text => s!"unexpected argument '{Text.Terminal.shown text}' found"
  | unexpectedHelpValue value =>
    s!"unexpected value '{Text.Terminal.shown value}' for '--help' found; no more were expected"

abbrev Values := List (Setting × String)

def Values.given (vs : Values) : Given :=
  ⟨vs.lookup .input, vs.lookup .output, vs.lookup .version, vs.lookup .logFilter⟩

structure Pending where
  setting : Setting
  value : Option String

structure Progress where
  values : Values
  pending : Option Pending

namespace Progress

def start : Progress := ⟨[], none⟩

def take (values : Values) (s : Setting) (value : String) : Except UsageFault Values :=
  if values.any (·.1 = s) then .error (.repeated s)
  else if s.refuses value then .error (.valueRequired s)
  else .ok (values ++ [(s, value)])

def settle (p : Progress) : Except UsageFault Values :=
  match p.pending with
  | none => .ok p.values
  | some ⟨s, none⟩ => .error (.valueRequired s)
  | some ⟨s, some value⟩ => take p.values s value

end Progress

inductive Request where
  | help
  | build (values : Values)

def splitValue (cs : List Char) : List Char × Option (List Char) :=
  match cs.dropWhile (· ≠ '=') with
  | [] => (cs, none)
  | _ :: value => (cs.takeWhile (· ≠ '='), some value)

inductive LongOption where
  | setting (s : Setting) (value : Option String)
  | help (value : Option String)
  | unknown (name : String)

def LongOption.read (cs : List Char) : LongOption :=
  let (name, value) := splitValue cs
  let name := String.ofList name
  let value := value.map String.ofList
  if name = "help" then .help value
  else match Setting.named? name with
    | some s => .setting s value
    | none => .unknown name

def Progress.addWord (p : Progress) (word : String) : Except UsageFault Progress :=
  match p.pending with
  | some ⟨s, none⟩ => .ok ⟨p.values, some ⟨s, some word⟩⟩
  | _ => .error (.unexpectedArgument word)

def Progress.addSetting (p : Progress) (s : Setting) (value : Option String) :
    Except UsageFault Progress :=
  match p.settle, value with
  | .error fault, _ => .error fault
  | .ok values, none => .ok ⟨values, some ⟨s, none⟩⟩
  | .ok values, some value => (Progress.take values s value).map fun values => ⟨values, none⟩

def Progress.help (p : Progress) : Except UsageFault Request := p.settle.map fun _ => .help

def readFrom (p : Progress) : List String → Except UsageFault Request
  | [] => p.settle.map .build
  | arg :: rest =>
    match arg.toList with
    | ['-', '-'] =>
      match rest with
      | [] => p.settle.map .build
      | word :: _ => .error (.unexpectedArgument word)
    | '-' :: '-' :: cs =>
      match LongOption.read cs with
      | .unknown name => .error (.unexpectedArgument ("--" ++ name))
      | .help none => p.help
      | .help (some value) => .error (.unexpectedHelpValue value)
      | .setting s value =>
        match p.addSetting s value with
        | .ok next => readFrom next rest
        | .error fault => .error fault
    | '-' :: c :: _ =>
      if c = 'h' then p.help else .error (.unexpectedArgument (String.ofList ['-', c]))
    | _ =>
      match p.addWord arg with
      | .ok next => readFrom next rest
      | .error fault => .error fault

def helpText : String :=
  "Usage: prepare [OPTIONS]\n\nOptions:\n" ++
    String.join (Setting.all.map fun s => "      " ++ s.usage ++ "\n") ++
    "  -h, --help"

def readArguments (args : List String) : Except Quit Given :=
  match readFrom .start args with
  | .ok (.build values) => .ok values.given
  | .ok .help => .error ⟨0, [helpText], []⟩
  | .error fault => .error ⟨2, [], ["error: " ++ fault.message]⟩

def readers : Readers Telemetry.Filter := ⟨readArguments, Telemetry.Filter.language⟩

end CodeRuns.Command
