import CodeRuns.CodePoint
import CodeRuns.Role
import CodeRuns.Text.Quoted

/-! What the table builder reports while it works. An event has a level, the log target
it belongs to, a message and fields in a fixed order; all four follow from its kind. -/

namespace CodeRuns

inductive Level where
  | error
  | warn
  | info
  | debug
  | trace
  deriving DecidableEq

namespace Level

def name : Level → String
  | error => "ERROR"
  | warn => "WARN"
  | info => "INFO"
  | debug => "DEBUG"
  | trace => "TRACE"

def detail : Level → Nat
  | error => 1
  | warn => 2
  | info => 3
  | debug => 4
  | trace => 5

end Level

inductive FieldValue where
  | number (n : Int)
  | name (s : String)
  | path (s : String)
  deriving DecidableEq

def FieldValue.text : FieldValue → String
  | number n => toString n
  | name s => Text.Quoted.text s
  | path s => s

inductive Event where
  | rangeSkipped (first last : CodePoint) (name : String)
  | tableBuilt (entries : Int32) (runs : Nat) (gaps : Int32)
  | tableSize (runs bytes repeated : Nat)
  | roleRuns (role : Role) (runs : Nat)
  | dataRead (path : String) (entries : Nat)
  | tableWritten (path : String)
  deriving DecidableEq

namespace Event

def level : Event → Level
  | rangeSkipped .. | tableBuilt .. => .debug
  | tableSize .. | roleRuns .. | dataRead .. | tableWritten .. => .info

/-- Parts of a target are joined by two colons. The command's own events come from a part of
`prepare`, not from `prepare` itself: a filter for `prepare::` shows them as one for `prepare`
does. The name of the part, which nothing else tells, is left open. -/
def target : Event → String
  | rangeSkipped .. => "unicode_lexclass_source::unicode"
  | tableBuilt .. => "unicode_lexclass_prepare::tables"
  | tableSize .. | roleRuns .. => "unicode_lexclass_prepare::output::stats"
  | dataRead .. | tableWritten .. => "prepare::"

def message : Event → String
  | rangeSkipped .. => "диапазон пропущен"
  | tableBuilt .. => "таблица отрезков собрана"
  | tableSize .. => "таблица классификации"
  | roleRuns .. => "отрезки"
  | dataRead .. => "прочитан UnicodeData.txt"
  | tableWritten .. => "таблица записана"

def fields : Event → List (String × FieldValue)
  | rangeSkipped first last name =>
    [("first", .number first.toNat), ("last", .number last.toNat), ("name", .name name)]
  | tableBuilt entries runs gaps =>
    [("entries", .number entries.toInt), ("runs", .number runs), ("gaps", .number gaps.toInt)]
  | tableSize runs bytes repeated =>
    [("runs", .number runs), ("size", .number bytes), ("repeated", .number repeated)]
  | roleRuns role runs => [("class", .name role.name), ("runs", .number runs)]
  | dataRead path entries => [("path", .path path), ("entries", .number entries)]
  | tableWritten path => [("path", .path path)]

def line (e : Event) : String :=
  " ".intercalate
    (e.level.name :: e.message :: e.fields.map fun (key, value) => key ++ "=" ++ value.text)

end Event
end CodeRuns
