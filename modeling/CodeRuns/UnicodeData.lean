import CodeRuns.Event
import CodeRuns.Text.Blank
import CodeRuns.Text.Line

/-! The character database as a text of records: a code point, a name and a general
category in each line. A range stands on two lines, one naming its first code point and
one its last, and lists every code point between them; ranges for private use and of
surrogates are left out. Reading goes line by line and stops at the first fault. -/

namespace CodeRuns

structure Entry where
  code : CodePoint
  category : String
  deriving DecidableEq

namespace UnicodeData

inductive Column where
  | code
  | name
  | category
  deriving DecidableEq

def Column.title : Column → String
  | code => "code"
  | name => "name"
  | category => "general category"

inductive Fault where
  | missingField (line : Nat) (column : Column)
  | invalidCode (line : Nat) (value : String)
  | unpairedRange (line : Nat)
  deriving DecidableEq

def Fault.message : Fault → String
  | missingField line column => s!"строка {line}: отсутствует поле \"{column.title}\""
  | invalidCode line value => s!"строка {line}: некорректный код символа \"{value}\""
  | unpairedRange line => s!"строка {line}: незакрытый или непарный диапазон"

structure Record where
  code : CodePoint
  name : List Char
  category : String
  deriving DecidableEq

namespace Record

def entry (r : Record) : Entry := ⟨r.code, r.category⟩

def opensRange (r : Record) : Bool :=
  ['<'].isPrefixOf r.name && "First>".toList.isSuffixOf r.name

def endsAsLast (r : Record) : Bool := "Last>".toList.isSuffixOf r.name

def closesRange (r : Record) : Bool := ['<'].isPrefixOf r.name && r.endsAsLast

def leftOut (r : Record) : Bool :=
  Text.holds "Private Use".toList r.name || Text.holds "Surrogate".toList r.name

def entriesAbove (first last : Record) : List Entry :=
  (first.code.above last.code).map fun c => ⟨c, first.category⟩

def ofLine (number : Nat) (line : List Char) : Except Fault Record :=
  match Text.fields line with
  | code :: name :: category :: _ =>
    -- white space around a code is no part of it, but a fault shows the field as it stands
    match CodePoint.read? (Text.Blank.trim code) with
    | some c => .ok ⟨c, name, String.ofList category⟩
    | none => .error (.invalidCode number (String.ofList code))
  | [_, _] => .error (.missingField number .category)
  | [_] => .error (.missingField number .name)
  | [] => .error (.missingField number .code)

end Record

/-- What has been read so far. An open range is the number and the record of its first line. -/
structure Progress where
  entries : Array Entry
  opened : Option (Nat × Record)
  log : List Event

namespace Progress

def start : Progress := ⟨#[], none, []⟩

def close (p : Progress) (firstNumber : Nat) (first : Record) (number : Nat) (r : Record) :
    Except Fault Progress :=
  -- the ending is all that is asked for, so the last line of another range closes this one, too
  if !r.endsAsLast then .error (.unpairedRange firstNumber)
  else if r.code < first.code then .error (.unpairedRange number)
  else if r.leftOut then
    .ok { p with
      opened := none
      log := p.log ++ [.rangeSkipped first.code r.code (String.ofList r.name)] }
  else
    .ok { p with opened := none, entries := p.entries ++ (first.entriesAbove r).toArray }

/-- A record while no range is open. The first code point of a range is listed at once. -/
def begin (p : Progress) (number : Nat) (r : Record) : Except Fault Progress :=
  if r.opensRange then
    .ok { p with
      opened := some (number, r)
      entries := if r.leftOut then p.entries else p.entries.push r.entry }
  else if r.closesRange then .error (.unpairedRange number)
  else .ok { p with entries := p.entries.push r.entry }

def add (p : Progress) (number : Nat) (r : Record) : Except Fault Progress :=
  match p.opened with
  | some (firstNumber, first) => p.close firstNumber first number r
  | none => p.begin number r

def addLine (p : Progress) (number : Nat) (line : List Char) : Except Fault Progress :=
  if (Text.Blank.trim line).isEmpty then .ok p
  else match Record.ofLine number line with
    | .ok r => p.add number r
    | .error fault => .error fault

end Progress

structure Reading where
  result : Except Fault (List Entry)
  log : List Event

def Progress.finish (p : Progress) : Reading :=
  match p.opened with
  | some (number, _) => ⟨.error (.unpairedRange number), p.log⟩
  | none => ⟨.ok p.entries.toList, p.log⟩

def readLines (p : Progress) : List (Nat × List Char) → Reading
  | [] => p.finish
  | (number, line) :: rest =>
    match p.addLine number line with
    | .ok next => readLines next rest
    | .error fault => ⟨.error fault, p.log⟩

def read (text : String) : Reading := readLines .start (Text.numberedLines text.toList)

end UnicodeData
end CodeRuns
