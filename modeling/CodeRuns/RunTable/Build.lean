import CodeRuns.RunTable
import CodeRuns.UnicodeData

/-! Building a table from entries in ascending order. A run goes on while the code points
follow one another and keep their role; any other entry closes it and opens the next.
The sentinel repeats the role of the last run at the last code point. A table that is
finished is reported; entries that make no table are not. -/

namespace CodeRuns

def Entry.role (e : Entry) : Role := Role.ofCategory e.category

namespace RunTable

inductive BuildFault where
  | empty
  | duplicate (code : CodePoint) (index : Nat)
  | notAscending (previous code : CodePoint) (index : Nat)
  deriving DecidableEq

def BuildFault.message : BuildFault → String
  | empty => "нет входных данных: для построения таблицы нужен хотя бы один кодпоинт"
  | duplicate code index => s!"запись #{index}: кодпоинт {code.text} встречается повторно"
  | notAscending previous code index =>
    s!"запись #{index}: кодпоинт {code.text} меньше предыдущего {previous.text}"

structure Built where
  result : Except BuildFault RunTable
  log : List Event

/-- A table in the making: its closed runs, the run that is still open, the last code point
and the place of the next entry. The report counts the entries, and how often a gap parted
runs of one role, in numbers of 32 bits with a sign, which go round past their ends. -/
structure Builder where
  closed : RunTable
  opened : Run
  last : CodePoint
  index : Nat
  count : Int32
  gaps : Int32

namespace Builder

def start (e : Entry) : Builder := ⟨.empty, ⟨e.code, e.role⟩, e.code, 1, 1, 0⟩

def continues (b : Builder) (e : Entry) : Bool :=
  e.code.toNat == b.last.toNat + 1 && e.role == b.opened.role

def extend (b : Builder) (e : Entry) : Builder :=
  let next := { b with last := e.code, index := b.index + 1, count := b.count + 1 }
  if b.continues e then next
  else
    { next with
      closed := b.closed.push b.opened
      opened := ⟨e.code, e.role⟩
      gaps := if e.role = b.opened.role then b.gaps + 1 else b.gaps }

def add (b : Builder) (e : Entry) : Except BuildFault Builder :=
  if e.code = b.last then .error (.duplicate e.code b.index)
  else if e.code < b.last then .error (.notAscending b.last e.code b.index)
  else .ok (b.extend e)

def finish (b : Builder) : Built :=
  let table := (b.closed.push b.opened).push ⟨b.last, b.opened.role⟩
  ⟨.ok table, [.tableBuilt b.count (table.size - 1) b.gaps]⟩

def addAll (b : Builder) : List Entry → Built
  | [] => b.finish
  | e :: rest =>
    match b.add e with
    | .ok next => next.addAll rest
    | .error fault => ⟨.error fault, []⟩

end Builder

def build : List Entry → Built
  | [] => ⟨.error .empty, []⟩
  | e :: rest => (Builder.start e).addAll rest

end RunTable
end CodeRuns
