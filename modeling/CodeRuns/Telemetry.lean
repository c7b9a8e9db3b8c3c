import CodeRuns.Event
import CodeRuns.Text.Bytes

/-! The one place of a process where events go. At most one subscriber is ever installed:
the program's own, which prints what its filter shows, or a foreign one, which prints
nothing here. Once its own is installed, asking for it again has no effect. What filters
say is left to their language. -/

namespace CodeRuns

/-- How a text is read as a filter, or why it is none, and which events a filter shows. -/
structure FilterLanguage (F : Type) where
  read : String → Except String F
  shows : F → Event → Bool

inductive Subscriber (F : Type) where
  | own (filter : F)
  | foreign

structure Telemetry (F : Type) where
  subscriber : Option (Subscriber F)
  ready : Bool

namespace Telemetry

inductive Fault where
  | filter (reason : String)
  | occupied
  deriving DecidableEq

def Fault.message : Fault → String
  | filter reason => s!"некорректный фильтр логирования: {reason}"
  | occupied =>
    "не удалось установить подписчика tracing: a global default trace dispatcher has already been set"

variable {F : Type}

def fresh : Telemetry F := ⟨none, false⟩

/-- The setting of the environment counts if it is a text and says anything. -/
def effectiveFilter (environment : Option (List UInt8)) (requested : String) : String :=
  match environment.bind Text.ofBytes? with
  | some setting => if setting.isEmpty then requested else setting
  | none => requested

def setUp (t : Telemetry F) (language : FilterLanguage F) (environment : Option (List UInt8))
    (requested : String) : Except Fault (Telemetry F) :=
  if t.ready then .ok t
  else match language.read (effectiveFilter environment requested) with
    | .error reason => .error (.filter reason)
    | .ok filter =>
      match t.subscriber with
      | some _ => .error .occupied
      | none => .ok ⟨some (.own filter), true⟩

def occupy? (t : Telemetry F) : Option (Telemetry F) :=
  match t.subscriber with
  | some _ => none
  | none => some { t with subscriber := some .foreign }

def lines (t : Telemetry F) (language : FilterLanguage F) (events : List Event) : List String :=
  match t.subscriber with
  | some (.own filter) => (events.filter (language.shows filter)).map Event.line
  | _ => []

end Telemetry
end CodeRuns
