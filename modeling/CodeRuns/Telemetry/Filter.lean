import CodeRuns.Telemetry
import CodeRuns.Telemetry.Pattern
import CodeRuns.Text.Bytes
import CodeRuns.Text.Numeral

/-! Filters that choose which events are shown. A filter is a list of directives parted by
commas; each sets the detail shown of all targets or of those that begin with its own, and
may ask for a field. The directive with the longest target decides, the later of two with
one target, and an event that no directive fits is not shown. -/

namespace CodeRuns.Telemetry

inductive FilterFault where
  | directive
  | level
  | field (reason : Pattern.Fault)
  deriving DecidableEq

def FilterFault.message : FilterFault → String
  | directive => "invalid filter directive"
  | level =>
    "error parsing level filter: expected one of \"off\", \"error\", \"warn\", \"info\", \"debug\", \"trace\", or a number 0-5"
  | field reason => s!"invalid field filter: {reason.message}"

def everything : Nat := Level.trace.detail

def readDetailNumber? (cs : List Char) : Option Nat :=
  let digits := match cs with
    | '+' :: rest => rest
    | _ => cs
  if digits.isEmpty || !digits.all Char.isDigit then none
  else
    let n := digits.foldl (fun n c => 10 * n + (c.toNat - 48)) 0
    if n ≤ everything then some n else none

def readDetail? (cs : List Char) : Option Nat :=
  match readDetailNumber? cs with
  | some n => some n
  | none =>
    match String.ofList (cs.map Char.toLower) with
    | "off" => some 0
    | "error" => some Level.error.detail
    | "warn" => some Level.warn.detail
    | "info" => some Level.info.detail
    | "debug" => some Level.debug.detail
    | "trace" => some Level.trace.detail
    | _ => none

structure FieldDemand where
  name : String
  valued : Bool
  deriving DecidableEq

namespace FieldDemand

def valueFault? (value : List Char) : Option Pattern.Fault :=
  if Text.Numeral.isNumeral value then none else Pattern.fault? value

def read (cs : List Char) : Except FilterFault FieldDemand :=
  match cs.splitOn '=' with
  | name :: value :: _ =>
    match valueFault? value with
    | some reason => .error (.field reason)
    | none => .ok ⟨String.ofList name, true⟩
  | _ => .ok ⟨String.ofList cs, false⟩

end FieldDemand

/-- A directive that names a span concerns what happens inside of one. -/
structure Directive where
  target : Option (List Char)
  span : Option (List Char)
  field : Option FieldDemand
  detail : Nat
  deriving DecidableEq

namespace Directive

def forAll (detail : Nat) : Directive := ⟨none, none, none, detail⟩

inductive Stage where
  | start
  | target (first : Nat)
  | span (first : Nat)
  | field (first : Nat)
  | fieldClosed
  | spanClosed
  | level (first : Nat)
  deriving DecidableEq

structure Draft where
  directive : Directive
  stage : Stage

def cutFrom (text : List Char) (first : Nat) : Except FilterFault (List Char) :=
  match Text.splitBytes? first text with
  | some (_, rest) => .ok rest
  | none => .error .directive

def cut (text : List Char) (first stop : Nat) : Except FilterFault (List Char) :=
  match cutFrom text first with
  | .error fault => .error fault
  | .ok rest =>
    match Text.splitBytes? (stop - first) rest with
    | some (part, _) => .ok part
    | none => .error .directive

def starts (c : Char) : Bool :=
  Text.Alphanumeric.isAlphanumeric c || c == '-' || c == ':' || c == '_'

def Draft.ended (text : List Char) (first place : Nat) (next : Stage)
    (put : List Char → Directive) : Except FilterFault Draft :=
  (cut text first place).map fun part => ⟨put part, next⟩

def Draft.endedField (text : List Char) (d : Draft) (first place : Nat) :
    Except FilterFault Draft :=
  match cut text first place with
  | .error fault => .error fault
  | .ok [] => .error .directive
  | .ok part =>
    (FieldDemand.read part).map fun field =>
      ⟨{ d.directive with field := some field }, .fieldClosed⟩

def Draft.step (text : List Char) (d : Draft) (c : Char) (place : Nat) :
    Except FilterFault Draft :=
  match d.stage with
  | .start =>
    if c = '[' then .ok { d with stage := .span (place + 1) }
    else if starts c then .ok { d with stage := .target place }
    else .error .directive
  | .target first =>
    let put (target : List Char) : Directive := { d.directive with target := some target }
    if c = '=' then ended text first place (.level (place + 1)) put
    else if c = '[' then ended text first place (.span (place + 1)) put
    else .ok d
  | .span first =>
    if c = ']' then
      ended text first place .spanClosed fun span => { d.directive with span := some span }
    else if c = '\x7b' then
      ended text first place (.field (place + 1)) fun span =>
        { d.directive with span := if span.isEmpty then none else some span }
    else .ok d
  | .field first => if c = '\x7d' then d.endedField text first place else .ok d
  | .fieldClosed => if c = ']' then .ok { d with stage := .spanClosed } else .error .directive
  | .spanClosed =>
    if c = '=' then .ok { d with stage := .level (place + 1) } else .error .directive
  | .level _ => .ok d

def ofWord (word : List Char) : Directive :=
  match readDetail? word with
  | some detail => forAll detail
  | none => { forAll everything with target := some word }

def withLevel (d : Directive) (level : List Char) : Except FilterFault Directive :=
  if level.isEmpty then .ok { d with detail := everything }
  else match readDetail? level with
    | some detail => .ok { d with detail := detail }
    | none => .error .level

def Draft.finish (text : List Char) (d : Draft) : Except FilterFault Directive :=
  match d.stage with
  | .target first => (cutFrom text first).map ofWord
  | .level first =>
    match cutFrom text first with
    | .ok level => withLevel d.directive level
    | .error fault => .error fault
  | .spanClosed => .ok d.directive
  | .start | .span _ | .field _ | .fieldClosed => .error .directive

def read (text : List Char) : Except FilterFault Directive :=
  let marks := Text.placed 0 (Text.Blank.trim text)
  match marks.foldlM (fun d (c, place) => Draft.step text d c place) ⟨forAll everything, .start⟩ with
  | .ok draft => draft.finish text
  | .error fault => .error fault

def fits (d : Directive) (e : Event) : Bool :=
  -- no event happens inside of a span
  d.span.isNone &&
    (d.target.all fun own => own.isPrefixOf e.target.toList) &&
    (d.field.all fun f => !f.valued && (f.name == "message" || e.fields.any (·.1 == f.name)))

def weight (d : Directive) : Nat :=
  match d.target with
  | none => 0
  | some own => own.length + 1

def yields (d e : Directive) : Bool :=
  if d.weight ≠ e.weight then decide (d.weight < e.weight)
  else match d.field, e.field with
    | none, _ => true
    | some _, none => false
    | some f, some g => decide (f.name ≤ g.name)

end Directive

structure Filter where
  directives : List Directive
  deriving DecidableEq

namespace Filter

def read (text : String) : Except FilterFault Filter :=
  match ((text.toList.splitOn ',').filter (!·.isEmpty)).mapM Directive.read with
  | .ok [] => .ok ⟨[.forAll Level.error.detail]⟩
  | .ok directives => .ok ⟨directives⟩
  | .error fault => .error fault

def decisive? (f : Filter) (e : Event) : Option Directive :=
  f.directives.foldl
    (fun best d => if d.fits e && best.all (·.yields d) then some d else best) none

def shows (f : Filter) (e : Event) : Bool :=
  match f.decisive? e with
  | some d => decide (e.level.detail ≤ d.detail)
  | none => false

def language : FilterLanguage Filter where
  read text := (read text).mapError FilterFault.message
  shows := shows

end Filter
end CodeRuns.Telemetry
