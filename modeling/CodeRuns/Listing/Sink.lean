import CodeRuns.Listing
import CodeRuns.RunTable.Stats
import CodeRuns.Text.Bytes

/-! Writing a listing into a sink that may take a limited number of bytes. Parts go out in
order and writing stops at the first that is not taken whole; the numbers about the
table are reported only once everything is written. -/

namespace CodeRuns.Listing

structure Sink where
  limit : Option Nat
  received : List UInt8

namespace Sink

def unlimited : Sink := ⟨none, []⟩

def limited (n : Nat) : Sink := ⟨some n, []⟩

inductive Fault where
  | writeZero
  deriving DecidableEq

def Fault.message : Fault → String
  | writeZero => "failed to write whole buffer"

def write (s : Sink) (text : String) : Sink × Except Fault Unit :=
  let bytes := Text.bytes text
  match s.limit with
  | none => ({ s with received := s.received ++ bytes }, .ok ())
  | some n =>
    let room := n - s.received.length
    ({ s with received := s.received ++ bytes.take room },
      if bytes.length ≤ room then .ok () else .error .writeZero)

def writeAll (s : Sink) : List String → Sink × Except Fault Unit
  | [] => (s, .ok ())
  | text :: rest =>
    match s.write text with
    | (next, .ok _) => next.writeAll rest
    | (next, .error fault) => (next, .error fault)

def text (s : Sink) : String := Text.ofCutBytes s.received

end Sink

structure Written where
  sink : Sink
  result : Except Sink.Fault Unit
  log : List Event

def write (t : RunTable) (h : Header) (s : Sink) : Written :=
  match s.writeAll (parts t h) with
  | (sink, .ok _) => ⟨sink, .ok (), t.stats.events⟩
  | (sink, .error fault) => ⟨sink, .error fault, []⟩

end CodeRuns.Listing
