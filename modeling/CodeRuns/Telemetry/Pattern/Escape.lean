import CodeRuns.Telemetry.Pattern.Mode
import CodeRuns.Text.Hex

/-! What a backslash in a pattern stands for together with the signs after it. -/

namespace CodeRuns.Telemetry.Pattern

inductive Escape where
  | character (c : Char) (asByte : Bool)
  | kind (negated : Bool)
  | textEdge
  | wordEdge
  deriving DecidableEq

namespace Escape

def readNumber (m : Mode) (known : Nat) : Nat → List Char → Option (Nat × List Char)
  | 0, cs => some (known, cs)
  | count + 1, cs =>
    match m.skip cs with
    | [] => none
    | c :: rest =>
      match Text.Hex.extend? known c with
      | some n => readNumber m n count rest
      | none => none

def readNumbered (m : Mode) (count : Nat) (asByte : Bool) (cs : List Char) :
    Option (Escape × List Char) :=
  match readNumber m 0 count cs with
  | some (n, rest) =>
    if n.isValidChar then some (character (Char.ofNat n) asByte, rest) else none
  | none => none

def control? : Char → Option Char
  | 'a' => some '\x07'
  | 'f' => some '\x0c'
  | 'n' => some '\n'
  | 'r' => some '\r'
  | 't' => some '\t'
  | 'v' => some '\x0b'
  | _ => none

def ofSign? (c : Char) : Option Escape :=
  match c with
  | 'd' | 's' | 'w' => some (kind false)
  | 'D' | 'S' | 'W' => some (kind true)
  | 'A' | 'z' => some textEdge
  | 'b' | 'B' | '<' | '>' => some wordEdge
  | _ =>
    match control? c with
    | some meant => some (character meant false)
    | none => if Mode.isAscii c && !c.isAlphanum then some (character c false) else none

def read (m : Mode) : List Char → Option (Escape × List Char)
  | 'x' :: rest => readNumbered m 2 true rest
  | 'u' :: rest => readNumbered m 4 false rest
  | 'U' :: rest => readNumbered m 8 false rest
  | c :: rest => (ofSign? c).map (·, rest)
  | [] => none

end Escape
end CodeRuns.Telemetry.Pattern
