import CodeRuns.Classifier

/-! Token classes of code points in three editions of the language standard. Line ends,
ASCII blanks and ASCII identifier characters are fixed; all else follows the table, from
the third edition on. -/

namespace CodeRuns

inductive Edition where
  | es1
  | es3
  | es5
  deriving DecidableEq

namespace Edition

def all : List Edition := [es1, es3, es5]

def rank : Edition → Nat
  | es1 => 1
  | es3 => 3
  | es5 => 5

instance : LE Edition := ⟨fun v w => v.rank ≤ w.rank⟩

instance (v w : Edition) : Decidable (v ≤ w) := inferInstanceAs (Decidable (v.rank ≤ w.rank))

end Edition

namespace CodePoint

def lineFeed : CodePoint := 0x0A
def carriageReturn : CodePoint := 0x0D
def softHyphen : CodePoint := 0xAD
def zeroWidthNonJoiner : CodePoint := 0x200C
def zeroWidthJoiner : CodePoint := 0x200D
def lineSeparator : CodePoint := 0x2028
def paragraphSeparator : CodePoint := 0x2029
def byteOrderMark : CodePoint := 0xFEFF

def isAsciiBlank (c : CodePoint) : Bool := c == 0x09 || c == 0x0B || c == 0x0C || c == 0x20

def isAsciiDigit (c : CodePoint) : Bool := decide (0x30 ≤ c ∧ c ≤ 0x39)

def isAsciiLetter (c : CodePoint) : Bool :=
  decide (0x41 ≤ c ∧ c ≤ 0x5A) || decide (0x61 ≤ c ∧ c ≤ 0x7A)

def isAsciiStart (c : CodePoint) : Bool := c == 0x24 || c == 0x5F || isAsciiLetter c

end CodePoint

namespace Classifier
open CodePoint

def isLineTerminator (_ : Classifier) (c : CodePoint) (v : Edition) : Bool :=
  if c = lineFeed ∨ c = carriageReturn then true
  else decide ((c = lineSeparator ∨ c = paragraphSeparator) ∧ .es3 ≤ v)

def isWhitespace (k : Classifier) (c : CodePoint) (v : Edition) : Bool :=
  c.isAsciiBlank || decide (.es5 ≤ v ∧ c = byteOrderMark) ||
    decide (.es3 ≤ v ∧ k.lookup c = .whitespace)

def isIdentifierStart (k : Classifier) (c : CodePoint) (v : Edition) : Bool :=
  c.isAsciiStart || decide (.es3 ≤ v ∧ k.lookup c = .identifierStart)

/-- The joiners of zero width belong to identifiers of the fifth edition where the table has
them as format controls. -/
def isIdentifierPart (k : Classifier) (c : CodePoint) (v : Edition) : Bool :=
  if c.isAsciiStart || c.isAsciiDigit then true
  else if .es3 ≤ v then
    match k.lookup c with
    | .identifierStart | .identifierPart => true
    | .formatControl => decide (.es5 ≤ v ∧ (c = zeroWidthNonJoiner ∨ c = zeroWidthJoiner))
    | _ => false
  else false

def isFormatControl (k : Classifier) (c : CodePoint) : Bool :=
  decide (softHyphen ≤ c ∧ k.lookup c = .formatControl)

end Classifier
end CodeRuns
