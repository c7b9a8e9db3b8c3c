/-! Numerals of decimal fractions: a sign, digits with a point before, among or after them,
and a power of ten. The words for an infinite value and for none at all count too. -/

namespace CodeRuns.Text.Numeral

def isSign (c : Char) : Bool := c == '+' || c == '-'

def dropSign : List Char → List Char
  | c :: cs => if isSign c then cs else c :: cs
  | [] => []

def isDigits (cs : List Char) : Bool := !cs.isEmpty && cs.all Char.isDigit

def isPower : List Char → Bool
  | [] => true
  | c :: cs => (c == 'e' || c == 'E') && isDigits (dropSign cs)

def isFraction (cs : List Char) : Bool :=
  let whole := cs.takeWhile Char.isDigit
  match cs.dropWhile Char.isDigit with
  | '.' :: rest =>
    (!whole.isEmpty || (rest.takeWhile Char.isDigit).length != 0) &&
      isPower (rest.dropWhile Char.isDigit)
  | rest => !whole.isEmpty && isPower rest

def isWord (cs : List Char) : Bool :=
  ["inf", "infinity", "nan"].contains (String.ofList (cs.map Char.toLower))

def isNumeral (cs : List Char) : Bool := isFraction (dropSign cs) || isWord (dropSign cs)

end CodeRuns.Text.Numeral
