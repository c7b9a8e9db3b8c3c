/-! Lexical roles of code points: what a tokenizer makes of a character it has no
rule of its own for. A role follows from the general category of the character,
and a table stores it as one byte. -/

namespace CodeRuns

inductive Role where
  | formatControl
  | whitespace
  | identifierStart
  | identifierPart
  | other
  deriving DecidableEq

namespace Role

def all : List Role := [formatControl, whitespace, identifierStart, identifierPart, other]

def name : Role → String
  | formatControl => "FormatControl"
  | whitespace => "Whitespace"
  | identifierStart => "IdentifierStart"
  | identifierPart => "IdentifierPart"
  | other => "Other"

def description : Role → String
  | formatControl => "Format-Control Character"
  | whitespace => "White Space"
  | identifierStart => "Identifier Start"
  | identifierPart => "Identifier Part"
  | other => "Other"

def byte : Role → UInt8
  | formatControl => 0
  | whitespace => 1
  | identifierStart => 2
  | identifierPart => 3
  | other => 4

def ofByte? : UInt8 → Option Role
  | 0 => some formatControl
  | 1 => some whitespace
  | 2 => some identifierStart
  | 3 => some identifierPart
  | 4 => some other
  | _ => none

def isIdentifier : Role → Bool
  | identifierStart | identifierPart => true
  | _ => false

def ofCategory : String → Role
  | "Cf" => formatControl
  | "Zs" => whitespace
  | "Lu" | "Ll" | "Lt" | "Lm" | "Lo" | "Nl" => identifierStart
  | "Mn" | "Mc" | "Nd" | "Pc" => identifierPart
  | _ => other

theorem mem_all (r : Role) : r ∈ all := by cases r <;> decide

end Role
end CodeRuns
