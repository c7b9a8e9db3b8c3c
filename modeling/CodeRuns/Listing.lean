import CodeRuns.Listing.Fill
import CodeRuns.RunTable
import CodeRuns.Text.Hex

/-! The written form of a table: comment lines that name the database version and the
roles, then one expression with the starts as hexadecimal literals and the roles by
name, both set in lines of limited width. -/

namespace CodeRuns.Listing

def numberLiteral (n : Nat) : List Char :=
  if n = 0 then ['0'] else '0' :: 'x' :: Text.Hex.digits n

def roleLiteral (r : Role) : List Char := "Classification::".toList ++ r.name.toList

def item (literal : List Char) : Item := literal ++ [',', ' ']

def numbers (ns : List Nat) (width : Nat) : List Char :=
  setLines (fill width (ns.map fun n => item (numberLiteral n)))

def roles (rs : List Role) (width : Nat) : List Char :=
  setLines (fill width (rs.map fun r => item (roleLiteral r)))

def width : Nat := 120

structure Header where
  version : Option String
  deriving DecidableEq

def warning : String := "// автоматически сгенерированный файл - не редактировать вручную\n"

def versionParts (version : String) : List String :=
  ["// источник: Unicode Character Database, версия ", version, "\n"]

def padding (r : Role) : List String := List.replicate (16 - r.name.length) " "

def roleParts (r : Role) : List String :=
  "// " :: r.name :: (padding r ++ [" - ", r.description, "\n"])

def body (t : RunTable) : String :=
  "ClassificationData \x7b\n  starts: &[" ++
    String.ofList (numbers (t.starts.toList.map UInt32.toNat) width) ++
    "  ],\n  classes: &[" ++ String.ofList (roles t.roles.toList width) ++ "  ],\n\x7d\n"

def parts (t : RunTable) (h : Header) : List String :=
  warning :: ((h.version.map versionParts).getD [] ++ Role.all.flatMap roleParts ++ [body t])

def text (t : RunTable) (h : Header) : String := String.join (parts t h)

end CodeRuns.Listing
