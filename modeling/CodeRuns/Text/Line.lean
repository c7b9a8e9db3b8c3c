/-! Lines and fields of a text. A line ends at a line feed, which may have a carriage
return before it; characters after the last line feed make a line of their own.
Main statement: a text that ends in a line feed splits off as its own lines. -/

namespace CodeRuns.Text

def dropReturn (cs : List Char) : List Char :=
  if cs.getLast? = some '\r' then cs.dropLast else cs

def ended (pieces : List (List Char)) : List (List Char) := pieces.dropLast.map dropReturn

def unended (pieces : List (List Char)) : List (List Char) :=
  match pieces.getLast? with
  | none | some [] => []
  | some rest => [rest]

def lines (cs : List Char) : List (List Char) :=
  let pieces := cs.splitOn '\n'
  ended pieces ++ unended pieces

def numberedLines (cs : List Char) : List (Nat × List Char) :=
  ((lines cs).zipIdx 1).map Prod.swap

def linesOf (s : String) : List String := (lines s.toList).map String.ofList

def printed (texts : List String) : String := String.join (texts.map (· ++ "\n"))

def fields (line : List Char) : List (List Char) := line.splitOn ';'

def holds (part : List Char) : List Char → Bool
  | [] => part.isEmpty
  | c :: cs => part.isPrefixOf (c :: cs) || holds part cs

theorem holds_iff (part cs : List Char) : holds part cs = true ↔ part <:+: cs := by
  induction cs with
  | nil => simp [holds]
  | cons c cs ih => simp [holds, ih, List.infix_cons_iff]

@[simp] theorem lines_nil : lines [] = [] := by
  simp [lines, List.splitOn, ended, unended]

theorem lines_append (before after : List Char) :
    lines (before ++ '\n' :: after) = lines (before ++ ['\n']) ++ lines after := by
  have split (rest : List Char) : (before ++ '\n' :: rest).splitOn '\n' =
      before.splitOn '\n' ++ rest.splitOn '\n' := List.splitOnP_append_cons before rest (by simp)
  have nonempty (rest : List Char) : rest.splitOn '\n' ≠ [] :=
    List.splitOnP_ne_nil _ rest
  have blank : ([] : List Char).splitOn '\n' = [[]] := List.splitOnP_nil
  simp only [lines, split, blank, ended, unended, List.dropLast_append_of_ne_nil (nonempty after),
    List.dropLast_concat, List.map_append, List.getLast?_append, List.getLast?_singleton,
    Option.some_or, List.append_nil, List.append_assoc]
  cases last : (after.splitOn '\n').getLast? with
  | none => exact absurd (List.getLast?_eq_none_iff.1 last) (nonempty after)
  | some rest => simp

end CodeRuns.Text
