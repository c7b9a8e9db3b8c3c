/-! Items set in lines of limited width. Each line takes as many items as fit, and at least
one; items are never split. A line stands after a line feed and an indent of four blanks,
which the width does not count. -/

namespace CodeRuns.Listing

abbrev Item := List Char

/-- Fills lines with the items to come, where `line` is the current line, newest item first,
and `used` its width. -/
def fillFrom (width : Nat) (line : List Item) (used : Nat) : List Item → List (List Item)
  | [] => [line.reverse]
  | item :: rest =>
    if used + item.length ≤ width then fillFrom width (item :: line) (used + item.length) rest
    else line.reverse :: fillFrom width [item] item.length rest

def fill (width : Nat) : List Item → List (List Item)
  | [] => []
  | item :: rest => fillFrom width [item] item.length rest

def indented (line : List Item) : List Char := '\n' :: ' ' :: ' ' :: ' ' :: ' ' :: line.flatten

def setLines (lines : List (List Item)) : List Char := lines.flatMap indented ++ ['\n']

theorem fillFrom_flatten (width : Nat) (line : List Item) (used : Nat) (items : List Item) :
    (fillFrom width line used items).flatten = line.reverse ++ items := by
  induction items generalizing line used with
  | nil => simp [fillFrom]
  | cons item rest ih =>
    unfold fillFrom
    split <;> simp [ih]

theorem fill_flatten (width : Nat) (items : List Item) : (fill width items).flatten = items := by
  cases items with
  | nil => rfl
  | cons item rest => simp [fill, fillFrom_flatten]

end CodeRuns.Listing
