import CodeRuns.Text.Stretch

/-! White space in the sense of the Unicode property `White_Space`: its twenty-five
characters, and texts trimmed of them at both ends. -/

namespace CodeRuns.Text.Blank

def stretches : Stretches :=
  [(0x09, 0x0D), (0x20, 0x20), (0x85, 0x85), (0xA0, 0xA0), (0x1680, 0x1680), (0x2000, 0x200A),
    (0x2028, 0x2029), (0x202F, 0x202F), (0x205F, 0x205F), (0x3000, 0x3000)]

def isBlank (c : Char) : Bool := stretches.holds c

def trimLeft (cs : List Char) : List Char := cs.dropWhile isBlank

def trimRight (cs : List Char) : List Char := (cs.reverse.dropWhile isBlank).reverse

def trim (cs : List Char) : List Char := trimRight (trimLeft cs)

theorem dropWhile_eq_nil_iff_all (cs : List Char) :
    cs.dropWhile isBlank = [] ↔ cs.all isBlank = true := by
  induction cs with
  | nil => simp
  | cons c cs ih => cases h : isBlank c <;> simp_all

theorem trim_eq_nil_iff (cs : List Char) : trim cs = [] ↔ cs.all isBlank = true := by
  rw [trim, trimRight, List.reverse_eq_nil_iff, dropWhile_eq_nil_iff_all, List.all_reverse,
    ← dropWhile_eq_nil_iff_all cs, trimLeft]
  constructor
  · intro all
    cases rest : cs.dropWhile isBlank with
    | nil => rfl
    | cons c tail =>
      have stop := List.head?_dropWhile_not isBlank cs
      simp_all
  · intro none
    simp [none]

end CodeRuns.Text.Blank
