import CodeRuns.Text.Blank

/-! How the characters of a pattern are read: with or without regard to case, as characters
or as bytes, and with or without blanks between the signs. Options in the pattern switch
these. No knowledge of letter case beyond ASCII is there, so nothing can be read by
characters without regard to case. -/

namespace CodeRuns.Telemetry.Pattern

structure Mode where
  caseless : Bool
  unicode : Bool
  spaced : Bool
  deriving DecidableEq

namespace Mode

def usual : Mode := ⟨false, true, false⟩

def pass (inComment : Bool) : List Char → List Char
  | [] => []
  | c :: cs =>
    if inComment then pass (c ≠ '\n') cs
    else if Text.Blank.isBlank c then pass false cs
    else if c = '#' then pass true cs
    else c :: cs

def skip (m : Mode) (cs : List Char) : List Char := if m.spaced then pass false cs else cs

theorem pass_length_le (inComment : Bool) (cs : List Char) :
    (pass inComment cs).length ≤ cs.length := by
  induction cs generalizing inComment with
  | nil => simp [pass]
  | cons c cs ih =>
    simp only [pass]
    split
    · exact Nat.le_succ_of_le (ih _)
    · split
      · exact Nat.le_succ_of_le (ih _)
      · split
        · exact Nat.le_succ_of_le (ih _)
        · exact Nat.le_refl _

theorem skip_length_le (m : Mode) (cs : List Char) : (m.skip cs).length ≤ cs.length := by
  unfold skip
  split
  · exact pass_length_le false cs
  · exact Nat.le_refl _

def isAscii (c : Char) : Bool := decide (c.toNat < 0x80)

def takesCharacter (m : Mode) (c : Char) (asByte : Bool) : Bool :=
  if m.unicode then !m.caseless else isAscii c || !asByte

def takesMember (m : Mode) (c : Char) : Bool :=
  if m.unicode then !m.caseless else isAscii c

def takesKind (m : Mode) (negated : Bool) : Bool := !m.unicode && !negated

def takesNamed (m : Mode) (negated : Bool) : Bool :=
  if m.unicode then !m.caseless else !negated

def takesAny (m : Mode) : Bool := m.unicode

def takesComplement (m : Mode) : Bool := m.unicode

def optionSigns : List Char := ['i', 'm', 's', 'U', 'u', 'R', 'x', '-']

def areOptions (signs : List Char) : Bool :=
  signs.all optionSigns.contains && decide signs.Nodup && signs.getLast? != some '-'

def choice? (signs : List Char) (sign : Char) : Option Bool :=
  if signs.contains sign then some (!(signs.takeWhile (· ≠ sign)).contains '-') else none

def withOptions (m : Mode) (signs : List Char) : Mode where
  caseless := (choice? signs 'i').getD m.caseless
  unicode := (choice? signs 'u').getD m.unicode
  spaced := (choice? signs 'x').getD m.spaced

end Mode
end CodeRuns.Telemetry.Pattern
