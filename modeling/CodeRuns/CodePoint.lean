import CodeRuns.Text.Hex

/-! Code points as the table stores them: any 32-bit number, also past the last
character. Each has a numeral of at least four digits for messages. -/

namespace CodeRuns

abbrev CodePoint := UInt32

namespace CodePoint

def text (c : CodePoint) : String := "U+" ++ String.ofList (Text.Hex.padded 4 c.toNat)

def read? (cs : List Char) : Option CodePoint :=
  let numeral := match cs with
    | '+' :: rest => rest
    | _ => cs
  match Text.Hex.read? numeral with
  | some n => if n < UInt32.size then some (UInt32.ofNat n) else none
  | none => none

/-- The code points from the one after the first up to the last, in ascending order. The one
after the highest of all is zero. -/
def above (first last : CodePoint) : List CodePoint :=
  let next := (first + 1).toNat
  (List.range' next (last.toNat + 1 - next)).map UInt32.ofNat

theorem above_eq {first : CodePoint} (h : first ≠ 0xFFFFFFFF) (last : CodePoint) :
    first.above last =
      (List.range' (first.toNat + 1) (last.toNat - first.toNat)).map UInt32.ofNat := by
  have hsmall := first.toNat_lt_size
  have htop : first.toNat ≠ 4294967295 := fun hsame => h (UInt32.toNat_inj.1 hsame)
  have hnext : (first + 1).toNat = first.toNat + 1 := by
    rw [UInt32.toNat_add, UInt32.toNat_one]
    exact Nat.mod_eq_of_lt (by simp only [UInt32.size] at hsmall; omega)
  have hcount : last.toNat + 1 - (first.toNat + 1) = last.toNat - first.toNat := by omega
  simp only [above, hnext, hcount]

end CodePoint
end CodeRuns
