/-! Sets of characters given by stretches of their numbers, as the tables of Unicode list
them: the first and the last number of each stretch. -/

namespace CodeRuns.Text

abbrev Stretches := List (Nat × Nat)

def Stretches.holds (s : Stretches) (c : Char) : Bool :=
  s.any fun (low, high) => decide (low ≤ c.toNat ∧ c.toNat ≤ high)

theorem Stretches.holds_iff (s : Stretches) (c : Char) :
    s.holds c = true ↔ ∃ p ∈ s, p.1 ≤ c.toNat ∧ c.toNat ≤ p.2 := by
  simp [Stretches.holds]

end CodeRuns.Text
