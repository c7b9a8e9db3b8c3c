/-! Hexadecimal numerals, most significant digit first. Written numerals use
upper-case digits and no leading zero; reading takes digits of either case. The
digits of a number read back as that number. -/

namespace CodeRuns.Text.Hex

def digit (n : Nat) : Char :=
  if n < 10 then Char.ofNat (48 + n) else Char.ofNat (55 + n)

def digits (n : Nat) : List Char :=
  if n < 16 then [digit n] else digits (n / 16) ++ [digit (n % 16)]
termination_by n

def digitValue? (c : Char) : Option Nat :=
  if '0' ≤ c ∧ c ≤ '9' then some (c.toNat - 48)
  else if 'A' ≤ c ∧ c ≤ 'F' then some (c.toNat - 55)
  else if 'a' ≤ c ∧ c ≤ 'f' then some (c.toNat - 87)
  else none

def extend? (n : Nat) (c : Char) : Option Nat := (digitValue? c).map (16 * n + ·)

def read? : List Char → Option Nat
  | [] => none
  | cs => cs.foldlM extend? 0

def padded (width n : Nat) : List Char :=
  List.replicate (width - (digits n).length) '0' ++ digits n

theorem digitValue?_digit {n : Nat} (h : n < 16) : digitValue? (digit n) = some n := by
  have all : ∀ k : Fin 16, digitValue? (digit k) = some k.val := by decide
  exact all ⟨n, h⟩

theorem digits_ne_nil (n : Nat) : digits n ≠ [] := by
  unfold digits
  split <;> simp

theorem foldlM_extend?_digits (n : Nat) : (digits n).foldlM extend? 0 = some n := by
  induction n using Nat.strongRecOn with
  | ind n ih =>
    unfold digits
    split
    · rename_i small
      simp [extend?, digitValue?_digit small]
    · rename_i large
      have back := ih (n / 16) (by omega)
      have step := digitValue?_digit (show n % 16 < 16 by omega)
      simp only [List.foldlM_append, back, List.foldlM_cons, List.foldlM_nil, extend?, step,
        Option.bind_eq_bind, Option.bind_some, Option.map_some, Option.pure_def]
      exact congrArg some (by omega)

theorem read?_digits (n : Nat) : read? (digits n) = some n := by
  rw [← foldlM_extend?_digits n]
  cases h : digits n with
  | nil => exact absurd h (digits_ne_nil n)
  | cons c cs => rfl

end CodeRuns.Text.Hex
