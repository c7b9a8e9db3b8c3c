import CodeRuns.CodePoint
import Mathlib.Data.List.Forall2
import Mathlib.Data.Nat.Digits.Defs

/-! Numerals said by their value: a numeral is one digit or more, of either case and with any
number of leading zeros, after one plus sign at most, and its value is that of its digits in
base sixteen. Reading a code point takes exactly the numerals whose value fits; writing a number
that is not zero uses upper-case digits and begins with no zero. -/

namespace CodeRuns

namespace Text.Hex

def IsDigit (c : Char) (v : Nat) : Prop :=
  "0123456789ABCDEF".toList[v]? = some c ∨ "0123456789abcdef".toList[v]? = some c

instance (c : Char) (v : Nat) : Decidable (IsDigit c v) := inferInstanceAs (Decidable (_ ∨ _))

theorem toNat_bounds_of_digitValue? {c : Char} {v : Nat} (h : digitValue? c = some v) :
    48 ≤ c.toNat ∧ c.toNat ≤ 57 ∨ 65 ≤ c.toNat ∧ c.toNat ≤ 70 ∨
      97 ≤ c.toNat ∧ c.toNat ≤ 102 := by
  have hclass : ('0' ≤ c ∧ c ≤ '9') ∨ ('A' ≤ c ∧ c ≤ 'F') ∨ ('a' ≤ c ∧ c ≤ 'f') := by
    by_contra hnone
    simp only [not_or] at hnone
    rw [digitValue?, if_neg hnone.1, if_neg hnone.2.1, if_neg hnone.2.2] at h
    cases h
  simp only [Char.le_def, UInt32.le_iff_toNat_le] at hclass
  exact hclass

theorem lt_of_isDigit {c : Char} {v : Nat} (h : IsDigit c v) : v < 16 := by
  rcases h with h | h <;> exact (List.getElem?_eq_some_iff.1 h).1

theorem digitValue?_eq_some_iff {c : Char} {v : Nat} : digitValue? c = some v ↔ IsDigit c v := by
  constructor
  · intro h
    -- a digit lies in the first half of a byte, where all characters can be tried
    have all : ∀ n : Fin 128, (digitValue? (Char.ofNat n)).all
        (fun w => decide (IsDigit (Char.ofNat n) w)) = true := by decide +kernel
    have hbounds := toNat_bounds_of_digitValue? h
    have hc := all ⟨c.toNat, by omega⟩
    rw [Char.ofNat_toNat, h] at hc
    exact of_decide_eq_true hc
  · intro h
    have all : ∀ w : Fin 16, ("0123456789ABCDEF".toList[w.val]?.all
        fun d => decide (digitValue? d = some w.val)) = true ∧
        ("0123456789abcdef".toList[w.val]?.all
        fun d => decide (digitValue? d = some w.val)) = true := by decide +kernel
    have hlt := lt_of_isDigit h
    have hv := all ⟨v, hlt⟩
    rcases h with h | h
    · rw [h] at hv
      exact of_decide_eq_true hv.1
    · rw [h] at hv
      exact of_decide_eq_true hv.2

theorem foldlM_extend?_eq_some_iff {cs : List Char} {m n : Nat} :
    cs.foldlM extend? m = some n ↔
      ∃ vs, List.Forall₂ IsDigit cs vs ∧ vs.foldl (fun k v => 16 * k + v) m = n := by
  induction cs generalizing m with
  | nil => simp [eq_comm]
  | cons c cs ih =>
    simp only [List.foldlM_cons, extend?, Option.bind_eq_bind, Option.bind_eq_some_iff,
      Option.map_eq_some_iff, ih]
    constructor
    · rintro ⟨_, ⟨v, hv, rfl⟩, vs, hvs, hn⟩
      exact ⟨v :: vs, List.Forall₂.cons (digitValue?_eq_some_iff.1 hv) hvs, hn⟩
    · rintro ⟨_, hvs, hn⟩
      cases hvs with
      | cons hv hvs => exact ⟨_, ⟨_, digitValue?_eq_some_iff.2 hv, rfl⟩, _, hvs, hn⟩

theorem foldl_eq_ofDigits (vs : List Nat) :
    vs.foldl (fun k v => 16 * k + v) 0 = Nat.ofDigits 16 vs.reverse := by
  rw [Nat.ofDigits_eq_foldr, List.foldr_reverse]
  congr 1
  funext k v
  simp [Nat.add_comm]

def IsDigits (cs : List Char) (n : Nat) : Prop :=
  cs ≠ [] ∧ ∃ vs, List.Forall₂ IsDigit cs vs ∧ n = Nat.ofDigits 16 vs.reverse

theorem read?_eq_some_iff {cs : List Char} {n : Nat} : read? cs = some n ↔ IsDigits cs n := by
  cases cs with
  | nil => simp [read?, IsDigits]
  | cons c cs =>
    rw [read?, foldlM_extend?_eq_some_iff, IsDigits]
    simp only [foldl_eq_ofDigits, ne_eq, reduceCtorEq, not_false_eq_true, true_and, eq_comm]
    simp

def IsWritten (cs : List Char) : Prop :=
  (∃ first, cs.head? = some first ∧ first ≠ '0') ∧ ∀ c ∈ cs, c ∈ "0123456789ABCDEF".toList

theorem digit_mem_upper {n : Nat} (h : n < 16) : digit n ∈ "0123456789ABCDEF".toList := by
  have all : ∀ k : Fin 16, digit k ∈ "0123456789ABCDEF".toList := by decide +kernel
  exact all ⟨n, h⟩

theorem digit_ne_zero {n : Nat} (hne : n ≠ 0) (h : n < 16) : digit n ≠ '0' := by
  intro hzero
  have hvalue := digitValue?_digit h
  rw [hzero] at hvalue
  exact hne (Option.some.inj hvalue).symm

theorem isWritten_digits {n : Nat} (hne : n ≠ 0) : IsWritten (digits n) := by
  fun_induction digits n with
  | case1 n small =>
    exact ⟨⟨_, rfl, digit_ne_zero hne small⟩, List.forall_mem_singleton.2 (digit_mem_upper small)⟩
  | case2 n large ih =>
    obtain ⟨⟨first, hfirst, hzero⟩, hupper⟩ := ih (by omega)
    have hlast := digit_mem_upper (show n % 16 < 16 by omega)
    refine ⟨⟨first, ?_, hzero⟩, ?_⟩
    · rw [List.head?_append, hfirst, Option.some_or]
    · exact List.forall_mem_append.2 ⟨hupper, List.forall_mem_singleton.2 hlast⟩

end Text.Hex

namespace CodePoint

open Text.Hex

def IsNumeral (cs : List Char) (n : Nat) : Prop :=
  ∃ sign digits, cs = sign ++ digits ∧ (sign = [] ∨ sign = ['+']) ∧ IsDigits digits n

def unsigned : List Char → List Char
  | '+' :: rest => rest
  | cs => cs

theorem unsigned_eq_self {cs : List Char} (h : ¬ ∃ rest, cs = '+' :: rest) :
    unsigned cs = cs := by
  unfold unsigned
  split
  · exact absurd ⟨_, rfl⟩ h
  · rfl

theorem not_isDigits_plus (rest : List Char) (n : Nat) : ¬ IsDigits ('+' :: rest) n := by
  rintro ⟨-, vs, hvs, -⟩
  cases hvs with
  | cons hv _ =>
    have hnone : digitValue? '+' = none := by decide
    rw [← digitValue?_eq_some_iff, hnone] at hv
    cases hv

theorem isNumeral_iff {cs : List Char} {n : Nat} : IsNumeral cs n ↔ IsDigits (unsigned cs) n := by
  unfold unsigned
  split
  · rename_i rest
    constructor
    · rintro ⟨sign, digits, hcs, rfl | rfl, h⟩
      · rw [List.nil_append] at hcs
        exact absurd (hcs ▸ h) (not_isDigits_plus rest n)
      · obtain rfl := (List.cons.inj hcs).2
        exact h
    · exact fun h => ⟨['+'], rest, rfl, Or.inr rfl, h⟩
  · rename_i hsign
    constructor
    · rintro ⟨sign, digits, hcs, rfl | rfl, h⟩
      · rw [List.nil_append] at hcs
        exact hcs ▸ h
      · exact absurd hcs (hsign digits)
    · exact fun h => ⟨[], cs, rfl, Or.inl rfl, h⟩

theorem read?_eq_bind (cs : List Char) : read? cs = (Text.Hex.read? (unsigned cs)).bind
    fun n => if n < UInt32.size then some (UInt32.ofNat n) else none := by
  unfold read?
  split
  · rename_i rest
    have hunsigned : unsigned ('+' :: rest) = rest := rfl
    rw [hunsigned]
    dsimp only
    cases Text.Hex.read? rest <;> rfl
  · rename_i hsign
    rw [unsigned_eq_self fun ⟨rest, hcs⟩ => hsign rest hcs]
    dsimp only
    cases Text.Hex.read? cs <;> rfl

theorem read?_eq_some_iff {cs : List Char} {c : CodePoint} :
    read? cs = some c ↔ IsNumeral cs c.toNat := by
  rw [read?_eq_bind, Option.bind_eq_some_iff, isNumeral_iff, ← Text.Hex.read?_eq_some_iff]
  constructor
  · rintro ⟨n, hn, hfits⟩
    split at hfits
    · rename_i hlt
      rw [hn, ← Option.some.inj hfits, UInt32.toNat_ofNat_of_lt' hlt]
    · cases hfits
  · intro h
    exact ⟨_, h, by rw [if_pos c.toNat_lt_size, UInt32.ofNat_toNat]⟩

end CodePoint
end CodeRuns
