import CodeRuns.CodePoint
import Mathlib.Data.List.Basic

/-! Where code points fail to ascend: the first two neighbours of which the later is not above the
earlier. It is found from the front, one code point after the other. -/

namespace CodeRuns

/-- The code points at place `i` and right after it are the first neighbours that do not ascend. -/
structure FirstDescent (cs : List CodePoint) (i : Nat) (a b : CodePoint) : Prop where
  left : cs[i]? = some a
  right : cs[i + 1]? = some b
  le : b ≤ a
  ascends : ∀ j < i, ∀ x y, cs[j]? = some x → cs[j + 1]? = some y → x < y

namespace FirstDescent

variable {cs : List CodePoint} {x y a b : CodePoint} {i : Nat}

@[simp] theorem not_nil : ¬ FirstDescent [] i a b := fun h => nomatch h.left

@[simp] theorem not_singleton : ¬ FirstDescent [x] i a b := fun h => nomatch h.right

theorem of_le (hle : y ≤ x) : FirstDescent (x :: y :: cs) 0 x y :=
  ⟨rfl, rfl, hle, fun _ hj => absurd hj (Nat.not_lt_zero _)⟩

theorem cons (hlt : x < y) (h : FirstDescent (y :: cs) i a b) :
    FirstDescent (x :: y :: cs) (i + 1) a b := by
  refine ⟨h.left, h.right, h.le, fun j hj c d hc hd => ?_⟩
  cases j with
  | zero =>
    obtain rfl := Option.some.inj hc
    obtain rfl := Option.some.inj hd
    exact hlt
  | succ j => exact h.ascends j (Nat.lt_of_succ_lt_succ hj) c d hc hd

theorem cons_cons_iff : FirstDescent (x :: y :: cs) i a b ↔
    (y ≤ x ∧ i = 0 ∧ a = x ∧ b = y) ∨
      (x < y ∧ ∃ j, i = j + 1 ∧ FirstDescent (y :: cs) j a b) := by
  constructor
  · intro h
    cases i with
    | zero =>
      obtain rfl := Option.some.inj h.left
      obtain rfl := Option.some.inj h.right
      exact .inl ⟨h.le, rfl, rfl, rfl⟩
    | succ i =>
      have hlt := h.ascends 0 (Nat.succ_pos i) x y rfl rfl
      exact .inr ⟨hlt, i, rfl, h.left, h.right, h.le, fun j hj c d hc hd =>
        h.ascends (j + 1) (Nat.succ_lt_succ hj) c d hc hd⟩
  · rintro (⟨hle, rfl, rfl, rfl⟩ | ⟨hlt, j, rfl, h⟩)
    · exact of_le hle
    · exact cons hlt h

theorem exists_of_not_isChain (h : ¬ cs.IsChain (· < ·)) : ∃ i a b, FirstDescent cs i a b := by
  induction cs with
  | nil => exact absurd .nil h
  | cons x cs ih =>
    cases cs with
    | nil => exact absurd (.singleton x) h
    | cons y cs =>
      rw [List.isChain_cons_cons, not_and_or] at h
      by_cases hle : y ≤ x
      · exact ⟨0, x, y, of_le hle⟩
      · have hlt : x < y := UInt32.not_le.1 hle
        obtain ⟨i, a, b, hlater⟩ := ih (h.resolve_left (not_not.2 hlt))
        exact ⟨i + 1, a, b, cons hlt hlater⟩

end FirstDescent
end CodeRuns
