import CodeRuns.CodePoint
import Mathlib.Tactic.ByContra

/-! What answers for a code point: of all things that stand at a code point, the one at the
greatest code point up to it. A finite list holds such a thing as soon as one of its elements
stands at the code point or before it. -/

namespace CodeRuns

variable {α : Type} {key : α → CodePoint} {P : α → Prop} {c : CodePoint} {x y : α}

structure Nearest (key : α → CodePoint) (P : α → Prop) (c : CodePoint) (x : α) : Prop where
  holds : P x
  le : key x ≤ c
  greatest : ∀ y, P y → key y ≤ c → key y ≤ key x

namespace Nearest

theorem self (hx : P x) : Nearest key P (key x) x :=
  ⟨hx, UInt32.le_refl _, fun _ _ hy => hy⟩

theorem exists_of_mem {xs : List α} (hx : x ∈ xs) (hc : key x ≤ c) :
    ∃ y, Nearest key (· ∈ xs) c y := by
  induction xs generalizing x with
  | nil => cases hx
  | cons a rest ih =>
    by_cases hrest : ∃ b ∈ rest, key b ≤ c
    · obtain ⟨b, hb, hbc⟩ := hrest
      obtain ⟨y, hy⟩ := ih hb hbc
      by_cases ha : key a ≤ c ∧ key y < key a
      · refine ⟨a, List.mem_cons_self, ha.1, fun z hz hzc => ?_⟩
        rcases List.mem_cons.1 hz with rfl | hz
        · exact UInt32.le_refl _
        · exact UInt32.le_trans (hy.greatest z hz hzc) (UInt32.le_of_lt ha.2)
      · refine ⟨y, List.mem_cons_of_mem _ hy.holds, hy.le, fun z hz hzc => ?_⟩
        rcases List.mem_cons.1 hz with rfl | hz
        · exact UInt32.not_lt.1 fun hlt => ha ⟨hzc, hlt⟩
        · exact hy.greatest z hz hzc
    · rcases List.mem_cons.1 hx with rfl | hx
      · refine ⟨x, List.mem_cons_self, hc, fun z hz hzc => ?_⟩
        rcases List.mem_cons.1 hz with rfl | hz
        · exact UInt32.le_refl _
        · exact absurd ⟨z, hz, hzc⟩ hrest
      · exact absurd ⟨x, hx, hc⟩ hrest

end Nearest
end CodeRuns
