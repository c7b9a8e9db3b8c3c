import CodeRuns.Classifier
import CodeRuns.Proofs.Nearest

/-! What a look-up answers: a covered code point has the role of the nearest run that starts
at it or before it, and no other code point has an answer. The sentinel never decides, since
it repeats the role of the last run. -/

namespace CodeRuns

namespace RunTable

def runs (t : RunTable) : List Run := t.records.dropLast

variable {t : RunTable}

theorem length_records (h : t.WellFormed) : t.records.length = t.starts.size := by
  simp [records, h.even]

theorem mem_runs_iff (h : t.WellFormed) (r : Run) :
    r ∈ t.runs ↔ ∃ (i : Nat) (_ : i + 1 < t.starts.size) (_ : i < t.roles.size),
      r = ⟨t.starts[i], t.roles[i]⟩ := by
  have hlen := length_records h
  have heven := h.even
  rw [runs, List.mem_iff_getElem]
  constructor
  · rintro ⟨i, hi, rfl⟩
    rw [List.length_dropLast] at hi
    exact ⟨i, by omega, by omega, by simp [records]⟩
  · rintro ⟨i, hi, hrole, rfl⟩
    exact ⟨i, by rw [List.length_dropLast]; omega, by simp [records]⟩

theorem starts_lt (h : t.WellFormed) {i j : Nat} (hij : i < j) (hj : j + 1 < t.starts.size) :
    t.starts[i] < t.starts[j] := by
  have hpair := List.pairwise_iff_getElem.1 h.ascending i j
    (by simp; omega) (by simp; omega) hij
  simpa using hpair

theorem starts_le_last (h : t.WellFormed) {i : Nat} (hi : i < t.starts.size) :
    t.starts[i] ≤ t.starts[t.starts.size - 1] := by
  have hsentinel := h.sentinel_start
  rcases Nat.lt_trichotomy i (t.starts.size - 2) with hlt | rfl | hgt
  · exact UInt32.le_trans (UInt32.le_of_lt (starts_lt h hlt (by omega))) hsentinel
  · exact hsentinel
  · have hlast : i = t.starts.size - 1 := by omega
    subst hlast
    exact UInt32.le_refl _

theorem WellFormed.ascends (h : t.WellFormed) : Ascends t.starts := by
  intro i j hij hj
  by_cases hlast : j + 1 < t.starts.size
  · exact UInt32.le_of_lt (starts_lt h hij hlast)
  · have heq : j = t.starts.size - 1 := by omega
    subst heq
    exact starts_le_last h (by omega)

theorem countUpTo_of_nearest (h : t.WellFormed) {c : CodePoint} {i : Nat}
    (hi : i + 1 < t.starts.size) (hle : t.starts[i] ≤ c)
    (hnext : ∀ j (hj : j + 1 < t.starts.size), i < j → c < t.starts[j]) :
    countUpTo t.starts c = i + 1 ∨
      i + 2 = t.starts.size ∧ countUpTo t.starts c = t.starts.size := by
  have hsize := countUpTo_le_size h.ascends c
  obtain ⟨hbelow, habove⟩ := countUpTo_parts h.ascends c
  have hafter : i < countUpTo t.starts c := by
    by_contra hge
    exact UInt32.lt_irrefl _ (UInt32.lt_of_le_of_lt hle (habove i (by omega) (by omega)))
  have hbound : ∀ j, i < j → j + 1 < t.starts.size → countUpTo t.starts c ≤ j := by
    intro j hij hj
    by_contra hlt
    exact UInt32.lt_irrefl _
      (UInt32.lt_of_lt_of_le (hnext j hj hij) (hbelow j (by omega) (by omega)))
  by_cases hlast : i + 2 = t.starts.size
  · omega
  · have := hbound (i + 1) (by omega) (by omega)
    omega

end RunTable

namespace Classifier

variable (k : Classifier) {c : CodePoint} {r : Run}

def runs : List Run := k.table.runs

theorem get?_of_inside (hfirst : k.firstCode ≤ c) (hlast : c ≤ k.lastCode) :
    k.get? c = k.table.roles[RunTable.countUpTo k.table.starts c - 1]? := by
  rw [get?, if_neg]
  rintro (h | h)
  · exact UInt32.not_lt.2 hfirst h
  · exact UInt32.not_lt.2 hlast h

theorem firstCode_le_of_mem (hr : r ∈ k.runs) : k.firstCode ≤ r.start := by
  obtain ⟨i, hi, hrole, rfl⟩ := (RunTable.mem_runs_iff k.sound r).1 hr
  rcases Nat.eq_zero_or_pos i with rfl | hpos
  · exact UInt32.le_refl _
  · exact UInt32.le_of_lt (RunTable.starts_lt k.sound hpos hi)

theorem first_mem_runs : ∃ r ∈ k.runs, r.start = k.firstCode := by
  have htwo := k.sound.two_le
  have heven := k.sound.even
  exact ⟨_, (RunTable.mem_runs_iff k.sound _).2 ⟨0, by omega, by omega, rfl⟩, rfl⟩

theorem get?_of_nearest (hr : Nearest Run.start (· ∈ k.runs) c r) (hc : c ≤ k.lastCode) :
    k.get? c = some r.role := by
  have hfirst := UInt32.le_trans (k.firstCode_le_of_mem hr.holds) hr.le
  obtain ⟨i, hi, hrole, rfl⟩ := (RunTable.mem_runs_iff k.sound r).1 hr.holds
  have heven := k.sound.even
  have hnext : ∀ j (hj : j + 1 < k.table.starts.size), i < j → c < k.table.starts[j] := by
    intro j hj hij
    by_contra hge
    have hmem := (RunTable.mem_runs_iff k.sound _).2 ⟨j, hj, by omega, rfl⟩
    exact UInt32.lt_irrefl _ (UInt32.lt_of_lt_of_le (RunTable.starts_lt k.sound hij hj)
      (hr.greatest _ hmem (UInt32.not_lt.1 hge)))
  rw [k.get?_of_inside hfirst hc]
  rcases RunTable.countUpTo_of_nearest k.sound hi hr.le hnext with hcount | ⟨hlast, hcount⟩
  · rw [hcount, Nat.add_sub_cancel, Array.getElem?_eq_getElem (by omega)]
  · -- the search ends on the sentinel, which has the role of run `i`
    have hsentinel := k.sound.sentinel_role
    have hi' : i = k.table.roles.size - 2 := by omega
    subst hi'
    have hplace : k.table.starts.size - 1 = k.table.roles.size - 1 := by omega
    rw [hcount, hplace, Array.getElem?_eq_getElem (by omega)]
    exact congrArg some hsentinel.symm

theorem exists_nearest_run (hfirst : k.firstCode ≤ c) :
    ∃ r, Nearest Run.start (· ∈ k.runs) c r := by
  obtain ⟨r, hr, hstart⟩ := k.first_mem_runs
  exact Nearest.exists_of_mem hr (hstart ▸ hfirst)

theorem get?_eq_none_iff : k.get? c = none ↔ c < k.firstCode ∨ k.lastCode < c := by
  constructor
  · intro hnone
    by_contra hinside
    obtain ⟨hfirst, hlast⟩ := not_or.1 hinside
    obtain ⟨r, hr⟩ := k.exists_nearest_run (UInt32.not_lt.1 hfirst)
    rw [k.get?_of_nearest hr (UInt32.not_lt.1 hlast)] at hnone
    cases hnone
  · intro houtside
    rw [get?, if_pos houtside]

theorem lookup_of_get? {role : Role} (h : k.get? c = some role) : k.lookup c = role := by
  rw [lookup, h, Option.getD_some]

theorem lookup_of_none (h : k.get? c = none) : k.lookup c = .other := by
  rw [lookup, h, Option.getD_none]

end Classifier
end CodeRuns
