import CodeRuns.Proofs.RunTable.Records
import Mathlib.Data.List.Infix
import Mathlib.Data.List.Sort

/-! Where the answers of a classifier change. The runs that change the role of the run before
them, together with the two ends, say all that a classifier answers, and they can be told from
its answers alone: a code point is a change where its answer differs from the one just before. -/

namespace CodeRuns

namespace RunTable

variable {rs : List Run} {r before : Run}

def changesAfter (before : Run) : List Run → List Run
  | [] => []
  | r :: rest =>
    if r.role = before.role then changesAfter r rest else r :: changesAfter r rest

def changes : List Run → List Run
  | [] => []
  | r :: rest => r :: changesAfter r rest

theorem mem_changesAfter_iff :
    r ∈ changesAfter before rs ↔ ∃ a, [a, r] <:+: before :: rs ∧ a.role ≠ r.role := by
  induction rs generalizing before with
  | nil => simp [changesAfter, List.infix_cons_iff]
  | cons e rest ih =>
    have hpairs (a : Run) : [a, r] <:+: before :: e :: rest ↔
        (a = before ∧ r = e) ∨ [a, r] <:+: e :: rest := by
      rw [List.infix_cons_iff, List.cons_prefix_cons, List.cons_prefix_cons]
      simp
    simp only [hpairs, changesAfter]
    by_cases hsame : e.role = before.role
    · rw [if_pos hsame, ih]
      constructor
      · rintro ⟨a, hpair, hrole⟩
        exact ⟨a, .inr hpair, hrole⟩
      · rintro ⟨a, ⟨rfl, rfl⟩ | hpair, hrole⟩
        · exact absurd hsame.symm hrole
        · exact ⟨a, hpair, hrole⟩
    · rw [if_neg hsame, List.mem_cons, ih]
      constructor
      · rintro (rfl | ⟨a, hpair, hrole⟩)
        · exact ⟨before, .inl ⟨rfl, rfl⟩, Ne.symm hsame⟩
        · exact ⟨a, .inr hpair, hrole⟩
      · rintro ⟨a, ⟨rfl, rfl⟩ | hpair, hrole⟩
        · exact .inl rfl
        · exact .inr ⟨a, hpair, hrole⟩

theorem mem_changes_iff :
    r ∈ changes rs ↔ [r] <+: rs ∨ ∃ a, [a, r] <:+: rs ∧ a.role ≠ r.role := by
  cases rs with
  | nil => simp [changes]
  | cons e rest =>
    rw [changes, List.mem_cons, mem_changesAfter_iff, List.cons_prefix_cons]
    simp

theorem changesAfter_sublist (before : Run) (rs : List Run) :
    (changesAfter before rs).Sublist rs := by
  induction rs generalizing before with
  | nil => exact List.Sublist.refl _
  | cons r rest ih =>
    rw [changesAfter]
    split
    · exact (ih r).cons _
    · exact (ih r).cons_cons _

theorem changes_sublist (rs : List Run) : (changes rs).Sublist rs := by
  cases rs with
  | nil => exact List.Sublist.refl _
  | cons r rest => exact (changesAfter_sublist r rest).cons_cons _

end RunTable

namespace Classifier

open RunTable

variable {k k' : Classifier} {a r : Run} {b c : CodePoint} {role : Role}

theorem runs_pairwise (k : Classifier) : k.runs.Pairwise fun a b => a.start < b.start := by
  have hsound := k.sound
  obtain ⟨front, last, sentinel, htable⟩ := hsound.exists_eq_ofRecords
  rw [htable, wellFormed_ofRecords_iff] at hsound
  have hrecords : front ++ [last, sentinel] = (front ++ [last]) ++ [sentinel] := by simp
  rw [runs, htable, hrecords, runs_ofRecords]
  exact hsound.1

theorem start_le_lastCode (hr : r ∈ k.runs) : r.start ≤ k.lastCode := by
  obtain ⟨i, hi, hrole, rfl⟩ := (mem_runs_iff k.sound r).1 hr
  exact starts_le_last k.sound (Nat.lt_of_succ_lt hi)

theorem get?_of_mem (hr : r ∈ k.runs) : k.get? r.start = some r.role :=
  k.get?_of_nearest (Nearest.self hr) (start_le_lastCode hr)

theorem get?_of_precedes (hpair : [a, r] <:+: k.runs) (hb : b.toNat + 1 = r.start.toNat) :
    k.get? b = some a.role := by
  obtain ⟨front, rest, hruns⟩ := hpair
  have hasc := k.runs_pairwise
  rw [← hruns, List.append_assoc, List.pairwise_append, List.cons_append, List.pairwise_cons,
    List.cons_append, List.pairwise_cons] at hasc
  obtain ⟨-, ⟨hafter, hrest, -⟩, hfront⟩ := hasc
  have hnearest : Nearest Run.start (· ∈ k.runs) b a := by
    have har : a.start.toNat < r.start.toNat := hafter r List.mem_cons_self
    have hab : a.start.toNat ≤ b.toNat := by omega
    refine ⟨by rw [← hruns]; simp, hab, fun y hy hyb => ?_⟩
    have hbelow : y.start.toNat < r.start.toNat := by
      have hle : y.start.toNat ≤ b.toNat := hyb
      omega
    rw [← hruns] at hy
    simp only [List.append_assoc, List.cons_append, List.nil_append, List.mem_append,
      List.mem_cons] at hy
    rcases hy with hy | rfl | rfl | hy
    · exact UInt32.le_of_lt (hfront y hy a List.mem_cons_self)
    · exact UInt32.le_refl _
    · exact absurd hbelow (Nat.lt_irrefl _)
    · exact absurd (hrest y hy) (Nat.lt_asymm hbelow)
  have hmem : r ∈ k.runs := by
    rw [← hruns]
    simp
  have hlast : r.start.toNat ≤ k.lastCode.toNat := start_le_lastCode hmem
  exact k.get?_of_nearest hnearest (UInt32.le_iff_toNat_le.2 (by omega))

/-- The answer begins with the role at the start of the run: just before it there is another
answer or none. -/
def ChangesAt (k : Classifier) (r : Run) : Prop :=
  k.get? r.start = some r.role ∧ ∀ b : CodePoint, b.toNat + 1 = r.start.toNat → k.get? b ≠ some r.role

theorem start_of_first (hfirst : [r] <+: k.runs) : r.start = k.firstCode := by
  obtain ⟨rest, hruns⟩ := hfirst
  have hasc := k.runs_pairwise
  rw [← hruns, List.singleton_append, List.pairwise_cons] at hasc
  have hmem : r ∈ k.runs := by
    rw [← hruns]
    simp
  obtain ⟨s, hs, hstart⟩ := k.first_mem_runs
  rw [← hruns, List.singleton_append, List.mem_cons] at hs
  rcases hs with rfl | hs
  · exact hstart
  · have hlt := hasc.1 s hs
    rw [hstart] at hlt
    exact absurd (k.firstCode_le_of_mem hmem) (UInt32.not_le.2 hlt)

theorem exists_pred (h : b < c) : ∃ d : CodePoint, d.toNat + 1 = c.toNat := by
  have hlt : b.toNat < c.toNat := h
  have hsmall := c.toNat_lt_size
  exact ⟨UInt32.ofNat (c.toNat - 1), by rw [UInt32.toNat_ofNat_of_lt' (by omega)]; omega⟩

theorem ChangesAt.mem_runs (h : k.ChangesAt r) : r ∈ k.runs := by
  obtain ⟨hget, hbefore⟩ := h
  have hcovered : ¬ (r.start < k.firstCode ∨ k.lastCode < r.start) := by
    rw [← k.get?_eq_none_iff, hget]
    exact Option.some_ne_none _
  obtain ⟨hfirst, hlast⟩ := not_or.1 hcovered
  obtain ⟨s, hs⟩ := k.exists_nearest_run (UInt32.not_lt.1 hfirst)
  have hrole : s.role = r.role := by
    rw [k.get?_of_nearest hs (UInt32.not_lt.1 hlast)] at hget
    exact Option.some.inj hget
  by_cases hstart : s.start = r.start
  · have hsame : s = r := by
      obtain ⟨_, _⟩ := s
      obtain ⟨_, _⟩ := r
      exact congrArg₂ Run.mk hstart hrole
    exact hsame ▸ hs.holds
  · -- an earlier run that answers here answers just before, too
    have hlt : s.start.toNat < r.start.toNat := UInt32.lt_of_le_of_ne hs.le hstart
    obtain ⟨b, hb⟩ := exists_pred (UInt32.lt_of_le_of_ne hs.le hstart)
    have hbr : b.toNat ≤ r.start.toNat := by omega
    have hsb : s.start.toNat ≤ b.toNat := by omega
    have hnearest : Nearest Run.start (· ∈ k.runs) b s :=
      ⟨hs.holds, hsb, fun y hy hyb => hs.greatest y hy (UInt32.le_trans hyb hbr)⟩
    have hinside : b ≤ k.lastCode := UInt32.le_trans hbr (UInt32.not_lt.1 hlast)
    have hanswer := k.get?_of_nearest hnearest hinside
    rw [hrole] at hanswer
    exact absurd hanswer (hbefore b hb)

theorem prefix_or_infix_of_mem {rs : List Run} (hr : r ∈ rs) :
    [r] <+: rs ∨ ∃ a, [a, r] <:+: rs := by
  obtain ⟨front, rest, rfl⟩ := List.append_of_mem hr
  rcases List.eq_nil_or_concat front with rfl | ⟨before, a, rfl⟩
  · exact .inl ⟨rest, rfl⟩
  · exact .inr ⟨a, before, rest, by simp⟩

theorem mem_changes_runs_iff : r ∈ changes k.runs ↔ k.ChangesAt r := by
  rw [mem_changes_iff]
  constructor
  · rintro (hfirst | ⟨a, hpair, hrole⟩)
    · refine ⟨get?_of_mem (hfirst.subset List.mem_cons_self), fun b hb hget => ?_⟩
      have hbelow : b.toNat < k.firstCode.toNat := by
        rw [← start_of_first hfirst]
        omega
      rw [k.get?_eq_none_iff.2 (.inl hbelow)] at hget
      cases hget
    · refine ⟨get?_of_mem (hpair.subset (by simp)), fun b hb hget => hrole ?_⟩
      rw [get?_of_precedes hpair hb] at hget
      exact Option.some.inj hget
  · intro hchange
    rcases prefix_or_infix_of_mem hchange.mem_runs with hfirst | ⟨a, hpair⟩
    · exact .inl hfirst
    · refine .inr ⟨a, hpair, fun hrole => ?_⟩
      have hasc := k.runs_pairwise.sublist hpair.sublist
      obtain ⟨b, hb⟩ := exists_pred ((List.pairwise_cons.1 hasc).1 r List.mem_cons_self)
      have hanswer := get?_of_precedes hpair hb
      rw [hrole] at hanswer
      exact hchange.2 b hb hanswer

theorem eq_none_of_ends (hfirst : k.firstCode = k'.firstCode) (hlast : k.lastCode = k'.lastCode) :
    k.get? c = none ↔ k'.get? c = none := by
  rw [k.get?_eq_none_iff, k'.get?_eq_none_iff, hfirst, hlast]

theorem get?_eq_of_changesAt (hfirst : k.firstCode = k'.firstCode)
    (hlast : k.lastCode = k'.lastCode) (hchanges : ∀ r, k.ChangesAt r ↔ k'.ChangesAt r)
    (c : CodePoint) : k.get? c = k'.get? c := by
  induction hn : c.toNat using Nat.strong_induction_on generalizing c with
  | h n ih =>
    cases hget : k.get? c with
    | none => exact ((eq_none_of_ends hfirst hlast).1 hget).symm
    | some role =>
      obtain ⟨role', hget'⟩ : ∃ role', k'.get? c = some role' := by
        rw [← Option.ne_none_iff_exists', ne_eq, ← eq_none_of_ends hfirst hlast, hget]
        exact Option.some_ne_none role
      by_cases hchange : k.ChangesAt ⟨c, role⟩
      · exact ((hchanges _).1 hchange).1.symm
      · obtain ⟨b, hb, hbefore⟩ : ∃ b : CodePoint, b.toNat + 1 = c.toNat ∧ k.get? b = some role := by
          by_contra hnone
          exact hchange ⟨hget, fun b hb hbefore => hnone ⟨b, hb, hbefore⟩⟩
        have hbefore' : k'.get? b = some role := by rw [← ih b.toNat (by omega) b rfl, hbefore]
        by_contra hdiffer
        rw [hget'] at hdiffer
        have hchange' : k'.ChangesAt ⟨c, role'⟩ := by
          refine ⟨hget', fun d hd hanswer => hdiffer ?_⟩
          have hsame : d = b := UInt32.toNat_inj.1 (by simp only at hd; omega)
          rw [hsame, hbefore'] at hanswer
          exact hanswer
        have hanswer := ((hchanges _).2 hchange').1
        rw [hget] at hanswer
        exact hdiffer hanswer

theorem firstCode_le_lastCode (k : Classifier) : k.firstCode ≤ k.lastCode := by
  obtain ⟨r, hr, hstart⟩ := k.first_mem_runs
  exact hstart ▸ start_le_lastCode hr

theorem ends_within (h : ∀ c, k.get? c = k'.get? c) :
    k'.firstCode ≤ k.firstCode ∧ k.lastCode ≤ k'.lastCode := by
  have hcovered {c : CodePoint} (hc : ¬ (c < k.firstCode ∨ k.lastCode < c)) :
      ¬ (c < k'.firstCode ∨ k'.lastCode < c) := by
    rwa [← k'.get?_eq_none_iff, ← h, k.get?_eq_none_iff]
  have hends := UInt32.not_lt.2 k.firstCode_le_lastCode
  have hfirst := hcovered (not_or.2 ⟨UInt32.lt_irrefl k.firstCode, hends⟩)
  have hlast := hcovered (not_or.2 ⟨hends, UInt32.lt_irrefl k.lastCode⟩)
  exact ⟨UInt32.not_lt.1 (not_or.1 hfirst).1, UInt32.not_lt.1 (not_or.1 hlast).2⟩

/-- Two classifiers answer alike exactly when they cover the same code points and have the same
changes of role. -/
theorem get?_ext_iff (k k' : Classifier) : (∀ c, k.get? c = k'.get? c) ↔
    k.firstCode = k'.firstCode ∧ k.lastCode = k'.lastCode ∧
      changes k.runs = changes k'.runs := by
  constructor
  · intro h
    have hwithin := ends_within h
    have hwithin' := ends_within fun c => (h c).symm
    refine ⟨UInt32.le_antisymm hwithin'.1 hwithin.1, UInt32.le_antisymm hwithin.2 hwithin'.2, ?_⟩
    have : Std.Antisymm fun a b : Run => a.start < b.start :=
      ⟨fun _ _ hab hba => absurd hba (UInt32.not_lt.2 (UInt32.le_of_lt hab))⟩
    have : Std.Irrefl fun a b : Run => a.start < b.start := ⟨fun _ => UInt32.lt_irrefl _⟩
    refine List.Pairwise.eq_of_mem_iff (k.runs_pairwise.sublist (changes_sublist _))
      (k'.runs_pairwise.sublist (changes_sublist _)) fun r => ?_
    rw [mem_changes_runs_iff, mem_changes_runs_iff, ChangesAt, ChangesAt]
    simp only [h]
  · rintro ⟨hfirst, hlast, hchanges⟩ c
    refine get?_eq_of_changesAt hfirst hlast (fun r => ?_) c
    rw [← mem_changes_runs_iff, ← mem_changes_runs_iff, hchanges]

end Classifier
end CodeRuns
