import CodeRuns.RunTable.Stats
import CodeRuns.Proofs.RunTable.Records
import Mathlib.Algebra.BigOperators.Group.List.Lemmas
import Mathlib.Algebra.GroupWithZero.Nat

/-! The numbers about a table. With two lists of one length they are numbers about its runs; the
counts of the roles that occur have each of these roles once and come to the number of runs, and
ranking them only changes their order. So each role that occurs is reported once and under its own
count, whatever the order in which the counts were kept. -/

namespace CodeRuns.RunTable

variable {t : RunTable} {roles : List Role} {r : Role} {n : Nat}

theorem runRoles_eq (heven : t.starts.size = t.roles.size) : t.runRoles = t.runs.map Run.role := by
  rw [runRoles, runs, List.map_dropLast, map_role_records heven]

theorem stats_runs (heven : t.starts.size = t.roles.size) : t.stats.runs = t.runs.length := by
  show t.runRoles.length = t.runs.length
  rw [runRoles_eq heven, List.length_map]

theorem stats_repeated (heven : t.starts.size = t.roles.size) :
    t.stats.repeated = repeats (t.runs.map Run.role) := by
  show repeats t.runRoles = repeats (t.runs.map Run.role)
  rw [runRoles_eq heven]

theorem lookup_countOne (counts : List (Role × Nat)) (r s : Role) :
    (countOne counts r).lookup s =
      if s = r then some ((counts.lookup r).getD 0 + 1) else counts.lookup s := by
  induction counts with
  | nil => by_cases hs : s = r <;> simp [countOne, hs]
  | cons p rest ih =>
    obtain ⟨key, n⟩ := p
    rw [countOne]
    by_cases hkey : key = r
    · subst hkey
      by_cases hs : s = key <;> simp [List.lookup_cons, hs, beq_eq_false_iff_ne.2]
    · have hother : (r == key) = false := beq_eq_false_iff_ne.2 (Ne.symm hkey)
      rw [if_neg hkey, List.lookup_cons, List.lookup_cons, List.lookup_cons, ih, hother]
      by_cases hs : s = r
      · simp [hs, hother]
      · simp [hs]

theorem lookup_foldl_countOne (roles : List Role) (counts : List (Role × Nat)) (r : Role) :
    (roles.foldl countOne counts).lookup r =
      if r ∈ roles then some ((counts.lookup r).getD 0 + roles.count r)
      else counts.lookup r := by
  induction roles generalizing counts with
  | nil => simp
  | cons s rest ih =>
    rw [List.foldl_cons, ih, lookup_countOne]
    by_cases hs : r = s
    · subst hs
      by_cases hlater : r ∈ rest
      · simp [hlater]
        omega
      · simp [hlater, List.count_eq_zero_of_not_mem]
    · simp [hs, Ne.symm hs]

theorem tally_eq (roles : List Role) :
    tally roles = (rolesByName.filter (· ∈ roles)).map fun r => (r, roles.count r) := by
  unfold tally byName
  rw [← List.filterMap_eq_map, List.filterMap_filter]
  refine List.filterMap_congr fun r _ => ?_
  rw [lookup_foldl_countOne]
  by_cases hr : r ∈ roles <;> simp [hr]

theorem mem_tally_iff : (r, n) ∈ tally roles ↔ n = roles.count r ∧ 0 < n := by
  have hnamed : r ∈ rolesByName := rolesByName_perm.symm.subset (Role.mem_all r)
  rw [tally_eq, List.mem_map]
  constructor
  · rintro ⟨s, hs, hpair⟩
    obtain ⟨rfl, rfl⟩ := Prod.mk.inj hpair
    have hs : s ∈ roles := by simpa using (List.mem_filter.1 hs).2
    exact ⟨rfl, List.count_pos_iff.2 hs⟩
  · rintro ⟨rfl, hpos⟩
    have hr : r ∈ roles := List.count_pos_iff.1 hpos
    exact ⟨r, List.mem_filter.2 ⟨hnamed, by simpa using hr⟩, rfl⟩

theorem map_fst_tally (roles : List Role) :
    (tally roles).map Prod.fst = rolesByName.filter (· ∈ roles) := by
  rw [tally_eq, List.map_map]
  exact List.map_id _

theorem nodup_rolesByName : rolesByName.Nodup := by decide

theorem nodup_map_fst_tally (roles : List Role) : ((tally roles).map Prod.fst).Nodup := by
  rw [map_fst_tally]
  exact nodup_rolesByName.filter _

theorem sum_map_snd_tally (roles : List Role) :
    ((tally roles).map Prod.snd).sum = roles.length := by
  have hoccur : (rolesByName.filter (· ∈ roles)).Perm roles.dedup := by
    refine (List.perm_ext_iff_of_nodup (nodup_rolesByName.filter _) roles.nodup_dedup).2 fun r => ?_
    have hnamed : r ∈ rolesByName := rolesByName_perm.symm.subset (Role.mem_all r)
    simp [hnamed]
  have hsum : (tally roles).map Prod.snd =
      (rolesByName.filter (· ∈ roles)).map (roles.count ·) := by
    rw [tally_eq, List.map_map]
    rfl
  rw [hsum, (hoccur.map _).sum_eq]
  exact List.sum_map_count_dedup_eq_length roles

theorem mem_tally_iff_mem : (r, n) ∈ tally roles ↔ r ∈ roles ∧ n = roles.count r := by
  rw [mem_tally_iff, ← List.count_pos_iff]
  constructor
  · rintro ⟨rfl, hpos⟩
    exact ⟨hpos, rfl⟩
  · rintro ⟨hpos, rfl⟩
    exact ⟨rfl, hpos⟩

theorem count_tally (roles : List Role) (r : Role) (n : Nat) :
    (tally roles).count (r, n) = if r ∈ roles ∧ n = roles.count r then 1 else 0 := by
  rw [(nodup_map_fst_tally roles).of_map.count]
  exact if_congr mem_tally_iff_mem rfl rfl

theorem repeats_eq_countP (roles : List Role) :
    repeats roles = (roles.zip roles.tail).countP fun p => p.1 = p.2 := by
  induction roles with
  | nil => rfl
  | cons a rest ih =>
    cases rest with
    | nil => rfl
    | cons b rest =>
      rw [repeats, ih, List.tail_cons, List.tail_cons, List.zip_cons_cons, List.countP_cons,
        Nat.add_comm]
      simp

theorem repeats_le (roles : List Role) : repeats roles ≤ roles.length - 1 := by
  rw [repeats_eq_countP]
  calc (roles.zip roles.tail).countP (fun p => p.1 = p.2)
      ≤ (roles.zip roles.tail).length := List.countP_le_length
    _ = roles.length - 1 := by simp

theorem Stats.ranked_perm (s : Stats) : s.ranked.Perm s.counts := List.mergeSort_perm _ _

theorem Stats.ranked_pairwise (s : Stats) : s.ranked.Pairwise fun a b => b.2 ≤ a.2 := by
  have htrans (a b c : Role × Nat) (hab : decide (b.2 ≤ a.2) = true)
      (hbc : decide (c.2 ≤ b.2) = true) : decide (c.2 ≤ a.2) = true :=
    decide_eq_true (Nat.le_trans (of_decide_eq_true hbc) (of_decide_eq_true hab))
  have htotal (a b : Role × Nat) : (decide (b.2 ≤ a.2) || decide (a.2 ≤ b.2)) = true := by
    simpa using Nat.le_total b.2 a.2
  exact (List.pairwise_mergeSort htrans htotal s.counts).imp of_decide_eq_true

/-- The numbers about any two lists and the report on them. The roles but the last are counted, each
under its own key, and the neighbours that are alike; the report has a summary and then one event
for each key with its count, the greatest count first. The counts may be kept in any order. -/
theorem each_role_reported_once {t : RunTable} {order : List (Role × Nat)}
    (horder : order.Perm t.stats.counts) :
    (∀ r n, (r, n) ∈ t.stats.counts ↔ r ∈ t.runRoles ∧ n = t.runRoles.count r) ∧
      (t.stats.counts.map Prod.fst).Nodup ∧
      (t.stats.counts.map Prod.snd).sum = t.stats.runs ∧
      t.stats.runs = t.roles.size - 1 ∧
      t.stats.repeated = (t.runRoles.zip t.runRoles.tail).countP (fun p => p.1 = p.2) ∧
      t.stats.repeated ≤ t.stats.runs - 1 ∧
      ∃ ranked : List (Role × Nat),
        { t.stats with counts := order }.events =
          .tableSize t.stats.runs t.stats.bytes t.stats.repeated ::
            ranked.map (fun p => .roleRuns p.1 p.2) ∧
        ranked.Pairwise (fun a b => b.2 ≤ a.2) ∧
        ∀ r n, ranked.count (r, n) = if r ∈ t.runRoles ∧ n = t.runRoles.count r then 1 else 0 := by
  refine ⟨fun r n => mem_tally_iff_mem, nodup_map_fst_tally t.runRoles,
    sum_map_snd_tally t.runRoles, ?_, repeats_eq_countP t.runRoles, repeats_le t.runRoles,
    Stats.ranked { t.stats with counts := order }, rfl, Stats.ranked_pairwise _, fun r n => ?_⟩
  · show t.roles.toList.dropLast.length = t.roles.size - 1
    rw [List.length_dropLast, Array.length_toList]
  · rw [(Stats.ranked_perm _).count_eq, horder.count_eq]
    exact count_tally t.runRoles r n

def crowded : RunTable where
  starts := #[0x30]
  roles := #[.identifierPart, .identifierPart, .other, .identifierStart, .other, .whitespace]

theorem each_role_reported_once_crowded :
    [(.other, 2), (.identifierStart, 1), (.identifierPart, 2)].Perm crowded.stats.counts ∧
    ∃ ranked : List (Role × Nat),
      { crowded.stats with
          counts := [(.other, 2), (.identifierStart, 1), (.identifierPart, 2)] }.events =
        .tableSize 5 10 1 :: ranked.map (fun p => .roleRuns p.1 p.2) ∧
      ranked.Pairwise (fun a b => b.2 ≤ a.2) ∧
      ranked.count (.other, 2) = 1 ∧ ranked.count (.whitespace, 1) = 0 := by
  have horder : [(.other, 2), (.identifierStart, 1), (.identifierPart, 2)].Perm
      crowded.stats.counts := by decide
  obtain ⟨-, -, -, -, -, -, ranked, hevents, hsorted, hcount⟩ := each_role_reported_once horder
  refine ⟨horder, ranked, hevents, hsorted, ?_, ?_⟩
  · rw [hcount]
    rfl
  · rw [hcount]
    rfl

end CodeRuns.RunTable
