import CodeRuns.Proofs.Classifier.Changes
import CodeRuns.Proofs.RunTable.Stats

/-! Tables with as few runs as their answers allow. A run that repeats the role of the run before
it can be left out and the run before it answers in its place; the sentinel still has the role of
the last run that is left. What remains are the changes of the answers, one run each, so no table
that answers alike has fewer. -/

namespace CodeRuns

namespace RunTable

variable {t : RunTable} {rs : List Run} {r before : Run}

def turning (rs : List Run) : List Run :=
  ((rs.zip rs.tail).filter fun p => p.1.role ≠ p.2.role).map Prod.snd

/-- The table without the runs that repeat the role of the run before them. -/
def merged (t : RunTable) : RunTable := ofRecords (changes t.runs ++ t.sentinel?.toList)

theorem turning_cons (before : Run) (rs : List Run) :
    turning (before :: rs) = changesAfter before rs := by
  induction rs generalizing before with
  | nil => rfl
  | cons r rest ih =>
    have hlater := ih r
    unfold turning at hlater ⊢
    rw [changesAfter, ← hlater]
    by_cases hsame : r.role = before.role
    · simp [hsame]
    · simp [hsame, Ne.symm hsame]

theorem changes_eq_append (rs : List Run) : changes rs = rs.head?.toList ++ turning rs := by
  cases rs with
  | nil => rfl
  | cons r rest => exact congrArg (r :: ·) (turning_cons r rest).symm

theorem mem_turning_iff : r ∈ turning rs ↔ ∃ a, [a, r] <:+: rs ∧ a.role ≠ r.role := by
  cases rs with
  | nil => simp [turning]
  | cons before rest => rw [turning_cons, mem_changesAfter_iff]

theorem turning_sublist (rs : List Run) : (turning rs).Sublist rs := by
  cases rs with
  | nil => exact List.Sublist.refl _
  | cons before rest =>
    rw [turning_cons]
    exact (changesAfter_sublist before rest).cons _

theorem length_changesAfter_add_repeats (before : Run) (rs : List Run) :
    (changesAfter before rs).length + repeats ((before :: rs).map Run.role) = rs.length := by
  induction rs generalizing before with
  | nil => rfl
  | cons r rest ih =>
    have hlater := ih r
    rw [List.map_cons] at hlater
    rw [List.map_cons, List.map_cons, repeats, changesAfter]
    by_cases hsame : r.role = before.role
    · rw [if_pos hsame, if_pos hsame.symm, List.length_cons]
      omega
    · rw [if_neg hsame, if_neg (Ne.symm hsame), List.length_cons, List.length_cons]
      omega

theorem length_changes_add_repeats (rs : List Run) :
    (changes rs).length + repeats (rs.map Run.role) = rs.length := by
  cases rs with
  | nil => rfl
  | cons before rest =>
    have hlater := length_changesAfter_add_repeats before rest
    rw [changes, List.length_cons, List.length_cons]
    omega

theorem changesAfter_changesAfter (hrole : r.role = before.role) (rs : List Run) :
    changesAfter r (changesAfter before rs) = changesAfter before rs := by
  induction rs generalizing r before with
  | nil => rfl
  | cons e rest ih =>
    rw [changesAfter]
    by_cases hsame : e.role = before.role
    · rw [if_pos hsame]
      exact ih (hrole.trans hsame.symm)
    · rw [if_neg hsame, changesAfter, hrole, if_neg hsame, ih rfl]

theorem changes_changes (rs : List Run) : changes (changes rs) = changes rs := by
  cases rs with
  | nil => rfl
  | cons before rest => exact congrArg (before :: ·) (changesAfter_changesAfter rfl rest)

theorem exists_last_changesAfter (hrole : r.role = before.role) (rs : List Run) :
    ∃ front last, r :: changesAfter before rs = front ++ [last] ∧
      ∃ old ∈ (before :: rs).getLast?, last.role = old.role := by
  induction rs generalizing r before with
  | nil => exact ⟨[], r, rfl, before, rfl, hrole⟩
  | cons e rest ih =>
    rw [changesAfter, List.getLast?_cons_cons]
    by_cases hsame : e.role = before.role
    · rw [if_pos hsame]
      exact ih (hrole.trans hsame.symm)
    · rw [if_neg hsame]
      obtain ⟨front, last, hfront, hlast⟩ := ih (r := e) rfl
      exact ⟨r :: front, last, by rw [hfront, List.cons_append], hlast⟩

theorem exists_last_change (rs : List Run) (old : Run) : ∃ front last,
    changes (rs ++ [old]) = front ++ [last] ∧ last.role = old.role := by
  obtain ⟨first, rest, hrs⟩ := List.exists_cons_of_ne_nil (List.concat_ne_nil old rs)
  obtain ⟨front, last, hfront, found, hfound, hrole⟩ :=
    exists_last_changesAfter (r := first) rfl rest
  rw [← hrs, List.getLast?_concat] at hfound
  cases hfound
  refine ⟨front, last, ?_, hrole⟩
  rw [hrs]
  exact hfront

theorem length_changes_runs (heven : t.starts.size = t.roles.size) :
    (changes t.runs).length + t.stats.repeated = t.stats.runs := by
  rw [stats_runs heven, stats_repeated heven]
  exact length_changes_add_repeats t.runs

theorem WellFormed.exists_merged (h : t.WellFormed) : ∃ front last sentinel,
    changes t.runs = front ++ [last] ∧ t.sentinel? = some sentinel ∧
      t.merged = ofRecords (front ++ [last, sentinel]) ∧ t.merged.WellFormed := by
  obtain ⟨before, old, sentinel, htable⟩ := h.exists_eq_ofRecords
  have hruns : t.runs = before ++ [old] := by rw [htable, runs_ofRecords_two]
  have hsentinel : t.sentinel? = some sentinel := by rw [htable, sentinel?_ofRecords_two]
  obtain ⟨hasc, hstart, hrole⟩ := wellFormed_ofRecords_iff.1 (htable ▸ h)
  obtain ⟨front, last, hchanges, hkept⟩ := exists_last_change before old
  have hsub : (front ++ [last]).Sublist (before ++ [old]) := hchanges ▸ changes_sublist _
  have hlast : last ∈ before ++ [old] := hsub.subset (by simp)
  have hle : last.start ≤ old.start := by
    have hweak : (before ++ [old]).Pairwise fun a b => a.start ≤ b.start :=
      hasc.imp UInt32.le_of_lt
    simpa using hweak.rel_getLast_of_rel_getLast_getLast hlast (UInt32.le_refl _)
  have hmerged : t.merged = ofRecords (front ++ [last, sentinel]) := by
    rw [merged, hruns, hchanges, hsentinel, Option.toList_some, List.append_assoc,
      List.singleton_append]
  refine ⟨front, last, sentinel, by rw [hruns, hchanges], hsentinel, hmerged, ?_⟩
  rw [hmerged, wellFormed_ofRecords_iff]
  exact ⟨hasc.sublist hsub, UInt32.le_trans hle hstart, hkept.trans hrole⟩

theorem WellFormed.merged (h : t.WellFormed) : t.merged.WellFormed := by
  obtain ⟨-, -, -, -, -, -, hmerged⟩ := h.exists_merged
  exact hmerged

theorem WellFormed.runs_merged (h : t.WellFormed) : t.merged.runs = changes t.runs := by
  obtain ⟨front, last, sentinel, hchanges, -, hmerged, -⟩ := h.exists_merged
  rw [hmerged, runs_ofRecords_two, hchanges]

end RunTable

namespace Classifier

open RunTable

variable {k k' : Classifier} {a r : Run} {c : CodePoint}

theorem exists_first_run (k : Classifier) : ∃ r, [r] <+: k.runs ∧ r.start = k.firstCode := by
  obtain ⟨s, hs, -⟩ := k.first_mem_runs
  obtain ⟨r, rest, hruns⟩ := List.exists_cons_of_ne_nil (List.ne_nil_of_mem hs)
  have hfirst : [r] <+: k.runs := ⟨rest, hruns.symm⟩
  exact ⟨r, hfirst, start_of_first hfirst⟩

theorem lastCode_of_sentinel (h : k.table.sentinel? = some r) : k.lastCode = r.start := by
  obtain ⟨front, last, sentinel, htable⟩ := k.sound.exists_eq_ofRecords
  rw [htable, sentinel?_ofRecords_two] at h
  cases h
  simp [lastCode, htable, ofRecords]

theorem get?_of_merged (hk : k'.table = k.table.merged) (c : CodePoint) : k'.get? c = k.get? c := by
  obtain ⟨front, last, sentinel, -, hsentinel, hmerged, -⟩ := k.sound.exists_merged
  have hruns : k'.runs = changes k.runs := by
    rw [Classifier.runs, hk]
    exact k.sound.runs_merged
  have hlast : k'.lastCode = k.lastCode := by
    have hsentinel' : k'.table.sentinel? = some sentinel := by
      rw [hk, hmerged, sentinel?_ofRecords_two]
    rw [lastCode_of_sentinel hsentinel, lastCode_of_sentinel hsentinel']
  have hfirst : k'.firstCode = k.firstCode := by
    obtain ⟨r, ⟨rest, hrest⟩, hstart⟩ := k.exists_first_run
    have hprefix : [r] <+: k'.runs := by
      rw [hruns, ← hrest, List.singleton_append, changes]
      exact ⟨_, rfl⟩
    rw [← start_of_first hprefix, hstart]
  refine (get?_ext_iff k' k).2 ⟨hfirst, hlast, ?_⟩ c
  rw [hruns, changes_changes]

theorem toNat_pred {b : CodePoint} (h : b < c) : (c - 1).toNat + 1 = c.toNat := by
  have hlt : b.toNat < c.toNat := h
  have hone : (1 : CodePoint).toNat ≤ c.toNat := Nat.lt_of_le_of_lt (Nat.zero_le _) hlt
  rw [UInt32.toNat_sub_of_le c 1 hone]
  exact Nat.sub_add_cancel hone

theorem differs_of_turning (hr : r ∈ turning k.runs) : k.firstCode < r.start ∧
    r.start ≤ k.lastCode ∧ k.get? r.start ≠ k.get? (r.start - 1) := by
  obtain ⟨a, hpair, hrole⟩ := mem_turning_iff.1 hr
  have hmem : a ∈ k.runs ∧ r ∈ k.runs := ⟨hpair.subset (by simp), hpair.subset (by simp)⟩
  have hlt : a.start < r.start := by
    have hasc := k.runs_pairwise.sublist hpair.sublist
    exact (List.pairwise_cons.1 hasc).1 r List.mem_cons_self
  refine ⟨UInt32.lt_of_le_of_lt (k.firstCode_le_of_mem hmem.1) hlt, start_le_lastCode hmem.2, ?_⟩
  rw [get?_of_mem hmem.2, get?_of_precedes hpair (toNat_pred hlt)]
  exact fun hsame => hrole (Option.some.inj hsame).symm

theorem exists_turning_of_differs (hfirst : k.firstCode < c) (hlast : c ≤ k.lastCode)
    (hdiffers : k.get? c ≠ k.get? (c - 1)) : ∃ r ∈ turning k.runs, r.start = c := by
  obtain ⟨role, hget⟩ : ∃ role, k.get? c = some role := by
    rw [← Option.ne_none_iff_exists', ne_eq, k.get?_eq_none_iff]
    exact not_or.2 ⟨UInt32.not_lt.2 (UInt32.le_of_lt hfirst), UInt32.not_lt.2 hlast⟩
  have hchange : k.ChangesAt ⟨c, role⟩ := by
    refine ⟨hget, fun b hb hanswer => hdiffers ?_⟩
    have hsame : b = c - 1 := by
      rw [← UInt32.toNat_inj]
      exact Nat.succ.inj (hb.trans (toNat_pred hfirst).symm)
    rw [hget, ← hsame, hanswer]
  have hmem := mem_changes_runs_iff.2 hchange
  rw [mem_changes_iff] at hmem
  rcases hmem with hstarts | hturns
  · have hstart := start_of_first hstarts
    exact absurd hstart.symm (UInt32.ne_of_lt hfirst)
  · exact ⟨_, mem_turning_iff.2 hturns, rfl⟩

/-- The codes at which the answers change are the starts of the runs that turn, so there are as
many as the numbers about the table tell; the table that keeps no other run but the first answers
alike, and no table that answers alike has fewer runs. -/
theorem fewest_runs {t : RunTable} (hk : t.classifier = .ok k) :
    (∀ c, c ∈ (turning t.runs).map Run.start ↔
        k.firstCode < c ∧ c ≤ k.lastCode ∧ k.get? c ≠ k.get? (c - 1)) ∧
      ((turning t.runs).map Run.start).Pairwise (· < ·) ∧
      (turning t.runs).length + 1 + t.stats.repeated = t.stats.runs ∧
      (∃ k' : Classifier, t.merged.classifier = .ok k' ∧ (∀ c, k'.get? c = k.get? c) ∧
        t.merged.stats.runs + t.stats.repeated = t.stats.runs) ∧
      ∀ (t' : RunTable) (k' : Classifier), t'.classifier = .ok k' → (∀ c, k'.get? c = k.get? c) →
        t.stats.runs ≤ t'.stats.runs + t.stats.repeated := by
  obtain rfl := (classifier_eq_ok_iff t k).1 hk
  have hcount := length_changes_runs k.sound.even
  have hmerged := k.sound.merged
  refine ⟨fun c => ⟨?_, ?_⟩, ?_, ?_, ?_, ?_⟩
  · intro hc
    obtain ⟨r, hr, rfl⟩ := List.mem_map.1 hc
    exact differs_of_turning hr
  · rintro ⟨hfirst, hlast, hdiffers⟩
    exact List.mem_map.2 (exists_turning_of_differs hfirst hlast hdiffers)
  · exact List.pairwise_map.2 (k.runs_pairwise.sublist (turning_sublist k.runs))
  · obtain ⟨r, ⟨rest, hrest⟩, -⟩ := k.exists_first_run
    have hruns : k.table.runs = r :: rest := hrest.symm
    rw [← hcount, changes_eq_append, hruns, List.length_append, Nat.add_comm _ 1]
    rfl
  · have hk' : k.table.merged.classifier = .ok ⟨k.table.merged, hmerged⟩ :=
      (classifier_eq_ok_iff _ _).2 rfl
    refine ⟨_, hk', get?_of_merged rfl, ?_⟩
    rw [stats_runs hmerged.even, k.sound.runs_merged, hcount]
  · intro t' k' hk' hsame
    obtain rfl := (classifier_eq_ok_iff t' k').1 hk'
    have hchanges : changes k'.runs = changes k.runs := ((get?_ext_iff k' k).1 hsame).2.2
    have hle : (changes k'.runs).length ≤ k'.runs.length := (changes_sublist k'.runs).length_le
    rw [stats_runs k'.sound.even, ← hcount]
    rw [hchanges] at hle
    exact Nat.add_le_add_right hle _

def repeated : RunTable :=
  ofRecords [⟨0x30, .identifierPart⟩, ⟨0x33, .identifierPart⟩, ⟨0x41, .identifierStart⟩,
    ⟨0x5A, .identifierStart⟩, ⟨0x7A, .identifierStart⟩]

theorem fewest_runs_repeated : ∃ k k', repeated.classifier = .ok k ∧
    repeated.merged.classifier = .ok k' ∧
    repeated.merged.records = [⟨0x30, .identifierPart⟩, ⟨0x41, .identifierStart⟩,
      ⟨0x7A, .identifierStart⟩] ∧
    (∀ c, k'.get? c = k.get? c) ∧ k.get? 0x41 ≠ k.get? 0x40 ∧
    ∀ (t' : RunTable) (k' : Classifier), t'.classifier = .ok k' →
      (∀ c, k'.get? c = k.get? c) → 2 ≤ t'.stats.runs := by
  have hsound : repeated.WellFormed :=
    (@wellFormed_ofRecords_iff [_, _, _] _ _).2 ⟨by decide, by decide, rfl⟩
  have hk : repeated.classifier = .ok ⟨repeated, hsound⟩ := (classifier_eq_ok_iff _ _).2 rfl
  obtain ⟨hturning, -, -, ⟨k', hk', hsame, -⟩, hfewest⟩ := fewest_runs hk
  have hstart : 0x41 ∈ (turning repeated.runs).map Run.start := by decide
  refine ⟨_, k', hk, hk', by decide, hsame, ((hturning _).1 hstart).2.2, ?_⟩
  intro t' k' hk' hsame
  have hcount : repeated.stats.runs = 4 ∧ repeated.stats.repeated = 2 := by decide
  have hle := hfewest t' k' hk' hsame
  rw [hcount.1, hcount.2] at hle
  omega

end Classifier
end CodeRuns
