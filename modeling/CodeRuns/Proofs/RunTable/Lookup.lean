import CodeRuns.Command
import CodeRuns.Proofs.RunTable.Openings
import CodeRuns.Proofs.RunTable.Records

/-! Look-ups in a table that was built from entries. Such a table is always well formed, and it
answers with the nearest entry: the run that is nearest to a code point was opened by the
nearest entry or by one before it that the entries in between followed. -/

namespace CodeRuns.RunTable

variable {es rest : List Entry} {before e : Entry} {r : Run} {c : CodePoint}

theorem mem_openingsAfter (hr : r ∈ openingsAfter before rest) : ∃ e ∈ rest, e.run = r := by
  induction rest generalizing before with
  | nil => cases hr
  | cons e rest ih =>
    rw [openingsAfter] at hr
    split at hr
    · obtain ⟨d, hd, hrun⟩ := ih hr
      exact ⟨d, List.mem_cons_of_mem _ hd, hrun⟩
    · rcases List.mem_cons.1 hr with rfl | hr
      · exact ⟨e, List.mem_cons_self, rfl⟩
      · obtain ⟨d, hd, hrun⟩ := ih hr
        exact ⟨d, List.mem_cons_of_mem _ hd, hrun⟩

theorem mem_openings (hr : r ∈ openings es) : ∃ e ∈ es, e.run = r := by
  cases es with
  | nil => cases hr
  | cons e rest =>
    rcases List.mem_cons.1 hr with rfl | hr
    · exact ⟨e, List.mem_cons_self, rfl⟩
    · obtain ⟨d, hd, hrun⟩ := mem_openingsAfter hr
      exact ⟨d, List.mem_cons_of_mem _ hd, hrun⟩

theorem openingsAfter_sublist (before : Entry) (rest : List Entry) :
    (openingsAfter before rest).Sublist (rest.map Entry.run) := by
  induction rest generalizing before with
  | nil => exact List.Sublist.refl _
  | cons e rest ih =>
    rw [openingsAfter]
    split
    · exact (ih e).cons _
    · exact (ih e).cons_cons _

theorem openings_ascend (hasc : Ascending es) :
    (openings es).Pairwise fun a b => a.start < b.start := by
  have hsub : (openings es).Sublist (es.map Entry.run) := by
    cases es with
    | nil => exact List.Sublist.refl _
    | cons e rest => exact (openingsAfter_sublist e rest).cons_cons _
  exact List.Pairwise.sublist hsub (List.pairwise_map.2 hasc)

theorem Ascending.lt_of_mem (hasc : Ascending (before :: rest)) (he : e ∈ rest) :
    before.code < e.code := (List.pairwise_cons.1 hasc).1 e he

theorem Ascending.le_of_mem (hasc : Ascending (before :: rest)) (he : e ∈ before :: rest) :
    before.code ≤ e.code := by
  rcases List.mem_cons.1 he with rfl | he
  · exact UInt32.le_refl _
  · exact UInt32.le_of_lt (hasc.lt_of_mem he)

theorem nearest_openingsAfter (hasc : Ascending (before :: rest)) (hrole : r.role = before.role)
    (hstart : r.start ≤ before.code) (he : e ∈ before :: rest) :
    ∃ s, Nearest Run.start (· ∈ r :: openingsAfter before rest) e.code s ∧ s.role = e.role := by
  -- while entries follow one another the open run stays the nearest; the first that does not
  -- opens a run beyond all entries before it
  induction rest generalizing before r with
  | nil =>
    obtain rfl := List.mem_singleton.1 he
    refine ⟨r, ⟨List.mem_cons_self, hstart, fun s hs _ => ?_⟩, hrole⟩
    obtain rfl := List.mem_singleton.1 hs
    exact UInt32.le_refl _
  | cons d rest ih =>
    have hlt := hasc.lt_of_mem List.mem_cons_self
    have hnext : Ascending (d :: rest) := (List.pairwise_cons.1 hasc).2
    rcases List.mem_cons.1 he with rfl | he
    · refine ⟨r, ⟨List.mem_cons_self, hstart, fun s hs hse => ?_⟩, hrole⟩
      rcases List.mem_cons.1 hs with rfl | hs
      · exact UInt32.le_refl _
      · obtain ⟨f, hf, rfl⟩ := mem_openingsAfter hs
        exact absurd (hasc.lt_of_mem hf) (UInt32.not_lt.2 hse)
    · by_cases hfollows : d.Follows before
      · rw [openingsAfter, if_pos hfollows]
        exact ih hnext (hrole.trans hfollows.2.symm)
          (UInt32.le_trans hstart (UInt32.le_of_lt hlt)) he
      · obtain ⟨s, hs, hsame⟩ := ih hnext (r := d.run) rfl (UInt32.le_refl _) he
        rw [openingsAfter, if_neg hfollows]
        refine ⟨s, ⟨List.mem_cons_of_mem _ hs.holds, hs.le, fun t ht hte => ?_⟩, hsame⟩
        rcases List.mem_cons.1 ht with rfl | ht
        · -- `d` opens a run of its own, which is later than the open one
          have hds := hs.greatest d.run List.mem_cons_self (hnext.le_of_mem he)
          exact UInt32.le_trans (UInt32.le_trans hstart (UInt32.le_of_lt hlt)) hds
        · exact hs.greatest t ht hte

theorem nearest_openings (hasc : Ascending es) (he : Nearest Entry.code (· ∈ es) c e) :
    ∃ s, Nearest Run.start (· ∈ openings es) c s ∧ s.role = e.role := by
  cases es with
  | nil => cases he.holds
  | cons d rest =>
    obtain ⟨s, hs, hrole⟩ :=
      nearest_openingsAfter (r := d.run) hasc rfl (UInt32.le_refl _) he.holds
    refine ⟨s, ⟨hs.holds, UInt32.le_trans hs.le he.le, fun t ht htc => ?_⟩, hrole⟩
    obtain ⟨f, hf, rfl⟩ : ∃ f ∈ d :: rest, f.run = t := mem_openings ht
    exact hs.greatest _ ht (he.greatest f hf htc)

theorem Ascending.le_getLast (hasc : Ascending es) (he : e ∈ es) (hne : es ≠ []) :
    e.code ≤ (es.getLast hne).code := by
  have hweak : es.Pairwise fun a b => a.code ≤ b.code := List.Pairwise.imp UInt32.le_of_lt hasc
  exact hweak.rel_getLast_of_rel_getLast_getLast he (UInt32.le_refl _)

section Built

variable {t : RunTable} {k : Classifier}

theorem closing_of_ne_nil (hne : es ≠ []) : closing es = [(es.getLast hne).run] := by
  rw [closing, List.getLast?_eq_some_getLast hne]
  rfl

theorem wellFormed_of_ascending (hne : es ≠ []) (hasc : Ascending es) :
    (ofRecords (openings es ++ closing es)).WellFormed := by
  obtain ⟨front, r, hopenings, hrole⟩ := exists_last_opening hne
  have hclimb := openings_ascend hasc
  have hr : r ∈ openings es := by rw [hopenings]; simp
  obtain ⟨f, hf, rfl⟩ := mem_openings hr
  rw [closing_of_ne_nil hne, hopenings, List.append_assoc]
  rw [hopenings] at hclimb
  exact wellFormed_ofRecords_iff.2 ⟨hclimb, hasc.le_getLast hf hne, hrole⟩

theorem exists_classifier_of_build (hbuild : (build es).result = .ok t) :
    ∃ k, t.classifier = .ok k := by
  obtain ⟨hne, hasc, rfl⟩ := (build_eq_ok_iff es t).1 hbuild
  exact ⟨⟨_, wellFormed_of_ascending hne hasc⟩, (classifier_eq_ok_iff _ _).2 rfl⟩

theorem runs_of_build (hbuild : (build es).result = .ok t) (hk : k.table = t) :
    k.runs = openings es := by
  obtain ⟨hne, hasc, rfl⟩ := (build_eq_ok_iff es t).1 hbuild
  rw [Classifier.runs, hk, closing_of_ne_nil hne, runs_ofRecords]

theorem firstCode_of_build (hbuild : (build es).result = .ok t) (hk : k.table = t)
    (hne : es ≠ []) : k.firstCode = (es.head hne).code := by
  obtain ⟨-, hasc, rfl⟩ := (build_eq_ok_iff es t).1 hbuild
  cases es with
  | nil => exact absurd rfl hne
  | cons e rest => simp [Classifier.firstCode, hk, ofRecords, openings, Entry.run]

theorem lastCode_of_build (hbuild : (build es).result = .ok t) (hk : k.table = t)
    (hne : es ≠ []) : k.lastCode = (es.getLast hne).code := by
  obtain ⟨-, hasc, rfl⟩ := (build_eq_ok_iff es t).1 hbuild
  simp [Classifier.lastCode, hk, ofRecords, closing_of_ne_nil hne, Entry.run]

theorem get?_of_nearest_entry (hbuild : (build es).result = .ok t) (hk : k.table = t)
    (he : Nearest Entry.code (· ∈ es) c e) (hne : es ≠ []) (hc : c ≤ (es.getLast hne).code) :
    k.get? c = some e.role := by
  have hasc := ((build_eq_ok_iff es t).1 hbuild).2.1
  obtain ⟨s, hs, hrole⟩ := nearest_openings hasc he
  rw [← runs_of_build hbuild hk] at hs
  rw [← lastCode_of_build hbuild hk hne] at hc
  rw [k.get?_of_nearest hs hc, hrole]

theorem get?_of_outside (hbuild : (build es).result = .ok t) (hk : k.table = t)
    (hne : es ≠ []) (hc : ¬((es.head hne).code ≤ c ∧ c ≤ (es.getLast hne).code)) :
    k.get? c = none := by
  rw [k.get?_eq_none_iff, firstCode_of_build hbuild hk hne, lastCode_of_build hbuild hk hne,
    ← UInt32.not_le, ← UInt32.not_le]
  exact Decidable.not_and_iff_or_not.1 hc

theorem tableOf_fst (path : String) (loaded : Except UnicodeData.LoadFault String) :
    (Command.tableOf path loaded).1 =
      match loaded with
      | .error fault => .error (.load fault)
      | .ok text =>
        match (UnicodeData.read text).result with
        | .error fault => .error (.data fault)
        | .ok es =>
          match (build es).result with
          | .error fault => .error (.build fault)
          | .ok t => .ok t := by
  unfold Command.tableOf
  split
  · rfl
  · rename_i text
    dsimp only
    cases (UnicodeData.read text).result with
    | error fault => rfl
    | ok es =>
      cases hbuild : (build es).result with
      | error fault => simp only [hbuild]
      | ok t =>
        obtain ⟨k, hk⟩ := exists_classifier_of_build hbuild
        simp only [hbuild, hk]

theorem tableOf_ne_tableFault (path : String) (loaded : Except UnicodeData.LoadFault String)
    (fault : Fault) : (Command.tableOf path loaded).1 ≠ .error (.table fault) := by
  rw [tableOf_fst]
  split
  · simp
  · split
    · simp
    · split <;> simp

/-- Entries that ascend always make a table that passes its check, and its classifier gives
each code point from the first entry to the last the role of the nearest entry. -/
theorem build_lookup_nearest (hne : es ≠ []) (hasc : Ascending es) :
    ∃ t k, (build es).result = .ok t ∧ t.classifier = .ok k ∧
      (∀ c, if (es.head hne).code ≤ c ∧ c ≤ (es.getLast hne).code then
          ∃ e, Nearest Entry.code (· ∈ es) c e ∧ k.get? c = some (Role.ofCategory e.category) ∧
            k.lookup c = Role.ofCategory e.category
        else k.get? c = none ∧ k.lookup c = .other) ∧
      (∀ e ∈ es, k.get? e.code = some (Role.ofCategory e.category)) ∧
      ∀ path loaded fault, (Command.tableOf path loaded).1 ≠ .error (.table fault) := by
  obtain ⟨t, hbuild⟩ : ∃ t, (build es).result = .ok t :=
    ⟨_, (build_eq_ok_iff es _).2 ⟨hne, hasc, rfl⟩⟩
  obtain ⟨k, hclassifier⟩ := exists_classifier_of_build hbuild
  have hk := (classifier_eq_ok_iff _ k).1 hclassifier
  refine ⟨t, k, hbuild, hclassifier, fun c => ?_, fun e he => ?_, tableOf_ne_tableFault⟩
  · split
    · rename_i hinside
      obtain ⟨e, he⟩ := Nearest.exists_of_mem (List.head_mem hne) hinside.1
      have hget := get?_of_nearest_entry hbuild hk he hne hinside.2
      exact ⟨e, he, hget, k.lookup_of_get? hget⟩
    · rename_i houtside
      have hget := get?_of_outside hbuild hk hne houtside
      exact ⟨hget, k.lookup_of_none hget⟩
  · exact get?_of_nearest_entry hbuild hk (Nearest.self he) hne (hasc.le_getLast he hne)

def gapped : List Entry := [⟨0x30, "Nd"⟩, ⟨0x31, "Nd"⟩, ⟨0x33, "Lu"⟩, ⟨0xFFFFFFFF, "Zs"⟩]

theorem build_lookup_gapped : gapped ≠ [] ∧ Ascending gapped ∧ ∃ t k,
    (build gapped).result = .ok t ∧ t.classifier = .ok k ∧ k.get? 0x2F = none ∧
      (∃ e, Nearest Entry.code (· ∈ gapped) 0x32 e ∧
        k.get? 0x32 = some (Role.ofCategory e.category)) ∧
      k.get? 0x33 = some .identifierStart ∧ k.get? 0xFFFFFFFF = some .whitespace := by
  have hasc : Ascending gapped := by decide
  obtain ⟨t, k, hbuild, hk, hget, hlisted, -⟩ :=
    build_lookup_nearest (List.cons_ne_nil _ _) hasc
  have hbefore := hget 0x2F
  rw [if_neg (by decide)] at hbefore
  have hgap := hget 0x32
  rw [if_pos (by decide)] at hgap
  obtain ⟨e, he, hrole, -⟩ := hgap
  exact ⟨List.cons_ne_nil _ _, hasc, t, k, hbuild, hk, hbefore.1, ⟨e, he, hrole⟩,
    hlisted ⟨0x33, "Lu"⟩ (by decide), hlisted ⟨0xFFFFFFFF, "Zs"⟩ (by decide)⟩

end Built

end CodeRuns.RunTable
