import CodeRuns.Proofs.Classifier.Cover

/-! Tables as the lists of their records. A table of two lists of one length is nothing but its
records, and it is well formed exactly when they are runs in ascending order and a sentinel that
repeats the role of the last run at its place or later. -/

namespace CodeRuns.RunTable

variable {t : RunTable} {front rs : List Run} {last sentinel : Run}

theorem map_start_records (heven : t.starts.size = t.roles.size) :
    t.records.map Run.start = t.starts.toList :=
  List.ext_getElem (by simp [records, heven]) (by simp [records])

theorem map_role_records (heven : t.starts.size = t.roles.size) :
    t.records.map Run.role = t.roles.toList :=
  List.ext_getElem (by simp [records, heven]) (by simp [records])

theorem ofRecords_records (heven : t.starts.size = t.roles.size) : ofRecords t.records = t := by
  rw [ofRecords, map_start_records heven, map_role_records heven]

theorem runs_ofRecords (rs : List Run) (sentinel : Run) :
    (ofRecords (rs ++ [sentinel])).runs = rs := by
  rw [runs, records_ofRecords, List.dropLast_concat]

theorem runs_ofRecords_two (front : List Run) (last sentinel : Run) :
    (ofRecords (front ++ [last, sentinel])).runs = front ++ [last] := by
  rw [← runs_ofRecords (front ++ [last]) sentinel, List.append_assoc, List.singleton_append]

theorem sentinel?_ofRecords_two (front : List Run) (last sentinel : Run) :
    (ofRecords (front ++ [last, sentinel])).sentinel? = some sentinel := by
  rw [sentinel?, records_ofRecords, ← List.concat_append, List.getLast?_append]
  rfl

theorem wellFormed_ofRecords_iff : (ofRecords (front ++ [last, sentinel])).WellFormed ↔
    (front ++ [last]).Pairwise (fun a b => a.start < b.start) ∧
      last.start ≤ sentinel.start ∧ last.role = sentinel.role := by
  have hstarts : (ofRecords (front ++ [last, sentinel])).starts.toList.dropLast =
      (front ++ [last]).map Run.start := by simp [ofRecords]
  constructor
  · intro h
    have hasc := h.ascending
    have hstart := h.sentinel_start
    have hrole := h.sentinel_role
    rw [hstarts, List.pairwise_map] at hasc
    exact ⟨hasc, by simpa [ofRecords] using hstart, by simpa [ofRecords] using hrole⟩
  · rintro ⟨hasc, hstart, hrole⟩
    refine ⟨by simp [ofRecords], by simp [ofRecords], ?_, ?_, ?_⟩
    · rw [hstarts, List.pairwise_map]
      exact hasc
    · simpa [ofRecords] using hstart
    · simpa [ofRecords] using hrole

theorem exists_eq_ofRecords (heven : t.starts.size = t.roles.size) (htwo : 2 ≤ t.starts.size) :
    ∃ front last sentinel, t = ofRecords (front ++ [last, sentinel]) := by
  have hrecords : 2 ≤ t.records.length := by simpa [records, heven] using htwo
  obtain ⟨front, last, sentinel, hsplit⟩ := eq_concat_two hrecords
  exact ⟨front, last, sentinel, by rw [← hsplit, ofRecords_records heven]⟩

theorem WellFormed.exists_eq_ofRecords (h : t.WellFormed) :
    ∃ front last sentinel, t = ofRecords (front ++ [last, sentinel]) :=
  RunTable.exists_eq_ofRecords h.even h.two_le

end CodeRuns.RunTable
