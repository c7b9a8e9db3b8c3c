import CodeRuns.Proofs.Descent
import CodeRuns.Proofs.RunTable.Records

/-! Which fault a table has: that of the first rule it breaks. The rules go from the lengths of the
two lists to the order of the runs and on to the sentinel, and each is looked at only when those
before it hold. Main statement: a table is refused for exactly its first broken rule. -/

namespace CodeRuns.RunTable

/-- The first rule that a table breaks. Runs ascend up to the last one; the sentinel after it is
looked at only then, first its start and then its role. -/
inductive BreaksFirst (t : RunTable) : Fault → Prop
  | lengths : t.starts.size ≠ t.roles.size →
      BreaksFirst t (.lengthMismatch t.starts.size t.roles.size)
  | short : t.starts.size = t.roles.size → t.starts.size < 2 → BreaksFirst t .empty
  | descent {front : List Run} {last sentinel : Run} {i : Nat} {a b : CodePoint} :
      t = ofRecords (front ++ [last, sentinel]) →
      FirstDescent ((front ++ [last]).map Run.start) i a b →
      BreaksFirst t (.notAscending (i + 1) a b)
  | sentinelStart {front : List Run} {last sentinel : Run} :
      t = ofRecords (front ++ [last, sentinel]) →
      (front ++ [last]).Pairwise (fun a b => a.start < b.start) →
      sentinel.start < last.start →
      BreaksFirst t (.sentinelBeforeLastRun sentinel.start last.start)
  | sentinelRole {front : List Run} {last sentinel : Run} :
      t = ofRecords (front ++ [last, sentinel]) →
      (front ++ [last]).Pairwise (fun a b => a.start < b.start) →
      last.start ≤ sentinel.start → sentinel.role ≠ last.role →
      BreaksFirst t (.sentinelRoleMismatch sentinel.role last.role)

variable {t : RunTable} {fault : Fault} {front : List Run} {last sentinel : Run}

theorem descent?_eq_some_iff (n : Nat) (starts : List CodePoint) :
    descent? n starts = some fault ↔
      ∃ i a b, FirstDescent starts i a b ∧ fault = .notAscending (n + i + 1) a b := by
  -- the count keeps the place of the front in the whole list
  induction starts generalizing n with
  | nil => simp [descent?]
  | cons x rest ih =>
    cases rest with
    | nil => simp [descent?]
    | cons y rest =>
      simp only [FirstDescent.cons_cons_iff]
      rw [descent?]
      by_cases hle : y ≤ x
      · rw [if_pos hle, Option.some.injEq]
        constructor
        · rintro rfl
          exact ⟨0, x, y, .inl ⟨hle, rfl, rfl, rfl⟩, rfl⟩
        · rintro ⟨i, a, b, ⟨-, rfl, rfl, rfl⟩ | ⟨hlt, -⟩, rfl⟩
          · rfl
          · exact absurd hlt (UInt32.not_lt.2 hle)
      · rw [if_neg hle, ih]
        constructor
        · rintro ⟨i, a, b, hfirst, rfl⟩
          refine ⟨i + 1, a, b, .inr ⟨UInt32.not_le.1 hle, i, rfl, hfirst⟩, ?_⟩
          rw [Nat.add_right_comm n 1 i]
          rfl
        · rintro ⟨i, a, b, ⟨hstuck, -⟩ | ⟨-, j, rfl, hfirst⟩, rfl⟩
          · exact absurd hstuck hle
          · refine ⟨j, a, b, hfirst, ?_⟩
            rw [Nat.add_right_comm n 1 j]
            rfl

theorem fault?_ofRecords (front : List Run) (last sentinel : Run) :
    (ofRecords (front ++ [last, sentinel])).fault? =
      match descent? 0 ((front ++ [last]).map Run.start) with
      | some fault => some fault
      | none =>
        if sentinel.start < last.start then
          some (.sentinelBeforeLastRun sentinel.start last.start)
        else if sentinel.role ≠ last.role then
          some (.sentinelRoleMismatch sentinel.role last.role)
        else none := by
  have hlength : (front.map Run.start).length = (front.map Run.role).length := by simp
  have hends := fault?_concat (front.map Run.start) last.start sentinel.start
    (front.map Run.role) last.role sentinel.role hlength
  simp only [ofRecords, List.map_append, List.map_cons, List.map_nil]
  exact hends

theorem BreaksFirst.fault?_eq (h : t.BreaksFirst fault) : t.fault? = some fault := by
  cases h with
  | lengths hodd => rw [fault?, if_pos hodd]
  | short heven hshort => exact fault?_of_short heven hshort
  | descent htable hfirst =>
    have hdescent := (descent?_eq_some_iff 0 _).2 ⟨_, _, _, hfirst, rfl⟩
    rw [Nat.zero_add] at hdescent
    rw [htable, fault?_ofRecords, hdescent]
  | sentinelStart htable hascends hback =>
    have hclimb := (descent?_eq_none_iff 0 _).2 (List.pairwise_map.2 hascends)
    rw [htable, fault?_ofRecords, hclimb]
    exact if_pos hback
  | sentinelRole htable hascends hle hrole =>
    have hclimb := (descent?_eq_none_iff 0 _).2 (List.pairwise_map.2 hascends)
    rw [htable, fault?_ofRecords, hclimb]
    exact (if_neg (UInt32.not_lt.2 hle)).trans (if_pos hrole)

theorem breaksFirst_of_fault?_ofRecords
    (h : (ofRecords (front ++ [last, sentinel])).fault? = some fault) :
    (ofRecords (front ++ [last, sentinel])).BreaksFirst fault := by
  rw [fault?_ofRecords] at h
  cases hdescent : descent? 0 ((front ++ [last]).map Run.start) with
  | some first =>
    rw [hdescent] at h
    obtain rfl := Option.some.inj h
    obtain ⟨i, a, b, hfirst, rfl⟩ := (descent?_eq_some_iff 0 _).1 hdescent
    rw [Nat.zero_add]
    exact .descent rfl hfirst
  | none =>
    rw [hdescent] at h
    have hascends := List.pairwise_map.1 ((descent?_eq_none_iff 0 _).1 hdescent)
    dsimp only at h
    split at h
    · rename_i hback
      obtain rfl := Option.some.inj h
      exact .sentinelStart rfl hascends hback
    · rename_i hback
      split at h
      · rename_i hrole
        obtain rfl := Option.some.inj h
        exact .sentinelRole rfl hascends (UInt32.not_lt.1 hback) hrole
      · cases h

theorem fault?_eq_some_iff : t.fault? = some fault ↔ t.BreaksFirst fault := by
  refine ⟨fun h => ?_, BreaksFirst.fault?_eq⟩
  by_cases heven : t.starts.size = t.roles.size
  · by_cases hshort : t.starts.size < 2
    · rw [fault?_of_short heven hshort] at h
      obtain rfl := Option.some.inj h
      exact .short heven hshort
    · obtain ⟨front, last, sentinel, rfl⟩ := exists_eq_ofRecords heven (Nat.not_lt.1 hshort)
      exact breaksFirst_of_fault?_ofRecords h
  · rw [fault?, if_pos heven] at h
    obtain rfl := Option.some.inj h
    exact .lengths heven

/-- A table is refused for the first rule it breaks. It makes a classifier exactly when its runs
ascend before a sentinel that stands no earlier than the last run and has its role, and then the
classifier lists the starts and the roles as they are. -/
theorem classifier_first_fault (t : RunTable) :
    (∀ fault, t.classifier = .error fault ↔ t.BreaksFirst fault) ∧
      ((∃ k, t.classifier = .ok k) ↔ ∃ front last sentinel,
        t = ofRecords (front ++ [last, sentinel]) ∧
          (front ++ [last]).Pairwise (fun a b => a.start < b.start) ∧
          last.start ≤ sentinel.start ∧ last.role = sentinel.role) ∧
      ∀ k, t.classifier = .ok k →
        k.records.map Run.start = t.starts.toList ∧ k.records.map Run.role = t.roles.toList := by
  refine ⟨fun fault => ?_, ⟨?_, ?_⟩, fun k hk => ?_⟩
  · rw [classifier_eq_error_iff, fault?_eq_some_iff]
  · rintro ⟨k, hk⟩
    obtain rfl := (classifier_eq_ok_iff t k).1 hk
    obtain ⟨front, last, sentinel, htable⟩ := k.sound.exists_eq_ofRecords
    have hsound := k.sound
    rw [htable, wellFormed_ofRecords_iff] at hsound
    exact ⟨front, last, sentinel, htable, hsound⟩
  · rintro ⟨front, last, sentinel, rfl, hsound⟩
    exact ⟨⟨_, wellFormed_ofRecords_iff.2 hsound⟩, (classifier_eq_ok_iff _ _).2 rfl⟩
  · obtain rfl := (classifier_eq_ok_iff t k).1 hk
    exact ⟨map_start_records k.sound.even, map_role_records k.sound.even⟩

def muddled : RunTable :=
  ofRecords [⟨0x41, .identifierStart⟩, ⟨0x50, .other⟩, ⟨0x50, .other⟩, ⟨0x45, .whitespace⟩]

theorem classifier_first_fault_muddled :
    muddled.classifier = .error (.notAscending 2 0x50 0x50) ∧
      ∃ k, (ofRecords [⟨0x09, .formatControl⟩, ⟨0x20, .whitespace⟩,
          ⟨0x20, .whitespace⟩]).classifier = .ok k ∧
        k.records.map Run.start = [0x09, 0x20, 0x20] ∧
        k.records.map Run.role = [.formatControl, .whitespace, .whitespace] := by
  have hdescent : FirstDescent [0x41, 0x50, 0x50] 1 0x50 0x50 :=
    .cons (by decide) (.of_le (by decide))
  have hbreaks : muddled.BreaksFirst (.notAscending 2 0x50 0x50) :=
    @BreaksFirst.descent muddled [_, _] _ _ 1 _ _ rfl hdescent
  obtain ⟨-, haccepts, hlists⟩ := classifier_first_fault
    (ofRecords [⟨0x09, .formatControl⟩, ⟨0x20, .whitespace⟩, ⟨0x20, .whitespace⟩])
  obtain ⟨k, hk⟩ := haccepts.2 ⟨[⟨0x09, .formatControl⟩], ⟨0x20, .whitespace⟩,
    ⟨0x20, .whitespace⟩, rfl, by decide, by decide, rfl⟩
  exact ⟨((classifier_first_fault muddled).1 _).2 hbreaks, k, hk, hlists k hk⟩

end CodeRuns.RunTable
