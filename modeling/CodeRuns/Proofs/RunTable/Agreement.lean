import CodeRuns.Proofs.Classifier.Changes
import CodeRuns.Proofs.RunTable.Lookup

/-! Tables built from different entries that answer alike. A run that a gap forces keeps the role
of the run before it and is no change, so the changes of a built table are those of its entries,
and its answers depend on nothing else but the first and the last code point. -/

namespace CodeRuns.RunTable

variable {es fs rest : List Entry} {before e : Entry} {r : Run} {t t' : RunTable}

theorem changesAfter_openingsAfter (hrole : r.role = before.role) :
    changesAfter r (openingsAfter before rest) = changesAfter before.run (rest.map Entry.run) := by
  induction rest generalizing before r with
  | nil => rfl
  | cons e rest ih =>
    rw [openingsAfter, List.map_cons, changesAfter, Entry.run_role, Entry.run_role]
    by_cases hfollows : e.Follows before
    · rw [if_pos hfollows, if_pos hfollows.2, ih (hrole.trans hfollows.2.symm)]
    · rw [if_neg hfollows, changesAfter, Entry.run_role, hrole, ih (r := e.run) rfl]

theorem changes_openings (es : List Entry) :
    changes (openings es) = changes (es.map Entry.run) := by
  cases es with
  | nil => rfl
  | cons e rest => exact congrArg (e.run :: ·) (changesAfter_openingsAfter rfl)

/-- Two lists of entries that make tables, however they are gapped, give the same answers exactly
when they have the same ends and the same changes of role. -/
theorem build_agree_iff (hbuild : (build es).result = .ok t) (hbuild' : (build fs).result = .ok t') :
    ∃ k k', t.classifier = .ok k ∧ t'.classifier = .ok k' ∧
      ((∀ c, k.get? c = k'.get? c) ↔
        es.head?.map Entry.code = fs.head?.map Entry.code ∧
          es.getLast?.map Entry.code = fs.getLast?.map Entry.code ∧
          changes (es.map Entry.run) = changes (fs.map Entry.run)) := by
  obtain ⟨k, hk⟩ := exists_classifier_of_build hbuild
  obtain ⟨k', hk'⟩ := exists_classifier_of_build hbuild'
  refine ⟨k, k', hk, hk', ?_⟩
  have hne := ((build_eq_ok_iff es t).1 hbuild).1
  have hne' := ((build_eq_ok_iff fs t').1 hbuild').1
  have htable := (classifier_eq_ok_iff _ k).1 hk
  have htable' := (classifier_eq_ok_iff _ k').1 hk'
  rw [Classifier.get?_ext_iff, firstCode_of_build hbuild htable hne,
    firstCode_of_build hbuild' htable' hne', lastCode_of_build hbuild htable hne,
    lastCode_of_build hbuild' htable' hne', runs_of_build hbuild htable,
    runs_of_build hbuild' htable', changes_openings, changes_openings,
    List.head?_eq_some_head hne, List.head?_eq_some_head hne',
    List.getLast?_eq_some_getLast hne, List.getLast?_eq_some_getLast hne']
  simp only [Option.map_some, Option.some.injEq]

theorem build_agree_gapped : ∃ t t' k k',
    (build [⟨0x30, "Nd"⟩, ⟨0x31, "Nd"⟩, ⟨0x33, "Nd"⟩, ⟨0x41, "Lu"⟩]).result = .ok t ∧
      (build [⟨0x30, "Nd"⟩, ⟨0x38, "Mn"⟩, ⟨0x41, "Ll"⟩]).result = .ok t' ∧
      t.classifier = .ok k ∧ t'.classifier = .ok k' ∧
      t ≠ t' ∧ ∀ c, k.get? c = k'.get? c := by
  have hbuild := (build_eq_ok_iff [⟨0x30, "Nd"⟩, ⟨0x31, "Nd"⟩, ⟨0x33, "Nd"⟩, ⟨0x41, "Lu"⟩] _).2
    ⟨List.cons_ne_nil _ _, by decide, rfl⟩
  have hbuild' := (build_eq_ok_iff [⟨0x30, "Nd"⟩, ⟨0x38, "Mn"⟩, ⟨0x41, "Ll"⟩] _).2
    ⟨List.cons_ne_nil _ _, by decide, rfl⟩
  obtain ⟨k, k', hk, hk', hagree⟩ := build_agree_iff hbuild hbuild'
  exact ⟨_, _, k, k', hbuild, hbuild', hk, hk', by decide, hagree.2 (by decide)⟩

end CodeRuns.RunTable
