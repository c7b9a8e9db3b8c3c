import CodeRuns.Proofs.RunTable.Openings

/-! Which entries no table is built from, and why. Every entry is compared with the one just before
it, whatever run is open by then, so that the first neighbours which do not ascend decide alone.
A build that fails reports nothing. -/

namespace CodeRuns

def Event.IsTableBuilt (e : Event) : Prop := ∃ entries runs gaps, e = .tableBuilt entries runs gaps

namespace RunTable

variable {es : List Entry} {fault : BuildFault}

theorem build_eq_error_iff : (build es).result = .error fault ↔ (es = [] ∧ fault = .empty) ∨
    ∃ i a b, FirstDescent (es.map Entry.code) i a b ∧
      fault = Builder.stallFault a b (i + 1) := by
  constructor
  · intro hfails
    obtain ⟨hnil, hbuild⟩ | ⟨i, a, b, hfirst, hbuild⟩ | ⟨-, -, hbuild⟩ := build_cases es
    · rw [hbuild] at hfails
      exact .inl ⟨hnil, (Except.error.inj hfails).symm⟩
    · rw [hbuild] at hfails
      exact .inr ⟨i, a, b, hfirst, (Except.error.inj hfails).symm⟩
    · rw [hbuild] at hfails
      cases hfails
  · rintro (⟨rfl, rfl⟩ | ⟨i, a, b, hfirst, rfl⟩)
    · rfl
    · rw [build_of_descent hfirst]

theorem not_ascending_iff : ¬ Ascending es ↔
    ∃ before d e after, es = before ++ d :: e :: after ∧ e.code ≤ d.code := by
  rw [ascending_iff_isChain, List.isChain_map, List.isChain_iff_forall_rel_of_append_cons_cons]
  simp only [not_forall, UInt32.not_lt]
  constructor
  · rintro ⟨d, e, before, after, hes, hle⟩
    exact ⟨before, d, e, after, hes, hle⟩
  · rintro ⟨before, d, e, after, hes, hle⟩
    exact ⟨d, e, before, after, hes, hle⟩

theorem exists_fault_iff :
    (∃ fault, (build es).result = .error fault) ↔ es = [] ∨ ¬ Ascending es := by
  have hok : (∃ t, (build es).result = .ok t) ↔ es ≠ [] ∧ Ascending es := by
    simp only [build_eq_ok_iff]
    exact ⟨fun ⟨_, hne, hasc, _⟩ => ⟨hne, hasc⟩, fun ⟨hne, hasc⟩ => ⟨_, hne, hasc, rfl⟩⟩
  have hfails : (∃ fault, (build es).result = .error fault) ↔
      ¬ ∃ t, (build es).result = .ok t := by
    cases (build es).result <;> simp
  rw [hfails, hok, not_and_or, ne_eq, not_not]

theorem log_of_fault (hfails : (build es).result = .error fault) : (build es).log = [] := by
  obtain ⟨-, hbuild⟩ | ⟨i, a, b, -, hbuild⟩ | ⟨-, -, hbuild⟩ := build_cases es
  · rw [hbuild]
  · rw [hbuild]
  · rw [hbuild] at hfails
    cases hfails

/-- No table comes of entries exactly when there are none or one of them is not above the one just
before it. The first such entry is the fault, with its place, and whether it is the same code
point again or a lower one. Nothing is reported then, and a table that is finished is reported
once. -/
theorem build_first_fault (es : List Entry) :
    ((∃ fault, (build es).result = .error fault) ↔ es = [] ∨
      ∃ before d e after, es = before ++ d :: e :: after ∧ e.code ≤ d.code) ∧
      (∀ fault, (build es).result = .error fault ↔ (es = [] ∧ fault = .empty) ∨
        ∃ i a b, FirstDescent (es.map Entry.code) i a b ∧
          fault = if b = a then .duplicate b (i + 1) else .notAscending a b (i + 1)) ∧
      (∀ fault, (build es).result = .error fault → (build es).log = []) ∧
      ∀ t, (build es).result = .ok t → ∃ event, (build es).log = [event] ∧ event.IsTableBuilt := by
  refine ⟨?_, fun fault => build_eq_error_iff, fun fault => log_of_fault, fun t hbuild => ?_⟩
  · rw [exists_fault_iff, not_ascending_iff]
  · exact ⟨_, log_of_build hbuild, _, _, _, rfl⟩

theorem build_first_fault_backward :
    (build [⟨0x30, "Nd"⟩, ⟨0x42, "Lu"⟩, ⟨0x43, "Lu"⟩, ⟨0x41, "Lu"⟩, ⟨0x41, "Lu"⟩]).result =
        .error (.notAscending 0x43 0x41 3) ∧
      (build [⟨0x30, "Nd"⟩, ⟨0x42, "Lu"⟩, ⟨0x43, "Lu"⟩, ⟨0x41, "Lu"⟩, ⟨0x41, "Lu"⟩]).log = [] ∧
      (build [⟨0x41, "Lu"⟩, ⟨0x41, "Zs"⟩, ⟨0x30, "Nd"⟩]).result = .error (.duplicate 0x41 1) ∧
      ∃ event, (build [⟨0x30, "Nd"⟩, ⟨0x42, "Lu"⟩]).log = [event] ∧ event.IsTableBuilt := by
  have hlower : FirstDescent [0x30, 0x42, 0x43, 0x41, 0x41] 2 0x43 0x41 :=
    .cons (by decide) (.cons (by decide) (.of_le (by decide)))
  have hagain : FirstDescent [0x41, 0x41, 0x30] 0 0x41 0x41 := .of_le (by decide)
  obtain ⟨-, hfault, hsilent, -⟩ :=
    build_first_fault [⟨0x30, "Nd"⟩, ⟨0x42, "Lu"⟩, ⟨0x43, "Lu"⟩, ⟨0x41, "Lu"⟩, ⟨0x41, "Lu"⟩]
  have hfails := (hfault _).2 (.inr ⟨2, _, _, hlower, rfl⟩)
  exact ⟨hfails, hsilent _ hfails,
    ((build_first_fault _).2.1 _).2 (.inr ⟨0, _, _, hagain, rfl⟩),
    (build_first_fault _).2.2.2 _ ((build_eq_ok_iff _ _).2 ⟨nofun, by decide, rfl⟩)⟩

end RunTable
end CodeRuns
