import CodeRuns.Proofs.Classifier.Cover
import CodeRuns.Proofs.Token.Conditions

/-! Token classes from edition to edition. What holds in one edition holds in every later one, and
what begins an identifier also continues one. The fifth edition lets the joiners of zero width
continue an identifier; a table has to have them as format controls or as identifier characters
for that. -/

namespace CodeRuns

namespace Edition

variable {v w : Edition}

theorem eq_es5_of_le (h : v ≤ w) (hv : v = .es5) : w = .es5 := es5_le_iff.1 (hv ▸ h)

end Edition

namespace Classifier

open CodePoint

variable {k : Classifier} {c : CodePoint} {v w : Edition}

section Later

theorem isLineTerminator_mono (h : v ≤ w) (hv : k.isLineTerminator c v = true) :
    k.isLineTerminator c w = true := by
  rw [isLineTerminator_iff] at hv ⊢
  exact hv.imp_right fun hthird => ⟨hthird.1, Edition.le_trans hthird.2 h⟩

theorem isWhitespace_mono (h : v ≤ w) (hv : k.isWhitespace c v = true) :
    k.isWhitespace c w = true := by
  rw [isWhitespace_iff] at hv ⊢
  rcases hv with hfixed | ⟨hfifth, hmark⟩ | ⟨hthird, hrole⟩
  · exact .inl hfixed
  · exact .inr (.inl ⟨Edition.eq_es5_of_le h hfifth, hmark⟩)
  · exact .inr (.inr ⟨Edition.le_trans hthird h, hrole⟩)

theorem isIdentifierStart_mono (h : v ≤ w) (hv : k.isIdentifierStart c v = true) :
    k.isIdentifierStart c w = true := by
  rw [isIdentifierStart_iff] at hv ⊢
  exact hv.imp_right fun hthird => ⟨Edition.le_trans hthird.1 h, hthird.2⟩

theorem isIdentifierPart_mono (h : v ≤ w) (hv : k.isIdentifierPart c v = true) :
    k.isIdentifierPart c w = true := by
  rw [isIdentifierPart_iff] at hv ⊢
  rcases hv with hfixed | ⟨hthird, hrole⟩ | ⟨hfifth, hrole, hjoiner⟩
  · exact .inl hfixed
  · exact .inr (.inl ⟨Edition.le_trans hthird h, hrole⟩)
  · exact .inr (.inr ⟨Edition.eq_es5_of_le h hfifth, hrole, hjoiner⟩)

theorem isIdentifierPart_of_isIdentifierStart (h : k.isIdentifierStart c v = true) :
    k.isIdentifierPart c v = true := by
  rw [isIdentifierStart_iff] at h
  rw [isIdentifierPart_iff]
  rcases h with (hdollar | hunderscore | hletter) | ⟨hthird, hrole⟩
  · exact .inl (.inl hdollar)
  · exact .inl (.inr (.inl hunderscore))
  · exact .inl (.inr (.inr (.inl hletter)))
  · exact .inr (.inl ⟨hthird, .inl hrole⟩)

/-- Line ends, blanks and the characters of identifiers stay what they are in later editions, and
a character at the start of an identifier may stand inside of one from then on. -/
theorem holds_in_later_edition (k : Classifier) (c : CodePoint) (h : v ≤ w) :
    (k.isLineTerminator c v = true → k.isLineTerminator c w = true) ∧
      (k.isWhitespace c v = true → k.isWhitespace c w = true) ∧
      (k.isIdentifierStart c v = true → k.isIdentifierStart c w = true) ∧
      (k.isIdentifierPart c v = true → k.isIdentifierPart c w = true) ∧
      (k.isIdentifierStart c v = true → k.isIdentifierPart c w = true) :=
  ⟨isLineTerminator_mono h, isWhitespace_mono h, isIdentifierStart_mono h, isIdentifierPart_mono h,
    fun hstart => isIdentifierPart_mono h (isIdentifierPart_of_isIdentifierStart hstart)⟩

def ordinals : Classifier where
  table := .ofRecords [⟨0xAA, .identifierStart⟩, ⟨0xBA, .identifierStart⟩]
  sound := ⟨by decide, by decide, by decide, by decide, by decide⟩

theorem holds_in_later_edition_ordinals : ordinals.table.classifier = .ok ordinals ∧
    ordinals.isIdentifierStart 0xAA .es1 = false ∧ ordinals.isIdentifierStart 0xAA .es3 = true ∧
    Edition.es3 ≤ .es5 ∧ ordinals.isIdentifierStart 0xAA .es5 = true ∧
    ordinals.isIdentifierPart 0xAA .es5 = true := by
  have hmem : ⟨0xAA, .identifierStart⟩ ∈ ordinals.runs := by decide
  have hrole : ordinals.lookup 0xAA = .identifierStart :=
    lookup_of_get? _ (get?_of_nearest _ (Nearest.self hmem) (by decide))
  have hfirst := mt (isIdentifierStart_iff ordinals 0xAA .es1).1 (by decide)
  have hstart := (isIdentifierStart_iff ordinals 0xAA .es3).2 (.inr ⟨by decide, hrole⟩)
  have hle : Edition.es3 ≤ .es5 := by decide
  obtain ⟨-, -, hlater, -, hpart⟩ := holds_in_later_edition ordinals 0xAA hle
  exact ⟨(RunTable.classifier_eq_ok_iff _ _).2 rfl, Bool.eq_false_iff.2 hfirst, hstart, hle,
    hlater hstart, hpart hstart⟩

end Later

section Joiners

/-- The rule for the characters inside of an identifier. It has the joiners in the fifth edition
whatever role the table gives them, as blanks have the byte order mark. -/
def MayContinue (k : Classifier) (c : CodePoint) (v : Edition) : Prop :=
  c.IsAsciiPart ∨ (.es3 ≤ v ∧ (k.lookup c = .identifierStart ∨ k.lookup c = .identifierPart)) ∨
    (v = .es5 ∧ c.IsJoiner)

theorem mayContinue_of_isIdentifierPart (h : k.isIdentifierPart c v = true) :
    k.MayContinue c v := by
  rcases (k.isIdentifierPart_iff c v).1 h with hfixed | htable | ⟨hfifth, -, hjoiner⟩
  · exact .inl hfixed
  · exact .inr (.inl htable)
  · exact .inr (.inr ⟨hfifth, hjoiner⟩)

theorem mayContinue_and_refused_iff :
    k.MayContinue c v ∧ k.isIdentifierPart c v = false ↔
      v = .es5 ∧ c.IsJoiner ∧ (k.lookup c = .whitespace ∨ k.lookup c = .other) := by
  rw [Bool.eq_false_iff, ne_eq, isIdentifierPart_iff]
  constructor
  · rintro ⟨hfixed | htable | ⟨rfl, hjoiner⟩, hrefused⟩
    · exact absurd (.inl hfixed) hrefused
    · exact absurd (.inr (.inl htable)) hrefused
    · refine ⟨rfl, hjoiner, ?_⟩
      cases hrole : k.lookup c with
      | formatControl => exact absurd (.inr (.inr ⟨rfl, hrole, hjoiner⟩)) hrefused
      | whitespace => exact .inl rfl
      | identifierStart => exact absurd (.inr (.inl ⟨by decide, .inl hrole⟩)) hrefused
      | identifierPart => exact absurd (.inr (.inl ⟨by decide, .inr hrole⟩)) hrefused
      | other => exact .inr rfl
  · rintro ⟨hfifth, hjoiner, hrole⟩
    refine ⟨.inr (.inr ⟨hfifth, hjoiner⟩), ?_⟩
    rintro (hfixed | ⟨-, hpart⟩ | ⟨-, hpart, -⟩)
    · exact hjoiner.not_isAsciiPart hfixed
    · rcases hrole with hrole | hrole <;> simp [hrole] at hpart
    · rcases hrole with hrole | hrole <;> simp [hrole] at hpart

/-- What continues an identifier follows the rule but for one case: in the fifth edition a joiner
is refused if the table has it as a blank or without a role of its own, which is so wherever the
table does not reach. So the rule holds with exactly those tables that have neither joiner so. -/
theorem identifierPart_follows_rule_iff (k : Classifier) :
    (∀ c v, k.isIdentifierPart c v = true → k.MayContinue c v) ∧
      (∀ c v, k.MayContinue c v ∧ k.isIdentifierPart c v = false ↔
        v = .es5 ∧ c.IsJoiner ∧ (k.lookup c = .whitespace ∨ k.lookup c = .other)) ∧
      ((∀ c v, k.isIdentifierPart c v = true ↔ k.MayContinue c v) ↔
        ∀ c : CodePoint, c.IsJoiner → k.lookup c ≠ .whitespace ∧ k.lookup c ≠ .other) := by
  refine ⟨fun c v => mayContinue_of_isIdentifierPart, fun c v => mayContinue_and_refused_iff,
    fun hrule c hjoiner => ?_, fun hroles c v => ⟨mayContinue_of_isIdentifierPart, fun hmay => ?_⟩⟩
  · rw [← not_or]
    intro hrole
    obtain ⟨hmay, hrefused⟩ := mayContinue_and_refused_iff.2 ⟨rfl, hjoiner, hrole⟩
    rw [(hrule c .es5).2 hmay] at hrefused
    cases hrefused
  · by_contra hrefused
    obtain ⟨-, hjoiner, hrole⟩ :=
      mayContinue_and_refused_iff.1 ⟨hmay, Bool.eq_false_iff.2 hrefused⟩
    exact not_or.2 (hroles c hjoiner) hrole

theorem joiner_beyond_ordinals : ordinals.table.classifier = .ok ordinals ∧
    ordinals.get? 0x200C = none ∧ ordinals.MayContinue 0x200C .es5 ∧
    ordinals.isIdentifierPart 0x200C .es5 = false := by
  have hget : ordinals.get? 0x200C = none := (get?_eq_none_iff _).2 (.inr (by decide))
  have hrole := lookup_of_none _ hget
  exact ⟨(RunTable.classifier_eq_ok_iff _ _).2 rfl, hget,
    mayContinue_and_refused_iff.2 ⟨rfl, by decide, .inr hrole⟩⟩

end Joiners

end Classifier
end CodeRuns
