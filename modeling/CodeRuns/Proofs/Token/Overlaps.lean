import CodeRuns.Proofs.Token.Conditions

/-! Where token classes meet. The fixed characters of two classes are apart, so two classes share
a code point only if the table gives a fixed character of one of them a role of the other one, or
if the fifth edition takes a format control for a blank or for a part of an identifier. -/

namespace CodeRuns

namespace CodePoint

def lineEnds : List CodePoint := [lineFeed, carriageReturn, lineSeparator, paragraphSeparator]

def asciiBlanks : List CodePoint := [0x09, 0x0B, 0x0C, 0x20]

theorem mem_lineEnds_iff (c : CodePoint) : c ∈ lineEnds ↔
    (c = lineFeed ∨ c = carriageReturn) ∨ c = lineSeparator ∨ c = paragraphSeparator := by
  simp [lineEnds, or_assoc]

theorem lineEnds_apart {c : CodePoint} (hc : c ∈ lineEnds) :
    c ∉ asciiBlanks ∧ c ≠ byteOrderMark ∧ ¬ c.IsAsciiPart ∧ ¬ c.IsJoiner := by
  rcases (mem_lineEnds_iff c).1 hc with (rfl | rfl) | rfl | rfl <;> decide

theorem asciiBlanks_apart {c : CodePoint} (hc : c ∈ asciiBlanks) :
    ¬ c.IsAsciiPart ∧ ¬ c.IsJoiner ∧ ¬ softHyphen ≤ c := by
  simp only [asciiBlanks, List.mem_cons, List.not_mem_nil, or_false] at hc
  rcases hc with rfl | rfl | rfl | rfl <;> decide

end CodePoint

namespace Classifier

open CodePoint

variable {k : Classifier} {c : CodePoint} {v : Edition}

theorem mem_lineEnds_of_isLineTerminator (h : k.isLineTerminator c v = true) : c ∈ lineEnds := by
  rw [isLineTerminator_iff] at h
  exact (mem_lineEnds_iff c).2 (h.imp_right And.left)

theorem isLineTerminator_of_mem (hv : .es3 ≤ v) (hc : c ∈ lineEnds) :
    k.isLineTerminator c v = true := by
  rw [isLineTerminator_iff]
  exact ((mem_lineEnds_iff c).1 hc).imp_right fun h => ⟨h, hv⟩

theorem lineTerminator_whitespace_iff :
    k.isLineTerminator c v = true ∧ k.isWhitespace c v = true ↔
      .es3 ≤ v ∧ c ∈ lineEnds ∧ k.lookup c = .whitespace := by
  constructor
  · rintro ⟨hend, hblank⟩
    have hc := mem_lineEnds_of_isLineTerminator hend
    obtain ⟨hfixed, hmark, -⟩ := lineEnds_apart hc
    rcases (k.isWhitespace_iff c v).1 hblank with hblank | ⟨-, hblank⟩ | ⟨hv, hrole⟩
    · exact absurd hblank hfixed
    · exact absurd hblank hmark
    · exact ⟨hv, hc, hrole⟩
  · rintro ⟨hv, hc, hrole⟩
    exact ⟨isLineTerminator_of_mem hv hc, (k.isWhitespace_iff c v).2 (.inr (.inr ⟨hv, hrole⟩))⟩

theorem lineTerminator_identifierPart_iff :
    k.isLineTerminator c v = true ∧ k.isIdentifierPart c v = true ↔
      .es3 ≤ v ∧ c ∈ lineEnds ∧
        (k.lookup c = .identifierStart ∨ k.lookup c = .identifierPart) := by
  constructor
  · rintro ⟨hend, hpart⟩
    have hc := mem_lineEnds_of_isLineTerminator hend
    obtain ⟨-, -, hfixed, hjoiner⟩ := lineEnds_apart hc
    rcases (k.isIdentifierPart_iff c v).1 hpart with hpart | ⟨hv, hrole⟩ | ⟨-, -, hpart⟩
    · exact absurd hpart hfixed
    · exact ⟨hv, hc, hrole⟩
    · exact absurd hpart hjoiner
  · rintro ⟨hv, hc, hrole⟩
    exact ⟨isLineTerminator_of_mem hv hc,
      (k.isIdentifierPart_iff c v).2 (.inr (.inl ⟨hv, hrole⟩))⟩

theorem lineTerminator_formatControl_iff :
    k.isLineTerminator c v = true ∧ k.isFormatControl c = true ↔
      .es3 ≤ v ∧ (c = lineSeparator ∨ c = paragraphSeparator) ∧ k.lookup c = .formatControl := by
  rw [isLineTerminator_iff, isFormatControl_iff]
  constructor
  · rintro ⟨(rfl | rfl) | ⟨hc, hv⟩, hlow, hrole⟩
    · exact absurd hlow (by decide)
    · exact absurd hlow (by decide)
    · exact ⟨hv, hc, hrole⟩
  · rintro ⟨hv, hc, hrole⟩
    have hlow : softHyphen ≤ c := by rcases hc with rfl | rfl <;> decide
    exact ⟨.inr ⟨hc, hv⟩, hlow, hrole⟩

theorem whitespace_identifierPart_iff :
    k.isWhitespace c v = true ∧ k.isIdentifierPart c v = true ↔
      .es3 ≤ v ∧
        ((c ∈ asciiBlanks ∧ (k.lookup c = .identifierStart ∨ k.lookup c = .identifierPart)) ∨
          (c.IsAsciiPart ∧ k.lookup c = .whitespace) ∨
          (v = .es5 ∧ c = byteOrderMark ∧
            (k.lookup c = .identifierStart ∨ k.lookup c = .identifierPart))) := by
  rw [isWhitespace_iff, isIdentifierPart_iff]
  constructor
  · rintro ⟨hblank | ⟨hv, rfl⟩ | ⟨hv, hrole⟩, hpart⟩
    · obtain ⟨hfixed, hjoiner, -⟩ := asciiBlanks_apart hblank
      rcases hpart with hpart | ⟨hv, hrole⟩ | ⟨-, -, hpart⟩
      · exact absurd hpart hfixed
      · exact ⟨hv, .inl ⟨hblank, hrole⟩⟩
      · exact absurd hpart hjoiner
    · rcases hpart with hpart | ⟨hthird, hrole⟩ | ⟨-, -, hpart⟩
      · exact absurd hpart (by decide)
      · exact ⟨hthird, .inr (.inr ⟨hv, rfl, hrole⟩)⟩
      · exact absurd hpart (by decide)
    · rcases hpart with hpart | ⟨-, hpart⟩ | ⟨-, hpart, -⟩
      · exact ⟨hv, .inr (.inl ⟨hpart, hrole⟩)⟩
      · simp [hrole] at hpart
      · simp [hrole] at hpart
  · rintro ⟨hv, ⟨hblank, hrole⟩ | ⟨hpart, hrole⟩ | ⟨hfifth, hmark, hrole⟩⟩
    · exact ⟨.inl hblank, .inr (.inl ⟨hv, hrole⟩)⟩
    · exact ⟨.inr (.inr ⟨hv, hrole⟩), .inl hpart⟩
    · exact ⟨.inr (.inl ⟨hfifth, hmark⟩), .inr (.inl ⟨hv, hrole⟩)⟩

theorem whitespace_formatControl_iff :
    k.isWhitespace c v = true ∧ k.isFormatControl c = true ↔
      v = .es5 ∧ c = byteOrderMark ∧ k.lookup c = .formatControl := by
  rw [isWhitespace_iff, isFormatControl_iff]
  constructor
  · rintro ⟨hblank | ⟨hv, hc⟩ | ⟨-, hblank⟩, hlow, hrole⟩
    · exact absurd hlow (asciiBlanks_apart hblank).2.2
    · exact ⟨hv, hc, hrole⟩
    · simp [hrole] at hblank
  · rintro ⟨hv, rfl, hrole⟩
    exact ⟨.inr (.inl ⟨hv, rfl⟩), by decide, hrole⟩

theorem identifierPart_formatControl_iff :
    k.isIdentifierPart c v = true ∧ k.isFormatControl c = true ↔
      v = .es5 ∧ c.IsJoiner ∧ k.lookup c = .formatControl := by
  rw [isIdentifierPart_iff, isFormatControl_iff]
  constructor
  · rintro ⟨hpart | ⟨-, hpart⟩ | ⟨hv, -, hc⟩, hlow, hrole⟩
    · exact absurd (IsAsciiPart.lt_softHyphen hpart) (UInt32.not_lt.2 hlow)
    · simp [hrole] at hpart
    · exact ⟨hv, hc, hrole⟩
  · rintro ⟨hv, hc, hrole⟩
    exact ⟨.inr (.inr ⟨hv, hrole, hc⟩), hc.softHyphen_le, hrole⟩

/-- For each two of line ends, blanks, parts of identifiers and format controls the code points
that belong to both. In the first edition there are none. -/
theorem token_classes_overlap_iff (k : Classifier) (c : CodePoint) (v : Edition) :
    (k.isLineTerminator c v = true ∧ k.isWhitespace c v = true ↔
        .es3 ≤ v ∧ c ∈ lineEnds ∧ k.lookup c = .whitespace) ∧
      (k.isLineTerminator c v = true ∧ k.isIdentifierPart c v = true ↔
        .es3 ≤ v ∧ c ∈ lineEnds ∧
          (k.lookup c = .identifierStart ∨ k.lookup c = .identifierPart)) ∧
      (k.isLineTerminator c v = true ∧ k.isFormatControl c = true ↔
        .es3 ≤ v ∧ (c = lineSeparator ∨ c = paragraphSeparator) ∧
          k.lookup c = .formatControl) ∧
      (k.isWhitespace c v = true ∧ k.isIdentifierPart c v = true ↔
        .es3 ≤ v ∧
          ((c ∈ asciiBlanks ∧ (k.lookup c = .identifierStart ∨ k.lookup c = .identifierPart)) ∨
            (c.IsAsciiPart ∧ k.lookup c = .whitespace) ∨
            (v = .es5 ∧ c = byteOrderMark ∧
              (k.lookup c = .identifierStart ∨ k.lookup c = .identifierPart)))) ∧
      (k.isWhitespace c v = true ∧ k.isFormatControl c = true ↔
        v = .es5 ∧ c = byteOrderMark ∧ k.lookup c = .formatControl) ∧
      (k.isIdentifierPart c v = true ∧ k.isFormatControl c = true ↔
        v = .es5 ∧ c.IsJoiner ∧ k.lookup c = .formatControl) ∧
      [k.isLineTerminator c .es1, k.isWhitespace c .es1, k.isIdentifierPart c .es1,
        k.isFormatControl c].Pairwise fun p q => ¬ (p = true ∧ q = true) := by
  have hthird : ¬ Edition.es3 ≤ .es1 := by decide
  have hfifth : Edition.es1 ≠ .es5 := by decide
  refine ⟨lineTerminator_whitespace_iff, lineTerminator_identifierPart_iff,
    lineTerminator_formatControl_iff, whitespace_identifierPart_iff, whitespace_formatControl_iff,
    identifierPart_formatControl_iff, ?_⟩
  simp only [List.pairwise_cons, List.forall_mem_cons, List.not_mem_nil, false_implies,
    implies_true, List.Pairwise.nil, and_true]
  exact ⟨⟨fun h => hthird (lineTerminator_whitespace_iff.1 h).1,
      fun h => hthird (lineTerminator_identifierPart_iff.1 h).1,
      fun h => hthird (lineTerminator_formatControl_iff.1 h).1⟩,
    ⟨fun h => hthird (whitespace_identifierPart_iff.1 h).1,
      fun h => hfifth (whitespace_formatControl_iff.1 h).1⟩,
    fun h => hfifth (identifierPart_formatControl_iff.1 h).1⟩

end Classifier
end CodeRuns
