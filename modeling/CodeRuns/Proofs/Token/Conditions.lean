import CodeRuns.Token

/-! When the token classes hold, as conditions on the character, the edition and the role that
the table gives. The fixed characters come first; the table is asked from the third edition on. -/

namespace CodeRuns

namespace Edition

variable {u v w : Edition}

theorem le_trans (huv : u ≤ v) (hvw : v ≤ w) : u ≤ w := Nat.le_trans huv hvw

theorem es5_le_iff : .es5 ≤ v ↔ v = .es5 := by
  cases v <;> decide

theorem es3_le_of_es5_le (h : .es5 ≤ v) : .es3 ≤ v := le_trans (by decide) h

end Edition

namespace CodePoint

def IsLetter (c : CodePoint) : Prop :=
  ('A'.val ≤ c ∧ c ≤ 'Z'.val) ∨ ('a'.val ≤ c ∧ c ≤ 'z'.val)

def IsDigit (c : CodePoint) : Prop := '0'.val ≤ c ∧ c ≤ '9'.val

instance (c : CodePoint) : Decidable c.IsLetter := inferInstanceAs (Decidable (_ ∨ _))

instance (c : CodePoint) : Decidable c.IsDigit := inferInstanceAs (Decidable (_ ∧ _))

def IsAsciiPart (c : CodePoint) : Prop := c = '$'.val ∨ c = '_'.val ∨ c.IsLetter ∨ c.IsDigit

instance (c : CodePoint) : Decidable c.IsAsciiPart := inferInstanceAs (Decidable (_ ∨ _))

def IsJoiner (c : CodePoint) : Prop := c = zeroWidthNonJoiner ∨ c = zeroWidthJoiner

instance (c : CodePoint) : Decidable c.IsJoiner := inferInstanceAs (Decidable (_ ∨ _))

variable {c : CodePoint}

theorem IsAsciiPart.lt_softHyphen (h : c.IsAsciiPart) : c < softHyphen := by
  rcases h with rfl | rfl | (⟨-, hle⟩ | ⟨-, hle⟩) | ⟨-, hle⟩
  · decide
  · decide
  · exact UInt32.lt_of_le_of_lt hle (by decide)
  · exact UInt32.lt_of_le_of_lt hle (by decide)
  · exact UInt32.lt_of_le_of_lt hle (by decide)

theorem IsJoiner.softHyphen_le (h : c.IsJoiner) : softHyphen ≤ c := by
  rcases h with rfl | rfl <;> decide

theorem IsJoiner.not_isAsciiPart (h : c.IsJoiner) : ¬ c.IsAsciiPart :=
  fun hpart => UInt32.not_le.2 hpart.lt_softHyphen h.softHyphen_le

variable (c)

theorem isAsciiBlank_iff : c.isAsciiBlank = true ↔ c ∈ [0x09, 0x0B, 0x0C, 0x20] := by
  unfold isAsciiBlank
  simp [or_assoc]

theorem isAsciiLetter_iff : c.isAsciiLetter = true ↔ c.IsLetter := by
  unfold isAsciiLetter IsLetter
  rw [Bool.or_eq_true, decide_eq_true_iff, decide_eq_true_iff]
  rfl

theorem isAsciiDigit_iff : c.isAsciiDigit = true ↔ c.IsDigit := decide_eq_true_iff

theorem isAsciiStart_iff :
    c.isAsciiStart = true ↔ c = '$'.val ∨ c = '_'.val ∨ c.IsLetter := by
  unfold isAsciiStart
  rw [Bool.or_eq_true, Bool.or_eq_true, beq_iff_eq, beq_iff_eq, isAsciiLetter_iff, or_assoc]
  rfl

end CodePoint

namespace Classifier

open CodePoint

variable (k : Classifier) (c : CodePoint) (v : Edition)

theorem isLineTerminator_iff : k.isLineTerminator c v = true ↔
    (c = lineFeed ∨ c = carriageReturn) ∨
      ((c = lineSeparator ∨ c = paragraphSeparator) ∧ .es3 ≤ v) := by
  unfold isLineTerminator
  by_cases hascii : c = lineFeed ∨ c = carriageReturn
  · rw [if_pos hascii]
    exact iff_of_true rfl (.inl hascii)
  · rw [if_neg hascii, decide_eq_true_iff]
    exact (or_iff_right hascii).symm

theorem isWhitespace_iff : k.isWhitespace c v = true ↔
    c ∈ [0x09, 0x0B, 0x0C, 0x20] ∨ (v = .es5 ∧ c = byteOrderMark) ∨
      (.es3 ≤ v ∧ k.lookup c = .whitespace) := by
  unfold isWhitespace
  rw [Bool.or_eq_true, Bool.or_eq_true, isAsciiBlank_iff, decide_eq_true_iff, decide_eq_true_iff,
    Edition.es5_le_iff, or_assoc]

theorem isIdentifierStart_iff : k.isIdentifierStart c v = true ↔
    (c = '$'.val ∨ c = '_'.val ∨ c.IsLetter) ∨ (.es3 ≤ v ∧ k.lookup c = .identifierStart) := by
  unfold isIdentifierStart
  rw [Bool.or_eq_true, isAsciiStart_iff, decide_eq_true_iff]

theorem isIdentifierPart_iff : k.isIdentifierPart c v = true ↔
    (c = '$'.val ∨ c = '_'.val ∨ c.IsLetter ∨ c.IsDigit) ∨
      (.es3 ≤ v ∧ (k.lookup c = .identifierStart ∨ k.lookup c = .identifierPart)) ∨
      (v = .es5 ∧ k.lookup c = .formatControl ∧
        (c = zeroWidthNonJoiner ∨ c = zeroWidthJoiner)) := by
  have hfixed : (c.isAsciiStart || c.isAsciiDigit) = true ↔
      c = '$'.val ∨ c = '_'.val ∨ c.IsLetter ∨ c.IsDigit := by
    rw [Bool.or_eq_true, isAsciiStart_iff, isAsciiDigit_iff, or_assoc, or_assoc]
  unfold isIdentifierPart
  rw [← hfixed]
  by_cases hascii : (c.isAsciiStart || c.isAsciiDigit) = true
  · rw [if_pos hascii]
    exact iff_of_true rfl (.inl hascii)
  · rw [if_neg hascii]
    by_cases hthird : .es3 ≤ v
    · rw [if_pos hthird]
      cases k.lookup c <;> simp [hascii, hthird, Edition.es5_le_iff]
    · have hfifth : v ≠ .es5 := fun h => hthird (Edition.es3_le_of_es5_le (Edition.es5_le_iff.2 h))
      simp [hascii, hthird, hfifth]

theorem isFormatControl_iff :
    k.isFormatControl c = true ↔ softHyphen ≤ c ∧ k.lookup c = .formatControl := decide_eq_true_iff

end Classifier
end CodeRuns
