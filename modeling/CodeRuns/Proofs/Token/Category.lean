import CodeRuns.Proofs.RunTable.Lookup
import CodeRuns.Proofs.Token.Conditions

/-! Token classes told from general categories. A code point from the first entry to the last has
the category of the nearest entry, any other none; with the table that is built from the entries
its token classes follow from this category, the edition and the fixed characters alone. -/

namespace CodeRuns

namespace Role

def categories : Role → List String
  | formatControl => ["Cf"]
  | whitespace => ["Zs"]
  | identifierStart => ["Lu", "Ll", "Lt", "Lm", "Lo", "Nl"]
  | identifierPart => ["Mn", "Mc", "Nd", "Pc"]
  | other => []

theorem ofCategory_eq_iff {r : Role} (hr : r ≠ other) (g : String) :
    ofCategory g = r ↔ g ∈ r.categories := by
  unfold ofCategory
  split <;> cases r <;> simp_all [categories]

end Role

namespace RunTable

variable {es : List Entry} {t : RunTable} {k : Classifier} {c : CodePoint} {g : Option String}

def Spans (es : List Entry) (c : CodePoint) : Prop :=
  (∃ e ∈ es.head?, e.code ≤ c) ∧ ∃ e ∈ es.getLast?, c ≤ e.code

/-- The category of the nearest entry, and none outside of the entries. -/
def CategoryAt (es : List Entry) (c : CodePoint) : Option String → Prop
  | some g => Spans es c ∧ ∃ e, Nearest Entry.code (· ∈ es) c e ∧ e.category = g
  | none => ¬ Spans es c

theorem spans_iff (hne : es ≠ []) :
    Spans es c ↔ (es.head hne).code ≤ c ∧ c ≤ (es.getLast hne).code := by
  simp [Spans, List.head?_eq_some_head hne, List.getLast?_eq_some_getLast hne]

theorem exists_categoryAt (es : List Entry) (c : CodePoint) : ∃ g, CategoryAt es c g := by
  by_cases hspans : Spans es c
  · obtain ⟨first, hfirst, hle⟩ := hspans.1
    obtain ⟨e, he⟩ := Nearest.exists_of_mem (List.mem_of_mem_head? hfirst) hle
    exact ⟨some e.category, hspans, e, he, rfl⟩
  · exact ⟨none, hspans⟩

theorem lookup_eq_iff_of_categoryAt (hbuild : (build es).result = .ok t) (hk : k.table = t)
    (hg : CategoryAt es c g) {r : Role} (hr : r ≠ .other) :
    k.lookup c = r ↔ ∃ name ∈ g, name ∈ r.categories := by
  have hne := ((build_eq_ok_iff es t).1 hbuild).1
  cases g with
  | none =>
    have hget := get?_of_outside hbuild hk hne fun hspans => hg ((spans_iff hne).2 hspans)
    rw [k.lookup_of_none hget]
    simp [Ne.symm hr]
  | some name =>
    obtain ⟨hspans, e, he, rfl⟩ := hg
    have hget := get?_of_nearest_entry hbuild hk he hne ((spans_iff hne).1 hspans).2
    rw [k.lookup_of_get? hget, Entry.role, Role.ofCategory_eq_iff hr]
    simp

/-- With the table of a list of entries the token classes of a code point are those of its
category: blanks of category `Zs`, letters and letter numbers at the start of an identifier, marks,
digits and connectors inside of one, and format controls from the soft hyphen on. -/
theorem token_classes_of_category (hbuild : (build es).result = .ok t) :
    ∃ k, t.classifier = .ok k ∧ ∀ c, (∃ g, CategoryAt es c g) ∧ ∀ g, CategoryAt es c g →
      (∀ v, k.isWhitespace c v = true ↔ c ∈ [0x09, 0x0B, 0x0C, 0x20] ∨
        (v = .es5 ∧ c = 0xFEFF) ∨ (.es3 ≤ v ∧ g = some "Zs")) ∧
      (∀ v, k.isIdentifierStart c v = true ↔ (c = '$'.val ∨ c = '_'.val ∨ c.IsLetter) ∨
        (.es3 ≤ v ∧ ∃ name ∈ g, name ∈ ["Lu", "Ll", "Lt", "Lm", "Lo", "Nl"])) ∧
      (∀ v, k.isIdentifierPart c v = true ↔
        (c = '$'.val ∨ c = '_'.val ∨ c.IsLetter ∨ c.IsDigit) ∨
          (.es3 ≤ v ∧ ∃ name ∈ g, name ∈ ["Lu", "Ll", "Lt", "Lm", "Lo", "Nl"] ++
            ["Mn", "Mc", "Nd", "Pc"]) ∨
          (v = .es5 ∧ g = some "Cf" ∧ (c = 0x200C ∨ c = 0x200D))) ∧
      (k.isFormatControl c = true ↔ 0xAD ≤ c ∧ g = some "Cf") := by
  obtain ⟨k, hk⟩ := exists_classifier_of_build hbuild
  have htable := (classifier_eq_ok_iff _ k).1 hk
  refine ⟨k, hk, fun c => ⟨exists_categoryAt es c, fun g hg => ?_⟩⟩
  have hrole {r : Role} (hr : r ≠ .other) : k.lookup c = r ↔ ∃ name ∈ g, name ∈ r.categories :=
    lookup_eq_iff_of_categoryAt hbuild htable hg hr
  have hblank : k.lookup c = .whitespace ↔ g = some "Zs" := by
    rw [hrole (by decide)]
    simp [Role.categories]
  have hformat : k.lookup c = .formatControl ↔ g = some "Cf" := by
    rw [hrole (by decide)]
    simp [Role.categories]
  have hstart := hrole (r := .identifierStart) (by decide)
  have hpart := hrole (r := .identifierPart) (by decide)
  refine ⟨fun v => ?_, fun v => ?_, fun v => ?_, ?_⟩
  · rw [k.isWhitespace_iff, hblank]
    rfl
  · rw [k.isIdentifierStart_iff, hstart]
    rfl
  · rw [k.isIdentifierPart_iff, hformat, hstart, hpart]
    simp only [List.mem_append, and_or_left, exists_or]
    rfl
  · rw [k.isFormatControl_iff, hformat]
    rfl

def joined : List Entry := [⟨0x41, "Lu"⟩, ⟨0x200B, "Cf"⟩, ⟨0x2010, "Pd"⟩]

theorem token_classes_of_joined : ∃ t k, (build joined).result = .ok t ∧
    t.classifier = .ok k ∧ CategoryAt joined 0x200C (some "Cf") ∧
    k.isIdentifierPart 0x200C .es5 = true ∧ k.isIdentifierPart 0x200C .es3 = false ∧
    k.isIdentifierPart 0x200E .es5 = false ∧ k.isFormatControl 0x200E = true := by
  have hbuild := (build_eq_ok_iff joined _).2 ⟨List.cons_ne_nil _ _, by decide, rfl⟩
  obtain ⟨k, hk, hclasses⟩ := token_classes_of_category hbuild
  have hcategory (c : CodePoint) (hc : 0x200B ≤ c ∧ c < 0x2010) :
      CategoryAt joined c (some "Cf") := by
    have hspans : Spans joined c := (spans_iff (List.cons_ne_nil _ _)).2
      ⟨UInt32.le_trans (by decide) hc.1, UInt32.le_of_lt hc.2⟩
    refine ⟨hspans, ⟨0x200B, "Cf"⟩, ⟨by decide, hc.1, fun e he hle => ?_⟩, rfl⟩
    have hentries : ∀ e ∈ joined, e.code ≤ 0x200B ∨ 0x2010 ≤ e.code := by decide
    rcases hentries e he with hbefore | hafter
    · exact hbefore
    · exact absurd (UInt32.le_trans hafter hle) (UInt32.not_le.2 hc.2)
  have hjoiner := (hclasses 0x200C).2 _ (hcategory 0x200C (by decide))
  have hmark := (hclasses 0x200E).2 _ (hcategory 0x200E (by decide))
  have hthird := mt (hjoiner.2.2.1 .es3).1 (by decide)
  have hfifth := mt (hmark.2.2.1 .es5).1 (by decide)
  exact ⟨_, k, hbuild, hk, hcategory _ (by decide), (hjoiner.2.2.1 .es5).2 (by decide),
    Bool.eq_false_iff.2 hthird, Bool.eq_false_iff.2 hfifth, hmark.2.2.2.2 (by decide)⟩

end RunTable
end CodeRuns
