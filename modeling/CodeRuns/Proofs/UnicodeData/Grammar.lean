import CodeRuns.UnicodeData
import CodeRuns.Proofs.Text.Layout
import CodeRuns.Proofs.Text.Numeral

/-! The grammar of the character database. A text is a sequence of items, each a record of its
own or the first and the last record of a range, with one record on each line that is not
blank; what an item lists and what it reports follows from its records. -/

namespace CodeRuns.UnicodeData

namespace Record

/-- The line holds the record: a numeral inside white space, the name and the category. -/
def StandsOn (r : Record) (line : List Char) : Prop :=
  ∃ code numeral category, Text.StartsWithFields line code r.name category ∧
    Text.Trimmed code numeral ∧ CodePoint.IsNumeral numeral r.code.toNat ∧
    r.category = String.ofList category

def OpensRange (r : Record) : Prop := ['<'] <+: r.name ∧ "First>".toList <:+ r.name

def EndsAsLast (r : Record) : Prop := "Last>".toList <:+ r.name

def ClosesRange (r : Record) : Prop := ['<'] <+: r.name ∧ r.EndsAsLast

def LeftOut (r : Record) : Prop :=
  "Private Use".toList <:+: r.name ∨ "Surrogate".toList <:+: r.name

variable {r : Record}

theorem opensRange_iff : r.opensRange = true ↔ r.OpensRange := by
  rw [opensRange, Bool.and_eq_true, List.isPrefixOf_iff_prefix, List.isSuffixOf_iff_suffix]
  rfl

theorem endsAsLast_iff : r.endsAsLast = true ↔ r.EndsAsLast := List.isSuffixOf_iff_suffix

theorem closesRange_iff : r.closesRange = true ↔ r.ClosesRange := by
  rw [closesRange, Bool.and_eq_true, List.isPrefixOf_iff_prefix, endsAsLast_iff]
  rfl

theorem leftOut_iff : r.leftOut = true ↔ r.LeftOut := by
  rw [leftOut, Bool.or_eq_true, Text.holds_iff, Text.holds_iff]
  rfl

instance : Decidable r.OpensRange := decidable_of_iff _ opensRange_iff

instance : Decidable r.EndsAsLast := decidable_of_iff _ endsAsLast_iff

instance : Decidable r.ClosesRange := decidable_of_iff _ closesRange_iff

instance : Decidable r.LeftOut := decidable_of_iff _ leftOut_iff

def rangeAbove (first last : Record) : List Entry :=
  (List.range' (first.code.toNat + 1) (last.code.toNat - first.code.toNat)).map
    fun n => ⟨UInt32.ofNat n, first.category⟩

theorem entriesAbove_eq {first : Record} (h : first.code ≠ 0xFFFFFFFF) (last : Record) :
    first.entriesAbove last = first.rangeAbove last := by
  rw [entriesAbove, CodePoint.above_eq h, List.map_map]
  rfl

theorem ofLine_eq_ok_iff {number : Nat} {line : List Char} :
    ofLine number line = .ok r ↔ r.StandsOn line := by
  constructor
  · intro h
    unfold ofLine at h
    split at h
    · rename_i code name category more hfields
      split at h
      · rename_i c hread
        obtain rfl := Except.ok.inj h
        exact ⟨code, _, category, Text.fields_cons_iff.1 ⟨more, hfields⟩,
          Text.Blank.trim_eq_iff.1 rfl, CodePoint.read?_eq_some_iff.1 hread, rfl⟩
      · cases h
    · cases h
    · cases h
    · cases h
  · rintro ⟨code, numeral, category, hfields, htrim, hread, hcategory⟩
    obtain ⟨more, hline⟩ := Text.fields_cons_iff.2 hfields
    rw [← Text.Blank.trim_eq_iff] at htrim
    rw [← CodePoint.read?_eq_some_iff, ← htrim] at hread
    simp only [ofLine, hline, hread]
    rw [← hcategory]

instance (line : List Char) : Decidable (r.StandsOn line) :=
  decidable_of_iff ((ofLine 0 line).toOption = some r) (by
    rw [← ofLine_eq_ok_iff]
    cases ofLine 0 line <;> simp [Except.toOption])

theorem leftUnique_standsOn : Relator.LeftUnique StandsOn := by
  intro r r' line h h'
  have hread : ofLine 0 line = .ok r := ofLine_eq_ok_iff.2 h
  rw [ofLine_eq_ok_iff.2 h'] at hread
  exact (Except.ok.inj hread).symm

end Record

inductive Item where
  | single (record : Record)
  | range (first last : Record)

namespace Item

def records : Item → List Record
  | single r => [r]
  | range first last => [first, last]

/-- A record of its own neither opens nor closes a range. A range begins with a record that
opens one, and whatever ends as a last record closes it, at the same code point or later. -/
def WellFormed : Item → Prop
  | single r => ¬ r.OpensRange ∧ ¬ r.ClosesRange
  | range first last => first.OpensRange ∧ last.EndsAsLast ∧ first.code ≤ last.code

def entries : Item → List Entry
  | single r => [⟨r.code, r.category⟩]
  | range first last =>
    (if first.LeftOut then [] else [⟨first.code, first.category⟩]) ++
      if last.LeftOut then [] else first.rangeAbove last

def Fits : Item → Prop
  | single _ => True
  | range first last => ¬ last.LeftOut → first.code ≠ 0xFFFFFFFF

def events : Item → List Event
  | single _ => []
  | range first last =>
    if last.LeftOut then [.rangeSkipped first.code last.code (String.ofList last.name)] else []

instance (i : Item) : Decidable i.Fits :=
  match i with
  | single _ => inferInstanceAs (Decidable True)
  | range first last => inferInstanceAs (Decidable (¬ last.LeftOut → first.code ≠ 0xFFFFFFFF))

instance (i : Item) : Decidable i.WellFormed :=
  match i with
  | single r => inferInstanceAs (Decidable (¬ r.OpensRange ∧ ¬ r.ClosesRange))
  | range first last =>
    inferInstanceAs (Decidable (first.OpensRange ∧ last.EndsAsLast ∧ first.code ≤ last.code))

end Item

/-- The lines of the text that are not blank hold the records of the items, in order. -/
def IsText (items : List Item) (text : List Char) : Prop :=
  (∀ i ∈ items, i.WellFormed) ∧ ∃ lines, Text.Lines text lines ∧
    List.Forall₂ Record.StandsOn (items.flatMap Item.records)
      (lines.filter fun line => !line.all Text.Blank.isBlank)

theorem isText_iff {items : List Item} {text : List Char} : IsText items text ↔
    (∀ i ∈ items, i.WellFormed) ∧ List.Forall₂ Record.StandsOn (items.flatMap Item.records)
      ((Text.lines text).filter fun line => !line.all Text.Blank.isBlank) := by
  refine and_congr_right fun _ => ⟨?_, fun h => ⟨_, Text.lines_lines text, h⟩⟩
  rintro ⟨lines, hlines, h⟩
  rwa [hlines.lines_eq]

instance (items : List Item) (text : List Char) : Decidable (IsText items text) :=
  decidable_of_iff _ isText_iff.symm

end CodeRuns.UnicodeData
