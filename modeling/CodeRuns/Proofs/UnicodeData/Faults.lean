import CodeRuns.Proofs.UnicodeData.Reading
import Mathlib.Data.List.Induction

/-! Which line a text is refused for. The lines before it hold the records of items and, while a
range is open, of its first line; it is the first line that does not go on from there. Main
statement: reading stops at exactly this line, with its fault and the reports of the items. -/

namespace CodeRuns.UnicodeData

variable {number opener : Nat} {line : List Char} {fault : Fault} {r first last : Record}
  {lines before : List (List Char)} {items : List Item} {opened : Option (Nat × Record)}

section Lines

inductive Malformed (number : Nat) (line : List Char) : Fault → Prop
  | name : line.count ';' < 1 → Malformed number line (.missingField number .name)
  | category : ¬ line.count ';' < 1 → line.count ';' < 2 →
      Malformed number line (.missingField number .category)
  | code {code name category numeral : List Char} :
      Text.StartsWithFields line code name category → Text.Trimmed code numeral →
      (∀ c : CodePoint, ¬ CodePoint.IsNumeral numeral c.toNat) →
      Malformed number line (.invalidCode number (String.ofList code))

theorem ofLine_of_malformed (h : Malformed number line fault) :
    Record.ofLine number line = .error fault := by
  have hlength := Text.length_fields line
  cases h with
  | name hname =>
    have hone : (Text.fields line).length = 1 := by omega
    obtain ⟨code, hfields⟩ := List.length_eq_one_iff.1 hone
    simp only [Record.ofLine, hfields]
  | category hname hcategory =>
    have htwo : (Text.fields line).length = 2 := by omega
    obtain ⟨code, name, hfields⟩ := List.length_eq_two.1 htwo
    simp only [Record.ofLine, hfields]
  | @code code name category numeral hstarts htrim hnumeral =>
    obtain ⟨more, hfields⟩ := Text.fields_cons_iff.2 hstarts
    have hread : CodePoint.read? (Text.Blank.trim code) = none := by
      rw [Text.Blank.trim_eq_iff.2 htrim, Option.eq_none_iff_forall_ne_some]
      exact fun c hc => hnumeral c (CodePoint.read?_eq_some_iff.1 hc)
    simp only [Record.ofLine, hfields, hread]

theorem malformed_of_ofLine (h : Record.ofLine number line = .error fault) :
    Malformed number line fault := by
  have hlength := Text.length_fields line
  rcases hfields : Text.fields line with _ | ⟨code, _ | ⟨name, _ | ⟨category, more⟩⟩⟩
  · exact absurd hfields (List.splitOn_ne_nil _ _)
  · simp only [Record.ofLine, hfields] at h
    simp only [hfields, List.length_cons, List.length_nil] at hlength
    obtain rfl := Except.error.inj h
    exact .name (by omega)
  · simp only [Record.ofLine, hfields] at h
    simp only [hfields, List.length_cons, List.length_nil] at hlength
    obtain rfl := Except.error.inj h
    exact .category (by omega) (by omega)
  · simp only [Record.ofLine, hfields] at h
    have hstarts := Text.fields_cons_iff.1 ⟨more, hfields⟩
    cases hread : CodePoint.read? (Text.Blank.trim code) with
    | some c =>
      rw [hread] at h
      cases h
    | none =>
      rw [hread] at h
      obtain rfl := Except.error.inj h
      refine .code hstarts (Text.Blank.trimmed_trim code) fun c hc => ?_
      rw [← CodePoint.read?_eq_some_iff, hread] at hc
      cases hc

theorem standsOn_or_malformed (number : Nat) (line : List Char) :
    (∃ r : Record, r.StandsOn line) ∨ ∃ fault, Malformed number line fault := by
  cases hline : Record.ofLine number line with
  | ok r => exact .inl ⟨r, Record.ofLine_eq_ok_iff.1 hline⟩
  | error fault => exact .inr ⟨fault, malformed_of_ofLine hline⟩

theorem not_blank_of_standsOn (h : r.StandsOn line) : line.all Text.Blank.isBlank = false := by
  obtain ⟨code, numeral, category, ⟨rest, hline, -⟩, -⟩ := h
  have hmem : ';' ∈ line := by
    rw [hline]
    simp
  rw [List.all_eq_false]
  exact ⟨';', hmem, by decide⟩

theorem not_closesRange_of_opensRange (h : r.OpensRange) : ¬ r.ClosesRange := by
  intro hcloses
  have hsuffix := List.suffix_of_suffix_length_le hcloses.2 h.2 (by decide)
  exact absurd hsuffix (by decide)

end Lines

/-- Lines taken from the front of a text, with what they come to: the items that are complete and,
while a range is open, the number of its first line with the record there. -/
inductive Holds : List (List Char) → List Item → Option (Nat × Record) → Prop
  | nil : Holds [] [] none
  | blank {lines : List (List Char)} {items : List Item} {opened : Option (Nat × Record)}
      {line : List Char} : Holds lines items opened → line.all Text.Blank.isBlank = true →
      Holds (lines ++ [line]) items opened
  | single {lines : List (List Char)} {items : List Item} {r : Record} {line : List Char} :
      Holds lines items none → r.StandsOn line → (Item.single r).WellFormed →
      Holds (lines ++ [line]) (items ++ [.single r]) none
  | first {lines : List (List Char)} {items : List Item} {r : Record} {line : List Char} :
      Holds lines items none → r.StandsOn line → r.OpensRange →
      Holds (lines ++ [line]) items (some (lines.length + 1, r))
  | last {lines : List (List Char)} {items : List Item} {opener : Nat} {first r : Record}
      {line : List Char} : Holds lines items (some (opener, first)) → r.StandsOn line →
      (Item.range first r).WellFormed → Holds (lines ++ [line]) (items ++ [.range first r]) none

/-- A line that is not blank and cannot come next, by the range that is open before it. Its fields
come first; a first record without its last one is blamed on the line of the first. -/
inductive Offends : Option (Nat × Record) → Nat → List Char → Fault → Prop
  | malformed {opened : Option (Nat × Record)} {number : Nat} {line : List Char} {fault : Fault} :
      line.all Text.Blank.isBlank = false → Malformed number line fault →
      Offends opened number line fault
  | unended {opener number : Nat} {first r : Record} {line : List Char} : r.StandsOn line →
      ¬ r.EndsAsLast → Offends (some (opener, first)) number line (.unpairedRange opener)
  | backward {opener number : Nat} {first r : Record} {line : List Char} : r.StandsOn line →
      r.EndsAsLast → r.code < first.code →
      Offends (some (opener, first)) number line (.unpairedRange number)
  | stray {number : Nat} {r : Record} {line : List Char} : r.StandsOn line → r.ClosesRange →
      Offends none number line (.unpairedRange number)

/-- What a text is refused for, after these items: the first line that offends, or else the range
that is open at the end. -/
inductive Stops (lines : List (List Char)) (items : List Item) : Fault → Prop
  | offence {before after : List (List Char)} {line : List Char}
      {opened : Option (Nat × Record)} {fault : Fault} : lines = before ++ line :: after →
      Holds before items opened → Offends opened (before.length + 1) line fault →
      Stops lines items fault
  | unclosed {opener : Nat} {first : Record} : Holds lines items (some (opener, first)) →
      Stops lines items (.unpairedRange opener)

theorem Stops.column_ne_code {number : Nat} {column : Column}
    (h : Stops lines items (.missingField number column)) : column ≠ .code := by
  cases h with
  | offence _ _ hoffends =>
    cases hoffends with
    | malformed _ hmalformed => cases hmalformed <;> decide

theorem Holds.opensRange (h : Holds lines items (some (opener, first))) : first.OpensRange := by
  generalize hopened : some (opener, first) = opened at h
  induction h with
  | nil | single | last => cases hopened
  | blank _ _ ih => exact ih hopened
  | first _ _ hopens =>
    cases hopened
    exact hopens

theorem Holds.next (h : Holds lines items opened) (line : List Char) :
    (∃ items' opened', Holds (lines ++ [line]) items' opened') ∨
      ∃ fault, Offends opened (lines.length + 1) line fault := by
  cases hblank : line.all Text.Blank.isBlank with
  | true => exact .inl ⟨_, _, .blank h hblank⟩
  | false =>
    obtain ⟨r, hr⟩ | ⟨fault, hfault⟩ := standsOn_or_malformed (lines.length + 1) line
    · cases opened with
      | none =>
        by_cases hopens : r.OpensRange
        · exact .inl ⟨_, _, .first h hr hopens⟩
        · by_cases hcloses : r.ClosesRange
          · exact .inr ⟨_, .stray hr hcloses⟩
          · exact .inl ⟨_, _, .single h hr ⟨hopens, hcloses⟩⟩
      | some opening =>
        obtain ⟨opener, first⟩ := opening
        by_cases hlast : r.EndsAsLast
        · by_cases hback : r.code < first.code
          · exact .inr ⟨_, .backward hr hlast hback⟩
          · exact .inl ⟨_, _, .last h hr ⟨h.opensRange, hlast, UInt32.not_lt.1 hback⟩⟩
        · exact .inr ⟨_, .unended hr hlast⟩
    · exact .inr ⟨fault, .malformed hblank hfault⟩

theorem holds_or_offends (lines : List (List Char)) :
    (∃ items opened, Holds lines items opened) ∨
      ∃ before line after items opened fault, lines = before ++ line :: after ∧
        Holds before items opened ∧ Offends opened (before.length + 1) line fault := by
  induction lines using List.reverseRecOn with
  | nil => exact .inl ⟨[], none, .nil⟩
  | append_singleton lines line ih =>
    rcases ih with ⟨items, opened, h⟩ | ⟨before, bad, after, items, opened, fault, rfl, h, hbad⟩
    · rcases h.next line with hnext | ⟨fault, hbad⟩
      · exact .inl hnext
      · exact .inr ⟨lines, line, [], items, opened, fault, rfl, h, hbad⟩
    · exact .inr ⟨before, bad, after ++ [line], items, opened, fault, by simp, h, hbad⟩

theorem holds_or_stops (lines : List (List Char)) :
    (∃ items, Holds lines items none) ∨ ∃ items fault, Stops lines items fault := by
  rcases holds_or_offends lines with ⟨items, opened, hholds⟩ |
    ⟨before, line, after, items, opened, fault, hlines, hholds, hoffends⟩
  · cases opened with
    | none => exact .inl ⟨items, hholds⟩
    | some opening => exact .inr ⟨items, _, .unclosed hholds⟩
  · exact .inr ⟨items, fault, .offence hlines hholds hoffends⟩

namespace Progress

variable {p : Progress}

def reached (items : List Item) : Option (Nat × Record) → Progress
  | none => items.foldl Progress.after .start
  | some (opener, first) => (items.foldl Progress.after .start).opening opener first

theorem reached_concat (items : List Item) (i : Item) :
    reached (items ++ [i]) none = (reached items none).after i := by
  simp [reached]

theorem opened_reached (items : List Item) (opened : Option (Nat × Record)) :
    (reached items opened).opened = opened := by
  cases opened with
  | some opening => rfl
  | none =>
    rcases List.eq_nil_or_concat items with rfl | ⟨items, i, rfl⟩
    · rfl
    · rw [List.concat_eq_append, reached_concat]
      rfl

theorem log_reached (items : List Item) (opened : Option (Nat × Record)) :
    (reached items opened).log = items.flatMap Item.events := by
  have hnone : (reached items none).log = items.flatMap Item.events := by
    induction items using List.reverseRecOn with
    | nil => rfl
    | append_singleton items i ih =>
      rw [reached_concat, List.flatMap_append, ← ih]
      simp [after]
  cases opened with
  | none => exact hnone
  | some opening => exact hnone

theorem addLine_of_blank (h : line.all Text.Blank.isBlank = true) :
    p.addLine number line = .ok p := by
  rw [addLine, if_pos (isEmpty_trim_iff.2 h)]

theorem addLine_of_not_blank (h : line.all Text.Blank.isBlank = false) :
    p.addLine number line = (Record.ofLine number line).bind (p.add number) := by
  have hkept : ¬ (Text.Blank.trim line).isEmpty = true := by
    rw [isEmpty_trim_iff, h]
    exact Bool.false_ne_true
  rw [addLine, if_neg hkept]
  cases Record.ofLine number line <;> rfl

theorem addLine_of_standsOn (h : r.StandsOn line) : p.addLine number line = p.add number r := by
  rw [addLine_of_not_blank (not_blank_of_standsOn h), Record.ofLine_eq_ok_iff.2 h]
  rfl

theorem add_reached_none (items : List Item) (number : Nat) (r : Record) :
    (reached items none).add number r =
      if r.OpensRange then .ok (reached items (some (number, r)))
      else if r.ClosesRange then .error (.unpairedRange number)
      else .ok (reached (items ++ [.single r]) none) := by
  have hopened := opened_reached items none
  rw [reached_concat, add, hopened]
  exact begin_eq hopened

theorem add_reached_some (items : List Item) (opener number : Nat) (first r : Record) :
    (reached items (some (opener, first))).add number r =
      if ¬ r.EndsAsLast then .error (.unpairedRange opener)
      else if r.code < first.code then .error (.unpairedRange number)
      else .ok (reached (items ++ [.range first r]) none) := by
  rw [reached_concat]
  exact close_eq

end Progress

open Progress

theorem addLine_of_offends (h : Offends opened number line fault) (items : List Item) :
    (reached items opened).addLine number line = .error fault := by
  cases h with
  | malformed hblank hfault =>
    rw [addLine_of_not_blank hblank, ofLine_of_malformed hfault]
    rfl
  | unended hr hlast => rw [addLine_of_standsOn hr, add_reached_some, if_pos hlast]
  | backward hr hlast hback =>
    rw [addLine_of_standsOn hr, add_reached_some, if_neg (not_not_intro hlast), if_pos hback]
  | stray hr hcloses =>
    rw [addLine_of_standsOn hr, add_reached_none,
      if_neg fun hopens => not_closesRange_of_opensRange hopens hcloses, if_pos hcloses]

section Numbered

variable {p q : Progress} {rest : List (Nat × List Char)}

theorem readLines_of_ok (h : p.addLine number line = .ok q) :
    readLines p ((number, line) :: rest) = readLines q rest := by
  rw [readLines, h]

theorem readLines_of_error (h : p.addLine number line = .error fault) :
    readLines p ((number, line) :: rest) = ⟨.error fault, p.log⟩ := by
  rw [readLines, h]

def numbered (n : Nat) (lines : List (List Char)) : List (Nat × List Char) :=
  (lines.zipIdx n).map Prod.swap

theorem numbered_cons (n : Nat) (line : List Char) (lines : List (List Char)) :
    numbered n (line :: lines) = (n, line) :: numbered (n + 1) lines := by
  simp [numbered]

def Reaches (lines : List (List Char)) (p : Progress) : Prop :=
  ∀ rest, readLines .start (numbered 1 (lines ++ rest)) =
    readLines p (numbered (lines.length + 1) rest)

theorem Reaches.next (h : Reaches lines p) (hline : p.addLine (lines.length + 1) line = .ok q) :
    Reaches (lines ++ [line]) q := by
  intro rest
  rw [List.append_assoc, List.singleton_append, h, numbered_cons, readLines_of_ok hline,
    List.length_append, List.length_singleton]

theorem Reaches.readLines_eq_finish (h : Reaches lines p) :
    readLines .start (numbered 1 lines) = p.finish := by
  have hread := h []
  rw [List.append_nil] at hread
  exact hread

theorem Holds.reaches (h : Holds lines items opened) : Reaches lines (reached items opened) := by
  induction h with
  | nil => exact fun _ => rfl
  | blank _ hblank ih => exact ih.next (addLine_of_blank hblank)
  | single _ hr hwf ih =>
    refine ih.next ?_
    rw [addLine_of_standsOn hr, add_reached_none, if_neg hwf.1, if_neg hwf.2]
  | first _ hr hopens ih =>
    refine ih.next ?_
    rw [addLine_of_standsOn hr, add_reached_none, if_pos hopens]
  | last _ hr hwf ih =>
    refine ih.next ?_
    rw [addLine_of_standsOn hr, add_reached_some, if_neg (not_not_intro hwf.2.1),
      if_neg (UInt32.not_lt.2 hwf.2.2)]

theorem finish_reached_none (items : List Item) : (reached items none).finish =
    ⟨.ok (reached items none).entries.toList, items.flatMap Item.events⟩ := by
  simp only [finish, opened_reached, log_reached]

theorem readLines_of_stops (h : Stops lines items fault) :
    readLines .start (numbered 1 lines) = ⟨.error fault, items.flatMap Item.events⟩ := by
  cases h with
  | offence hlines hholds hoffends =>
    rw [hlines, hholds.reaches, numbered_cons,
      readLines_of_error (addLine_of_offends hoffends items), log_reached]
  | @unclosed opener first hholds =>
    rw [hholds.reaches.readLines_eq_finish, ← log_reached items (some (opener, first))]
    rfl

theorem exists_holds_of_readLines {es : List Entry} {log : List Event}
    (h : readLines .start (numbered 1 lines) = ⟨.ok es, log⟩) :
    ∃ items, Holds lines items none := by
  rcases holds_or_stops lines with hholds | ⟨items, fault, hstops⟩
  · exact hholds
  · rw [readLines_of_stops hstops] at h
    cases (Reading.mk.inj h).1

theorem exists_stops_of_readLines {log : List Event}
    (h : readLines .start (numbered 1 lines) = ⟨.error fault, log⟩) :
    ∃ items, Stops lines items fault := by
  rcases holds_or_stops lines with ⟨items, hholds⟩ | ⟨items, bad, hstops⟩
  · rw [hholds.reaches.readLines_eq_finish, finish_reached_none] at h
    cases (Reading.mk.inj h).1
  · rw [readLines_of_stops hstops] at h
    obtain rfl := Except.error.inj (Reading.mk.inj h).1
    exact ⟨items, hstops⟩

end Numbered

theorem read_eq_error_iff (text : String) (fault : Fault) (log : List Event) :
    read text = ⟨.error fault, log⟩ ↔ ∃ lines items, Text.Lines text.toList lines ∧
      Stops lines items fault ∧ log = items.flatMap Item.events := by
  have hread : read text = readLines .start (numbered 1 (Text.lines text.toList)) := rfl
  constructor
  · intro h
    rw [hread] at h
    obtain ⟨items, hstops⟩ := exists_stops_of_readLines h
    rw [readLines_of_stops hstops] at h
    exact ⟨_, items, Text.lines_lines _, hstops, (Reading.mk.inj h).2.symm⟩
  · rintro ⟨lines, items, hlines, hstops, rfl⟩
    rw [hread, hlines.lines_eq]
    exact readLines_of_stops hstops

/-- A text is refused for the first line that cannot come after the lines before it, or else for a
range that is open at its end, and the log then has the ranges that are left out among the items
that were complete. A line always has its first field, so a code is never missing. -/
theorem read_first_fault (text : String) :
    (∀ fault log, read text = ⟨.error fault, log⟩ ↔ ∃ lines items, Text.Lines text.toList lines ∧
        Stops lines items fault ∧ log = items.flatMap Item.events) ∧
      (∀ line : List Char, Text.fields line ≠ []) ∧
      ∀ number column, (read text).result = .error (.missingField number column) →
        column.title ≠ "code" := by
  refine ⟨read_eq_error_iff text, List.splitOn_ne_nil _, fun number column hfault => ?_⟩
  have hread : read text = ⟨.error (.missingField number column), (read text).log⟩ := by
    rw [← hfault]
  obtain ⟨lines, items, -, hstops, -⟩ := (read_eq_error_iff text _ _).1 hread
  have hcolumn := hstops.column_ne_code
  cases column with
  | code => exact absurd rfl hcolumn
  | name | category => decide

def unpaired : String :=
  "E000;<Private Use, First>;Co\n\nF8FF;<Private Use, Last>;Co\n" ++
    "AC00;<Hangul Syllable, First>;Lo\r\n \n0041;LATIN CAPITAL LETTER A;Lu"

theorem read_first_fault_unpaired : (∃ lines items, Text.Lines unpaired.toList lines ∧
      Stops lines items (.unpairedRange 4) ∧
      items.flatMap Item.events = [.rangeSkipped 0xE000 0xF8FF "<Private Use, Last>"]) ∧
    (read "0041;A").result = .error (.missingField 1 .category) ∧
    Column.category.title ≠ "code" := by
  have hread : read unpaired =
      ⟨.error (.unpairedRange 4), [.rangeSkipped 0xE000 0xF8FF "<Private Use, Last>"]⟩ := by
    obtain ⟨hresult, hlog⟩ : (read unpaired).result = .error (.unpairedRange 4) ∧
        (read unpaired).log = [.rangeSkipped 0xE000 0xF8FF "<Private Use, Last>"] := by
      decide +kernel
    rw [← hresult, ← hlog]
  have hshort : (read "0041;A").result = .error (.missingField 1 .category) := by decide +kernel
  obtain ⟨hfault, -⟩ := read_first_fault unpaired
  obtain ⟨lines, items, hlines, hstops, hevents⟩ := (hfault _ _).1 hread
  obtain ⟨-, -, hcode⟩ := read_first_fault "0041;A"
  exact ⟨⟨lines, items, hlines, hstops, hevents.symm⟩, hshort, hcode 1 .category hshort⟩

end CodeRuns.UnicodeData
