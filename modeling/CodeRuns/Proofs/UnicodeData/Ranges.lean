import CodeRuns.Proofs.UnicodeData.Faults

/-! Ranges as they are read. Whatever ends as a last line closes a range, under any name, and the
two names of a range decide apart on its first code point and on the others. So a range is taken
whole or left out whole exactly when its names agree on that, as the two names of one range do. -/

namespace CodeRuns.UnicodeData

variable {text : String} {es : List Entry} {first last : Record} {before after : List Item}
  {lines blanks rest : List (List Char)} {line next : List Char} {items : List Item}
  {opened : Option (Nat × Record)} {opener : Nat} {fault : Fault}

section Names

def Record.IsPair (first last : Record) : Prop :=
  ∃ x : List Char, first.name = '<' :: (x ++ ',' :: " First>".toList) ∧
    last.name = '<' :: (x ++ ',' :: " Last>".toList)

theorem leftOut_iff_of_name {r : Record} {x ending : List Char}
    (hname : r.name = '<' :: (x ++ ',' :: ending)) (hprivate : ¬ "Private Use".toList <:+: ending)
    (hsurrogate : ¬ "Surrogate".toList <:+: ending) :
    r.LeftOut ↔ "Private Use".toList <:+: '<' :: x ∨ "Surrogate".toList <:+: '<' :: x := by
  rw [Record.LeftOut, hname, ← List.cons_append, Text.infix_append_cons_iff (by decide),
    Text.infix_append_cons_iff (by decide)]
  simp only [hprivate, hsurrogate, or_false]

theorem Record.IsPair.leftOut_iff (h : first.IsPair last) : first.LeftOut ↔ last.LeftOut := by
  obtain ⟨x, hfirst, hlast⟩ := h
  rw [leftOut_iff_of_name hfirst (by decide +kernel) (by decide +kernel),
    leftOut_iff_of_name hlast (by decide +kernel) (by decide +kernel)]

end Names

section Shares

def Record.wholeRange (first last : Record) : List Entry :=
  (List.range' first.code.toNat (last.code.toNat + 1 - first.code.toNat)).map
    fun n => ⟨UInt32.ofNat n, first.category⟩

theorem wholeRange_eq_cons (h : first.code ≤ last.code) :
    first.wholeRange last = first.entry :: first.rangeAbove last := by
  have hle := UInt32.le_iff_toNat_le.1 h
  have hcount : last.code.toNat + 1 - first.code.toNat =
      last.code.toNat - first.code.toNat + 1 := by omega
  rw [Record.wholeRange, hcount, List.range'_succ, List.map_cons, UInt32.ofNat_toNat,
    Record.entry, Record.rangeAbove]

theorem rangeAbove_eq_nil_iff (h : first.code ≤ last.code) :
    first.rangeAbove last = [] ↔ first.code = last.code := by
  have hle := UInt32.le_iff_toNat_le.1 h
  rw [Record.rangeAbove, List.map_eq_nil_iff, List.range'_eq_nil_iff, ← UInt32.toNat_inj]
  omega

theorem entries_range (first last : Record) : (Item.range first last).entries =
    (if first.LeftOut then [] else [first.entry]) ++
      if last.LeftOut then [] else first.rangeAbove last := rfl

theorem entries_range_whole_iff (h : first.code ≤ last.code) :
    ((Item.range first last).entries = [] ∨
        (Item.range first last).entries = first.wholeRange last) ↔
      first.code = last.code ∨ (first.LeftOut ↔ last.LeftOut) := by
  rw [entries_range, wholeRange_eq_cons h, ← rangeAbove_eq_nil_iff h]
  by_cases hfirst : first.LeftOut <;> by_cases hlast : last.LeftOut <;> simp [hfirst, hlast]

/-- A range adds its entries between those of the items before and after it. It adds all of them or
none if and only if it has one code point or its two names agree on whether it is left out, which
the names of one range do. Else it adds its first code point alone or all but the first. -/
theorem range_share (hfits : Fits text)
    (h : IsText (before ++ .range first last :: after) text.toList) :
    ∃ share, (read text).result =
        .ok (before.flatMap Item.entries ++ share ++ after.flatMap Item.entries) ∧
      (share = [] ∨ share = first.wholeRange last ↔
        first.code = last.code ∨ (first.LeftOut ↔ last.LeftOut)) ∧
      (first.IsPair last → share = if first.LeftOut then [] else first.wholeRange last) ∧
      (¬ first.LeftOut → last.LeftOut → share = [first.entry]) ∧
      (first.LeftOut → ¬ last.LeftOut → share = (first.wholeRange last).tail) := by
  have hwf : (Item.range first last).WellFormed := h.1 _ (by simp)
  have hcode := hwf.2.2
  have hread := (read_eq_ok_iff_of_fits hfits _ _).2 ⟨_, h, rfl, rfl⟩
  refine ⟨(Item.range first last).entries, ?_, entries_range_whole_iff hcode, fun hpair => ?_,
    fun hfirst hlast => ?_, fun hfirst hlast => ?_⟩
  · rw [hread, List.flatMap_append, List.flatMap_cons, List.append_assoc]
  · rw [entries_range, wholeRange_eq_cons hcode]
    by_cases hfirst : first.LeftOut
    · simp [hfirst, hpair.leftOut_iff.1 hfirst]
    · simp [hfirst, mt hpair.leftOut_iff.2 hfirst]
  · rw [entries_range, if_neg hfirst, if_pos hlast, List.append_nil]
  · rw [entries_range, if_pos hfirst, if_neg hlast, List.nil_append, wholeRange_eq_cons hcode,
      List.tail_cons]

def halfListed : String := "AC00;<Hangul Syllable, First>;Lo\nAC03;<Private Use, Last>;Lo\n"

def syllableFirst : Record := ⟨0xAC00, "<Hangul Syllable, First>".toList, "Lo"⟩

def privateLast : Record := ⟨0xAC03, "<Private Use, Last>".toList, "Lo"⟩

theorem range_first_alone : IsText [.range syllableFirst privateLast] halfListed.toList ∧
    (read halfListed).result = .ok [syllableFirst.entry] ∧
    (read halfListed).log = [.rangeSkipped 0xAC00 0xAC03 "<Private Use, Last>"] ∧
    ¬ ([syllableFirst.entry] = [] ∨ [syllableFirst.entry] = syllableFirst.wholeRange privateLast) :=
  ⟨by decide +kernel, eq_ok_of_toOption (by decide +kernel), by decide +kernel, by decide +kernel⟩

def tailListed : String :=
  "0041;A;Lu\nE000;<Private Use, First>;Co\n\nE002;<Hangul Syllable, Last>;Lo\n0042;B;Lu"

theorem range_share_tail : Fits tailListed ∧ ∃ share, (read tailListed).result =
      .ok ([⟨0x41, "Lu"⟩] ++ share ++ [⟨0x42, "Lu"⟩]) ∧
    share = [⟨0xE001, "Co"⟩, ⟨0xE002, "Co"⟩] := by
  have h : IsText ([.single ⟨0x41, ['A'], "Lu"⟩] ++
      .range ⟨0xE000, "<Private Use, First>".toList, "Co"⟩
        ⟨0xE002, "<Hangul Syllable, Last>".toList, "Lo"⟩ ::
      [.single ⟨0x42, ['B'], "Lu"⟩]) tailListed.toList := by
    decide +kernel
  have hfits : Fits tailListed := fits_of_isText h (by decide +kernel)
  obtain ⟨share, hread, -, -, -, hshare⟩ := range_share hfits h
  exact ⟨hfits, share, hread, hshare (by decide +kernel) (by decide +kernel)⟩

end Shares

section Closing

def NextLine (rest : List (List Char)) (next : List Char) : Prop :=
  next.all Text.Blank.isBlank = false ∧ ∃ blanks after, rest = blanks ++ next :: after ∧
    ∀ blank ∈ blanks, blank.all Text.Blank.isBlank = true

theorem NextLine.cons (h : NextLine rest next) (hline : line.all Text.Blank.isBlank = true) :
    NextLine (line :: rest) next := by
  obtain ⟨hnext, blanks, after, rfl, hblanks⟩ := h
  exact ⟨hnext, line :: blanks, after, rfl, List.forall_mem_cons.2 ⟨hline, hblanks⟩⟩

theorem result_of_offence (hlines : Text.Lines text.toList (lines ++ line :: rest))
    (hholds : Holds lines items opened) (hoffends : Offends opened (lines.length + 1) line fault) :
    (read text).result = .error fault := by
  have hstops : Stops (lines ++ line :: rest) items fault := .offence rfl hholds hoffends
  rw [(read_eq_error_iff text fault _).2 ⟨_, items, hlines, hstops, rfl⟩]

theorem result_of_unclosed (hlines : Text.Lines text.toList lines)
    (hholds : Holds lines items (some (opener, first))) :
    (read text).result = .error (.unpairedRange opener) := by
  rw [(read_eq_error_iff text _ _).2 ⟨_, items, hlines, .unclosed hholds, rfl⟩]

theorem not_offends_of_read (hread : (read text).result = .ok es)
    (hlines : Text.Lines text.toList (lines ++ line :: rest)) (hholds : Holds lines items opened) :
    ¬ Offends opened (lines.length + 1) line fault := by
  intro hoffends
  rw [result_of_offence hlines hholds hoffends] at hread
  cases hread

theorem exists_holds_of_read (hread : (read text).result = .ok es)
    (hlines : Text.Lines text.toList (lines ++ rest)) :
    ∃ items opened, Holds lines items opened := by
  rcases holds_or_offends lines with hholds |
    ⟨lines, line, tail, items, opened, fault, rfl, hholds, h⟩
  · exact hholds
  · rw [List.append_assoc] at hlines
    exact absurd h (not_offends_of_read hread hlines hholds)

theorem Holds.append_blanks (h : Holds lines items opened)
    (hblanks : ∀ blank ∈ blanks, blank.all Text.Blank.isBlank = true) :
    Holds (lines ++ blanks) items opened := by
  induction blanks generalizing lines with
  | nil => rwa [List.append_nil]
  | cons blank blanks ih =>
    obtain ⟨hblank, hblanks⟩ := List.forall_mem_cons.1 hblanks
    rw [← List.singleton_append, ← List.append_assoc]
    exact ih (.blank h hblank) hblanks

theorem not_endsAsLast_of_opensRange (h : first.OpensRange) : ¬ first.EndsAsLast :=
  fun hlast => not_closesRange_of_opensRange h ⟨h.1, hlast⟩

theorem exists_last_of_read (hread : (read text).result = .ok es)
    (hlines : Text.Lines text.toList (lines ++ rest))
    (hholds : Holds lines items (some (opener, first))) :
    ∃ next last, NextLine rest next ∧ Record.StandsOn last next ∧ last.EndsAsLast ∧
      first.code ≤ last.code := by
  -- blank lines leave the range open, and the first other line has to close it
  induction rest generalizing lines with
  | nil =>
    rw [List.append_nil] at hlines
    rw [result_of_unclosed hlines hholds] at hread
    cases hread
  | cons line rest ih =>
    cases hblank : line.all Text.Blank.isBlank with
    | true =>
      have hlines' : Text.Lines text.toList (lines ++ [line] ++ rest) := by simpa using hlines
      obtain ⟨next, last, hnext, hlast⟩ := ih hlines' (.blank hholds hblank)
      exact ⟨next, last, hnext.cons hblank, hlast⟩
    | false =>
      have hfine (fault : Fault) :
          ¬ Offends (some (opener, first)) (lines.length + 1) line fault :=
        not_offends_of_read hread hlines hholds
      rcases standsOn_or_malformed (lines.length + 1) line with ⟨last, hlast⟩ | ⟨fault, hfault⟩
      · have hend : last.EndsAsLast := by
          by_contra hend
          exact hfine _ (.unended hlast hend)
        have hcode : first.code ≤ last.code := by
          by_contra hback
          exact hfine _ (.backward hlast hend (UInt32.not_le.1 hback))
        exact ⟨line, last, ⟨hblank, [], rest, rfl, by simp⟩, hlast, hend, hcode⟩
      · exact absurd (.malformed hblank hfault) (hfine fault)

/-- In a text that is read without a fault, the next record after one that opens a range ends as a
last one, under whatever name, and does not go back. If the next record does not end as a last one
or none follows, the text is refused for the line that opens the range. -/
theorem range_closed_by_next (text : String) :
    (∀ es lines line rest first, (read text).result = .ok es →
        Text.Lines text.toList (lines ++ line :: rest) → Record.StandsOn first line →
        first.OpensRange → ∃ next last, NextLine rest next ∧ Record.StandsOn last next ∧
          last.EndsAsLast ∧ first.code ≤ last.code) ∧
      ∀ lines items line rest first, Text.Lines text.toList (lines ++ line :: rest) →
        Holds lines items none → Record.StandsOn first line → first.OpensRange →
        (∀ blank ∈ rest, blank.all Text.Blank.isBlank = true) ∨
          (∃ next last, NextLine rest next ∧ Record.StandsOn last next ∧ ¬ last.EndsAsLast) →
        (read text).result = .error (.unpairedRange (lines.length + 1)) := by
  refine ⟨fun es lines line rest first hread hlines hfirst hopens => ?_,
    fun lines items line rest first hlines hholds hfirst hopens hrest => ?_⟩
  · obtain ⟨items, opened, hholds⟩ := exists_holds_of_read hread hlines
    cases opened with
    | none =>
      have hlines' : Text.Lines text.toList (lines ++ [line] ++ rest) := by simpa using hlines
      exact exists_last_of_read hread hlines' (.first hholds hfirst hopens)
    | some opening =>
      -- a range that is open already cannot be closed by a record that opens one
      exact absurd (.unended hfirst (not_endsAsLast_of_opensRange hopens))
        (not_offends_of_read hread hlines hholds)
  · have hopened := Holds.first hholds hfirst hopens
    rw [← List.singleton_append, ← List.append_assoc] at hlines
    rcases hrest with hblanks | ⟨next, last, ⟨-, blanks, after, rfl, hblanks⟩, hlast, hend⟩
    · exact result_of_unclosed hlines (hopened.append_blanks hblanks)
    · rw [← List.append_assoc] at hlines
      exact result_of_offence hlines (hopened.append_blanks hblanks) (.unended hlast hend)

def strangers : String :=
  "3400;<CJK Ideograph Extension A, First>;Lo\n3401;<CJK Ideograph, Last>;Lo"

def extensionFirst : Record := ⟨0x3400, "<CJK Ideograph Extension A, First>".toList, "Lo"⟩

def ideographLast : Record := ⟨0x3401, "<CJK Ideograph, Last>".toList, "Lo"⟩

theorem range_closed_by_stranger : IsText [.range extensionFirst ideographLast] strangers.toList ∧
    (read strangers).result = .ok [⟨0x3400, "Lo"⟩, ⟨0x3401, "Lo"⟩] ∧
    (∃ x, extensionFirst.name = '<' :: (x ++ ',' :: " First>".toList)) ∧
    ¬ extensionFirst.IsPair ideographLast := by
  refine ⟨by decide +kernel, eq_ok_of_toOption (by decide +kernel),
    ⟨"CJK Ideograph Extension A".toList, by decide +kernel⟩, ?_⟩
  rintro ⟨x, hfirst, hlast⟩
  -- the two names leave different lengths for what they share
  have hlong := congrArg List.length hfirst
  have hshort := congrArg List.length hlast
  simp [extensionFirst, ideographLast] at hlong hshort
  omega

def unended : String := "3400;<CJK Ideograph Extension A, First>;Lo\n \n0041;A;Lu"

theorem range_closed_by_next_strangers :
    (∃ next last, NextLine ["3401;<CJK Ideograph, Last>;Lo".toList] next ∧
        Record.StandsOn last next ∧ last.EndsAsLast ∧ extensionFirst.code ≤ last.code) ∧
      (read unended).result = .error (.unpairedRange 1) := by
  have hread : (read strangers).result = .ok [⟨0x3400, "Lo"⟩, ⟨0x3401, "Lo"⟩] :=
    eq_ok_of_toOption (by decide +kernel)
  have hfirst : extensionFirst.StandsOn "3400;<CJK Ideograph Extension A, First>;Lo".toList := by
    decide +kernel
  have hopens : extensionFirst.OpensRange := by decide +kernel
  have hlines : Text.Lines strangers.toList ([] ++
      "3400;<CJK Ideograph Extension A, First>;Lo".toList ::
        ["3401;<CJK Ideograph, Last>;Lo".toList]) := Text.lines_eq_iff.1 (by decide +kernel)
  have hunended : Text.Lines unended.toList ([] ++
      "3400;<CJK Ideograph Extension A, First>;Lo".toList :: [[' '], "0041;A;Lu".toList]) :=
    Text.lines_eq_iff.1 (by decide +kernel)
  have hnext : NextLine [[' '], "0041;A;Lu".toList] "0041;A;Lu".toList :=
    ⟨by decide, [[' ']], [], rfl, by decide⟩
  have hletter : Record.StandsOn ⟨0x41, ['A'], "Lu"⟩ "0041;A;Lu".toList := by decide +kernel
  have hend : ¬ Record.EndsAsLast ⟨0x41, ['A'], "Lu"⟩ := by decide
  exact ⟨(range_closed_by_next strangers).1 _ _ _ _ _ hread hlines hfirst hopens,
    (range_closed_by_next unended).2 _ _ _ _ _ hunended .nil hfirst hopens
      (.inr ⟨_, _, hnext, hletter, hend⟩)⟩

end Closing

end CodeRuns.UnicodeData
