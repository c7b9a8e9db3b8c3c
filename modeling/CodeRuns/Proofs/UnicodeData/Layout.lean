import CodeRuns.Proofs.UnicodeData.Lockstep

/-! What a reading does not depend on. Blank lines, white space around a code, the fields after
the third and the way in which lines end are layout: two texts that differ in nothing else are
read alike, and a fault in one is the same fault in the other, on the line that corresponds. -/

namespace CodeRuns.UnicodeData

variable {text text' : String} {line line' : List Char} {lines lines' : List (List Char)}

def filled (text : String) : List (Nat × List Char) :=
  (Text.numberedLines text.toList).filter fun line => !line.2.all Text.Blank.isBlank

/-- As many fields, counted up to three, and these the same but for white space around the
first. -/
structure SameFields (line line' : List Char) : Prop where
  count : min (Text.fields line).length 3 = min (Text.fields line').length 3
  first : (Text.fields line).head?.map Text.Blank.trim =
    (Text.fields line').head?.map Text.Blank.trim
  second : (Text.fields line)[1]? = (Text.fields line')[1]?
  third : (Text.fields line)[2]? = (Text.fields line')[2]?

instance (line line' : List Char) : Decidable (SameFields line line') :=
  decidable_of_iff (_ ∧ _ ∧ _ ∧ _)
    ⟨fun h => ⟨h.1, h.2.1, h.2.2.1, h.2.2.2⟩, fun h => ⟨h.count, h.first, h.second, h.third⟩⟩

def SameRecords (text text' : String) : Prop :=
  List.Forall₂ (fun line line' => SameFields line.2 line'.2) (filled text) (filled text')

instance (text text' : String) : Decidable (SameRecords text text') :=
  inferInstanceAs (Decidable (List.Forall₂ _ _ _))

def SamePlace (text text' : String) (n n' : Nat) : Prop :=
  ∃ (i : Nat) (line line' : List Char),
    (filled text)[i]? = some (n, line) ∧ (filled text')[i]? = some (n', line')

inductive Fault.Alike (R : Nat → Nat → Prop) : Fault → Fault → Prop
  | missingField {n n' : Nat} {column : Column} :
      R n n' → Alike R (.missingField n column) (.missingField n' column)
  | invalidCode {n n' : Nat} {value value' : String} : R n n' →
      Text.Blank.trim value.toList = Text.Blank.trim value'.toList →
      Alike R (.invalidCode n value) (.invalidCode n' value')
  | unpairedRange {n n' : Nat} : R n n' → Alike R (.unpairedRange n) (.unpairedRange n')

def SameEntries (text text' : String) : Prop :=
  ∀ es, (read text).result = .ok es ↔ (read text').result = .ok es

theorem SameFields.corresponds_ofLine {R : Nat → Nat → Prop} {n n' : Nat}
    (h : SameFields line line') (hn : R n n') :
    Corresponds (Fault.Alike R) Eq (Record.ofLine n line) (Record.ofLine n' line') := by
  obtain ⟨-, hfirst, hsecond, hthird⟩ := h
  obtain ⟨code, tail, hfields⟩ := List.exists_cons_of_ne_nil (List.splitOn_ne_nil ';' line)
  obtain ⟨code', tail', hfields'⟩ := List.exists_cons_of_ne_nil (List.splitOn_ne_nil ';' line')
  rw [← Text.fields] at hfields hfields'
  simp only [hfields, hfields', List.head?_cons, Option.map_some, Option.some.injEq,
    List.getElem?_cons_succ] at hfirst hsecond hthird
  simp only [Record.ofLine, hfields, hfields']
  -- the fields after the first are as many in both lines, up to two
  rcases tail with _ | ⟨name, _ | ⟨category, more⟩⟩ <;>
    rcases tail' with _ | ⟨name', _ | ⟨category', more'⟩⟩ <;>
    simp at hsecond hthird
  · exact .error (.missingField hn)
  · exact .error (.missingField hn)
  · obtain rfl := hsecond
    obtain rfl := hthird
    dsimp only
    rw [← hfirst]
    cases CodePoint.read? (Text.Blank.trim code) with
    | some c => exact .ok rfl
    | none => exact .error (.invalidCode hn (by simpa using hfirst))

theorem readLines_filter (p : Progress) (lines : List (Nat × List Char)) :
    readLines p (lines.filter fun line => !line.2.all Text.Blank.isBlank) = readLines p lines := by
  induction lines generalizing p with
  | nil => rfl
  | cons numbered lines ih =>
    obtain ⟨n, line⟩ := numbered
    cases hblank : line.all Text.Blank.isBlank with
    | true =>
      rw [List.filter_cons_of_neg (by simp [hblank]), ih,
        readLines_of_ok (Progress.addLine_of_blank hblank)]
    | false =>
      rw [List.filter_cons_of_pos (by simp [hblank]), readLines, readLines]
      cases p.addLine n line with
      | ok next => exact ih next
      | error fault => rfl

theorem SameRecords.lineFollows (h : SameRecords text text') :
    List.Forall₂ (LineFollows (SamePlace text text') (Fault.Alike (SamePlace text text')))
      (filled text) (filled text') := by
  have hblank (text : String) (i : Nat) (hi : i < (filled text).length) :
      ((filled text).get ⟨i, hi⟩).2.all Text.Blank.isBlank = false := by
    simpa using (List.mem_filter.1 (List.get_mem (filled text) ⟨i, hi⟩)).2
  obtain ⟨hlength, hsame⟩ := List.forall₂_iff_get.1 h
  refine List.forall₂_iff_get.2 ⟨hlength, fun i hi hi' => ?_⟩
  have hplace : SamePlace text text' ((filled text).get ⟨i, hi⟩).1
      ((filled text').get ⟨i, hi'⟩).1 :=
    ⟨i, _, _, List.getElem?_eq_getElem hi, List.getElem?_eq_getElem hi'⟩
  exact ⟨hplace, by rw [hblank, hblank], (hsame i hi hi').corresponds_ofLine hplace⟩

theorem SameRecords.follows (h : SameRecords text text') :
    (read text).Follows (Fault.Alike (SamePlace text text')) [] [] (read text') := by
  have hstart : Progress.start.Follows (SamePlace text text') [] [] Progress.start :=
    ⟨rfl, .none, rfl⟩
  have hread := readLines_follows (fun _ _ => .unpairedRange) hstart h.lineFollows
  rw [filled, filled, readLines_filter, readLines_filter] at hread
  exact hread

theorem SameRecords.corresponds (h : SameRecords text text') :
    Corresponds (Fault.Alike (SamePlace text text')) Eq (read text).result (read text').result :=
  h.follows.result.imp fun _ _ hes => hes.symm

theorem SameRecords.sameEntries (h : SameRecords text text') : SameEntries text text' :=
  fun _ => h.corresponds.eq_ok_iff

theorem sameRecords_of_lines (hlines : Text.Lines text.toList lines)
    (hlines' : Text.Lines text'.toList lines')
    (h : List.Forall₂ SameFields (lines.filter fun line => !line.all Text.Blank.isBlank)
      (lines'.filter fun line => !line.all Text.Blank.isBlank)) : SameRecords text text' := by
  rw [← hlines.lines_eq, ← hlines'.lines_eq, ← map_snd_numberedLines, ← map_snd_numberedLines,
    List.forall₂_map_left_iff, List.forall₂_map_right_iff] at h
  exact h

inductive Relaid : List Char → List Char → Prop
  | padded {before after code rest : List Char} : (∀ c ∈ before, Text.Blank.isBlank c = true) →
      (∀ c ∈ after, Text.Blank.isBlank c = true) → ';' ∉ code →
      (rest = [] ∨ ∃ more, rest = ';' :: more) →
      Relaid (code ++ rest) (before ++ code ++ after ++ rest)
  | continued {first second third more more' : List Char} : ';' ∉ first → ';' ∉ second →
      ';' ∉ third → Relaid (first ++ ';' :: (second ++ ';' :: (third ++ ';' :: more)))
        (first ++ ';' :: (second ++ ';' :: (third ++ ';' :: more')))

theorem semicolon_not_mem_of_blank {cs : List Char} (h : ∀ c ∈ cs, Text.Blank.isBlank c = true) :
    ';' ∉ cs := by
  intro hmem
  exact absurd (h ';' hmem) (by decide)

theorem SameFields.refl (line : List Char) : SameFields line line := ⟨rfl, rfl, rfl, rfl⟩

theorem Relaid.sameFields (h : Relaid line line') : SameFields line line' := by
  cases h with
  | @padded before after code rest hbefore hafter hcode hrest =>
    have hpadded : ';' ∉ before ++ code ++ after := by
      simp [semicolon_not_mem_of_blank hbefore, semicolon_not_mem_of_blank hafter, hcode]
    have hfields := Text.fields_append hcode hrest
    have hfields' := Text.fields_append hpadded hrest
    have htrim := Text.Blank.trim_append code hbefore hafter
    constructor <;> rw [hfields, hfields']
    · rfl
    · rw [List.head?_cons, List.head?_cons, Option.map_some, Option.map_some, htrim]
    · rfl
    · rfl
  | @continued first second third more more' hfirst hsecond hthird =>
    have hfields (more : List Char) :
        Text.fields (first ++ ';' :: (second ++ ';' :: (third ++ ';' :: more))) =
          first :: second :: third :: Text.fields more := by
      simp only [Text.fields, List.splitOn_append_cons_self_of_not_mem, hfirst, hsecond, hthird,
        not_false_eq_true]
    constructor <;> simp [hfields]

theorem Relaid.blank_eq (h : Relaid line line') (hline : line.all Text.Blank.isBlank = false) :
    line'.all Text.Blank.isBlank = false := by
  cases h with
  | padded =>
    simp only [List.all_append, Bool.and_eq_false_iff] at hline ⊢
    tauto
  | continued =>
    rw [List.all_eq_false]
    exact ⟨';', by simp, by decide⟩

theorem sameRecords_of_relaid (hlines : Text.Lines text.toList lines)
    (hlines' : Text.Lines text'.toList lines')
    (h : List.Forall₂ (fun line line' => line = line' ∨
      line.all Text.Blank.isBlank = false ∧ Relaid line line') lines lines') :
    SameRecords text text' := by
  refine sameRecords_of_lines hlines hlines' ?_
  clear hlines hlines'
  induction h with
  | nil => exact .nil
  | @cons line line' lines lines' hline _ ih =>
    rcases hline with rfl | ⟨hblank, hrelaid⟩
    · cases hblank : line.all Text.Blank.isBlank with
      | true =>
        rw [List.filter_cons_of_neg (by simp [hblank]), List.filter_cons_of_neg (by simp [hblank])]
        exact ih
      | false =>
        rw [List.filter_cons_of_pos (by simp [hblank]), List.filter_cons_of_pos (by simp [hblank])]
        exact .cons (.refl line) ih
    · rw [List.filter_cons_of_pos (by simp [hblank]),
        List.filter_cons_of_pos (by simp [hrelaid.blank_eq hblank])]
      exact .cons hrelaid.sameFields ih

/-- Texts whose lines hold the same records one by one have the same entries and the same events,
or faults that correspond. So blank lines may come and go anywhere, a code may be padded, a record
may go on in any way, and each line may end in a carriage return as well. -/
theorem read_layout (text text' : String) :
    (SameRecords text text' → (read text').log = (read text).log ∧
        Corresponds (Fault.Alike (SamePlace text text')) Eq (read text).result
          (read text').result) ∧
      (∀ lines lines', Text.Lines text.toList lines → Text.Lines text'.toList lines' →
        ((lines.filter fun line => !line.all Text.Blank.isBlank) =
            (lines'.filter fun line => !line.all Text.Blank.isBlank) → SameEntries text text') ∧
          (List.Forall₂ (fun line line' => line = line' ∨
            line.all Text.Blank.isBlank = false ∧ Relaid line line') lines lines' →
              SameEntries text text')) ∧
      ('\r' ∉ text.toList → text'.toList = Text.withReturns text.toList →
        SameEntries text text') := by
  refine ⟨fun h => ⟨h.follows.log, h.corresponds⟩, fun lines lines' hlines hlines' =>
    ⟨fun hfilled => ?_, fun hrelaid => ?_⟩, fun hreturn htext' => ?_⟩
  · refine (sameRecords_of_lines hlines hlines' ?_).sameEntries
    rw [hfilled]
    exact List.forall₂_same.2 fun line _ => .refl line
  · exact (sameRecords_of_relaid hlines hlines' hrelaid).sameEntries
  · have hlines := Text.lines_lines text.toList
    have hlines' := hlines.withReturns hreturn
    rw [← htext'] at hlines'
    refine (sameRecords_of_lines hlines hlines' ?_).sameEntries
    exact List.forall₂_same.2 fun line _ => .refl line

def torn : String := "0041;A;Lu;0\nAC00;<Hangul Syllable, First>;Lo\n"

def tornLoose : String := "\r\n 0041\t;A;Lu;L;N\n\nAC00;<Hangul Syllable, First>;Lo;;"

def whole : String := torn ++ "AC01;<Hangul Syllable, Last>;Lo\n"

def wholeLoose : String := tornLoose ++ "\r\n \nAC01;<Hangul Syllable, Last>;Lo"

theorem read_layout_loose :
    (SameRecords whole wholeLoose ∧ (read wholeLoose).log = (read whole).log ∧
        (read wholeLoose).result = .ok [⟨0x41, "Lu"⟩, ⟨0xAC00, "Lo"⟩, ⟨0xAC01, "Lo"⟩]) ∧
      (∃ n, SamePlace torn tornLoose 2 n ∧
        (read tornLoose).result = .error (.unpairedRange n)) ∧
      SameEntries whole (whole ++ " \r\n\n") ∧
      SameEntries "41;A;Lu;0" " 41\t;A;Lu;0" ∧ SameEntries "41;A;Lu;0" "41;A;Lu;L;N" ∧
      SameEntries whole (String.ofList (Text.withReturns whole.toList)) := by
  have hloose : SameRecords whole wholeLoose := by decide +kernel
  have htorn : SameRecords torn tornLoose := by decide +kernel
  have hwhole : (read whole).result = .ok [⟨0x41, "Lu"⟩, ⟨0xAC00, "Lo"⟩, ⟨0xAC01, "Lo"⟩] :=
    eq_ok_of_toOption (by decide +kernel)
  have hopen : (read torn).result = .error (.unpairedRange 2) := by decide +kernel
  have hlines (text : String) := Text.lines_lines text.toList
  have hbare : Text.Lines "41;A;Lu;0".toList ["41;A;Lu;0".toList] :=
    .unended (by decide) (by decide)
  refine ⟨⟨hloose, ?_⟩, ?_, ?_, ?_, ?_, ?_⟩
  · obtain ⟨hlog, hresult⟩ := (read_layout whole wholeLoose).1 hloose
    exact ⟨hlog, hresult.eq_ok_iff.1 hwhole⟩
  · obtain ⟨-, hresult⟩ := (read_layout torn tornLoose).1 htorn
    rw [hopen] at hresult
    obtain ⟨_, hfault, hplace⟩ := corresponds_error_iff.1 hresult
    cases hplace with
    | unpairedRange hplace => exact ⟨_, hplace, hfault⟩
  · exact ((read_layout _ _).2.1 _ _ (hlines _) (hlines _)).1 (by decide +kernel)
  · refine ((read_layout _ _).2.1 _ _ hbare (.unended (by decide) (by decide))).2
      (.cons (.inr ⟨by decide, ?_⟩) .nil)
    exact @Relaid.padded [' '] ['\t'] ['4', '1'] _ (List.forall_mem_singleton.2 (by decide))
      (List.forall_mem_singleton.2 (by decide)) (by decide) (.inr ⟨_, rfl⟩)
  · refine ((read_layout _ _).2.1 _ _ hbare (.unended (by decide) (by decide))).2
      (.cons (.inr ⟨by decide, ?_⟩) .nil)
    exact @Relaid.continued ['4', '1'] ['A'] ['L', 'u'] _ _ (by decide) (by decide) (by decide)
  · exact (read_layout _ _).2.2 (by decide +kernel) (by decide +kernel)

end CodeRuns.UnicodeData
