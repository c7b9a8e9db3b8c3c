import CodeRuns.Proofs.UnicodeData.Grammar

/-! Reading follows the grammar. Between two items no range is open, and an item that is read
adds its entries and events; a first record leaves a range open until its last record comes.
Main statement: reading accepts exactly the texts of the grammar, with the entries and the
events of their items in order. -/

namespace CodeRuns.UnicodeData

variable {p q : Progress} {n m : Nat} {r first last : Record} {es : List Entry}
  {log : List Event} {records : List (Nat × Record)}

def Item.listed : Item → List Entry
  | single r => [r.entry]
  | range first last =>
    (if first.LeftOut then [] else [first.entry]) ++
      if last.LeftOut then [] else first.entriesAbove last

theorem Item.listed_eq {i : Item} (h : i.Fits) : i.listed = i.entries := by
  cases i with
  | single r => rfl
  | range first last =>
    rw [listed, entries]
    by_cases hlast : last.LeftOut
    · rw [if_pos hlast, if_pos hlast]
      rfl
    · rw [if_neg hlast, if_neg hlast, Record.entriesAbove_eq (h hlast)]
      rfl

namespace Progress

def after (p : Progress) (i : Item) : Progress :=
  ⟨p.entries ++ i.listed.toArray, none, p.log ++ i.events⟩

def opening (p : Progress) (n : Nat) (first : Record) : Progress :=
  ⟨if first.LeftOut then p.entries else p.entries.push first.entry, some (n, first), p.log⟩

theorem begin_eq (hopened : p.opened = none) : p.begin n r =
    if r.OpensRange then .ok (p.opening n r)
    else if r.ClosesRange then .error (.unpairedRange n) else .ok (p.after (.single r)) := by
  obtain ⟨entries, _, log⟩ := p
  obtain rfl : _ = none := hopened
  unfold Progress.begin
  simp only [Record.opensRange_iff, Record.closesRange_iff, Record.leftOut_iff]
  split
  · rfl
  · split
    · rfl
    · simp [after, Item.listed, Item.events]

theorem close_eq : (p.opening n first).close n first m last =
    if ¬ last.EndsAsLast then .error (.unpairedRange n)
    else if last.code < first.code then .error (.unpairedRange m)
    else .ok (p.after (.range first last)) := by
  unfold Progress.close
  simp only [Bool.not_eq_true', ← Bool.not_eq_true, Record.endsAsLast_iff, Record.leftOut_iff]
  split
  · rfl
  · split
    · rfl
    · split
      · rename_i hlast
        by_cases hfirst : first.LeftOut <;>
          simp [after, opening, Item.listed, Item.events, hlast, hfirst]
      · rename_i hlast
        by_cases hfirst : first.LeftOut <;>
          simp [after, opening, Item.listed, Item.events, hlast, hfirst]

end Progress

def readRecords (p : Progress) : List (Nat × Record) → Reading
  | [] => p.finish
  | (number, r) :: rest =>
    match p.add number r with
    | .ok next => readRecords next rest
    | .error fault => ⟨.error fault, p.log⟩

theorem readRecords_cons_eq_ok_iff : readRecords p ((n, r) :: records) = ⟨.ok es, log⟩ ↔
    ∃ q, p.add n r = .ok q ∧ readRecords q records = ⟨.ok es, log⟩ := by
  rw [readRecords]
  cases p.add n r <;> simp

theorem readRecords_nil_eq_ok_iff : readRecords p [] = ⟨.ok es, log⟩ ↔
    p.opened = none ∧ es = p.entries.toList ∧ log = p.log := by
  rw [readRecords, Progress.finish]
  cases p.opened <;> simp [eq_comm]

theorem readRecords_single (hopened : p.opened = none) (hwf : (Item.single r).WellFormed) :
    readRecords p ((n, r) :: records) = readRecords (p.after (.single r)) records := by
  have hbegin : p.begin n r = .ok (p.after (.single r)) := by
    rw [Progress.begin_eq hopened, if_neg hwf.1, if_neg hwf.2]
  simp only [readRecords, Progress.add, hopened, hbegin]

theorem readRecords_range (hopened : p.opened = none)
    (hwf : (Item.range first last).WellFormed) :
    readRecords p ((n, first) :: (m, last) :: records) =
      readRecords (p.after (.range first last)) records := by
  have hbegin : p.begin n first = .ok (p.opening n first) := by
    rw [Progress.begin_eq hopened, if_pos hwf.1]
  have hclose : (p.opening n first).close n first m last = .ok (p.after (.range first last)) := by
    rw [Progress.close_eq, if_neg (not_not_intro hwf.2.1), if_neg (UInt32.not_lt.2 hwf.2.2)]
  have hopening : (p.opening n first).opened = some (n, first) := rfl
  simp only [readRecords, Progress.add, hopened, hbegin, hopening, hclose]

theorem readRecords_of_items {items : List Item} (hopened : p.opened = none)
    (hwf : ∀ i ∈ items, i.WellFormed)
    (hrecords : records.map Prod.snd = items.flatMap Item.records) :
    readRecords p records = ⟨.ok (p.entries.toList ++ items.flatMap Item.listed),
      p.log ++ items.flatMap Item.events⟩ := by
  -- every item leaves no range open for the next one
  induction items generalizing p records with
  | nil =>
    obtain rfl := List.map_eq_nil_iff.1 hrecords
    rw [readRecords_nil_eq_ok_iff]
    simp [hopened]
  | cons i items ih =>
    have hi := hwf i List.mem_cons_self
    have hrest := fun other hother => hwf other (List.mem_cons_of_mem _ hother)
    rw [List.flatMap_cons] at hrecords
    cases i with
    | single r =>
      obtain ⟨⟨n, _⟩, records, rfl, rfl, htail⟩ := List.map_eq_cons_iff.1 hrecords
      rw [readRecords_single hopened hi, ih rfl hrest htail]
      simp [Progress.after]
    | range first last =>
      obtain ⟨⟨n, _⟩, tail, rfl, rfl, hlast⟩ := List.map_eq_cons_iff.1 hrecords
      obtain ⟨⟨m, _⟩, records, rfl, rfl, htail⟩ := List.map_eq_cons_iff.1 hlast
      rw [readRecords_range hopened hi, ih rfl hrest htail]
      simp [Progress.after]

theorem exists_item_of_readRecords (hopened : p.opened = none)
    (h : readRecords p ((n, r) :: records) = ⟨.ok es, log⟩) :
    ∃ i rest, i.WellFormed ∧ ((n, r) :: records).map Prod.snd = i.records ++ rest.map Prod.snd ∧
      rest.length ≤ records.length ∧ readRecords (p.after i) rest = ⟨.ok es, log⟩ := by
  obtain ⟨q, hadd, hrest⟩ := readRecords_cons_eq_ok_iff.1 h
  rw [Progress.add, hopened] at hadd
  simp only [Progress.begin_eq hopened] at hadd
  split at hadd
  · rename_i hopens
    obtain rfl := Except.ok.inj hadd
    -- a range is open now, and only its last record keeps the reading going
    cases records with
    | nil => cases (readRecords_nil_eq_ok_iff.1 hrest).1
    | cons next records =>
      obtain ⟨m, last⟩ := next
      obtain ⟨q, hadd, hrest⟩ := readRecords_cons_eq_ok_iff.1 hrest
      have hclose : (p.opening n r).close n r m last = .ok q := hadd
      rw [Progress.close_eq] at hclose
      split at hclose
      · cases hclose
      · split at hclose
        · cases hclose
        · rename_i hlast hback
          obtain rfl := Except.ok.inj hclose
          exact ⟨.range r last, records,
            ⟨hopens, not_not.1 hlast, UInt32.not_lt.1 hback⟩, rfl, by simp, hrest⟩
  · split at hadd
    · cases hadd
    · rename_i hopens hcloses
      obtain rfl := Except.ok.inj hadd
      exact ⟨.single r, records, ⟨hopens, hcloses⟩, rfl, Nat.le_refl _, hrest⟩

theorem exists_items_of_readRecords (hopened : p.opened = none)
    (h : readRecords p records = ⟨.ok es, log⟩) :
    ∃ items : List Item, (∀ i ∈ items, i.WellFormed) ∧
      records.map Prod.snd = items.flatMap Item.records := by
  -- an item takes one record or two, so the induction is on how many are left
  induction hlen : records.length using Nat.strongRecOn generalizing p records with
  | ind length ih =>
    cases records with
    | nil => exact ⟨[], by simp, rfl⟩
    | cons first records =>
      obtain ⟨i, rest, hi, hrecords, hle, hrest⟩ := exists_item_of_readRecords hopened h
      obtain ⟨items, hwf, hitems⟩ :=
        ih rest.length (by rw [List.length_cons] at hlen; omega) rfl hrest rfl
      refine ⟨i :: items, List.forall_mem_cons.2 ⟨hi, hwf⟩, ?_⟩
      rw [hrecords, hitems, List.flatMap_cons]

theorem readRecords_eq_ok_iff (hopened : p.opened = none) :
    readRecords p records = ⟨.ok es, log⟩ ↔ ∃ items : List Item, (∀ i ∈ items, i.WellFormed) ∧
      records.map Prod.snd = items.flatMap Item.records ∧
      es = p.entries.toList ++ items.flatMap Item.listed ∧
      log = p.log ++ items.flatMap Item.events := by
  constructor
  · intro h
    obtain ⟨items, hwf, hrecords⟩ := exists_items_of_readRecords hopened h
    rw [readRecords_of_items hopened hwf hrecords] at h
    obtain ⟨hes, hlog⟩ := Reading.mk.inj h
    exact ⟨items, hwf, hrecords, (Except.ok.inj hes).symm, hlog.symm⟩
  · rintro ⟨items, hwf, hrecords, rfl, rfl⟩
    exact readRecords_of_items hopened hwf hrecords

section Lines

variable {line : List Char} {lines : List (Nat × List Char)}

theorem isEmpty_trim_iff : (Text.Blank.trim line).isEmpty = true ↔
    line.all Text.Blank.isBlank = true := by
  rw [List.isEmpty_iff, Text.Blank.trim_eq_nil_iff]

theorem readLines_eq_ok_iff : readLines p lines = ⟨.ok es, log⟩ ↔
    ∃ records : List (Nat × Record),
      List.Forall₂ (fun r line => r.1 = line.1 ∧ r.2.StandsOn line.2) records
        (lines.filter fun line => !line.2.all Text.Blank.isBlank) ∧
      readRecords p records = ⟨.ok es, log⟩ := by
  induction lines generalizing p with
  | nil => simp [readLines, readRecords]
  | cons numbered lines ih =>
    obtain ⟨n, line⟩ := numbered
    rw [readLines, Progress.addLine]
    by_cases hblank : line.all Text.Blank.isBlank = true
    · rw [if_pos (isEmpty_trim_iff.2 hblank), List.filter_cons_of_neg (by simp [hblank])]
      exact ih
    · rw [if_neg fun h => hblank (isEmpty_trim_iff.1 h),
        List.filter_cons_of_pos (by simpa using hblank)]
      cases hline : Record.ofLine n line with
      | error fault =>
        constructor
        · intro h
          cases (Reading.mk.inj h).1
        · rintro ⟨_, hrecords, -⟩
          cases hrecords with
          | cons hr _ =>
            rw [Record.ofLine_eq_ok_iff.2 hr.2] at hline
            cases hline
      | ok r =>
        have hr := Record.ofLine_eq_ok_iff.1 hline
        constructor
        · intro h
          cases hadd : p.add n r with
          | error fault =>
            simp only [hadd] at h
            cases (Reading.mk.inj h).1
          | ok next =>
            simp only [hadd] at h
            obtain ⟨records, hrecords, hread⟩ := ih.1 h
            exact ⟨(n, r) :: records, .cons ⟨rfl, hr⟩ hrecords,
              readRecords_cons_eq_ok_iff.2 ⟨next, hadd, hread⟩⟩
        · rintro ⟨_, hrecords, hread⟩
          cases hrecords with
          | @cons first _ records _ hfirst hrecords =>
            obtain ⟨m, s⟩ := first
            obtain ⟨rfl, hs⟩ := hfirst
            have hsame := hline.symm.trans (Record.ofLine_eq_ok_iff.2 hs)
            obtain rfl := Except.ok.inj hsame
            obtain ⟨next, hadd, hread⟩ := readRecords_cons_eq_ok_iff.1 hread
            simp only [hadd]
            exact ih.2 ⟨records, hrecords, hread⟩

theorem exists_numbered_iff {rs : List Record} :
    (∃ records : List (Nat × Record), records.map Prod.snd = rs ∧
      List.Forall₂ (fun r line => r.1 = line.1 ∧ r.2.StandsOn line.2) records lines) ↔
    List.Forall₂ Record.StandsOn rs (lines.map Prod.snd) := by
  constructor
  · rintro ⟨records, rfl, hrecords⟩
    rw [List.forall₂_map_left_iff, List.forall₂_map_right_iff]
    exact hrecords.imp fun _ _ h => h.2
  · intro h
    induction lines generalizing rs with
    | nil =>
      cases h
      exact ⟨[], rfl, .nil⟩
    | cons line lines ih =>
      cases h with
      | cons hr h =>
        obtain ⟨records, hmap, hrecords⟩ := ih h
        exact ⟨(line.1, _) :: records, by rw [List.map_cons, hmap], .cons ⟨rfl, hr⟩ hrecords⟩

theorem map_snd_numberedLines (cs : List Char) :
    ((Text.numberedLines cs).filter fun line => !line.2.all Text.Blank.isBlank).map Prod.snd =
      (Text.lines cs).filter fun line => !line.all Text.Blank.isBlank := by
  have hlines : (Text.numberedLines cs).map Prod.snd = Text.lines cs := by
    rw [Text.numberedLines, List.map_map]
    exact List.zipIdx_map_fst 1 _
  rw [← hlines, List.filter_map]
  rfl

end Lines

theorem read_eq_ok_iff (text : String) (es : List Entry) (log : List Event) :
    read text = ⟨.ok es, log⟩ ↔ ∃ items : List Item, IsText items text.toList ∧
      es = items.flatMap Item.listed ∧ log = items.flatMap Item.events := by
  have hstart (records : List (Nat × Record)) : readRecords .start records = ⟨.ok es, log⟩ ↔
      ∃ items : List Item, (∀ i ∈ items, i.WellFormed) ∧
        records.map Prod.snd = items.flatMap Item.records ∧
        es = items.flatMap Item.listed ∧ log = items.flatMap Item.events :=
    readRecords_eq_ok_iff rfl
  rw [read, readLines_eq_ok_iff]
  constructor
  · rintro ⟨records, hrecords, hread⟩
    obtain ⟨items, hwf, hitems, hes, hlog⟩ := (hstart records).1 hread
    have hlines := exists_numbered_iff.1 ⟨records, hitems, hrecords⟩
    rw [map_snd_numberedLines] at hlines
    exact ⟨items, ⟨hwf, _, Text.lines_lines _, hlines⟩, hes, hlog⟩
  · rintro ⟨items, ⟨hwf, lines, htext, hlines⟩, hes, hlog⟩
    rw [← htext.lines_eq, ← map_snd_numberedLines] at hlines
    obtain ⟨records, hitems, hrecords⟩ := exists_numbered_iff.2 hlines
    exact ⟨records, hrecords, (hstart records).2 ⟨items, hwf, hitems, hes, hlog⟩⟩

section Unique

variable {items items' : List Item} {cs : List Char}

theorem items_unique (hwf : ∀ i ∈ items, i.WellFormed) (hwf' : ∀ i ∈ items', i.WellFormed)
    (h : items.flatMap Item.records = items'.flatMap Item.records) : items = items' := by
  induction items generalizing items' with
  | nil =>
    cases items' with
    | nil => rfl
    | cons i' _ => cases i' <;> cases h
  | cons i items ih =>
    cases items' with
    | nil => cases i <;> cases h
    | cons i' items' =>
      obtain ⟨hi, hrest⟩ := List.forall_mem_cons.1 hwf
      obtain ⟨hi', hrest'⟩ := List.forall_mem_cons.1 hwf'
      cases i with
      | single r =>
        cases i' with
        | single r' =>
          obtain ⟨rfl, htail⟩ := List.cons.inj h
          rw [ih hrest hrest' htail]
        | range first' last' =>
          obtain ⟨rfl, -⟩ := List.cons.inj h
          exact absurd hi'.1 hi.1
      | range first last =>
        cases i' with
        | single r' =>
          obtain ⟨rfl, -⟩ := List.cons.inj h
          exact absurd hi.1 hi'.1
        | range first' last' =>
          obtain ⟨rfl, hlast⟩ := List.cons.inj h
          obtain ⟨rfl, htail⟩ := List.cons.inj hlast
          rw [ih hrest hrest' htail]

theorem IsText.unique (h : IsText items cs) (h' : IsText items' cs) : items = items' := by
  obtain ⟨hwf, lines, hlines, hrecords⟩ := h
  obtain ⟨hwf', lines', hlines', hrecords'⟩ := h'
  obtain rfl : lines = lines' := hlines.lines_eq.symm.trans hlines'.lines_eq
  exact items_unique hwf hwf'
    (List.left_unique_forall₂' Record.leftUnique_standsOn hrecords hrecords')

end Unique

/-- No range of the text that is listed begins at the highest code point. -/
def Fits (text : String) : Prop :=
  ∀ items, IsText items text.toList → ∀ i ∈ items, i.Fits

theorem fits_of_isText {text : String} {items : List Item} (h : IsText items text.toList)
    (hitems : ∀ i ∈ items, i.Fits) : Fits text := by
  intro items' h'
  rwa [h'.unique h]

theorem read_eq_ok_iff_of_fits {text : String} (hfits : Fits text) (es : List Entry)
    (log : List Event) : read text = ⟨.ok es, log⟩ ↔ ∃ items : List Item,
      IsText items text.toList ∧ es = items.flatMap Item.entries ∧
        log = items.flatMap Item.events := by
  rw [read_eq_ok_iff]
  refine exists_congr fun items => and_congr_right fun h => ?_
  rw [List.flatMap_congr fun i hi => Item.listed_eq (hfits items h i hi)]

/-- A text is read without a fault exactly when it divides into items. It does so in one way
only, and what is read are the entries of the items, with their events as the log. -/
theorem read_accepts_grammar {text : String} (hfits : Fits text) :
    ((∃ es, (read text).result = .ok es) ↔ ∃ items : List Item, IsText items text.toList) ∧
      ∀ items : List Item, IsText items text.toList →
        read text = ⟨.ok (items.flatMap Item.entries), items.flatMap Item.events⟩ ∧
          ∀ items', IsText items' text.toList → items' = items := by
  refine ⟨⟨?_, ?_⟩, fun items h => ⟨?_, fun items' h' => h'.unique h⟩⟩
  · rintro ⟨es, hes⟩
    obtain ⟨items, h, -, -⟩ := (read_eq_ok_iff text es (read text).log).1 (by rw [← hes])
    exact ⟨items, h⟩
  · rintro ⟨items, h⟩
    have hread := (read_eq_ok_iff text _ _).2 ⟨items, h, rfl, rfl⟩
    exact ⟨_, by rw [hread]⟩
  · exact (read_eq_ok_iff_of_fits hfits _ _).2 ⟨items, h, rfl, rfl⟩

theorem eq_ok_of_toOption {ε α : Type} {x : Except ε α} {a : α} (h : x.toOption = some a) :
    x = .ok a := by
  cases x with
  | error => cases h
  | ok => rw [Option.some.inj h]

def sample : String :=
  "0041;LATIN CAPITAL LETTER A;Lu;0\n+ac00;<Hangul Syllable, First>;Lo;0\r\n \n" ++
    "AC02;<Hangul Syllable, Last>;Lo;0\nE000;<Private Use, First>;Co\n" ++
    "F8FF;<Private Use, Last>;Co\n0FEFF;ZERO WIDTH NO-BREAK SPACE;Cf"

theorem read_sample : (read sample).result =
    .ok [⟨0x41, "Lu"⟩, ⟨0xAC00, "Lo"⟩, ⟨0xAC01, "Lo"⟩, ⟨0xAC02, "Lo"⟩, ⟨0xFEFF, "Cf"⟩] :=
  eq_ok_of_toOption (by decide +kernel)

def sampleItems : List Item :=
  [.single ⟨0x41, "LATIN CAPITAL LETTER A".toList, "Lu"⟩,
    .range ⟨0xAC00, "<Hangul Syllable, First>".toList, "Lo"⟩
      ⟨0xAC02, "<Hangul Syllable, Last>".toList, "Lo"⟩,
    .range ⟨0xE000, "<Private Use, First>".toList, "Co"⟩
      ⟨0xF8FF, "<Private Use, Last>".toList, "Co"⟩,
    .single ⟨0xFEFF, "ZERO WIDTH NO-BREAK SPACE".toList, "Cf"⟩]

theorem isText_sample : IsText sampleItems sample.toList := by decide +kernel

theorem fits_sample : Fits sample := fits_of_isText isText_sample (by decide +kernel)

theorem read_accepts_sample : Fits sample ∧ (read sample).result =
      .ok [⟨0x41, "Lu"⟩, ⟨0xAC00, "Lo"⟩, ⟨0xAC01, "Lo"⟩, ⟨0xAC02, "Lo"⟩, ⟨0xFEFF, "Cf"⟩] ∧
    (read sample).log = [.rangeSkipped 0xE000 0xF8FF "<Private Use, Last>"] ∧
    ∀ items, IsText items sample.toList → items = sampleItems := by
  obtain ⟨-, hvalue⟩ := read_accepts_grammar fits_sample
  obtain ⟨hread, hunique⟩ := hvalue sampleItems isText_sample
  exact ⟨fits_sample, by rw [read_sample], by rw [hread]; decide +kernel, hunique⟩

end CodeRuns.UnicodeData
