import CodeRuns.Proofs.Pipeline
import CodeRuns.Proofs.RunTable.BuildFaults
import CodeRuns.Proofs.UnicodeData.Ranges

/-! Entries in ascending order. If the code points of a text go up from record to record, then so do
the entries that are read from it: those of an item lie between its first and its last code point,
and the next item begins above them. A table can then be built from any entries there are. -/

namespace CodeRuns.UnicodeData

variable {text : String} {es : List Entry} {e : Entry} {items : List Item} {i j : Item}
  {r s first last : Record} {records : List Record} {lines : List (List Char)}

/-- A record goes up from the one before it. Only the last record of a range, which is the one
after a record that opens a range, may stay at the same code point. -/
def Record.Precedes (r s : Record) : Prop := r.code < s.code ∨ r.OpensRange ∧ r.code = s.code

instance (r s : Record) : Decidable (r.Precedes s) :=
  inferInstanceAs (Decidable (r.code < s.code ∨ r.OpensRange ∧ r.code = s.code))

def Climbs (text : String) : Prop :=
  ∀ lines, Text.Lines text.toList lines →
    (lines.filter fun line => !line.all Text.Blank.isBlank).IsChain fun line next =>
      ∀ r s, Record.StandsOn r line → Record.StandsOn s next → r.Precedes s

theorem isChain_precedes_iff (h : List.Forall₂ Record.StandsOn records lines) :
    (lines.IsChain fun line next =>
      ∀ r s, Record.StandsOn r line → Record.StandsOn s next → r.Precedes s) ↔
      records.IsChain Record.Precedes := by
  have hpair {r s : Record} {line next : List Char} (hr : r.StandsOn line)
      (hs : s.StandsOn next) :
      (∀ r s, Record.StandsOn r line → Record.StandsOn s next → r.Precedes s) ↔ r.Precedes s := by
    refine ⟨fun hall => hall r s hr hs, fun hrs r' s' hr' hs' => ?_⟩
    rwa [Record.leftUnique_standsOn hr' hr, Record.leftUnique_standsOn hs' hs]
  induction h with
  | nil => simp
  | cons hr h ih =>
    cases h with
    | nil => simp
    | cons hs h =>
      rw [List.isChain_cons_cons, List.isChain_cons_cons]
      exact and_congr (hpair hr hs) ih

theorem climbs_iff (h : IsText items text.toList) :
    Climbs text ↔ (items.flatMap Item.records).IsChain Record.Precedes := by
  obtain ⟨-, lines, hlines, hrecords⟩ := h
  rw [← isChain_precedes_iff hrecords]
  refine ⟨fun hclimbs => hclimbs lines hlines, fun hchain lines' hlines' => ?_⟩
  rwa [← hlines'.lines_eq, hlines.lines_eq]

theorem ascending_rangeAbove (first last : Record) :
    RunTable.Ascending (first.rangeAbove last) := by
  rw [Record.rangeAbove, RunTable.Ascending, List.pairwise_map]
  refine (List.pairwise_lt_range' 1).imp_of_mem fun {m n} hm hn hlt => ?_
  have hsmall := last.code.toNat_lt_size
  rw [List.mem_range'_1] at hm hn
  rw [UInt32.lt_iff_toNat_lt, UInt32.toNat_ofNat_of_lt' (by omega),
    UInt32.toNat_ofNat_of_lt' (by omega)]
  exact hlt

namespace Item

def lowest : Item → CodePoint
  | single r => r.code
  | range first _ => first.code

def highest : Item → CodePoint
  | single r => r.code
  | range _ last => last.code

def ListsFirst : Item → Prop
  | single _ => True
  | range first _ => ¬ first.LeftOut

theorem WellFormed.lowest_le_highest (h : i.WellFormed) : i.lowest ≤ i.highest := by
  cases i with
  | single r => exact UInt32.le_refl _
  | range first last => exact h.2.2

theorem within_of_mem_entries (h : i.WellFormed) (he : e ∈ i.entries) :
    i.lowest ≤ e.code ∧ e.code ≤ i.highest := by
  rw [mem_entries_iff] at he
  cases i with
  | single r => exact ⟨UInt32.le_of_eq he.1.symm, UInt32.le_of_eq he.1⟩
  | range first last =>
    obtain ⟨-, ⟨hfirst, -⟩ | ⟨habove, hlast, -⟩⟩ := he
    · exact ⟨UInt32.le_of_eq hfirst.symm, hfirst ▸ h.2.2⟩
    · exact ⟨UInt32.le_of_lt habove, hlast⟩

theorem ascending_entries (i : Item) : RunTable.Ascending i.entries := by
  cases i with
  | single r => exact List.pairwise_singleton _ _
  | range first last =>
    have habove := ascending_rangeAbove first last
    rw [entries_range]
    by_cases hlast : last.LeftOut
    · rw [if_pos hlast, List.append_nil]
      split
      · exact .nil
      · exact List.pairwise_singleton _ _
    · rw [if_neg hlast]
      split
      · exact habove
      · exact List.pairwise_cons.2 ⟨fun e he => (mem_rangeAbove_iff.1 he).2.1, habove⟩

theorem WellFormed.highest_lt_lowest (hi : i.WellFormed)
    (h : ∀ r ∈ i.records.getLast?, ∀ s ∈ j.records.head?, r.Precedes s) : i.highest < j.lowest := by
  have hlast : ∃ r ∈ i.records.getLast?, r.code = i.highest ∧ ¬ r.OpensRange := by
    cases i with
    | single r => exact ⟨r, rfl, rfl, hi.1⟩
    | range first last =>
      exact ⟨last, rfl, rfl, fun hopens => not_endsAsLast_of_opensRange hopens hi.2.1⟩
  have hfirst : ∃ s ∈ j.records.head?, s.code = j.lowest := by
    cases j with
    | single r => exact ⟨r, rfl, rfl⟩
    | range first last => exact ⟨first, rfl, rfl⟩
  obtain ⟨r, hr, hhighest, hopens⟩ := hlast
  obtain ⟨s, hs, hlowest⟩ := hfirst
  rw [← hhighest, ← hlowest]
  exact (h r hr s hs).resolve_right fun hstays => hopens hstays.1

theorem pairwise_of_records (hwf : ∀ i ∈ items, i.WellFormed)
    (hchain : (items.flatMap Item.records).IsChain Record.Precedes) :
    items.Pairwise fun i j => i.highest < j.lowest := by
  induction items with
  | nil => exact .nil
  | cons i items ih =>
    obtain ⟨hi, hitems⟩ := List.forall_mem_cons.1 hwf
    rw [List.flatMap_cons, List.isChain_append] at hchain
    obtain ⟨-, hrest, hjoin⟩ := hchain
    have hpairs := ih hitems hrest
    refine List.pairwise_cons.2 ⟨fun j hj => ?_, hpairs⟩
    cases items with
    | nil => cases hj
    | cons k items =>
      have hnext : i.highest < k.lowest := by
        refine hi.highest_lt_lowest fun r hr s hs => hjoin r hr s ?_
        rw [List.flatMap_cons, List.head?_append, hs, Option.some_or]
        rfl
      rcases List.mem_cons.1 hj with rfl | hj
      · exact hnext
      · have hk := (hitems k List.mem_cons_self).lowest_le_highest
        have hlater := List.rel_of_pairwise_cons hpairs hj
        exact UInt32.lt_of_lt_of_le hnext (UInt32.le_trans hk (UInt32.le_of_lt hlater))

theorem ascending_flatMap_entries (hwf : ∀ i ∈ items, i.WellFormed)
    (hchain : (items.flatMap Item.records).IsChain Record.Precedes) :
    RunTable.Ascending (items.flatMap entries) := by
  refine List.pairwise_flatMap.2 ⟨fun i _ => i.ascending_entries,
    (pairwise_of_records hwf hchain).imp_of_mem fun {i j} hi hj hij d hd e he => ?_⟩
  have hbelow := (within_of_mem_entries (hwf i hi) hd).2
  have habove := (within_of_mem_entries (hwf j hj) he).1
  exact UInt32.lt_of_le_of_lt hbelow (UInt32.lt_of_lt_of_le hij habove)

theorem ListsFirst.entries_ne_nil (h : i.ListsFirst) : i.entries ≠ [] := by
  cases i with
  | single r => exact List.cons_ne_nil _ _
  | range first last =>
    rw [entries_range, if_neg h]
    exact List.cons_ne_nil _ _

end Item

/-- If the code points of a text go up from line to line, the entries that are read from it ascend,
so that a table is refused only for having no entries at all. A single record is enough for a table,
and so is a range whose first code point is not left out. -/
theorem read_ascends (hfits : Fits text) (hread : (read text).result = .ok es)
    (hclimbs : Climbs text) : RunTable.Ascending es ∧
      (∀ fault, (RunTable.build es).result = .error fault → fault = .empty) ∧
      (es ≠ [] → ∃ t, (RunTable.build es).result = .ok t) ∧
      ∀ items, IsText items text.toList → (∃ i ∈ items, i.ListsFirst) →
        ∃ t, (RunTable.build es).result = .ok t := by
  obtain ⟨items, hitems, rfl, -⟩ :=
    (read_eq_ok_iff_of_fits hfits es (read text).log).1 (by rw [← hread])
  have hascends := Item.ascending_flatMap_entries hitems.1 ((climbs_iff hitems).1 hclimbs)
  have hbuild (hne : items.flatMap Item.entries ≠ []) :
      ∃ t, (RunTable.build (items.flatMap Item.entries)).result = .ok t :=
    ⟨_, (RunTable.build_eq_ok_iff _ _).2 ⟨hne, hascends, rfl⟩⟩
  refine ⟨hascends, fun fault hfault => ?_, hbuild, fun items' hitems' ⟨i, hi, hfirst⟩ => ?_⟩
  · by_cases hne : items.flatMap Item.entries = []
    · rw [hne] at hfault
      exact (Except.error.inj hfault).symm
    · obtain ⟨t, hbuilt⟩ := hbuild hne
      rw [hbuilt] at hfault
      cases hfault
  · obtain rfl := hitems'.unique hitems
    refine hbuild fun hnil => hfirst.entries_ne_nil ?_
    exact List.flatMap_eq_nil_iff.1 hnil i hi

def ladder : String := String.join
  ["3400;<Ideograph, First>;Lo\n", "3400;<Ideograph, Last>;Lo\n", "\n",
    "D800;<Surrogate, First>;Cs\n", "DFFF;<Surrogate, Last>;Cs\n", "E000;A;Lu\n",
    "E001;<B, First>;Nd\n", "E002;<B, Last>;Nd\n", "E003;<C, First>;Zs\n", "E004;<C, Last>;Zs"]

theorem read_ascends_ladder : Fits ladder ∧ Climbs ladder ∧ ∃ es,
    (read ladder).result = .ok es ∧ RunTable.Ascending es ∧
    es.map Entry.code = [0x3400, 0xE000, 0xE001, 0xE002, 0xE003, 0xE004] ∧
    ∃ t, (RunTable.build es).result = .ok t := by
  have hitems : IsText [
      .range ⟨0x3400, "<Ideograph, First>".toList, "Lo"⟩ ⟨0x3400, "<Ideograph, Last>".toList, "Lo"⟩,
      .range ⟨0xD800, "<Surrogate, First>".toList, "Cs"⟩ ⟨0xDFFF, "<Surrogate, Last>".toList, "Cs"⟩,
      .single ⟨0xE000, ['A'], "Lu"⟩,
      .range ⟨0xE001, "<B, First>".toList, "Nd"⟩ ⟨0xE002, "<B, Last>".toList, "Nd"⟩,
      .range ⟨0xE003, "<C, First>".toList, "Zs"⟩ ⟨0xE004, "<C, Last>".toList, "Zs"⟩]
      ladder.toList := by
    rw [ladder, String.toList_join]
    decide +kernel
  have hclimbs : Climbs ladder := (climbs_iff hitems).2 (by decide +kernel)
  have hfits : Fits ladder := fits_of_isText hitems (by decide +kernel)
  have hread := (read_eq_ok_iff_of_fits hfits _ _).2 ⟨_, hitems, rfl, rfl⟩
  have hresult := congrArg Reading.result hread
  obtain ⟨hascends, -, -, henough⟩ := read_ascends hfits hresult hclimbs
  exact ⟨hfits, hclimbs, _, hresult, hascends, by decide +kernel,
    henough _ hitems ⟨.single ⟨0xE000, ['A'], "Lu"⟩, by simp, trivial⟩⟩

end CodeRuns.UnicodeData
