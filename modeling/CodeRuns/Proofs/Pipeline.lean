import CodeRuns.Proofs.Listing.RoundTrip
import CodeRuns.Proofs.RunTable.Lookup
import CodeRuns.Proofs.UnicodeData.Reading

/-! From the text of the database to a look-up through its listing. What a text lists can be
said by its items alone, and the entries that are read are what it lists. -/

namespace CodeRuns
namespace UnicodeData

/-- The entries of a range have the category of its first record, and the names of its first
and last record decide on the code points that they stand for. -/
def Item.Lists : Item → Entry → Prop
  | .single r, e => e.code = r.code ∧ e.category = r.category
  | .range first last, e => e.category = first.category ∧
      (e.code = first.code ∧ ¬ first.LeftOut ∨
        first.code < e.code ∧ e.code ≤ last.code ∧ ¬ last.LeftOut)

def Lists (text : String) (e : Entry) : Prop :=
  ∃ items, IsText items text.toList ∧ ∃ i ∈ items, i.Lists e

variable {text : String} {es : List Entry} {e : Entry} {first last : Record}

theorem mem_rangeAbove_iff : e ∈ first.rangeAbove last ↔
    e.category = first.category ∧ first.code < e.code ∧ e.code ≤ last.code := by
  rw [Record.rangeAbove, List.mem_map, UInt32.lt_iff_toNat_lt, UInt32.le_iff_toNat_le]
  constructor
  · rintro ⟨n, hn, rfl⟩
    rw [List.mem_range'_1] at hn
    have hsmall : n < UInt32.size := by
      have := last.code.toNat_lt_size
      omega
    rw [UInt32.toNat_ofNat_of_lt' hsmall]
    exact ⟨rfl, by omega, by omega⟩
  · rintro ⟨hcategory, hlow, hhigh⟩
    refine ⟨e.code.toNat, List.mem_range'_1.2 (by omega), ?_⟩
    rw [UInt32.ofNat_toNat, ← hcategory]

theorem Item.mem_entries_iff (i : Item) : e ∈ i.entries ↔ i.Lists e := by
  obtain ⟨code, category⟩ := e
  cases i with
  | single r => simp [Item.entries, Item.Lists]
  | range first last =>
    rw [Item.entries, List.mem_append, List.mem_ite_nil_left, List.mem_ite_nil_left,
      mem_rangeAbove_iff, List.mem_singleton, Entry.mk.injEq, Item.Lists]
    tauto

theorem lists_iff_mem (hfits : Fits text) (hread : (read text).result = .ok es) :
    Lists text e ↔ e ∈ es := by
  obtain ⟨items, hitems, rfl, -⟩ :=
    (read_eq_ok_iff_of_fits hfits es (read text).log).1 (by rw [← hread])
  rw [List.mem_flatMap]
  constructor
  · rintro ⟨items', hitems', i, hi, he⟩
    obtain rfl := hitems'.unique hitems
    exact ⟨i, hi, i.mem_entries_iff.2 he⟩
  · rintro ⟨i, hi, he⟩
    exact ⟨items, hitems, i, hi, i.mem_entries_iff.1 he⟩

end UnicodeData

open UnicodeData Listing

/-- A listing made from a text of the database can be read back, and whatever table is read
from it makes a classifier that gives each listed code point the role of its category, a gap
the role of the nearest listed code point before it, and nothing outside of what is listed. -/
theorem listing_of_text_lookup {text : String} {es : List Entry} {made : RunTable} {h : Header}
    (hfits : Fits text) (hread : (read text).result = .ok es)
    (hbuild : (RunTable.build es).result = .ok made) (hline : h.OneLine) :
    (∃ t, Denotes (write made h .unlimited).sink.text.toList t) ∧
      ∀ t, Denotes (write made h .unlimited).sink.text.toList t →
        ∃ k, t.classifier = .ok k ∧
          (∀ e, Lists text e → k.get? e.code = some (Role.ofCategory e.category)) ∧
          (∀ c low high, Lists text low → Lists text high → low.code ≤ c → c ≤ high.code →
            ∃ e, Nearest Entry.code (Lists text) c e ∧
              k.get? c = some (Role.ofCategory e.category) ∧
              k.lookup c = Role.ofCategory e.category) ∧
          ∀ c, (∀ e, Lists text e → c < e.code) ∨ (∀ e, Lists text e → e.code < c) →
            k.get? c = none ∧ k.lookup c = .other := by
  have hlists : Lists text = (· ∈ es) := by
    funext e
    exact propext (lists_iff_mem hfits hread)
  have hdenotes : Denotes (write made h .unlimited).sink.text.toList made := by
    rw [text_write_unlimited]
    exact denotes_text made hline
  refine ⟨⟨_, hdenotes⟩, fun t ht => ?_⟩
  obtain ⟨k, hclassifier⟩ := RunTable.exists_classifier_of_build hbuild
  have hk := (RunTable.classifier_eq_ok_iff _ k).1 hclassifier
  obtain ⟨hne, hasc, -⟩ := (RunTable.build_eq_ok_iff es made).1 hbuild
  -- only the table that was written can be read back
  rw [hlists, ht.unique hdenotes]
  refine ⟨k, hclassifier, fun e he => ?_, fun c low high hlow hhigh hlc hch => ?_,
    fun c hc => ?_⟩
  · exact RunTable.get?_of_nearest_entry hbuild hk (Nearest.self he) hne (hasc.le_getLast he hne)
  · obtain ⟨e, he⟩ := Nearest.exists_of_mem hlow hlc
    have hinside := UInt32.le_trans hch (hasc.le_getLast hhigh hne)
    have hget := RunTable.get?_of_nearest_entry hbuild hk he hne hinside
    exact ⟨e, he, hget, k.lookup_of_get? hget⟩
  · have hget : k.get? c = none := by
      apply RunTable.get?_of_outside hbuild hk hne
      rintro ⟨hfirst, hlast⟩
      rcases hc with hbelow | habove
      · exact UInt32.not_lt.2 hfirst (hbelow _ (List.head_mem hne))
      · exact UInt32.not_lt.2 hlast (habove _ (List.getLast_mem hne))
    exact ⟨hget, k.lookup_of_none hget⟩

theorem listing_of_sample_lookup : Fits sample ∧ ∃ made t k,
    (RunTable.build [⟨0x41, "Lu"⟩, ⟨0xAC00, "Lo"⟩, ⟨0xAC01, "Lo"⟩, ⟨0xAC02, "Lo"⟩,
        ⟨0xFEFF, "Cf"⟩]).result = .ok made ∧
      Denotes (write made ⟨none⟩ .unlimited).sink.text.toList t ∧ t.classifier = .ok k ∧
      k.get? 0xAC01 = some .identifierStart ∧ k.get? 0xFEFF = some .formatControl ∧
      (∃ e, Nearest Entry.code (Lists sample) 0xE001 e ∧
        k.lookup 0xE001 = Role.ofCategory e.category) ∧ k.lookup 0x40 = .other := by
  have hbuild := (RunTable.build_eq_ok_iff [⟨0x41, "Lu"⟩, ⟨0xAC00, "Lo"⟩, ⟨0xAC01, "Lo"⟩,
    ⟨0xAC02, "Lo"⟩, ⟨0xFEFF, "Cf"⟩] _).2 ⟨List.cons_ne_nil _ _, by decide, rfl⟩
  have hline : Header.OneLine ⟨none⟩ := fun _ hv => nomatch hv
  obtain ⟨⟨t, ht⟩, hlookup⟩ := listing_of_text_lookup fits_sample read_sample hbuild hline
  obtain ⟨k, hk, hlisted, hinside, houtside⟩ := hlookup t ht
  have hsyllable : Lists sample ⟨0xAC01, "Lo"⟩ := (lists_iff_mem fits_sample read_sample).2 (by decide)
  have hmark : Lists sample ⟨0xFEFF, "Cf"⟩ := (lists_iff_mem fits_sample read_sample).2 (by decide)
  obtain ⟨e, he, -, hgap⟩ := hinside 0xE001 _ _ hsyllable hmark (by decide) (by decide)
  have hbelow : ∀ d, Lists sample d → 0x40 < d.code := by
    intro d hd
    rw [lists_iff_mem fits_sample read_sample] at hd
    revert d
    decide
  exact ⟨fits_sample, _, t, k, hbuild, ht, hk, hlisted _ hsyllable, hlisted _ hmark, ⟨e, he, hgap⟩,
    (houtside 0x40 (.inl hbelow)).2⟩

end CodeRuns
