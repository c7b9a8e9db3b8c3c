import CodeRuns.Proofs.RunTable.Lookup
import Mathlib.Algebra.Group.Nat.Defs
import Mathlib.Data.List.FinRange

/-! The shape of a table that was built, said by the places of its entries. The entry at a place
opens a run when it is the first one, or does not come right after the one before it, or has
another role; a run repeats the role of the run before it exactly at a gap. -/

namespace CodeRuns.RunTable

variable {es rest : List Entry} {before e : Entry} {r : Run}

def OpensAt (es : List Entry) (i : Fin es.length) : Prop :=
  i.val = 0 ∨ es[i].code.toNat ≠ es[i.val - 1].code.toNat + 1 ∨ es[i].role ≠ es[i.val - 1].role

instance (i : Fin es.length) : Decidable (OpensAt es i) :=
  inferInstanceAs (Decidable (_ ∨ _))

def openCount (es : List Entry) (r : Role) : Nat :=
  (List.finRange es.length).countP fun i => OpensAt es i ∧ Role.ofCategory es[i].category = r

/-- The runs that have the role of the run before them. -/
def repeating (rs : List Run) : List Run :=
  ((rs.zip rs.tail).filter fun p => p.1.role = p.2.role).map Prod.snd

/-- The entries that keep the role of the entry before them and leave a gap after it. -/
def resuming (es : List Entry) : List Entry :=
  ((es.zip es.tail).filter fun p =>
    p.1.role = p.2.role ∧ p.1.code.toNat + 1 < p.2.code.toNat).map Prod.snd

theorem openingsAfter_eq_filter (before : Entry) (rest : List Entry) :
    openingsAfter before rest = ((List.finRange rest.length).filter fun i =>
      ¬ rest[i].Follows ((before :: rest).get i.castSucc)).map fun i => rest[i].run := by
  induction rest generalizing before with
  | nil => rfl
  | cons e rest ih =>
    have hplaces : List.finRange (e :: rest).length =
        0 :: (List.finRange rest.length).map Fin.succ := List.finRange_succ
    rw [openingsAfter, ih e, hplaces, List.filter_cons, List.filter_map]
    by_cases hfollows : e.Follows before <;> simp [hfollows, Function.comp_def]

theorem openings_eq_filter (es : List Entry) :
    openings es = ((List.finRange es.length).filter fun i => OpensAt es i).map fun i =>
      es[i].run := by
  cases es with
  | nil => rfl
  | cons e rest =>
    have hplaces : List.finRange (e :: rest).length =
        0 :: (List.finRange rest.length).map Fin.succ := List.finRange_succ
    rw [openings, openingsAfter_eq_filter, hplaces, List.filter_cons, List.filter_map]
    simp [OpensAt, Function.comp_def, Entry.Follows]

theorem count_openings (es : List Entry) (r : Role) :
    ((openings es).map Run.role).count r = openCount es r := by
  unfold openCount
  rw [openings_eq_filter, List.map_map, List.count, List.countP_map, List.countP_filter]
  refine List.countP_congr fun i _ => ?_
  simp [Entry.run, Entry.role, and_comm]

theorem repeating_cons_cons (a b : Run) (rs : List Run) : repeating (a :: b :: rs) =
    if a.role = b.role then b :: repeating (b :: rs) else repeating (b :: rs) := by
  by_cases hsame : a.role = b.role <;> simp [repeating, hsame]

theorem resuming_cons_cons (before e : Entry) (rest : List Entry) :
    resuming (before :: e :: rest) =
      if before.role = e.role ∧ before.code.toNat + 1 < e.code.toNat then
        e :: resuming (e :: rest)
      else resuming (e :: rest) := by
  by_cases hresumes : before.role = e.role ∧ before.code.toNat + 1 < e.code.toNat <;>
    simp [resuming, hresumes]

theorem repeats_eq_length (rs : List Run) :
    repeats (rs.map Run.role) = (repeating rs).length := by
  induction rs with
  | nil => rfl
  | cons a rest ih =>
    cases rest with
    | nil => rfl
    | cons b rest =>
      simp only [List.map_cons] at ih ⊢
      rw [repeats, ih, repeating_cons_cons]
      by_cases hsame : a.role = b.role <;> simp [hsame, Nat.add_comm]

theorem repeating_openingsAfter (hasc : Ascending (before :: rest)) (hrole : r.role = before.role) :
    repeating (r :: openingsAfter before rest) = (resuming (before :: rest)).map Entry.run := by
  induction rest generalizing before r with
  | nil => rfl
  | cons e rest ih =>
    have hlt : before.code.toNat < e.code.toNat := hasc.lt_of_mem List.mem_cons_self
    have hnext : Ascending (e :: rest) := (List.pairwise_cons.1 hasc).2
    rw [openingsAfter, resuming_cons_cons]
    by_cases hfollows : e.Follows before
    · have hlater := ih hnext (hrole.trans hfollows.2.symm)
      have hcode := hfollows.1
      rw [if_pos hfollows, hlater, if_neg (by omega)]
    · have hlater := ih hnext (r := e.run) rfl
      rw [if_neg hfollows, repeating_cons_cons, hlater, hrole, Entry.run_role]
      by_cases hsame : before.role = e.role
      · have hcode : e.code.toNat ≠ before.code.toNat + 1 := fun h => hfollows ⟨h, hsame.symm⟩
        rw [if_pos hsame, if_pos ⟨hsame, by omega⟩, List.map_cons]
      · rw [if_neg hsame, if_neg fun h => hsame h.1]

theorem repeating_openings (hasc : Ascending es) :
    repeating (openings es) = (resuming es).map Entry.run := by
  cases es with
  | nil => rfl
  | cons e rest => exact repeating_openingsAfter hasc rfl

theorem two_mul_length_resuming (hasc : Ascending (before :: rest)) :
    ∃ e ∈ before :: rest,
      before.code.toNat + 2 * (resuming (before :: rest)).length ≤ e.code.toNat := by
  induction rest generalizing before with
  | nil => exact ⟨before, List.mem_cons_self, Nat.le_refl _⟩
  | cons d rest ih =>
    have hlt : before.code.toNat < d.code.toNat := hasc.lt_of_mem List.mem_cons_self
    obtain ⟨e, he, hle⟩ := ih (List.pairwise_cons.1 hasc).2
    refine ⟨e, List.mem_cons_of_mem _ he, ?_⟩
    rw [resuming_cons_cons]
    split
    · rename_i hresumes
      -- an entry that resumes a role leaves out a code point, so it goes on by two at least
      rw [List.length_cons]
      omega
    · omega

theorem length_resuming_lt (hasc : Ascending es) : (resuming es).length < 2 ^ 31 := by
  cases es with
  | nil => decide
  | cons before rest =>
    obtain ⟨e, -, hle⟩ := two_mul_length_resuming hasc
    have hsmall : e.code.toNat < 2 ^ 32 := e.code.toNat_lt_size
    omega

theorem report_gaps (hasc : Ascending es) : ∃ gaps : Int32,
    report es = .tableBuilt (Int32.ofNat es.length) (openings es).length gaps ∧
      gaps.toInt = (repeating (openings es)).length := by
  have hsmall : (repeating (openings es)).length < 2 ^ 31 := by
    rw [repeating_openings hasc, List.length_map]
    exact length_resuming_lt hasc
  exact ⟨_, by rw [report, repeats_eq_length], Int32.toInt_ofNat_of_lt hsmall⟩

theorem toInt_ofNat_eq_iff (n : Nat) : (Int32.ofNat n).toInt = n ↔ n < 2 ^ 31 := by
  rw [Int32.toInt_ofNat', Int.bmod_def]
  simp only [Int32.size]
  split <;> omega

/-- Entries that ascend make a well-formed table. Its runs are those that open, in order and
once each, and the last entry closes it; a run repeats a role exactly where an entry keeps the
role after a gap. The report counts the runs and these gaps, and it counts the entries in 32 bits
with a sign: their number stands in it exactly if it is below `2 ^ 31`. -/
theorem build_shape (hne : es ≠ []) (hasc : Ascending es) : ∃ t entries gaps,
    (build es).result = .ok t ∧ (build es).log = [.tableBuilt entries t.runs.length gaps] ∧
    t.WellFormed ∧
    t.runs = ((List.finRange es.length).filter fun i => OpensAt es i).map (fun i =>
      ⟨es[i].code, Role.ofCategory es[i].category⟩) ∧
    t.sentinel? = some ⟨(es.getLast hne).code, Role.ofCategory (es.getLast hne).category⟩ ∧
    repeating t.runs = (resuming es).map Entry.run ∧
    gaps.toInt = (repeating t.runs).length ∧
    entries.toInt = (es.length : Int).bmod (2 ^ 32) ∧
    (entries.toInt = es.length ↔ es.length < 2 ^ 31) := by
  have hrecords : (ofRecords (openings es ++ closing es)).records =
      openings es ++ [(es.getLast hne).run] := by
    rw [records_ofRecords, closing_of_ne_nil hne]
  have hruns : (ofRecords (openings es ++ closing es)).runs = openings es := by
    rw [closing_of_ne_nil hne, runs_ofRecords]
  have hbuild := (build_eq_ok_iff es _).2 ⟨hne, hasc, rfl⟩
  obtain ⟨gaps, hreport, hgaps⟩ := report_gaps hasc
  refine ⟨_, _, gaps, hbuild, ?_, wellFormed_of_ascending hne hasc, ?_, ?_, ?_, ?_,
    Int32.toInt_ofNat', toInt_ofNat_eq_iff _⟩
  · rw [log_of_build hbuild, hreport, hruns]
  · rw [hruns]
    exact openings_eq_filter es
  · rw [sentinel?, hrecords, List.getLast?_concat]
    rfl
  · rw [hruns]
    exact repeating_openings hasc
  · rw [hruns, hgaps]

theorem build_shape_of_gaps : ∃ t entries gaps,
    (build [⟨0x30, "Nd"⟩, ⟨0x31, "Nd"⟩, ⟨0x33, "Nd"⟩, ⟨0x34, "Lu"⟩, ⟨0xFFFFFFFF, "Ll"⟩]).result =
        .ok t ∧
      (build [⟨0x30, "Nd"⟩, ⟨0x31, "Nd"⟩, ⟨0x33, "Nd"⟩, ⟨0x34, "Lu"⟩, ⟨0xFFFFFFFF, "Ll"⟩]).log =
        [.tableBuilt entries 4 gaps] ∧
      t.runs = [⟨0x30, .identifierPart⟩, ⟨0x33, .identifierPart⟩, ⟨0x34, .identifierStart⟩,
        ⟨0xFFFFFFFF, .identifierStart⟩] ∧
      t.sentinel? = some ⟨0xFFFFFFFF, .identifierStart⟩ ∧ gaps.toInt = 2 ∧ entries.toInt = 5 := by
  have hasc : Ascending
      [⟨0x30, "Nd"⟩, ⟨0x31, "Nd"⟩, ⟨0x33, "Nd"⟩, ⟨0x34, "Lu"⟩, ⟨0xFFFFFFFF, "Ll"⟩] := by decide
  obtain ⟨t, entries, gaps, hbuild, hlog, -, hruns, hsentinel, -, hgaps, -, hentries⟩ :=
    build_shape (List.cons_ne_nil _ _) hasc
  have hopened : t.runs = [⟨0x30, .identifierPart⟩, ⟨0x33, .identifierPart⟩,
      ⟨0x34, .identifierStart⟩, ⟨0xFFFFFFFF, .identifierStart⟩] := hruns.trans (by decide)
  rw [hopened] at hlog hgaps
  exact ⟨t, entries, gaps, hbuild, hlog, hopened, hsentinel, hgaps, hentries.2 (by decide)⟩

def lowest (n : Nat) : List Entry := (List.range n).map fun c => ⟨UInt32.ofNat c, "Lu"⟩

theorem length_lowest (n : Nat) : (lowest n).length = n := by
  rw [lowest, List.length_map, List.length_range]

theorem lowest_ascends {n : Nat} (hn : n ≤ 2 ^ 32) : Ascending (lowest n) := by
  refine List.pairwise_map.2 (List.Pairwise.imp_of_mem ?_ List.pairwise_lt_range)
  intro a b ha hb hab
  rw [List.mem_range] at ha hb
  have hsmall : a < UInt32.size := Nat.lt_of_lt_of_le ha hn
  have hsmall' : b < UInt32.size := Nat.lt_of_lt_of_le hb hn
  rwa [UInt32.lt_iff_toNat_lt, UInt32.toNat_ofNat_of_lt' hsmall, UInt32.toNat_ofNat_of_lt' hsmall']

/-- Of the lower half of all code points the report says that their number is negative. -/
theorem report_of_lower_half : (lowest (2 ^ 31)).length = 2147483648 ∧
    Ascending (lowest (2 ^ 31)) ∧ ∃ event, (build (lowest (2 ^ 31))).log = [event] ∧
      event.fields.lookup "entries" = some (.number (-2147483648)) := by
  have hlength := length_lowest (2 ^ 31)
  have hasc : Ascending (lowest (2 ^ 31)) := lowest_ascends (by decide)
  have hne : lowest (2 ^ 31) ≠ [] := List.ne_nil_of_length_pos (by rw [hlength]; decide)
  refine ⟨hlength, hasc, _, by rw [build_of_ascending hne hasc], ?_⟩
  rw [report, hlength]
  rfl

end CodeRuns.RunTable
