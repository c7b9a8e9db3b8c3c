import CodeRuns.Proofs.RunTable.Lookup

/-! The tables that can be built. Such a table passes its check, and where two neighbouring runs
have one role a code point was left out between them, so the later starts at least two above the
earlier. Every table of this kind is built from some entries: one at the start of each run, and
those that fill the last run up to the sentinel. -/

namespace CodeRuns

namespace Role

def category : Role → String
  | formatControl => "Cf"
  | whitespace => "Zs"
  | identifierStart => "Lu"
  | identifierPart => "Nd"
  | other => "Cn"

@[simp] theorem ofCategory_category (r : Role) : ofCategory r.category = r := by cases r <;> rfl

end Role

namespace Run

def entry (r : Run) : Entry := ⟨r.start, r.role.category⟩

@[simp] theorem role_entry (r : Run) : r.entry.role = r.role := Role.ofCategory_category _

@[simp] theorem run_entry (r : Run) : r.entry.run = r := by
  rw [Entry.run, role_entry]
  rfl

/-- A later run that repeats the role leaves out a code point. -/
def Apart (a b : Run) : Prop := a.role = b.role → a.start.toNat + 2 ≤ b.start.toNat

end Run

namespace RunTable

variable {t : RunTable} {es rest : List Entry} {before d e : Entry} {r : Run} {rs : List Run}
  {c : CodePoint}

theorem openingsAfter_apart (hasc : Ascending (before :: rest)) (hrole : r.role = before.role)
    (hstart : r.start ≤ before.code) : (r :: openingsAfter before rest).IsChain Run.Apart := by
  induction rest generalizing before r with
  | nil => exact List.isChain_singleton r
  | cons e rest ih =>
    have hlt : before.code.toNat < e.code.toNat := hasc.lt_of_mem List.mem_cons_self
    have hnext : Ascending (e :: rest) := (List.pairwise_cons.1 hasc).2
    have hle : r.start.toNat ≤ before.code.toNat := hstart
    rw [openingsAfter]
    by_cases hfollows : e.Follows before
    · rw [if_pos hfollows]
      have hreach : r.start.toNat ≤ e.code.toNat := by omega
      exact ih hnext (hrole.trans hfollows.2.symm) hreach
    · rw [if_neg hfollows, List.isChain_cons_cons]
      refine ⟨fun hsame => ?_, ih hnext rfl (UInt32.le_refl _)⟩
      have hkeeps : e.role = before.role := hsame.symm.trans hrole
      have hgap : e.code.toNat ≠ before.code.toNat + 1 := fun h => hfollows ⟨h, hkeeps⟩
      rw [Entry.run_start]
      omega

theorem openings_apart (hasc : Ascending es) : (openings es).IsChain Run.Apart := by
  cases es with
  | nil => exact List.isChain_nil
  | cons e rest => exact openingsAfter_apart hasc rfl (UInt32.le_refl _)

theorem openingsAfter_eq_nil (h : (d :: rest).IsChain fun a b => b.Follows a) :
    openingsAfter d rest = [] := by
  induction rest generalizing d with
  | nil => rfl
  | cons e rest ih =>
    obtain ⟨hfollows, hlater⟩ := List.isChain_cons_cons.1 h
    rw [openingsAfter, if_pos hfollows, ih hlater]

theorem openingsAfter_map_entry {a : Run} (h : (a :: rs).IsChain Run.Apart) :
    openingsAfter a.entry (rs.map Run.entry) = rs := by
  induction rs generalizing a with
  | nil => rfl
  | cons b rs ih =>
    obtain ⟨hapart, hlater⟩ := List.isChain_cons_cons.1 h
    have hopens : ¬ b.entry.Follows a.entry := by
      rintro ⟨hcode, hsame⟩
      have hstart : b.start.toNat = a.start.toNat + 1 := hcode
      have hgap := hapart (by simpa using hsame.symm)
      omega
    rw [List.map_cons, openingsAfter, if_neg hopens, ih hlater, Run.run_entry]

theorem openings_map_entry (h : rs.IsChain Run.Apart) : openings (rs.map Run.entry) = rs := by
  cases rs with
  | nil => rfl
  | cons a rs => rw [List.map_cons, openings, openingsAfter_map_entry h, Run.run_entry]

def filling (r : Run) (c : CodePoint) : List Entry :=
  (List.range' (r.start.toNat + 1) (c.toNat - r.start.toNat)).map fun n =>
    ⟨UInt32.ofNat n, r.role.category⟩

theorem entry_cons_filling (r : Run) (c : CodePoint) : r.entry :: filling r c =
    (List.range' r.start.toNat (c.toNat - r.start.toNat + 1)).map fun n =>
      ⟨UInt32.ofNat n, r.role.category⟩ := by
  rw [List.range'_succ, List.map_cons, UInt32.ofNat_toNat]
  rfl

theorem filling_follows (hle : r.start ≤ c) :
    (r.entry :: filling r c).IsChain fun a b => b.Follows a := by
  have hsteps := List.isChain_range' r.start.toNat (c.toNat - r.start.toNat + 1) 1
  rw [entry_cons_filling, List.isChain_map]
  refine hsteps.imp_of_mem_imp fun a b ha hb hab => ⟨?_, rfl⟩
  have hsmall := c.toNat_lt_size
  have hstart : r.start.toNat ≤ c.toNat := hle
  rw [List.mem_range'_1] at ha hb
  rw [UInt32.toNat_ofNat_of_lt' (by omega), UInt32.toNat_ofNat_of_lt' (by omega), hab]

theorem ascending_of_follows (h : es.IsChain fun a b => b.Follows a) : Ascending es := by
  rw [ascending_iff_isChain, List.isChain_map]
  refine h.imp fun a b hfollows => ?_
  have hcode := hfollows.1
  exact Nat.lt_of_lt_of_eq (Nat.lt_succ_self _) hcode.symm

theorem closing_filling (es : List Entry) (hle : r.start ≤ c) :
    closing (es ++ r.entry :: filling r c) = [⟨c, r.role⟩] := by
  have hstart : r.start.toNat ≤ c.toNat := hle
  have hlast : r.start.toNat + (c.toNat - r.start.toNat + 1) - 1 = c.toNat := by omega
  rw [closing, entry_cons_filling, List.getLast?_append, List.getLast?_map, List.getLast?_range',
    if_neg (Nat.succ_ne_zero _), hlast]
  simp [Entry.run, Entry.role]

theorem ascending_append_filling {front : List Run} {last : Run}
    (hasc : (front ++ [last]).Pairwise fun a b => a.start < b.start) (hle : last.start ≤ c) :
    Ascending (front.map Run.entry ++ last.entry :: filling last c) := by
  have hfilled := ascending_of_follows (filling_follows hle)
  have hruns : Ascending ((front ++ [last]).map Run.entry) := List.pairwise_map.2 hasc
  rw [ascending_iff_isChain] at hfilled hruns ⊢
  rw [List.map_append, List.map_cons, List.isChain_split]
  exact ⟨by simpa using hruns, hfilled⟩

/-- A table can be built exactly when it passes its check and a code point is left out between
any two neighbouring runs of one role. -/
theorem exists_build_iff (t : RunTable) : (∃ es, (build es).result = .ok t) ↔
    (∃ k, t.classifier = .ok k) ∧
      t.runs.IsChain fun a b => a.role = b.role → a.start.toNat + 2 ≤ b.start.toNat := by
  constructor
  · rintro ⟨es, hbuild⟩
    refine ⟨exists_classifier_of_build hbuild, ?_⟩
    obtain ⟨hne, hasc, rfl⟩ := (build_eq_ok_iff es t).1 hbuild
    rw [closing_of_ne_nil hne, runs_ofRecords]
    exact openings_apart hasc
  · rintro ⟨⟨k, hk⟩, hapart⟩
    obtain rfl := (classifier_eq_ok_iff t k).1 hk
    have hsound := k.sound
    obtain ⟨front, last, sentinel, htable⟩ := hsound.exists_eq_ofRecords
    rw [htable] at hsound hapart ⊢
    obtain ⟨hasc, hstart, hrole⟩ := wellFormed_ofRecords_iff.1 hsound
    have hruns : (ofRecords (front ++ [last, sentinel])).runs = front ++ [last] := by
      rw [← runs_ofRecords (front ++ [last]) sentinel, List.append_assoc, List.singleton_append]
    rw [hruns] at hapart
    have hopenings : openings (front.map Run.entry ++ last.entry :: filling last sentinel.start) =
        front ++ [last] := by
      have hopened := openings_map_entry hapart
      rw [List.map_append, List.map_singleton] at hopened
      rw [openings_append, hopened, openingsAfter_eq_nil (filling_follows hstart),
        List.append_nil]
    refine ⟨_, (build_eq_ok_iff _ _).2 ⟨by simp, ascending_append_filling hasc hstart, ?_⟩⟩
    rw [hopenings, closing_filling _ hstart, hrole, List.append_assoc]
    rfl

end RunTable
end CodeRuns
