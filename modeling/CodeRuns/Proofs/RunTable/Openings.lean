import CodeRuns.Proofs.Descent
import CodeRuns.RunTable.Build
import CodeRuns.RunTable.Stats
import Mathlib.Data.List.Chain

/-! The entries of a list that open a run: the first one, and each that leaves a gap after the
one before it or has another role. Main statement: a build succeeds exactly on a list that is
not empty and strictly ascends, and then its table has the openings as its runs, with the
last entry as the sentinel, and one event reports it. -/

namespace CodeRuns

namespace Entry

def run (e : Entry) : Run := ⟨e.code, e.role⟩

@[simp] theorem run_start (e : Entry) : e.run.start = e.code := rfl

@[simp] theorem run_role (e : Entry) : e.run.role = e.role := rfl

def Follows (e before : Entry) : Prop :=
  e.code.toNat = before.code.toNat + 1 ∧ e.role = before.role

instance (e before : Entry) : Decidable (e.Follows before) :=
  inferInstanceAs (Decidable (_ ∧ _))

end Entry

namespace RunTable

def Ascending (es : List Entry) : Prop := es.Pairwise fun a b => a.code < b.code

instance (es : List Entry) : Decidable (Ascending es) :=
  inferInstanceAs (Decidable (es.Pairwise fun a b => a.code < b.code))

def openingsAfter (before : Entry) : List Entry → List Run
  | [] => []
  | e :: rest =>
    if e.Follows before then openingsAfter e rest else e.run :: openingsAfter e rest

def openings : List Entry → List Run
  | [] => []
  | e :: rest => e.run :: openingsAfter e rest

def closing (es : List Entry) : List Run := (es.getLast?.map Entry.run).toList

theorem openingsAfter_append (before d : Entry) (es rest : List Entry) :
    openingsAfter before (es ++ d :: rest) =
      openingsAfter before (es ++ [d]) ++ openingsAfter d rest := by
  induction es generalizing before with
  | nil => by_cases hd : d.Follows before <;> simp [openingsAfter, hd]
  | cons a es ih => by_cases ha : a.Follows before <;> simp [openingsAfter, ha, ih a]

theorem openings_append (d : Entry) (es rest : List Entry) :
    openings (es ++ d :: rest) = openings (es ++ [d]) ++ openingsAfter d rest := by
  cases es with
  | nil => rfl
  | cons a es =>
    have hlater := openingsAfter_append a d es rest
    exact congrArg (a.run :: ·) hlater

theorem openings_concat (es : List Entry) (d e : Entry) :
    openings (es ++ [d, e]) =
      openings (es ++ [d]) ++ if e.Follows d then [] else [e.run] := openings_append d es [e]

theorem repeats_concat (roles : List Role) (a b : Role) :
    repeats (roles ++ [a, b]) = repeats (roles ++ [a]) + if a = b then 1 else 0 := by
  induction roles with
  | nil => simp [repeats]
  | cons x roles ih =>
    cases roles with
    | nil => simp [repeats]
    | cons y roles =>
      simp only [List.cons_append, repeats] at ih ⊢
      rw [ih, Nat.add_assoc]

namespace Builder

/-- What a builder holds after some entries: all openings but the last are closed runs, the
last is the open run, and the last entry has its role. The numbers for the report are right
but for what 32 bits cannot hold. -/
structure Holds (b : Builder) (es : List Entry) : Prop where
  runs : ∃ before, b.closed = ofRecords before ∧ openings es = before ++ [b.opened]
  last : ∃ front e, es = front ++ [e] ∧ e.code = b.last ∧ e.role = b.opened.role
  index : b.index = es.length
  count : b.count = Int32.ofNat es.length
  gaps : b.gaps = Int32.ofNat (repeats ((openings es).map Run.role))

variable {b : Builder} {es rest : List Entry} {e : Entry}

theorem holds_start (e : Entry) : (start e).Holds [e] :=
  ⟨⟨[], rfl, rfl⟩, ⟨[], e, rfl, rfl, rfl⟩, rfl, rfl, rfl⟩

theorem Holds.index_succ (h : b.Holds es) (e : Entry) :
    b.index + 1 = (es ++ [e]).length := by
  rw [h.index, List.length_append, List.length_singleton]

theorem Holds.count_succ (h : b.Holds es) (e : Entry) :
    b.count + 1 = Int32.ofNat (es ++ [e]).length := by
  rw [h.count, List.length_append, List.length_singleton, Int32.ofNat_add]
  rfl

theorem Holds.extend_of_follows {front : List Entry} {d : Entry} (h : b.Holds (front ++ [d]))
    (hrole : d.role = b.opened.role) (hfollows : e.Follows d) :
    Holds ⟨b.closed, b.opened, e.code, b.index + 1, b.count + 1, b.gaps⟩ (front ++ [d] ++ [e]) := by
  obtain ⟨before, hclosed, hopenings⟩ := h.runs
  have hstep := openings_concat front d e
  rw [if_pos hfollows, List.append_nil, List.append_cons] at hstep
  refine ⟨⟨before, hclosed, hstep.trans hopenings⟩, ⟨front ++ [d], e, rfl, rfl, ?_⟩,
    h.index_succ e, h.count_succ e, ?_⟩
  · exact hfollows.2.trans hrole
  · rw [hstep]
    exact h.gaps

theorem Holds.extend_of_opens {front : List Entry} {d : Entry} (h : b.Holds (front ++ [d]))
    (hopens : ¬ e.Follows d) :
    Holds ⟨b.closed.push b.opened, e.run, e.code, b.index + 1, b.count + 1,
      if e.role = b.opened.role then b.gaps + 1 else b.gaps⟩ (front ++ [d] ++ [e]) := by
  obtain ⟨before, hclosed, hopenings⟩ := h.runs
  have hstep := openings_concat front d e
  rw [if_neg hopens, hopenings, List.append_cons] at hstep
  refine ⟨⟨before ++ [b.opened], ?_, hstep⟩, ⟨front ++ [d], e, rfl, rfl, rfl⟩, h.index_succ e,
    h.count_succ e, ?_⟩
  · rw [hclosed, push_ofRecords]
  · have hbefore : b.gaps = Int32.ofNat (repeats (before.map Run.role ++ [b.opened.role])) := by
      simpa [hopenings] using h.gaps
    have hroles : (openings (front ++ [d] ++ [e])).map Run.role =
        before.map Run.role ++ [b.opened.role, e.role] := by
      rw [hstep]
      simp [Entry.run]
    -- a gap parts two runs of one role exactly when the new run repeats the role
    rw [hroles, repeats_concat, Int32.ofNat_add, ← hbefore]
    by_cases hsame : e.role = b.opened.role
    · rw [if_pos hsame, if_pos hsame.symm]
      rfl
    · rw [if_neg hsame, if_neg (Ne.symm hsame)]
      exact (Int32.add_zero _).symm

theorem Holds.extend (h : b.Holds es) (e : Entry) : (b.extend e).Holds (es ++ [e]) := by
  obtain ⟨front, d, rfl, hcode, hrole⟩ := h.last
  have hcontinues : b.continues e = true ↔ e.Follows d := by
    simp [continues, Entry.Follows, hcode, hrole]
  rw [Builder.extend]
  by_cases hfollows : e.Follows d
  · rw [if_pos (hcontinues.2 hfollows)]
    exact h.extend_of_follows hrole hfollows
  · rw [if_neg (fun hc => hfollows (hcontinues.1 hc))]
    exact h.extend_of_opens hfollows

theorem Holds.foldl_extend (h : b.Holds es) (rest : List Entry) :
    (rest.foldl Builder.extend b).Holds (es ++ rest) := by
  induction rest generalizing b es with
  | nil => simpa using h
  | cons e rest ih => simpa using ih (h.extend e)

@[simp] theorem extend_last (b : Builder) (e : Entry) : (b.extend e).last = e.code := by
  unfold Builder.extend
  split <;> rfl

@[simp] theorem extend_index (b : Builder) (e : Entry) : (b.extend e).index = b.index + 1 := by
  unfold Builder.extend
  split <;> rfl

theorem add_of_lt (hlt : b.last < e.code) : b.add e = .ok (b.extend e) := by
  have hsame : e.code ≠ b.last := (UInt32.ne_of_lt hlt).symm
  have hback : ¬ e.code < b.last := UInt32.not_lt.2 (UInt32.le_of_lt hlt)
  rw [add, if_neg hsame, if_neg hback]

def stallFault (previous code : CodePoint) (index : Nat) : BuildFault :=
  if code = previous then .duplicate code index else .notAscending previous code index

theorem add_of_le (hle : e.code ≤ b.last) : b.add e = .error (stallFault b.last e.code b.index) := by
  unfold add stallFault
  by_cases hsame : e.code = b.last
  · rw [if_pos hsame, if_pos hsame]
  · have hlt : e.code < b.last := UInt32.lt_of_le_of_ne hle hsame
    rw [if_neg hsame, if_pos hlt, if_neg hsame]

theorem addAll_of_ascends (hasc : (b.last :: rest.map Entry.code).IsChain (· < ·)) :
    b.addAll rest = (rest.foldl Builder.extend b).finish := by
  induction rest generalizing b with
  | nil => rfl
  | cons e rest ih =>
    rw [List.map_cons, List.isChain_cons_cons] at hasc
    have hrest := ih (b := b.extend e) (by rw [extend_last]; exact hasc.2)
    simp only [addAll, add_of_lt hasc.1, List.foldl_cons, hrest]

theorem addAll_of_descent {i : Nat} {a c : CodePoint}
    (h : FirstDescent (b.last :: rest.map Entry.code) i a c) :
    b.addAll rest = ⟨.error (stallFault a c (b.index + i)), []⟩ := by
  induction rest generalizing b i with
  | nil => exact absurd h FirstDescent.not_singleton
  | cons e rest ih =>
    rw [List.map_cons, FirstDescent.cons_cons_iff] at h
    obtain ⟨hle, rfl, rfl, rfl⟩ | ⟨hlt, j, rfl, hlater⟩ := h
    · simp only [addAll, add_of_le hle, Nat.add_zero]
    · have hrest := ih (b := b.extend e) (by rw [extend_last]; exact hlater)
      simp only [addAll, add_of_lt hlt, hrest, extend_index, Nat.add_assoc, Nat.add_comm 1]

end Builder

def report (es : List Entry) : Event :=
  .tableBuilt (Int32.ofNat es.length) (openings es).length
    (Int32.ofNat (repeats ((openings es).map Run.role)))

theorem Builder.Holds.finish {b : Builder} {es : List Entry} (h : b.Holds es) :
    b.finish = ⟨.ok (ofRecords (openings es ++ closing es)), [report es]⟩ := by
  obtain ⟨before, hclosed, hopenings⟩ := h.runs
  obtain ⟨front, e, rfl, hcode, hrole⟩ := h.last
  have hclosing : closing (front ++ [e]) = [⟨b.last, b.opened.role⟩] := by
    simp [closing, Entry.run, hcode, hrole]
  have hsize : (ofRecords (openings (front ++ [e]) ++ closing (front ++ [e]))).size - 1 =
      (openings (front ++ [e])).length := by
    simp [size, ofRecords, hclosing]
  rw [Builder.finish, hclosed, push_ofRecords, push_ofRecords, ← hopenings, ← hclosing, h.count,
    h.gaps]
  simp only [hsize, report]

theorem exists_last_opening {es : List Entry} (hne : es ≠ []) :
    ∃ front r, openings es = front ++ [r] ∧ r.role = (es.getLast hne).role := by
  obtain ⟨d, rest, rfl⟩ := List.exists_cons_of_ne_nil hne
  have hholds := (Builder.holds_start d).foldl_extend rest
  obtain ⟨front, _, hopenings⟩ := hholds.runs
  obtain ⟨before, e, hlast, _, hrole⟩ := hholds.last
  refine ⟨front, _, hopenings, ?_⟩
  rw [← hrole]
  simp only [List.singleton_append] at hlast
  simp only [hlast, List.getLast_append_singleton]

theorem ascending_iff_isChain (es : List Entry) :
    Ascending es ↔ (es.map Entry.code).IsChain (· < ·) := by
  have : Trans (α := CodePoint) (· < ·) (· < ·) (· < ·) := ⟨UInt32.lt_trans⟩
  rw [List.isChain_iff_pairwise, List.pairwise_map]
  rfl

section Build

variable {es : List Entry} {t : RunTable} {i : Nat} {a b : CodePoint}

theorem build_of_ascending (hne : es ≠ []) (hasc : Ascending es) :
    build es = ⟨.ok (ofRecords (openings es ++ closing es)), [report es]⟩ := by
  obtain ⟨e, rest, rfl⟩ := List.exists_cons_of_ne_nil hne
  have hholds := (Builder.holds_start e).foldl_extend rest
  have hbuilt := Builder.addAll_of_ascends (b := .start e) ((ascending_iff_isChain _).1 hasc)
  exact hbuilt.trans hholds.finish

theorem build_of_descent (h : FirstDescent (es.map Entry.code) i a b) :
    build es = ⟨.error (Builder.stallFault a b (i + 1)), []⟩ := by
  cases es with
  | nil => exact absurd h FirstDescent.not_nil
  | cons e rest =>
    have hrest := Builder.addAll_of_descent (b := Builder.start e) h
    rw [build, hrest, Nat.add_comm i]
    rfl

theorem build_cases (es : List Entry) : (es = [] ∧ build es = ⟨.error .empty, []⟩) ∨
    (∃ i a b, FirstDescent (es.map Entry.code) i a b ∧
      build es = ⟨.error (Builder.stallFault a b (i + 1)), []⟩) ∨
    (es ≠ [] ∧ Ascending es ∧
      build es = ⟨.ok (ofRecords (openings es ++ closing es)), [report es]⟩) := by
  by_cases hnil : es = []
  · exact .inl ⟨hnil, by rw [hnil, build]⟩
  · by_cases hasc : Ascending es
    · exact .inr (.inr ⟨hnil, hasc, build_of_ascending hnil hasc⟩)
    · rw [ascending_iff_isChain] at hasc
      obtain ⟨i, a, b, hfirst⟩ := FirstDescent.exists_of_not_isChain hasc
      exact .inr (.inl ⟨i, a, b, hfirst, build_of_descent hfirst⟩)

theorem build_eq_ok_iff (es : List Entry) (t : RunTable) : (build es).result = .ok t ↔
    es ≠ [] ∧ Ascending es ∧ t = ofRecords (openings es ++ closing es) := by
  constructor
  · intro hbuild
    obtain ⟨-, hfails⟩ | ⟨i, a, b, -, hfails⟩ | ⟨hne, hasc, hbuilt⟩ := build_cases es
    · rw [hfails] at hbuild
      cases hbuild
    · rw [hfails] at hbuild
      cases hbuild
    · rw [hbuilt] at hbuild
      exact ⟨hne, hasc, (Except.ok.inj hbuild).symm⟩
  · rintro ⟨hne, hasc, rfl⟩
    rw [build_of_ascending hne hasc]

theorem log_of_build (hbuild : (build es).result = .ok t) : (build es).log = [report es] := by
  obtain ⟨hne, hasc, -⟩ := (build_eq_ok_iff es t).1 hbuild
  rw [build_of_ascending hne hasc]

end Build

end RunTable
end CodeRuns
