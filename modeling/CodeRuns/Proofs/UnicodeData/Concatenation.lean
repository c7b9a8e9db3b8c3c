import CodeRuns.Proofs.UnicodeData.Lockstep

/-! Texts one after the other. A text that is read to its end leaves nothing behind but its
entries, its events and the count of its lines, and a text that is refused for one of its lines
is refused so whatever follows. -/

namespace CodeRuns.UnicodeData

variable {a b text : String} {es : List Entry}

def Fault.later (k : Nat) : Fault → Fault
  | missingField line column => missingField (line + k) column
  | invalidCode line value => invalidCode (line + k) value
  | unpairedRange line => unpairedRange (line + k)

theorem corresponds_ofLine_later (k n : Nat) (line : List Char) :
    Corresponds (fun f g => g = f.later k) Eq (Record.ofLine n line)
      (Record.ofLine (n + k) line) := by
  unfold Record.ofLine
  split
  · split
    · exact .ok rfl
    · exact .error rfl
  · exact .error rfl
  · exact .error rfl
  · exact .error rfl

theorem numbered_later (k n : Nat) (lines : List (List Char)) :
    List.Forall₂ (LineFollows (fun m m' => m' = m + k) fun f g => g = f.later k)
      (numbered n lines) (numbered (n + k) lines) := by
  induction lines generalizing n with
  | nil => exact .nil
  | cons line lines ih =>
    rw [numbered_cons, numbered_cons, Nat.add_right_comm]
    exact .cons ⟨rfl, rfl, corresponds_ofLine_later k n line⟩ (ih (n + 1))

theorem reaches_of_read (hread : (read text).result = .ok es) :
    ∃ p : Progress, Reaches (Text.lines text.toList) p ∧ p.opened = none ∧
      p.entries.toList = es ∧ p.log = (read text).log := by
  have hok : readLines .start (numbered 1 (Text.lines text.toList)) =
      ⟨.ok es, (read text).log⟩ := by
    rw [← hread]
    rfl
  obtain ⟨items, hholds⟩ := exists_holds_of_readLines hok
  have hfinish := hholds.reaches.readLines_eq_finish
  rw [hok, finish_reached_none] at hfinish
  obtain ⟨hes, hlog⟩ := Reading.mk.inj hfinish
  refine ⟨_, hholds.reaches, Progress.opened_reached items none, (Except.ok.inj hes).symm, ?_⟩
  rw [Progress.log_reached, hlog]

def LeftOpen (text : String) : Prop :=
  ∃ lines items opener first, Text.Lines text.toList lines ∧
    Holds lines items (some (opener, first))

theorem read_append_follows (hend : Text.EndsInFeed a.toList) (hread : (read a).result = .ok es) :
    (read b).Follows (fun f g => g = f.later (a.toList.count '\n')) es (read a).log
      (read (a ++ b)) := by
  obtain ⟨p, hreaches, hopened, hentries, hlog⟩ := reaches_of_read hread
  have hstart : Progress.start.Follows (fun n n' => n' = n + a.toList.count '\n') es
      (read a).log p := by
    refine ⟨by simp [hentries, Progress.start], ?_, by simp [hlog, Progress.start]⟩
    rw [hopened]
    exact .none
  have hfollows := readLines_follows (by rintro n _ rfl; rfl) hstart
    (numbered_later (a.toList.count '\n') 1 (Text.lines b.toList))
  have hboth : read (a ++ b) =
      readLines p (numbered (1 + a.toList.count '\n') (Text.lines b.toList)) := by
    rw [← (Text.lines_lines a.toList).length_eq hend, Nat.add_comm, ← hreaches,
      ← hend.lines_append, ← String.toList_append]
    rfl
  rw [hboth]
  exact hfollows

theorem read_append_of_offence {fault : Fault} (hend : Text.EndsInFeed a.toList)
    (hread : (read a).result = .error fault) (hopen : ¬ LeftOpen a) : read (a ++ b) = read a := by
  have hfault : read a = ⟨.error fault, (read a).log⟩ := by rw [← hread]
  obtain ⟨lines, items, hlines, hstops, hlog⟩ := (read_eq_error_iff a _ _).1 hfault
  have hboth : Text.Lines (a ++ b).toList (lines ++ Text.lines b.toList) := by
    rw [← hlines.lines_eq, ← hend.lines_append, ← String.toList_append]
    exact Text.lines_lines _
  cases hstops with
  | @offence before after line _ _ hsplit hholds hoffends =>
    rw [hsplit, List.append_assoc, List.cons_append] at hboth
    rw [hfault]
    exact (read_eq_error_iff _ _ _).2 ⟨_, items, hboth, .offence rfl hholds hoffends, hlog⟩
  | unclosed hholds => exact absurd ⟨lines, items, _, _, hlines, hholds⟩ hopen

/-- A text that is read after another one adds its entries to those of the first, and a fault in
it has its line counted from the beginning of both. A text that is refused, unless a range is
open at its end, is refused for the same fault with any text after it. -/
theorem read_append (a b : String) (hend : Text.EndsInFeed a.toList) :
    (∀ es, (read a).result = .ok es →
        (∀ es', (read b).result = .ok es' → (read (a ++ b)).result = .ok (es ++ es')) ∧
          (∀ fault, (read b).result = .error fault →
            (read (a ++ b)).result = .error (fault.later (a.toList.count '\n'))) ∧
          (read (a ++ b)).log = (read a).log ++ (read b).log) ∧
      ∀ fault, (read a).result = .error fault → ¬ LeftOpen a → read (a ++ b) = read a := by
  refine ⟨fun es hread => ?_, fun fault => read_append_of_offence hend⟩
  obtain ⟨hresult, hlog⟩ := read_append_follows hend hread
  refine ⟨fun es' hes' => ?_, fun fault hfault => ?_, hlog⟩
  · rw [hes'] at hresult
    obtain ⟨_, hboth, rfl⟩ := corresponds_ok_iff.1 hresult
    exact hboth
  · rw [hfault] at hresult
    obtain ⟨_, hboth, rfl⟩ := corresponds_error_iff.1 hresult
    exact hboth

def front : String :=
  "E000;<Private Use, First>;Co\r\n \nF8FF;<Private Use, Last>;Co\n0041;LATIN CAPITAL LETTER A;Lu\n"

def back : String := "\nAC00;<Hangul Syllable, First>;Lo\n0042;LATIN CAPITAL LETTER B;Lu"

theorem read_append_front : (read (front ++ "0042;LATIN CAPITAL LETTER B;Lu")).result =
      .ok ([⟨0x41, "Lu"⟩] ++ [⟨0x42, "Lu"⟩]) ∧
    (read (front ++ back)).result = .error (.unpairedRange (2 + 4)) ∧
    (read (front ++ back)).log = [.rangeSkipped 0xE000 0xF8FF "<Private Use, Last>"] ++ [] ∧
    read ("0041;A\n" ++ front) = read "0041;A\n" := by
  have hfront : Text.EndsInFeed front.toList := .of_getLast? (by decide)
  have hshort : Text.EndsInFeed "0041;A\n".toList := .of_getLast? (by decide)
  have hread : (read front).result = .ok [⟨0x41, "Lu"⟩] := eq_ok_of_toOption (by decide +kernel)
  have hlog : (read front).log = [.rangeSkipped 0xE000 0xF8FF "<Private Use, Last>"] := by
    decide +kernel
  have hletter : (read "0042;LATIN CAPITAL LETTER B;Lu").result = .ok [⟨0x42, "Lu"⟩] :=
    eq_ok_of_toOption (by decide +kernel)
  have hback : (read back).result = .error (.unpairedRange 2) := by decide +kernel
  have hbacklog : (read back).log = [] := by decide +kernel
  have hrefused : (read "0041;A\n").result = .error (.missingField 1 .category) := by
    decide +kernel
  -- a range that is open at the end is refused for another reason
  have hopen : ¬ LeftOpen "0041;A\n" := by
    rintro ⟨lines, items, opener, first, hlines, hholds⟩
    have hread := (read_eq_error_iff _ _ _).2 ⟨lines, items, hlines, .unclosed hholds, rfl⟩
    rw [hread] at hrefused
    cases Except.error.inj hrefused
  obtain ⟨hok, -, -⟩ := (read_append front _ hfront).1 _ hread
  obtain ⟨-, herror, hlogs⟩ := (read_append front back hfront).1 _ hread
  rw [hlog, hbacklog] at hlogs
  exact ⟨hok _ hletter, herror _ hback, hlogs,
    (read_append _ front hshort).2 _ hrefused hopen⟩

end CodeRuns.UnicodeData
