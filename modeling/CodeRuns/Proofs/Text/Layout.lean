import CodeRuns.Text.Blank
import CodeRuns.Text.Line
import Mathlib.Data.List.Basic
import Mathlib.Data.List.TakeWhile

/-! Texts taken apart, said without the functions that do it: a text in lines, the first fields
of a line, and a text inside its white space. Each relation holds of exactly what the
function of that name gives. Lines are then counted, put one after the other and ended otherwise. -/

namespace CodeRuns.Text

/-- A text in lines: a line feed ends a line, and so does a carriage return right before a line
feed together with it. What stands after the last line feed is a line if it is not empty. -/
inductive Lines : List Char → List (List Char) → Prop
  | nil : Lines [] []
  | unended {line : List Char} : line ≠ [] → '\n' ∉ line → Lines line [line]
  | feed {line rest : List Char} {lines : List (List Char)} : '\n' ∉ line →
      line.getLast? ≠ some '\r' → Lines rest lines → Lines (line ++ '\n' :: rest) (line :: lines)
  | returnFeed {line rest : List Char} {lines : List (List Char)} : '\n' ∉ line →
      Lines rest lines → Lines (line ++ '\r' :: '\n' :: rest) (line :: lines)

def StartsWithFields (line first second third : List Char) : Prop :=
  ∃ rest, line = first ++ ';' :: (second ++ ';' :: (third ++ rest)) ∧
    ';' ∉ first ∧ ';' ∉ second ∧ ';' ∉ third ∧ (rest = [] ∨ ∃ more, rest = ';' :: more)

def Trimmed (cs ds : List Char) : Prop :=
  ∃ before after, cs = before ++ ds ++ after ∧ (∀ c ∈ before, Blank.isBlank c = true) ∧
    (∀ c ∈ after, Blank.isBlank c = true) ∧ (∀ c, ds.head? = some c → Blank.isBlank c = false) ∧
    ∀ c, ds.getLast? = some c → Blank.isBlank c = false

theorem intercalate_concat_nil (a : Char) (pieces : List (List Char)) :
    [a].intercalate (pieces ++ [[]]) = pieces.flatMap (· ++ [a]) := by
  induction pieces with
  | nil => rfl
  | cons piece rest ih =>
    rw [List.cons_append, List.intercalate_cons_of_ne_nil (by simp), ih, List.flatMap_cons]

section Pieces

variable {a : Char} {pieces : List (List Char)}

theorem splitOn_flatMap_append (ha : ∀ piece ∈ pieces, a ∉ piece) (rest : List Char) :
    (pieces.flatMap (· ++ [a]) ++ rest).splitOn a = pieces ++ rest.splitOn a := by
  induction pieces with
  | nil => rfl
  | cons piece pieces ih =>
    obtain ⟨hpiece, ha⟩ := List.forall_mem_cons.1 ha
    rw [List.flatMap_cons, List.append_assoc, List.append_assoc, List.singleton_append,
      List.splitOn_append_cons_self_of_not_mem hpiece, ih ha, List.cons_append]

theorem splitOn_flatMap (ha : ∀ piece ∈ pieces, a ∉ piece) :
    (pieces.flatMap (· ++ [a])).splitOn a = pieces ++ [[]] := by
  have hsplit := splitOn_flatMap_append ha []
  rwa [List.append_nil] at hsplit

end Pieces

section Lines

variable {cs line rest : List Char} {ls : List (List Char)}

theorem lines_cons (hfeed : '\n' ∉ line) :
    lines (line ++ '\n' :: rest) = dropReturn line :: lines rest := by
  have hline : lines (line ++ ['\n']) = [dropReturn line] := by
    have hsplit : (line ++ ['\n']).splitOn '\n' = [line, []] :=
      List.splitOn_append_cons_self_of_not_mem hfeed []
    simp [lines, hsplit, ended, unended]
  rw [lines_append, hline, List.singleton_append]

theorem lines_of_unended (hne : line ≠ []) (hfeed : '\n' ∉ line) : lines line = [line] := by
  have hsplit := List.splitOn_eq_singleton hfeed
  cases line with
  | nil => exact absurd rfl hne
  | cons c line => simp [lines, hsplit, ended, unended]

theorem Lines.lines_eq (h : Lines cs ls) : lines cs = ls := by
  induction h with
  | nil => exact lines_nil
  | unended hne hfeed => exact lines_of_unended hne hfeed
  | feed hfeed hreturn _ ih => rw [lines_cons hfeed, dropReturn, if_neg hreturn, ih]
  | @returnFeed line rest ls hfeed _ ih =>
    have hfeed' : '\n' ∉ line ++ ['\r'] := by simp [hfeed]
    have hcons : lines (line ++ ['\r'] ++ '\n' :: rest) = _ := lines_cons hfeed'
    rw [List.append_assoc, List.singleton_append] at hcons
    rw [hcons, ih, dropReturn]
    simp

theorem lines_lines (cs : List Char) : Lines cs (lines cs) := by
  -- what stands after the first line feed is shorter than the text
  induction hlen : cs.length using Nat.strongRecOn generalizing cs with
  | ind n ih =>
    by_cases hmem : '\n' ∈ cs
    · obtain ⟨line, rest, rfl, hfeed⟩ := List.eq_append_cons_of_mem hmem
      have hrest := ih rest.length (by simp at hlen; omega) rest rfl
      rw [lines_cons hfeed, dropReturn]
      split
      · rename_i hreturn
        have hline := List.dropLast_append_getLast? '\r' hreturn
        have hfeed' : '\n' ∉ line.dropLast := fun h => hfeed (List.dropLast_subset _ h)
        have hlines := Lines.returnFeed hfeed' hrest
        rwa [← List.singleton_append, ← List.append_assoc, hline] at hlines
      · rename_i hreturn
        exact Lines.feed hfeed hreturn hrest
    · by_cases hne : cs = []
      · rw [hne, lines_nil]
        exact Lines.nil
      · rw [lines_of_unended hne hmem]
        exact Lines.unended hne hmem

theorem lines_eq_iff : lines cs = ls ↔ Lines cs ls :=
  ⟨fun h => h ▸ lines_lines cs, Lines.lines_eq⟩

def EndsInFeed (cs : List Char) : Prop := ∀ c, cs.getLast? = some c → c = '\n'

theorem EndsInFeed.of_getLast? (h : cs.getLast? = some '\n') : EndsInFeed cs := by
  intro c hc
  exact Option.some.inj (hc.symm.trans h)

theorem EndsInFeed.of_append (before : List Char) {after : List Char}
    (h : EndsInFeed (before ++ after)) : EndsInFeed after := by
  intro c hc
  refine h c ?_
  rw [List.getLast?_append, hc, Option.some_or]

theorem EndsInFeed.lines_append {before : List Char} (h : EndsInFeed before)
    (after : List Char) : lines (before ++ after) = lines before ++ lines after := by
  rcases List.eq_nil_or_concat before with rfl | ⟨front, c, rfl⟩
  · rw [lines_nil, List.nil_append, List.nil_append]
  · rw [List.concat_eq_append] at h ⊢
    obtain rfl : c = '\n' := h c List.getLast?_concat
    rw [List.append_assoc, List.singleton_append, Text.lines_append]

theorem Lines.length_eq (h : Lines cs ls) (hend : EndsInFeed cs) :
    ls.length = cs.count '\n' := by
  induction h with
  | nil => rfl
  | @unended line hne hfeed =>
    have hlast : line.getLast hne = '\n' := hend _ (List.getLast?_eq_some_getLast hne)
    exact absurd (hlast ▸ List.getLast_mem hne) hfeed
  | @feed line rest _ hfeed _ _ ih =>
    have hrest : EndsInFeed rest := .of_append (line ++ ['\n']) (by simpa using hend)
    rw [List.length_cons, ih hrest, List.count_append, List.count_cons_self,
      List.count_eq_zero.2 hfeed, Nat.zero_add]
  | @returnFeed line rest _ hfeed _ ih =>
    have hrest : EndsInFeed rest := .of_append (line ++ ['\r', '\n']) (by simpa using hend)
    rw [List.length_cons, ih hrest, List.count_append, List.count_cons_of_ne (by decide),
      List.count_cons_self, List.count_eq_zero.2 hfeed, Nat.zero_add]

def withReturns (cs : List Char) : List Char :=
  cs.flatMap fun c => if c = '\n' then ['\r', '\n'] else [c]

theorem withReturns_append (before after : List Char) :
    withReturns (before ++ after) = withReturns before ++ withReturns after :=
  List.flatMap_append

theorem withReturns_eq_self (hfeed : '\n' ∉ cs) : withReturns cs = cs := by
  induction cs with
  | nil => rfl
  | cons c cs ih =>
    rw [List.mem_cons, not_or] at hfeed
    rw [withReturns, List.flatMap_cons, if_neg (Ne.symm hfeed.1), ← withReturns, ih hfeed.2,
      List.singleton_append]

theorem Lines.withReturns (h : Lines cs ls) (hreturn : '\r' ∉ cs) :
    Lines (withReturns cs) ls := by
  induction h with
  | nil => exact .nil
  | unended hne hfeed =>
    rw [withReturns_eq_self hfeed]
    exact .unended hne hfeed
  | @feed line rest ls hfeed _ _ ih =>
    have hrest : '\r' ∉ rest := fun hmem => hreturn (by simp [hmem])
    have hline : Text.withReturns (line ++ '\n' :: rest) =
        line ++ '\r' :: '\n' :: Text.withReturns rest := by
      rw [withReturns_append, withReturns_eq_self hfeed]
      rfl
    rw [hline]
    exact .returnFeed hfeed (ih hrest)
  | returnFeed => exact absurd (by simp) hreturn

end Lines

section Fields

variable {line first second third : List Char}

theorem not_mem_of_mem_splitOn {a : Char} {cs piece : List Char} (h : piece ∈ cs.splitOn a) :
    a ∉ piece := by
  induction cs generalizing piece with
  | nil =>
    obtain rfl := List.mem_singleton.1 h
    exact List.not_mem_nil
  | cons c cs ih =>
    rw [List.splitOn_cons_eq_if_modifyHead] at h
    split at h
    · rcases List.mem_cons.1 h with rfl | h
      · exact List.not_mem_nil
      · exact ih h
    · rename_i hne
      cases hpieces : cs.splitOn a with
      | nil => exact absurd hpieces (List.splitOn_ne_nil a cs)
      | cons head tail =>
        rw [hpieces, List.modifyHead_cons] at h
        rw [hpieces] at ih
        rcases List.mem_cons.1 h with rfl | h
        · rw [List.mem_cons, not_or]
          exact ⟨fun heq => hne (by simp [heq]), ih List.mem_cons_self⟩
        · exact ih (List.mem_cons_of_mem _ h)

theorem length_fields (line : List Char) : (fields line).length = line.count ';' + 1 := by
  unfold fields
  induction line with
  | nil => rfl
  | cons c line ih =>
    rw [List.splitOn_cons_eq_if_modifyHead]
    by_cases hc : c = ';'
    · simp [hc, ih]
    · simp [hc, ih]

theorem fields_append {rest : List Char} (hfirst : ';' ∉ first)
    (hrest : rest = [] ∨ ∃ more, rest = ';' :: more) :
    fields (first ++ rest) = first :: (fields rest).tail := by
  have hsemicolon (line more : List Char) (hline : ';' ∉ line) :
      fields (line ++ ';' :: more) = line :: fields more :=
    List.splitOn_append_cons_self_of_not_mem hline more
  rcases hrest with rfl | ⟨more, rfl⟩
  · rw [List.append_nil, fields, List.splitOn_eq_singleton hfirst]
    rfl
  · have hempty : fields (';' :: more) = [] :: fields more := hsemicolon [] more List.not_mem_nil
    rw [hsemicolon first more hfirst, hempty, List.tail_cons]

theorem fields_cons_iff : (∃ more, fields line = first :: second :: third :: more) ↔
    StartsWithFields line first second third := by
  constructor
  · rintro ⟨more, hfields⟩
    have hjoin : [';'].intercalate (fields line) = line := List.intercalate_splitOn ';'
    have hnone (piece : List Char) (h : piece ∈ fields line) : ';' ∉ piece :=
      not_mem_of_mem_splitOn h
    rw [hfields] at hjoin hnone
    -- the third field may be the last one, and then no semicolon follows it
    have hthird : ∃ rest, [';'].intercalate (third :: more) = third ++ rest ∧
        (rest = [] ∨ ∃ more, rest = ';' :: more) := by
      cases more with
      | nil => exact ⟨[], by simp, Or.inl rfl⟩
      | cons next more =>
        exact ⟨';' :: [';'].intercalate (next :: more), by simp [List.intercalate_cons_cons],
          Or.inr ⟨_, rfl⟩⟩
    obtain ⟨rest, hrest, hend⟩ := hthird
    refine ⟨rest, ?_, hnone _ (by simp), hnone _ (by simp), hnone _ (by simp), hend⟩
    rw [← hjoin, List.intercalate_cons_cons, List.intercalate_cons_cons, hrest]
    simp
  · rintro ⟨rest, rfl, hfirst, hsecond, hthird, hend⟩
    rw [fields, List.splitOn_append_cons_self_of_not_mem hfirst,
      List.splitOn_append_cons_self_of_not_mem hsecond]
    rcases hend with rfl | ⟨more, rfl⟩
    · exact ⟨[], by rw [List.append_nil, List.splitOn_eq_singleton hthird]⟩
    · exact ⟨_, by rw [List.splitOn_append_cons_self_of_not_mem hthird]⟩

end Fields

section Parts

theorem prefix_of_prefix_append_cons {part cs ds : List Char} {c : Char} (hc : c ∉ part)
    (h : part <+: cs ++ c :: ds) : part <+: cs := by
  by_contra hnot
  have hlength : (cs ++ [c]).length ≤ part.length := by
    by_contra hshort
    rw [List.length_append, List.length_singleton] at hshort
    exact hnot (List.prefix_of_prefix_length_le h (List.prefix_append _ _) (by omega))
  have hstart : cs ++ [c] <+: part :=
    List.prefix_of_prefix_length_le ⟨ds, by simp⟩ h hlength
  exact hc (hstart.subset (by simp))

theorem infix_append_cons_iff {part cs ds : List Char} {c : Char} (hc : c ∉ part) :
    part <:+: cs ++ c :: ds ↔ part <:+: cs ∨ part <:+: ds := by
  constructor
  · intro h
    induction cs with
    | nil =>
      rcases List.infix_cons_iff.1 h with hstart | hinfix
      · have hnil : part <+: [] := prefix_of_prefix_append_cons hc (by exact hstart)
        exact .inl hnil.isInfix
      · exact .inr hinfix
    | cons d cs ih =>
      rcases List.infix_cons_iff.1 h with hstart | hinfix
      · exact .inl (prefix_of_prefix_append_cons hc hstart).isInfix
      · exact (ih hinfix).imp_left fun hcs => hcs.trans (List.suffix_cons d cs).isInfix
  · rintro (h | h)
    · exact h.trans (List.prefix_append _ _).isInfix
    · exact h.trans ((List.suffix_cons c ds).trans (List.suffix_append _ _)).isInfix

end Parts

namespace Blank

variable {cs ds before after : List Char}

theorem trimmed_trim (cs : List Char) : Trimmed cs (trim cs) := by
  have hleft : cs.takeWhile isBlank ++ trimLeft cs = cs := List.takeWhile_append_dropWhile
  have hright : trim cs ++ ((trimLeft cs).reverse.takeWhile isBlank).reverse = trimLeft cs := by
    rw [trim, trimRight, ← List.reverse_append, List.takeWhile_append_dropWhile,
      List.reverse_reverse]
  refine ⟨cs.takeWhile isBlank, ((trimLeft cs).reverse.takeWhile isBlank).reverse, ?_, ?_, ?_,
    ?_, ?_⟩
  · rw [List.append_assoc, hright, hleft]
  · intro c hc
    exact List.mem_takeWhile_imp hc
  · intro c hc
    exact List.mem_takeWhile_imp (List.mem_reverse.1 hc)
  · intro c hc
    have hhead : (trimLeft cs).head? = some c := by
      rw [← hright, List.head?_append, hc, Option.some_or]
    have hstop := List.head?_dropWhile_not isBlank cs
    rw [show cs.dropWhile isBlank = trimLeft cs from rfl, hhead] at hstop
    simpa using hstop
  · intro c hc
    rw [trim, trimRight, List.getLast?_reverse] at hc
    have hstop := List.head?_dropWhile_not isBlank (trimLeft cs).reverse
    rw [hc] at hstop
    simpa using hstop

theorem trimLeft_append (hbefore : ∀ c ∈ before, isBlank c = true)
    (hhead : ∀ c, cs.head? = some c → isBlank c = false) : trimLeft (before ++ cs) = cs := by
  rw [trimLeft, List.dropWhile_append_of_pos hbefore]
  cases cs with
  | nil => rfl
  | cons c cs => exact List.dropWhile_cons_of_neg (by simp [hhead c rfl])

theorem trimRight_append (hafter : ∀ c ∈ after, isBlank c = true)
    (hlast : ∀ c, cs.getLast? = some c → isBlank c = false) : trimRight (cs ++ after) = cs := by
  have hreverse : trimLeft (after.reverse ++ cs.reverse) = cs.reverse :=
    trimLeft_append (fun c hc => hafter c (List.mem_reverse.1 hc))
      fun c hc => hlast c (by simpa using hc)
  rw [trimLeft] at hreverse
  rw [trimRight, List.reverse_append, hreverse, List.reverse_reverse]

theorem trim_eq_iff : trim cs = ds ↔ Trimmed cs ds := by
  constructor
  · rintro rfl
    exact trimmed_trim cs
  · rintro ⟨before, after, rfl, hbefore, hafter, hhead, hlast⟩
    by_cases hnil : ds = []
    · subst hnil
      rw [trim_eq_nil_iff, List.all_eq_true]
      intro c hc
      rw [List.append_nil, List.mem_append] at hc
      exact hc.elim (hbefore c) (hafter c)
    · have hhead' : ∀ c, (ds ++ after).head? = some c → isBlank c = false := by
        intro c hc
        rw [List.head?_append_of_ne_nil _ hnil] at hc
        exact hhead c hc
      rw [trim, List.append_assoc, trimLeft_append hbefore hhead', trimRight_append hafter hlast]

theorem trim_append (cs : List Char) (hbefore : ∀ c ∈ before, isBlank c = true)
    (hafter : ∀ c ∈ after, isBlank c = true) : trim (before ++ cs ++ after) = trim cs := by
  obtain ⟨before', after', hcs, hbefore', hafter', hhead, hlast⟩ := trimmed_trim cs
  refine trim_eq_iff.2 ⟨before ++ before', after' ++ after, ?_, ?_, ?_, hhead, hlast⟩
  · calc before ++ cs ++ after = before ++ (before' ++ trim cs ++ after') ++ after := by rw [← hcs]
      _ = before ++ before' ++ trim cs ++ (after' ++ after) := by simp
  · exact fun c hc => (List.mem_append.1 hc).elim (hbefore c) (hbefore' c)
  · exact fun c hc => (List.mem_append.1 hc).elim (hafter' c) (hafter c)

end Blank
end CodeRuns.Text
