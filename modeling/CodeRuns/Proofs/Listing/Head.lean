import CodeRuns.Listing
import CodeRuns.Proofs.Text.Layout

/-! The head of a listing, line by line. Every line there is written behind two slashes, but the
version of the database is put in as it stands, and what follows a line feed in it makes lines of
its own. Those are all that the head leaves if its comments are taken out. -/

namespace CodeRuns.Listing

/-- The lines of a text that do not begin as comments, one after the other. -/
def uncommented (cs : List Char) : List Char :=
  ((cs.splitOn '\n').filter fun line => !"//".toList.isPrefixOf line).flatten

def Header.OneLine (h : Header) : Prop := ∀ v, h.version = some v → '\n' ∉ v.toList

/-- The lines of the version but the first, which stands behind the slashes of its line. -/
def Header.laterLines (h : Header) : List (List Char) :=
  match h.version with
  | some v => (v.toList.splitOn '\n').tail
  | none => []

def kept (lines : List (List Char)) : List (List Char) :=
  lines.filter fun line => !"//".toList.isPrefixOf line

def rows (s : String) : List (List Char) := s.toList.dropLast.splitOn '\n'

def headLines (h : Header) : List String :=
  warning :: ((h.version.map fun v => String.join (versionParts v)).toList ++
    Role.all.map fun r => String.join (roleParts r))

def headRows (h : Header) : List (List Char) := (headLines h).flatMap rows

def IsCommentLine (s : String) : Prop :=
  ∃ line, s.toList = line ++ ['\n'] ∧ "//".toList <+: line ∧ '\n' ∉ line

def versionMark : List Char := "// источник: Unicode Character Database, версия ".toList

variable {s : String} {h : Header} {line front cs : List Char} {lines : List (List Char)}

section Comments

theorem of_ofList {p : List Char → Prop} {cs : List Char} (h : p cs) :
    p (String.ofList cs).toList := by
  rwa [String.toList_ofList]

theorem isCommentLine_ofList {cs : List Char} (hends : cs.getLast? = some '\n')
    (hslashes : "//".toList <+: cs.dropLast) (hfeed : '\n' ∉ cs.dropLast) :
    IsCommentLine (String.ofList cs) := by
  refine ⟨cs.dropLast, ?_, hslashes, hfeed⟩
  rw [String.toList_ofList, List.dropLast_append_getLast? _ hends]

theorem isCommentLine_warning : IsCommentLine warning :=
  isCommentLine_ofList (by decide) (by decide) (by decide)

theorem isCommentLine_roleParts (r : Role) : IsCommentLine (String.join (roleParts r)) := by
  rw [IsCommentLine, String.toList_join]
  refine ⟨((roleParts r).flatMap String.toList).dropLast, ?_, ?_, ?_⟩ <;> cases r <;> decide

theorem slashes_prefix_versionMark : "//".toList <+: versionMark :=
  of_ofList (p := fun cs => "//".toList <+: cs) (by decide)

theorem feed_not_mem_versionMark : '\n' ∉ versionMark :=
  of_ofList (p := fun cs => '\n' ∉ cs) (by decide)

theorem toList_versionParts (v : String) :
    (String.join (versionParts v)).toList = versionMark ++ v.toList ++ ['\n'] := by
  rw [versionParts, String.join_cons, String.join_cons, String.join_cons, String.join_nil,
    String.toList_append, String.toList_append, List.append_assoc]
  rfl

end Comments

section Kept

theorem kept_eq_nil_iff : kept lines = [] ↔ ∀ line ∈ lines, "//".toList <+: line := by
  rw [kept, List.filter_eq_nil_iff]
  simp only [Bool.not_eq_true', Bool.not_eq_false, List.isPrefixOf_iff_prefix]

theorem kept_cons_of_comment (hline : "//".toList <+: line) (lines : List (List Char)) :
    kept (line :: lines) = kept lines := by
  refine List.filter_cons_of_neg ?_
  rw [List.isPrefixOf_iff_prefix.2 hline]
  decide

theorem uncommented_flatMap (hfeed : ∀ line ∈ lines, '\n' ∉ line) (rest : List Char) :
    uncommented (lines.flatMap (· ++ ['\n']) ++ rest) =
      (kept lines).flatten ++ uncommented rest := by
  rw [uncommented, Text.splitOn_flatMap_append hfeed, List.filter_append, List.flatten_append]
  rfl

end Kept

section Rows

theorem flatMap_splitOn (cs : List Char) :
    (cs.splitOn '\n').flatMap (· ++ ['\n']) = cs ++ ['\n'] := by
  have hends : cs.splitOn '\n' ++ [[]] = (cs ++ ['\n']).splitOn '\n' :=
    (List.splitOnP_append_cons cs [] (by decide)).symm
  rw [← Text.intercalate_concat_nil, hends, List.intercalate_splitOn]

theorem splitOn_append_of_not_mem (hfront : '\n' ∉ front) (cs : List Char) :
    (front ++ cs).splitOn '\n' = (cs.splitOn '\n').modifyHead (front ++ ·) := by
  induction front with
  | nil => cases hsplit : cs.splitOn '\n' <;> simp [hsplit]
  | cons c front ih =>
    obtain ⟨hc, hfront⟩ := not_or.1 (List.mem_cons.not.1 hfront)
    rw [List.cons_append, List.splitOn_cons_eq_if_modifyHead, if_neg (by simpa using Ne.symm hc),
      ih hfront]
    cases cs.splitOn '\n' <;> rfl

theorem flatMap_rows (h : s.toList = cs ++ ['\n']) : (rows s).flatMap (· ++ ['\n']) = s.toList := by
  rw [rows, h, List.dropLast_concat, flatMap_splitOn]

theorem kept_rows_of_isCommentLine (h : IsCommentLine s) : kept (rows s) = [] := by
  obtain ⟨line, hs, hslashes, hfeed⟩ := h
  rw [rows, hs, List.dropLast_concat, List.splitOn_eq_singleton hfeed,
    kept_cons_of_comment hslashes]
  rfl

theorem kept_rows_versionParts (v : String) :
    kept (rows (String.join (versionParts v))) = kept (v.toList.splitOn '\n').tail := by
  rw [rows, toList_versionParts, List.dropLast_concat,
    splitOn_append_of_not_mem feed_not_mem_versionMark]
  cases v.toList.splitOn '\n' with
  | nil => rfl
  | cons first more =>
    rw [List.modifyHead_cons, List.tail_cons]
    exact kept_cons_of_comment (slashes_prefix_versionMark.trans (List.prefix_append _ _)) more

theorem flatMap_flatMap_rows {ss : List String} (h : ∀ s ∈ ss, ∃ cs, s.toList = cs ++ ['\n']) :
    (ss.flatMap rows).flatMap (· ++ ['\n']) = (String.join ss).toList := by
  rw [List.flatMap_assoc, String.toList_join]
  refine List.flatMap_congr fun s hs => ?_
  obtain ⟨cs, hcs⟩ := h s hs
  exact flatMap_rows hcs

end Rows

section Head

theorem join_flatMap {α : Type} (f : α → List String) (xs : List α) :
    String.join (xs.flatMap f) = String.join (xs.map fun x => String.join (f x)) := by
  induction xs with
  | nil => rfl
  | cons x xs ih => rw [List.flatMap_cons, String.join_append, List.map_cons, String.join_cons, ih]

theorem text_eq_append_body (t : RunTable) (h : Header) :
    text t h = String.join (headLines h) ++ body t := by
  rw [text, parts, headLines, String.join_cons, String.join_cons, String.join_append,
    String.join_append, String.join_append, join_flatMap, String.join_cons, String.join_nil,
    String.append_empty]
  cases h.version <;> simp [String.append_assoc]

theorem Header.OneLine.laterLines_eq (hline : h.OneLine) : h.laterLines = [] := by
  unfold Header.laterLines
  split
  · rename_i v hv
    rw [List.splitOn_eq_singleton (hline v hv), List.tail_cons]
  · rfl

theorem kept_headRows (h : Header) : kept (headRows h) = kept h.laterLines := by
  have hroles : (Role.all.map fun r => String.join (roleParts r)).flatMap
      (fun s => kept (rows s)) = [] := by
    refine List.flatMap_eq_nil_iff.2 fun s hs => ?_
    obtain ⟨r, -, rfl⟩ := List.mem_map.1 hs
    exact kept_rows_of_isCommentLine (isCommentLine_roleParts r)
  have hflat : kept (headRows h) = (headLines h).flatMap fun s => kept (rows s) :=
    List.filter_flatMap ..
  rw [hflat, headLines, List.flatMap_cons, kept_rows_of_isCommentLine isCommentLine_warning,
    List.flatMap_append, hroles, List.nil_append, List.append_nil, Header.laterLines]
  cases h.version with
  | none => rfl
  | some v =>
    rw [Option.map_some, Option.toList_some, List.flatMap_singleton, kept_rows_versionParts]

theorem feed_not_mem_of_mem_headRows (hline : line ∈ headRows h) : '\n' ∉ line := by
  obtain ⟨s, -, hline⟩ := List.mem_flatMap.1 hline
  exact Text.not_mem_of_mem_splitOn hline

theorem exists_eq_concat_of_mem_headLines (hs : s ∈ headLines h) :
    ∃ cs, s.toList = cs ++ ['\n'] := by
  have hcomment {s : String} (hs : IsCommentLine s) : ∃ cs, s.toList = cs ++ ['\n'] :=
    ⟨hs.choose, hs.choose_spec.1⟩
  rcases List.mem_cons.1 hs with rfl | hs
  · exact hcomment isCommentLine_warning
  · rcases List.mem_append.1 hs with hs | hs
    · obtain ⟨v, -, rfl⟩ := Option.map_eq_some_iff.1 (Option.mem_toList.1 hs)
      exact ⟨_, toList_versionParts v⟩
    · obtain ⟨r, -, rfl⟩ := List.mem_map.1 hs
      exact hcomment (isCommentLine_roleParts r)

theorem toList_text (t : RunTable) (h : Header) :
    (text t h).toList = (headRows h).flatMap (· ++ ['\n']) ++ (body t).toList := by
  rw [text_eq_append_body, String.toList_append, headRows,
    flatMap_flatMap_rows fun s hs => exists_eq_concat_of_mem_headLines hs]

theorem uncommented_text (t : RunTable) (h : Header) : uncommented (text t h).toList =
    (kept h.laterLines).flatten ++ uncommented (body t).toList := by
  rw [toList_text, uncommented_flatMap fun line hline => feed_not_mem_of_mem_headRows hline,
    kept_headRows]

end Head

end CodeRuns.Listing
