import CodeRuns.Proofs.Listing.Literals

/-! The tokens of a list of literals. Line feeds and blanks belong to the layout only, and a comma
ends each literal, so that a list without the former, taken apart at the latter, is one token for
each number or role. Main statement: these tokens are the same for every width and read back as the
list, and so no two lists are written alike. -/

namespace CodeRuns.Listing

def unspaced (cs : List Char) : List Char := cs.filter fun c => c ≠ '\n' && c ≠ ' '

/-- Zero alone, or the mark of base sixteen before upper-case digits that begin with no zero. -/
def IsNumberToken (token : List Char) : Prop :=
  token = ['0'] ∨ ∃ digits, token = '0' :: 'x' :: digits ∧ Text.Hex.IsWritten digits

theorem isNumberToken_numberLiteral (n : Nat) : IsNumberToken (numberLiteral n) := by
  rw [numberLiteral]
  split
  · exact .inl rfl
  · rename_i hne
    exact .inr ⟨_, rfl, Text.Hex.isWritten_digits hne⟩

theorem filter_setLines {p : Char → Bool} (hfeed : p '\n' = false) (hblank : p ' ' = false)
    (lines : List (List Item)) :
    (setLines lines).filter p = lines.flatten.flatten.filter p := by
  have hlines : (lines.flatMap indented).filter p = lines.flatten.flatten.filter p := by
    induction lines with
    | nil => rfl
    | cons line rest ih => simp [indented, hfeed, hblank, ih]
  simp [setLines, hlines, hfeed]

section Items

variable {α : Type} {write : α → List Char} {read? : List Char → Option α}

theorem filter_setLines_fill {p : Char → Bool} (hfeed : p '\n' = false) (hblank : p ' ' = false)
    (hcomma : p ',' = true) (hbare : ∀ c, IsBare c → p c = true)
    (h : ∀ a, ∀ c ∈ write a, IsBare c) (as : List α) (width : Nat) :
    (setLines (fill width (as.map fun a => item (write a)))).filter p =
      as.flatMap fun a => write a ++ [','] := by
  have hitem (a : α) : (item (write a)).filter p = write a ++ [','] := by
    have hwrite : (write a).filter p = write a :=
      List.filter_eq_self.2 fun c hc => hbare c (h a c hc)
    rw [item, List.filter_append, hwrite, List.filter_cons_of_pos hcomma,
      List.filter_cons_of_neg (by simp [hblank]), List.filter_nil]
  rw [filter_setLines hfeed hblank, fill_flatten, ← List.flatMap_def, List.filter_flatMap]
  exact List.flatMap_congr fun a _ => hitem a

theorem unspaced_setLines (h : ∀ a, ∀ c ∈ write a, IsBare c) (as : List α) (width : Nat) :
    unspaced (setLines (fill width (as.map fun a => item (write a)))) =
      as.flatMap fun a => write a ++ [','] := by
  refine filter_setLines_fill (by decide) (by decide) (by decide) (fun c hc => ?_) h as width
  have hfeed : c ≠ '\n' := hc.ne (by decide)
  have hblank : c ≠ ' ' := hc.ne (by decide)
  simp [hfeed, hblank]

theorem splitOn_unspaced_setLines (h : ∀ a, ∀ c ∈ write a, IsBare c) (as : List α) (width : Nat) :
    (unspaced (setLines (fill width (as.map fun a => item (write a))))).splitOn ',' =
      as.map write ++ [[]] := by
  have hcomma : ∀ token ∈ as.map write, ',' ∉ token := by
    intro token htoken
    obtain ⟨a, -, rfl⟩ := List.mem_map.1 htoken
    exact not_mem_of_isBare (h a) (by decide)
  rw [unspaced_setLines h, ← Text.splitOn_flatMap hcomma, List.flatMap_map]

theorem write_injective (hread : ∀ a, read? (write a) = some a) : Function.Injective write := by
  intro a b hsame
  have hback := hread a
  rw [hsame, hread b] at hback
  exact (Option.some.inj hback).symm

theorem setLines_injective (h : ∀ a, ∀ c ∈ write a, IsBare c)
    (hread : ∀ a, read? (write a) = some a) (width : Nat) :
    Function.Injective fun as : List α =>
      setLines (fill width (as.map fun a => item (write a))) := by
  intro as bs hsame
  have htokens : as.map write ++ [[]] = bs.map write ++ [[]] := by
    rw [← splitOn_unspaced_setLines h as width, ← splitOn_unspaced_setLines h bs width]
    exact congrArg (fun cs => (unspaced cs).splitOn ',') hsame
  exact (write_injective hread).list_map (List.append_cancel_right htokens)

end Items

/-- Numbers and roles are each one token, whatever the width, and no two lists have the same text.
Nothing stands behind the last comma. -/
theorem tokens_read_back :
    (∀ ns : List Nat, ∃ tokens : List (List Char),
      (∀ width, (unspaced (numbers ns width)).splitOn ',' = tokens ++ [[]]) ∧
        tokens.length = ns.length ∧ (∀ token ∈ tokens, IsNumberToken token) ∧
        tokens.mapM number? = some ns) ∧
    (∀ rs : List Role, ∃ tokens : List (List Char),
      (∀ width, (unspaced (roles rs width)).splitOn ',' = tokens ++ [[]]) ∧
        tokens.length = rs.length ∧ tokens.mapM role? = some rs) ∧
    ∀ width, (Function.Injective fun ns => numbers ns width) ∧
      Function.Injective fun rs => roles rs width := by
  have hnumber (n : Nat) : ∀ c ∈ numberLiteral n, IsBare c :=
    fun _ hc => isBare_of_mem_numberLiteral hc
  have hrole (r : Role) : ∀ c ∈ roleLiteral r, IsBare c := fun _ hc => isBare_of_mem_roleLiteral hc
  refine ⟨fun ns => ?_, fun rs => ?_, fun width => ⟨?_, ?_⟩⟩
  · refine ⟨ns.map numberLiteral, splitOn_unspaced_setLines hnumber ns, List.length_map _, ?_,
      mapM_read number?_numberLiteral ns⟩
    exact List.forall_mem_map.2 fun n _ => isNumberToken_numberLiteral n
  · exact ⟨rs.map roleLiteral, splitOn_unspaced_setLines hrole rs, List.length_map _,
      mapM_read role?_roleLiteral rs⟩
  · exact setLines_injective hnumber number?_numberLiteral width
  · exact setLines_injective hrole role?_roleLiteral width

example : (unspaced (numbers [0, 0xFE0F] 4)).splitOn ',' = ["0".toList, "0xFE0F".toList, []] ∧
    (unspaced (numbers [0, 0xFE0F] 40)).splitOn ',' = ["0".toList, "0xFE0F".toList, []] := by
  decide +kernel

end CodeRuns.Listing
