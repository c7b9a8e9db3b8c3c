import CodeRuns.Proofs.Listing.Literals
import CodeRuns.Text.Bytes
import Mathlib.Algebra.BigOperators.Group.List.Basic

/-! Literals in as few lines as possible. A line takes items while they fit, so that after any number
of lines at least as many items are placed as in any other division of the items into lines of that
width. Main statement: no such division has fewer lines. -/

namespace CodeRuns.Listing

def Fits (size : Item → Nat) (width : Nat) (line : List Item) : Prop :=
  line ≠ [] ∧ ((line.map size).sum ≤ width ∨ line.length = 1)

/-- Consecutive items put together in lines, each item whole and in one line. -/
structure Division (size : Item → Nat) (width : Nat) (items : List Item)
    (lines : List (List Item)) : Prop where
  flatten_eq : lines.flatten = items
  fits : ∀ line ∈ lines, Fits size width line

def sizeInBytes (i : Item) : Nat := (Text.bytes (String.ofList i)).length

def SetInFewestLines (width : Nat) (items : List Item) (text : List Char) : Prop :=
  ∃ lines, text = lines.flatMap (fun line => "\n    ".toList ++ line.flatten) ++ ['\n'] ∧
    Division sizeInBytes width items lines ∧
    ∀ others, Division sizeInBytes width items others → lines.length ≤ others.length

variable {size size' : Item → Nat} {width used : Nat} {line front rest items : List Item}
  {lines : List (List Item)}

theorem Fits.congr (hsize : ∀ i ∈ line, size i = size' i) (h : Fits size width line) :
    Fits size' width line := by
  refine ⟨h.1, h.2.imp_left fun hsum => ?_⟩
  rwa [← List.map_congr_left hsize]

theorem Fits.of_suffix (h : Fits size width line) (hsuffix : front <:+ line) (hne : front ≠ []) :
    Fits size width front := by
  obtain ⟨lost, rfl⟩ := hsuffix
  refine ⟨hne, h.2.imp (fun hsum => ?_) fun hone => ?_⟩
  · rw [List.map_append, List.sum_append] at hsum
    omega
  · have hpos := List.length_pos_iff.2 hne
    rw [List.length_append] at hone
    omega

theorem Division.congr (hsize : ∀ i ∈ items, size i = size' i)
    (h : Division size width items lines) : Division size' width items lines := by
  refine ⟨h.flatten_eq, fun line hline => (h.fits line hline).congr fun i hi => hsize i ?_⟩
  rw [← h.flatten_eq]
  exact List.mem_flatten.2 ⟨line, hline, hi⟩

theorem fillFrom_fits (hused : used = (line.reverse.map List.length).sum)
    (hline : Fits List.length width line.reverse) :
    ∀ l ∈ fillFrom width line used items, Fits List.length width l := by
  induction items generalizing line used with
  | nil => exact List.forall_mem_singleton.2 hline
  | cons item items ih =>
    unfold fillFrom
    split
    · rename_i hfits
      have hsum : used + item.length = ((item :: line).reverse.map List.length).sum := by
        simp [hused]
      exact ih hsum ⟨by simp, .inl (hsum ▸ hfits)⟩
    · have halone : Fits List.length width [item].reverse := ⟨by simp, .inr rfl⟩
      exact List.forall_mem_cons.2 ⟨hline, ih (by simp) halone⟩

theorem fill_division (width : Nat) (items : List Item) :
    Division List.length width items (fill width items) := by
  refine ⟨fill_flatten width items, ?_⟩
  cases items with
  | nil => exact List.forall_mem_nil _
  | cons item items => exact fillFrom_fits (by simp) ⟨by simp, .inr rfl⟩

theorem exists_fillFrom_eq (width : Nat) (line : List Item) (used : Nat) (items : List Item) :
    ∃ taken left, items = taken ++ left ∧
      fillFrom width line used items = (line.reverse ++ taken) :: fill width left := by
  induction items generalizing line used with
  | nil => exact ⟨[], [], rfl, by simp [fillFrom, fill]⟩
  | cons item items ih =>
    unfold fillFrom
    split
    · obtain ⟨taken, left, rfl, hfill⟩ := ih (item :: line) (used + item.length)
      exact ⟨item :: taken, left, rfl, by simp [hfill]⟩
    · exact ⟨[], item :: items, rfl, by simp [fill]⟩

theorem fillFrom_append (hfits : used + (front.map List.length).sum ≤ width) :
    fillFrom width line used (front ++ rest) =
      fillFrom width (front.reverse ++ line) (used + (front.map List.length).sum) rest := by
  induction front generalizing line used with
  | nil => rfl
  | cons item front ih =>
    rw [List.map_cons, List.sum_cons, ← Nat.add_assoc] at hfits ⊢
    have hitem : used + item.length ≤ width := Nat.le_trans (Nat.le_add_right _ _) hfits
    rw [List.cons_append, fillFrom, if_pos hitem, ih hfits]
    simp

theorem exists_fill_append_eq (hfront : Fits List.length width front) (rest : List Item) :
    ∃ taken left, rest = taken ++ left ∧
      fill width (front ++ rest) = (front ++ taken) :: fill width left := by
  obtain ⟨item, more, rfl⟩ := List.exists_cons_of_ne_nil hfront.1
  have hfill : fill width (item :: more ++ rest) =
      fillFrom width (more.reverse ++ [item]) (item.length + (more.map List.length).sum) rest := by
    rcases hfront.2 with hsum | hone
    · rw [List.map_cons, List.sum_cons] at hsum
      exact fillFrom_append hsum
    · obtain rfl : more = [] := by simpa using hone
      rfl
  obtain ⟨taken, left, hrest, hlines⟩ := exists_fillFrom_eq width (more.reverse ++ [item])
    (item.length + (more.map List.length).sum) rest
  exact ⟨taken, left, hrest, by rw [hfill, hlines]; simp⟩

/-- Filling stays ahead of any lines that fit, however many of their items are placed already. -/
theorem length_fill_le_of_suffix (hfits : ∀ line ∈ lines, Fits List.length width line)
    (hsuffix : items <:+ lines.flatten) : (fill width items).length ≤ lines.length := by
  -- the induction is on the other lines, while the items still to come are left open
  induction lines generalizing items with
  | nil =>
    obtain rfl := List.suffix_nil.1 hsuffix
    exact Nat.le_refl _
  | cons line lines ih =>
    obtain ⟨hline, hlines⟩ := List.forall_mem_cons.1 hfits
    rw [List.flatten_cons] at hsuffix
    rw [List.length_cons]
    rcases List.suffix_or_suffix_of_suffix hsuffix (List.suffix_append line lines.flatten)
      with hbehind | ⟨front, rfl⟩
    · exact Nat.le_succ_of_le (ih hlines hbehind)
    · by_cases hne : front = []
      · subst hne
        exact Nat.le_succ_of_le (ih hlines List.suffix_rfl)
      · have hfront := hline.of_suffix ((List.suffix_append_inj_of_length_eq rfl).1 hsuffix).1 hne
        obtain ⟨taken, left, hflatten, hfill⟩ := exists_fill_append_eq hfront lines.flatten
        rw [hfill, List.length_cons]
        exact Nat.succ_le_succ (ih hlines ⟨taken, hflatten.symm⟩)

theorem Division.length_fill_le (h : Division List.length width items lines) :
    (fill width items).length ≤ lines.length :=
  length_fill_le_of_suffix h.fits (h.flatten_eq ▸ List.suffix_rfl)

section Literals

variable {α : Type} {write : α → List Char}

theorem sizeInBytes_of_ascii {i : Item} (h : ∀ c ∈ i, c.utf8Size = 1) :
    sizeInBytes i = i.length := by
  induction i with
  | nil => rfl
  | cons c i ih =>
    obtain ⟨hc, hi⟩ := List.forall_mem_cons.1 h
    have hcons : String.ofList (c :: i) = String.singleton c ++ String.ofList i := by
      rw [String.singleton_eq_ofList, ← String.ofList_append, List.singleton_append]
    have hfirst : (Text.bytes (String.singleton c)).length = c.utf8Size :=
      String.utf8ByteSize_singleton
    rw [sizeInBytes, hcons, Text.bytes_append, List.length_append, hfirst, hc, ← sizeInBytes, ih hi,
      List.length_cons, Nat.add_comm]

theorem IsBare.utf8Size_eq {c : Char} (h : IsBare c) : c.utf8Size = 1 := by
  have hbounds := isBare_iff_toNat.1 h
  have hsmall : c.toNat ≤ 127 := by omega
  exact Char.utf8Size_eq_one_iff.2 (UInt32.le_iff_toNat_le.2 hsmall)

theorem sizeInBytes_item {literal : List Char} (h : ∀ c ∈ literal, IsBare c) :
    sizeInBytes (item literal) = (item literal).length := by
  refine sizeInBytes_of_ascii fun c hc => ?_
  rcases List.mem_append.1 hc with hc | hc
  · exact (h c hc).utf8Size_eq
  · obtain rfl | rfl := List.mem_pair.1 hc <;> rfl

theorem setInFewestLines_fill (h : ∀ a, ∀ c ∈ write a, IsBare c) (as : List α) (width : Nat) :
    SetInFewestLines width (as.map fun a => item (write a))
      (setLines (fill width (as.map fun a => item (write a)))) := by
  have hsize : ∀ i ∈ as.map fun a => item (write a), i.length = sizeInBytes i := by
    intro i hi
    obtain ⟨a, -, rfl⟩ := List.mem_map.1 hi
    exact (sizeInBytes_item (h a)).symm
  refine ⟨_, rfl, (fill_division width _).congr hsize, fun others hothers => ?_⟩
  exact (hothers.congr fun i hi => (hsize i hi).symm).length_fill_le

end Literals

/-- Numbers and roles stand in lines behind an indent, each of them whole, once and in order. A line
with more than one of them keeps to the width, its indent not counted, and no division into lines
that do so has fewer of them. An empty list is a line feed. -/
theorem literals_in_fewest_lines (width : Nat) :
    (∀ ns : List Nat, SetInFewestLines width (ns.map fun n => item (numberLiteral n))
        (numbers ns width)) ∧
      (∀ rs : List Role, SetInFewestLines width (rs.map fun r => item (roleLiteral r))
        (roles rs width)) ∧
      numbers [] width = ['\n'] ∧ roles [] width = ['\n'] :=
  ⟨fun ns => setInFewestLines_fill (fun _ _ hc => isBare_of_mem_numberLiteral hc) ns width,
    fun rs => setInFewestLines_fill (fun _ _ hc => isBare_of_mem_roleLiteral hc) rs width, rfl, rfl⟩

example : numbers [0x41, 0x42, 0x43] 12 = "\n    0x41, 0x42, \n    0x43, \n".toList ∧
    numbers [0, 0x10FFFF, 0] 4 = "\n    0, \n    0x10FFFF, \n    0, \n".toList := by
  decide +kernel

end CodeRuns.Listing
