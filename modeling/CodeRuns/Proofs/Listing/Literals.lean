import CodeRuns.Listing
import CodeRuns.Proofs.Text.Layout
import CodeRuns.Proofs.Text.Numeral
import CodeRuns.Text.Blank
import Mathlib.Data.List.Basic

/-! Literals read back: lists whose items each end with a comma, numerals with or without the
mark of base sixteen, and roles by their path. What a listing writes for a number or a role
is read as that number or role, and holds no character that parts literals. -/

namespace CodeRuns.Listing

variable {α : Type}

def items? (cs : List Char) : Option (List (List Char)) :=
  let pieces := cs.splitOn ','
  if pieces.getLast? = some [] then some pieces.dropLast else none

def number? : List Char → Option Nat
  | ['0'] => some 0
  | '0' :: 'x' :: digits => Text.Hex.read? digits
  | _ => none

def code? (cs : List Char) : Option CodePoint :=
  (number? cs).bind fun n => if n < UInt32.size then some (UInt32.ofNat n) else none

/-- The paths under which the program that includes a listing declares the roles. -/
def rolePaths : List (List Char × Role) :=
  [("Classification::FormatControl".toList, .formatControl),
    ("Classification::Whitespace".toList, .whitespace),
    ("Classification::IdentifierStart".toList, .identifierStart),
    ("Classification::IdentifierPart".toList, .identifierPart),
    ("Classification::Other".toList, .other)]

def role? (cs : List Char) : Option Role := rolePaths.lookup cs

def readAll? (read? : List Char → Option α) (cs : List Char) : Option (List α) :=
  (items? cs).bind fun items => items.mapM read?

def IsBare (c : Char) : Prop := c.isAlphanum = true ∨ c = ':'

instance (c : Char) : Decidable (IsBare c) := inferInstanceAs (Decidable (_ ∨ _))

theorem isBare_iff_toNat {c : Char} : IsBare c ↔
    48 ≤ c.toNat ∧ c.toNat ≤ 58 ∨ 65 ≤ c.toNat ∧ c.toNat ≤ 90 ∨
      97 ≤ c.toNat ∧ c.toNat ≤ 122 := by
  have halphanum : c.isAlphanum = true ↔ ((65 ≤ c.toNat ∧ c.toNat ≤ 90) ∨
      (97 ≤ c.toNat ∧ c.toNat ≤ 122)) ∨ (48 ≤ c.toNat ∧ c.toNat ≤ 57) := by
    delta Char.isAlphanum Char.isAlpha Char.isUpper Char.isLower Char.isDigit
    simp only [Bool.or_eq_true, Bool.and_eq_true, decide_eq_true_eq, UInt32.le_iff_toNat_le]
    rfl
  have hcolon : c = ':' ↔ c.toNat = 58 := Char.toNat_inj.symm
  rw [IsBare, halphanum, hcolon]
  omega

theorem IsBare.not_blank {c : Char} (h : IsBare c) : Text.Blank.isBlank c = false := by
  have hbounds := isBare_iff_toNat.1 h
  rw [Bool.eq_false_iff]
  intro hblank
  obtain ⟨p, hp, hlow, hhigh⟩ := (Text.Stretches.holds_iff _ c).1 hblank
  simp only [Text.Blank.stretches, List.mem_cons, List.not_mem_nil, or_false] at hp
  -- white space stands before the figures or after the letters
  rcases hp with rfl | rfl | rfl | rfl | rfl | rfl | rfl | rfl | rfl | rfl <;>
    simp at hlow hhigh <;> omega

theorem IsBare.ne {c d : Char} (h : IsBare c) (hd : ¬ IsBare d) : c ≠ d := by
  rintro rfl
  exact hd h

theorem not_mem_of_isBare {cs : List Char} {d : Char} (h : ∀ c ∈ cs, IsBare c)
    (hd : ¬ IsBare d) : d ∉ cs := by
  intro hmem
  exact hd (h d hmem)

theorem isBare_of_isDigits {cs : List Char} {n : Nat} (h : Text.Hex.IsDigits cs n) :
    ∀ c ∈ cs, IsBare c := by
  obtain ⟨-, vs, hvs, -⟩ := h
  induction hvs with
  | nil => exact List.forall_mem_nil _
  | cons hv _ ih =>
    refine List.forall_mem_cons.2 ⟨?_, ih⟩
    have hbounds := Text.Hex.toNat_bounds_of_digitValue? (Text.Hex.digitValue?_eq_some_iff.2 hv)
    rw [isBare_iff_toNat]
    omega

theorem isBare_of_number? {cs : List Char} {n : Nat} (h : number? cs = some n) :
    ∀ c ∈ cs, IsBare c := by
  unfold number? at h
  split at h
  · exact List.forall_mem_singleton.2 (.inl (by decide))
  · have hdigits := isBare_of_isDigits (Text.Hex.read?_eq_some_iff.1 h)
    have hmarked := List.forall_mem_cons.2 ⟨show IsBare 'x' from .inl (by decide), hdigits⟩
    exact List.forall_mem_cons.2 ⟨.inl (by decide), hmarked⟩
  · cases h

theorem number?_numberLiteral (n : Nat) : number? (numberLiteral n) = some n := by
  rw [numberLiteral]
  split
  · rename_i hzero
    rw [hzero]
    rfl
  · exact Text.Hex.read?_digits n

theorem code?_numberLiteral (c : CodePoint) : code? (numberLiteral c.toNat) = some c := by
  rw [code?, number?_numberLiteral, Option.bind_some, if_pos c.toNat_lt_size, UInt32.ofNat_toNat]

theorem isBare_of_mem_numberLiteral {n : Nat} {c : Char} (hc : c ∈ numberLiteral n) :
    IsBare c := isBare_of_number? (number?_numberLiteral n) c hc

theorem isBare_of_mem_roleLiteral {r : Role} {c : Char} (hc : c ∈ roleLiteral r) : IsBare c := by
  have all : (roleLiteral r).all (fun c => c.isAlphanum || c == ':') = true := by
    cases r <;> decide +kernel
  have hbare := List.all_eq_true.1 all c hc
  rw [Bool.or_eq_true, beq_iff_eq] at hbare
  exact hbare

theorem role?_roleLiteral (r : Role) : role? (roleLiteral r) = some r := by
  cases r <;> decide +kernel

theorem items?_flatMap {items : List (List Char)} (h : ∀ item ∈ items, ',' ∉ item) :
    items? (items.flatMap (· ++ [','])) = some items := by
  simp [items?, Text.splitOn_flatMap h]

theorem flatMap_of_items? {cs : List Char} {items : List (List Char)}
    (h : items? cs = some items) : items.flatMap (· ++ [',']) = cs := by
  rw [items?] at h
  split at h
  · rename_i hlast
    obtain rfl := Option.some.inj h
    rw [← Text.intercalate_concat_nil, List.dropLast_append_getLast? [] hlast,
      List.intercalate_splitOn]
  · cases h

theorem mapM_read {read? : List Char → Option α} {write : α → List Char}
    (hread : ∀ a, read? (write a) = some a) (as : List α) :
    (as.map write).mapM read? = some as := by
  induction as with
  | nil => rfl
  | cons a as ih => simp [hread, ih]

theorem readAll?_flatMap {read? : List Char → Option α} {write : α → List Char}
    (hread : ∀ a, read? (write a) = some a) (hcomma : ∀ a, ',' ∉ write a) (as : List α) :
    readAll? read? (as.flatMap fun a => write a ++ [',']) = some as := by
  have hitems : items? ((as.map write).flatMap (· ++ [','])) = some (as.map write) :=
    items?_flatMap fun item hitem => by
      obtain ⟨a, _, rfl⟩ := List.mem_map.1 hitem
      exact hcomma a
  rw [List.flatMap_map] at hitems
  rw [readAll?, hitems, Option.bind_some, mapM_read hread]

theorem exists_of_mapM {read? : List Char → Option α} {items : List (List Char)} {as : List α}
    (h : items.mapM read? = some as) : ∀ item ∈ items, ∃ a, read? item = some a := by
  induction items generalizing as with
  | nil => intro item hitem; cases hitem
  | cons first rest ih =>
    rw [List.mapM_cons, Option.bind_eq_bind, Option.bind_eq_some_iff] at h
    obtain ⟨a, hfirst, hrest⟩ := h
    rw [Option.bind_eq_bind, Option.bind_eq_some_iff] at hrest
    obtain ⟨as, hrest, _⟩ := hrest
    intro item hitem
    rcases List.mem_cons.1 hitem with rfl | hitem
    · exact ⟨a, hfirst⟩
    · exact ih hrest item hitem

theorem bracket_not_mem_of_codes {cs : List Char} {codes : List CodePoint}
    (h : readAll? code? cs = some codes) : ']' ∉ cs := by
  obtain ⟨items, hitems, hread⟩ := Option.bind_eq_some_iff.1 h
  rw [← flatMap_of_items? hitems]
  intro hmem
  obtain ⟨item, hitem, hbracket⟩ := List.mem_flatMap.1 hmem
  rcases List.mem_append.1 hbracket with hbracket | hbracket
  · obtain ⟨c, hc⟩ := exists_of_mapM hread item hitem
    obtain ⟨n, hn, _⟩ := Option.bind_eq_some_iff.1 hc
    exact not_mem_of_isBare (isBare_of_number? hn) (by decide) hbracket
  · exact absurd (List.mem_singleton.1 hbracket) (by decide)

end CodeRuns.Listing
