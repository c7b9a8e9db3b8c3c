import CodeRuns.RunTable

/-! Tables that look-ups can rely on: two lists of one length, at least one run and the
sentinel, starts that strictly ascend before the sentinel, and a sentinel that neither
precedes the last run nor changes its role. The first rule a table breaks is its fault.
Main statement: a table has no fault exactly when it is well formed. -/

namespace CodeRuns.RunTable

inductive Fault where
  | empty
  | lengthMismatch (starts roles : Nat)
  | notAscending (index : Nat) (previous start : CodePoint)
  | sentinelBeforeLastRun (sentinel last : CodePoint)
  | sentinelRoleMismatch (sentinel last : Role)
  | unknownRole (byte : UInt8)
  deriving DecidableEq

def Fault.message : Fault → String
  | empty => "таблица классификации пуста: нужен хотя бы один отрезок и замыкающая запись"
  | lengthMismatch starts roles =>
    s!"длины таблиц не совпадают: {starts} начал отрезков, {roles} классов"
  | notAscending index previous start =>
    s!"начало отрезка #{index} ({start.text}) не больше предыдущего ({previous.text})"
  | sentinelBeforeLastRun sentinel last =>
    s!"замыкающая запись {sentinel.text} стоит раньше последнего отрезка {last.text}"
  | sentinelRoleMismatch sentinel last =>
    s!"класс замыкающей записи ({sentinel.name}) отличается от класса последнего отрезка ({last.name})"
  | unknownRole byte => s!"неизвестное значение классификации: {byte.toNat}"

def roleOfByte (byte : UInt8) : Except Fault Role :=
  match Role.ofByte? byte with
  | some r => .ok r
  | none => .error (.unknownRole byte)

def rolesOfBytes (bytes : List UInt8) : Except Fault (List Role) := bytes.mapM roleOfByte

def ofBytes (starts : Array CodePoint) (bytes : List UInt8) : Except Fault RunTable :=
  (rolesOfBytes bytes).map fun roles => ⟨starts, roles.toArray⟩

def descent? (i : Nat) : List CodePoint → Option Fault
  | a :: b :: rest =>
    if b ≤ a then some (.notAscending (i + 1) a b) else descent? (i + 1) (b :: rest)
  | _ => none

def fault? (t : RunTable) : Option Fault :=
  if t.starts.size ≠ t.roles.size then some (.lengthMismatch t.starts.size t.roles.size)
  else match t.starts.toList.reverse, t.roles.toList.reverse with
  | sentinel :: last :: before, sentinelRole :: lastRole :: _ =>
    match descent? 0 (last :: before).reverse with
    | some fault => some fault
    | none =>
      if sentinel < last then some (.sentinelBeforeLastRun sentinel last)
      else if sentinelRole ≠ lastRole then some (.sentinelRoleMismatch sentinelRole lastRole)
      else none
  | _, _ => some .empty

/-- The records are the runs in strictly ascending order and the sentinel, which repeats the
role of the last run at the same place or later. -/
structure WellFormed (t : RunTable) : Prop where
  even : t.starts.size = t.roles.size
  two_le : 2 ≤ t.starts.size
  ascending : t.starts.toList.dropLast.Pairwise (· < ·)
  sentinel_start : t.starts[t.starts.size - 2] ≤ t.starts[t.starts.size - 1]
  sentinel_role : t.roles[t.roles.size - 2] = t.roles[t.roles.size - 1]

theorem descent?_eq_none_iff (i : Nat) (starts : List CodePoint) :
    descent? i starts = none ↔ starts.Pairwise (· < ·) := by
  induction starts generalizing i with
  | nil => simp [descent?]
  | cons a rest ih =>
    cases rest with
    | nil => simp [descent?]
    | cons b rest =>
      rw [descent?, List.pairwise_cons]
      by_cases step : b ≤ a
      · have stuck : ¬ a < b := UInt32.not_lt.2 step
        simp [step, stuck]
      · have climb : a < b := UInt32.not_le.1 step
        rw [if_neg step, ih (i + 1)]
        refine ⟨fun later => ⟨fun c member => ?_, later⟩, And.right⟩
        rcases List.mem_cons.1 member with rfl | member
        · exact climb
        · exact UInt32.lt_trans climb ((List.pairwise_cons.1 later).1 c member)

theorem eq_concat_two {α : Type} {xs : List α} (two : 2 ≤ xs.length) :
    ∃ front a b, xs = front ++ [a, b] := by
  rcases List.eq_nil_or_concat xs with rfl | ⟨tail, b, rfl⟩
  · simp at two
  · rcases List.eq_nil_or_concat tail with rfl | ⟨front, a, rfl⟩
    · simp at two
    · exact ⟨front, a, b, by simp⟩

theorem fault?_of_short {t : RunTable} (even : t.starts.size = t.roles.size)
    (short : t.starts.size < 2) : t.fault? = some .empty := by
  have shortList : t.starts.toList.reverse.length < 2 := by simpa using short
  rw [fault?, if_neg (not_not_intro even)]
  split
  · rename_i eq _
    simp only [eq, List.length_cons] at shortList
    omega
  · rfl

theorem fault?_concat (front : List CodePoint) (last sentinel : CodePoint)
    (before : List Role) (lastRole sentinelRole : Role) (even : front.length = before.length) :
    (RunTable.mk (front ++ [last, sentinel]).toArray
        (before ++ [lastRole, sentinelRole]).toArray).fault? =
      match descent? 0 (front ++ [last]) with
      | some fault => some fault
      | none =>
        if sentinel < last then some (.sentinelBeforeLastRun sentinel last)
        else if sentinelRole ≠ lastRole then some (.sentinelRoleMismatch sentinelRole lastRole)
        else none := by
  simp [fault?, even]

theorem fault?_eq_none_iff (t : RunTable) : t.fault? = none ↔ t.WellFormed := by
  by_cases odd : t.starts.size ≠ t.roles.size
  · exact ⟨fun none => by simp [fault?, odd] at none, fun ok => absurd ok.even odd⟩
  have even := Decidable.not_not.1 odd
  by_cases short : t.starts.size < 2
  · exact ⟨fun none => by simp [fault?_of_short even short] at none,
      fun ok => absurd ok.two_le (by omega)⟩
  have two := Nat.not_lt.1 short
  obtain ⟨⟨starts⟩, ⟨roles⟩⟩ := t
  obtain ⟨front, last, sentinel, rfl⟩ := eq_concat_two two
  have twoRoles : 2 ≤ roles.length := by simp at even; omega
  obtain ⟨before, lastRole, sentinelRole, rfl⟩ := eq_concat_two twoRoles
  have fit : front.length = before.length := by simpa using even
  rw [fault?_concat front last sentinel before lastRole sentinelRole fit]
  constructor
  · intro none
    split at none
    · cases none
    · rename_i climb
      refine ⟨even, two, ?_, ?_, ?_⟩
      · simpa using (descent?_eq_none_iff 0 _).1 climb
      · by_cases back : sentinel < last
        · simp [back] at none
        · simpa using UInt32.not_lt.1 back
      · by_cases differ : sentinelRole = lastRole
        · simp [differ]
        · by_cases back : sentinel < last <;> simp [back, differ] at none
  · intro ok
    have climb : descent? 0 (front ++ [last]) = none :=
      (descent?_eq_none_iff 0 _).2 (by simpa using ok.ascending)
    have start := ok.sentinel_start
    have role := ok.sentinel_role
    simp at start role
    simp [climb, role, UInt32.not_lt.2 start]

end CodeRuns.RunTable
