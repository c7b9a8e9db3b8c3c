import CodeRuns.RunTable.Fault

/-! The number of starts up to a code point, found by halving. Where the starts do not
descend, every start before that number is at most the code point and every later one is
above it. -/

namespace CodeRuns.RunTable

def searchBetween (starts : Array CodePoint) (code : CodePoint) (low high : Nat)
    (inside : high ≤ starts.size) : Nat :=
  if proper : low < high then
    let middle := low + (high - low) / 2
    if starts[middle] ≤ code then searchBetween starts code (middle + 1) high inside
    else searchBetween starts code low middle (by omega)
  else low
termination_by high - low

def countUpTo (starts : Array CodePoint) (code : CodePoint) : Nat :=
  searchBetween starts code 0 starts.size (Nat.le_refl _)

def Ascends (starts : Array CodePoint) : Prop :=
  ∀ i j (_ : i < j) (_ : j < starts.size), starts[i] ≤ starts[j]

def Parts (starts : Array CodePoint) (code : CodePoint) (place : Nat) : Prop :=
  (∀ i (_ : i < place) (_ : i < starts.size), starts[i] ≤ code) ∧
    ∀ i (_ : place ≤ i) (_ : i < starts.size), code < starts[i]

theorem searchBetween_parts {starts : Array CodePoint} (ascends : Ascends starts)
    (code : CodePoint) (low high : Nat) (inside : high ≤ starts.size) (ordered : low ≤ high)
    (below : ∀ i (_ : i < low) (_ : i < starts.size), starts[i] ≤ code)
    (beyond : ∀ i (_ : high ≤ i) (_ : i < starts.size), code < starts[i]) :
    searchBetween starts code low high inside ≤ high ∧
      Parts starts code (searchBetween starts code low high inside) := by
  fun_induction searchBetween starts code low high inside with
  | case1 low high inside proper middle reached ih =>
    refine ih (by omega) (fun i before h => ?_) beyond
    by_cases last : i = middle
    · simpa only [last] using reached
    · exact UInt32.le_trans (ascends i middle (by omega) (by omega)) reached
  | case2 low high inside proper middle missed ih =>
    have above : code < starts[middle] := UInt32.not_le.1 missed
    obtain ⟨bounded, parts⟩ := ih (by omega) below (fun i after h => by
      by_cases first : i = middle
      · simpa only [first] using above
      · exact UInt32.lt_of_lt_of_le above (ascends middle i (by omega) h))
    exact ⟨by omega, parts⟩
  | case3 low high inside stop =>
    have meet : low = high := by omega
    subst meet
    exact ⟨Nat.le_refl _, below, beyond⟩

theorem countUpTo_le_size {starts : Array CodePoint} (ascends : Ascends starts)
    (code : CodePoint) : countUpTo starts code ≤ starts.size :=
  (searchBetween_parts ascends code 0 starts.size _ (Nat.zero_le _) (fun _ h => by omega)
    (fun _ h => by omega)).1

theorem countUpTo_parts {starts : Array CodePoint} (ascends : Ascends starts)
    (code : CodePoint) : Parts starts code (countUpTo starts code) :=
  (searchBetween_parts ascends code 0 starts.size _ (Nat.zero_le _) (fun _ h => by omega)
    (fun _ h => by omega)).2

end CodeRuns.RunTable
