import CodeRuns.Proofs.RunTable.Merged

/-! The search for a code point against a scan of all runs. Up to the sentinel the starts never
descend, so that those up to a code point come before those above it and halving finds where they
part. The scan tries the runs from the last to the first and knows nothing of the sentinel. -/

namespace CodeRuns

namespace RunTable

def scan? (t : RunTable) (c : CodePoint) : Option Run :=
  t.runs.reverse.find? fun r => decide (r.start ≤ c)

variable {t : RunTable} {c : CodePoint} {r : Run}

theorem nearest_of_scan? (hasc : t.runs.Pairwise fun a b => a.start < b.start)
    (h : t.scan? c = some r) : Nearest Run.start (· ∈ t.runs) c r := by
  obtain ⟨hle, later, earlier, hsplit, habove⟩ := List.find?_eq_some_iff_append.1 h
  have hruns : t.runs = earlier.reverse ++ r :: later.reverse := by
    rw [← List.reverse_reverse t.runs, hsplit]
    simp
  rw [hruns, List.pairwise_append] at hasc
  obtain ⟨-, -, hbefore⟩ := hasc
  refine ⟨by rw [hruns]; simp, of_decide_eq_true hle, fun s hs hsc => ?_⟩
  rw [hruns, List.mem_append, List.mem_cons, List.mem_reverse] at hs
  rcases hs with hs | rfl | hs
  · exact UInt32.le_of_lt (hbefore s (List.mem_reverse.2 hs) r List.mem_cons_self)
  · exact UInt32.le_refl _
  · have hnot := habove s (List.mem_reverse.1 hs)
    simp [hsc] at hnot

theorem exists_scan? (hr : r ∈ t.runs) (hc : r.start ≤ c) : ∃ s, t.scan? c = some s := by
  rw [← Option.isSome_iff_exists, scan?, List.find?_isSome]
  exact ⟨r, List.mem_reverse.2 hr, decide_eq_true hc⟩

theorem lt_countUpTo_iff (h : t.WellFormed) {i : Nat} (hi : i < t.starts.size) :
    i < countUpTo t.starts c ↔ t.starts[i] ≤ c := by
  obtain ⟨hbelow, habove⟩ := countUpTo_parts h.ascends c
  constructor
  · exact fun hlt => hbelow i hlt hi
  · intro hle
    rw [← Nat.not_le]
    exact fun hge => UInt32.not_lt.2 hle (habove i hge hi)

theorem starts_le_of_le (h : t.WellFormed) {i j : Nat} (hij : i ≤ j) (hj : j < t.starts.size)
    (hle : t.starts[j] ≤ c) : t.starts[i] ≤ c := by
  rcases Nat.eq_or_lt_of_le hij with rfl | hlt
  · exact hle
  · exact UInt32.le_trans (h.ascends i j hlt hj) hle

end RunTable

namespace Classifier

open RunTable

variable {t : RunTable} {k : Classifier} {c : CodePoint}

theorem starts_head? (k : Classifier) : k.table.starts[0]? = some k.firstCode := by
  have htwo := k.sound.two_le
  rw [Array.getElem?_eq_getElem (by omega)]
  rfl

theorem exists_sentinel (k : Classifier) :
    ∃ sentinel, k.table.sentinel? = some sentinel ∧ sentinel.start = k.lastCode := by
  obtain ⟨front, last, sentinel, htable⟩ := k.sound.exists_eq_ofRecords
  have hsentinel : k.table.sentinel? = some sentinel := by rw [htable, sentinel?_ofRecords_two]
  exact ⟨sentinel, hsentinel, (lastCode_of_sentinel hsentinel).symm⟩

theorem exists_scan?_of_inside (hfirst : k.firstCode ≤ c) (hlast : c ≤ k.lastCode) :
    ∃ r, k.table.scan? c = some r ∧ k.get? c = some r.role := by
  obtain ⟨s, hs, hstart⟩ := k.first_mem_runs
  obtain ⟨r, hscan⟩ := exists_scan? hs (hstart ▸ hfirst)
  exact ⟨r, hscan, k.get?_of_nearest (nearest_of_scan? k.runs_pairwise hscan) hlast⟩

theorem countUpTo_of_inside (hfirst : k.firstCode ≤ c) :
    0 < countUpTo k.table.starts c ∧ countUpTo k.table.starts c - 1 < k.table.roles.size := by
  have htwo := k.sound.two_le
  have heven := k.sound.even
  have hpos := (lt_countUpTo_iff k.sound (by omega)).2 hfirst
  have hsize := countUpTo_le_size k.sound.ascends c
  omega

/-- A look-up answers with the role of the last run that starts at the code point or before it,
and with none outside of the first start and the sentinel. The starts up to a code point come
first, also when two of them are the same, so the search stops right after the last of them; where
it answers, it has a role to answer with. -/
theorem get?_eq_scan (hk : t.classifier = .ok k) (c : CodePoint) :
    ∃ first sentinel, t.starts[0]? = some first ∧ t.sentinel? = some sentinel ∧
      (k.get? c = none ↔ c < first ∨ sentinel.start < c) ∧
      (¬ (c < first ∨ sentinel.start < c) → (∃ r, t.scan? c = some r ∧
          k.get? c = some r.role ∧ k.lookup c = r.role) ∧
        0 < countUpTo t.starts c ∧ countUpTo t.starts c - 1 < t.roles.size) ∧
      (k.get? c = none → k.lookup c = .other) ∧
      (∀ i j (_ : i ≤ j) (_ : j < t.starts.size), t.starts[j] ≤ c → t.starts[i] ≤ c) ∧
      ∀ i (_ : i < t.starts.size), i < countUpTo t.starts c ↔ t.starts[i] ≤ c := by
  obtain rfl := (classifier_eq_ok_iff t k).1 hk
  obtain ⟨sentinel, hsentinel, hlast⟩ := k.exists_sentinel
  refine ⟨k.firstCode, sentinel, k.starts_head?, hsentinel, ?_, fun hinside => ?_,
    k.lookup_of_none, fun i j hij hj hle => starts_le_of_le k.sound hij hj hle,
    fun i hi => lt_countUpTo_iff k.sound hi⟩
  · rw [hlast]
    exact k.get?_eq_none_iff
  · obtain ⟨hfirst, hend⟩ := not_or.1 hinside
    rw [UInt32.not_lt] at hfirst hend
    obtain ⟨r, hscan, hget⟩ := exists_scan?_of_inside hfirst (hlast ▸ hend)
    exact ⟨⟨r, hscan, hget, k.lookup_of_get? hget⟩, countUpTo_of_inside hfirst⟩

def lastAlone : RunTable :=
  ofRecords [⟨0x09, .formatControl⟩, ⟨0x20, .whitespace⟩, ⟨0x20, .whitespace⟩]

theorem get?_eq_scan_lastAlone : ∃ k, lastAlone.classifier = .ok k ∧
    k.get? 0x15 = some .formatControl ∧ k.get? 0x20 = some .whitespace ∧
    2 < countUpTo lastAlone.starts 0x20 ∧ k.get? 0x08 = none ∧ k.get? 0xFFFFFFFF = none ∧
    k.lookup 0xFFFFFFFF = .other := by
  have hsound : lastAlone.WellFormed :=
    (@wellFormed_ofRecords_iff [_] _ _).2 ⟨by decide, by decide, rfl⟩
  have hk : lastAlone.classifier = .ok ⟨lastAlone, hsound⟩ := (classifier_eq_ok_iff _ _).2 rfl
  have hanswer (c : CodePoint) :
      (Classifier.get? ⟨lastAlone, hsound⟩ c = none ↔ c < 0x09 ∨ 0x20 < c) ∧
        (¬ (c < 0x09 ∨ 0x20 < c) → ∃ r, lastAlone.scan? c = some r ∧
          Classifier.get? ⟨lastAlone, hsound⟩ c = some r.role) := by
    obtain ⟨first, sentinel, hfirst, hsentinel, hnone, hsome, -⟩ := get?_eq_scan hk c
    obtain rfl := Option.some.inj hfirst
    obtain rfl := Option.some.inj hsentinel
    refine ⟨hnone, fun hc => ?_⟩
    obtain ⟨⟨r, hscan, hget, -⟩, -⟩ := hsome hc
    exact ⟨r, hscan, hget⟩
  obtain ⟨r, hgap, hcontrol⟩ := (hanswer 0x15).2 (by decide)
  obtain rfl := Option.some.inj hgap
  obtain ⟨s, hend, hblank⟩ := (hanswer 0x20).2 (by decide)
  obtain rfl := Option.some.inj hend
  have hbelow := (hanswer 0x08).1.2 (.inl (by decide))
  have hbeyond := (hanswer 0xFFFFFFFF).1.2 (.inr (by decide))
  obtain ⟨-, -, -, -, -, -, hother, -⟩ := get?_eq_scan hk 0xFFFFFFFF
  obtain ⟨-, -, -, -, -, -, -, -, hcount⟩ := get?_eq_scan hk 0x20
  exact ⟨_, hk, hcontrol, hblank, (hcount 2 (by decide)).2 (by decide), hbelow, hbeyond,
    hother hbeyond⟩

end Classifier
end CodeRuns
