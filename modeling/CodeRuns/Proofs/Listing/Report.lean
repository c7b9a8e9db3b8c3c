import CodeRuns.Proofs.Listing.RoundTrip
import CodeRuns.Proofs.RunTable.Shape
import CodeRuns.Proofs.RunTable.Stats
import Mathlib.Algebra.BigOperators.Ring.Finset

/-! Two reports on one table. The builder counts runs and gaps while entries come in, and the
listing counts them again in the finished table, with its sentinel left out. Both come to the same
numbers, and for each role the listing reports how many entries open a run of it. -/

namespace CodeRuns

def Event.number? (e : Event) (key : String) : Option Int :=
  match e.fields.lookup key with
  | some (.number n) => some n
  | _ => none

namespace RunTable

variable {es : List Entry} {t : RunTable}

theorem runs_of_build_table (hbuild : (build es).result = .ok t) :
    t.WellFormed ∧ t.runs = openings es := by
  obtain ⟨hne, hasc, rfl⟩ := (build_eq_ok_iff es t).1 hbuild
  refine ⟨wellFormed_of_ascending hne hasc, ?_⟩
  rw [closing_of_ne_nil hne, runs_ofRecords]

theorem size_of_wellFormed (h : t.WellFormed) : t.size = t.stats.runs + 1 := by
  have htwo := h.two_le
  rw [stats_runs h.even, runs, List.length_dropLast, length_records h]
  show t.starts.size = t.starts.size - 1 + 1
  omega

theorem log_of_build_stats (hbuild : (build es).result = .ok t) : ∃ entries gaps,
    (build es).log = [.tableBuilt entries t.stats.runs gaps] ∧ gaps.toInt = t.stats.repeated := by
  obtain ⟨hsound, hruns⟩ := runs_of_build_table hbuild
  obtain ⟨gaps, hreport, hgaps⟩ := report_gaps ((build_eq_ok_iff es t).1 hbuild).2.1
  refine ⟨Int32.ofNat es.length, gaps, ?_, ?_⟩
  · rw [log_of_build hbuild, hreport, stats_runs hsound.even, hruns]
  · rw [hgaps, stats_repeated hsound.even, hruns, repeats_eq_length]

theorem bytes_of_wellFormed (h : t.WellFormed) : t.stats.bytes = 5 * (t.stats.runs + 1) := by
  have hroles : t.roles.size = t.size := h.even.symm
  show 4 * t.size + t.roles.size = 5 * (t.stats.runs + 1)
  rw [hroles, size_of_wellFormed h]
  omega

end RunTable

namespace Listing

open RunTable

variable {es : List Entry} {t : RunTable} {s : Sink}

/-- The report of the builder and those of the listing agree: on the runs, in all and role by role,
on the gaps and on the size of a table that has a sentinel beside its runs; for a role the listing
reports how many entries open a run of it, and nothing if none does. -/
theorem reports_agree (hbuild : (build es).result = .ok t) (h : Header)
    (hroom : s.HasRoom (text t h)) :
    ∃ (runs gaps : Nat) (built summary : Event) (counts : List (Role × Nat)),
      (build es).log = [built] ∧ (write t h s).result = .ok () ∧
      (write t h s).log = summary :: counts.map (fun p => .roleRuns p.1 p.2) ∧
      built.number? "runs" = some (runs : Int) ∧ built.number? "gaps" = some (gaps : Int) ∧
      summary.number? "runs" = some (runs : Int) ∧
      summary.number? "repeated" = some (gaps : Int) ∧
      summary.number? "size" = some (5 * (runs + 1) : Int) ∧
      ((write t h s).log.tail.filterMap (·.number? "runs")).sum = runs ∧
      (counts.map Prod.fst).Nodup ∧
      ∀ r n, (r, n) ∈ counts ↔ n = openCount es r ∧ 0 < n := by
  have hwritten := write_of_hasRoom hroom
  have hlog : (write t h s).log = t.stats.events := by rw [hwritten]
  obtain ⟨hsound, hruns⟩ := runs_of_build_table hbuild
  obtain ⟨entries, gaps, hbuilt, hgaps⟩ := log_of_build_stats hbuild
  have hroles : t.runRoles = (openings es).map Run.role := by
    rw [runRoles_eq hsound.even, hruns]
  have hranked : t.stats.ranked.Perm (tally t.runRoles) := t.stats.ranked_perm
  refine ⟨t.stats.runs, t.stats.repeated, _,
    .tableSize t.stats.runs t.stats.bytes t.stats.repeated, t.stats.ranked, hbuilt,
    by rw [hwritten], hlog, rfl, ?_, rfl, rfl, ?_, ?_, ?_, fun r n => ?_⟩
  · rw [← hgaps]
    rfl
  · have hsize : (t.stats.bytes : Int) = 5 * (t.stats.runs + 1) := by
      rw [bytes_of_wellFormed hsound]
      push_cast
      rfl
    rw [← hsize]
    rfl
  · have hcounts : (write t h s).log.tail.filterMap (·.number? "runs") =
        (t.stats.ranked.map Prod.snd).map Nat.cast := by
      rw [hlog, Stats.events, List.tail_cons, List.filterMap_map, List.map_map,
        ← List.filterMap_eq_map]
      rfl
    rw [hcounts, ← Nat.cast_list_sum, (hranked.map _).sum_eq, sum_map_snd_tally]
    rfl
  · exact (hranked.map _).nodup_iff.2 (nodup_map_fst_tally _)
  · rw [hranked.mem_iff, mem_tally_iff, hroles, count_openings]

theorem reports_agree_gapped : ∃ t,
    (build [⟨0x30, "Nd"⟩, ⟨0x31, "Nd"⟩, ⟨0x33, "Nd"⟩, ⟨0x41, "Lu"⟩]).result = .ok t ∧
    Sink.unlimited.HasRoom (text t ⟨none⟩) ∧
    ∃ (built summary : Event) (counts : List (Role × Nat)),
      (build [⟨0x30, "Nd"⟩, ⟨0x31, "Nd"⟩, ⟨0x33, "Nd"⟩, ⟨0x41, "Lu"⟩]).log = [built] ∧
      (write t ⟨none⟩ .unlimited).log = summary :: counts.map (fun p => .roleRuns p.1 p.2) ∧
      built.number? "gaps" = some 1 ∧ summary.number? "repeated" = some 1 ∧
      summary.number? "size" = some 20 ∧
      (Role.identifierPart, 2) ∈ counts ∧ (Role.identifierStart, 1) ∈ counts := by
  have hbuild := (build_eq_ok_iff [⟨0x30, "Nd"⟩, ⟨0x31, "Nd"⟩, ⟨0x33, "Nd"⟩, ⟨0x41, "Lu"⟩] _).2
    ⟨List.cons_ne_nil _ _, by decide, rfl⟩
  obtain ⟨runs, gaps, built, summary, counts, hbuilt, -, hlog, hruns, hgaps, -, hrepeated, hsize,
    -, -, hcounts⟩ := reports_agree hbuild ⟨none⟩ (Sink.hasRoom_unlimited _)
  rw [log_of_build hbuild] at hbuilt
  obtain rfl := List.singleton_inj.1 hbuilt
  have hthree : ((3 : Nat) : Int) = runs := Option.some.inj hruns
  have hone : ((1 : Nat) : Int) = gaps := Option.some.inj hgaps
  rw [← hone] at hgaps hrepeated
  rw [← hthree] at hsize
  exact ⟨_, hbuild, Sink.hasRoom_unlimited _, _, summary, counts, log_of_build hbuild, hlog, hgaps,
    hrepeated, hsize, (hcounts _ _).2 (by decide), (hcounts _ _).2 (by decide)⟩

end Listing
end CodeRuns
