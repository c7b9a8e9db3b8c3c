import CodeRuns.Listing.Sink

/-! Listings cut short by a full sink. A writer hands its bytes out call by call, and each call
takes some of those that are left; the first that takes none fails, and nothing is handed out after
it. How many the calls take makes no difference, nor does the place where the listing is parted:
what arrives is the beginning of the listing, as long as the sink allows. -/

namespace CodeRuns.Listing

namespace Sink

/-- Bytes handed to a sink that has `got` already and takes `n` in all: what it has after the last
call, and whether it failed. Every call takes at least one byte, but for one that fails. -/
inductive Accepts (n : Nat) : List UInt8 → List UInt8 → List UInt8 → Except Fault Unit → Prop
  | done {got : List UInt8} : Accepts n got [] got (.ok ())
  | taken {got first rest after : List UInt8} {result : Except Fault Unit} (hfirst : first ≠ [])
      (hroom : got.length + first.length ≤ n) (hrest : Accepts n (got ++ first) rest after result) :
      Accepts n got (first ++ rest) after result
  | refused {got bytes : List UInt8} (hleft : bytes ≠ []) (hfull : n ≤ got.length) :
      Accepts n got bytes got (.error .writeZero)

/-- Pieces handed out one after the other, up to the first that is not taken whole. -/
inductive AcceptsAll (n : Nat) : List UInt8 → List String → List UInt8 → Except Fault Unit → Prop
  | done {got : List UInt8} : AcceptsAll n got [] got (.ok ())
  | next {got mid after : List UInt8} {piece : String} {pieces : List String}
      {result : Except Fault Unit} (hpiece : Accepts n got (Text.bytes piece) mid (.ok ()))
      (hpieces : AcceptsAll n mid pieces after result) :
      AcceptsAll n got (piece :: pieces) after result
  | stopped {got after : List UInt8} {piece : String} {pieces : List String} {fault : Fault}
      (hpiece : Accepts n got (Text.bytes piece) after (.error fault)) :
      AcceptsAll n got (piece :: pieces) after (.error fault)

def outcome (bytes : List UInt8) (room : Nat) : Except Fault Unit :=
  if bytes.length ≤ room then .ok () else .error .writeZero

variable {n room : Nat} {got first rest bytes after : List UInt8} {pieces : List String}
  {result : Except Fault Unit}

theorem outcome_eq_ok_iff : outcome bytes room = .ok () ↔ bytes.length ≤ room := by
  unfold outcome
  split <;> simp_all

theorem outcome_eq_error_iff {fault : Fault} :
    outcome bytes room = .error fault ↔ room < bytes.length := by
  cases fault
  unfold outcome
  split <;> simp_all

theorem take_append_of_fits (hfits : first.length ≤ n - got.length) (rest : List UInt8) :
    got ++ (first ++ rest).take (n - got.length) =
        got ++ first ++ rest.take (n - (got ++ first).length) ∧
      outcome (first ++ rest) (n - got.length) = outcome rest (n - (got ++ first).length) := by
  have hlength : (first ++ rest).length ≤ n - got.length ↔
      rest.length ≤ n - (got ++ first).length := by
    rw [List.length_append, List.length_append]
    omega
  refine ⟨?_, by simp only [outcome, hlength]⟩
  rw [List.take_append, List.take_of_length_le hfits, List.length_append, Nat.sub_add_eq,
    List.append_assoc]

theorem Accepts.eq (h : Accepts n got bytes after result) :
    after = got ++ bytes.take (n - got.length) ∧ result = outcome bytes (n - got.length) := by
  induction h with
  | done => simp [outcome]
  | @taken got first rest after result hfirst hroom hrest ih =>
    obtain ⟨htake, houtcome⟩ := take_append_of_fits (Nat.le_sub_of_add_le' hroom) rest
    rwa [htake, houtcome]
  | refused hleft hfull =>
    rw [Nat.sub_eq_zero_of_le hfull, List.take_zero, List.append_nil]
    exact ⟨rfl, (outcome_eq_error_iff.2 (List.length_pos_iff.2 hleft)).symm⟩

theorem AcceptsAll.eq (h : AcceptsAll n got pieces after result) :
    after = got ++ (Text.bytes (String.join pieces)).take (n - got.length) ∧
      result = outcome (Text.bytes (String.join pieces)) (n - got.length) := by
  induction h with
  | done => simp [outcome, Text.bytes, String.toUTF8]
  | @next got mid after piece pieces result hpiece hpieces ih =>
    obtain ⟨rfl, hok⟩ := hpiece.eq
    have hfits := outcome_eq_ok_iff.1 hok.symm
    rw [List.take_of_length_le hfits] at ih
    obtain ⟨htake, houtcome⟩ := take_append_of_fits hfits (Text.bytes (String.join pieces))
    rwa [String.join_cons, Text.bytes_append, htake, houtcome]
  | @stopped got after piece pieces fault hpiece =>
    obtain ⟨rfl, hstops⟩ := hpiece.eq
    have hcut := outcome_eq_error_iff.1 hstops.symm
    rw [String.join_cons, Text.bytes_append, List.take_append_of_le_length (Nat.le_of_lt hcut)]
    refine ⟨rfl, (outcome_eq_error_iff.2 ?_).symm⟩
    rw [List.length_append]
    omega

theorem AcceptsAll.unique {pieces' : List String} {after' : List UInt8}
    {result' : Except Fault Unit} (h : AcceptsAll n got pieces after result)
    (h' : AcceptsAll n got pieces' after' result')
    (hsame : String.join pieces = String.join pieces') : after = after' ∧ result = result' := by
  obtain ⟨rfl, rfl⟩ := h.eq
  obtain ⟨rfl, rfl⟩ := h'.eq
  rw [hsame]
  exact ⟨rfl, rfl⟩

theorem Accepts.prepend (hfits : first.length ≤ n - got.length)
    (h : Accepts n (got ++ first) rest after result) :
    Accepts n got (first ++ rest) after result := by
  by_cases hfirst : first = []
  · subst hfirst
    rwa [List.append_nil] at h
  · have hlength := List.length_pos_iff.2 hfirst
    exact .taken hfirst (by omega) h

theorem accepts_take (n : Nat) (got bytes : List UInt8) :
    Accepts n got bytes (got ++ bytes.take (n - got.length)) (outcome bytes (n - got.length)) := by
  have hrest : Accepts n (got ++ bytes.take (n - got.length)) (bytes.drop (n - got.length))
      (got ++ bytes.take (n - got.length)) (outcome bytes (n - got.length)) := by
    by_cases hfits : bytes.length ≤ n - got.length
    · rw [List.drop_of_length_le hfits, outcome_eq_ok_iff.2 hfits]
      exact .done
    · rw [outcome_eq_error_iff.2 (Nat.lt_of_not_le hfits)]
      refine .refused ?_ ?_
      · rwa [ne_eq, List.drop_eq_nil_iff]
      · rw [List.length_append, List.length_take]
        omega
  have hall := Accepts.prepend (List.length_take_le _ _) hrest
  rwa [List.take_append_drop] at hall

theorem acceptsAll_writeAll (n : Nat) (got : List UInt8) (pieces : List String) :
    AcceptsAll n got pieces (writeAll ⟨some n, got⟩ pieces).1.received
      (writeAll ⟨some n, got⟩ pieces).2 := by
  induction pieces generalizing got with
  | nil => exact .done
  | cons piece pieces ih =>
    have hpiece := accepts_take n got (Text.bytes piece)
    have hwrite : write ⟨some n, got⟩ piece =
        (⟨some n, got ++ (Text.bytes piece).take (n - got.length)⟩,
          outcome (Text.bytes piece) (n - got.length)) := rfl
    rw [writeAll, hwrite]
    cases hfits : outcome (Text.bytes piece) (n - got.length) with
    | ok =>
      rw [hfits] at hpiece
      exact .next hpiece (ih _)
    | error fault =>
      rw [hfits] at hpiece
      exact .stopped hpiece

end Sink

theorem acceptsAll_write (t : RunTable) (h : Header) (n : Nat) :
    Sink.AcceptsAll n [] (parts t h) (write t h (.limited n)).sink.received
      (write t h (.limited n)).result := by
  have hall := Sink.acceptsAll_writeAll n [] (parts t h)
  rw [write, Sink.limited]
  generalize Sink.writeAll ⟨some n, []⟩ (parts t h) = run at hall ⊢
  obtain ⟨sink, _ | _⟩ := run <;> exact hall

theorem write_log (t : RunTable) (h : Header) (s : Sink) : (write t h s).log =
    match (write t h s).result with
    | .ok _ => t.stats.events
    | .error _ => [] := by
  rw [write]
  rcases s.writeAll (parts t h) with ⟨sink, _ | _⟩ <;> rfl

/-- A sink that takes `n` bytes has the first `n` bytes of the listing in the end. Writing fails if
the listing is longer, and the numbers about the table are reported, all of them, if it is not. None
of this depends on the pieces in which the listing is handed out, or on how many bytes a call
takes. -/
theorem write_limited (t : RunTable) (h : Header) (n : Nat) :
    (write t h (.limited n)).sink.received = (Text.bytes (text t h)).take n ∧
      (write t h (.limited n)).sink.received.length = min n (Text.bytes (text t h)).length ∧
      ((write t h (.limited n)).result = .ok () ↔ (Text.bytes (text t h)).length ≤ n) ∧
      ((write t h (.limited n)).result = .error .writeZero ↔ n < (Text.bytes (text t h)).length) ∧
      ((write t h (.limited n)).log = t.stats.events ↔ (write t h (.limited n)).result = .ok ()) ∧
      ((write t h (.limited n)).log = [] ↔ (write t h (.limited n)).result ≠ .ok ()) ∧
      Sink.AcceptsAll n [] (parts t h) (write t h (.limited n)).sink.received
        (write t h (.limited n)).result ∧
      ∀ pieces after result, String.join pieces = text t h →
        Sink.AcceptsAll n [] pieces after result →
        after = (write t h (.limited n)).sink.received ∧
          result = (write t h (.limited n)).result := by
  have hrun := acceptsAll_write t h n
  obtain ⟨hreceived, hresult⟩ := hrun.eq
  have hevents : t.stats.events ≠ [] := List.cons_ne_nil _ _
  refine ⟨hreceived, ?_, ?_, ?_, ?_, ?_, hrun, fun pieces after result hjoin hpieces => ?_⟩
  · rw [hreceived]
    exact List.length_take
  · rw [hresult]
    exact Sink.outcome_eq_ok_iff
  · rw [hresult]
    exact Sink.outcome_eq_error_iff
  · rw [write_log]
    cases (write t h (.limited n)).result <;> simp [hevents.symm]
  · rw [write_log]
    cases (write t h (.limited n)).result <;> simp [hevents]
  · exact hpieces.unique hrun hjoin

theorem write_limited_inside_letter :
    Sink.AcceptsAll 4 [] (parts ⟨#[0x41, 0x41], #[.other, .other]⟩ ⟨none⟩)
        [0x2F, 0x2F, 0x20, 0xD0] (.error .writeZero) ∧
      (write ⟨#[0x41, 0x41], #[.other, .other]⟩ ⟨none⟩ (.limited 4)).sink.received =
        [0x2F, 0x2F, 0x20, 0xD0] ∧
      (write ⟨#[0x41, 0x41], #[.other, .other]⟩ ⟨none⟩ (.limited 4)).result =
        .error .writeZero ∧
      (write ⟨#[0x41, 0x41], #[.other, .other]⟩ ⟨none⟩ (.limited 4)).log = [] := by
  have hwarning : Text.bytes warning =
      [0x2F, 0x2F] ++ ([0x20, 0xD0] ++ 0xB0 :: (Text.bytes warning).drop 5) := by decide +kernel
  have hpiece : Sink.Accepts 4 [] (Text.bytes warning) [0x2F, 0x2F, 0x20, 0xD0]
      (.error .writeZero) := by
    rw [hwarning]
    refine .taken (by decide) (by decide) (.taken (by decide) (by decide) ?_)
    exact .refused (List.cons_ne_nil _ _) (by decide)
  have hpieces : Sink.AcceptsAll 4 [] (parts ⟨#[0x41, 0x41], #[.other, .other]⟩ ⟨none⟩)
      [0x2F, 0x2F, 0x20, 0xD0] (.error .writeZero) := .stopped hpiece
  obtain ⟨-, -, -, -, -, hlog, -, hsame⟩ :=
    write_limited ⟨#[0x41, 0x41], #[.other, .other]⟩ ⟨none⟩ 4
  obtain ⟨hreceived, hresult⟩ := hsame _ _ _ rfl hpieces
  exact ⟨hpieces, hreceived.symm, hresult.symm, hlog.2 (by rw [← hresult]; nofun)⟩

end CodeRuns.Listing
