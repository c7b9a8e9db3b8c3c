import CodeRuns.Proofs.UnicodeData.Faults

/-! Two texts read in step. When their lines hold the same records one by one, the second reading
stays where the first one is, after what it had read before; only the numbers of the lines
differ, and so what the faults say of them. -/

namespace CodeRuns.UnicodeData

inductive Corresponds {α β : Type} (F : Fault → Fault → Prop) (V : α → β → Prop) :
    Except Fault α → Except Fault β → Prop
  | ok {a : α} {b : β} : V a b → Corresponds F V (.ok a) (.ok b)
  | error {f g : Fault} : F f g → Corresponds F V (.error f) (.error g)

section Corresponds

variable {α β γ δ : Type} {F : Fault → Fault → Prop} {V W : α → β → Prop} {x x' : Except Fault α}
  {y y' : Except Fault β}

theorem corresponds_ok_iff {a : α} : Corresponds F V (.ok a) y ↔ ∃ b, y = .ok b ∧ V a b := by
  constructor
  · rintro (hv | -)
    exact ⟨_, rfl, hv⟩
  · rintro ⟨b, rfl, hv⟩
    exact .ok hv

theorem corresponds_error_iff {f : Fault} :
    Corresponds F V (.error f) y ↔ ∃ g, y = .error g ∧ F f g := by
  constructor
  · rintro (- | hf)
    exact ⟨_, rfl, hf⟩
  · rintro ⟨g, rfl, hf⟩
    exact .error hf

theorem Corresponds.imp (h : Corresponds F V x y) (hvalues : ∀ a b, V a b → W a b) :
    Corresponds F W x y := by
  cases h with
  | ok hv => exact .ok (hvalues _ _ hv)
  | error hf => exact .error hf

theorem Corresponds.eq_ok_iff {z : Except Fault α} {a : α} (h : Corresponds F Eq x z) :
    x = .ok a ↔ z = .ok a := by
  cases h with
  | ok hv => rw [hv]
  | error => exact ⟨nofun, nofun⟩

theorem Corresponds.bind {U : γ → δ → Prop} {f : α → Except Fault γ} {g : β → Except Fault δ}
    (h : Corresponds F V x y) (hnext : ∀ a b, V a b → Corresponds F U (f a) (g b)) :
    Corresponds F U (x.bind f) (y.bind g) := by
  cases h with
  | ok hv => exact hnext _ _ hv
  | error hf => exact .error hf

theorem Corresponds.ite {c : Prop} [Decidable c] (hthen : c → Corresponds F V x y)
    (helse : ¬ c → Corresponds F V x' y') :
    Corresponds F V (if c then x else x') (if c then y else y') := by
  by_cases hc : c
  · rw [if_pos hc, if_pos hc]
    exact hthen hc
  · rw [if_neg hc, if_neg hc]
    exact helse hc

end Corresponds

/-- The second progress is where the first one is, after other entries and events. A range is open
in both or in none, with the same first record on corresponding lines. -/
structure Progress.Follows (R : Nat → Nat → Prop) (es : List Entry) (log : List Event)
    (p q : Progress) : Prop where
  entries : q.entries.toList = es ++ p.entries.toList
  opened : Option.Rel (fun o o' => R o.1 o'.1 ∧ o.2 = o'.2) p.opened q.opened
  log : q.log = log ++ p.log

structure LineFollows (R : Nat → Nat → Prop) (F : Fault → Fault → Prop)
    (line line' : Nat × List Char) : Prop where
  number : R line.1 line'.1
  blank : line.2.all Text.Blank.isBlank = line'.2.all Text.Blank.isBlank
  record : Corresponds F Eq (Record.ofLine line.1 line.2) (Record.ofLine line'.1 line'.2)

structure Reading.Follows (F : Fault → Fault → Prop) (es : List Entry) (log : List Event)
    (a b : Reading) : Prop where
  result : Corresponds F (fun x y => y = es ++ x) a.result b.result
  log : b.log = log ++ a.log

variable {R : Nat → Nat → Prop} {F : Fault → Fault → Prop} {es : List Entry} {log : List Event}
  {p q : Progress} {n n' m m' : Nat} {r first : Record}

namespace Progress.Follows

theorem begin (h : p.Follows R es log q) (hn : R n n')
    (hF : F (.unpairedRange n) (.unpairedRange n')) :
    Corresponds F (Progress.Follows R es log) (p.begin n r) (q.begin n' r) := by
  obtain ⟨hentries, hopened, hlog⟩ := h
  refine .ite (fun _ => .ok ⟨?_, .some ⟨hn, rfl⟩, hlog⟩) fun _ => ?_
  · by_cases hleft : r.leftOut = true <;> simp [hleft, hentries]
  · exact .ite (fun _ => .error hF) fun _ => .ok ⟨by simp [hentries], hopened, hlog⟩

theorem close (h : p.Follows R es log q) (hn : F (.unpairedRange n) (.unpairedRange n'))
    (hm : F (.unpairedRange m) (.unpairedRange m')) :
    Corresponds F (Progress.Follows R es log) (p.close n first m r) (q.close n' first m' r) := by
  obtain ⟨hentries, -, hlog⟩ := h
  refine .ite (fun _ => .error hn) fun _ => .ite (fun _ => .error hm) fun _ => ?_
  exact .ite (fun _ => .ok ⟨hentries, .none, by simp [hlog]⟩)
    fun _ => .ok ⟨by simp [hentries], .none, hlog⟩

theorem add (hF : ∀ n n', R n n' → F (.unpairedRange n) (.unpairedRange n'))
    (h : p.Follows R es log q) (hn : R n n') :
    Corresponds F (Progress.Follows R es log) (p.add n r) (q.add n' r) := by
  have hopened := h.opened
  unfold Progress.add
  generalize p.opened = opened at hopened ⊢
  generalize q.opened = opened' at hopened ⊢
  cases hopened with
  | none => exact h.begin hn (hF _ _ hn)
  | @some opened opened' hrange =>
    obtain ⟨opener, first⟩ := opened
    obtain ⟨opener', first'⟩ := opened'
    obtain ⟨hopener, rfl⟩ := hrange
    exact h.close (hF _ _ hopener) (hF _ _ hn)

theorem addLine {line line' : Nat × List Char}
    (hF : ∀ n n', R n n' → F (.unpairedRange n) (.unpairedRange n'))
    (h : p.Follows R es log q) (hline : LineFollows R F line line') :
    Corresponds F (Progress.Follows R es log) (p.addLine line.1 line.2)
      (q.addLine line'.1 line'.2) := by
  cases hblank : line.2.all Text.Blank.isBlank with
  | true =>
    rw [addLine_of_blank hblank, addLine_of_blank (hline.blank ▸ hblank)]
    exact .ok h
  | false =>
    rw [addLine_of_not_blank hblank, addLine_of_not_blank (hline.blank ▸ hblank)]
    refine hline.record.bind fun r r' hr => ?_
    rw [← hr]
    exact h.add hF hline.number

theorem finish (hF : ∀ n n', R n n' → F (.unpairedRange n) (.unpairedRange n'))
    (h : p.Follows R es log q) : p.finish.Follows F es log q.finish := by
  obtain ⟨hentries, hopened, hlog⟩ := h
  unfold Progress.finish
  generalize p.opened = opened at hopened ⊢
  generalize q.opened = opened' at hopened ⊢
  cases hopened with
  | none => exact ⟨.ok hentries, hlog⟩
  | some hrange => exact ⟨.error (hF _ _ hrange.1), hlog⟩

end Progress.Follows

theorem readLines_follows {lines lines' : List (Nat × List Char)}
    (hF : ∀ n n', R n n' → F (.unpairedRange n) (.unpairedRange n'))
    (h : p.Follows R es log q) (hlines : List.Forall₂ (LineFollows R F) lines lines') :
    (readLines p lines).Follows F es log (readLines q lines') := by
  induction hlines generalizing p q with
  | nil => exact h.finish hF
  | @cons line line' lines lines' hline _ ih =>
    have hstep := h.addLine hF hline
    rw [readLines, readLines]
    generalize p.addLine line.1 line.2 = next at hstep ⊢
    generalize q.addLine line'.1 line'.2 = next' at hstep ⊢
    cases hstep with
    | ok hnext => exact ih hnext
    | error hfault => exact ⟨.error hfault, h.log⟩

end CodeRuns.UnicodeData
