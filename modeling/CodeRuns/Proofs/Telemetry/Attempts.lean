import CodeRuns.Telemetry.Filter

/-! A process that asks for the place of its subscriber again and again, while other parts of it
may do so, too. The first attempt that gets the place keeps it: after an own success every further
call succeeds and does nothing, after a foreign one no call succeeds, and a call that failed can be
made again. -/

namespace CodeRuns.Telemetry

variable {F : Type} {language : FilterLanguage F} {environment : Option (List UInt8)}
  {t : Telemetry F} {a : Attempt}

/-- The filter text that counts: a setting of the environment that is a text and says something,
else the one that is asked for. -/
def IsEffective (environment : Option (List UInt8)) (requested text : String) : Prop :=
  (environment = some (Text.bytes text) ∧ text ≠ "") ∨
    ((∀ setting, environment = some (Text.bytes setting) → setting = "") ∧ text = requested)

theorem isEffective_iff (environment : Option (List UInt8)) (requested text : String) :
    IsEffective environment requested text ↔ text = effectiveFilter environment requested := by
  unfold IsEffective effectiveFilter
  cases hset : environment.bind Text.ofBytes? with
  | none =>
    have hnever (setting : String) : environment ≠ some (Text.bytes setting) := by
      rintro rfl
      rw [Option.bind_some, Text.ofBytes?_bytes] at hset
      cases hset
    simp [hnever]
  | some setting =>
    obtain ⟨bytes, rfl, hbytes⟩ := Option.bind_eq_some_iff.1 hset
    obtain rfl := Text.bytes_of_ofBytes? hbytes
    have hsame (other : String) :
        some (Text.bytes setting) = some (Text.bytes other) ↔ setting = other := by
      rw [Option.some.injEq, Text.bytes_inj]
    simp only [hsame, forall_eq']
    split
    · rename_i hempty
      obtain rfl := String.isEmpty_iff.1 hempty
      constructor
      · rintro (⟨rfl, hne⟩ | ⟨-, rfl⟩)
        · exact absurd rfl hne
        · rfl
      · exact fun htext => .inr ⟨rfl, htext⟩
    · rename_i hempty
      have hne : setting ≠ "" := mt String.isEmpty_iff.2 hempty
      constructor
      · rintro (⟨rfl, -⟩ | ⟨rfl, -⟩)
        · rfl
        · exact absurd rfl hne
      · rintro rfl
        exact .inl ⟨rfl, hne⟩

inductive Attempt where
  | own (requested : String)
  | foreign
  deriving DecidableEq

def attempt (language : FilterLanguage F) (environment : Option (List UInt8)) (t : Telemetry F) :
    Attempt → Except Fault Unit × Telemetry F
  | .own requested =>
    match t.setUp language environment requested with
    | .ok next => (.ok (), next)
    | .error fault => (.error fault, t)
  | .foreign =>
    match t.occupy? with
    | some next => (.ok (), next)
    | none => (.error .occupied, t)

structure Turn (F : Type) where
  attempt : Attempt
  answer : Except Fault Unit
  before : Telemetry F
  after : Telemetry F

def Turn.Installs (u : Turn F) : Prop := u.before.subscriber ≠ u.after.subscriber

def turn (language : FilterLanguage F) (environment : Option (List UInt8)) (t : Telemetry F)
    (a : Attempt) : Turn F :=
  ⟨a, (t.attempt language environment a).1, t, (t.attempt language environment a).2⟩

inductive Reached (language : FilterLanguage F) (environment : Option (List UInt8)) :
    Telemetry F → List (Turn F) → Prop
  | fresh : Reached language environment .fresh []
  | next {t : Telemetry F} {history : List (Turn F)} (a : Attempt) :
      Reached language environment t history →
      Reached language environment (t.turn language environment a).after
        (history ++ [t.turn language environment a])

def OwnDone (history : List (Turn F)) : Prop :=
  ∃ u ∈ history, (∃ requested, u.attempt = .own requested) ∧ u.answer = .ok ()

def ForeignDone (history : List (Turn F)) : Prop :=
  ∃ u ∈ history, u.attempt = .foreign ∧ u.answer = .ok ()

inductive Takes (language : FilterLanguage F) (environment : Option (List UInt8))
    (t : Telemetry F) : Attempt → Except Fault Unit → Telemetry F → Prop
  | again {requested : String} : t.ready = true →
      Takes language environment t (.own requested) (.ok ()) t
  | unreadable {requested reason : String} : t.ready = false →
      language.read (effectiveFilter environment requested) = .error reason →
      Takes language environment t (.own requested) (.error (.filter reason)) t
  | occupied {requested : String} {filter : F} {s : Subscriber F} : t.ready = false →
      language.read (effectiveFilter environment requested) = .ok filter →
      t.subscriber = some s → Takes language environment t (.own requested) (.error .occupied) t
  | installed {requested : String} {filter : F} : t.ready = false →
      language.read (effectiveFilter environment requested) = .ok filter → t.subscriber = none →
      Takes language environment t (.own requested) (.ok ()) ⟨some (.own filter), true⟩
  | foreignOccupied {s : Subscriber F} : t.subscriber = some s →
      Takes language environment t .foreign (.error .occupied) t
  | foreignInstalled : t.subscriber = none →
      Takes language environment t .foreign (.ok ()) { t with subscriber := some .foreign }

section Replies

variable {requested : String} {filter : F} {s : Subscriber F}

theorem attempt_own_of_ready (hready : t.ready = true) :
    t.attempt language environment (.own requested) = (.ok (), t) := by
  simp only [attempt, setUp, hready, if_true]

theorem attempt_own_of_unreadable {reason : String} (hready : t.ready = false)
    (hread : language.read (effectiveFilter environment requested) = .error reason) :
    t.attempt language environment (.own requested) = (.error (.filter reason), t) := by
  simp only [attempt, setUp, hready, hread, Bool.false_eq_true, if_false]

theorem attempt_own_of_occupied (hready : t.ready = false)
    (hread : language.read (effectiveFilter environment requested) = .ok filter)
    (hplace : t.subscriber = some s) :
    t.attempt language environment (.own requested) = (.error .occupied, t) := by
  simp only [attempt, setUp, hready, hread, hplace, Bool.false_eq_true, if_false]

theorem attempt_own_of_free (hready : t.ready = false)
    (hread : language.read (effectiveFilter environment requested) = .ok filter)
    (hplace : t.subscriber = none) :
    t.attempt language environment (.own requested) = (.ok (), ⟨some (.own filter), true⟩) := by
  simp only [attempt, setUp, hready, hread, hplace, Bool.false_eq_true, if_false]

theorem attempt_foreign_of_occupied (hplace : t.subscriber = some s) :
    t.attempt language environment .foreign = (.error .occupied, t) := by
  simp only [attempt, occupy?, hplace]

theorem attempt_foreign_of_free (hplace : t.subscriber = none) :
    t.attempt language environment .foreign = (.ok (), { t with subscriber := some .foreign }) := by
  simp only [attempt, occupy?, hplace]

end Replies

theorem takes_attempt (language : FilterLanguage F) (environment : Option (List UInt8))
    (t : Telemetry F) (a : Attempt) : Takes language environment t a
      (t.attempt language environment a).1 (t.attempt language environment a).2 := by
  cases a with
  | own requested =>
    cases hready : t.ready with
    | true =>
      rw [attempt_own_of_ready hready]
      exact .again hready
    | false =>
      cases hread : language.read (effectiveFilter environment requested) with
      | error reason =>
        rw [attempt_own_of_unreadable hready hread]
        exact .unreadable hready hread
      | ok filter =>
        cases hplace : t.subscriber with
        | some s =>
          rw [attempt_own_of_occupied hready hread hplace]
          exact .occupied hready hread hplace
        | none =>
          rw [attempt_own_of_free hready hread hplace]
          exact .installed hready hread hplace
  | foreign =>
    cases hplace : t.subscriber with
    | some s =>
      rw [attempt_foreign_of_occupied hplace]
      exact .foreignOccupied hplace
    | none =>
      rw [attempt_foreign_of_free hplace]
      exact .foreignInstalled hplace

/-- What a process knows of its past: the guard stands for an own success, the place holds whatever
was put there first, and nothing was ever put there twice. -/
structure Accounts (t : Telemetry F) (history : List (Turn F)) : Prop where
  ready_iff_own : t.ready = true ↔ ∃ filter, t.subscriber = some (.own filter)
  ready_iff_done : t.ready = true ↔ OwnDone history
  foreign_iff_done : t.subscriber = some .foreign ↔ ForeignDone history
  kept : ∀ u ∈ history, ∀ s, u.after.subscriber = some s → t.subscriber = some s
  fresh_of_free : t.subscriber = none → ∀ u ∈ history, ¬ u.Installs
  installs_once : history.Pairwise fun u v => u.Installs → ¬ v.Installs

theorem accounts_fresh : Accounts (F := F) .fresh [] where
  ready_iff_own := by simp [fresh]
  ready_iff_done := by simp [fresh, OwnDone]
  foreign_iff_done := by simp [fresh, ForeignDone]
  kept := by simp
  fresh_of_free := by simp
  installs_once := .nil

theorem ownDone_concat (history : List (Turn F)) (u : Turn F) : OwnDone (history ++ [u]) ↔
    OwnDone history ∨ ((∃ requested, u.attempt = .own requested) ∧ u.answer = .ok ()) := by
  simp [OwnDone, or_and_right, exists_or]

theorem foreignDone_concat (history : List (Turn F)) (u : Turn F) : ForeignDone (history ++ [u]) ↔
    ForeignDone history ∨ (u.attempt = .foreign ∧ u.answer = .ok ()) := by
  simp [ForeignDone, or_and_right, exists_or]

theorem Accounts.concat_of_same {history : List (Turn F)} {u : Turn F} (h : Accounts t history)
    (hbefore : u.before = t) (hafter : u.after = t)
    (hown : (∃ requested, u.attempt = .own requested) → u.answer = .ok () → OwnDone history)
    (hforeign : u.attempt = .foreign → u.answer ≠ .ok ()) : Accounts t (history ++ [u]) where
  ready_iff_own := h.ready_iff_own
  ready_iff_done := by
    rw [h.ready_iff_done, ownDone_concat]
    exact ⟨.inl, fun hdone => hdone.elim id fun hu => hown hu.1 hu.2⟩
  foreign_iff_done := by
    rw [h.foreign_iff_done, foreignDone_concat]
    exact ⟨.inl, fun hdone => hdone.elim id fun hu => absurd hu.2 (hforeign hu.1)⟩
  kept := by
    intro v hv s hs
    rcases List.mem_append.1 hv with hv | hv
    · exact h.kept v hv s hs
    · obtain rfl := List.mem_singleton.1 hv
      rw [← hafter, hs]
  fresh_of_free := by
    intro hfree v hv
    rcases List.mem_append.1 hv with hv | hv
    · exact h.fresh_of_free hfree v hv
    · obtain rfl := List.mem_singleton.1 hv
      simp [Turn.Installs, hbefore, hafter]
  installs_once := by
    refine List.pairwise_append.2 ⟨h.installs_once, List.pairwise_singleton _ _, ?_⟩
    rintro v - w hw -
    obtain rfl := List.mem_singleton.1 hw
    simp [Turn.Installs, hbefore, hafter]

theorem Accounts.not_ready {history : List (Turn F)} (h : Accounts t history)
    (hother : ∀ filter, t.subscriber ≠ some (.own filter)) : t.ready = false := by
  rw [Bool.eq_false_iff]
  intro hready
  obtain ⟨filter, hown⟩ := h.ready_iff_own.1 hready
  exact hother filter hown

theorem Accounts.of_free {history : List (Turn F)} (h : Accounts t history)
    (hfree : t.subscriber = none) :
    t.ready = false ∧ ¬ OwnDone history ∧ ¬ ForeignDone history := by
  have hready : t.ready = false := h.not_ready (by simp [hfree])
  have hforeign : t.subscriber ≠ some .foreign := by simp [hfree]
  exact ⟨hready, mt h.ready_iff_done.2 (Bool.eq_false_iff.1 hready),
    mt h.foreign_iff_done.2 hforeign⟩

theorem Accounts.concat_of_installs {history : List (Turn F)} {u : Turn F} {s : Subscriber F}
    (h : Accounts t history) (hbefore : u.before = t) (hfree : t.subscriber = none)
    (hplaced : u.after.subscriber = some s) (hdone : u.answer = .ok ())
    (hready : u.after.ready = true ↔ ∃ filter, s = .own filter)
    (hown : (∃ requested, u.attempt = .own requested) ↔ ∃ filter, s = .own filter)
    (hforeign : u.attempt = .foreign ↔ s = .foreign) : Accounts u.after (history ++ [u]) := by
  obtain ⟨-, hnoOwn, hnoForeign⟩ := h.of_free hfree
  have hnothing : ∀ v ∈ history, v.after.subscriber = none := by
    intro v hv
    cases hv' : v.after.subscriber with
    | none => rfl
    | some old =>
      have hkept := h.kept v hv old hv'
      rw [hfree] at hkept
      cases hkept
  constructor
  · rw [hready, hplaced]
    simp
  · rw [hready, ownDone_concat, ← hown]
    simp [hnoOwn, hdone]
  · rw [hplaced, foreignDone_concat, hforeign]
    simp [hnoForeign, hdone]
  · intro v hv s' hs'
    rcases List.mem_append.1 hv with hv | hv
    · rw [hnothing v hv] at hs'
      cases hs'
    · obtain rfl := List.mem_singleton.1 hv
      exact hs'
  · intro hstill
    rw [hplaced] at hstill
    cases hstill
  · refine List.pairwise_append.2 ⟨h.installs_once, List.pairwise_singleton _ _, ?_⟩
    intro v hv w _ hinstalls
    exact absurd hinstalls (h.fresh_of_free hfree v hv)

theorem Accounts.turn {history : List (Turn F)} (h : Accounts t history) (a : Attempt) :
    Accounts (t.turn language environment a).after (history ++ [t.turn language environment a]) := by
  have htakes := takes_attempt language environment t a
  unfold Telemetry.turn
  generalize t.attempt language environment a = reply at htakes
  obtain ⟨answer, next⟩ := reply
  cases htakes with
  | again hready =>
    have hdone : OwnDone history := h.ready_iff_done.1 hready
    exact h.concat_of_same rfl rfl (fun _ _ => hdone) (fun hforeign => nomatch hforeign)
  | unreadable hready hread =>
    exact h.concat_of_same rfl rfl (fun _ hok => nomatch hok) (fun hforeign => nomatch hforeign)
  | occupied hready hread hplace =>
    exact h.concat_of_same rfl rfl (fun _ hok => nomatch hok) (fun hforeign => nomatch hforeign)
  | foreignOccupied hplace =>
    exact h.concat_of_same rfl rfl (fun _ hok => nomatch hok) (fun _ hok => nomatch hok)
  | installed hready hread hplace =>
    exact h.concat_of_installs rfl hplace rfl rfl (by simp) (by simp) (by simp)
  | foreignInstalled hplace =>
    have hready : t.ready = false := (h.of_free hplace).1
    exact h.concat_of_installs rfl hplace rfl rfl (by simp [hready]) (by simp) (by simp)

theorem Reached.accounts {history : List (Turn F)} (h : Reached language environment t history) :
    Accounts t history := by
  induction h with
  | fresh => exact accounts_fresh
  | next a _ ih => exact ih.turn a

theorem Accounts.free {history : List (Turn F)} (h : Accounts t history) (hown : ¬ OwnDone history)
    (hforeign : ¬ ForeignDone history) : t.subscriber = none := by
  cases hplace : t.subscriber with
  | none => rfl
  | some s =>
    cases s with
    | own filter => exact absurd (h.ready_iff_done.1 (h.ready_iff_own.2 ⟨filter, hplace⟩)) hown
    | foreign => exact absurd (h.foreign_iff_done.1 hplace) hforeign

theorem Accounts.occupied {history : List (Turn F)} (h : Accounts t history)
    (hdone : OwnDone history ∨ ForeignDone history) : ∃ s, t.subscriber = some s := by
  rcases hdone with hown | hforeign
  · obtain ⟨filter, hplace⟩ := h.ready_iff_own.1 (h.ready_iff_done.2 hown)
    exact ⟨_, hplace⟩
  · exact ⟨_, h.foreign_iff_done.2 hforeign⟩

theorem Accounts.not_ok_of_foreign {history : List (Turn F)} (h : Accounts t history)
    (hforeign : ForeignDone history) (requested : String) :
    (t.attempt language environment (.own requested)).1 ≠ .ok () := by
  have hplace := h.foreign_iff_done.2 hforeign
  have hready : t.ready = false := h.not_ready (by simp [hplace])
  cases hread : language.read (effectiveFilter environment requested) with
  | error reason =>
    rw [attempt_own_of_unreadable hready hread]
    exact fun hok => nomatch hok
  | ok filter =>
    rw [attempt_own_of_occupied hready hread hplace]
    exact fun hok => nomatch hok

/-- A process that comes from a fresh one answers an own call as its history says, and a foreign
attempt likewise; no more than one subscriber is ever put in place, the guard is set exactly when it
is the own one, and after a foreign one no call succeeds. -/
theorem answers_follow_history {history : List (Turn F)} (h : Reached language environment t history) :
    (∀ requested, ∃ text, IsEffective environment requested text ∧
      (OwnDone history → t.attempt language environment (.own requested) = (.ok (), t)) ∧
      (¬ OwnDone history → ∀ reason, language.read text = .error reason →
        t.attempt language environment (.own requested) = (.error (.filter reason), t)) ∧
      (¬ OwnDone history → ∀ filter, language.read text = .ok filter →
        (ForeignDone history → t.attempt language environment (.own requested) = (.error .occupied, t)) ∧
        (¬ ForeignDone history →
          t.attempt language environment (.own requested) = (.ok (), ⟨some (.own filter), true⟩)))) ∧
    (OwnDone history ∨ ForeignDone history →
      t.attempt language environment .foreign = (.error .occupied, t)) ∧
    (¬ OwnDone history → ¬ ForeignDone history →
      t.attempt language environment .foreign = (.ok (), ⟨some .foreign, false⟩)) ∧
    history.Pairwise (fun u v => u.Installs → ¬ v.Installs) ∧
    (∀ u ∈ history, ∀ s, u.after.subscriber = some s → t.subscriber = some s) ∧
    (t.ready = true ↔ ∃ filter, t.subscriber = some (.own filter)) ∧
    (t.ready = true ↔ OwnDone history) ∧
    (ForeignDone history → t.subscriber = some .foreign ∧
      ∀ requested, (t.attempt language environment (.own requested)).1 ≠ .ok ()) := by
  have hacc := h.accounts
  have hnotReady (hown : ¬ OwnDone history) : t.ready = false :=
    Bool.eq_false_iff.2 (mt hacc.ready_iff_done.1 hown)
  refine ⟨fun requested => ?_, fun hdone => ?_, fun hown hforeign => ?_, hacc.installs_once,
    hacc.kept, hacc.ready_iff_own, hacc.ready_iff_done, fun hforeign => ?_⟩
  · refine ⟨_, (isEffective_iff _ _ _).2 rfl, fun hown => ?_, fun hown reason hread => ?_,
      fun hown filter hread => ⟨fun hforeign => ?_, fun hforeign => ?_⟩⟩
    · exact attempt_own_of_ready (hacc.ready_iff_done.2 hown)
    · exact attempt_own_of_unreadable (hnotReady hown) hread
    · exact attempt_own_of_occupied (hnotReady hown) hread (hacc.foreign_iff_done.2 hforeign)
    · exact attempt_own_of_free (hnotReady hown) hread (hacc.free hown hforeign)
  · obtain ⟨s, hplace⟩ := hacc.occupied hdone
    exact attempt_foreign_of_occupied hplace
  · have hplace := hacc.free hown hforeign
    rw [attempt_foreign_of_free hplace, hnotReady hown]
  · exact ⟨hacc.foreign_iff_done.2 hforeign, hacc.not_ok_of_foreign hforeign⟩

def scrambled : List UInt8 := [0xFF]

theorem answers_of_outrun : ∃ t history,
    Reached Filter.language (some scrambled) t history ∧
    history.map Turn.attempt = [.own "prepare=loud", .foreign] ∧
    (t.attempt Filter.language (some scrambled) (.own "prepare=loud")).1 =
      .error (.filter FilterFault.level.message) ∧
    t.attempt Filter.language (some scrambled) (.own "info") = (.error .occupied, t) ∧
    t.attempt Filter.language (some scrambled) .foreign = (.error .occupied, t) := by
  have hreached : Reached Filter.language (some scrambled) _ _ :=
    .next .foreign (.next (.own "prepare=loud") .fresh)
  obtain ⟨hown, hforeign, -, -, -, -, hready, -⟩ := answers_follow_history hreached
  have hnotOwn := mt hready.2 Bool.false_ne_true
  have hdone := hreached.accounts.foreign_iff_done.1 rfl
  have hnoText : Text.ofBytes? scrambled = none := by decide +kernel
  have heffective (requested text : String)
      (h : IsEffective (some scrambled) requested text) : text = requested := by
    rw [isEffective_iff, effectiveFilter, Option.bind_some, hnoText] at h
    exact h
  refine ⟨_, _, hreached, rfl, ?_, ?_, hforeign (.inr hdone)⟩
  · obtain ⟨text, htext, -, hunreadable, -⟩ := hown "prepare=loud"
    obtain rfl := heffective _ _ htext
    rw [hunreadable hnotOwn FilterFault.level.message rfl]
  · obtain ⟨text, htext, -, -, hreadable⟩ := hown "info"
    obtain rfl := heffective _ _ htext
    exact (hreadable hnotOwn ⟨[.forAll Level.info.detail]⟩ rfl).1 hdone

end CodeRuns.Telemetry
