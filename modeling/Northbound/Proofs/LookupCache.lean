import Northbound.LookupCache

/-!
# Caches that are asked time after time

A cache is asked in a loop without a bound of its own: a round that gives no answer is followed by
another one. Main statement: however often a new cache is asked, and whatever its populating
functions do, each loop ends within two rounds, and the functions are called one after the other up
to the first that succeeds, whose entries are the answer from then on.
-/

namespace Northbound

variable {α β ε σ : Type}

namespace Action

/-- The rounds of a loop that goes on while they yield nothing: how many there are, and what the
last one yields and leaves. A loop without an end has none. -/
inductive Rounds (round : Action ε σ (Option β)) : σ → Nat → Except ε β × σ → Prop
  | answered {s s' x} (last : round s = (.ok (some x), s')) : Rounds round s 1 (.ok x, s')
  | failed {s s' e} (last : round s = (.error e, s')) : Rounds round s 1 (.error e, s')
  | again {s s' n outcome} (first : round s = (.ok none, s')) (more : Rounds round s' n outcome) :
      Rounds round s (n + 1) outcome

/-- A loop has one course at most. -/
theorem Rounds.unique {round : Action ε σ (Option β)} {s : σ} {n n' : Nat}
    {outcome outcome' : Except ε β × σ} (h : Rounds round s n outcome)
    (h' : Rounds round s n' outcome') : n = n' ∧ outcome = outcome' := by
  induction h generalizing n' with
  | answered last =>
      cases h' with
      | answered last' =>
          cases last.symm.trans last'
          exact ⟨rfl, rfl⟩
      | failed last' => cases last.symm.trans last'
      | again first' _ => cases last.symm.trans first'
  | failed last =>
      cases h' with
      | answered last' => cases last.symm.trans last'
      | failed last' =>
          cases last.symm.trans last'
          exact ⟨rfl, rfl⟩
      | again first' _ => cases last.symm.trans first'
  | again first _ ih =>
      cases h' with
      | answered last' => cases first.symm.trans last'
      | failed last' => cases first.symm.trans last'
      | again first' more' =>
          cases first.symm.trans first'
          obtain ⟨rfl, rfl⟩ := ih more'
          exact ⟨rfl, rfl⟩

/-- The action, which notes beside its state what each of its calls yields. -/
def noting (a : Action ε σ α) : Action ε (σ × List (Except ε α)) α := fun (s, log) =>
  ((a s).1, (a s).2, log ++ [(a s).1])

end Action

namespace LookupCache

/-- One time that a cache is asked. -/
@[ext]
structure Turn (ε α : Type) where
  /-- How many rounds the loop takes. -/
  rounds : Nat
  /-- What each call of the populating function yields. -/
  populations : List (Except ε (Dictionary α))
  answer : Except ε (Dictionary α)
  /-- The cache afterwards. -/
  left : LookupCache α

namespace Turn

/-- A function that fails is called once. Its failure is the answer, and the cache stays
unpopulated. -/
def failing (e : ε) : Turn ε α := ⟨1, [.error e], .error e, .unpopulated⟩

/-- A function that succeeds is called once, and the second round answers with its entries. -/
def populating (entries : Dictionary α) : Turn ε α :=
  ⟨2, [.ok entries], .ok entries, .populated entries⟩

/-- A populated cache answers without a call. -/
def keeping (entries : Dictionary α) : Turn ε α := ⟨1, [], .ok entries, .populated entries⟩

/-- Whether entries are the answer. -/
def Succeeds (t : Turn ε α) : Prop := ∃ entries, t.answer = .ok entries

theorem not_succeeds_failing (e : ε) : ¬ (failing e : Turn ε α).Succeeds := nofun

theorem succeeds_populating (entries : Dictionary α) :
    (populating entries : Turn ε α).Succeeds := ⟨entries, rfl⟩

end Turn

/-- The turns of a cache that is asked time after time, each time with a populating function of its
own. Each turn starts from the cache and the state that the one before left. It yields and leaves
what asking does, and has the rounds and the calls of the loop. -/
inductive Turns :
    LookupCache α × σ → List (Action ε σ (Dictionary α)) → List (Turn ε α) → Prop
  | done {start} : Turns start [] []
  | next {cache s s' populate populates} {t : Turn ε α} {turns}
      (yields : getOrPopulate populate (cache, s) = (t.answer, t.left, s'))
      (loops : Action.Rounds (round populate.noting) (cache, s, []) t.rounds
        (t.answer, t.left, s', t.populations))
      (later : Turns (t.left, s') populates turns) :
      Turns (cache, s) (populate :: populates) (t :: turns)

section Turns

variable {populate : Action ε σ (Dictionary α)} {populates : List (Action ε σ (Dictionary α))}
  {start : LookupCache α × σ} {s s' : σ} {entries : Dictionary α} {e : ε}
  {turns turns' : List (Turn ε α)}

theorem Turns.unique (h : Turns start populates turns) (h' : Turns start populates turns') :
    turns = turns' := by
  induction h generalizing turns' with
  | done =>
      cases h'
      rfl
  | @next cache s s' populate populates t turns yields loops later ih =>
      cases h' with
      | @next _ _ _ _ _ t' _ yields' loops' later' =>
          obtain ⟨hrounds, houtcome⟩ := loops.unique loops'
          simp only [Prod.mk.injEq] at houtcome
          obtain ⟨hanswer, hleft, rfl, hpopulations⟩ := houtcome
          obtain rfl : t = t' := Turn.ext hrounds hpopulations hanswer hleft
          rw [ih later']

theorem Turns.keeping (later : Turns (.populated entries, s) populates turns) :
    Turns (.populated entries, s) (populate :: populates) (.keeping entries :: turns) :=
  .next (getOrPopulate_populated populate entries s) (.answered rfl) later

theorem Turns.failing (fails : populate s = (.error e, s'))
    (later : Turns (.unpopulated, s') populates turns) :
    Turns (.unpopulated, s) (populate :: populates) (.failing e :: turns) := by
  have yields : getOrPopulate populate (.unpopulated, s) = (.error e, .unpopulated, s') := by
    rw [getOrPopulate_unpopulated, fails]
  have last : round populate.noting (.unpopulated, s, []) =
      (.error e, .unpopulated, s', [.error e]) := by
    simp only [round, Action.noting, fails, List.nil_append]
  exact .next yields (.failed last) later

theorem Turns.populating (succeeds : populate s = (.ok entries, s'))
    (later : Turns (.populated entries, s') populates turns) :
    Turns (.unpopulated, s) (populate :: populates) (.populating entries :: turns) := by
  have yields : getOrPopulate populate (.unpopulated, s) =
      (.ok entries, .populated entries, s') := by
    rw [getOrPopulate_unpopulated, succeeds]
  have first : round populate.noting (.unpopulated, s, []) =
      (.ok none, .populated entries, s', [.ok entries]) := by
    simp only [round, Action.noting, succeeds, List.nil_append]
  exact .next yields (.again first (.answered rfl)) later

/-- A populated cache is never populated again. -/
theorem turns_of_populated (entries : Dictionary α) (s : σ)
    (populates : List (Action ε σ (Dictionary α))) :
    Turns (.populated entries, s) populates
      (List.replicate populates.length (.keeping entries)) := by
  induction populates with
  | nil => exact .done
  | cons populate populates ih => exact ih.keeping

/-- The course that a new cache takes: failures up to the first success, whose entries are kept. -/
inductive Course : List (Turn ε α) → Prop
  | done : Course []
  | failing (e : ε) {later} (course : Course later) : Course (.failing e :: later)
  | populating (entries : Dictionary α) {later} (kept : ∀ u ∈ later, u = .keeping entries) :
      Course (.populating entries :: later)

theorem exists_course (s : σ) (populates : List (Action ε σ (Dictionary α))) :
    ∃ turns, Turns (.unpopulated, s) populates turns ∧ Course turns := by
  induction populates generalizing s with
  | nil => exact ⟨[], .done, .done⟩
  | cons populate populates ih =>
      rcases run : populate s with ⟨e | entries, s'⟩
      · obtain ⟨turns, hturns, course⟩ := ih s'
        exact ⟨.failing e :: turns, hturns.failing run, .failing e course⟩
      · refine ⟨_, (turns_of_populated entries s' populates).populating run, .populating entries ?_⟩
        intro u hu
        exact List.eq_of_mem_replicate hu

end Turns

/-- What is said of the turns of a new cache. -/
structure PopulatedOnce (turns : List (Turn ε α)) : Prop where
  bounded : ∀ t ∈ turns, t.rounds ≤ 2 ∧ t.populations.length ≤ 1
  /-- A function is called exactly where nothing succeeded before. -/
  called_iff : ∀ earlier t later, turns = earlier ++ t :: later →
    (t.populations ≠ [] ↔ ∀ u ∈ earlier, ¬ u.Succeeds)
  failed : ∀ t ∈ turns, ∀ e, .error e ∈ t.populations → t = .failing e
  /-- The first success is that of its function, and it settles all later answers. -/
  settled : ∀ earlier t later entries, turns = earlier ++ t :: later →
    (∀ u ∈ earlier, ¬ u.Succeeds) → t.answer = .ok entries →
    t = .populating entries ∧ ∀ u ∈ later, u = .keeping entries

namespace Course

variable {turns earlier later : List (Turn ε α)} {t : Turn ε α} {entries : Dictionary α}

/-- There are three kinds of turns. -/
theorem kind_of_mem (course : Course turns) (ht : t ∈ turns) :
    (∃ e, t = .failing e) ∨ ∃ entries, t = .populating entries ∨ t = .keeping entries := by
  induction course with
  | done => cases ht
  | failing e _ ih =>
      rcases List.mem_cons.mp ht with rfl | ht
      · exact Or.inl ⟨e, rfl⟩
      · exact ih ht
  | populating entries kept =>
      rcases List.mem_cons.mp ht with rfl | ht
      · exact Or.inr ⟨entries, Or.inl rfl⟩
      · exact Or.inr ⟨entries, Or.inr (kept t ht)⟩

theorem populations_ne_nil_iff (course : Course (earlier ++ t :: later)) :
    t.populations ≠ [] ↔ ∀ u ∈ earlier, ¬ u.Succeeds := by
  induction earlier with
  | nil =>
      cases course with
      | failing => exact iff_of_true (List.cons_ne_nil _ _) nofun
      | populating => exact iff_of_true (List.cons_ne_nil _ _) nofun
  | cons first earlier ih =>
      cases course with
      | failing e course =>
          rw [ih course, List.forall_mem_cons]
          exact (and_iff_right (Turn.not_succeeds_failing e)).symm
      | populating entries kept =>
          rw [kept t (by simp)]
          refine iff_of_false (fun called => called rfl) fun failures => ?_
          exact failures _ List.mem_cons_self (Turn.succeeds_populating entries)

theorem settled (course : Course (earlier ++ t :: later)) (failures : ∀ u ∈ earlier, ¬ u.Succeeds)
    (answer : t.answer = .ok entries) :
    t = .populating entries ∧ ∀ u ∈ later, u = .keeping entries := by
  induction earlier with
  | nil =>
      cases course with
      | failing => cases answer
      | populating entries' kept =>
          cases answer
          exact ⟨rfl, kept⟩
  | cons first earlier ih =>
      obtain ⟨failure, others⟩ := List.forall_mem_cons.mp failures
      cases course with
      | failing e course => exact ih course others
      | populating entries' kept => exact absurd (Turn.succeeds_populating entries') failure

theorem populatedOnce (course : Course turns) : PopulatedOnce turns where
  bounded t ht := by
    rcases course.kind_of_mem ht with ⟨e, rfl⟩ | ⟨entries, rfl | rfl⟩
    · exact ⟨Nat.le_succ 1, Nat.le_refl 1⟩
    · exact ⟨Nat.le_refl 2, Nat.le_refl 1⟩
    · exact ⟨Nat.le_succ 1, Nat.zero_le 1⟩
  called_iff earlier t later parts := by
    subst parts
    exact course.populations_ne_nil_iff
  failed t ht e he := by
    rcases course.kind_of_mem ht with ⟨e', rfl⟩ | ⟨entries, rfl | rfl⟩
    · cases List.mem_singleton.mp he
      rfl
    · cases List.mem_singleton.mp he
    · cases he
  settled earlier t later entries parts := by
    subst parts
    exact course.settled

end Course

/-- A cache that is asked time after time takes one course. A new one is populated once, and a
populated one never. -/
theorem turns_populated_once (start : LookupCache α) (s : σ)
    (populates : List (Action ε σ (Dictionary α))) :
    ∃ turns, (∀ turns', Turns (start, s) populates turns' ↔ turns' = turns) ∧
      (start = .unpopulated → PopulatedOnce turns) ∧
      ∀ entries, start = .populated entries → ∀ t ∈ turns, t = .keeping entries := by
  have only {turns : List (Turn ε α)} (h : Turns (start, s) populates turns)
      (turns' : List (Turn ε α)) : Turns (start, s) populates turns' ↔ turns' = turns := by
    constructor
    · intro h'
      exact h'.unique h
    · rintro rfl
      exact h
  cases start with
  | unpopulated =>
      obtain ⟨turns, hturns, course⟩ := exists_course s populates
      exact ⟨turns, only hturns, fun _ => course.populatedOnce, nofun⟩
  | populated entries =>
      refine ⟨_, only (turns_of_populated entries s populates), nofun, ?_⟩
      intro entries' hentries t ht
      cases hentries
      exact List.eq_of_mem_replicate ht

end LookupCache

end Northbound
