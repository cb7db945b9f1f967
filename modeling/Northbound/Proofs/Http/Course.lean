import Northbound.Http.Exchange

/-!
# The course of an exchange

Builders, the target, the transport and the handlers may each end an exchange. A course tells which
one did, and what was called on the way with what. The calls are observed: every part of an exchange
can be made to note that it was called, next to the state it works on, and does the same as before
otherwise.
-/

namespace Northbound

namespace Action

variable {ε σ α σ' ω : Type}

/-- Actions that are done in order, each with the value and the state that the one before left, up
to the first that fails. Those that were done had what is listed. -/
inductive Chain : List (α → Action ε σ α) → α → σ → List (α × σ) → Except ε α × σ → Prop
  | done {a s} : Chain [] a s [] (.ok a, s)
  | failed {f rest a s e s'} (fails : f a s = (.error e, s')) :
      Chain (f :: rest) a s [(a, s)] (.error e, s')
  | next {f rest a s a' s' given last} (goes : f a s = (.ok a', s'))
      (tail : Chain rest a' s' given last) : Chain (f :: rest) a s ((a, s) :: given) last

namespace Chain

variable {fs : List (α → Action ε σ α)} {a : α} {s : σ} {given : List (α × σ)}
  {last : Except ε α × σ}

theorem exists_chain (fs : List (α → Action ε σ α)) (a : α) (s : σ) :
    ∃ given last, Chain fs a s given last := by
  induction fs generalizing a s with
  | nil => exact ⟨_, _, done⟩
  | cons f fs ih =>
    rcases run : f a s with ⟨e | a', s'⟩
    · exact ⟨_, _, failed run⟩
    · obtain ⟨given, last, tail⟩ := ih a' s'
      exact ⟨_, _, next run tail⟩

theorem length_le (chain : Chain fs a s given last) : given.length ≤ fs.length := by
  induction chain with
  | done => exact Nat.le_refl _
  | failed => simp
  | next _ _ ih => simpa using ih

/-- Actions that leave notes beside the state are done like those that do not. -/
theorem noted (put : σ → List ω → σ') (note : Nat → α → σ → ω)
    (noting : Nat → (α → Action ε σ α) → α → Action ε σ' α)
    (notes : ∀ i f a s log,
      noting i f a (put s log) = ((f a s).1, put (f a s).2 (log ++ [note i a s])))
    (chain : Chain fs a s given last) (k : Nat) (log : List ω) :
    ∃ given', Chain ((fs.zipIdx k).map fun p => noting p.2 p.1) a (put s log) given'
      (last.1, put last.2 (log ++ (given.zipIdx k).map fun p => note p.2 p.1.1 p.1.2)) := by
  induction chain generalizing k log with
  | done => exact ⟨[], by simpa using done⟩
  | @failed f rest a s e s' fails =>
    have fails' : noting k f a (put s log) = (.error e, put s' (log ++ [note k a s])) := by
      rw [notes, fails]
    exact ⟨_, failed fails'⟩
  | @next f rest a s a' s' given last goes tail ih =>
    have goes' : noting k f a (put s log) = (.ok a', put s' (log ++ [note k a s])) := by
      rw [notes, goes]
    obtain ⟨given', tail'⟩ := ih (k + 1) (log ++ [note k a s])
    rw [List.append_assoc] at tail'
    exact ⟨_, next goes' tail'⟩

end Chain

end Action

namespace Http

open Northbound.Action

variable {σ τ : Type}

/-- Builders that are applied one after the other make a chain. -/
theorem Builder.applyAll_of_chain {builders : List (Builder σ)} {r : Request} {s : σ}
    {given : List (Request × σ)} {last : Except HttpError Request × σ}
    (chain : Chain builders r s given last) : applyAll builders r s = last := by
  induction chain with
  | done => rfl
  | failed fails => exact Action.bind_of_error fails
  | next goes _ ih => exact (Action.bind_of_ok goes).trans ih

/-- Handlers that look at one response make a chain. They are told nothing else. -/
theorem Handler.runAll_of_chain {handlers : List (Handler τ)} {u : Unit} {seen : Response × τ}
    {shown : List (Unit × Response × τ)} {last : Except HttpError Unit × Response × τ}
    (chain : Chain (handlers.map fun h _ => h) u seen shown last) :
    runAll handlers seen = last := by
  induction handlers generalizing u seen shown with
  | nil =>
    cases chain
    rfl
  | cons h handlers ih =>
    cases chain with
    | failed fails => exact Action.bind_of_error fails
    | next goes tail => exact (Action.bind_of_ok goes).trans (ih tail)

/-- A call that an exchange makes. -/
inductive Call where
  /-- The builder at a position is given the request as far as it is built. -/
  | build (position : Nat) (request : Request)
  | send (request : Request)
  /-- The handler at a position is shown the response as the ones before it left it. -/
  | handle (position : Nat) (response : Response)
deriving DecidableEq, Repr

namespace Call

/-- The position of the handler that is called, if it is one. -/
def handler? : Call → Option Nat
  | .handle position _ => some position
  | _ => none

/-- The calls of builders. -/
def builds (given : List (Request × σ)) : List Call :=
  given.zipIdx.map fun p => .build p.2 p.1.1

/-- The calls of handlers. -/
def handles (shown : List (Unit × Response × τ)) : List Call :=
  shown.zipIdx.map fun p => .handle p.2 p.1.2.1

theorem filterMap_handler?_builds (given : List (Request × σ)) :
    (builds given).filterMap handler? = [] := by
  simp [builds, handler?]

theorem filterMap_handler?_handles (shown : List (Unit × Response × τ)) :
    (handles shown).filterMap handler? = List.range shown.length := by
  have positions : handler? ∘ (fun p : (Unit × Response × τ) × Nat => handle p.2 p.1.2.1) =
      some ∘ Prod.snd := rfl
  rw [handles, List.filterMap_map, positions, List.filterMap_eq_map, List.zipIdx_map_snd,
    List.range_eq_range']

end Call

/-- The builder at a position, which notes its calls. -/
def Builder.noting (position : Nat) (b : Builder σ) : Builder (σ × List Call) :=
  fun r (s, log) => ((b r s).1, (b r s).2, log ++ [.build position r])

/-- The transport, which notes its calls. -/
def Transport.noting (transport : Transport σ) : Transport (σ × List Call) :=
  fun r (s, log) => ((transport r s).1, (transport r s).2, log ++ [.send r])

/-- The handler at a position, which notes its calls. -/
def Handler.noting (position : Nat) (h : Handler τ) : Handler (τ × List Call) := fun (r, m, log) =>
  ((h (r, m)).1, (h (r, m)).2.1, (h (r, m)).2.2, log ++ [.handle position r])

/-- The outcome with notes in the memory of the handlers. -/
def Outcome.withNotes (o : Outcome τ) (log : List Call) : Outcome (τ × List Call) :=
  { result := o.result, memory := (o.memory, log), response? := o.response? }

namespace Exchange

/-- The exchange whose builders and handlers note their calls. -/
def noting (x : Exchange σ τ) : Exchange (σ × List Call) (τ × List Call) where
  builders := x.builders.zipIdx.map fun p => p.1.noting p.2
  handlers := x.handlers.zipIdx.map fun p => p.1.noting p.2

/-- What can become of an exchange: the calls before there is a response, those after, the outcome
and the state that is left. -/
inductive Course (x : Exchange σ τ) (transport : Transport σ) (m : τ) (s : σ) :
    List Call → List Call → Outcome τ × σ → Prop
  /-- A builder failed. -/
  | refused {given e s'} (built : Chain x.builders {} s given (.error e, s')) :
      Course x transport m s (Call.builds given) [] ({ result := .error e, memory := m }, s')
  /-- No builder named a target. -/
  | untargeted {given request s'} (built : Chain x.builders {} s given (.ok request, s'))
      (target : request.url? = none) :
      Course x transport m s (Call.builds given) []
        ({ result := .error (.invalidRequest .noTarget), memory := m }, s')
  /-- The request was sent and did not get across. -/
  | lost {given request s' e s''} (built : Chain x.builders {} s given (.ok request, s'))
      (target : request.url?.isSome = true) (sent : transport request s' = (.error e, s'')) :
      Course x transport m s (Call.builds given ++ [.send request]) []
        ({ result := .error (.transport (e.response?.map Response.reply) e.reason), memory := m,
           response? := e.response?.map Response.close }, s'')
  /-- The request was sent, and a handler failed on the response. -/
  | stopped {given request s' response s'' shown e r m'}
      (built : Chain x.builders {} s given (.ok request, s'))
      (target : request.url?.isSome = true) (sent : transport request s' = (.ok response, s''))
      (handled : Chain (x.handlers.map fun h _ => h) () (response, m) shown (.error e, r, m')) :
      Course x transport m s (Call.builds given ++ [.send request]) (Call.handles shown)
        ({ result := .error e, memory := m', response? := some r.close }, s'')
  /-- The request was sent, and all handlers had the response. -/
  | completed {given request s' response s'' shown r m'}
      (built : Chain x.builders {} s given (.ok request, s'))
      (target : request.url?.isSome = true) (sent : transport request s' = (.ok response, s''))
      (handled : Chain (x.handlers.map fun h _ => h) () (response, m) shown (.ok (), r, m')) :
      Course x transport m s (Call.builds given ++ [.send request]) (Call.handles shown)
        ({ result := .ok r.reply, memory := m', response? := some r.close }, s'')

namespace Course

variable {x : Exchange σ τ} {transport : Transport σ} {m : τ} {s : σ} {before after : List Call}
  {last : Outcome τ × σ}

/-- Every exchange takes some course. -/
theorem exists_course (x : Exchange σ τ) (transport : Transport σ) (m : τ) (s : σ) :
    ∃ before after last, Course x transport m s before after last := by
  obtain ⟨given, ⟨e | request, s'⟩, built⟩ := Chain.exists_chain x.builders {} s
  · exact ⟨_, _, _, refused built⟩
  cases target : request.url? with
  | none => exact ⟨_, _, _, untargeted built target⟩
  | some url =>
    have target : request.url?.isSome = true := by rw [target]; rfl
    rcases sent : transport request s' with ⟨e | response, s''⟩
    · exact ⟨_, _, _, lost built target sent⟩
    · obtain ⟨shown, ⟨e | u, r, m'⟩, handled⟩ :=
        Chain.exists_chain (x.handlers.map fun h _ => h) () (response, m)
      · exact ⟨_, _, _, stopped built target sent handled⟩
      · exact ⟨_, _, _, completed built target sent handled⟩

theorem build_eq {given : List (Request × σ)} {request : Request} {s' : σ}
    (built : Chain x.builders {} s given (.ok request, s')) (target : request.url?.isSome = true) :
    Builder.build x.builders s = (.ok request, s') := by
  rw [Builder.build, Action.bind_of_ok (Builder.applyAll_of_chain built)]
  simp [Option.isNone_eq_false_iff.mpr target, Action.pure_apply]

/-- A course is what running the exchange comes to. -/
theorem run_eq (course : Course x transport m s before after last) :
    x.run transport m s = last := by
  cases course with
  | refused built =>
    rw [run, Builder.build, Action.bind_of_error (Builder.applyAll_of_chain built)]
  | untargeted built target =>
    rw [run, Builder.build, Action.bind_of_ok (Builder.applyAll_of_chain built), target]
    rfl
  | lost built target sent =>
    rw [run, build_eq built target]
    simp only [sent, abandon]
  | stopped built target sent handled =>
    rw [run, build_eq built target]
    simp only [sent, receive, Handler.runAll_of_chain handled]
  | completed built target sent handled =>
    rw [run, build_eq built target]
    simp only [sent, receive, Handler.runAll_of_chain handled]

/-- An exchange that notes its calls takes the same course, and has noted it in the end. -/
theorem noting (course : Course x transport m s before after last) :
    ∃ before' after', Course x.noting transport.noting (m, []) (s, []) before' after'
      (last.1.withNotes after, last.2, before) := by
  have builders {given : List (Request × σ)} {result : Except HttpError Request} {s' : σ}
      (built : Chain x.builders {} s given (result, s')) :
      ∃ given', Chain x.noting.builders {} (s, []) given' (result, s', Call.builds given) :=
    Chain.noted Prod.mk (fun i r _ => Call.build i r) Builder.noting
      (fun _ _ _ _ _ => rfl) built 0 []
  have handlers {response : Response} {shown : List (Unit × Response × τ)}
      {result : Except HttpError Unit} {r : Response} {m' : τ}
      (handled : Chain (x.handlers.map fun h _ => h) () (response, m) shown (result, r, m')) :
      ∃ shown', Chain (x.noting.handlers.map fun h _ => h) () (response, m, []) shown'
        (result, r, m', Call.handles shown) := by
    have noted := Chain.noted (fun p log => (p.1, p.2, log)) (fun i _ p => Call.handle i p.1)
      (fun i h u => Handler.noting i (h u)) (fun _ _ _ _ _ => rfl) handled 0 []
    rw [List.zipIdx_map, List.map_map] at noted
    rw [Exchange.noting, List.map_map]
    exact noted
  have answered {request : Request} {s' s'' : σ} {answer : Except TransportError Response}
      (log : List Call) (sent : transport request s' = (answer, s'')) :
      transport.noting request (s', log) = (answer, s'', log ++ [.send request]) := by
    rw [Transport.noting, sent]
  cases course with
  | refused built =>
    obtain ⟨_, built⟩ := builders built
    exact ⟨_, _, .refused built⟩
  | untargeted built target =>
    obtain ⟨_, built⟩ := builders built
    exact ⟨_, _, .untargeted built target⟩
  | lost built target sent =>
    obtain ⟨_, built⟩ := builders built
    exact ⟨_, _, .lost built target (answered _ sent)⟩
  | stopped built target sent handled =>
    obtain ⟨_, built⟩ := builders built
    obtain ⟨_, handled⟩ := handlers handled
    exact ⟨_, _, .stopped built target (answered _ sent) handled⟩
  | completed built target sent handled =>
    obtain ⟨_, built⟩ := builders built
    obtain ⟨_, handled⟩ := handlers handled
    exact ⟨_, _, .completed built target (answered _ sent) handled⟩

/-- If there was a response, it is closed in the end. -/
theorem closed (course : Course x transport m s before after last) :
    ∀ r ∈ last.1.response?, r.closed = true := by
  cases course with
  | refused | untargeted => simp
  | lost =>
    intro r hr
    obtain ⟨r', -, rfl⟩ := Option.map_eq_some_iff.mp hr
    rfl
  | stopped | completed =>
    rintro _ ⟨⟩
    rfl

/-- The handlers that are called are the first ones, in order and once each. -/
theorem handlers_eq_range (course : Course x transport m s before after last) :
    ∃ n ≤ x.handlers.length, (before ++ after).filterMap Call.handler? = List.range n := by
  have none (given : List (Request × σ)) (calls : List Call)
      (silent : calls.filterMap Call.handler? = []) :
      (Call.builds given ++ calls).filterMap Call.handler? = List.range 0 := by
    rw [List.filterMap_append, Call.filterMap_handler?_builds, silent]
    rfl
  have shown_le {response : Response} {shown : List (Unit × Response × τ)}
      {reached : Except HttpError Unit × Response × τ}
      (handled : Chain (x.handlers.map fun h _ => h) () (response, m) shown reached) :
      shown.length ≤ x.handlers.length := by
    simpa using handled.length_le
  cases course with
  | refused | untargeted => exact ⟨0, Nat.zero_le _, none _ [] rfl⟩
  | lost =>
    rw [List.append_nil]
    exact ⟨0, Nat.zero_le _, none _ [_] rfl⟩
  | @stopped given _ _ _ _ shown _ _ _ _ _ _ handled
  | @completed given _ _ _ _ shown _ _ _ _ _ handled =>
    refine ⟨shown.length, shown_le handled, ?_⟩
    rw [List.append_assoc, List.filterMap_append, Call.filterMap_handler?_builds,
      List.filterMap_append, Call.filterMap_handler?_handles]
    rfl

end Course

/-- Running an exchange takes one of the courses, whatever it is made of. It is the course that the
parts of the exchange note, no handler has a response twice, and no response stays open. -/
theorem run_takes_course (x : Exchange σ τ) (transport : Transport σ) (m : τ) (s : σ) :
    ∃ before after,
      x.Course transport m s before after (x.run transport m s) ∧
        x.noting.run transport.noting (m, []) (s, []) =
          ((x.run transport m s).1.withNotes after, (x.run transport m s).2, before) ∧
        (∃ n ≤ x.handlers.length, (before ++ after).filterMap Call.handler? = List.range n) ∧
        ∀ r ∈ (x.run transport m s).1.response?, r.closed = true := by
  obtain ⟨before, after, last, course⟩ := Course.exists_course x transport m s
  obtain ⟨_, _, noted⟩ := course.noting
  rw [course.run_eq]
  exact ⟨before, after, course, noted.run_eq, course.handlers_eq_range, course.closed⟩

end Exchange

end Http

end Northbound
