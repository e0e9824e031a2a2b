import RunningStatistics.Proofs.Requests

/-!
# Events in a pool of accumulators

Accumulators live in a pool, where their owners send them requests and
registries update them.  Whatever happens in a pool, each of its accumulators
goes through a run of requests that it carries out: a request that is refused
changes nothing, and a registry asks an accumulator for nothing but to read its
sources.
-/

namespace RunningStatistics

variable {R : Type} [Scalar R] [Exponential R]

/-! ## What an accumulator can become -/

namespace Accumulator

/-- The state follows from another one by requests that are carried out. -/
def Reaches (accumulator next : Accumulator R) : Prop :=
  ∃ requests, accumulator.performAll requests = .ok next

/-- Requests are carried out one after another, however they are grouped. -/
theorem performAll_append
    (accumulator : Accumulator R)
    (earlier later : List (Request R)) :
    accumulator.performAll (earlier ++ later) =
      accumulator.performAll earlier >>= (·.performAll later) := by
  induction earlier generalizing accumulator with
  | nil => rfl
  | cons request rest hypothesis =>
      rw [List.cons_append, performAll, performAll, bind_assoc]
      exact bind_congr fun next => hypothesis next

theorem Reaches.refl (accumulator : Accumulator R) :
    accumulator.Reaches accumulator :=
  ⟨[], rfl⟩

theorem Reaches.trans
    {first second third : Accumulator R}
    (start : first.Reaches second)
    (rest : second.Reaches third) :
    first.Reaches third := by
  rcases start with ⟨earlier, start⟩
  rcases rest with ⟨later, rest⟩
  refine ⟨earlier ++ later, ?_⟩
  rw [performAll_append, start]
  exact rest

theorem reaches_of_perform
    {accumulator next : Accumulator R}
    {request : Request R}
    (performed : accumulator.perform request = .ok next) :
    accumulator.Reaches next := by
  refine ⟨[request], ?_⟩
  rw [performAll, performed]
  rfl

/-- An update is a request that is carried out. -/
theorem reaches_of_update
    {accumulator next : Accumulator R}
    {readings : Readings R}
    (updated : accumulator.update readings = .ok next) :
    accumulator.Reaches next := by
  have performed : accumulator.perform (.update readings) = .ok next := by
    rw [perform, updated]
    rfl
  exact reaches_of_perform performed

end Accumulator

/-! ## Steps of a registry -/

namespace Registry

theorem get?_visit
    (readings : Readings R)
    (holds : Holds)
    (step : Nat)
    (visited : AccumulatorId)
    {pool : Pool R}
    {id : AccumulatorId}
    {accumulator : Accumulator R}
    (present : pool.get? id = some accumulator) :
    ∃ next,
      (visit readings holds step pool visited).1.get? id = some next ∧
      accumulator.Reaches next := by
  by_cases different : id = visited
  · subst different
    rw [visit]
    rw [present]
    cases holds id with
    | shared => exact ⟨accumulator, present, .refl accumulator⟩
    | exclusive => exact ⟨accumulator, present, .refl accumulator⟩
    | free =>
        by_cases due : accumulator.sampling.isDue step
        · cases updated : accumulator.update readings with
          | error cause =>
              simp only [due, updated, if_true]
              exact ⟨accumulator, present, .refl accumulator⟩
          | ok next =>
              simp only [due, updated, if_true]
              exact ⟨next, Pool.get?_set_self pool next present,
                Accumulator.reaches_of_update updated⟩
        · simp only [due]
          exact ⟨accumulator, present, .refl accumulator⟩
  · exact ⟨accumulator,
      (get?_visit_ne readings holds step pool different).trans present,
      .refl accumulator⟩

/-- A pass over entries leaves each accumulator where requests can lead it. -/
theorem get?_visitAll
    (readings : Readings R)
    (holds : Holds)
    (step : Nat)
    (visited : List AccumulatorId)
    {pool : Pool R}
    {id : AccumulatorId}
    {accumulator : Accumulator R}
    (present : pool.get? id = some accumulator) :
    ∃ next,
      (visitAll readings holds step visited pool).1.get? id = some next ∧
      accumulator.Reaches next := by
  induction visited generalizing pool accumulator with
  | nil => exact ⟨accumulator, present, .refl accumulator⟩
  | cons first rest hypothesis =>
      rcases get?_visit readings holds step first present with
        ⟨middle, there, start⟩
      rcases hypothesis there with ⟨next, found, rest⟩
      exact ⟨next, found, start.trans rest⟩

end Registry

/-! ## Events -/

/-- What can happen to the accumulators of a pool. -/
inductive Event (R : Type) where
  | request (id : AccumulatorId) (request : Request R)
  | step (registry : Registry) (readings : Readings R) (holds : Holds)
      (step : Nat)
  | create (accumulator : Accumulator R)

namespace Pool

/--
The pool after an event; a request that is refused or reaches nobody changes
nothing.
-/
def after (pool : Pool R) : Event R → Pool R
  | .request id request =>
      match pool.get? id with
      | none => pool
      | some accumulator =>
          match accumulator.perform request with
          | .ok next => pool.set id next
          | .error _ => pool
  | .step registry readings holds step =>
      (registry.step readings holds step pool).1
  | .create accumulator => (pool.insert accumulator).1

/-- The pool after events in turn. -/
def afterAll (pool : Pool R) (events : List (Event R)) : Pool R :=
  events.foldl after pool

omit [Scalar R] [Exponential R] in
/-- A new accumulator takes the place of no other one. -/
theorem get?_insert
    {pool : Pool R}
    {id : AccumulatorId}
    {accumulator : Accumulator R}
    (present : pool.get? id = some accumulator)
    (created : Accumulator R) :
    (pool.insert created).1.get? id = some accumulator := by
  have bound : id.index < pool.members.size :=
    (Array.getElem?_eq_some_iff.mp present).1
  rw [get?] at present ⊢
  rw [insert, Array.getElem?_push_lt bound, ← present,
    Array.getElem?_eq_getElem bound]

/--
An event makes every accumulator carry out requests, if it concerns the
accumulator at all.
-/
theorem get?_after
    {pool : Pool R}
    {id : AccumulatorId}
    {accumulator : Accumulator R}
    (present : pool.get? id = some accumulator)
    (event : Event R) :
    ∃ next,
      (pool.after event).get? id = some next ∧ accumulator.Reaches next := by
  cases event with
  | create created =>
      exact ⟨accumulator, get?_insert present created, .refl accumulator⟩
  | step registry readings holds step =>
      exact Registry.get?_visitAll readings holds step _ present
  | request asked request =>
      by_cases different : id = asked
      · subst different
        cases performed : accumulator.perform request with
        | error refusal =>
            simp only [after, present, performed]
            exact ⟨accumulator, rfl, .refl accumulator⟩
        | ok next =>
            simp only [after, present, performed]
            exact ⟨next, get?_set_self pool next present,
              Accumulator.reaches_of_perform performed⟩
      · refine ⟨accumulator, ?_, .refl accumulator⟩
        rw [after]
        split
        · exact present
        · split
          · exact (get?_set_ne pool _ different).trans present
          · exact present

/--
Whatever happens in a pool, each of its accumulators goes through a run of
requests.
-/
theorem get?_afterAll
    {pool : Pool R}
    {id : AccumulatorId}
    {accumulator : Accumulator R}
    (present : pool.get? id = some accumulator)
    (events : List (Event R)) :
    ∃ next,
      (pool.afterAll events).get? id = some next ∧
      accumulator.Reaches next := by
  induction events generalizing pool accumulator with
  | nil => exact ⟨accumulator, present, .refl accumulator⟩
  | cons event rest hypothesis =>
      rcases get?_after present event with ⟨middle, there, start⟩
      rcases hypothesis there with ⟨next, found, later⟩
      exact ⟨next, found, start.trans later⟩

end Pool

end RunningStatistics
