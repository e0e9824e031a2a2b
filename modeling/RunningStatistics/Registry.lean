import RunningStatistics.Accumulator

/-!
# Registries of accumulators

A registry lists the accumulators that a simulation updates as it steps along.
The accumulators themselves live in a pool and are named by their position, so
an accumulator can be registered, read and fed at the same time.  No accumulator
stands twice in a registry.

During a step an accumulator may be held by someone else.  One that is held in
shared use can still be read, one that is held exclusively cannot.
-/

namespace RunningStatistics

/-- The name of an accumulator in a pool. -/
structure AccumulatorId where
  index : Nat
  deriving DecidableEq

/-- All accumulators of a simulation. -/
structure Pool (R : Type) where
  members : Array (Accumulator R)
  deriving DecidableEq

namespace Pool

variable {R : Type}

/-- No accumulators. -/
def empty : Pool R :=
  ⟨#[]⟩

/-- The accumulator of a name. -/
def get? (pool : Pool R) (id : AccumulatorId) : Option (Accumulator R) :=
  pool.members[id.index]?

/-- Replace an accumulator. -/
def set
    (pool : Pool R)
    (id : AccumulatorId)
    (accumulator : Accumulator R) :
    Pool R :=
  ⟨pool.members.setIfInBounds id.index accumulator⟩

/-- Add an accumulator under a new name. -/
def insert
    (pool : Pool R)
    (accumulator : Accumulator R) :
    Pool R × AccumulatorId :=
  (⟨pool.members.push accumulator⟩, ⟨pool.members.size⟩)

theorem get?_set_ne
    (pool : Pool R)
    {id other : AccumulatorId}
    (accumulator : Accumulator R)
    (different : other ≠ id) :
    (pool.set id accumulator).get? other = pool.get? other := by
  have apart : id.index ≠ other.index := by
    intro same
    exact different (by cases id; cases other; simp_all)
  simp [get?, set, apart]

theorem get?_set_self
    (pool : Pool R)
    {id : AccumulatorId}
    {old : Accumulator R}
    (accumulator : Accumulator R)
    (present : pool.get? id = some old) :
    (pool.set id accumulator).get? id = some accumulator := by
  have bound : id.index < pool.members.size := by
    rw [get?] at present
    exact (Array.getElem?_eq_some_iff.mp present).1
  simp [get?, set, bound]

end Pool

/-- How an accumulator is held by someone else during a step. -/
inductive Hold where
  | free
  | shared
  | exclusive
  deriving DecidableEq

/-- How every accumulator is held. -/
abbrev Holds :=
  AccumulatorId → Hold

/-- What a step did to one registered accumulator. -/
inductive Outcome where
  | skipped
  | updated
  | failed (cause : Rejection)
  deriving DecidableEq

namespace Outcome

/-- The cause of a failure. -/
def failure? : Outcome → Option Rejection
  | failed cause => some cause
  | _ => none

/-- The number of updates, or the first failure if there is one. -/
def summary (outcomes : List Outcome) : Except Rejection Nat :=
  match outcomes.findSome? failure? with
  | some cause => .error cause
  | none => .ok (outcomes.count updated)

@[simp]
theorem summary_skipped_cons (rest : List Outcome) :
    summary (skipped :: rest) = summary rest := by
  rw [summary, summary, List.findSome?_cons, List.count_cons]
  rfl

end Outcome

/--
The accumulators that are updated automatically, in order of registration.
-/
structure Registry where
  entries : List AccumulatorId
  nodup : entries.Nodup
  deriving DecidableEq

/-- When the next update of a registry is due. -/
inductive NextUpdate where
  | never
  | after (steps : Nat)
  /-- Unknown, because an accumulator is held exclusively and cannot be read. -/
  | unreadable
  deriving DecidableEq

namespace Registry

/-! ## Registration -/

/-- Nothing registered. -/
def empty : Registry :=
  ⟨[], List.nodup_nil⟩

/-- Whether an accumulator is registered. -/
def contains (registry : Registry) (id : AccumulatorId) : Bool :=
  registry.entries.contains id

/-- Register an accumulator that is not registered yet. -/
def add
    (registry : Registry)
    (id : AccumulatorId) :
    Except Rejection Registry :=
  if present : id ∈ registry.entries then
    .error .alreadyRegistered
  else
    .ok ⟨registry.entries ++ [id], by
      rw [List.nodup_append]
      refine ⟨registry.nodup, by simp, ?_⟩
      intro left member right last
      have := List.mem_singleton.mp last
      rintro rfl
      exact present (this ▸ member)⟩

/-- Take an accumulator off the registry. -/
def remove
    (registry : Registry)
    (id : AccumulatorId) :
    Except Rejection Registry :=
  if id ∈ registry.entries then
    .ok ⟨registry.entries.erase id, registry.nodup.erase id⟩
  else
    .error .notRegistered

/-- The number of registered accumulators. -/
def length (registry : Registry) : Nat :=
  registry.entries.length

/-- What was registered had not been there, and comes last. -/
theorem add_ok
    {registry next : Registry}
    {id : AccumulatorId}
    (accepted : registry.add id = .ok next) :
    id ∉ registry.entries ∧ next.entries = registry.entries ++ [id] := by
  rw [add] at accepted
  split at accepted
  next => cases accepted
  next absent =>
    cases accepted
    exact ⟨absent, rfl⟩

/--
What was removed had been registered, and the other entries stay in order.
-/
theorem remove_ok
    {registry next : Registry}
    {id : AccumulatorId}
    (accepted : registry.remove id = .ok next) :
    id ∈ registry.entries ∧ next.entries = registry.entries.erase id := by
  rw [remove] at accepted
  split at accepted
  next present =>
    cases accepted
    exact ⟨present, rfl⟩
  next => cases accepted

/-! ## Stepping -/

variable {R : Type} [Scalar R] [Exponential R]

/-- Update one registered accumulator if a sample is due and nobody holds it. -/
def visit
    (readings : Readings R)
    (holds : Holds)
    (step : Nat)
    (pool : Pool R)
    (id : AccumulatorId) :
    Pool R × Outcome :=
  match pool.get? id with
  | none => (pool, .skipped)
  | some accumulator =>
      match holds id with
      | .free =>
          if accumulator.sampling.isDue step then
            match accumulator.update readings with
            | .ok next => (pool.set id next, .updated)
            | .error cause => (pool, .failed cause)
          else
            (pool, .skipped)
      | .shared =>
          (pool,
            if accumulator.sampling.isDue step then
              .failed .inUse
            else
              .skipped)
      | .exclusive => (pool, .failed .inUse)

/-- Visit accumulators in order; a failure does not stop the others. -/
def visitAll
    (readings : Readings R)
    (holds : Holds)
    (step : Nat) :
    List AccumulatorId → Pool R → Pool R × List Outcome
  | [], pool => (pool, [])
  | id :: rest, pool =>
      let (pool, outcome) := visit readings holds step pool id
      let (pool, outcomes) := visitAll readings holds step rest pool
      (pool, outcome :: outcomes)

/-- Update every registered accumulator that is due at a step. -/
def step
    (registry : Registry)
    (readings : Readings R)
    (holds : Holds)
    (step : Nat)
    (pool : Pool R) :
    Pool R × Except Rejection Nat :=
  let (pool, outcomes) := visitAll readings holds step registry.entries pool
  (pool, Outcome.summary outcomes)

/--
The number of steps from a step to the next one at which some accumulator is
due.
-/
def nextUpdate
    (registry : Registry)
    (holds : Holds)
    (step : Nat)
    (pool : Pool R) : NextUpdate :=
  if registry.entries.any fun id => holds id == .exclusive then
    .unreadable
  else
    let waits := registry.entries.filterMap fun id =>
      (pool.get? id).map fun accumulator =>
        accumulator.sampling.stepsUntilDue step
    match waits.min? with
    | some steps => .after steps
    | none => .never

/-- A visit changes no accumulator but the one visited. -/
theorem get?_visit_ne
    (readings : Readings R)
    (holds : Holds)
    (step : Nat)
    (pool : Pool R)
    {id other : AccumulatorId}
    (different : other ≠ id) :
    (visit readings holds step pool id).1.get? other = pool.get? other := by
  rw [visit]
  split
  · rfl
  · split
    · split
      · split
        · exact pool.get?_set_ne _ different
        · rfl
      · rfl
    · rfl
    · rfl

theorem get?_visitAll_of_not_mem
    (readings : Readings R)
    (holds : Holds)
    (step : Nat)
    {ids : List AccumulatorId}
    {other : AccumulatorId}
    (absent : other ∉ ids)
    (pool : Pool R) :
    (visitAll readings holds step ids pool).1.get? other = pool.get? other := by
  induction ids generalizing pool with
  | nil => rfl
  | cons id rest hypothesis =>
      rw [List.mem_cons, not_or] at absent
      rw [visitAll, hypothesis absent.2]
      exact get?_visit_ne readings holds step pool absent.1

end Registry

end RunningStatistics
