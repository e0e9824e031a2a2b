import RunningStatistics.Proofs.Deliveries
import RunningStatistics.Session

/-!
# One pass of a registry

The entries of a registry are the accumulators that are registered now, in the
order in which they were registered.  Requests that are refused leave no trace.

At a step the registry visits its entries one after the other.  `Visit` lists
everything that can come of a visit: it depends on how the accumulator is held,
on whether a sample is due, and on whether the accumulator accepts its update,
but not on what came of the other visits.

What becomes of an entry is what comes of a visit to the pool as it was.  The
reply is the failure of the entry that was registered first among those that
fail, or else the number of entries that were free and due, each of which was
updated.
-/

namespace RunningStatistics

/-! ## Registration -/

/-- What can be asked of a registry about its entries. -/
inductive Enrolment where
  | register (id : AccumulatorId)
  | unregister (id : AccumulatorId)
  | unregisterAll
  deriving DecidableEq

/--
Since which position an accumulator is registered, after one more request and
its position.
-/
def Enrolment.settle
    (id : AccumulatorId)
    (since : Option Nat) :
    Enrolment × Nat → Option Nat
  | (register asked, position) =>
      if asked = id then some (since.getD position) else since
  | (unregister asked, _) => if asked = id then none else since
  | (unregisterAll, _) => none

/--
The position, among requests, of the one since which an accumulator is
registered.
-/
def registeredSince?
    (requests : List Enrolment)
    (id : AccumulatorId) :
    Option Nat :=
  requests.zipIdx.foldl (Enrolment.settle id) none

theorem registeredSince?_concat
    (requests : List Enrolment)
    (request : Enrolment)
    (id : AccumulatorId) :
    registeredSince? (requests ++ [request]) id =
      Enrolment.settle id (registeredSince? requests id)
        (request, requests.length) := by
  simp [registeredSince?, List.zipIdx_append]

namespace Registry

/-- Carry out a request. -/
def enrol (registry : Registry) : Enrolment → Except Rejection Registry
  | .register id => registry.add id
  | .unregister id => registry.remove id
  | .unregisterAll => .ok empty

/-- The registry after a request; one that is refused changes nothing. -/
def after (registry : Registry) (request : Enrolment) : Registry :=
  match registry.enrol request with
  | .ok next => next
  | .error _ => registry

/-- The registry after requests in turn, refused or not. -/
def afterAll (registry : Registry) (requests : List Enrolment) : Registry :=
  requests.foldl after registry

/--
The entries are the accumulators that the requests so far left registered, in
their order.
-/
structure Reflects
    (registry : Registry)
    (requests : List Enrolment) : Prop where
  mem_iff :
    ∀ id,
      id ∈ registry.entries ↔
        ∃ position, registeredSince? requests id = some position
  ordered : registry.entries.Pairwise fun earlier later =>
    ∃ first second, registeredSince? requests earlier = some first ∧
      registeredSince? requests later = some second ∧ first < second
  /-- A position is that of one of the requests. -/
  within : ∀ id position, registeredSince? requests id = some position →
    position < requests.length

theorem reflects_empty : empty.Reflects [] where
  mem_iff := by
    intro id
    simp [empty, registeredSince?]
  ordered := List.Pairwise.nil
  within := by
    intro id position since
    cases since

/-- Nothing changes by a request that changes nobody's registration. -/
theorem Reflects.concat_of_idle
    {registry : Registry}
    {requests : List Enrolment}
    {request : Enrolment}
    (reflects : registry.Reflects requests)
    (idle :
      ∀ id,
        registeredSince? (requests ++ [request]) id =
          registeredSince? requests id) :
    registry.Reflects (requests ++ [request]) where
  mem_iff := by
    intro id
    rw [idle]
    exact reflects.mem_iff id
  ordered := by
    simp only [idle]
    exact reflects.ordered
  within := by
    intro id position since
    rw [idle] at since
    rw [List.length_append]
    exact Nat.lt_of_lt_of_le (reflects.within id position since)
      (Nat.le_add_right _ _)

theorem Reflects.since_eq_none
    {registry : Registry}
    {requests : List Enrolment}
    (reflects : registry.Reflects requests)
    {id : AccumulatorId}
    (absent : id ∉ registry.entries) :
    registeredSince? requests id = none := by
  rw [reflects.mem_iff, not_exists] at absent
  exact Option.eq_none_iff_forall_ne_some.mpr absent

theorem Reflects.register
    {registry next : Registry}
    {requests : List Enrolment}
    {asked : AccumulatorId}
    (reflects : registry.Reflects requests)
    (accepted : registry.add asked = .ok next) :
    next.Reflects (requests ++ [.register asked]) := by
  rcases add_ok accepted with ⟨absent, entries⟩
  have newest : registeredSince? (requests ++ [.register asked]) asked =
      some requests.length := by
    simp [registeredSince?_concat, Enrolment.settle,
      reflects.since_eq_none absent]
  have others :
      ∀ id,
        id ≠ asked →
        registeredSince? (requests ++ [.register asked]) id =
          registeredSince? requests id := by
    intro id different
    simp [registeredSince?_concat, Enrolment.settle, different.symm]
  have kept : ∀ id ∈ registry.entries, id ≠ asked := by
    rintro id member rfl
    exact absent member
  constructor
  · intro id
    rw [entries, List.mem_append, List.mem_singleton]
    by_cases same : id = asked
    · subst same
      simp [newest]
    · rw [others id same, ← reflects.mem_iff]
      simp [same]
  · rw [entries, List.pairwise_append]
    refine ⟨?_, List.pairwise_singleton _ _, ?_⟩
    · apply reflects.ordered.imp_of_mem
      intro earlier later memberEarlier memberLater ordered
      rw [others earlier (kept earlier memberEarlier),
        others later (kept later memberLater)]
      exact ordered
    · intro earlier member later last
      cases List.mem_singleton.mp last
      rcases (reflects.mem_iff earlier).mp member with ⟨first, since⟩
      refine ⟨first, requests.length, ?_, newest,
        reflects.within earlier first since⟩
      rw [others earlier (kept earlier member)]
      exact since
  · intro id position since
    rw [List.length_append, List.length_singleton]
    by_cases same : id = asked
    · subst same
      rw [newest] at since
      cases since
      exact Nat.lt_succ_self _
    · rw [others id same] at since
      exact Nat.lt_succ_of_lt (reflects.within id position since)

theorem Reflects.unregister
    {registry next : Registry}
    {requests : List Enrolment}
    {asked : AccumulatorId}
    (reflects : registry.Reflects requests)
    (accepted : registry.remove asked = .ok next) :
    next.Reflects (requests ++ [.unregister asked]) := by
  rcases remove_ok accepted with ⟨_, entries⟩
  have gone :
      registeredSince? (requests ++ [.unregister asked]) asked = none := by
    simp [registeredSince?_concat, Enrolment.settle]
  have others :
      ∀ id,
        id ≠ asked →
        registeredSince? (requests ++ [.unregister asked]) id =
          registeredSince? requests id := by
    intro id different
    simp [registeredSince?_concat, Enrolment.settle, different.symm]
  have member_iff :
      ∀ id, id ∈ next.entries ↔ id ≠ asked ∧ id ∈ registry.entries := by
    intro id
    rw [entries]
    exact registry.nodup.mem_erase_iff
  constructor
  · intro id
    rw [member_iff]
    by_cases same : id = asked
    · subst same
      simp [gone]
    · rw [others id same, ← reflects.mem_iff]
      simp [same]
  · have remaining : next.entries.Sublist registry.entries := by
      rw [entries]
      exact List.erase_sublist
    apply (reflects.ordered.sublist remaining).imp_of_mem
    intro earlier later memberEarlier memberLater ordered
    rw [others earlier ((member_iff earlier).mp memberEarlier).1,
      others later ((member_iff later).mp memberLater).1]
    exact ordered
  · intro id position since
    rw [List.length_append, List.length_singleton]
    by_cases same : id = asked
    · subst same
      rw [gone] at since
      cases since
    · rw [others id same] at since
      exact Nat.lt_succ_of_lt (reflects.within id position since)

/-- One request, carried out or refused. -/
theorem Reflects.after
    {registry : Registry}
    {requests : List Enrolment}
    (reflects : registry.Reflects requests)
    (request : Enrolment) :
    (registry.after request).Reflects (requests ++ [request]) := by
  rw [Registry.after]
  cases request with
  | register asked =>
      rw [enrol]
      cases outcome : registry.add asked with
      | ok next => exact reflects.register outcome
      | error cause =>
          apply reflects.concat_of_idle
          intro id
          have member : asked ∈ registry.entries := by
            rw [add] at outcome
            split at outcome
            next present => exact present
            next => cases outcome
          rcases (reflects.mem_iff asked).mp member with ⟨position, since⟩
          rw [registeredSince?_concat, Enrolment.settle]
          split
          next same =>
            subst same
            simp [since]
          next => rfl
  | unregister asked =>
      rw [enrol]
      cases outcome : registry.remove asked with
      | ok next => exact reflects.unregister outcome
      | error cause =>
          apply reflects.concat_of_idle
          intro id
          have absent : asked ∉ registry.entries := by
            rw [remove] at outcome
            split at outcome
            next => cases outcome
            next absent => exact absent
          rw [registeredSince?_concat, Enrolment.settle]
          split
          next same =>
            subst same
            exact (reflects.since_eq_none absent).symm
          next => rfl
  | unregisterAll =>
      have gone :
          ∀ id, registeredSince? (requests ++ [.unregisterAll]) id = none := by
        intro id
        rw [registeredSince?_concat, Enrolment.settle]
      constructor
      · intro id
        simp [enrol, empty, gone]
      · exact List.Pairwise.nil
      · intro id position since
        rw [gone] at since
        cases since

theorem Reflects.afterAll
    {registry : Registry}
    {earlier : List Enrolment}
    (reflects : registry.Reflects earlier)
    (requests : List Enrolment) :
    (registry.afterAll requests).Reflects (earlier ++ requests) := by
  induction requests generalizing registry earlier with
  | nil =>
      rw [List.append_nil]
      exact reflects
  | cons request rest hypothesis =>
      have later := hypothesis (reflects.after request)
      rw [List.append_assoc] at later
      exact later

/--
The entries after any requests are those that the requests left registered, in
their order.
-/
theorem reflects_afterAll (requests : List Enrolment) :
    (empty.afterAll requests).Reflects requests :=
  reflects_empty.afterAll requests

end Registry

/-! ## Outcomes -/

namespace Outcome

theorem summary_eq_error_iff
    {outcomes : List Outcome}
    {cause : Rejection} :
    summary outcomes = .error cause ↔
      outcomes.findSome? failure? = some cause := by
  rw [summary]
  split
  next reason found => simp [found]
  next none => simp [none]

theorem summary_eq_ok_iff
    {outcomes : List Outcome}
    {count : Nat} :
    summary outcomes = .ok count ↔
      outcomes.findSome? failure? = none ∧ count = outcomes.count updated := by
  rw [summary]
  split
  next reason found => simp [found]
  next none => simp [none, eq_comm]

end Outcome

/-! ## Visits -/

variable {R : Type} [Scalar R] [Exponential R]

/--
What comes of a visit to an accumulator at a step: how it is held, the outcome,
and the accumulator afterwards.
-/
inductive Visit
    (readings : Readings R)
    (step : Nat)
    (accumulator : Accumulator R) :
    Hold → Outcome → Accumulator R → Prop where
  | updated {next : Accumulator R}
      (due : accumulator.sampling.isDue step = true)
      (accepted : accumulator.update readings = .ok next) :
      Visit readings step accumulator .free .updated next
  | refused {cause : Rejection}
      (due : accumulator.sampling.isDue step = true)
      (refused : accumulator.update readings = .error cause) :
      Visit readings step accumulator .free (.failed cause) accumulator
  /-- An accumulator that can be read and is not due is left alone. -/
  | idle {hold : Hold}
      (readable : hold ≠ .exclusive)
      (early : accumulator.sampling.isDue step = false) :
      Visit readings step accumulator hold .skipped accumulator
  | shared
      (due : accumulator.sampling.isDue step = true) :
      Visit readings step accumulator .shared (.failed .inUse) accumulator
  /-- Whether it is due cannot be seen. -/
  | exclusive :
      Visit readings step accumulator .exclusive (.failed .inUse) accumulator

/--
What comes of a visit is settled by the accumulator and by how it is held.
-/
theorem Visit.unique
    {readings : Readings R}
    {step : Nat}
    {accumulator next other : Accumulator R}
    {hold : Hold}
    {outcome outcome' : Outcome}
    (first : Visit readings step accumulator hold outcome next)
    (second : Visit readings step accumulator hold outcome' other) :
    outcome = outcome' ∧ next = other := by
  cases first with
  | updated due accepted =>
      cases second with
      | updated _ accepted' =>
          cases accepted.symm.trans accepted'
          exact ⟨rfl, rfl⟩
      | refused _ refused' => cases accepted.symm.trans refused'
      | idle _ early => cases due.symm.trans early
  | refused due refused =>
      cases second with
      | updated _ accepted' => cases refused.symm.trans accepted'
      | refused _ refused' =>
          cases refused.symm.trans refused'
          exact ⟨rfl, rfl⟩
      | idle _ early => cases due.symm.trans early
  | idle readable early =>
      cases second with
      | updated due _ => cases due.symm.trans early
      | refused due _ => cases due.symm.trans early
      | idle _ _ => exact ⟨rfl, rfl⟩
      | shared due => cases due.symm.trans early
      | exclusive => exact absurd rfl readable
  | shared due =>
      cases second with
      | idle _ early => cases due.symm.trans early
      | shared _ => exact ⟨rfl, rfl⟩
  | exclusive =>
      cases second with
      | idle readable _ => exact absurd rfl readable
      | exclusive => exact ⟨rfl, rfl⟩

namespace Registry

section Passes

variable (readings : Readings R) (holds : Holds) (step : Nat)

theorem visit_cases
    {pool : Pool R}
    {id : AccumulatorId}
    {accumulator : Accumulator R}
    (present : pool.get? id = some accumulator) :
    ∃ next,
      Visit readings step accumulator (holds id)
        (visit readings holds step pool id).2 next ∧
      (visit readings holds step pool id).1.get? id = some next := by
  simp only [visit, present]
  cases holds id with
  | free =>
      cases due : accumulator.sampling.isDue step with
      | false => exact ⟨accumulator, .idle (by decide) due, present⟩
      | true =>
          cases outcome : accumulator.update readings with
          | ok next =>
              exact ⟨next, .updated due outcome,
                Pool.get?_set_self pool next present⟩
          | error cause => exact ⟨accumulator, .refused due outcome, present⟩
  | shared =>
      cases due : accumulator.sampling.isDue step with
      | false => exact ⟨accumulator, .idle (by decide) due, present⟩
      | true => exact ⟨accumulator, .shared due, present⟩
  | exclusive => exact ⟨accumulator, .exclusive, present⟩

/--
What comes of a visit depends on nothing in the pool but the accumulator
visited.
-/
theorem visit_congr
    {pool other : Pool R}
    {id : AccumulatorId}
    (same : other.get? id = pool.get? id) :
    (visit readings holds step other id).2 =
      (visit readings holds step pool id).2 ∧
    (visit readings holds step other id).1.get? id =
      (visit readings holds step pool id).1.get? id := by
  cases present : pool.get? id with
  | none =>
      rw [present] at same
      simp [visit, present, same]
  | some accumulator =>
      rw [present] at same
      rcases visit_cases readings holds step present with
        ⟨next, visited, found⟩
      rcases visit_cases readings holds step same with
        ⟨next', visited', found'⟩
      rcases visited'.unique visited with ⟨outcome, rfl⟩
      exact ⟨outcome, found'.trans found.symm⟩

theorem visitAll_cons
    (first : AccumulatorId)
    (rest : List AccumulatorId)
    (pool : Pool R) :
    visitAll readings holds step (first :: rest) pool =
      ((visitAll readings holds step rest
         (visit readings holds step pool first).1).1,
        (visit readings holds step pool first).2 ::
          (visitAll readings holds step rest
            (visit readings holds step pool first).1).2) :=
  rfl

/--
A pass visits every entry once: each outcome, and what becomes of each entry, is
that of a visit to the pool as it was before the pass.
-/
theorem visitAll_eq
    {ids : List AccumulatorId}
    (nodup : ids.Nodup)
    (pool : Pool R) :
    (visitAll readings holds step ids pool).2 =
      ids.map (fun id => (visit readings holds step pool id).2) ∧
    ∀ id ∈ ids,
      (visitAll readings holds step ids pool).1.get? id =
        (visit readings holds step pool id).1.get? id := by
  induction ids generalizing pool with
  | nil => exact ⟨rfl, nofun⟩
  | cons first rest hypothesis =>
      rcases List.nodup_cons.mp nodup with ⟨apart, nodup⟩
      rcases hypothesis nodup (visit readings holds step pool first).1 with
        ⟨outcomes, found⟩
      have untouched : ∀ id ∈ rest,
          (visit readings holds step pool first).1.get? id = pool.get? id := by
        intro id member
        apply get?_visit_ne
        rintro rfl
        exact apart member
      constructor
      · rw [visitAll_cons, List.map_cons, outcomes]
        apply congrArg ((visit readings holds step pool first).2 :: ·)
        apply List.map_congr_left
        intro id member
        exact (visit_congr readings holds step (untouched id member)).1
      · intro id member
        rw [visitAll_cons]
        rcases List.mem_cons.mp member with rfl | later
        · exact get?_visitAll_of_not_mem readings holds step apart _
        · exact (found id later).trans
            (visit_congr readings holds step (untouched id later)).2

end Passes

/-! ## Failures -/

variable {readings : Readings R} {holds : Holds} {step : Nat}

/-- The visit to an accumulator of a pool fails for a cause. -/
def Fails
    (readings : Readings R)
    (holds : Holds)
    (step : Nat)
    (pool : Pool R)
    (id : AccumulatorId)
    (cause : Rejection) : Prop :=
  ∃ accumulator next, pool.get? id = some accumulator ∧
    Visit readings step accumulator (holds id) (.failed cause) next

theorem fails_iff
    {pool : Pool R}
    {id : AccumulatorId}
    {cause : Rejection} :
    Fails readings holds step pool id cause ↔
      (visit readings holds step pool id).2.failure? = some cause := by
  constructor
  · rintro ⟨accumulator, next, present, failed⟩
    rcases visit_cases readings holds step present with
      ⟨next', visited, _⟩
    rw [(visited.unique failed).1]
    rfl
  · intro failure
    cases present : pool.get? id with
    | none =>
        simp only [visit, present] at failure
        cases failure
    | some accumulator =>
        rcases visit_cases readings holds step present with
          ⟨next, visited, _⟩
        cases outcome : (visit readings holds step pool id).2 with
        | failed reason =>
            rw [outcome] at failure visited
            cases failure
            exact ⟨accumulator, next, present, visited⟩
        | skipped =>
            rw [outcome] at failure
            cases failure
        | updated =>
            rw [outcome] at failure
            cases failure

theorem failure?_eq_none_iff
    {pool : Pool R}
    {id : AccumulatorId} :
    (visit readings holds step pool id).2.failure? = none ↔
      ∀ cause, ¬Fails readings holds step pool id cause := by
  simp only [fails_iff]
  exact Option.eq_none_iff_forall_ne_some

/-- Whether nobody holds an accumulator and a sample is due. -/
def isFreeAndDue
    (holds : Holds)
    (step : Nat)
    (pool : Pool R)
    (id : AccumulatorId) : Bool :=
  holds id == .free && (pool.get? id).any (·.sampling.isDue step)

/-- Unless it fails, a visit updates an accumulator if it is free and due. -/
theorem outcome_eq_updated_iff
    {pool : Pool R}
    {id : AccumulatorId}
    (succeeds : ∀ cause, ¬Fails readings holds step pool id cause) :
    (visit readings holds step pool id).2 = .updated ↔
      isFreeAndDue holds step pool id = true := by
  rw [isFreeAndDue]
  cases present : pool.get? id with
  | none => simp [visit, present]
  | some accumulator =>
      rcases visit_cases readings holds step present with
        ⟨next, visited, _⟩
      have failure :
          ∀ cause, (visit readings holds step pool id).2 ≠ .failed cause := by
        intro cause outcome
        apply succeeds cause
        rw [fails_iff, outcome]
        rfl
      generalize (visit readings holds step pool id).2 = outcome
        at visited failure
      generalize holds id = hold at visited
      cases visited with
      | updated due accepted => simp [due]
      | refused due refused => exact absurd rfl (failure _)
      | idle readable early => simp [early]
      | shared due => exact absurd rfl (failure _)
      | exclusive => exact absurd rfl (failure _)

/-- The reply of a pass sums up the visits to the pool as it was. -/
theorem reply_eq_summary
    (registry : Registry)
    (pool : Pool R) :
    (registry.step readings holds step pool).2 =
      Outcome.summary
        (registry.entries.map fun id =>
          (visit readings holds step pool id).2) :=
  congrArg Outcome.summary
    (visitAll_eq readings holds step registry.nodup pool).1

/--
A pass reports the failure of the entry that was registered first among those
that fail.
-/
theorem reply_eq_error_iff
    {registry : Registry}
    {pool : Pool R}
    {cause : Rejection} :
    (registry.step readings holds step pool).2 = .error cause ↔
      ∃ earlier id later,
        registry.entries = earlier ++ id :: later ∧
        Fails readings holds step pool id cause ∧
        ∀ other ∈ earlier,
          ∀ reason, ¬Fails readings holds step pool other reason := by
  rw [reply_eq_summary, Outcome.summary_eq_error_iff, List.findSome?_map,
    List.findSome?_eq_some_iff]
  simp only [fails_iff, Function.comp_apply, Option.eq_none_iff_forall_ne_some]

/-- If no entry fails, a pass reports the number of entries that it updated. -/
theorem reply_eq_ok_iff
    {registry : Registry}
    {pool : Pool R}
    {count : Nat} :
    (registry.step readings holds step pool).2 = .ok count ↔
      (∀ id ∈ registry.entries,
        ∀ cause, ¬Fails readings holds step pool id cause) ∧
      count = registry.entries.countP (isFreeAndDue holds step pool) := by
  rw [reply_eq_summary, Outcome.summary_eq_ok_iff, List.findSome?_eq_none_iff,
    List.forall_mem_map]
  simp only [failure?_eq_none_iff]
  apply and_congr_right
  intro succeeds
  have updated :
      (registry.entries.map fun id =>
        (visit readings holds step pool id).2).count .updated =
        registry.entries.countP (isFreeAndDue holds step pool) := by
    rw [List.count, List.countP_map]
    apply List.countP_congr
    intro id member
    rw [Function.comp_apply, beq_iff_eq]
    exact outcome_eq_updated_iff (succeeds id member)
  rw [updated]

/-! ## The pass -/

/-- A step of a session changes none of its registries. -/
theorem registries_execute_step
    (session : Session R)
    (name : String)
    (step : Nat)
    (held : List (String × Hold)) :
    (session.execute (.step name step held)).1.registries =
      session.registries := by
  rw [Session.execute, Session.attempt]
  cases Session.resolve session.registries name with
  | error failure => rfl
  | ok registry =>
      cases session.holds held with
      | error failure => rfl
      | ok holds => rfl

/--
A step visits each accumulator that the requests so far left registered once,
and no other one; it replies with the failure of the first entry that fails, or
with the number of updates, and leaves the registries as they are.
-/
theorem pass_visits_each_entry
    (requests : List Enrolment)
    (readings : Readings R)
    (holds : Holds)
    (step : Nat)
    (pool : Pool R) :
    let registry := empty.afterAll requests
    let passed := (registry.step readings holds step pool).1
    let reply := (registry.step readings holds step pool).2
    registry.entries.Nodup ∧
    (∀ id,
      id ∈ registry.entries ↔
        ∃ position, registeredSince? requests id = some position) ∧
    (registry.entries.Pairwise fun earlier later =>
      ∃ first second,
        registeredSince? requests earlier = some first ∧
        registeredSince? requests later = some second ∧
        first < second) ∧
    (∀ id ∈ registry.entries,
      ∀ accumulator,
        pool.get? id = some accumulator →
        ∃ outcome next,
          Visit readings step accumulator (holds id) outcome next ∧
          passed.get? id = some next) ∧
    (∀ id, id ∉ registry.entries → passed.get? id = pool.get? id) ∧
    (∀ cause,
      reply = .error cause ↔
        ∃ earlier id later,
          registry.entries = earlier ++ id :: later ∧
          Fails readings holds step pool id cause ∧
          ∀ other ∈ earlier,
            ∀ reason, ¬Fails readings holds step pool other reason) ∧
    (∀ count,
      reply = .ok count ↔
        (∀ id ∈ registry.entries,
          ∀ cause, ¬Fails readings holds step pool id cause) ∧
        count = registry.entries.countP (isFreeAndDue holds step pool)) ∧
    ∀ (session : Session R) (name : String) (held : List (String × Hold)),
      (session.execute (.step name step held)).1.registries =
        session.registries := by
  intro registry passed reply
  have reflects := reflects_afterAll requests
  have visits := (visitAll_eq readings holds step registry.nodup pool).2
  refine ⟨registry.nodup, reflects.mem_iff, reflects.ordered, ?_, ?_,
    fun _ => reply_eq_error_iff, fun _ => reply_eq_ok_iff,
    fun session name held => registries_execute_step session name step held⟩
  · intro id member accumulator present
    rcases visit_cases readings holds step present with
      ⟨next, visited, found⟩
    exact ⟨_, next, visited, (visits id member).trans found⟩
  · intro id absent
    exact get?_visitAll_of_not_mem readings holds step absent pool

/--
The first of three records gets nothing from its source, the second one is held:
the third one is updated all the same.  A record that is not registered stays as
it is.
-/
example :
    let records :=
      [0, 1, 1, 1].mapM fun source =>
        (Accumulator.series ⟨⟨source⟩, [1]⟩ 2 :
          Except Rejection (Accumulator Float))
    let registry := empty.afterAll [.register ⟨0⟩, .register ⟨1⟩, .register ⟨2⟩]
    let readings : Readings Float :=
      fun source => List.replicate source.index Scalar.zero
    let holds : Holds := fun id => if id = ⟨1⟩ then .shared else .free
    (records.map fun members =>
      let passed := registry.step readings holds 4 ⟨members.toArray⟩
      (passed.1.members.toList.map Accumulator.updates, passed.2)) =
      .ok ([0, 0, 1, 0], .error (.shapeMismatch 1 0)) := by
  decide +kernel

end Registry

end RunningStatistics
