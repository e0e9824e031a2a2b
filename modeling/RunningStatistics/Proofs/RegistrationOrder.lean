import RunningStatistics.Proofs.RegistryPasses

/-!
# The order of registration

Two registries in which the same accumulators are registered differ at most in
the order of their entries.  A visit depends on nothing in the pool but the
accumulator visited, so two such registries do the same to a pool, pass after
pass: the accumulators, the number of updates and the wait for the next update
are those of the other registry.

What the order settles is which of several failures is reported.  The failures
themselves are the same.

The calls made of the two registries are the same: the same steps, deliveries of
the sources and holds.  A pass of one succeeds if and only if that of the other
one does, with the same number of updates.  If it fails, the same entries fail
for the same causes, and each registry reports the failure that comes first in
its own order.
-/

namespace RunningStatistics

variable {R : Type} [Scalar R] [Exponential R]

/-! ## Pools -/

omit [Scalar R] [Exponential R] in
/-- A pool is settled by the accumulators of all names. -/
theorem Pool.eq_of_get?
    {pool other : Pool R}
    (same : ∀ id, pool.get? id = other.get? id) :
    pool = other := by
  rcases pool with ⟨members⟩
  rcases other with ⟨others⟩
  congr 1
  apply Array.ext_getElem?
  intro index
  exact same ⟨index⟩

/-! ## Runs of passes -/

/--
A call of a registry: the step, what the sources deliver then, and how
everything is held.
-/
structure Pass (R : Type) where
  readings : Readings R
  holds : Holds
  step : Nat

namespace Registry

/-- The pool after a pass, and the reply. -/
def pass
    (registry : Registry)
    (call : Pass R)
    (pool : Pool R) :
    Pool R × Except Rejection Nat :=
  registry.step call.readings call.holds call.step pool

/-- The pool after passes in turn, whatever they reply. -/
def passAll
    (registry : Registry)
    (calls : List (Pass R))
    (pool : Pool R) :
    Pool R :=
  calls.foldl (fun pool call => (registry.pass call pool).1) pool

/--
The entries that fail at a pass, with the causes, in the order in which they are
visited.
-/
def failures
    (registry : Registry)
    (call : Pass R)
    (pool : Pool R) :
    List (AccumulatorId × Rejection) :=
  (registry.entries.zip
      (visitAll call.readings call.holds call.step
        registry.entries pool).2).filterMap
    fun visited => visited.2.failure?.map (visited.1, ·)

/-- The registry in which accumulators were registered one after the other. -/
def ofOrder (ids : List AccumulatorId) : Registry :=
  empty.afterAll (ids.map .register)

omit [Scalar R] [Exponential R] in
theorem mem_entries_after_register
    (registry : Registry)
    (asked id : AccumulatorId) :
    id ∈ (registry.after (.register asked)).entries ↔
      id ∈ registry.entries ∨ id = asked := by
  rw [after, enrol]
  cases outcome : registry.add asked with
  | ok next =>
      rw [(add_ok outcome).2, List.mem_append, List.mem_singleton]
  | error cause =>
      have present : asked ∈ registry.entries := by
        rw [add] at outcome
        split at outcome
        next present => exact present
        next => cases outcome
      constructor
      · exact .inl
      · rintro (member | rfl)
        · exact member
        · exact present

/--
Registered are the accumulators that were asked for; asking twice adds nothing.
-/
theorem mem_entries_ofOrder
    {ids : List AccumulatorId}
    {id : AccumulatorId} :
    id ∈ (ofOrder ids).entries ↔ id ∈ ids := by
  have registered :
      ∀ registry : Registry,
        id ∈ (registry.afterAll (ids.map .register)).entries ↔
          id ∈ registry.entries ∨ id ∈ ids := by
    induction ids with
    | nil => simp [afterAll]
    | cons asked rest hypothesis =>
        intro registry
        rw [List.map_cons, afterAll, List.foldl_cons, ← afterAll, hypothesis,
          mem_entries_after_register, List.mem_cons, or_assoc]
  rw [ofOrder, registered]
  simp [empty]

/-! ## Registries with the same entries -/

/-- The same accumulators are registered, in whatever order. -/
def SameEntries (registry other : Registry) : Prop :=
  registry.entries.Perm other.entries

theorem sameEntries_ofOrder
    {first second : List AccumulatorId}
    (same : ∀ id, id ∈ first ↔ id ∈ second) :
    (ofOrder first).SameEntries (ofOrder second) := by
  apply (List.perm_ext_iff_of_nodup (ofOrder first).nodup
      (ofOrder second).nodup).mpr
  intro id
  rw [mem_entries_ofOrder, mem_entries_ofOrder]
  exact same id

variable {registry other : Registry}

/-- A pass leads to the same pool. -/
theorem SameEntries.pool_pass
    (same : registry.SameEntries other)
    (call : Pass R)
    (pool : Pool R) :
    (registry.pass call pool).1 = (other.pass call pool).1 := by
  apply Pool.eq_of_get?
  intro id
  show
    (visitAll call.readings call.holds call.step registry.entries pool).1.get?
        id =
      (visitAll call.readings call.holds call.step other.entries pool).1.get? id
  by_cases member : id ∈ registry.entries
  · have visited :=
      (visitAll_eq call.readings call.holds call.step registry.nodup pool).2
    have visited' :=
      (visitAll_eq call.readings call.holds call.step other.nodup pool).2
    rw [visited id member, visited' id (same.mem_iff.mp member)]
  · have absent : id ∉ other.entries :=
      fun among => member (same.mem_iff.mpr among)
    rw [get?_visitAll_of_not_mem _ _ _ member,
      get?_visitAll_of_not_mem _ _ _ absent]

/-- Passes in turn lead to the same pool. -/
theorem SameEntries.passAll
    (same : registry.SameEntries other)
    (calls : List (Pass R))
    (pool : Pool R) :
    registry.passAll calls pool = other.passAll calls pool := by
  induction calls generalizing pool with
  | nil => rfl
  | cons call rest hypothesis =>
      rw [Registry.passAll, Registry.passAll, List.foldl_cons, List.foldl_cons,
        same.pool_pass call pool]
      exact hypothesis _

/-- If nothing fails, the same number of updates is reported. -/
theorem SameEntries.reply_eq_ok_iff
    (same : registry.SameEntries other)
    {call : Pass R}
    {pool : Pool R}
    {count : Nat} :
    (registry.pass call pool).2 = .ok count ↔
      (other.pass call pool).2 = .ok count := by
  rw [pass, pass, Registry.reply_eq_ok_iff, Registry.reply_eq_ok_iff,
    same.countP_eq]
  simp only [same.mem_iff]

/-- The least of some numbers does not depend on their order. -/
theorem min?_eq_of_perm
    {numbers others : List Nat}
    (same : numbers.Perm others) :
    numbers.min? = others.min? := by
  apply Option.ext
  intro least
  rw [List.min?_eq_some_iff, List.min?_eq_some_iff]
  simp only [same.mem_iff]

omit [Scalar R] [Exponential R] in
/-- The wait for the next update is the same. -/
theorem SameEntries.nextUpdate
    (same : registry.SameEntries other)
    (holds : Holds)
    (step : Nat)
    (pool : Pool R) :
    registry.nextUpdate holds step pool = other.nextUpdate holds step pool := by
  have waits :=
    List.Perm.filterMap
      (fun id =>
        (pool.get? id).map fun accumulator =>
          accumulator.sampling.stepsUntilDue step) same
  rw [Registry.nextUpdate, Registry.nextUpdate, same.any_eq]
  simp only [min?_eq_of_perm waits]

/-! ## Failures -/

/-- The failures of a pass are those of the visits to the pool as it was. -/
theorem failures_eq
    (registry : Registry)
    (call : Pass R)
    (pool : Pool R) :
    registry.failures call pool =
      registry.entries.filterMap fun id =>
        (visit call.readings call.holds call.step pool id).2.failure?.map
          (id, ·) := by
  rw [failures,
    (visitAll_eq call.readings call.holds call.step registry.nodup pool).1,
    ← List.map_prod_left_eq_zip, List.filterMap_map]
  rfl

/-- The failures of a pass are the same up to their order. -/
theorem SameEntries.failures
    (same : registry.SameEntries other)
    (call : Pass R)
    (pool : Pool R) :
    (registry.failures call pool).Perm (other.failures call pool) := by
  rw [failures_eq, failures_eq]
  exact List.Perm.filterMap _ same

/-- A pass reports the first of its failures. -/
theorem reply_eq_error_iff_head
    {call : Pass R}
    {pool : Pool R}
    {cause : Rejection} :
    (registry.pass call pool).2 = .error cause ↔
      ∃ id, (registry.failures call pool).head? = some (id, cause) := by
  have causes : (registry.failures call pool).head?.map Prod.snd =
      registry.entries.findSome? fun id =>
        (visit call.readings call.holds call.step pool id).2.failure? := by
    rw [failures_eq, List.head?_filterMap, List.map_findSome?]
    congr 1
    funext id
    rw [Function.comp_apply, Option.map_map]
    exact Option.map_id'
  rw [pass, reply_eq_summary, Outcome.summary_eq_error_iff, List.findSome?_map]
  show registry.entries.findSome? _ = _ ↔ _
  rw [Function.comp_def, ← causes, Option.map_eq_some_iff]
  simp only [Prod.exists, exists_eq_right]

/-! ## Two orders of registration -/

/--
Two registries of the same accumulators, in whatever order they were registered,
do the same to a pool in every pass and wait for the same next update; only
which of several failures is reported depends on the order.
-/
theorem registration_order_immaterial
    {first second : List AccumulatorId}
    (same : ∀ id, id ∈ first ↔ id ∈ second)
    (pool : Pool R)
    (calls : List (Pass R)) :
    let left := ofOrder first
    let right := ofOrder second
    let reachedLeft := left.passAll calls pool
    let reachedRight := right.passAll calls pool
    (∀ id, reachedLeft.get? id = reachedRight.get? id) ∧
    (∀ holds step,
      left.nextUpdate holds step reachedLeft =
        right.nextUpdate holds step reachedRight) ∧
    ∀ call,
      (∀ count,
        (left.pass call reachedLeft).2 = .ok count ↔
          (right.pass call reachedRight).2 = .ok count) ∧
      (left.failures call reachedLeft).Perm (right.failures call reachedRight) ∧
      (∀ cause,
        (left.pass call reachedLeft).2 = .error cause ↔
          ∃ id, (left.failures call reachedLeft).head? = some (id, cause)) ∧
      ∀ cause,
        (right.pass call reachedRight).2 = .error cause ↔
          ∃ id,
            (right.failures call reachedRight).head? = some (id, cause) := by
  intro left right reachedLeft reachedRight
  have entries : left.SameEntries right := sameEntries_ofOrder same
  have reached : reachedLeft = reachedRight := entries.passAll calls pool
  rw [reached]
  refine ⟨fun _ => rfl, fun holds step => entries.nextUpdate holds step _,
    fun call => ?_⟩
  exact ⟨fun _ => entries.reply_eq_ok_iff, entries.failures call _,
    fun _ => reply_eq_error_iff_head, fun _ => reply_eq_error_iff_head⟩

/-- Three records of one value at every other step, each of its own source. -/
def trialRecords : Pool Float :=
  ⟨#[0, 1, 2].map fun index =>
    ⟨⟨2, 0, Nat.two_pos⟩, .series (.start ⟨⟨index⟩, [1], Nat.one_pos⟩)⟩⟩

/--
The first source delivers nothing, and the second record is read by someone
else.
-/
def trialCall : Pass Float where
  readings source := if source.index = 0 then [] else [Scalar.zero]
  holds id := if id.index = 1 then .shared else .free
  step := 4

theorem registration_order_immaterial_trial :
    let left := ofOrder [⟨0⟩, ⟨1⟩, ⟨2⟩]
    let right := ofOrder [⟨2⟩, ⟨1⟩, ⟨0⟩]
    let reachedLeft := left.passAll [trialCall] trialRecords
    let reachedRight := right.passAll [trialCall] trialRecords
    (∀ id, id ∈ [⟨0⟩, ⟨1⟩, ⟨2⟩] ↔ id ∈ [⟨2⟩, ⟨1⟩, (⟨0⟩ : AccumulatorId)]) ∧
    (∀ id, reachedLeft.get? id = reachedRight.get? id) ∧
    (reachedLeft.get? ⟨2⟩).map (·.updates) = some 1 ∧
    (left.pass trialCall reachedLeft).2 = .error (.shapeMismatch 1 0) ∧
    (right.pass trialCall reachedRight).2 = .error .inUse ∧
    (left.failures trialCall reachedLeft).Perm
      (right.failures trialCall reachedRight) := by
  have same :
      ∀ id, id ∈ [⟨0⟩, ⟨1⟩, ⟨2⟩] ↔ id ∈ [⟨2⟩, ⟨1⟩, (⟨0⟩ : AccumulatorId)] := by
    intro id
    simp only [List.mem_cons, List.not_mem_nil, or_false]
    rw [or_comm, or_assoc, or_left_comm]
  rcases registration_order_immaterial same trialRecords [trialCall] with
    ⟨reached, _, passes⟩
  refine ⟨same, reached, by decide +kernel, by decide +kernel,
    by decide +kernel, ?_⟩
  exact (passes trialCall).2.1

end Registry

end RunningStatistics
