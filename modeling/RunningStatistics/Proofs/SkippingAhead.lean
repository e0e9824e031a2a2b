import RunningStatistics.Proofs.Scheduling

/-!
# Skipping ahead to the next update

A simulation that asks its registry when the next update is due can jump to
that step.  It ends in the same state as one that calls the registry at every
step: in between no accumulator is due, so that a step changes nothing.

The wait for one accumulator is computed in machine words.  None of the
operations on the way leaves the range of a word or divides by zero.

An empty registry has no next update.
-/

namespace RunningStatistics

/-! ## Waiting for one accumulator -/

namespace Sampling

/-- Nothing is due before the wait is over. -/
theorem not_isDue_of_lt_stepsUntilDue
    (sampling : Sampling)
    {step later : Nat}
    (lower : step ≤ later)
    (upper : later < step + sampling.stepsUntilDue step) :
    ¬sampling.isDue later = true := by
  rw [isDue_iff_dvd]
  intro due
  have rest : sampling.interval ∣ step + sampling.stepsUntilDue step - later :=
    Nat.dvd_sub (sampling.dvd_add_stepsUntilDue step) due
  have long : sampling.interval ≤ step + sampling.stepsUntilDue step - later :=
    Nat.le_of_dvd (Nat.sub_pos_of_lt upper) rest
  have short := sampling.stepsUntilDue_lt step
  omega

theorem isDue_add_stepsUntilDue
    (sampling : Sampling)
    (step : Nat) :
    sampling.isDue (step + sampling.stepsUntilDue step) = true :=
  (sampling.isDue_iff_dvd _).mpr (sampling.dvd_add_stepsUntilDue step)

end Sampling

/-! ### In words -/

namespace Word

/-- The remainder of a division, which needs a divisor other than zero. -/
def remainder? (dividend divisor : UInt64) : Option UInt64 :=
  if divisor = 0 then none else some (dividend % divisor)

/-- The difference of two words, which must not fall below zero. -/
def difference? (left right : UInt64) : Option UInt64 :=
  if right ≤ left then some (left - right) else none

/--
The wait until the next multiple of an interval, if every operation on the way
succeeds.
-/
def wait? (interval step : UInt64) : Option UInt64 := do
  let passed ← remainder? step interval
  let left ← difference? interval passed
  remainder? left interval

theorem wait?_eq
    {sampling : Sampling}
    {interval : UInt64}
    (same : interval.toNat = sampling.interval)
    (step : UInt64) :
    ∃ wait,
      wait? interval step = some wait ∧
      wait.toNat = sampling.stepsUntilDue step.toNat := by
  have positive : interval ≠ 0 := by
    rintro rfl
    exact Nat.ne_of_gt sampling.interval_pos same.symm
  have passed : step % interval ≤ interval := by
    rw [UInt64.le_iff_toNat_le, UInt64.toNat_mod, same]
    exact Nat.le_of_lt (Nat.mod_lt _ sampling.interval_pos)
  refine ⟨(interval - step % interval) % interval, ?_, ?_⟩
  · simp only [wait?, remainder?, difference?, if_neg positive, if_pos passed,
      Option.bind_eq_bind, Option.bind_some]
  · rw [UInt64.toNat_mod, UInt64.toNat_sub_of_le _ _ passed,
      UInt64.toNat_mod, same]
    rfl

end Word

variable {R : Type} [Scalar R] [Exponential R]

namespace Registry

/-! ## The next update of a registry -/

/-- All registered accumulators are in the pool. -/
def IsPresent (registry : Registry) (pool : Pool R) : Prop :=
  ∀ id ∈ registry.entries, ∃ accumulator, pool.get? id = some accumulator

/-- The registered accumulators of a pool, in order of registration. -/
def accumulators (registry : Registry) (pool : Pool R) : List (Accumulator R) :=
  registry.entries.filterMap pool.get?

omit [Scalar R] [Exponential R] in
theorem mem_accumulators
    {registry : Registry}
    {pool : Pool R}
    {accumulator : Accumulator R} :
    accumulator ∈ registry.accumulators pool ↔
      ∃ id ∈ registry.entries, pool.get? id = some accumulator :=
  List.mem_filterMap

omit [Scalar R] [Exponential R] in
/-- The next update of a registry is the earliest one of its accumulators. -/
theorem nextUpdate_unheld
    (registry : Registry)
    (step : Nat)
    (pool : Pool R) :
    registry.nextUpdate unheld step pool =
      match ((registry.accumulators pool).map
          (·.sampling.stepsUntilDue step)).min? with
      | some wait => .after wait
      | none => .never := by
  have readable :
      (registry.entries.any fun id => unheld id == .exclusive) = false := by
    simp [unheld]
  rw [nextUpdate, readable, accumulators, List.map_filterMap]
  rfl

omit [Scalar R] [Exponential R] in
/-- The next update is that of some accumulator, and none is due earlier. -/
theorem nextUpdate_after
    {registry : Registry}
    {step wait : Nat}
    {pool : Pool R}
    (next : registry.nextUpdate unheld step pool = .after wait) :
    (∃ accumulator ∈ registry.accumulators pool,
      accumulator.sampling.isDue (step + wait) = true) ∧
    ∀ accumulator ∈ registry.accumulators pool,
      ∀ later,
        step ≤ later →
        later < step + wait →
        ¬accumulator.sampling.isDue later = true := by
  rw [nextUpdate_unheld] at next
  split at next
  next least minimum =>
    cases next
    rw [List.min?_eq_some_iff] at minimum
    rcases minimum with ⟨member, below⟩
    rcases List.mem_map.mp member with ⟨accumulator, registered, rfl⟩
    refine ⟨⟨accumulator, registered,
        accumulator.sampling.isDue_add_stepsUntilDue step⟩, ?_⟩
    intro other among later lower upper
    have earliest := below _ (List.mem_map_of_mem among)
    exact other.sampling.not_isDue_of_lt_stepsUntilDue lower (by omega)
  next => cases next

omit [Scalar R] [Exponential R] in
theorem exists_nextUpdate
    {registry : Registry}
    {pool : Pool R}
    (present : registry.IsPresent pool)
    (nonempty : registry.entries ≠ [])
    (step : Nat) :
    ∃ wait, registry.nextUpdate unheld step pool = .after wait := by
  rcases List.exists_mem_of_ne_nil _ nonempty with ⟨id, registered⟩
  rcases present id registered with ⟨accumulator, found⟩
  rw [nextUpdate_unheld]
  split
  next wait minimum => exact ⟨wait, rfl⟩
  next none =>
    rw [List.min?_eq_none_iff, List.map_eq_nil_iff] at none
    exact absurd (none ▸ mem_accumulators.mpr ⟨id, registered, found⟩)
      List.not_mem_nil

omit [Scalar R] [Exponential R] in
theorem nextUpdate_of_empty
    {registry : Registry}
    (empty : registry.entries = [])
    (holds : Holds)
    (step : Nat)
    (pool : Pool R) :
    registry.nextUpdate holds step pool = .never := by
  rw [nextUpdate, empty]
  rfl

/--
The waits for the registered accumulators, if every operation on words succeeds.
-/
def waits?
    (registry : Registry)
    (step : UInt64)
    (pool : Pool R) :
    Option (List UInt64) :=
  (registry.accumulators pool).mapM fun accumulator =>
    Word.wait? (.ofNat accumulator.sampling.interval) step

omit [Scalar R] [Exponential R] in
theorem mapM_wait?
    {accumulators : List (Accumulator R)}
    (small :
      ∀ accumulator ∈ accumulators, accumulator.sampling.interval < 2 ^ 64)
    (step : UInt64) :
    ∃ waits,
      (accumulators.mapM fun accumulator =>
        Word.wait? (.ofNat accumulator.sampling.interval) step) =
        some waits ∧
      waits.map (·.toNat) =
        accumulators.map (·.sampling.stepsUntilDue step.toNat) := by
  induction accumulators with
  | nil => exact ⟨[], rfl, rfl⟩
  | cons first rest hypothesis =>
      have word :
          (UInt64.ofNat first.sampling.interval).toNat =
            first.sampling.interval :=
        UInt64.toNat_ofNat_of_lt' (small first List.mem_cons_self)
      rcases Word.wait?_eq word step with ⟨wait, computed, same⟩
      rcases hypothesis fun accumulator member =>
          small accumulator (List.mem_cons_of_mem _ member) with
        ⟨waits, others, equal⟩
      refine ⟨wait :: waits, ?_, ?_⟩
      · rw [List.mapM_cons, computed, others]
        rfl
      · rw [List.map_cons, List.map_cons, same, equal]

omit [Scalar R] [Exponential R] in
/--
No operation on words fails, and the next update is the least of the waits.
-/
theorem nextUpdate_eq_waits?
    {registry : Registry}
    {pool : Pool R}
    (small :
      ∀ accumulator ∈ registry.accumulators pool,
        accumulator.sampling.interval < 2 ^ 64)
    (step : UInt64) :
    ∃ waits,
      registry.waits? step pool = some waits ∧
      registry.nextUpdate unheld step.toNat pool =
        match (waits.map (·.toNat)).min? with
        | some wait => .after wait
        | none => .never := by
  rcases mapM_wait? small step with ⟨waits, computed, equal⟩
  refine ⟨waits, computed, ?_⟩
  rw [equal]
  exact registry.nextUpdate_unheld step.toNat pool

end Registry

/-! ## Idle steps -/

theorem Outcome.summary_map_skipped
    {α : Type}
    (visited : List α) :
    summary (visited.map fun _ => skipped) = .ok 0 := by
  induction visited with
  | nil => rfl
  | cons first rest hypothesis =>
      exact (summary_skipped_cons _).trans hypothesis

namespace Registry

/-- A step at which nothing is due changes nothing. -/
theorem visitAll_of_idle
    {ids : List AccumulatorId}
    {pool : Pool R}
    {step : Nat}
    (idle :
      ∀ id ∈ ids,
        ∀ accumulator,
          pool.get? id = some accumulator →
          ¬accumulator.sampling.isDue step = true)
    (readings : Readings R) :
    visitAll readings unheld step ids pool =
      (pool, ids.map fun _ => .skipped) := by
  induction ids with
  | nil => rfl
  | cons id rest hypothesis =>
      have skipped : visit readings unheld step pool id = (pool, .skipped) := by
        rw [visit]
        cases found : pool.get? id with
        | none => rfl
        | some accumulator =>
            exact if_neg (idle id List.mem_cons_self accumulator found)
      rw [visitAll, skipped]
      simp only [hypothesis fun other member =>
          idle other (List.mem_cons_of_mem _ member), List.map_cons]

/--
A step at which nothing is due leaves the pool as it is and counts no update.
-/
theorem step_of_idle
    {registry : Registry}
    {pool : Pool R}
    {step : Nat}
    (idle :
      ∀ accumulator ∈ registry.accumulators pool,
        ¬accumulator.sampling.isDue step = true)
    (readings : Readings R) :
    registry.step readings unheld step pool = (pool, .ok 0) := by
  have skipped : visitAll readings unheld step registry.entries pool =
      (pool, registry.entries.map fun _ => .skipped) := by
    apply visitAll_of_idle
    intro id member accumulator found
    exact idle accumulator (mem_accumulators.mpr ⟨id, member, found⟩)
  rw [Registry.step, skipped]
  exact congrArg (pool, ·) (Outcome.summary_map_skipped _)

theorem IsPresent.step
    {registry : Registry}
    {pool : Pool R}
    (present : registry.IsPresent pool)
    (readings : Readings R)
    (step : Nat) :
    registry.IsPresent (registry.step readings unheld step pool).1 := by
  intro id registered
  rcases present id registered with ⟨accumulator, found⟩
  rcases get?_visitAll readings unheld step registry.entries found with
    ⟨next, there, _⟩
  exact ⟨next, there⟩

/-! ## Two drivers -/

/-- One registry and no changes of intervals. -/
def steady
    (registry : Registry)
    (readings : Nat → Readings R) :
    Timeline R where
  changes _ := []
  registry _ := registry
  readings := readings

/--
The pool when a driver that calls the registry at every step arrives at a step.
-/
def arrive
    (registry : Registry)
    (readings : Nat → Readings R)
    (first : Nat)
    (pool : Pool R)
    (step : Nat) :
    Pool R :=
  pool.simulate (registry.steady readings) first (step - first)

/--
The driver that jumps to the next update, updates there and goes on with the
step after it, until the next update lies beyond the last step.  The pool in the
end, and the steps that it stops at.
-/
def leap
    (registry : Registry)
    (readings : Nat → Readings R)
    (last step : Nat)
    (pool : Pool R) :
    Pool R × List Nat :=
  match registry.nextUpdate unheld step pool with
  | .after wait =>
      if step + wait < last then
        let next :=
          (registry.step (readings (step + wait)) unheld (step + wait) pool).1
        let rest := leap registry readings last (step + wait + 1) next
        (rest.1, (step + wait) :: rest.2)
      else
        (pool, [])
  | _ => (pool, [])
  termination_by last - step

theorem arrive_self
    (registry : Registry)
    (readings : Nat → Readings R)
    (first : Nat)
    (pool : Pool R) :
    registry.arrive readings first pool first = pool := by
  rw [arrive, Nat.sub_self]
  rfl

theorem arrive_succ
    (registry : Registry)
    (readings : Nat → Readings R)
    {first step : Nat}
    (ordered : first ≤ step)
    (pool : Pool R) :
    registry.arrive readings first pool (step + 1) =
      (registry.step (readings step) unheld step
        (registry.arrive readings first pool step)).1 := by
  rw [arrive, Nat.succ_sub ordered, Pool.simulate_succ,
    Nat.add_sub_cancel' ordered]
  rfl

/-- Arriving at a step by way of an earlier one. -/
theorem arrive_arrive
    (registry : Registry)
    (readings : Nat → Readings R)
    {first middle step : Nat}
    (early : first ≤ middle)
    (ordered : middle ≤ step)
    (pool : Pool R) :
    registry.arrive readings middle
        (registry.arrive readings first pool middle) step =
      registry.arrive readings first pool step := by
  induction step, ordered using Nat.le_induction with
  | base => exact registry.arrive_self readings middle _
  | succ step ordered hypothesis =>
      rw [registry.arrive_succ readings ordered, hypothesis,
        registry.arrive_succ readings (Nat.le_trans early ordered)]

/-- While nothing is due, the pool stays as it is. -/
theorem arrive_of_idle
    {registry : Registry}
    {readings : Nat → Readings R}
    {first step : Nat}
    {pool : Pool R}
    (ordered : first ≤ step)
    (idle :
      ∀ accumulator ∈ registry.accumulators pool,
        ∀ later,
          first ≤ later →
          later < step →
          ¬accumulator.sampling.isDue later = true) :
    registry.arrive readings first pool step = pool := by
  induction step, ordered using Nat.le_induction with
  | base => exact registry.arrive_self readings first pool
  | succ step ordered hypothesis =>
      have unchanged := hypothesis fun accumulator member later lower upper =>
        idle accumulator member later lower (Nat.lt_succ_of_lt upper)
      rw [registry.arrive_succ readings ordered, unchanged]
      rw [step_of_idle fun accumulator member =>
        idle accumulator member step ordered (Nat.lt_succ_self step)]

/--
What a driver that skips ahead has in common with one that calls the registry at
every step.
-/
structure Skips
    (registry : Registry)
    (readings : Nat → Readings R)
    (first last : Nat)
    (pool : Pool R)
    (outcome : Pool R × List Nat) : Prop where
  state : outcome.1 = registry.arrive readings first pool last
  skipped :
    ∀ step,
      first ≤ step →
      step < last →
      step ∉ outcome.2 →
      registry.step (readings step) unheld step
          (registry.arrive readings first pool step) =
        (registry.arrive readings first pool step, .ok 0)
  visited :
    ∀ step ∈ outcome.2,
      first ≤ step ∧
      step < last ∧
      ∃ accumulator ∈ registry.accumulators
          (registry.arrive readings first pool step),
        accumulator.sampling.isDue step = true

/-- A stretch in which nothing is due. -/
theorem Skips.of_idle
    {registry : Registry}
    {readings : Nat → Readings R}
    {first last : Nat}
    {pool : Pool R}
    (ordered : first ≤ last)
    (idle :
      ∀ accumulator ∈ registry.accumulators pool,
        ∀ later,
          first ≤ later →
          later < last →
          ¬accumulator.sampling.isDue later = true) :
    registry.Skips readings first last pool (pool, []) where
  state := (arrive_of_idle ordered idle).symm
  skipped := by
    intro step lower upper _
    rw [arrive_of_idle lower fun accumulator member later early late =>
      idle accumulator member later early (Nat.lt_trans late upper)]
    exact step_of_idle
      (fun accumulator member => idle accumulator member step lower upper) _
  visited := fun step member => absurd member List.not_mem_nil

/--
A stretch in which nothing is due, a step with an update, and what follows.
-/
theorem Skips.jump
    {registry : Registry}
    {readings : Nat → Readings R}
    {first step last : Nat}
    {pool : Pool R}
    {rest : Pool R × List Nat}
    (ordered : first ≤ step)
    (before : step < last)
    (idle :
      ∀ accumulator ∈ registry.accumulators pool,
        ∀ later,
          first ≤ later →
          later < step →
          ¬accumulator.sampling.isDue later = true)
    (due :
      ∃ accumulator ∈ registry.accumulators pool,
        accumulator.sampling.isDue step = true)
    (later :
      registry.Skips readings (step + 1) last
        (registry.step (readings step) unheld step pool).1 rest) :
    registry.Skips readings first last pool (rest.1, step :: rest.2) := by
  have here : registry.arrive readings first pool step = pool :=
    arrive_of_idle ordered idle
  have next : (registry.step (readings step) unheld step pool).1 =
      registry.arrive readings first pool (step + 1) := by
    rw [registry.arrive_succ readings ordered, here]
  have onward :
      ∀ target,
        step + 1 ≤ target →
        registry.arrive readings (step + 1)
            (registry.step (readings step) unheld step pool).1 target =
          registry.arrive readings first pool target :=
    fun target reached => by
    rw [next,
      registry.arrive_arrive readings (Nat.le_succ_of_le ordered) reached]
  constructor
  · rw [← onward last before]
    exact later.state
  · intro other lower upper absent
    rw [List.mem_cons, not_or] at absent
    rcases Nat.lt_or_gt_of_ne absent.1 with early | late
    · exact (Skips.of_idle (Nat.le_of_lt (Nat.lt_of_le_of_lt lower early))
        idle).skipped other lower early List.not_mem_nil
    · rw [← onward other late]
      exact later.skipped other late upper absent.2
  · intro other member
    rcases List.mem_cons.mp member with rfl | member
    · rw [here]
      exact ⟨ordered, before, due⟩
    · rcases later.visited other member with ⟨lower, upper, found⟩
      rw [onward other lower] at found
      exact ⟨Nat.le_trans (Nat.le_succ_of_le ordered) lower, upper, found⟩

theorem skips_leap
    {registry : Registry}
    (readings : Nat → Readings R)
    {first last : Nat}
    {pool : Pool R}
    (nonempty : registry.entries ≠ [])
    (present : registry.IsPresent pool)
    (ordered : first ≤ last) :
    registry.Skips readings first last pool
      (registry.leap readings last first pool) := by
  induction first, pool using leap.induct registry readings last with
  | case1 first pool wait next before following hypothesis =>
      rcases nextUpdate_after next with ⟨due, idle⟩
      rw [leap, next]
      simp only [if_pos before]
      exact .jump (Nat.le_add_right first wait) before idle due
        (hypothesis (present.step _ _) before)
  | case2 first pool wait next beyond =>
      rcases nextUpdate_after next with ⟨_, idle⟩
      rw [leap, next]
      simp only [if_neg beyond]
      exact .of_idle ordered fun accumulator member later lower upper =>
        idle accumulator member later lower (by omega)
  | case3 first pool never =>
      rcases exists_nextUpdate present nonempty first with ⟨wait, next⟩
      exact absurd next (never wait)

/--
Skipping ahead leaves the pool as stepping does, skips only steps that update
nothing, and goes to steps at which some accumulator is due; in words, nothing
fails on the way.
-/
theorem leap_loses_nothing
    (registry : Registry)
    (readings : Nat → Readings R)
    (pool : Pool R)
    (present : registry.IsPresent pool)
    {first last : Nat}
    (ordered : first ≤ last) :
    (registry.entries ≠ [] →
     registry.Skips readings first last pool
       (registry.leap readings last first pool)) ∧
    (registry.entries = [] →
     ∀ holds step, registry.nextUpdate holds step pool = .never) ∧
    ((∀ accumulator ∈ registry.accumulators pool,
       accumulator.sampling.interval < 2 ^ 64) →
     ∀ step : UInt64,
       ∃ waits,
         registry.waits? step pool = some waits ∧
         registry.nextUpdate unheld step.toNat pool =
           match (waits.map (·.toNat)).min? with
             | some wait => .after wait
             | none => .never) := by
  refine ⟨?_, ?_, ?_⟩
  · intro nonempty
    exact skips_leap readings nonempty present ordered
  · intro empty holds step
    exact nextUpdate_of_empty empty holds step pool
  · intro small step
    exact nextUpdate_eq_waits? small step

theorem leap_loses_nothing_trial :
    (trialTimeline.registry 0).Skips trialTimeline.readings 1 9 trialPool
      ((trialTimeline.registry 0).leap trialTimeline.readings 9 1 trialPool) ∧
    empty.nextUpdate unheld 1 trialPool = .never ∧
    ∃ waits,
      (trialTimeline.registry 0).waits? 1 trialPool = some waits ∧
      (trialTimeline.registry 0).nextUpdate unheld 1 trialPool =
        match (waits.map (·.toNat)).min? with
        | some wait => .after wait
        | none => .never := by
  have present : (trialTimeline.registry 0).IsPresent trialPool := by
    intro id registered
    rcases List.mem_cons.mp registered with rfl | registered
    · exact ⟨_, rfl⟩
    · rw [List.mem_singleton.mp registered]
      exact ⟨_, rfl⟩
  have small :
      ∀ accumulator ∈ (trialTimeline.registry 0).accumulators trialPool,
        accumulator.sampling.interval < 2 ^ 64 := by
    intro accumulator member
    rcases List.mem_cons.mp member with rfl | member
    · decide
    · rw [List.mem_singleton.mp member]
      decide
  have nowhere : empty.IsPresent trialPool :=
    fun id member => absurd member List.not_mem_nil
  rcases leap_loses_nothing (trialTimeline.registry 0) trialTimeline.readings
      trialPool present (show 1 ≤ 9 by decide) with ⟨skips, _, words⟩
  rcases leap_loses_nothing empty trialTimeline.readings trialPool nowhere
    (show 1 ≤ 9 by decide) with ⟨_, never, _⟩
  exact ⟨skips (List.cons_ne_nil _ _), never rfl unheld 1, words small 1⟩

end Registry

end RunningStatistics
