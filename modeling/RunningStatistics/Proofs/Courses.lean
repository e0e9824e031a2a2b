import RunningStatistics.Proofs.Finalization

/-!
# Courses of runs

The table of a correlator is settled by its lags, by the stream of everything
that it has taken in, and by the arguments in force when its run was ended, if
it was.  The stream and these arguments make up the course of the run.

A request that is carried out moves the course on, before and after the end of
a run.  Correlators of different setups are compared through their courses.
-/

namespace RunningStatistics

variable {R : Type} [Scalar R]

/-! ## Tables -/

/--
The rows of levels that cover the given lags, where `next` makes the stream of a
level from the one below.
-/
def LagRange.table
    (width : Nat)
    (next : List (Arrival R) → List (Arrival R)) :
    List LagRange → List (Arrival R) → List (Row R)
  | [], _ => []
  | range :: above, stream =>
      (List.range' range.first range.count).map (directRow width stream) ++
        table width next above (next stream)

theorem Hierarchy.Carries.rows_eq
    {width : Nat}
    {next : List (Arrival R) → List (Arrival R)}
    {hierarchy : Hierarchy R}
    {stream : List (Arrival R)}
    (carries : Carries width next hierarchy stream) :
    rows hierarchy =
      LagRange.table width next (hierarchy.map (·.lags)) stream := by
  induction hierarchy generalizing stream with
  | nil => rfl
  | cons level above hypothesis =>
      rcases carries with ⟨holds, rest⟩
      rw [List.map_cons, LagRange.table, ← holds.rows, ← hypothesis rest]
      exact List.flatMap_cons

/-! ## Courses -/

/-- What was taken in during a run, and how the run was ended. -/
structure Course (R : Type) where
  raw : List (Arrival R)
  /-- The arguments in force when the run was ended. -/
  closing : Option (Axes R)

variable [Exponential R]

namespace Course

/--
How the stream of a level is made from the one below, under a configuration.
-/
def next
    (config : Config R)
    (course : Course R) :
    List (Arrival R) → List (Arrival R) :=
  match course.closing with
  | none => halve (Arrival.reduce config.rules.reduce)
  | some arguments =>
      let rules := { config with arguments }.rules
      halveAll (Arrival.reduce rules.reduce) (Arrival.close rules)

/-- The course after a request that a correlator carries out. -/
def after
    (course : Course R)
    (correlator : Correlator R)
    (request : Request R) :
    Course R :=
  match course.closing, request with
  | some _, _ => course
  | none, .finalize =>
      { course with closing := some correlator.config.arguments }
  | none, _ => { course with raw := course.raw ++ correlator.arrival request }

theorem after_of_ended
    {course : Course R}
    (ended : course.closing.isSome = true)
    (correlator : Correlator R)
    (request : Request R) :
    course.after correlator request = course := by
  rcases course with ⟨raw, _ | arguments⟩
  · cases ended
  · rfl

theorem after_of_goesOn
    (raw : List (Arrival R))
    (correlator : Correlator R)
    {request : Request R}
    (goesOn : request ≠ .finalize) :
    (Course.mk raw none).after correlator request =
      ⟨raw ++ correlator.arrival request, none⟩ := by
  cases request with
  | finalize => exact absurd rfl goesOn
  | _ => rfl

/-- What was taken in during a run, once a request is carried out. -/
theorem raw_after
    (course : Course R)
    (correlator : Correlator R)
    (request : Request R) :
    (course.after correlator request).raw =
      if course.closing.isSome then
        course.raw
      else
        course.raw ++ correlator.arrival request := by
  rcases course with ⟨raw, _ | arguments⟩
  · cases request <;> simp [Course.after, Correlator.arrival, Request.sample?]
  · rfl

/-- A request that hands nothing over does not change the course. -/
theorem after_of_idle
    (course : Course R)
    {correlator : Correlator R}
    {request : Request R}
    (idle : correlator.arrival request = [])
    (goesOn : request ≠ .finalize) :
    course.after correlator request = course := by
  rcases course with ⟨raw, _ | arguments⟩
  · rw [after_of_goesOn raw correlator goesOn, idle, List.append_nil]
  · rfl

/-- The samples of all levels have the lengths of those that were taken in. -/
theorem suits_iterate
    {config : Config R}
    {course : Course R}
    {lengthA lengthB : Nat}
    (suits :
      ∀ arrival ∈ course.raw, arrival.Suits config.operation lengthA lengthB)
    (level : Nat) :
    ∀ arrival ∈ (course.next config)^[level] course.raw,
      arrival.Suits config.operation lengthA lengthB := by
  rcases course with ⟨raw, _ | arguments⟩
  · rw [next, ← levelStream_eq_iterate]
    exact forall_mem_levelStream config suits level
  · rw [next, ← finalStream_eq_iterate]
    exact forall_mem_finalStream { config with arguments } suits level

end Course

namespace Correlator

/-- A correlator whose levels carry the streams of a course. -/
structure Stands (correlator : Correlator R) (course : Course R) : Prop where
  fitting :
    correlator.config.operation.valueShape correlator.lengthA
        correlator.lengthB =
      .ok correlator.valueShape
  carries :
    Hierarchy.Carries correlator.valueShape.size (course.next correlator.config)
      correlator.hierarchy course.raw
  suits :
    ∀ arrival ∈ course.raw,
      arrival.Suits correlator.config.operation correlator.lengthA
        correlator.lengthB
  ended : correlator.isFinalized = course.closing.isSome
  /--
  As long as the run goes on, the samples that wait for a partner are known too.
  -/
  records : course.closing = none → correlator.Records course.raw

variable
    {correlator after : Correlator R}
    {raw : List (Arrival R)}
    {course : Course R}

theorem Records.stands
    (records : correlator.Records raw)
    (fitting :
      correlator.config.operation.valueShape correlator.lengthA
          correlator.lengthB =
        .ok correlator.valueShape) :
    correlator.Stands ⟨raw, none⟩ where
  fitting := fitting
  carries := records.follows.carries
  suits := records.suits
  ended := records.running
  records := fun _ => records

theorem Records.stands_finalize
    (records : correlator.Records raw)
    (fitting :
      correlator.config.operation.valueShape correlator.lengthA
          correlator.lengthB =
        .ok correlator.valueShape) :
    correlator.finalize.Stands ⟨raw, some correlator.config.arguments⟩ := by
  have settled := records.settled.1
  rw [finalize_of_running records.running] at settled ⊢
  exact ⟨fitting, settled, records.suits, rfl,
    fun running => absurd running nofun⟩

/-- A request that is carried out moves the course on. -/
theorem Stands.step
    {request : Request R}
    (stands : correlator.Stands course)
    (step : correlator.Step request after) :
    after.Stands (course.after correlator request) := by
  cases ended : correlator.isFinalized with
  | true =>
      rw [Course.after_of_ended (stands.ended ▸ ended)]
      cases step with
      | receive handed running fitsA fitsB =>
          rw [running] at ended
          cases ended
      | finalize =>
          rw [finalize_of_isFinalized ended]
          exact stands
      | setArguments sound =>
          have closed : course.closing.isSome = true := stands.ended ▸ ended
          rcases Option.isSome_iff_exists.mp closed with ⟨arguments, closing⟩
          refine ⟨stands.fitting, ?_, stands.suits, stands.ended,
            fun running => ?_⟩
          · have carries := stands.carries
            rw [Course.next, closing] at carries ⊢
            exact carries
          · rw [closing] at running
            cases running
      | reschedule => exact stands
  | false =>
      rcases course with ⟨raw, _ | arguments⟩
      · have records := stands.records rfl
        by_cases last : request = .finalize
        · subst last
          cases step with
          | receive handed running fitsA fitsB => cases handed
          | finalize => exact records.stands_finalize stands.fitting
        · have same := step.sameSetup
          rw [Course.after_of_goesOn raw correlator last]
          apply (records.step step last).stands
          rw [same.operation, same.lengthA, same.lengthB, same.valueShape]
          exact stands.fitting
      · have closed := stands.ended
        rw [ended] at closed
        cases closed

/-! ## What a course settles -/

theorem Stands.rows_eq (stands : correlator.Stands course) :
    correlator.rows =
      LagRange.table correlator.valueShape.size (course.next correlator.config)
        correlator.lags course.raw :=
  stands.carries.rows_eq

/-- A row has as many sums as one correlation value has components. -/
theorem Stands.uniform (stands : correlator.Stands course) :
    ∀ row ∈ correlator.rows, row.sums.length = correlator.valueShape.size := by
  intro row member
  rcases stands.carries.exists_of_mem_rows member with ⟨level, lag, rfl⟩
  exact length_sums_directRow stands.fitting
    (Course.suits_iterate stands.suits level) lag

omit [Scalar R] [Exponential R] in
theorem lagSteps_eq (correlator : Correlator R) :
    correlator.lagSteps = correlator.lags.flatMap LagRange.steps := by
  rw [lags, List.flatMap_map]
  rfl

/-- There is one row for each lag. -/
theorem Stands.length_rows (stands : correlator.Stands course) :
    correlator.rows.length = correlator.lagCount := by
  have same :
      ∀ level ∈ correlator.hierarchy,
        level.rows.length = level.lags.steps.length := by
    intro level member
    rw [stands.carries.length_rows level member, LagRange.length_steps]
  rw [rows, Hierarchy.rows, lagCount, lagSteps, Hierarchy.lagSteps,
    List.length_flatMap, List.length_flatMap, List.map_congr_left same]

end Correlator

end RunningStatistics
