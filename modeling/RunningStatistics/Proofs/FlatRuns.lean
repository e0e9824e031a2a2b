import RunningStatistics.Proofs.Acceptance
import RunningStatistics.Proofs.Courses
import RunningStatistics.Proofs.FlatIngestion

/-!
# Runs in flat memory

A correlator in flat memory and an accumulator are created from the same
parameters and sent the same requests.  As long as the number of samples can be
counted, every request is carried out by both or refused to both for the same
cause, and the memory holds the levels that samples have reached and the rows of
the correlator.
-/

namespace RunningStatistics

variable {R : Type} [Scalar R] [Exponential R]

namespace Correlator

/-! ## What a correlator keeps -/

/--
A correlator on a course, with levels and sums of the sizes that they were
created with.
-/
structure Keeps (correlator : Correlator R) (course : Course R) : Prop where
  stands : correlator.Stands course
  laid : LagRange.LaidOut 0 correlator.lags
  inhabited : correlator.lags ≠ []
  designs : correlator.hierarchy.map Level.design =
    (Hierarchy.empty correlator.config.linearWidth correlator.valueShape.size
      correlator.lags : Hierarchy R).map Level.design
  count : correlator.count = course.raw.length
  sumA : correlator.sumA.length = correlator.lengthA
  sumB : correlator.sumB.length = correlator.lengthB

variable
    {correlator after : Correlator R}
    {course : Course R}
    {request : Request R}

omit [Scalar R] [Exponential R] in
theorem SameSetup.linearWidth (same : correlator.SameSetup after) :
    after.config.linearWidth = correlator.config.linearWidth := by
  rw [same.config]

theorem Step.map_design (step : correlator.Step request after) :
    after.hierarchy.map Level.design =
      correlator.hierarchy.map Level.design := by
  cases step with
  | receive handed running fitsA fitsB =>
      exact Hierarchy.map_design_ingest _ _ _
  | finalize =>
      rw [Correlator.finalize]
      split
      · rfl
      · exact Hierarchy.map_design_flush _ _ _
  | setArguments sound => rfl
  | reschedule => rfl

/-- The sums of a stream have as many components as its samples. -/
theorem Step.length_sums
    (step : correlator.Step request after)
    (sumA : correlator.sumA.length = correlator.lengthA)
    (sumB : correlator.sumB.length = correlator.lengthB) :
    after.sumA.length = correlator.lengthA ∧
    after.sumB.length = correlator.lengthB := by
  cases step with
  | receive handed running fitsA fitsB =>
      rw [Correlator.receive, Scalar.length_addEach, Scalar.length_addEach,
        sumA, sumB, ← fitsA, ← fitsB, Nat.min_self, Nat.min_self]
      exact ⟨rfl, rfl⟩
  | finalize =>
      rw [Correlator.finalize]
      split <;> exact ⟨sumA, sumB⟩
  | setArguments sound => exact ⟨sumA, sumB⟩
  | reschedule => exact ⟨sumA, sumB⟩

theorem Step.count
    (step : correlator.Step request after)
    (ended : correlator.isFinalized = course.closing.isSome)
    (count : correlator.count = course.raw.length) :
    after.count = (course.after correlator request).raw.length := by
  have idle :
      course.raw.length =
        (if course.closing.isSome then
          course.raw
        else
          course.raw ++ []).length := by
    rw [List.append_nil, ite_self]
  rw [Course.raw_after]
  cases step with
  | receive handed running fitsA fitsB =>
      rw [← ended, running, arrival, handed]
      simp [Correlator.receive, count]
  | finalize => exact (correlator.finalize_count_means.1.trans count).trans idle
  | setArguments sound => exact count.trans idle
  | reschedule => exact count.trans idle

theorem Keeps.step
    (keeps : correlator.Keeps course)
    (step : correlator.Step request after) :
    after.Keeps (course.after correlator request) := by
  have same := step.sameSetup
  rcases step.length_sums keeps.sumA keeps.sumB with ⟨sumA, sumB⟩
  refine ⟨keeps.stands.step step, same.lags ▸ keeps.laid,
    same.lags ▸ keeps.inhabited, ?_, step.count keeps.stands.ended keeps.count,
    ?_, ?_⟩
  · rw [step.map_design, same.linearWidth, same.valueShape, same.lags]
    exact keeps.designs
  · rw [sumA, same.lengthA]
  · rw [sumB, same.lengthB]

/-! ## The memory of a correlator -/

/--
The memory of a correlator on a course: the levels that samples have reached,
and all rows.
-/
def layOut
    (correlator : Correlator R)
    (sampling : Sampling)
    (course : Course R) :
    FlatCorrelator R where
  sampling
  config := correlator.config
  samplingTime := correlator.samplingTime
  bindingA := correlator.bindingA
  bindingB := correlator.bindingB
  valueShape := correlator.valueShape
  lags := correlator.lags
  lagSteps := correlator.lags.flatMap LagRange.steps
  levels :=
    correlator.hierarchy.reached (course.next correlator.config) course.raw
  table := .ofRows correlator.rows
  count := correlator.count
  sumA := correlator.sumA
  sumB := correlator.sumB
  isFinalized := correlator.isFinalized

/-- What a run changes is all by which two memories of a correlator differ. -/
theorem layOut_of_sameSetup
    (same : correlator.SameSetup after)
    (sampling : Sampling)
    (course : Course R) :
    after.layOut sampling course =
      { correlator.layOut sampling course with
        config := after.config
        levels := after.hierarchy.reached (course.next after.config) course.raw
        table := .ofRows after.rows
        count := after.count
        sumA := after.sumA
        sumB := after.sumB
        isFinalized := after.isFinalized } := by
  simp only [layOut, same.samplingTime, same.bindingA, same.bindingB,
    same.valueShape, same.lags]

/-- While the run goes on, the memory stands at the finest level. -/
theorem Keeps.standsAt
    {raw : List (Arrival R)}
    (keeps : correlator.Keeps ⟨raw, none⟩)
    (sampling : Sampling) :
    (correlator.layOut sampling ⟨raw, none⟩).StandsAt [] []
      correlator.hierarchy raw := by
  refine ⟨rfl, ⟨[], rfl, rfl⟩, keeps.laid, List.forall_mem_nil _,
    keeps.stands.fitting, ?_, (keeps.stands.records rfl).follows,
    keeps.stands.suits⟩
  show ∀ design ∈ correlator.hierarchy.map Level.design, _
  rw [keeps.designs]
  exact Hierarchy.forall_design_empty _ _ _

end Correlator

namespace FlatCorrelator

variable
    {flat : FlatCorrelator R}
    {accumulator : Accumulator R}
    {correlator : Correlator R}
    {course : Course R}
    {turns : Nat → Nat}

/--
A memory that shows an accumulator: its correlator, on the course that it took.
-/
structure Shows
    (flat : FlatCorrelator R)
    (accumulator : Accumulator R)
    (correlator : Correlator R)
    (course : Course R) : Prop where
  kind : accumulator.statistic = .correlator correlator
  held : flat = correlator.layOut accumulator.sampling course
  keeps : correlator.Keeps course
  updates : accumulator.updates = correlator.count

/--
There are turns enough for a sample that enters at a level to rise to the
coarsest one.
-/
def Enough (flat : FlatCorrelator R) (turns : Nat → Nat) : Prop :=
  ∀ level < flat.lags.length, flat.lags.length - level ≤ turns level

/-! ## Requests that change the rows -/

theorem Shows.receive
    {raw : List (Arrival R)}
    (shows : flat.Shows accumulator correlator ⟨raw, none⟩)
    (enough : flat.Enough turns)
    {sample : Sample R}
    (fitsA : correlator.lengthA = sample.a.length)
    (fitsB : correlator.lengthB = sample.b.length)
    (few : accumulator.updates + 1 < 2 ^ 64) :
    flat.receive turns sample =
      .ok ((correlator.receive sample).layOut accumulator.sampling.recordUpdate
          ⟨raw ++ [⟨sample, correlator.config.rules.terms⟩], none⟩) := by
  rcases shows with ⟨_, rfl, keeps, updates⟩
  have fewer : correlator.count + 1 < 2 ^ 64 := updates ▸ few
  have depth : correlator.hierarchy.length = correlator.lags.length :=
    (List.length_map _).symm
  have positive : 0 < correlator.lags.length :=
    List.length_pos_iff.mpr keeps.inhabited
  have stands :=
    (keeps.standsAt accumulator.sampling).tally (correlator.count + 1) sample
  have ingested :=
    stands.ingest (List.length_pos_iff.mp (depth ▸ positive)) fitsA.symm
      fitsB.symm (keeps.count ▸ fewer) (depth ▸ enough 0 positive)
  show (countUp correlator.count >>= _) = _
  rw [countUp_ok fewer]
  show (FlatCorrelator.ingest _ _ _ _ >>= _) = _
  rw [List.length_nil] at ingested
  rw [ingested]
  show (countUp accumulator.updates >>= _) = _
  rw [countUp_ok few]
  have sumA :
      addOnto correlator.sumA sample.a = (correlator.receive sample).sumA :=
    addOnto_eq (keeps.sumA.trans fitsA)
  have sumB :
      addOnto correlator.sumB sample.b = (correlator.receive sample).sumB :=
    addOnto_eq (keeps.sumB.trans fitsB)
  rw [Correlator.layOut_of_sameSetup
      (Correlator.sameSetup_receive correlator sample), ← sumA, ← sumB]
  rfl

theorem Shows.finalize
    (shows : flat.Shows accumulator correlator course)
    (enough : flat.Enough turns)
    (few : accumulator.updates < 2 ^ 64) :
    flat.finalize turns =
      .ok (correlator.finalize.layOut accumulator.sampling
          (course.after correlator .finalize)) := by
  rcases shows with ⟨_, rfl, keeps, updates⟩
  have ended := keeps.stands.ended
  rcases course with ⟨raw, _ | arguments⟩
  · have running : correlator.isFinalized = false := ended
    have stands := keeps.standsAt accumulator.sampling
    have flushed := stands.flush (keeps.count ▸ updates ▸ few) enough
    have depth : correlator.hierarchy.length = correlator.lags.length :=
      (List.length_map _).symm
    rw [depth, List.length_nil] at flushed
    refine (if_neg (ne_of_eq_of_ne running Bool.false_ne_true)).trans ?_
    show (FlatCorrelator.flush _ _ (correlator.lags.length - 1) 0).map _ = _
    rw [flushed,
      Correlator.layOut_of_sameSetup (Correlator.sameSetup_finalize correlator),
      Correlator.finalize_of_running running]
    rfl
  · have closed : correlator.isFinalized = true := ended
    rw [Correlator.finalize_of_isFinalized closed]
    exact if_pos closed

/-! ## Requests -/

/-- A memory that shows an accumulator, whatever it has taken in. -/
def Mirrors (flat : FlatCorrelator R) (accumulator : Accumulator R) : Prop :=
  ∃ correlator course, flat.Shows accumulator correlator course

/--
A run in flat memory that ends without a trap, in the same way as an
accumulator.
-/
def EndsLike
    {ε : Type}
    (run : Except Trap (Except ε (FlatCorrelator R)))
    (outcome : Except ε (Accumulator R)) : Prop :=
  ∃ ending, run = .ok ending ∧ Alike Mirrors ending outcome

theorem EndsLike.mapError
    {ε δ : Type}
    {run : Except Trap (Except ε (FlatCorrelator R))}
    {outcome : Except ε (Accumulator R)}
    (ends : EndsLike run outcome)
    (change : ε → δ) :
    EndsLike (run.map (·.mapError change)) (outcome.mapError change) := by
  rcases ends with ⟨ending, rfl, alike⟩
  exact ⟨_, rfl, alike.mapError change⟩

theorem Shows.addPair
    (shows : flat.Shows accumulator correlator course)
    (enough : flat.Enough turns)
    {a b : List R}
    (few :
      ∀ next,
        correlator.addPair a b = .ok next → accumulator.updates + 1 < 2 ^ 64) :
    EndsLike (flat.addPair turns a b)
      ((correlator.addPair a b).map fun next =>
        accumulator.accept (.correlator next)) := by
  have same : flat.checkPair a b = correlator.checkPair a b := by
    rw [shows.held]
    rfl
  rw [FlatCorrelator.addPair, same]
  cases checked : correlator.checkPair a b with
  | error cause =>
      rw [Correlator.addPair_eq, checked]
      exact ⟨.error cause, rfl, .error cause⟩
  | ok _ =>
      have accepted :
          correlator.addPair a b = .ok (correlator.receive ⟨a, b⟩) := by
        rw [Correlator.addPair_eq, checked]
        rfl
      rcases Correlator.addPair_ok accepted with ⟨running, fitsA, fitsB, _⟩
      have step : correlator.Step (.addPair a b) _ :=
        .receive rfl running fitsA fitsB
      have keeps := shows.keeps.step step
      have ended := shows.keeps.stands.ended
      -- Nothing is accepted any more once the run was ended.
      rcases course with ⟨raw, _ | arguments⟩
      · have received : flat.receive turns ⟨a, b⟩ = .ok _ :=
          shows.receive enough fitsA fitsB (few _ accepted)
        rw [accepted]
        exact ⟨_, congrArg (Except.map Except.ok) received,
          .ok ⟨_, _, rfl, rfl, keeps, congrArg (· + 1) shows.updates⟩⟩
      · rw [running] at ended
        cases ended

theorem Shows.update
    (shows : flat.Shows accumulator correlator course)
    (enough : flat.Enough turns)
    {readings : Readings R}
    (few :
      ∀ next,
        correlator.update readings = .ok next →
        accumulator.updates + 1 < 2 ^ 64) :
    EndsLike (flat.update turns readings)
      ((correlator.update readings).map fun next =>
        accumulator.accept (.correlator next)) := by
  have same : flat.isFinalized = correlator.isFinalized := by
    rw [shows.held]
    rfl
  rw [FlatCorrelator.update, same]
  by_cases ended : correlator.isFinalized = true
  · rw [if_pos ended, Correlator.update, if_pos ended]
    exact ⟨_, rfl, .error _⟩
  · have pulled :
        correlator.update readings =
          (flat.pull readings >>= fun pair =>
            correlator.addPair pair.1 pair.2) := by
      rw [Correlator.update, if_neg ended, shows.held, FlatCorrelator.pull,
        Correlator.layOut]
      cases correlator.bindingA.pull readings with
      | error cause => rfl
      | ok a =>
          cases correlator.bindingB with
          | none => rfl
          | some binding =>
              show
                (binding.pull readings >>= _) =
                  ((binding.pull readings >>= _) >>= _)
              cases binding.pull readings <;> rfl
    rw [if_neg ended]
    rw [pulled] at few ⊢
    cases found : flat.pull readings with
    | error cause => exact ⟨_, rfl, .error cause⟩
    | ok pair =>
        rw [found] at few
        exact shows.addPair enough few

theorem Shows.setArguments
    (shows : flat.Shows accumulator correlator course)
    (arguments : Axes R) :
    Alike Mirrors (flat.setArguments arguments)
      ((correlator.setArguments arguments).map fun next =>
        { accumulator with statistic := .correlator next }) := by
  have same : flat.config = correlator.config := by
    rw [shows.held]
    rfl
  rw [FlatCorrelator.setArguments, Correlator.setArguments, same]
  cases sound : correlator.config.operation.checkArguments arguments with
  | error fault => exact .error _
  | ok _ =>
      have keeps := shows.keeps.step (.setArguments sound)
      have idle :
          course.after correlator (.setArguments arguments) = course := by
        apply Course.after_of_idle course rfl
        intro last
        cases last
      rw [idle] at keeps
      refine .ok ⟨correlator.withArguments arguments, course, rfl, ?_, keeps,
        shows.updates⟩
      rw [shows.held]
      rcases course with ⟨raw, _ | closing⟩ <;> rfl

theorem Shows.reschedule
    (shows : flat.Shows accumulator correlator course)
    (interval : Nat) :
    Alike Mirrors
      ((flat.sampling.setInterval interval).map fun sampling =>
        { flat with sampling }) (accumulator.reschedule interval) := by
  have same : flat.sampling = accumulator.sampling := by
    rw [shows.held]
    rfl
  rw [Accumulator.reschedule, same]
  cases changed : accumulator.sampling.setInterval interval with
  | error cause => exact .error cause
  | ok sampling =>
      refine .ok ⟨correlator, course, shows.kind, ?_, shows.keeps, ?_⟩
      · rw [shows.held]
        rfl
      · exact (Sampling.setInterval_ok changed).2.trans shows.updates

/--
A request ends without a trap, if the samples can still be counted after it: it
is refused for the same cause as for the accumulator, or carried out.
-/
theorem Shows.perform
    (shows : flat.Shows accumulator correlator course)
    (enough : flat.Enough turns)
    (request : Request R)
    (few : (accumulator.after request).updates < 2 ^ 64) :
    EndsLike (flat.perform turns request) (accumulator.perform request) := by
  have kind := shows.kind
  -- A sample that is taken in is counted.
  have counted :
      ∀ {accepted : Except Rejection (Correlator R)},
        accumulator.perform request =
          (accepted.map fun next =>
            accumulator.accept (.correlator next)).mapError .rejected →
        ∀ next, accepted = .ok next → accumulator.updates + 1 < 2 ^ 64 := by
    rintro _ performed next rfl
    rw [Accumulator.after, performed] at few
    exact few
  cases request with
  | add a =>
      have performed :=
        (Accumulator.perform_through_id kind (.add a)).symm.trans
          (Accumulator.perform_addPair kind a a)
      rw [performed]
      exact (shows.addPair enough (counted performed)).mapError _
  | addPair a b =>
      have performed := Accumulator.perform_addPair kind a b
      rw [performed]
      exact (shows.addPair enough (counted performed)).mapError _
  | update readings =>
      have performed := Accumulator.perform_update kind readings
      rw [performed]
      exact (shows.update enough (counted performed)).mapError _
  | finalize =>
      have performed := Accumulator.perform_finalize kind
      rw [Accumulator.after, performed] at few
      rw [performed]
      exact ⟨_, congrArg (Except.map Except.ok) (shows.finalize enough few),
        .ok ⟨_, _, rfl, rfl, shows.keeps.step .finalize,
          shows.updates.trans correlator.finalize_count_means.1.symm⟩⟩
  | clear =>
      rw [Accumulator.perform, Accumulator.clear?, kind]
      exact ⟨_, rfl, .error _⟩
  | setArguments arguments =>
      rw [Accumulator.perform, Accumulator.setArguments?, kind]
      exact ⟨_, rfl, (shows.setArguments arguments).mapError _⟩
  | setInterval interval =>
      rw [Accumulator.perform, Accumulator.setInterval, kind]
      exact ⟨_, rfl, .error _⟩
  | reschedule interval =>
      exact ⟨_, rfl, (shows.reschedule interval).mapError _⟩

/-! ## Creation -/

omit [Exponential R] in
theorem ofRows_empty
    (capacity width : Nat)
    (grid : List LagRange) :
    FlatTable.ofRows
        (Hierarchy.rows (Hierarchy.empty capacity width grid : Hierarchy R)) =
      ⟨Scalar.zeros ((grid.flatMap LagRange.steps).length * width),
        List.replicate (grid.flatMap LagRange.steps).length 0⟩ := by
  have rows :
      Hierarchy.rows (Hierarchy.empty capacity width grid : Hierarchy R) =
        List.replicate (grid.flatMap LagRange.steps).length
          (Row.empty width) := by
    induction grid with
    | nil => rfl
    | cons lags above hypothesis =>
        show List.replicate lags.count (Row.empty width) ++ Hierarchy.rows _ = _
        rw [hypothesis, List.flatMap_cons, List.length_append,
          LagRange.length_steps, List.replicate_append_replicate]
  rw [rows, FlatTable.ofRows, List.flatMap_replicate, List.map_replicate]
  show FlatTable.mk (List.replicate _ (Scalar.zeros width)).flatten _ = _
  rw [Scalar.zeros, List.flatten_replicate_replicate]
  rfl

/--
The memory before the first sample is that of a correlator that was just
created.
-/
theorem layOut_of_create
    {config : Config R}
    {bindingA : Binding}
    {bindingB : Option Binding}
    {interval : Nat}
    {valueShape : Shape}
    (made :
      Correlator.create config bindingA bindingB interval = .ok correlator)
    (fitting :
      config.operation.valueShape bindingA.length
          (bindingB.getD bindingA).length =
        .ok valueShape)
    (sampling : Sampling) :
    correlator.layOut sampling ⟨[], none⟩ =
      blank config bindingA bindingB valueShape sampling interval := by
  rcases map_ok made with ⟨shape, fits, created⟩
  cases fits.symm.trans fitting
  have lags :
      correlator.lags =
        LagGrid.build (config.resolve interval).linearWidth
          ((config.resolve interval).span interval) := by
    rw [← created]
    exact Hierarchy.map_lags_empty _ _ _
  have table : FlatTable.ofRows correlator.rows =
      (blank config bindingA bindingB valueShape sampling interval).table := by
    rw [← created]
    exact ofRows_empty _ _ _
  rw [Correlator.layOut, lags, Hierarchy.reached_of_nil, table, ← created]
  rfl

/--
A correlator that is accepted is shown by the memory before the first sample.
-/
theorem mirrors_blank
    {sourceA : Source}
    {sourceB : Option Source}
    {config : Config R}
    {bindingA : Binding}
    {bindingB : Option Binding}
    {interval : Nat}
    {valueShape : Shape}
    {sampling : Sampling}
    (created :
      Accumulator.correlator sourceA sourceB config interval =
        .ok ⟨sampling, .correlator correlator⟩)
    (spaced : Sampling.every interval = .ok sampling)
    (made :
      Correlator.create config bindingA bindingB interval = .ok correlator)
    (fitting :
      config.operation.valueShape bindingA.length
          (bindingB.getD bindingA).length =
        .ok valueShape) :
    (blank config bindingA bindingB valueShape sampling interval).Mirrors
      ⟨sampling, .correlator correlator⟩ := by
  rcases Accumulator.blank_ok created with ⟨_, kind, begun, empty⟩
  cases kind
  refine ⟨correlator, ⟨[], none⟩, rfl,
    (layOut_of_create made fitting sampling).symm, ?_,
    (Sampling.every_ok spaced).2.trans begun.records.count.symm⟩
  rcases map_ok made with ⟨_, _, parts⟩
  refine ⟨begun.records.stands (begun.fits (.refl correlator)),
    begun.laidOut (.refl correlator), ?_,
    congrArg (List.map Level.design) empty, begun.records.count, ?_, ?_⟩
  · rw [begun.lags]
    exact List.cons_ne_nil _ _
  · rw [← parts]
    exact Scalar.length_zeros _
  · rw [← parts]
    exact Scalar.length_zeros _

/--
With the bindings and the sampling given, the last step of the two creations is
alike.
-/
theorem alike_blank
    (sourceA : Source)
    (sourceB : Option Source)
    (bindingB : Option Binding)
    {config : Config R}
    {interval : Nat}
    {sampling : Sampling}
    {bindingA : Binding}
    (spaced : Sampling.every interval = .ok sampling)
    (created :
      ∀ correlator,
        Correlator.create config bindingA bindingB interval = .ok correlator →
        Accumulator.correlator sourceA sourceB config interval =
          .ok ⟨sampling, .correlator correlator⟩) :
    Alike Mirrors
      (config.operation.valueShape bindingA.length
        (bindingB.getD bindingA).length >>= fun valueShape =>
        .ok (blank config bindingA bindingB valueShape sampling interval))
      (Correlator.create config bindingA bindingB interval >>= fun correlator =>
        .ok ⟨sampling, .correlator correlator⟩) := by
  cases made : Correlator.create config bindingA bindingB interval with
  | ok correlator =>
      rcases map_ok made with ⟨valueShape, fitting, _⟩
      rw [fitting]
      exact .ok (mirrors_blank (created correlator made) spaced made fitting)
  | error cause =>
      rw [Correlator.create] at made
      cases fitting : config.operation.valueShape bindingA.length
          (bindingB.getD bindingA).length with
      | ok valueShape =>
          rw [fitting] at made
          cases made
      | error reason =>
          rw [fitting] at made
          cases made
          exact .error _

/--
A correlator is created in flat memory whenever an accumulator is, and refused
with it.
-/
theorem alike_create
    (sourceA : Source)
    (sourceB : Option Source)
    (config : Config R)
    (interval : Nat) :
    Alike Mirrors (create sourceA sourceB config interval)
      (Accumulator.correlator sourceA sourceB config interval) := by
  refine Alike.bind fun sampling spaced => Alike.bind fun _ checked =>
    Alike.bind fun bindingA boundA => ?_
  cases sourceB with
  | none =>
      refine alike_blank sourceA none none spaced fun correlator made => ?_
      simp only [Accumulator.correlator, spaced, checked, boundA]
      show (Correlator.create config bindingA none interval >>= _) = _
      rw [made]
      rfl
  | some source =>
      refine Alike.bind fun bindingB boundB =>
        alike_blank sourceA (some source) bindingB spaced fun correlator made =>
          ?_
      simp only [Accumulator.correlator, spaced, checked, boundA, boundB]
      show (Correlator.create config bindingA bindingB interval >>= _) = _
      rw [made]
      rfl

/-! ## Whole runs -/

theorem Mirrors.after
    (mirrors : flat.Mirrors accumulator)
    (enough : flat.Enough turns)
    (request : Request R)
    (few : (accumulator.after request).updates < 2 ^ 64) :
    ∃ next,
      flat.after turns request = .ok next ∧
      next.lags = flat.lags ∧
      next.Mirrors (accumulator.after request) := by
  rcases mirrors with ⟨correlator, course, shows⟩
  rcases shows.perform enough request few with ⟨ending, performed, alike⟩
  rw [FlatCorrelator.after, performed]
  cases outcome : accumulator.perform request with
  | error refusal =>
      rw [outcome] at alike
      cases alike with
      | error cause =>
          rw [Accumulator.after_of_error outcome]
          exact ⟨flat, rfl, rfl, correlator, course, shows⟩
  | ok reached =>
      rw [outcome] at alike
      cases alike with
      | @ok next _ values =>
          rw [Accumulator.after_of_ok outcome]
          refine ⟨next, rfl, ?_, values⟩
          rcases values with ⟨later, _, shown⟩
          rcases Accumulator.perform_correlator shows.kind outcome with
            ⟨after, kind, step⟩
          cases kind.symm.trans shown.kind
          rw [shown.held, shows.held]
          exact step.sameSetup.lags

/--
A run ends without a trap, if the samples can still be counted at its end.
-/
theorem Mirrors.afterAll
    (mirrors : flat.Mirrors accumulator)
    (enough : flat.Enough turns)
    {requests : List (Request R)}
    (few : (accumulator.afterAll requests).updates < 2 ^ 64) :
    ∃ last,
      flat.afterAll turns requests = .ok last ∧
      last.lags = flat.lags ∧
      last.Mirrors (accumulator.afterAll requests) := by
  induction requests generalizing flat accumulator with
  | nil => exact ⟨flat, rfl, rfl, mirrors⟩
  | cons request rest hypothesis =>
      have further := (accumulator.after request).updates_le_afterAll rest
      rcases mirrors.after enough request (Nat.lt_of_le_of_lt further few) with
        ⟨next, reached, lags, mirrored⟩
      have enough' : next.Enough turns := by
        rw [Enough, lags]
        exact enough
      rcases hypothesis mirrored enough' few with ⟨last, ended, kept, shown⟩
      refine ⟨last, ?_, kept.trans lags, shown⟩
      rw [FlatCorrelator.afterAll, List.foldlM_cons, reached]
      exact ended

/--
A correlator is created in flat memory, too, and goes through the same requests
there.
-/
theorem exists_shows
    {sourceA : Source}
    {sourceB : Option Source}
    {config : Config R}
    {interval : Nat}
    {start : Accumulator R}
    (created :
      Accumulator.correlator sourceA sourceB config interval = .ok start)
    {requests : List (Request R)}
    (few : (start.afterAll requests).updates < 2 ^ 64) :
    ∃ flat last correlator course,
      create sourceA sourceB config interval = .ok flat ∧
      flat.afterAll (flat.lags.length - ·) requests = .ok last ∧
      last.Shows (start.afterAll requests) correlator course := by
  have alike := alike_create sourceA sourceB config interval
  rw [created] at alike
  cases made : create sourceA sourceB config interval with
  | error cause =>
      rw [made] at alike
      cases alike
  | ok flat =>
      rw [made] at alike
      cases alike with
      | ok mirrors =>
          rcases mirrors.afterAll (fun level _ => Nat.le_refl _) few with
            ⟨last, ended, _, correlator, course, shows⟩
          exact ⟨flat, last, correlator, course, rfl, ended, shows⟩

end FlatCorrelator

end RunningStatistics
