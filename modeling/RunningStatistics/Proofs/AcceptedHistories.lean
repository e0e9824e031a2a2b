import RunningStatistics.Proofs.AcceptedSamples
import RunningStatistics.Proofs.Courses
import RunningStatistics.Proofs.SampleSizes
import RunningStatistics.Proofs.Scheduling

/-!
# Counters and the accepted history

An accumulator in a pool is asked for something by its owner and, at the steps
at which it is free and due, by the registries in which it is entered.  Its
history is the list of the samples that it has accepted of all these requests.

The number of accepted samples is kept in several places: by the sampling, by
the statistic, and in the first row of a correlator.  All of them agree with the
history at all times.  A series keeps the part of the history since it was
cleared last.

The first row of a correlator counts the samples also after its end.
-/

namespace RunningStatistics

variable {R : Type}

/-! ## The requests to one accumulator -/

section Requests

variable [Scalar R] [Exponential R]

/--
What an event asks of an accumulator: the request of its owner, or an update by
a registry at a step at which the accumulator is free and due.
-/
def Event.asked
    (pool : Pool R)
    (id : AccumulatorId) :
    Event R → List (Request R)
  | .request other asked => if other = id then [asked] else []
  | .step registry readings holds now =>
      if id ∈ registry.entries ∧
          Registry.isFreeAndDue holds now pool id = true then
        [.update readings]
      else
        []
  | .create _ => []

namespace Registry

/--
A visit is an update if the accumulator is free and due, and nothing otherwise.
-/
theorem get?_visit_eq
    (readings : Readings R)
    (holds : Holds)
    (step : Nat)
    {pool : Pool R}
    {id : AccumulatorId}
    {accumulator : Accumulator R}
    (present : pool.get? id = some accumulator) :
    (visit readings holds step pool id).1.get? id =
      some (if isFreeAndDue holds step pool id = true then
          accumulator.after (.update readings)
        else
          accumulator) := by
  rcases visit_cases readings holds step present with ⟨next, visited, found⟩
  rw [found, isFreeAndDue, present, Option.any_some]
  generalize (visit readings holds step pool id).2 = outcome at visited
  generalize holds id = hold at visited
  cases visited with
  | updated due accepted =>
      have performed : accumulator.perform (.update readings) = .ok next := by
        rw [Accumulator.perform, accepted]
        rfl
      rw [due, Accumulator.after_of_ok performed]
      rfl
  | @refused cause due refused =>
      have performed :
          accumulator.perform (.update readings) =
            .error (.rejected cause) := by
        rw [Accumulator.perform, refused]
        rfl
      rw [Accumulator.after_of_error performed, ite_self]
  | idle readable early =>
      rw [early, Bool.and_false]
      rfl
  | shared due => rfl
  | exclusive => rfl

end Registry

namespace Pool

/-- An accumulator goes through what an event asks of it. -/
theorem get?_after_eq
    {pool : Pool R}
    {id : AccumulatorId}
    {accumulator : Accumulator R}
    (present : pool.get? id = some accumulator)
    (event : Event R) :
    (pool.after event).get? id =
      some (accumulator.afterAll (event.asked pool id)) := by
  cases event with
  | create created => exact get?_insert present created
  | request asked request =>
      rw [Event.asked]
      by_cases same : asked = id
      · subst same
        rw [if_pos rfl]
        exact get?_after_request_self present request
      · rw [if_neg same]
        exact (get?_after_request_ne pool (Ne.symm same) request).trans present
  | step registry readings holds step =>
      rw [Event.asked, after, Registry.step]
      by_cases member : id ∈ registry.entries
      · have visited :=
          (Registry.visitAll_eq readings holds step registry.nodup pool).2
            id member
        show
          (Registry.visitAll readings holds step registry.entries pool).1.get?
            id = _
        rw [visited, Registry.get?_visit_eq readings holds step present]
        by_cases due : Registry.isFreeAndDue holds step pool id = true
        · rw [if_pos due, if_pos ⟨member, due⟩]
          rfl
        · rw [if_neg due, if_neg (due ·.2)]
          rfl
      · rw [if_neg (member ·.1)]
        exact (Registry.get?_visitAll_of_not_mem readings holds step
            member pool).trans present

/-- What events in turn ask of an accumulator. -/
def asked (id : AccumulatorId) : Pool R → List (Event R) → List (Request R)
  | _, [] => []
  | pool, event :: rest =>
      event.asked pool id ++ asked id (pool.after event) rest

/-- An accumulator goes through everything that events ask of it. -/
theorem get?_afterAll_eq
    {pool : Pool R}
    {id : AccumulatorId}
    {accumulator : Accumulator R}
    (present : pool.get? id = some accumulator)
    (events : List (Event R)) :
    (pool.afterAll events).get? id =
      some (accumulator.afterAll (pool.asked id events)) := by
  induction events generalizing pool accumulator with
  | nil => exact present
  | cons event rest hypothesis =>
      have later := hypothesis (get?_after_eq present event)
      rw [asked, Accumulator.afterAll, List.foldl_append]
      exact later

end Pool

end Requests

/-! ## The history of an accumulator -/

namespace Statistic

/-- The source of the samples, or of those of A. -/
def sourceA : Statistic R → SourceId
  | moments statistic => statistic.binding.source
  | series statistic => statistic.binding.source
  | correlator statistic => statistic.bindingA.source

/-- The source of the samples of B, which is that of A if there is only one. -/
def sourceB : Statistic R → SourceId
  | moments statistic => statistic.binding.source
  | series statistic => statistic.binding.source
  | correlator statistic => statistic.effectiveBindingB.source

end Statistic

/-- What became of the samples that a series has accepted. -/
structure Ledger (R : Type) where
  /-- The samples that were thrown away when the series was cleared. -/
  cleared : List (List R)
  /-- The samples since then. -/
  kept : List (List R)

namespace Ledger

/-- Nothing accepted yet. -/
def empty : Ledger R :=
  ⟨[], []⟩

/-- All samples, thrown away or not. -/
def all (ledger : Ledger R) : List (List R) :=
  ledger.cleared ++ ledger.kept

/-- The ledger after a request that is carried out. -/
def enter (source : SourceId) (ledger : Ledger R) : Request R → Ledger R
  | .clear => ⟨ledger.all, []⟩
  | request =>
      { ledger with
        kept :=
          ledger.kept ++ (request.sample? source source).toList.map (·.a) }

theorem all_enter
    (source : SourceId)
    (ledger : Ledger R)
    (request : Request R) :
    (ledger.enter source request).all =
      ledger.all ++ (request.sample? source source).toList.map (·.a) := by
  cases request with
  | clear => rfl
  | _ => exact (List.append_assoc _ _ _).symm

end Ledger

variable [Scalar R] [Exponential R]

namespace Accumulator

/-- The accumulators as they are created. -/
inductive IsNew : Accumulator R → Prop where
  | moments {source : Source} {interval : Nat} {start : Accumulator R}
      (created : Accumulator.moments source interval = .ok start) : IsNew start
  | series {source : Source} {interval : Nat} {start : Accumulator R}
      (created : Accumulator.series source interval = .ok start) : IsNew start
  | correlator {sourceA : Source} {sourceB : Option Source} {config : Config R}
      {interval : Nat} {start : Accumulator R}
      (created :
        Accumulator.correlator sourceA sourceB config interval = .ok start) :
      IsNew start

omit [Exponential R] in
/-- An accumulator that was just created has accepted nothing. -/
theorem IsNew.updates_eq
    {accumulator : Accumulator R}
    (new : accumulator.IsNew) :
    accumulator.updates = 0 := by
  cases new with
  | moments created =>
      rcases moments_ok created with ⟨_, _, spaced, _⟩
      exact (Sampling.every_ok spaced).2
  | series created =>
      rcases series_ok created with ⟨_, _, spaced, _⟩
      exact (Sampling.every_ok spaced).2
  | correlator created =>
      rcases correlator_parts created with ⟨_, _, _, _, _, spaced, _, _⟩
      exact (Sampling.every_ok spaced).2

/-- The samples that an accumulator accepts of its requests. -/
def history
    (accumulator : Accumulator R)
    (requests : List (Request R)) :
    List (Sample R) :=
  accumulator.accepted accumulator.statistic.sourceA
    accumulator.statistic.sourceB requests

/-- The ledger after requests, of which the refused ones do not count. -/
def ledger (source : SourceId) :
    Accumulator R → Ledger R → List (Request R) → Ledger R
  | _, entered, [] => entered
  | accumulator, entered, request :: rest =>
      match accumulator.perform request with
      | .ok next => next.ledger source (entered.enter source request) rest
      | .error _ => accumulator.ledger source entered rest

theorem ledger_cons_of_ok
    {accumulator next : Accumulator R}
    {request : Request R}
    (performed : accumulator.perform request = .ok next)
    (source : SourceId)
    (entered : Ledger R)
    (rest : List (Request R)) :
    accumulator.ledger source entered (request :: rest) =
      next.ledger source (entered.enter source request) rest := by
  rw [ledger, performed]

theorem ledger_cons_of_error
    {accumulator : Accumulator R}
    {request : Request R}
    {refusal : Refusal}
    (refused : accumulator.perform request = .error refusal)
    (source : SourceId)
    (entered : Ledger R)
    (rest : List (Request R)) :
    accumulator.ledger source entered (request :: rest) =
      accumulator.ledger source entered rest := by
  rw [ledger, refused]

/-- The ledger of a series is made of its history. -/
theorem all_ledger
    (source : SourceId)
    (accumulator : Accumulator R)
    (entered : Ledger R)
    (requests : List (Request R)) :
    (accumulator.ledger source entered requests).all =
      entered.all ++ accumulator.samples source requests := by
  induction requests generalizing accumulator entered with
  | nil => exact (List.append_nil _).symm
  | cons request rest hypothesis =>
      rw [samples]
      cases performed : accumulator.perform request with
      | error refusal =>
          rw [ledger_cons_of_error performed, accepted_cons_of_error performed]
          exact hypothesis accumulator entered
      | ok next =>
          rw [ledger_cons_of_ok performed, accepted_cons_of_ok performed,
            hypothesis, Ledger.all_enter, List.map_append, List.append_assoc]
          rfl

/-! ### Counters of one request -/

variable {accumulator next : Accumulator R} {request : Request R}

/-- What a request hands over is counted if the request is carried out. -/
theorem Step.updates_eq
    (step : accumulator.Step request next)
    (sourceA sourceB : SourceId) :
    next.updates =
      accumulator.updates +
        (request.sample? sourceA sourceB).toList.length := by
  cases step with
  | add accepted => rfl
  | addPair kind accepted => rfl
  | update accepted => rfl
  | finalize kind => rfl
  | clear kind => rfl
  | setArguments kind accepted => rfl
  | setInterval adjustable accepted =>
      exact (Sampling.setInterval_ok accepted).2
  | reschedule accepted => exact (Sampling.setInterval_ok accepted).2

theorem Step.count_moments
    (step : accumulator.Step request next)
    {moments : Moments R}
    (kind : accumulator.statistic = .moments moments)
    (sourceA sourceB : SourceId) :
    ∃ after,
      next.statistic = .moments after ∧
      after.count =
        moments.count + (request.sample? sourceA sourceB).toList.length := by
  cases step with
  | add accepted =>
      rw [kind] at accepted
      rcases map_ok accepted with ⟨after, added, rfl⟩
      exact ⟨after, rfl, (Moments.add_ok added).2.2.1⟩
  | update accepted =>
      rw [kind] at accepted
      rcases map_ok (Statistic.update_moments accepted) with ⟨after, added, rfl⟩
      exact ⟨after, rfl, (Moments.add_ok added).2.2.1⟩
  | setInterval adjustable accepted => exact ⟨moments, kind, rfl⟩
  | reschedule accepted => exact ⟨moments, kind, rfl⟩
  | addPair other accepted => cases kind.symm.trans other
  | finalize other => cases kind.symm.trans other
  | clear other => cases kind.symm.trans other
  | setArguments other accepted => cases kind.symm.trans other

/-- A series holds what its ledger says is kept. -/
theorem Step.enter_series
    (step : accumulator.Step request next)
    {series : Series R}
    (kind : accumulator.statistic = .series series)
    {entered : Ledger R}
    (holds : series.samples.toList = entered.kept) :
    ∃ after,
      next.statistic = .series after ∧
      after.binding = series.binding ∧
      after.samples.toList =
        (entered.enter series.binding.source request).kept := by
  have added : ∀ {sample : List R} {statistic : Statistic R},
      (Statistic.series series).add sample = .ok statistic →
        ∃ after, statistic = .series after ∧ after.binding = series.binding ∧
          after.samples.toList = entered.kept ++ [sample] := by
    intro sample statistic accepted
    rcases map_ok accepted with ⟨after, added, rfl⟩
    rcases Series.add_ok added with ⟨_, binding, samples⟩
    refine ⟨after, rfl, binding, ?_⟩
    rw [samples, Array.toList_push, holds]
  have idle : series.samples.toList = entered.kept ++ [] := by
    rw [holds, List.append_nil]
  cases step with
  | add accepted =>
      rw [kind] at accepted
      exact added accepted
  | update accepted =>
      rw [kind] at accepted
      exact added (Statistic.update_series accepted)
  | clear other =>
      cases kind.symm.trans other
      exact ⟨series.clear, rfl, rfl, rfl⟩
  | setInterval adjustable accepted => exact ⟨series, kind, rfl, idle⟩
  | reschedule accepted => exact ⟨series, kind, rfl, idle⟩
  | addPair other accepted => cases kind.symm.trans other
  | finalize other => cases kind.symm.trans other
  | setArguments other accepted => cases kind.symm.trans other

/-! ### Counters of whole runs -/

/-- The number of accepted samples grows by the length of the history. -/
theorem updates_afterAll
    (start : Accumulator R)
    (sourceA sourceB : SourceId)
    (requests : List (Request R)) :
    (start.afterAll requests).updates =
      start.updates + (start.accepted sourceA sourceB requests).length := by
  have none : start.updates = start.updates + ([] : List (Sample R)).length :=
    rfl
  refine afterAll_accepted sourceA sourceB
    (fun accumulator taken =>
      accumulator.updates = start.updates + taken.length) ?_ none requests
  intro accumulator next request taken counted performed
  rw [(step_of_perform performed).updates_eq sourceA sourceB, counted,
    List.length_append, Nat.add_assoc]

theorem count_moments_afterAll
    {start : Accumulator R}
    {moments : Moments R}
    (kind : start.statistic = .moments moments)
    (sourceA sourceB : SourceId)
    (requests : List (Request R)) :
    ∃ last,
      (start.afterAll requests).statistic = .moments last ∧
      last.count =
        moments.count + (start.accepted sourceA sourceB requests).length := by
  have none : moments.count = moments.count + ([] : List (Sample R)).length :=
    rfl
  refine afterAll_accepted sourceA sourceB
    (fun accumulator taken =>
      ∃ last,
        accumulator.statistic = .moments last ∧
        last.count = moments.count + taken.length) ?_
    ⟨moments, kind, none⟩ requests
  rintro accumulator next request taken ⟨last, kind, counted⟩ performed
  rcases (step_of_perform performed).count_moments kind sourceA sourceB with
    ⟨after, reached, count⟩
  refine ⟨after, reached, ?_⟩
  rw [count, counted, List.length_append, Nat.add_assoc]

theorem series_afterAll
    {accumulator : Accumulator R}
    {series : Series R}
    (kind : accumulator.statistic = .series series)
    {entered : Ledger R}
    (holds : series.samples.toList = entered.kept)
    (requests : List (Request R)) :
    ∃ last,
      (accumulator.afterAll requests).statistic = .series last ∧
      last.binding = series.binding ∧
      last.samples.toList =
        (accumulator.ledger series.binding.source entered requests).kept := by
  induction requests generalizing accumulator series entered with
  | nil => exact ⟨series, kind, rfl, holds⟩
  | cons request rest hypothesis =>
      rw [afterAll, List.foldl_cons, ← afterAll]
      cases performed : accumulator.perform request with
      | error refusal =>
          rw [after_of_error performed, ledger_cons_of_error performed]
          exact hypothesis kind holds
      | ok next =>
          rw [after_of_ok performed, ledger_cons_of_ok performed]
          rcases (step_of_perform performed).enter_series kind holds with
            ⟨after, reached, binding, samples⟩
          rcases hypothesis reached samples with ⟨last, ended, same, kept⟩
          rw [binding] at same kept
          exact ⟨last, ended, same, kept⟩

end Accumulator

/-! ### The course of a correlator -/

namespace Correlator

variable {correlator after : Correlator R} {course : Course R}

/-- The course of a run is made of the samples that were accepted. -/
theorem Stands.samples_after
    (stands : correlator.Stands course)
    {request : Request R}
    (step : correlator.Step request after) :
    (course.after correlator request).raw.map (·.sample) =
      course.raw.map (·.sample) ++
        (request.sample? correlator.bindingA.source
          correlator.effectiveBindingB.source).toList := by
  have arrived : (correlator.arrival request).map (·.sample) =
      (request.sample? correlator.bindingA.source
        correlator.effectiveBindingB.source).toList := by
    rw [arrival]
    cases request.sample? correlator.bindingA.source
      correlator.effectiveBindingB.source <;>
      rfl
  rw [Course.raw_after, ← arrived]
  split
  next closed =>
    -- After its end a correlator carries out only requests that hand nothing
    -- over.
    have idle : correlator.arrival request = [] := by
      cases step with
      | receive handed running fitsA fitsB =>
          rw [stands.ended, closed] at running
          cases running
      | finalize => rfl
      | setArguments sound => rfl
      | reschedule => rfl
    rw [idle, List.map_nil, List.append_nil]
  next => rw [List.map_append]

/-- The first row counts the samples of the course. -/
theorem Stands.head?_sampleSizes
    (stands : correlator.Stands course)
    (laid : LagRange.LaidOut 0 correlator.lags)
    {range : LagRange}
    (first : correlator.lags[0]? = some range)
    (least : range.first ≤ 0)
    (covered : 0 < range.stop)
    (row : range.row 0 = 0) :
    correlator.sampleSizes.head? = some course.raw.length := by
  rw [lags, List.getElem?_map] at first
  rcases Option.map_eq_some_iff.mp first with ⟨level, present, rfl⟩
  have stored := stands.carries.getElem?_rows laid present least covered
  rw [row] at stored
  rw [List.head?_eq_getElem?, getElem?_sampleSizes stored, count_directRow]
  rfl

end Correlator

/--
A correlator stands where the course of its accepted samples leads, ended or
not.
-/
theorem Accumulator.exists_course
    {sourceA : Source}
    {sourceB : Option Source}
    {config : Config R}
    {interval : Nat}
    {start : Accumulator R}
    (created :
      Accumulator.correlator sourceA sourceB config interval = .ok start)
    (requests : List (Request R)) :
    ∃ initial correlator course,
      start.statistic = .correlator initial ∧
      initial.Created sourceA sourceB config interval ∧
      (start.afterAll requests).statistic = .correlator correlator ∧
      initial.SameSetup correlator ∧
      correlator.Stands course ∧
      course.raw.map (·.sample) =
        start.accepted sourceA.id (sourceB.getD sourceA).id requests := by
  rcases correlator_ok created with ⟨initial, kind, made⟩
  have blank : initial.Stands ⟨[], none⟩ :=
    made.records.stands (made.fits (.refl initial))
  rcases afterAll_accepted sourceA.id (sourceB.getD sourceA).id
    (fun accumulator taken =>
      ∃ correlator course,
        accumulator.statistic = .correlator correlator ∧
        initial.SameSetup correlator ∧
        correlator.Stands course ∧
        course.raw.map (·.sample) = taken)
    (by
      rintro accumulator next request taken
        ⟨correlator, course, kind, same, stands, samples⟩ performed
      rcases perform_correlator kind performed with ⟨after, reached, step⟩
      have later := stands.samples_after step
      rw [same.effectiveBindingB, same.bindingA, made.readsA, made.readsB,
        samples] at later
      exact ⟨after, _, reached, same.trans step.sameSetup, stands.step step,
        later⟩)
    ⟨initial, ⟨[], none⟩, kind, .refl initial, blank, rfl⟩ requests with
    ⟨correlator, course, reached, same, stands, samples⟩
  exact ⟨initial, correlator, course, kind, made, reached, same, stands,
    samples⟩

/-! ## All counters -/

/-- The record of a series is what its history leaves in the ledger. -/
theorem Accumulator.exists_record
    {source : Source}
    {interval : Nat}
    {start : Accumulator R}
    (created : Accumulator.series source interval = .ok start)
    (requests : List (Request R)) :
    let ledger := start.ledger source.id .empty requests
    ∃ series,
      (start.afterAll requests).statistic = .series series ∧
      source.bind = .ok series.binding ∧
      series.samples.toList = ledger.kept ∧
      (start.history requests).map (·.a) = ledger.all := by
  intro ledger
  rcases series_ok created with ⟨binding, bound, _, kind⟩
  have reads : binding.source = source.id := (Source.bind_ok bound).1
  have blank :
      (Series.start binding : Series R).samples.toList = Ledger.empty.kept :=
    rfl
  rcases series_afterAll kind blank requests with ⟨series, reached, same, kept⟩
  rw [show (Series.start binding : Series R).binding.source = source.id
      from reads] at kept
  refine ⟨series, reached, same ▸ bound, kept, ?_⟩
  rw [all_ledger, history, kind]
  show (start.accepted binding.source binding.source requests).map (·.a) = _
  rw [reads]
  rfl

/-- The lag zero has the first row of an accepted correlator. -/
theorem Correlator.Created.exists_first_lags
    {initial correlator : Correlator Float}
    {sourceA : Source}
    {sourceB : Option Source}
    {config : Config Float}
    {interval : Nat}
    (made : initial.Created sourceA sourceB config interval)
    (same : initial.SameSetup correlator) :
    ∃ range,
      correlator.lags[0]? = some range ∧
      range.first ≤ 0 ∧
      0 < range.stop ∧
      range.row 0 = 0 := by
  have wide := (Config.width_resolve made.sound interval).1
  rw [same.lags, made.lags, made.resolved]
  exact LagGrid.exists_first_range (Nat.lt_of_lt_of_le Nat.two_pos wide)
    (LagGrid.reaches_zero made.sound interval)

/-- The two counters and the sums of a correlator are those of its history. -/
theorem Accumulator.exists_counts
    {sourceA : Source}
    {sourceB : Option Source}
    {config : Config Float}
    {interval : Nat}
    {start : Accumulator Float}
    (created :
      Accumulator.correlator sourceA sourceB config interval = .ok start)
    (requests : List (Request Float)) :
    ∃ correlator,
      (start.afterAll requests).statistic = .correlator correlator ∧
      correlator.Sums (start.history requests) ∧
      correlator.sampleSizes.head? = some (start.history requests).length := by
  rcases exists_course created requests with
    ⟨initial, correlator, course, kind, made, reached, same, stands, samples⟩
  rcases exists_sums created requests with ⟨_, _, _, _, reached', _, _, sums⟩
  cases reached.symm.trans reached'
  have taken : start.history requests =
      start.accepted sourceA.id (sourceB.getD sourceA).id requests := by
    rw [history, kind]
    show
      start.accepted initial.bindingA.source
        initial.effectiveBindingB.source requests = _
    rw [made.readsA, made.readsB]
  rcases made.exists_first_lags same with ⟨range, first, least, covered, row⟩
  have counts :=
    stands.head?_sampleSizes (made.laidOut same) first least covered row
  rw [taken, ← samples, List.length_map]
  exact ⟨correlator, reached, samples ▸ sums, counts⟩

/--
Whatever happens in a pool, the counters of an accumulator are the length of its
history, a correlator sums up the samples of both streams, and a series is as
long as the history if and only if nothing was cleared away.
-/
theorem counters_agree_with_history
    {pool : Pool Float}
    {id : AccumulatorId}
    {start : Accumulator Float}
    (present : pool.get? id = some start)
    (new : start.IsNew)
    (events : List (Event Float)) :
    let requests := pool.asked id events
    let history := start.history requests
    let ledger := start.ledger start.statistic.sourceA .empty requests
    ∃ final,
      (pool.afterAll events).get? id = some final ∧
      final.updates = history.length ∧
      match final.statistic with
      | .moments moments => moments.count = history.length
      | .series series =>
          series.length ≤ history.length ∧
            history.map (·.a) = ledger.cleared ++ series.samples.toList ∧
            (series.length = history.length ↔ ledger.cleared = [])
      | .correlator correlator =>
          correlator.count = history.length ∧
            correlator.sampleSizes.head? = some history.length ∧
            correlator.sumA = (history.map (·.a)).foldl Scalar.addEach
              (Scalar.zeros correlator.lengthA) ∧
            correlator.sumB = (history.map (·.b)).foldl Scalar.addEach
              (Scalar.zeros correlator.lengthB) := by
  intro requests history ledger
  refine ⟨start.afterAll requests, Pool.get?_afterAll_eq present events, ?_, ?_⟩
  · rw [start.updates_afterAll start.statistic.sourceA start.statistic.sourceB,
      new.updates_eq, Nat.zero_add]
    rfl
  cases new with
  | moments created =>
      rcases Accumulator.moments_ok created with ⟨binding, _, _, kind⟩
      rcases Accumulator.count_moments_afterAll kind start.statistic.sourceA
        start.statistic.sourceB requests with ⟨last, reached, count⟩
      rw [reached]
      exact count.trans (Nat.zero_add _)
  | @series source interval _ created =>
      rcases Accumulator.exists_record created requests with
        ⟨series, reached, bound, kept, all⟩
      have reads : ledger = start.ledger source.id .empty requests := by
        rcases Accumulator.series_ok created with ⟨binding, bound, _, kind⟩
        show start.ledger start.statistic.sourceA .empty requests = _
        rw [kind, ← (Source.bind_ok bound).1]
        rfl
      rw [← reads] at kept all
      have lengths :
          ledger.cleared.length + series.length = history.length := by
        have total := congrArg List.length all
        rw [List.length_map, Ledger.all, List.length_append, ← kept,
          Array.length_toList] at total
        exact total.symm
      rw [reached]
      refine ⟨by omega, ?_, ?_⟩
      · rw [kept]
        exact all
      · rw [← List.length_eq_zero_iff]
        omega
  | correlator created =>
      rcases Accumulator.exists_counts created requests with
        ⟨correlator, reached, sums, counts⟩
      rw [reached]
      exact ⟨sums.count, counts, sums.sumA, sums.sumB⟩

/--
What a record and a correlator of a pool are asked for, in part at a registry's
steps.
-/
def trialEvents : List (Event Float) :=
  let registry := Registry.empty.afterAll [.register ⟨0⟩, .register ⟨1⟩]
  let readings : Readings Float :=
    fun source => [Scalar.ofNat source.index, Scalar.ofNat 3]
  [.request ⟨0⟩ (.add [Scalar.ofNat 1, Scalar.ofNat 2]),
    .request ⟨0⟩ (.add [Scalar.ofNat 1]),
    .request ⟨1⟩
      (.addPair [Scalar.ofNat 1, Scalar.ofNat 2]
        [Scalar.ofNat 4, Scalar.ofNat 5]),
    .step registry readings unheld 3, .step registry readings unheld 4,
    .request ⟨0⟩ .clear, .request ⟨1⟩ .finalize,
    .request ⟨0⟩ (.setInterval 3), .step registry readings unheld 6]

theorem counters_agree_with_history_trial :
    ∃ (pairs record last : Accumulator Float) (series : Series Float)
        (correlator : Correlator Float),
      Accumulator.correlator (trialSource 0) (some (trialSource 1))
          trialConfig 2 =
        .ok pairs ∧
      ((Pool.mk #[trialSeries, pairs]).afterAll trialEvents).get? ⟨0⟩ =
        some record ∧
      ((Pool.mk #[trialSeries, pairs]).afterAll trialEvents).get? ⟨1⟩ =
        some last ∧
      record.statistic = .series series ∧
      record.updates = 3 ∧
      series.length ≠ 3 ∧
      last.statistic = .correlator correlator ∧
      last.updates = 2 ∧
      correlator.count = 2 ∧
      correlator.sampleSizes.head? = some 2 := by
  have begun : Accumulator.series (trialSource 0) 2 = .ok trialSeries := rfl
  have ran :
      ((Accumulator.correlator (trialSource 0) (some (trialSource 1))
         trialConfig 2).map fun pairs =>
        let pool := Pool.mk #[trialSeries, pairs]
        let requests := pool.asked ⟨0⟩ trialEvents
        ((trialSeries.history requests).length,
          decide ((trialSeries.ledger ⟨0⟩ .empty requests).cleared = []),
          (pairs.history (pool.asked ⟨1⟩ trialEvents)).length)) =
        .ok (3, false, 2) := by
    decide +kernel
  rcases map_ok ran with ⟨pairs, created, counted⟩
  simp only [Prod.mk.injEq, decide_eq_false_iff_not] at counted
  rcases counted with ⟨samples, cleared, samplesOfPairs⟩
  let pool := Pool.mk #[trialSeries, pairs]
  have present : pool.get? ⟨0⟩ = some trialSeries := rfl
  have present' : pool.get? ⟨1⟩ = some pairs := rfl
  rcases Accumulator.exists_record begun (pool.asked ⟨0⟩ trialEvents) with
    ⟨series, kind, _⟩
  rcases Accumulator.exists_counts created (pool.asked ⟨1⟩ trialEvents) with
    ⟨correlator, kind', _⟩
  rcases counters_agree_with_history present (.series begun) trialEvents with
    ⟨record, found, updates, agrees⟩
  rcases counters_agree_with_history present' (.correlator created)
      trialEvents with
    ⟨last, found', updates', agrees'⟩
  cases found.symm.trans (Pool.get?_afterAll_eq present trialEvents)
  cases found'.symm.trans (Pool.get?_afterAll_eq present' trialEvents)
  rw [kind] at agrees
  rw [kind', samplesOfPairs] at agrees'
  refine ⟨pairs, _, _, series, correlator, created, found, found', kind,
    updates.trans samples, ?_, kind', updates'.trans samplesOfPairs, agrees'.1,
    agrees'.2.1⟩
  rw [← samples]
  exact fun full => cleared (agrees.2.2.mp full)

end RunningStatistics
