import RunningStatistics.Proofs.Acceptance
import RunningStatistics.Proofs.AcceptedHistories
import RunningStatistics.Proofs.SessionEffects

/-!
# Stored sources

A cell takes only as many values as it holds already, so it holds as many values
as its shape has places whatever is written to it.  The number of values that an
accumulator expects was fixed when it was created, from the shape of its source
at that moment.  Shapes never change, so an accumulator of cells is never handed
a sample of a wrong length.

Sessions without computed sources keep this invariant under every command.  What
is left to refuse an update is the end of a run.

A cell keeps its shape and holds, of all that is written to it, what filled the
shape last.  The end of a run is that of a command to the correlator, or to the
one that it was copied from.  Visits at a step of a registry fail besides only
where an accumulator is held.
-/

namespace RunningStatistics

variable {R : Type}

/-! ## Writing to cells -/

namespace Cell

/--
The cell after values were written to it; a write that is rejected changes
nothing.
-/
def write (cell : Cell R) (values : List R) : Cell R :=
  match cell.set values with
  | .ok next => next
  | .error _ => cell

/-- The cell after writes in turn, rejected or not. -/
def writeAll (cell : Cell R) (writes : List (List R)) : Cell R :=
  writes.foldl write cell

/-- A write is accepted if it brings a value for every place of the shape. -/
theorem write_parts
    (cell : Cell R)
    (values : List R) :
    (cell.write values).shape = cell.shape ∧
    (cell.write values).values =
      if values.length = cell.shape.size then values else cell.values := by
  by_cases fits : values.length = cell.values.length
  · rw [write, set, dif_pos fits, if_pos (fits.trans cell.filled)]
    exact ⟨rfl, rfl⟩
  · rw [write, set, dif_neg fits,
      if_neg fun full => fits (full.trans cell.filled.symm)]
    exact ⟨rfl, rfl⟩

/-- A cell holds what was written last among the lists that fill its shape. -/
theorem writeAll_parts
    (cell : Cell R)
    (writes : List (List R)) :
    (cell.writeAll writes).shape = cell.shape ∧
    (cell.writeAll writes).values =
      (writes.filter (·.length = cell.shape.size)).getLast?.getD
        cell.values := by
  induction writes generalizing cell with
  | nil => exact ⟨rfl, rfl⟩
  | cons values rest hypothesis =>
      rcases cell.write_parts values with ⟨shape, written⟩
      have later := hypothesis (cell.write values)
      rw [shape, written] at later
      refine ⟨later.1, later.2.trans ?_⟩
      by_cases fits : values.length = cell.shape.size
      · simp [fits, List.getLast?_cons]
      · simp [fits]

end Cell

/-! ## Bindings -/

/-- The ties of a statistic to its sources. -/
def Statistic.bindings : Statistic R → List Binding
  | moments statistic => [statistic.binding]
  | series statistic => [statistic.binding]
  | correlator statistic => [statistic.bindingA, statistic.effectiveBindingB]

/-- A binding has the shape that its source declares. -/
theorem Source.declared_bind
    {shapes : SourceId → Option Shape}
    {source : Source}
    {binding : Binding}
    (declared : shapes source.id = some source.shape)
    (bound : source.bind = .ok binding) :
    shapes binding.source = some binding.shape := by
  rw [(Source.bind_ok bound).1, (Source.bind_ok bound).2]
  exact declared

namespace Accumulator

/-- Whether an accumulator is a correlator. -/
def isCorrelator (accumulator : Accumulator R) : Bool :=
  match accumulator.statistic with
  | .correlator _ => true
  | _ => false

/--
An accumulator that suits sources of given shapes: it expects from each of its
sources as many values as the shape has places.  If it is a correlator, its run
was ended or not.
-/
structure Suits
    (accumulator : Accumulator R)
    (shapes : SourceId → Option Shape)
    (ended : Prop) : Prop where
  declared : ∀ binding ∈ accumulator.statistic.bindings,
    shapes binding.source = some binding.shape
  complete : accumulator.statistic.IsComplete
  ended : ∀ correlator, accumulator.statistic = .correlator correlator →
    (correlator.isFinalized = true ↔ ended)

namespace Suits

variable
    {accumulator : Accumulator R}
    {shapes shapes' : SourceId → Option Shape}
    {ended ended' : Prop}

/--
Other sources may come in, as long as the shapes of the present ones stay.
-/
theorem mono
    (suits : accumulator.Suits shapes ended)
    (same : ended ↔ ended')
    (kept : ∀ id shape, shapes id = some shape → shapes' id = some shape) :
    accumulator.Suits shapes' ended' where
  declared := fun binding member => kept _ _ (suits.declared binding member)
  complete := suits.complete
  ended := fun correlator kind => (suits.ended correlator kind).trans same

theorem congr
    (suits : accumulator.Suits shapes ended)
    (same : ended ↔ ended') :
    accumulator.Suits shapes ended' :=
  suits.mono same fun _ _ declared => declared

end Suits

end Accumulator

/-! ## Sound sessions -/

namespace Session

/--
The accumulators whose runs were ended, after one more command: by the command,
or before they were copied.
-/
def noteEnds
    (session : Session R)
    (ended : List AccumulatorId) :
    Command R → List AccumulatorId
  | .finalize name =>
      match session.accumulator name with
      | .ok (id, _) => id :: ended
      | .error _ => ended
  | .copy name _ =>
      match session.accumulator name with
      | .ok (original, _) =>
          if original ∈ ended then
            ⟨session.pool.members.size⟩ :: ended
          else
            ended
      | .error _ => ended
  | _ => ended

/--
All sources are cells, all accumulators suit them, and the runs that were ended
are those of known accumulators.
-/
structure Sound (session : Session R) (ended : List AccumulatorId) : Prop where
  stored :
    ∀ (index : Nat) (observable : Observable R),
      session.sources[index]? = some observable →
      ∃ cell, observable = .stored cell
  suits : ∀ id accumulator, session.pool.get? id = some accumulator →
    accumulator.Suits session.shapes (id ∈ ended)
  known : ∀ id ∈ ended, ∃ accumulator, session.pool.get? id = some accumulator

/-- The run of an accumulator that comes in next has not been ended. -/
theorem Sound.fresh
    {session : Session R}
    {ended : List AccumulatorId}
    (sound : session.Sound ended) :
    ⟨session.pool.members.size⟩ ∉ ended := by
  intro member
  rcases sound.known _ member with ⟨accumulator, present⟩
  exact absurd (Array.getElem?_eq_some_iff.mp present).1 (Nat.lt_irrefl _)

/-- A command that is about no accumulator ends no run. -/
theorem noteEnds_of_unasked
    {session : Session R}
    {command : Command R}
    (unasked : command.subject? = none)
    (uncopied : ∀ name target, command ≠ .copy name target)
    (ended : List AccumulatorId) :
    session.noteEnds ended command = ended := by
  cases command with
  | finalize name => cases unasked
  | copy name target => exact absurd rfl (uncopied name target)
  | _ => rfl

theorem sound_empty : (empty : Session R).Sound [] where
  stored := nofun
  suits := nofun
  known := nofun

/-- Cells deliver as many values as their shapes say. -/
theorem Sound.delivers
    {session : Session R}
    {ended : List AccumulatorId}
    (sound : session.Sound ended)
    (id : SourceId)
    (shape : Shape)
    (declared : session.shapes id = some shape) :
    (session.readings id).length = shape.size := by
  rcases Option.map_eq_some_iff.mp declared with ⟨observable, present, rfl⟩
  rcases sound.stored id.index observable present with ⟨cell, rfl⟩
  rw [readings, present]
  exact cell.filled

/-! ### Sources -/

theorem shapes_addSource
    (session : Session R)
    (name : String)
    (observable : Observable R)
    {id : SourceId}
    {shape : Shape}
    (declared : session.shapes id = some shape) :
    (session.addSource name observable).shapes id = some shape := by
  rcases Option.map_eq_some_iff.mp declared with ⟨old, present, rfl⟩
  have bound : id.index < session.sources.size :=
    (Array.getElem?_eq_some_iff.mp present).1
  show (session.sources.push observable)[id.index]?.map _ = _
  rw [Array.getElem?_push_lt bound, ← Array.getElem?_eq_getElem bound, present]
  rfl

namespace Sound

variable {session next : Session R} {ended ended' : List AccumulatorId}

/-- A cell comes in. -/
theorem enter
    (sound : session.Sound ended)
    (name : String)
    (cell : Cell R) :
    (session.addSource name (.stored cell)).Sound ended where
  stored := by
    intro index observable present
    replace present :
        (session.sources.push (.stored cell))[index]? = some observable :=
      present
    rw [Array.getElem?_push] at present
    split at present
    next => exact ⟨cell, (Option.some.inj present).symm⟩
    next => exact sound.stored index observable present
  suits :=
    fun id accumulator present =>
      (sound.suits id accumulator present).mono .rfl fun _ _ =>
        shapes_addSource session name _
  known := sound.known

/-- A cell is overwritten. -/
theorem write
    (sound : session.Sound ended)
    {id : SourceId}
    {old new : Observable R}
    {values : List R}
    (present : session.sources[id.index]? = some old)
    (written : old.set values = .ok new) :
    { session with sources := session.sources.setIfInBounds id.index new }.Sound
      ended := by
  rcases sound.stored id.index old present with ⟨cell, rfl⟩
  rcases map_ok written with ⟨after, accepted, rfl⟩
  have bound : id.index < session.sources.size :=
    (Array.getElem?_eq_some_iff.mp present).1
  have sources :
      ∀ index : Nat,
        (session.sources.setIfInBounds id.index (.stored after))[index]? =
          if id.index = index then
            some (.stored after)
          else
            session.sources[index]? := by
    intro index
    rw [Array.getElem?_setIfInBounds]
    by_cases same : id.index = index
    · simp [← same, bound]
    · simp [same]
  refine ⟨?_, ?_, sound.known⟩
  · intro index observable found
    replace found := (sources index).symm.trans found
    split at found
    next => exact ⟨after, (Option.some.inj found).symm⟩
    next => exact sound.stored index observable found
  · intro id' accumulator found
    refine (sound.suits id' accumulator found).mono .rfl
      fun source shape declared => ?_
    show
      (session.sources.setIfInBounds id.index
          (.stored after))[source.index]?.map
          _ =
        _
    rw [sources]
    split
    next same =>
      rw [shapes, ← same, present] at declared
      rw [← declared]
      exact congrArg some (Cell.set_ok accepted).1
    next => exact declared

/-- An accumulator comes in that suits the sources. -/
theorem insert
    (sound : session.Sound ended)
    (name : String)
    {created : Accumulator R}
    (suits :
      created.Suits session.shapes (⟨session.pool.members.size⟩ ∈ ended'))
    (others :
      ∀ id,
        id ∈ ended' ↔
          id ∈ ended ∨ id = ⟨session.pool.members.size⟩ ∧ id ∈ ended') :
    (session.addAccumulator name created).Sound ended' := by
  have found :
      ∀ id : AccumulatorId,
        (session.addAccumulator name created).pool.get? id =
          if id = ⟨session.pool.members.size⟩ then
            some created
          else
            session.pool.get? id := by
    intro id
    show (session.pool.members.push created)[id.index]? = _
    rw [Array.getElem?_push]
    rcases id with ⟨index⟩
    simp only [AccumulatorId.mk.injEq, Pool.get?]
  refine ⟨sound.stored, ?_, ?_⟩
  · intro id accumulator present
    rw [found] at present
    split at present
    next fresh =>
      subst fresh
      cases present
      exact suits
    next other =>
      refine (sound.suits id accumulator present).congr ?_
      rw [others id, or_iff_left]
      exact fun fresh => other fresh.1
  · intro id member
    rw [found]
    rcases (others id).mp member with earlier | ⟨rfl, _⟩
    · split
      · exact ⟨created, rfl⟩
      · exact sound.known id earlier
    · exact ⟨created, if_pos rfl⟩

end Sound

end Session

/-! ## Requests -/

variable [Scalar R] [Exponential R]

namespace Statistic

theorem bindings_add
    {statistic after : Statistic R}
    {sample : List R}
    (accepted : statistic.add sample = .ok after) :
    after.bindings = statistic.bindings := by
  cases statistic with
  | moments moments =>
      rcases map_ok accepted with ⟨next, added, rfl⟩
      exact congrArg ([·]) (Moments.add_ok added).2.1
  | series series =>
      rcases map_ok accepted with ⟨next, added, rfl⟩
      exact congrArg ([·]) (Series.add_ok added).2.1
  | correlator correlator =>
      rcases map_ok accepted with ⟨next, added, rfl⟩
      rcases Correlator.addPair_ok added with ⟨_, _, _, rfl⟩
      rfl

theorem bindings_update
    {statistic after : Statistic R}
    {readings : Readings R}
    (accepted : statistic.update readings = .ok after) :
    after.bindings = statistic.bindings := by
  cases statistic with
  | moments moments => exact bindings_add (update_moments accepted)
  | series series => exact bindings_add (update_series accepted)
  | correlator correlator =>
      rcases map_ok accepted with ⟨next, updated, rfl⟩
      rcases Correlator.addPair_ok (Correlator.update_ok updated) with
        ⟨_, _, _, rfl⟩
      rfl

end Statistic

namespace Accumulator

/-- A request leaves the ties of an accumulator alone. -/
theorem Step.bindings
    {accumulator next : Accumulator R}
    {request : Request R}
    (step : accumulator.Step request next) :
    next.statistic.bindings = accumulator.statistic.bindings := by
  cases step with
  | add accepted => exact Statistic.bindings_add accepted
  | update accepted => exact Statistic.bindings_update accepted
  | addPair kind accepted =>
      rcases Correlator.addPair_ok accepted with ⟨_, _, _, rfl⟩
      rw [kind]
      rfl
  | @finalize correlator kind =>
      have same := Correlator.sameSetup_finalize correlator
      rw [kind, Statistic.bindings, Statistic.bindings, same.bindingA,
        same.effectiveBindingB]
  | clear kind =>
      rw [kind]
      rfl
  | setArguments kind accepted =>
      rcases Correlator.setArguments_ok accepted with ⟨_, rfl⟩
      rw [kind]
      rfl
  | setInterval adjustable accepted => rfl
  | reschedule accepted => rfl

namespace Suits

variable
    {accumulator : Accumulator R}
    {shapes : SourceId → Option Shape}
    {ended : Prop}

/--
A request ends the run of a correlator if it asks for that, and otherwise does
not.
-/
theorem after
    (suits : accumulator.Suits shapes ended)
    (request : Request R) :
    (accumulator.after request).Suits shapes (ended ∨ request = .finalize) := by
  cases performed : accumulator.perform request with
  | error refusal =>
      rw [after_of_error performed]
      refine ⟨suits.declared, suits.complete, fun correlator kind => ?_⟩
      rw [suits.ended correlator kind, or_iff_left]
      rintro rfl
      rw [perform_finalize kind] at performed
      cases performed
  | ok next =>
      rw [after_of_ok performed]
      have step := step_of_perform performed
      refine ⟨step.bindings ▸ suits.declared,
        step.isComplete suits.complete, ?_⟩
      intro correlator kind
      cases before : accumulator.statistic with
      | moments moments =>
          rcases step.count_moments before ⟨0⟩ ⟨0⟩ with ⟨_, kept, _⟩
          cases kind.symm.trans kept
      | series series =>
          have entered :
              series.samples.toList =
                (Ledger.mk [] series.samples.toList).kept :=
            rfl
          rcases step.enter_series before entered with ⟨_, kept, _⟩
          cases kind.symm.trans kept
      | correlator earlier =>
          rcases perform_correlator before performed with ⟨later, reached, step⟩
          cases kind.symm.trans reached
          by_cases last : request = .finalize
          · subst last
            simp [step.isFinalized_of_last]
          · rw [step.isFinalized_of_goesOn last, suits.ended earlier before,
              or_iff_left last]

theorem afterAll
    (suits : accumulator.Suits shapes ended)
    (requests : List (Request R)) :
    (accumulator.afterAll requests).Suits shapes
      (ended ∨ .finalize ∈ requests) := by
  induction requests generalizing accumulator ended with
  | nil => exact suits.congr (or_iff_left List.not_mem_nil).symm
  | cons request rest hypothesis =>
      refine (hypothesis (suits.after request)).congr ?_
      rw [List.mem_cons, or_assoc, eq_comm]

/--
If the sources deliver what their shapes say, only the end of its run refuses an
update.
-/
theorem update
    (suits : accumulator.Suits shapes ended)
    {readings : Readings R}
    (delivers :
      ∀ id shape, shapes id = some shape → (readings id).length = shape.size) :
    (accumulator.isCorrelator = true ∧ ended →
     accumulator.update readings = .error .finalized) ∧
    (¬(accumulator.isCorrelator = true ∧ ended) →
     ∃ next, accumulator.update readings = .ok next) := by
  have fits : ∀ binding ∈ accumulator.statistic.bindings,
      binding.length = (readings binding.source).length := by
    intro binding member
    exact (delivers _ _ (suits.declared binding member)).symm
  have complete := suits.complete
  rw [Accumulator.update, isCorrelator]
  cases kind : accumulator.statistic with
  | moments moments =>
      rw [kind] at fits complete
      have length :
          moments.components.length =
            (readings moments.binding.source).length :=
        Eq.trans complete (fits _ List.mem_cons_self)
      refine ⟨fun closed => absurd closed.1 Bool.false_ne_true, fun _ => ?_⟩
      rw [Statistic.update, Binding.pull_of_fits (fits _ List.mem_cons_self)]
      show
        ∃ next,
          ((moments.add (readings moments.binding.source)).map _).map _ =
            .ok next
      rw [Moments.add, ← length, requireLength_self]
      exact ⟨_, rfl⟩
  | series series =>
      rw [kind] at fits
      have length := fits _ List.mem_cons_self
      refine ⟨fun closed => absurd closed.1 Bool.false_ne_true, fun _ => ?_⟩
      rw [Statistic.update, Binding.pull_of_fits length]
      show
        ∃ next,
          ((series.add (readings series.binding.source)).map _).map _ = .ok next
      rw [Series.add, ← length, requireLength_self]
      exact ⟨_, rfl⟩
  | correlator correlator =>
      rw [kind] at fits
      have isFinalized := suits.ended correlator kind
      rw [Statistic.update, Correlator.update_eq_addPair]
      refine ⟨?_, fun running => ?_⟩
      · rintro ⟨_, closed⟩
        rw [Correlator.addPair_of_isFinalized (isFinalized.mpr closed)]
        rfl
      · have goesOn : correlator.isFinalized = false := by
          rw [← Bool.not_eq_true, isFinalized]
          exact fun closed => running ⟨rfl, closed⟩
        rw [Correlator.addPair_of_fits goesOn (fits _ List.mem_cons_self)
          (fits _ (List.mem_cons_of_mem _ List.mem_cons_self))]
        exact ⟨_, rfl⟩

end Suits

end Accumulator

/-! ## Sessions -/

namespace Session

/--
An accumulator that is created for sources suits them, and its run goes on.
-/
theorem Creates.suits
    {shapes : SourceId → Option Shape}
    {accumulator : Accumulator R}
    (creates : Creates shapes accumulator) :
    accumulator.Suits shapes False := by
  cases creates with
  | moments declared created =>
      rcases Accumulator.moments_ok created with ⟨binding, bound, _, kind⟩
      refine ⟨?_, (Accumulator.IsReachable.moments created).isComplete, ?_⟩
      · rw [kind, Statistic.bindings, List.forall_mem_singleton]
        exact Source.declared_bind declared bound
      · intro correlator other
        cases kind.symm.trans other
  | series declared created =>
      rcases Accumulator.series_ok created with ⟨binding, bound, _, kind⟩
      refine ⟨?_, (Accumulator.IsReachable.series created).isComplete, ?_⟩
      · rw [kind, Statistic.bindings, List.forall_mem_singleton]
        exact Source.declared_bind declared bound
      · intro correlator other
        cases kind.symm.trans other
  | @correlator sourceA sourceB config interval accumulator declaredA declaredB
      created =>
      rcases Accumulator.correlator_parts created with
        ⟨bindingA, bindingB, initial, boundA, boundB, _, made, kind⟩
      rcases map_ok made with ⟨valueShape, _, rfl⟩
      have tiedA := Source.declared_bind declaredA boundA
      refine ⟨?_, (Accumulator.IsReachable.correlator created).isComplete, ?_⟩
      · rw [kind, Statistic.bindings, List.forall_mem_cons,
          List.forall_mem_singleton]
        refine ⟨tiedA, ?_⟩
        cases sourceB with
        | none =>
            cases boundB
            exact tiedA
        | some source =>
            rcases map_ok boundB with ⟨binding, bound, rfl⟩
            exact Source.declared_bind (declaredB source rfl) bound
      · intro correlator same
        cases kind.symm.trans same
        exact iff_of_false Bool.false_ne_true not_false

/-- The accumulators whose runs were ended, after a script. -/
def endedBy
    (session : Session R)
    (ended : List AccumulatorId) :
    List (Command R) → List AccumulatorId
  | [] => ended
  | command :: rest =>
      (session.execute command).1.endedBy (session.noteEnds ended command) rest

/-! ### One command -/

variable {session next : Session R} {ended ended' : List AccumulatorId}

/--
The accumulators go through requests, of which only one to end a run ends any.
-/
theorem Sound.change
    (sound : session.Sound ended)
    (sources : next.sources = session.sources)
    (asked : AccumulatorId → List (Request R))
    (pool :
      ∀ id,
        next.pool.get? id = (session.pool.get? id).map (·.afterAll (asked id)))
    (ends :
      ∀ id ∈ ended', ∃ accumulator, session.pool.get? id = some accumulator)
    (noted :
      ∀ id accumulator,
        session.pool.get? id = some accumulator →
        (id ∈ ended' ↔ id ∈ ended ∨ .finalize ∈ asked id)) :
    next.Sound ended' where
  stored := by
    rw [sources]
    exact sound.stored
  suits := by
    intro id accumulator present
    rw [pool] at present
    rcases Option.map_eq_some_iff.mp present with ⟨earlier, found, rfl⟩
    have shapes : next.shapes = session.shapes := by
      funext source
      rw [Session.shapes, Session.shapes, sources]
    rw [shapes]
    exact ((sound.suits id earlier found).afterAll (asked id)).congr
      (noted id earlier found).symm
  known := by
    intro id member
    rcases ends id member with ⟨accumulator, present⟩
    rw [pool, present]
    exact ⟨_, rfl⟩

/--
At a step of a registry each accumulator goes through what the step asks of it.
-/
theorem get?_step
    (registry : Registry)
    (readings : Readings R)
    (holds : Holds)
    (step : Nat)
    (pool : Pool R)
    (id : AccumulatorId) :
    (registry.step readings holds step pool).1.get? id =
      (pool.get? id).map
        (·.afterAll ((Event.step registry readings holds step).asked
            pool id)) := by
  cases present : pool.get? id with
  | some accumulator =>
      exact Pool.get?_after_eq present (.step registry readings holds step)
  | none =>
      show
        (Registry.visitAll readings holds step registry.entries pool).1.get?
          id = none
      by_cases member : id ∈ registry.entries
      · rw [(Registry.visitAll_eq readings holds step registry.nodup pool).2
            id member, Registry.visit, present]
        exact present
      · exact (Registry.get?_visitAll_of_not_mem readings holds step
            member pool).trans present

omit [Scalar R] [Exponential R] in
/-- A step of a registry asks nobody to end a run. -/
theorem finalize_notMem_asked
    (registry : Registry)
    (readings : Readings R)
    (holds : Holds)
    (step : Nat)
    (pool : Pool R)
    (id : AccumulatorId) :
    .finalize ∉ (Event.step registry readings holds step).asked pool id := by
  rw [Event.asked]
  split <;> simp

omit [Scalar R] [Exponential R] in
/--
What a command asks of an accumulator ends its run only if the command is to do
that.
-/
theorem mem_noteEnds_of_subject
    {command : Command R}
    {name : String}
    {id other : AccumulatorId}
    {accumulator : Accumulator R}
    (subject : command.subject? = some name)
    (found : session.accumulator name = .ok (id, accumulator)) :
    other ∈ session.noteEnds ended command ↔
      other ∈ ended ∨
      other = id ∧ .finalize ∈ command.requests session.readings := by
  cases command with
  | finalize name =>
      cases subject
      rw [noteEnds, found]
      simp [Command.requests, or_comm]
  | copy name target => cases subject
  | _ => simp [noteEnds, Command.requests]

omit [Scalar R] [Exponential R] in
/-- A command about an accumulator that there is not ends no run. -/
theorem noteEnds_of_unknown
    {command : Command R}
    (unasked :
      ∀ name,
        command.subject? = some name →
        ∃ failure, session.accumulator name = .error failure)
    (uncopied :
      ∀ name target,
        command = .copy name target →
        ∃ failure, session.accumulator name = .error failure) :
    session.noteEnds ended command = ended := by
  cases command with
  | finalize name =>
      rcases unasked name rfl with ⟨failure, unknown⟩
      rw [noteEnds, unknown]
  | copy name target =>
      rcases uncopied name target rfl with ⟨failure, unknown⟩
      rw [noteEnds, unknown]
  | _ => rfl

omit [Scalar R] [Exponential R] in
/-- A copy is ended if and only if its original is. -/
theorem Sound.copy
    (sound : session.Sound ended)
    {name target : String}
    {id : AccumulatorId}
    {original : Accumulator R}
    (found : session.accumulator name = .ok (id, original)) :
    (session.addAccumulator target original).Sound
      (session.noteEnds ended (.copy name target)) := by
  have noted : session.noteEnds ended (.copy name target) =
      if id ∈ ended then ⟨session.pool.members.size⟩ :: ended else ended := by
    rw [noteEnds, found]
  have suits := sound.suits id original (get?_of_accumulator found)
  rw [noted]
  refine sound.insert _ (suits.congr ?_) fun other => ?_
  · split
    next ending => simp [ending]
    next running => exact iff_of_false running sound.fresh
  · split
    next ending =>
      rw [List.mem_cons]
      by_cases new : other = ⟨session.pool.members.size⟩ <;> simp [new]
    next running => exact (or_iff_left_of_imp And.right).symm

/-- One accumulator goes through what a command asks of it. -/
theorem Sound.ask
    (sound : session.Sound ended)
    {command : Command R}
    {name : String}
    {id : AccumulatorId}
    {accumulator : Accumulator R}
    (subject : command.subject? = some name)
    (found : session.accumulator name = .ok (id, accumulator)) :
    (session.setAccumulator id
      (accumulator.afterAll (command.requests session.readings))).Sound
      (session.noteEnds ended command) := by
  have present := get?_of_accumulator found
  refine sound.change rfl
    (fun other => if other = id then command.requests session.readings else [])
    ?_ ?_ ?_
  · intro other
    show (session.pool.set id _).get? other = _
    by_cases same : other = id
    · subst same
      rw [Pool.get?_set_self _ _ present, present, if_pos rfl]
      rfl
    · rw [Pool.get?_set_ne _ _ same, if_neg same]
      exact Option.map_id'.symm
  · intro other member
    rcases (mem_noteEnds_of_subject subject found).mp member with
      earlier | ⟨rfl, _⟩
    · exact sound.known other earlier
    · exact ⟨accumulator, present⟩
  · intro other _ _
    rw [mem_noteEnds_of_subject subject found]
    split
    next same => simp [same]
    next other => simp [other]

/-- A sound session without computed sources stays sound. -/
theorem Sound.effect
    (sound : session.Sound ended)
    {command : Command R}
    (effect : session.Effect command next)
    (stored : command.isComputed = false) :
    next.Sound (session.noteEnds ended command) := by
  cases effect with
  | enter kind unasked uncopied =>
      rcases kind stored with ⟨cell, rfl⟩
      rw [noteEnds_of_unasked unasked uncopied]
      exact sound.enter _ cell
  | write present written => exact sound.write present written
  | create created unasked uncopied =>
      rw [noteEnds_of_unasked unasked uncopied]
      refine sound.insert _
        (created.suits.congr (iff_of_false not_false sound.fresh)) fun id => ?_
      rw [or_iff_left]
      rintro ⟨rfl, member⟩
      exact sound.fresh member
  | copy found => exact sound.copy found
  | ask subject found => exact sound.ask subject found
  | @step name step held registry holds =>
      refine sound.change rfl _
        (get?_step registry session.readings holds step session.pool)
        sound.known fun id _ _ => ?_
      rw [or_iff_left
          (finalize_notMem_asked registry _ holds step session.pool id)]
      rfl
  | idle sources pool unasked uncopied =>
      rw [noteEnds_of_unknown unasked uncopied]
      refine sound.change sources (fun _ => []) ?_ sound.known ?_
      · intro id
        rw [pool]
        exact Option.map_id'.symm
      · intro id _ _
        exact (or_iff_left List.not_mem_nil).symm

/-! ### Scripts -/

theorem Sound.run
    (sound : session.Sound ended)
    {script : List (Command R)}
    (stored : ∀ command ∈ script, command.isComputed = false) :
    (session.run script).1.Sound (session.endedBy ended script) := by
  induction script generalizing session ended with
  | nil => exact sound
  | cons command rest hypothesis =>
      rw [List.forall_mem_cons] at stored
      exact hypothesis
        (sound.effect (session.effect_execute command) stored.1) stored.2

/-! ### Updates -/

/--
A visit fails only because the accumulator is held, or because its run was
ended.
-/
theorem Sound.fails
    (sound : session.Sound ended)
    {holds : Holds}
    {step : Nat}
    {id : AccumulatorId}
    {cause : Rejection}
    (fails : Registry.Fails session.readings holds step session.pool id cause) :
    (cause = .inUse ∧ holds id ≠ .free) ∨
    (cause = .finalized ∧
     id ∈ ended ∧
     ∃ accumulator,
       session.pool.get? id = some accumulator ∧
       accumulator.isCorrelator = true) := by
  rcases fails with ⟨accumulator, next, present, visit⟩
  rcases (sound.suits id accumulator present).update sound.delivers with
    ⟨closed, goesOn⟩
  generalize hold : holds id = held at visit
  cases visit with
  | shared due => exact .inl ⟨rfl, nofun⟩
  | exclusive => exact .inl ⟨rfl, nofun⟩
  | refused due refused =>
      right
      by_cases ending : accumulator.isCorrelator = true ∧ id ∈ ended
      · cases refused.symm.trans (closed ending)
        exact ⟨rfl, ending.2, accumulator, present, ending.1⟩
      · rcases goesOn ending with ⟨_, accepted⟩
        cases refused.symm.trans accepted

end Session

/--
In a session without computed sources all sources deliver as many values as they
declare, and an update goes through unless the run of a correlator was ended or,
at a step of a registry, an accumulator is held.
-/
theorem stored_sources_never_misfit
    (script : List (Command R))
    (stored : ∀ command ∈ script, command.isComputed = false) :
    let session := ((Session.empty : Session R).run script).1
    let ended := (Session.empty : Session R).endedBy [] script
    (∀ (cell : Cell R) (writes : List (List R)),
      (cell.writeAll writes).shape = cell.shape ∧
      (cell.writeAll writes).values =
        (writes.filter (·.length = cell.shape.size)).getLast?.getD
          cell.values) ∧
    (∀ (index : Nat) (observable : Observable R),
      session.sources[index]? = some observable →
      (∃ cell, observable = .stored cell) ∧
      observable.sample.length = observable.declaredLength) ∧
    (∀ id accumulator,
      session.pool.get? id = some accumulator →
      (accumulator.isCorrelator = true ∧ id ∈ ended →
       accumulator.update session.readings = .error .finalized) ∧
      (¬(accumulator.isCorrelator = true ∧ id ∈ ended) →
       ∃ next, accumulator.update session.readings = .ok next)) ∧
    ∀ (registry : Registry) (holds : Holds) (step : Nat),
      (∀ id cause,
        Registry.Fails session.readings holds step session.pool id cause →
        (cause = .inUse ∧ holds id ≠ .free) ∨
        (cause = .finalized ∧
         id ∈ ended ∧
         ∃ accumulator,
           session.pool.get? id = some accumulator ∧
           accumulator.isCorrelator = true)) ∧
      ∀ cause,
        (registry.step session.readings holds step session.pool).2 =
          .error cause →
        ∃ id ∈ registry.entries,
          Registry.Fails session.readings holds step session.pool id cause := by
  intro session ended
  have sound : session.Sound ended := Session.sound_empty.run stored
  refine ⟨Cell.writeAll_parts, ?_, ?_, ?_⟩
  · intro index observable present
    rcases sound.stored index observable present with ⟨cell, rfl⟩
    exact ⟨⟨cell, rfl⟩, Observable.length_sample_stored cell⟩
  · intro id accumulator present
    exact (sound.suits id accumulator present).update sound.delivers
  · intro registry holds step
    refine ⟨fun id cause => sound.fails, fun cause reply => ?_⟩
    rcases Registry.reply_eq_error_iff.mp reply with
      ⟨earlier, id, later, entries, fails, _⟩
    refine ⟨id, ?_, fails⟩
    rw [entries]
    exact List.mem_append_right _ List.mem_cons_self

/--
A series and a correlator of one cell, with rejected writes, and a copy after
the end.
-/
def trialScript : List (Command Float) :=
  [.cell "x" [2], .set "x" [Scalar.ofNat 1, Scalar.ofNat 2],
    .set "x" [Scalar.ofNat 3], .series "record" "x" 1,
    .correlator "pairs" "x" none
      ⟨Scalar.ofNat 8, Scalar.ofNat 1, some 2, none, none, none, none⟩ 1,
    .update "pairs", .copyCell "x" "y", .finalize "pairs",
    .copy "pairs" "later"]

theorem stored_sources_never_misfit_trial :
    let session := ((Session.empty : Session Float).run trialScript).1
    ∃ record later,
      session.pool.get? ⟨0⟩ = some record ∧
      session.pool.get? ⟨2⟩ = some later ∧
      (∃ next, record.update session.readings = .ok next) ∧
      later.update session.readings = .error .finalized := by
  intro session
  have stored : ∀ command ∈ trialScript, command.isComputed = false := by
    simp [trialScript, Command.isComputed]
  have ended :
      (Session.empty : Session Float).endedBy [] trialScript = [⟨2⟩, ⟨1⟩] := by
    decide +kernel
  have first :
      ∃ record,
        session.pool.get? ⟨0⟩ = some record ∧ record.isCorrelator = false := by
    simpa [Option.any_eq_true] using
      show (session.pool.get? ⟨0⟩).any (!·.isCorrelator) = true by
        decide +kernel
  have last :
      ∃ later, session.pool.get? ⟨2⟩ = some later ∧ later.isCorrelator = true :=
    (Option.any_eq_true _ _).mp (by decide +kernel)
  rcases first with ⟨record, found, series⟩
  rcases last with ⟨later, found', correlator⟩
  rcases stored_sources_never_misfit trialScript stored with ⟨_, _, updates, _⟩
  rw [ended] at updates
  refine ⟨record, later, found, found', (updates ⟨0⟩ record found).2 ?_,
    (updates ⟨2⟩ later found').1 ⟨correlator, List.mem_cons_self⟩⟩
  rw [series]
  exact nofun

end RunningStatistics
