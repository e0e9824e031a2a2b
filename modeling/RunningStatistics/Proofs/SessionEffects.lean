import RunningStatistics.Proofs.Events
import RunningStatistics.Proofs.Deliveries
import RunningStatistics.Session

/-!
# What a command does to a session

`Session.Effect` lists everything that a command can do to the sources and the
accumulators of a session, whether it is carried out or fails: a source comes in
or is overwritten, an accumulator is created for sources of the session or
copied, an accumulator goes through what its owner asks of it, or a registry
takes a step.  An invariant of sessions needs one argument for each of these and
none for the single commands.
-/

namespace RunningStatistics

variable {R : Type}

/--
The failure of a command about the object of a name whose request is refused.
-/
def Refusal.failure (name : String) : Refusal → Failure
  | rejected cause => .rejected cause
  | unsuited => .unsuited name

namespace Command

/-- The name of the accumulator of which a command asks something. -/
def subject? : Command R → Option String
  | .add name _ => some name
  | .addPair name _ _ => some name
  | .feed name _ => some name
  | .update name => some name
  | .finalize name => some name
  | .clear name => some name
  | .setArguments name _ => some name
  | .setInterval name _ => some name
  | .reschedule name _ => some name
  | _ => none

/-- What a command asks of an accumulator, in turn. -/
def requests (readings : Readings R) : Command R → List (Request R)
  | .add _ sample => [.add sample]
  | .addPair _ a b => [.addPair a b]
  | .feed _ samples => samples.map .add
  | .update _ => [.update readings]
  | .finalize _ => [.finalize]
  | .clear _ => [.clear]
  | .setArguments _ arguments => [.setArguments arguments]
  | .setInterval _ interval => [.setInterval interval]
  | .reschedule _ interval => [.reschedule interval]
  | _ => []

/-- The commands that only ask. -/
def isInquiry : Command R → Bool
  | .observe _ => true
  | .describe _ => true
  | .inspect _ => true
  | .inspectRegistry _ => true
  | .nextUpdate _ _ _ => true
  | _ => false

/-- Whether a command brings in a computed source. -/
def isComputed : Command R → Bool
  | .computed _ _ _ => true
  | _ => false

end Command

namespace Pool

theorem set_self
    {pool : Pool R}
    {id : AccumulatorId}
    {accumulator : Accumulator R}
    (present : pool.get? id = some accumulator) :
    pool.set id accumulator = pool := by
  apply congrArg Pool.mk
  apply Array.ext_getElem?
  intro index
  rw [Array.getElem?_setIfInBounds]
  split
  next same =>
    rw [← same]
    split
    next => exact present.symm
    next out => exact (Array.getElem?_eq_none (Nat.le_of_not_lt out)).symm
  next => rfl

end Pool

namespace Session

/-- The shapes that the sources of a session declare. -/
def shapes (session : Session R) (id : SourceId) : Option Shape :=
  session.sources[id.index]?.map (·.shape)

variable {session next : Session R}

theorem exists_of_observable
    {name : String}
    {id : SourceId}
    {observable : Observable R}
    (found : session.observable name = .ok (id, observable)) :
    session.sources[id.index]? = some observable := by
  rcases bind_ok found with ⟨id', _, found⟩
  split at found
  next present =>
    cases found
    exact present
  next => cases found

theorem shapes_of_source
    {name : String}
    {source : Source}
    (found : session.source name = .ok source) :
    session.shapes source.id = some source.shape := by
  rcases map_ok found with ⟨⟨id, observable⟩, named, rfl⟩
  show session.shapes id = some observable.shape
  rw [shapes, exists_of_observable named]
  rfl

theorem get?_of_accumulator
    {name : String}
    {id : AccumulatorId}
    {accumulator : Accumulator R}
    (found : session.accumulator name = .ok (id, accumulator)) :
    session.pool.get? id = some accumulator := by
  rcases bind_ok found with ⟨id', _, found⟩
  split at found
  next present =>
    cases found
    exact present
  next => cases found

variable [Scalar R] [Exponential R]

/-- The accumulators that can be created for sources of given shapes. -/
inductive Creates (shapes : SourceId → Option Shape) :
    Accumulator R → Prop where
  | moments {source : Source} {interval : Nat} {accumulator : Accumulator R}
      (declared : shapes source.id = some source.shape)
      (created : Accumulator.moments source interval = .ok accumulator) :
      Creates shapes accumulator
  | series {source : Source} {interval : Nat} {accumulator : Accumulator R}
      (declared : shapes source.id = some source.shape)
      (created : Accumulator.series source interval = .ok accumulator) :
      Creates shapes accumulator
  | correlator {sourceA : Source} {sourceB : Option Source} {config : Config R}
      {interval : Nat} {accumulator : Accumulator R}
      (declaredA : shapes sourceA.id = some sourceA.shape)
      (declaredB :
        ∀ source, sourceB = some source → shapes source.id = some source.shape)
      (created :
        Accumulator.correlator sourceA sourceB config interval =
          .ok accumulator) :
      Creates shapes accumulator

/--
Everything that a command, carried out or not, can do to sources and
accumulators.
-/
inductive Effect (session : Session R) : Command R → Session R → Prop where
  | enter {command : Command R} {name : String} {observable : Observable R}
      (kind : command.isComputed = false → ∃ cell, observable = .stored cell)
      (unasked : command.subject? = none)
      (uncopied : ∀ name target, command ≠ .copy name target) :
      Effect session command (session.addSource name observable)
  | write {name : String} {values : List R} {id : SourceId}
      {old new : Observable R} (present : session.sources[id.index]? = some old)
      (written : old.set values = .ok new) :
      Effect session (.set name values)
        { session with sources := session.sources.setIfInBounds id.index new }
  | create {command : Command R} {name : String} {accumulator : Accumulator R}
      (created : Creates session.shapes accumulator)
      (unasked : command.subject? = none)
      (uncopied : ∀ name target, command ≠ .copy name target) :
      Effect session command (session.addAccumulator name accumulator)
  | copy {name target : String} {id : AccumulatorId} {original : Accumulator R}
      (found : session.accumulator name = .ok (id, original)) :
      Effect session (.copy name target)
        (session.addAccumulator target original)
  | ask {command : Command R} {name : String} {id : AccumulatorId}
      {accumulator : Accumulator R} (subject : command.subject? = some name)
      (found : session.accumulator name = .ok (id, accumulator)) :
      Effect session command
        (session.setAccumulator id
          (accumulator.afterAll (command.requests session.readings)))
  | step {name : String} {step : Nat} {held : List (String × Hold)}
      {registry : Registry} {holds : Holds} :
      Effect session (.step name step held)
        { session with
          pool := (registry.step session.readings holds step session.pool).1 }
  /--
  A command about an accumulator is idle only if there is none of its name.
  -/
  | idle {command : Command R} {next : Session R}
      (sources : next.sources = session.sources)
      (pool : next.pool = session.pool)
      (unasked :
        ∀ name,
          command.subject? = some name →
          ∃ failure, session.accumulator name = .error failure)
      (uncopied :
        ∀ name target,
          command = .copy name target →
          ∃ failure, session.accumulator name = .error failure) :
      Effect session command next

/-! ## Outcomes of attempts -/

theorem execute_of_ok
    {command : Command R}
    {reply : Reply R}
    (attempted : session.attempt command = .ok (next, reply)) :
    (session.execute command).1 = next := by
  rw [execute, attempted]

theorem execute_of_failure
    {command : Command R}
    {failure : Failure}
    (failed : session.attempt command = .error failure) :
    (session.execute command).1 = session := by
  rw [execute, failed]

/-! ## Inquiries -/

/-- Asking changes nothing. -/
theorem eq_of_inquiry
    {command : Command R}
    {reply : Reply R}
    (asks : command.isInquiry = true)
    (attempted : session.attempt command = .ok (next, reply)) :
    next = session := by
  cases command with
  | observe name =>
      rcases bind_ok attempted with ⟨_, _, attempted⟩
      cases attempted
      rfl
  | describe name =>
      rcases bind_ok attempted with ⟨_, _, attempted⟩
      cases attempted
      rfl
  | inspect name =>
      rcases bind_ok attempted with ⟨_, _, attempted⟩
      cases attempted
      rfl
  | inspectRegistry name =>
      rcases bind_ok attempted with ⟨_, _, attempted⟩
      cases attempted
      rfl
  | nextUpdate name step held =>
      rcases bind_ok attempted with ⟨_, _, attempted⟩
      rcases bind_ok attempted with ⟨_, _, attempted⟩
      cases attempted
      rfl
  | _ => cases asks

theorem execute_of_isInquiry
    (session : Session R)
    {command : Command R}
    (asks : command.isInquiry = true) :
    (session.execute command).1 = session := by
  cases attempted : session.attempt command with
  | ok outcome => rw [execute_of_ok attempted, eq_of_inquiry asks attempted]
  | error failure => exact execute_of_failure attempted

/-! ## Requests of owners -/

omit [Scalar R] [Exponential R] in
/-- A rejected request is a rejected command. -/
theorem mapError_rejected
    {α : Type}
    (name : String)
    (outcome : Except Rejection α) :
    (outcome.mapError Refusal.rejected).mapError (Refusal.failure name) =
      accepted outcome := by
  cases outcome <;> rfl

omit [Scalar R] [Exponential R] in
/--
A request that an accumulator does not know is a command to an unsuited object.
-/
theorem mapError_unlessKnown
    {α : Type}
    (name : String)
    (able : Option (Except Rejection α)) :
    (Refusal.unlessKnown able).mapError (Refusal.failure name) =
      (capable name able >>= accepted) := by
  rcases able with _ | _ | _ <;> rfl

omit [Scalar R] [Exponential R] in
theorem mapError_unlessKnown_map
    {α : Type}
    (name : String)
    (able : Option α) :
    (Refusal.unlessKnown (able.map .ok)).mapError (Refusal.failure name) =
      capable name able := by
  cases able <;> rfl

section Named

variable {name : String} {id : AccumulatorId} {accumulator : Accumulator R}

omit [Scalar R] [Exponential R] in
theorem change_of_found
    (found : session.accumulator name = .ok (id, accumulator))
    (action : Accumulator R → Except Failure (Accumulator R)) :
    session.change name action =
      (action accumulator).map fun next =>
        (session.setAccumulator id next, .number next.updates) := by
  rw [change, found]
  show (action accumulator >>= _) = _
  cases action accumulator <;> rfl

omit [Scalar R] [Exponential R] in
theorem adjust_of_found
    (found : session.accumulator name = .ok (id, accumulator))
    (action : Accumulator R → Except Failure (Accumulator R)) :
    session.adjust name action =
      (action accumulator).map fun next =>
        (session.setAccumulator id next, .done) := by
  rw [adjust, found]
  show (action accumulator >>= _) = _
  cases action accumulator <;> rfl

/--
What has become of a session by a request to an accumulator, whatever is
replied.
-/
theorem execute_of_request
    {command : Command R}
    {request : Request R}
    {reply : Accumulator R → Reply R}
    (found : session.accumulator name = .ok (id, accumulator))
    (attempted :
      session.attempt command =
        ((accumulator.perform request).mapError (Refusal.failure name)).map
          fun next => (session.setAccumulator id next, reply next)) :
    (session.execute command).1 =
      session.setAccumulator id (accumulator.after request) := by
  cases performed : accumulator.perform request with
  | ok next =>
      rw [performed] at attempted
      rw [Accumulator.after_of_ok performed]
      exact execute_of_ok attempted
  | error refusal =>
      rw [performed] at attempted
      rw [Accumulator.after_of_error performed, setAccumulator,
        Pool.set_self (get?_of_accumulator found)]
      exact execute_of_failure attempted

/-- Feeding samples is a request for each of them. -/
theorem feedAll_eq_afterAll
    (position : Nat)
    (accumulator : Accumulator R)
    (samples : List (List R)) :
    (feedAll position accumulator samples).1 =
      accumulator.afterAll (samples.map .add) := by
  induction samples generalizing position accumulator with
  | nil => rfl
  | cons sample rest hypothesis =>
      rw [feedAll, List.map_cons, Accumulator.afterAll, List.foldl_cons,
        ← Accumulator.afterAll]
      cases added : accumulator.add sample with
      | ok next =>
          have performed : accumulator.perform (.add sample) = .ok next := by
            rw [Accumulator.perform, added]
            rfl
          rw [Accumulator.after_of_ok performed]
          exact hypothesis (position + 1) next
      | error cause =>
          have refused :
              accumulator.perform (.add sample) = .error (.rejected cause) := by
            rw [Accumulator.perform, added]
            rfl
          rw [Accumulator.after_of_error refused]
          exact hypothesis (position + 1) accumulator

/-- An accumulator goes through what a command asks of it. -/
theorem execute_of_subject
    {command : Command R}
    (subject : command.subject? = some name)
    (found : session.accumulator name = .ok (id, accumulator)) :
    (session.execute command).1 =
      session.setAccumulator id
        (accumulator.afterAll (command.requests session.readings)) := by
  cases command with
  | add other sample =>
      cases subject
      apply execute_of_request found
      rw [attempt, change_of_found found, Accumulator.perform,
        mapError_rejected]
  | addPair other a b =>
      cases subject
      apply execute_of_request found
      rw [attempt, change_of_found found, Accumulator.perform,
        mapError_unlessKnown]
  | feed other samples =>
      cases subject
      rw [Command.requests, ← feedAll_eq_afterAll 0]
      apply execute_of_ok
      rw [attempt, found]
      rfl
  | update other =>
      cases subject
      apply execute_of_request found
      rw [attempt, change_of_found found, Accumulator.perform,
        mapError_rejected]
  | finalize other =>
      cases subject
      apply execute_of_request found
      rw [attempt, adjust_of_found found, Accumulator.perform,
        mapError_unlessKnown_map]
  | clear other =>
      cases subject
      apply execute_of_request found
      rw [attempt, adjust_of_found found, Accumulator.perform,
        mapError_unlessKnown_map]
  | setArguments other arguments =>
      cases subject
      apply execute_of_request found
      rw [attempt, adjust_of_found found, Accumulator.perform,
        mapError_unlessKnown]
  | setInterval other interval =>
      cases subject
      apply execute_of_request found
      rw [attempt, adjust_of_found found, Accumulator.perform,
        mapError_rejected]
  | reschedule other interval =>
      cases subject
      apply execute_of_request found
      rw [attempt, adjust_of_found found, Accumulator.perform,
        mapError_rejected]
  | _ => cases subject

end Named

/-! ## All commands -/

/--
What a command that asks nothing of an accumulator does when it is carried out.
-/
theorem effect_of_attempt
    {command : Command R}
    {reply : Reply R}
    (unasked : command.subject? = none)
    (attempted : session.attempt command = .ok (next, reply)) :
    session.Effect command next := by
  have idle :
      next.sources = session.sources →
      next.pool = session.pool →
      (∀ name target, command ≠ .copy name target) →
      session.Effect command next := by
    intro sources pool uncopied
    refine .idle sources pool ?_ fun name target copied =>
      absurd copied (uncopied name target)
    intro name subject
    cases unasked.symm.trans subject
  cases command with
  | cell name shape =>
      cases attempted
      exact .enter (fun _ => ⟨_, rfl⟩) rfl nofun
  | cellWith name shape values =>
      rcases bind_ok attempted with ⟨cell, _, attempted⟩
      cases attempted
      exact .enter (fun _ => ⟨cell, rfl⟩) rfl nofun
  | computed name shape values =>
      cases attempted
      exact .enter nofun rfl nofun
  | copyCell name target =>
      rcases bind_ok attempted with ⟨⟨id, observable⟩, _, attempted⟩
      cases observable with
      | stored cell =>
          cases attempted
          exact .enter (fun _ => ⟨cell, rfl⟩) rfl nofun
      | computed shape values => cases attempted
  | set name values =>
      rcases bind_ok attempted with ⟨⟨id, observable⟩, found, attempted⟩
      rcases bind_ok attempted with ⟨new, written, attempted⟩
      cases attempted
      exact .write (exists_of_observable found) (mapError_ok written)
  | moments name source interval =>
      rcases bind_ok attempted with ⟨tied, found, attempted⟩
      rcases bind_ok attempted with ⟨accumulator, created, attempted⟩
      cases attempted
      exact .create (.moments (shapes_of_source found) (mapError_ok created))
        rfl nofun
  | series name source interval =>
      rcases bind_ok attempted with ⟨tied, found, attempted⟩
      rcases bind_ok attempted with ⟨accumulator, created, attempted⟩
      cases attempted
      exact .create (.series (shapes_of_source found) (mapError_ok created))
        rfl nofun
  | correlator name sourceA sourceB request interval =>
      rcases bind_ok attempted with ⟨config, _, attempted⟩
      rcases bind_ok attempted with ⟨tiedA, foundA, attempted⟩
      cases sourceB with
      | none =>
          rcases bind_ok attempted with ⟨_, ⟨⟩, attempted⟩
          rcases bind_ok attempted with ⟨accumulator, created, attempted⟩
          cases attempted
          refine .create
            (.correlator (shapes_of_source foundA) ?_ (mapError_ok created))
            rfl nofun
          exact nofun
      | some other =>
          rcases bind_ok attempted with ⟨_, foundB, attempted⟩
          rcases map_ok foundB with ⟨source, found, rfl⟩
          rcases bind_ok attempted with ⟨accumulator, created, attempted⟩
          cases attempted
          refine .create
            (.correlator (shapes_of_source foundA) ?_ (mapError_ok created))
            rfl nofun
          rintro _ ⟨⟩
          exact shapes_of_source found
  | copy name target =>
      rcases bind_ok attempted with ⟨⟨id, original⟩, found, attempted⟩
      cases attempted
      exact .copy found
  | step name step held =>
      rcases bind_ok attempted with ⟨registry, _, attempted⟩
      rcases bind_ok attempted with ⟨holds, _, attempted⟩
      cases attempted
      exact .step
  | observe name =>
      cases eq_of_inquiry rfl attempted
      exact idle rfl rfl nofun
  | describe name =>
      cases eq_of_inquiry rfl attempted
      exact idle rfl rfl nofun
  | inspect name =>
      cases eq_of_inquiry rfl attempted
      exact idle rfl rfl nofun
  | inspectRegistry name =>
      cases eq_of_inquiry rfl attempted
      exact idle rfl rfl nofun
  | nextUpdate name step held =>
      cases eq_of_inquiry rfl attempted
      exact idle rfl rfl nofun
  | registry name =>
      cases attempted
      exact idle rfl rfl nofun
  | register name member =>
      rcases bind_ok attempted with ⟨_, _, attempted⟩
      rcases bind_ok attempted with ⟨_, _, attempted⟩
      rcases bind_ok attempted with ⟨_, _, attempted⟩
      cases attempted
      exact idle rfl rfl nofun
  | unregister name member =>
      rcases bind_ok attempted with ⟨_, _, attempted⟩
      rcases bind_ok attempted with ⟨_, _, attempted⟩
      rcases bind_ok attempted with ⟨_, _, attempted⟩
      cases attempted
      exact idle rfl rfl nofun
  | unregisterAll name =>
      rcases bind_ok attempted with ⟨_, _, attempted⟩
      cases attempted
      exact idle rfl rfl nofun
  | _ => cases unasked

/-- A command fails if there is no accumulator of the name that it is about. -/
theorem execute_of_unknown
    {command : Command R}
    {name : String}
    {failure : Failure}
    (subject : command.subject? = some name)
    (unknown : session.accumulator name = .error failure) :
    (session.execute command).1 = session := by
  have changed : ∀ action, session.change name action = .error failure := by
    intro action
    rw [change, unknown]
    rfl
  have adjusted : ∀ action, session.adjust name action = .error failure := by
    intro action
    rw [adjust, unknown]
    rfl
  apply execute_of_failure
  cases command with
  | add other sample =>
      cases subject
      rw [attempt, changed]
  | addPair other a b =>
      cases subject
      rw [attempt, changed]
  | feed other samples =>
      cases subject
      rw [attempt, unknown]
      rfl
  | update other =>
      cases subject
      rw [attempt, changed]
  | finalize other =>
      cases subject
      rw [attempt, adjusted]
  | clear other =>
      cases subject
      rw [attempt, adjusted]
  | setArguments other arguments =>
      cases subject
      rw [attempt, adjusted]
  | setInterval other interval =>
      cases subject
      rw [attempt, adjusted]
  | reschedule other interval =>
      cases subject
      rw [attempt, adjusted]
  | _ => cases subject

theorem effect_execute
    (session : Session R)
    (command : Command R) :
    session.Effect command (session.execute command).1 := by
  cases subject : command.subject? with
  | some name =>
      cases found : session.accumulator name with
      | ok entry =>
          rw [execute_of_subject subject found]
          exact .ask subject found
      | error failure =>
          rw [execute_of_unknown subject found]
          refine .idle rfl rfl ?_ ?_
          · intro other same
            cases subject.symm.trans same
            exact ⟨failure, found⟩
          · rintro _ _ rfl
            cases subject
  | none =>
      cases attempted : session.attempt command with
      | ok outcome =>
          rw [execute_of_ok attempted]
          exact effect_of_attempt subject attempted
      | error failure =>
          rw [execute_of_failure attempted]
          refine .idle rfl rfl ?_ ?_
          · intro name same
            cases subject.symm.trans same
          · rintro name target rfl
            cases found : session.accumulator name with
            | error failure => exact ⟨failure, rfl⟩
            | ok entry =>
                rw [attempt, found] at attempted
                cases attempted

end Session

end RunningStatistics
