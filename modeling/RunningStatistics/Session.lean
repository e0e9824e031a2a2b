import RunningStatistics.Session.Command

/-!
# Sessions

A session is a simulation as a script sees it: observables, accumulators and
registries under names of its own choice, changed by one command after another.
Creating something under a name in use gives the name a new meaning; whoever was
tied to the old object stays tied to it.

A command that fails leaves the session as it was.  A step of a registry does
not fail: it updates the accumulators that it can, and its outcome is the reply.
-/

namespace RunningStatistics

/-! ## Names -/

/-- What names stand for, the latest meaning of a name first. -/
abbrev Names (α : Type) :=
  List (String × α)

namespace Names

variable {α : Type}

/-- Give a name a meaning. -/
def assign (names : Names α) (name : String) (meaning : α) : Names α :=
  (name, meaning) :: names.filter fun entry => entry.1 != name

end Names

/-! ## State -/

/-- The objects of a simulation and their names. -/
structure Session (R : Type) where
  sources : Array (Observable R)
  pool : Pool R
  sourceNames : Names SourceId
  accumulatorNames : Names AccumulatorId
  registries : Names Registry

namespace Session

variable {R : Type} [Scalar R] [Exponential R]

/-- A session without any objects. -/
def empty : Session R :=
  ⟨#[], Pool.empty, [], [], []⟩

/-- What the sources deliver now. -/
def readings (session : Session R) : Readings R := fun id =>
  match session.sources[id.index]? with
  | some observable => observable.sample
  | none => []

/-- The meaning of a name. -/
def resolve {α : Type} (names : Names α) (name : String) : Except Failure α :=
  match names.lookup name with
  | some meaning => .ok meaning
  | none => .error (.unknown name)

/-- The observable of a name. -/
def observable
    (session : Session R)
    (name : String) :
    Except Failure (SourceId × Observable R) := do
  let id ← resolve session.sourceNames name
  match session.sources[id.index]? with
  | some observable => return (id, observable)
  | none => .error (.unknown name)

/-- The source of a name, as accumulators are tied to it. -/
def source (session : Session R) (name : String) : Except Failure Source :=
  (session.observable name).map fun (id, observable) => ⟨id, observable.shape⟩

/-- The accumulator of a name. -/
def accumulator
    (session : Session R)
    (name : String) :
    Except Failure (AccumulatorId × Accumulator R) := do
  let id ← resolve session.accumulatorNames name
  match session.pool.get? id with
  | some accumulator => return (id, accumulator)
  | none => .error (.unknown name)

/-- A rejection is a failure of the command. -/
def accepted {α : Type} (outcome : Except Rejection α) : Except Failure α :=
  outcome.mapError .rejected

/-- What the object of a name can do, or else it is unsuited. -/
def capable {α : Type} (name : String) (able : Option α) : Except Failure α :=
  match able with
  | some result => .ok result
  | none => .error (.unsuited name)

/-- Bring a new observable in under a name. -/
def addSource
    (session : Session R)
    (name : String)
    (observable : Observable R) :
    Session R :=
  { session with
    sources := session.sources.push observable
    sourceNames := session.sourceNames.assign name ⟨session.sources.size⟩ }

/-- Bring a new accumulator in under a name. -/
def addAccumulator
    (session : Session R)
    (name : String)
    (accumulator : Accumulator R) :
    Session R :=
  let (pool, id) := session.pool.insert accumulator
  { session with
    pool
    accumulatorNames := session.accumulatorNames.assign name id }

/-- Replace an accumulator. -/
def setAccumulator
    (session : Session R)
    (id : AccumulatorId)
    (accumulator : Accumulator R) :
    Session R :=
  { session with pool := session.pool.set id accumulator }

/-- Replace a registry. -/
def setRegistry
    (session : Session R)
    (name : String)
    (registry : Registry) :
    Session R :=
  { session with registries := session.registries.assign name registry }

/-- How accumulators are held, from the names of those that are. -/
def holds
    (session : Session R)
    (held : List (String × Hold)) :
    Except Failure Holds := do
  let entries ← held.mapM fun (name, hold) =>
    (resolve session.accumulatorNames name).map fun id => (id, hold)
  return fun id => (entries.lookup id).getD .free

/-! ## Carrying out commands -/

/--
Give an accumulator samples in turn; the rejected ones are listed by position.
-/
def feedAll :
    (position : Nat) →
    Accumulator R →
    List (List R) →
    Accumulator R × List (Nat × Rejection)
  | _, accumulator, [] => (accumulator, [])
  | position, accumulator, sample :: rest =>
      match accumulator.add sample with
      | .ok next => feedAll (position + 1) next rest
      | .error cause =>
          let (accumulator, rejected) := feedAll (position + 1) accumulator rest
          (accumulator, (position, cause) :: rejected)

/--
Change the accumulator of a name, and report the number of samples it has
accepted.
-/
def change
    (session : Session R)
    (name : String)
    (action : Accumulator R → Except Failure (Accumulator R)) :
    Except Failure (Session R × Reply R) := do
  let (id, accumulator) ← session.accumulator name
  let next ← action accumulator
  return (session.setAccumulator id next, .number next.updates)

/-- Change the accumulator of a name, and report nothing. -/
def adjust
    (session : Session R)
    (name : String)
    (action : Accumulator R → Except Failure (Accumulator R)) :
    Except Failure (Session R × Reply R) := do
  let (id, accumulator) ← session.accumulator name
  let next ← action accumulator
  return (session.setAccumulator id next, .done)

/-- The session after a command and the reply, or the cause of a failure. -/
def attempt (session : Session R) :
    Command R → Except Failure (Session R × Reply R)
  | .cell name shape =>
      .ok (session.addSource name (.stored (.blank shape)), .done)
  | .cellWith name shape values => do
      let cell ← accepted (Cell.ofValues shape values)
      return (session.addSource name (.stored cell), .done)
  | .computed name shape values =>
      .ok (session.addSource name (.computed shape values), .done)
  | .copyCell name target => do
      match ← session.observable name with
      | (_, .stored cell) =>
          return (session.addSource target (.stored cell), .done)
      | _ => .error (.unsuited name)
  | .set name values => do
      let (id, observable) ← session.observable name
      let next ← accepted (observable.set values)
      return ({ session with
          sources := session.sources.setIfInBounds id.index next }, .done)
  | .observe name => do
      let (_, observable) ← session.observable name
      return (session, .observable observable)
  | .describe name => do
      let (_, observable) ← session.observable name
      return (session, .text observable.describe)
  | .moments name source interval => do
      let accumulator ←
        accepted (Accumulator.moments (← session.source source) interval)
      return (session.addAccumulator name accumulator, .done)
  | .series name source interval => do
      let accumulator ←
        accepted (Accumulator.series (← session.source source) interval)
      return (session.addAccumulator name accumulator, .done)
  | .correlator name sourceA sourceB request interval => do
      let config ← accepted request.build
      let sourceA ← session.source sourceA
      let sourceB ← match sourceB with
        | some other => (session.source other).map some
        | none => .ok none
      let accumulator ←
        accepted (Accumulator.correlator sourceA sourceB config interval)
      return (session.addAccumulator name accumulator, .done)
  | .copy name target => do
      let (_, accumulator) ← session.accumulator name
      return (session.addAccumulator target accumulator, .done)
  | .add name sample =>
      session.change name fun accumulator => accepted (accumulator.add sample)
  | .addPair name a b =>
      session.change name fun accumulator => do
        accepted (← capable name (accumulator.addPair? a b))
  | .feed name samples => do
      let (id, accumulator) ← session.accumulator name
      let (next, rejected) := feedAll 0 accumulator samples
      return (session.setAccumulator id next, .fed next.updates rejected)
  | .update name =>
      session.change name fun accumulator =>
        accepted (accumulator.update session.readings)
  | .finalize name =>
      session.adjust name fun accumulator => capable name accumulator.finalize?
  | .clear name =>
      session.adjust name fun accumulator => capable name accumulator.clear?
  | .setArguments name arguments =>
      session.adjust name fun accumulator => do
        accepted (← capable name (accumulator.setArguments? arguments))
  | .setInterval name interval =>
      session.adjust name fun accumulator =>
        accepted (accumulator.setInterval interval)
  | .reschedule name interval =>
      session.adjust name fun accumulator =>
        accepted (accumulator.reschedule interval)
  | .inspect name => do
      let (_, accumulator) ← session.accumulator name
      return (session, .accumulator accumulator)
  | .registry name => .ok (session.setRegistry name .empty, .done)
  | .register name member => do
      let registry ← resolve session.registries name
      let id ← resolve session.accumulatorNames member
      let next ← accepted (registry.add id)
      return (session.setRegistry name next, .number next.length)
  | .unregister name member => do
      let registry ← resolve session.registries name
      let id ← resolve session.accumulatorNames member
      let next ← accepted (registry.remove id)
      return (session.setRegistry name next, .number next.length)
  | .unregisterAll name => do
      let _ ← resolve session.registries name
      return (session.setRegistry name .empty, .number Registry.empty.length)
  | .inspectRegistry name => do
      let registry ← resolve session.registries name
      let contains := session.accumulatorNames.map fun (member, id) =>
        (member, registry.contains id)
      return (session, .registry registry.length contains)
  | .step name step held => do
      let registry ← resolve session.registries name
      let holds ← session.holds held
      let (pool, outcome) :=
        registry.step session.readings holds step session.pool
      return ({ session with pool }, .stepped outcome)
  | .nextUpdate name step held => do
      let registry ← resolve session.registries name
      let holds ← session.holds held
      return (session, .next (registry.nextUpdate holds step session.pool))

/-- Carry out a command; one that fails changes nothing. -/
def execute
    (session : Session R)
    (command : Command R) :
    Session R × Except Failure (Reply R) :=
  match session.attempt command with
  | .ok (next, reply) => (next, .ok reply)
  | .error failure => (session, .error failure)

/-- Carry out commands in turn, going on after failures. -/
def run :
    Session R → List (Command R) → Session R × List (Except Failure (Reply R))
  | session, [] => (session, [])
  | session, command :: rest =>
      let (session, reply) := session.execute command
      let (session, replies) := run session rest
      (session, reply :: replies)

end Session

end RunningStatistics
