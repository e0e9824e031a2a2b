import RunningStatistics.Registry

/-!
# Commands to a session

What a script can ask of a simulation, what it is told when a command was
carried out, and why a command may not be.
-/

namespace RunningStatistics

/-- A command to a session; objects are given by their names. -/
inductive Command (R : Type) where
  | cell (name : String) (shape : Shape)
  | cellWith (name : String) (shape : Shape) (values : List R)
  | computed (name : String) (shape : Shape) (values : List R)
  /-- Create a cell with the shape and the current values of another one. -/
  | copyCell (name target : String)
  | set (name : String) (values : List R)
  | observe (name : String)
  | describe (name : String)
  | moments (name source : String) (interval : Nat)
  | series (name source : String) (interval : Nat)
  | correlator (name sourceA : String) (sourceB : Option String)
      (request : ConfigRequest R) (interval : Nat)
  /--
  Create an accumulator with the present state of another one and the same
  sources.
  -/
  | copy (name target : String)
  | add (name : String) (sample : List R)
  | addPair (name : String) (a b : List R)
  /-- Give an accumulator samples in turn, going on after a rejection. -/
  | feed (name : String) (samples : List (List R))
  | update (name : String)
  | finalize (name : String)
  | clear (name : String)
  | setArguments (name : String) (arguments : Axes R)
  | setInterval (name : String) (interval : Nat)
  | reschedule (name : String) (interval : Nat)
  | inspect (name : String)
  | registry (name : String)
  | register (registry name : String)
  | unregister (registry name : String)
  | unregisterAll (registry : String)
  | inspectRegistry (registry : String)
  | step (registry : String) (step : Nat) (held : List (String × Hold))
  | nextUpdate (registry : String) (step : Nat) (held : List (String × Hold))

/-- The answer to a command that was carried out. -/
inductive Reply (R : Type) where
  | done
  /-- A number: of samples, of entries or of updates. -/
  | number (value : Nat)
  | observable (observable : Observable R)
  | text (value : String)
  /-- The number of samples accepted, and the rejected ones by position. -/
  | fed (updates : Nat) (rejected : List (Nat × Rejection))
  | accumulator (accumulator : Accumulator R)
  /--
  The length of a registry, and whether it contains the accumulators by name.
  -/
  | registry (length : Nat) (contains : List (String × Bool))
  | stepped (outcome : Except Rejection Nat)
  | next (update : NextUpdate)

/-- Why a command was not carried out. -/
inductive Failure where
  | rejected (cause : Rejection)
  | unknown (name : String)
  | unsuited (name : String)
  deriving DecidableEq

end RunningStatistics
