import RunningStatistics.Proofs.Deliveries

/-!
# Correlators in flat memory

A correlator may keep all its rows in one list of sums and one list of counts,
add to them in place, and allocate a level when the first sample reaches it.
Each index is then computed, each slice is cut out of a longer list, and each
counter has 64 bits.

The programs of this module do that, one access after the other, and break off
with a trap wherever an access is out of range, a counter overflows, or the
values of a result do not fill its shape.  A loop that need not end is given a
number of turns, and breaks off when they are used up.
-/

namespace RunningStatistics

/-- Why a program breaks off. -/
inductive Trap where
  /-- An index or a slice reaches beyond its list. -/
  | outOfRange
  /-- A list is cut into pieces of no values. -/
  | emptyPieces
  /-- There are more or fewer values than places in a shape. -/
  | misfit
  /--
  A counter exceeds 64 bits, or a difference of natural numbers is negative.
  -/
  | overflow
  /-- The turns of a loop are used up. -/
  | endless
  deriving DecidableEq

/-! ## Checked access -/

section Access

variable {α : Type}

/-- The item at an index. -/
def readAt (items : List α) (index : Nat) : Except Trap α :=
  match items[index]? with
  | some item => .ok item
  | none => .error .outOfRange

/-- A counter of 64 bits after one more event. -/
def countUp (count : Nat) : Except Trap Nat :=
  if count + 1 < 2 ^ 64 then .ok (count + 1) else .error .overflow

/-- Change a slice of a list in place. -/
def changeSlice
    (first stop : Nat)
    (change : List α → Except Trap (List α))
    (values : List α) :
    Except Trap (List α) :=
  if first ≤ stop ∧ stop ≤ values.length then
    (change ((values.drop first).take (stop - first))).map fun piece =>
      values.take first ++ piece ++ values.drop stop
  else
    .error .outOfRange

/-- The values in an array of a shape, which they have to fill. -/
def reshape (shape : Shape) (values : List α) : Except Trap (Tensor α) :=
  if values.length = shape.size then .ok ⟨shape, values⟩ else .error .misfit

end Access

variable {R : Type} [Scalar R]

/-! ## Adding in place -/

/-- Add terms to sums in place, as far as both go. -/
def addOnto (sums terms : List R) : List R :=
  List.zipWith (· + ·) sums terms ++ sums.drop terms.length

/--
Add the products of the components of A with all of B in place: sums are cut
into pieces of the length of B, one for each component of A, and what is left
over stays.
-/
def addOuterOnto (b : List R) : (a sums : List R) → List R
  | [], sums => sums
  | x :: rest, sums =>
      if b.length ≤ sums.length then
        addOnto (sums.take b.length) (b.map (x * ·)) ++
          addOuterOnto b rest (sums.drop b.length)
      else
        sums

/--
Add what a value of A and a later value of B contribute to the sums of a row in
place.
-/
def Operation.accumulate
    [Exponential R]
    (operation : Operation)
    (arguments : Axes R)
    (a b sums : List R) :
    Except Trap (List R) :=
  match operation, sums with
  | scalarProduct, [] => .error .outOfRange
  | scalarProduct, first :: rest => .ok ((first + innerProduct a b) :: rest)
  | tensorProduct, sums =>
      if b.length = 0 then .error .emptyPieces else .ok (addOuterOnto b a sums)
  | operation, sums => .ok (addOnto sums (operation.terms arguments a b))

/-! ## Tables -/

/-- The rows of a table in flat memory. -/
structure FlatTable (R : Type) where
  /-- The sums of all rows, one row after another. -/
  sums : List R
  counts : List Nat

/-- The row of a lag. -/
def LagRange.rowAt (range : LagRange) (lag : Nat) : Except Trap Nat :=
  if range.first ≤ range.offset + lag then
    .ok (range.row lag)
  else
    .error .overflow

namespace FlatTable

/-- Rows in flat memory. -/
def ofRows (rows : List (Row R)) : FlatTable R :=
  ⟨rows.flatMap (·.sums), rows.map (·.count)⟩

/-- Add one more pair to a row in place. -/
def addAt
    (table : FlatTable R)
    (width row : Nat)
    (kernel : List R → Except Trap (List R)) :
    Except Trap (FlatTable R) := do
  let sums ← changeSlice (row * width) ((row + 1) * width) kernel table.sums
  let count ← readAt table.counts row
  let count ← countUp count
  return ⟨sums, table.counts.set row count⟩

/--
Add the pairs of the newest sample of a level to the rows of so many lags in
place, as far as the history of the level goes back.
-/
def correlate
    [Exponential R]
    (config : Config R)
    (width : Nat)
    (range : LagRange)
    (history : History R)
    (newest : Sample R) :
    (room lag : Nat) → FlatTable R → Except Trap (FlatTable R)
  | 0, _, table => .ok table
  | room + 1, lag, table =>
      match history.lagged lag with
      | none => .ok table
      | some older => do
          let row ← range.rowAt lag
          let table ← table.addAt width row
            (config.operation.accumulate config.arguments older.a newest.b)
          correlate config width range history newest room (lag + 1) table

/--
The means of the rows: sums are cut into pieces of one row, and each is paired
with a count.
-/
def means (width : Nat) : (counts : List Nat) → (sums : List R) → List R
  | [], _ => []
  | count :: rest, sums =>
      if width ≤ sums.length then
        (Row.mk (sums.take width) count).mean ++
          means width rest (sums.drop width)
      else
        []

end FlatTable

/-! ## Correlators -/

/-- A level in flat memory, which leaves its rows to the table. -/
structure FlatLevel (R : Type) where
  history : History R
  /-- The number of samples received. -/
  received : Nat

/--
Receive a sample; every second one comes back with the one before it, older
first.
-/
def FlatLevel.push
    (level : FlatLevel R)
    (sample : Sample R) :
    Except Trap (FlatLevel R × Option (Sample R × Sample R)) := do
  let received ← countUp level.received
  let (history, pair) := level.history.push sample
  return (⟨history, received⟩, pair)

/-- A correlator in flat memory. -/
structure FlatCorrelator (R : Type) where
  sampling : Sampling
  /-- The parameters, with the linear width resolved. -/
  config : Config R
  samplingTime : R
  bindingA : Binding
  /-- Where the samples of B come from, if not from A. -/
  bindingB : Option Binding
  valueShape : Shape
  lags : List LagRange
  /-- The lag of every row, in sampling intervals. -/
  lagSteps : List Nat
  /-- The levels that samples have reached. -/
  levels : List (FlatLevel R)
  table : FlatTable R
  count : Nat
  sumA : List R
  sumB : List R
  isFinalized : Bool

namespace FlatCorrelator

/-- The number of values in a sample of A. -/
def lengthA (flat : FlatCorrelator R) : Nat :=
  flat.bindingA.length

/--
The tie to the source of B, which is that of A unless another one was chosen.
-/
def effectiveBindingB (flat : FlatCorrelator R) : Binding :=
  flat.bindingB.getD flat.bindingA

/-- The number of values in a sample of B. -/
def lengthB (flat : FlatCorrelator R) : Nat :=
  flat.effectiveBindingB.length

/--
The memory of a correlator before the first sample, with no level allocated yet.
-/
def blank
    (config : Config R)
    (bindingA : Binding)
    (bindingB : Option Binding)
    (valueShape : Shape)
    (sampling : Sampling)
    (interval : Nat) :
    FlatCorrelator R :=
  let config := config.resolve interval
  let lags := LagGrid.build config.linearWidth (config.span interval)
  let lagSteps := lags.flatMap LagRange.steps
  { sampling
    config
    samplingTime := config.samplingTime interval
    bindingA
    bindingB
    valueShape
    lags
    lagSteps
    levels := []
    table :=
      ⟨Scalar.zeros (lagSteps.length * valueShape.size),
        List.replicate lagSteps.length 0⟩
    count := 0
    sumA := Scalar.zeros bindingA.length
    sumB := Scalar.zeros (bindingB.getD bindingA).length
    isFinalized := false }

/-- The correlator of a source with another one, or with itself. -/
def create
    (sourceA : Source)
    (sourceB : Option Source)
    (config : Config R)
    (interval : Nat) :
    Except Rejection (FlatCorrelator R) := do
  let sampling ← Sampling.every interval
  config.validate
  let bindingA ← sourceA.bind
  let bindingB ← match sourceB with
    | some source => source.bind.map some
    | none => .ok none
  let valueShape ←
    config.operation.valueShape bindingA.length (bindingB.getD bindingA).length
  return blank config bindingA bindingB valueShape sampling interval

/-! ### Samples -/

variable [Exponential R]

/-- The levels once a level is allocated, if it is the next one. -/
def allocate (flat : FlatCorrelator R) (level : Nat) : List (FlatLevel R) :=
  if level = flat.levels.length then
    flat.levels ++
      [⟨History.empty flat.config.linearWidth
            (decide (level + 1 < flat.lags.length)), 0⟩]
  else
    flat.levels

/--
Add the pairs of the newest sample in the history of a level to the table.
-/
def correlateNewest
    (flat : FlatCorrelator R)
    (level : Nat)
    (history : History R) :
    Except Trap (FlatTable R) := do
  let range ← readAt flat.lags level
  match history.lagged 0 with
  | some newest =>
      flat.table.correlate flat.config flat.valueShape.size range history newest
        (range.stop - range.first) range.first
  | none => return flat.table

/--
One turn of taking in a sample: the level at which it has arrived is allocated
if it is the next one, the sample enters there, and its pairs are added to the
table.
-/
def turn
    (flat : FlatCorrelator R)
    (level : Nat)
    (sample : Sample R) :
    Except Trap (FlatCorrelator R × Option (Sample R × Sample R)) := do
  let levels := flat.allocate level
  let own ← readAt levels level
  let (own, pair) ← own.push sample
  let table ← flat.correlateNewest level own.history
  return ({ flat with levels := levels.set level own, table }, pair)

/--
Let a sample enter at a level and rise as far as pairs are completed, in so many
turns.
-/
def ingest (flat : FlatCorrelator R) :
    (turns level : Nat) → Sample R → Except Trap (FlatCorrelator R)
  | 0, _, _ => .error .endless
  | turns + 1, level, sample => do
      let (flat, pair) ← flat.turn level sample
      match pair with
      | some (older, newer) =>
          flat.ingest turns (level + 1) (flat.config.rules.reduce older newer)
      | none => return flat

/--
The memory with one more sample in the sums of the streams, and a new count of
them.
-/
def tally
    (flat : FlatCorrelator R)
    (count : Nat)
    (sample : Sample R) :
    FlatCorrelator R :=
  { flat with
    count
    sumA := addOnto flat.sumA sample.a
    sumB := addOnto flat.sumB sample.b }

/-- Take in simultaneous samples of A and B, whose lengths were checked. -/
def receive
    (turns : Nat → Nat)
    (flat : FlatCorrelator R)
    (sample : Sample R) :
    Except Trap (FlatCorrelator R) := do
  let count ← countUp flat.count
  let flat ← (flat.tally count sample).ingest (turns 0) 0 sample
  let _ ← countUp flat.sampling.updates
  return { flat with sampling := flat.sampling.recordUpdate }

/-- Hand the sample that waits at a level, if one does, to the level above. -/
def handOn
    (turns : Nat → Nat)
    (flat : FlatCorrelator R)
    (own : FlatLevel R)
    (level : Nat) :
    Except Trap (FlatCorrelator R) :=
  match own.history.unpaired with
  | some waiting =>
      let own := { own with history := own.history.dropUnpaired }
      let flat := { flat with levels := flat.levels.set level own }
      flat.ingest (turns (level + 1)) (level + 1)
        (flat.config.rules.reduce waiting waiting)
  | none => .ok flat

/--
Hand the samples that wait at so many levels, from one on, to the levels above
them.
-/
def flush
    (turns : Nat → Nat)
    (flat : FlatCorrelator R) :
    (room level : Nat) → Except Trap (FlatCorrelator R)
  | 0, _ => .ok flat
  | room + 1, level =>
      match flat.levels[level]? with
      | none => .ok flat
      | some own => do
          let flat ← flat.handOn turns own level
          flat.flush turns room (level + 1)

/--
End the run: flush what waits for a partner; a second time changes nothing.
-/
def finalize
    (turns : Nat → Nat)
    (flat : FlatCorrelator R) :
    Except Trap (FlatCorrelator R) :=
  if flat.isFinalized then
    .ok flat
  else
    (flat.flush turns (flat.lags.length - 1) 0).map fun flat =>
      { flat with isFinalized := true }

/-! ### Requests -/

/-- Why a pair of samples is not taken in, if it is not. -/
def checkPair
    (flat : FlatCorrelator R)
    (a b : List R) :
    Except Rejection Unit :=
  if flat.isFinalized then
    .error .finalized
  else do
    requireLength flat.lengthA a.length
    requireLength flat.lengthB b.length

/-- Take in simultaneous samples of A and B, unless they are rejected. -/
def addPair
    (turns : Nat → Nat)
    (flat : FlatCorrelator R)
    (a b : List R) :
    Except Trap (Except Rejection (FlatCorrelator R)) :=
  match flat.checkPair a b with
  | .error cause => .ok (.error cause)
  | .ok () => (flat.receive turns ⟨a, b⟩).map .ok

/-- What the sources deliver now. -/
def pull
    (flat : FlatCorrelator R)
    (readings : Readings R) :
    Except Rejection (List R × List R) := do
  let a ← flat.bindingA.pull readings
  let b ← match flat.bindingB with
    | some binding => binding.pull readings
    | none => .ok a
  return (a, b)

/-- Take in what the sources deliver now, unless it is rejected. -/
def update
    (turns : Nat → Nat)
    (flat : FlatCorrelator R)
    (readings : Readings R) :
    Except Trap (Except Rejection (FlatCorrelator R)) :=
  if flat.isFinalized then
    .ok (.error .finalized)
  else
    match flat.pull readings with
    | .error cause => .ok (.error cause)
    | .ok (a, b) => flat.addPair turns a b

/-- Replace the arguments of the operation, unless they are rejected. -/
def setArguments
    (flat : FlatCorrelator R)
    (arguments : Axes R) :
    Except Rejection (FlatCorrelator R) :=
  match flat.config.operation.checkArguments arguments with
  | .ok () => .ok { flat with config := { flat.config with arguments } }
  | .error fault => .error (.configuration (.arguments fault))

/--
Carry out a request or refuse it, in so many turns for a sample that enters at a
level.
-/
def perform
    (turns : Nat → Nat)
    (flat : FlatCorrelator R) :
    Request R → Except Trap (Except Refusal (FlatCorrelator R))
  | .add a => (flat.addPair turns a a).map (·.mapError .rejected)
  | .addPair a b => (flat.addPair turns a b).map (·.mapError .rejected)
  | .update readings => (flat.update turns readings).map (·.mapError .rejected)
  | .finalize => (flat.finalize turns).map .ok
  | .clear => .ok (.error .unsuited)
  | .setArguments arguments =>
      .ok ((flat.setArguments arguments).mapError .rejected)
  | .setInterval _ => .ok (.error (.rejected (.configuration .fixedInterval)))
  | .reschedule interval =>
      .ok (((flat.sampling.setInterval interval).map fun sampling =>
        { flat with sampling }).mapError .rejected)

/-- The correlator after a request; one that is refused changes nothing. -/
def after
    (turns : Nat → Nat)
    (flat : FlatCorrelator R)
    (request : Request R) :
    Except Trap (FlatCorrelator R) := do
  match ← flat.perform turns request with
  | .ok next => return next
  | .error _ => return flat

/-- The correlator after requests in turn, refused or not. -/
def afterAll
    (turns : Nat → Nat)
    (flat : FlatCorrelator R)
    (requests : List (Request R)) :
    Except Trap (FlatCorrelator R) :=
  requests.foldlM (after turns) flat

/-! ### Results -/

/-- The mean of the terms at every lag, undefined where no pair contributed. -/
def result (flat : FlatCorrelator R) : Except Trap (Tensor R) :=
  if flat.valueShape.size = 0 then
    .error .emptyPieces
  else
    reshape (flat.lagSteps.length :: flat.valueShape)
      (FlatTable.means flat.valueShape.size flat.table.counts flat.table.sums)

/--
The mean of a stream from the sum of its samples; zero before the first one.
-/
def streamMean (flat : FlatCorrelator R) (sums : List R) : List R :=
  if flat.count = 0 then
    Scalar.zeros sums.length
  else
    Scalar.divideEach sums flat.count

/-- The mean of the samples of A. -/
def meanA (flat : FlatCorrelator R) : Except Trap (Tensor R) :=
  reshape flat.bindingA.shape (flat.streamMean flat.sumA)

/-- The mean of the samples of B. -/
def meanB (flat : FlatCorrelator R) : Except Trap (Tensor R) :=
  reshape flat.effectiveBindingB.shape (flat.streamMean flat.sumB)

end FlatCorrelator

end RunningStatistics
