import RunningStatistics.Proofs.Acceptance
import RunningStatistics.Proofs.AcceptedHistories
import RunningStatistics.Proofs.FlatTables
import RunningStatistics.Proofs.SessionEffects

/-!
# Series in flat memory

A series may keep its record in one list of values, one sample after another,
and remember how many values a sample has.  The number of samples, the samples
and the table of all of them are then read off the list, each in its own way: by
a division, by cutting off pieces as long as there are enough values, and
through a shape that the values have to fill.

The programs of this module do that, and break off with a trap where a piece
would have no values or the values do not fill the shape.  They show exactly the
samples that were accepted since the record was cleared last.

Read off are the number of these samples, the samples in their order, a table
with one row for each, and a shape that begins with their number.  Every request
ends alike for both kinds of memory.  A script without its inquiries has the
same end and the same replies to all else.
-/

namespace RunningStatistics

variable {R : Type}

/-! ## What a record shows -/

/-- What can be read off a record. -/
structure View (R : Type) where
  length : Nat
  isEmpty : Bool
  samples : List (List R)
  table : Tensor R
  shape : Shape

/--
A view shows samples of one shape: all of them, in their order and nothing else.
-/
structure View.Lists
    (view : View R)
    (shape : Shape)
    (listed : List (List R)) : Prop where
  length : view.length = listed.length
  isEmpty : view.isEmpty = true ↔ listed = []
  samples : view.samples = listed
  tableShape : view.table.shape = [listed.length, shape.size]
  filled : view.table.Filled
  row :
    ∀ index sample, listed[index]? = some sample → view.table.row index = sample
  shape : view.shape = listed.length :: shape

/-- What can be read off a series. -/
def Series.view (series : Series R) : View R where
  length := series.length
  isEmpty := series.isEmpty
  samples := series.samples.toList
  table := series.table
  shape := series.shape

/-- All samples of a series have as many values as its source declares. -/
def Series.IsUniform (series : Series R) : Prop :=
  ∀ sample ∈ series.samples.toList, sample.length = series.binding.length

namespace Series.IsUniform

variable {series : Series R}

theorem length_flatten (uniform : series.IsUniform) :
    series.samples.toList.flatten.length =
      series.length * series.binding.length := by
  rw [← List.flatMap_id', length_flatMap_uniform uniform]
  rfl

/-- A series shows the samples that it holds. -/
theorem lists (uniform : series.IsUniform) :
    series.view.Lists series.binding.shape series.samples.toList where
  length := rfl
  isEmpty := by
    show series.samples.isEmpty = true ↔ _
    rw [Array.isEmpty_iff, Array.toList_eq_nil_iff]
  samples := rfl
  tableShape := rfl
  filled := by
    show series.samples.toList.flatten.length = Shape.size [_, _]
    rw [uniform.length_flatten, Shape.size_cons, Shape.size_cons,
      Shape.size_nil, Nat.mul_one]
  row := by
    intro index sample present
    show
      (series.samples.toList.flatten.drop
        (index * Shape.size [series.binding.length])).take
        (Shape.size [series.binding.length]) = sample
    rw [Shape.size_cons, Shape.size_nil, Nat.mul_one, ← List.flatMap_id']
    exact take_drop_flatMap uniform present
  shape := rfl

end Series.IsUniform

/-! ## Records in one list -/

/--
Cut off pieces of a length as long as there are enough values, at most so many;
what is left over is dropped.
-/
def cutPieces (width : Nat) : (room : Nat) → List R → List (List R)
  | 0, _ => []
  | room + 1, values =>
      if width ≤ values.length then
        values.take width :: cutPieces width room (values.drop width)
      else
        []

/-- Pieces of one length are cut apart again where they were joined. -/
theorem cutPieces_flatten
    {width : Nat}
    (width_pos : 0 < width)
    {pieces : List (List R)}
    (uniform : ∀ piece ∈ pieces, piece.length = width)
    {room : Nat}
    (enough : pieces.length ≤ room) :
    cutPieces width room pieces.flatten = pieces := by
  induction pieces generalizing room with
  | nil =>
      cases room with
      | zero => rfl
      | succ room => exact if_neg (Nat.not_le_of_lt width_pos)
  | cons piece rest hypothesis =>
      cases room with
      | zero => cases enough
      | succ room =>
          rw [List.forall_mem_cons] at uniform
          have within : width ≤ (piece ++ rest.flatten).length := by
            rw [List.length_append, uniform.1]
            exact Nat.le_add_right _ _
          rw [List.flatten_cons, cutPieces, if_pos within,
            List.take_left' uniform.1, List.drop_left' uniform.1,
            hypothesis uniform.2 (Nat.le_of_succ_le_succ enough)]

/-- A series in flat memory, with the interval at which it is sampled. -/
structure FlatSeries (R : Type) where
  sampling : Sampling
  binding : Binding
  /-- The number of values in a sample. -/
  width : Nat
  /-- The samples since the start or the last clearing, one after another. -/
  data : List R

namespace FlatSeries

/-- The record of a source. -/
def create
    (source : Source)
    (interval : Nat) :
    Except Rejection (FlatSeries R) := do
  let sampling ← Sampling.every interval
  let binding ← source.bind
  return ⟨sampling, binding, binding.shape.size, []⟩

/-- Record one sample. -/
def add
    (flat : FlatSeries R)
    (sample : List R) :
    Except Rejection (FlatSeries R) :=
  (requireLength flat.width sample.length).map fun _ =>
    { flat with
      sampling := flat.sampling.recordUpdate
      data := flat.data ++ sample }

/-- Record what the source delivers now. -/
def update
    (flat : FlatSeries R)
    (readings : Readings R) :
    Except Rejection (FlatSeries R) := do
  let sample := readings flat.binding.source
  requireLength flat.width sample.length
  flat.add sample

/-- Forget all samples. -/
def clear (flat : FlatSeries R) : FlatSeries R :=
  { flat with data := [] }

/-- Change when samples are due. -/
def reschedule
    (flat : FlatSeries R)
    (interval : Nat) :
    Except Rejection (FlatSeries R) :=
  (flat.sampling.setInterval interval).map fun sampling =>
    { flat with sampling }

/-- Carry out a request. -/
def perform (flat : FlatSeries R) : Request R → Except Refusal (FlatSeries R)
  | .add sample => (flat.add sample).mapError .rejected
  | .update readings => (flat.update readings).mapError .rejected
  | .clear => .ok flat.clear
  | .setInterval interval => (flat.reschedule interval).mapError .rejected
  | .reschedule interval => (flat.reschedule interval).mapError .rejected
  | .addPair _ _ => .error .unsuited
  | .finalize => .error .unsuited
  | .setArguments _ => .error .unsuited

/-- The record after a request; one that is refused changes nothing. -/
def after (flat : FlatSeries R) (request : Request R) : FlatSeries R :=
  match flat.perform request with
  | .ok next => next
  | .error _ => flat

/-- The record after requests in turn, refused or not. -/
def afterAll
    (flat : FlatSeries R)
    (requests : List (Request R)) :
    FlatSeries R :=
  requests.foldl after flat

/-! ### Reading -/

/-- The number of recorded samples. -/
def length (flat : FlatSeries R) : Except Trap Nat :=
  if flat.width = 0 then
    .error .emptyPieces
  else
    .ok (flat.data.length / flat.width)

/-- Whether nothing is recorded. -/
def isEmpty (flat : FlatSeries R) : Bool :=
  flat.data.isEmpty

/-- The recorded samples, oldest first. -/
def samples (flat : FlatSeries R) : Except Trap (List (List R)) :=
  if flat.width = 0 then .error .emptyPieces
  else .ok (cutPieces flat.width flat.data.length flat.data)

/-- The record as a table with one row for each sample. -/
def table (flat : FlatSeries R) : Except Trap (Tensor R) := do
  let length ← flat.length
  reshape [length, flat.width] flat.data

/-- The shape of the record: the number of samples, then the shape of each. -/
def shape (flat : FlatSeries R) : Except Trap Shape :=
  flat.length.map (· :: flat.binding.shape)

/-- Everything that can be read off a record. -/
def view (flat : FlatSeries R) : Except Trap (View R) := do
  let length ← flat.length
  let samples ← flat.samples
  let table ← flat.table
  let shape ← flat.shape
  return ⟨length, flat.isEmpty, samples, table, shape⟩

end FlatSeries

/-! ## Agreement with series -/

/-- A series in flat memory. -/
def Series.layOut (series : Series R) (sampling : Sampling) : FlatSeries R :=
  ⟨sampling, series.binding, series.binding.length,
    series.samples.toList.flatten⟩

/-- What is read off a series in flat memory is read off the series. -/
theorem Series.IsUniform.view_layOut
    {series : Series R}
    (uniform : series.IsUniform)
    (sampling : Sampling) :
    (series.layOut sampling).view = .ok series.view := by
  have positive := series.binding.length_pos
  have values := uniform.length_flatten
  have length : (series.layOut sampling).length = .ok series.length := by
    refine (if_neg positive.ne').trans (congrArg Except.ok ?_)
    show series.samples.toList.flatten.length / series.binding.length = _
    rw [values, Nat.mul_div_cancel _ positive]
  have enough :
      series.samples.toList.length ≤ series.samples.toList.flatten.length := by
    rw [values]
    exact Nat.le_mul_of_pos_right _ positive
  have samples : (series.layOut sampling).samples = .ok series.samples.toList :=
    (if_neg positive.ne').trans
      (congrArg Except.ok (cutPieces_flatten positive uniform enough))
  have table : (series.layOut sampling).table = .ok series.table := by
    rw [FlatSeries.table, length]
    exact reshape_ok uniform.lists.filled
  have shape : (series.layOut sampling).shape = .ok series.shape := by
    rw [FlatSeries.shape, length]
    rfl
  have isEmpty : (series.layOut sampling).isEmpty = series.isEmpty := by
    show series.samples.toList.flatten.isEmpty = series.samples.isEmpty
    rw [Bool.eq_iff_iff, List.isEmpty_iff_length_eq_zero, values,
      Array.isEmpty_iff_size_eq_zero, Nat.mul_eq_zero, or_iff_left positive.ne']
    rfl
  rw [FlatSeries.view, length, samples, table, shape, isEmpty]
  rfl

variable [Scalar R] [Exponential R]

namespace FlatSeries

/-- A memory holds the record of an accumulator. -/
structure Shows
    (flat : FlatSeries R)
    (accumulator : Accumulator R)
    (series : Series R) : Prop where
  kind : accumulator.statistic = .series series
  held : flat = series.layOut accumulator.sampling
  uniform : series.IsUniform

/-- A memory that holds the record of an accumulator, whatever was recorded. -/
def Mirrors (flat : FlatSeries R) (accumulator : Accumulator R) : Prop :=
  ∃ series, flat.Shows accumulator series

variable {flat : FlatSeries R} {accumulator : Accumulator R} {series : Series R}

theorem Shows.add
    (shows : flat.Shows accumulator series)
    (sample : List R) :
    Alike Mirrors (flat.add sample) (accumulator.add sample) := by
  rw [FlatSeries.add, Accumulator.add, shows.kind, shows.held]
  show Alike Mirrors ((requireLength series.binding.length sample.length).map _)
    ((((requireLength series.binding.length sample.length).map _).map _).map _)
  by_cases fits : series.binding.length = sample.length
  · rw [← fits, requireLength_self]
    refine .ok ⟨⟨series.binding, series.samples.push sample⟩, rfl, ?_, ?_⟩
    · simp [Series.layOut, Accumulator.accept]
    · intro recorded member
      rw [Array.toList_push, List.mem_append, List.mem_singleton] at member
      rcases member with earlier | rfl
      · exact shows.uniform recorded earlier
      · exact fits.symm
  · rw [requireLength_of_ne fits]
    exact .error _

theorem Shows.update
    (shows : flat.Shows accumulator series)
    (readings : Readings R) :
    Alike Mirrors (flat.update readings) (accumulator.update readings) := by
  have added := shows.add (readings series.binding.source)
  rw [Accumulator.add, shows.kind] at added
  rw [FlatSeries.update, Accumulator.update, shows.kind]
  rw [shows.held] at added ⊢
  show
    Alike Mirrors
      (requireLength series.binding.length
        (readings series.binding.source).length >>=
        _) ((series.binding.pull readings >>= _).map _)
  by_cases fits : series.binding.length =
    (readings series.binding.source).length
  · rw [series.binding.pull_of_fits fits, ← fits, requireLength_self]
    exact added
  · rw [series.binding.pull_of_misfit fits, requireLength_of_ne fits]
    exact .error _

omit [Scalar R] [Exponential R] in
theorem Shows.reschedule
    (shows : flat.Shows accumulator series)
    (interval : Nat) :
    Alike Mirrors (flat.reschedule interval)
      (accumulator.reschedule interval) := by
  rw [FlatSeries.reschedule, Accumulator.reschedule, shows.held]
  show Alike Mirrors ((accumulator.sampling.setInterval interval).map _) _
  cases accumulator.sampling.setInterval interval with
  | error cause => exact .error cause
  | ok sampling => exact .ok ⟨series, shows.kind, rfl, shows.uniform⟩

/-- A request ends alike in flat memory and in an accumulator. -/
theorem Shows.perform
    (shows : flat.Shows accumulator series)
    (request : Request R) :
    Alike Mirrors (flat.perform request) (accumulator.perform request) := by
  have kind := shows.kind
  cases request with
  | add sample => exact (shows.add sample).mapError _
  | update readings => exact (shows.update readings).mapError _
  | clear =>
      rw [Accumulator.perform, Accumulator.clear?, kind]
      refine .ok ⟨series.clear, rfl, ?_, ?_⟩
      · rw [shows.held]
        rfl
      · intro sample member
        cases member
  | setInterval interval =>
      rw [Accumulator.perform, Accumulator.setInterval, kind]
      exact (shows.reschedule interval).mapError _
  | reschedule interval => exact (shows.reschedule interval).mapError _
  | addPair a b =>
      rw [Accumulator.perform, Accumulator.addPair?, kind]
      exact .error Refusal.unsuited
  | finalize =>
      rw [Accumulator.perform, Accumulator.finalize?, kind]
      exact .error Refusal.unsuited
  | setArguments arguments =>
      rw [Accumulator.perform, Accumulator.setArguments?, kind]
      exact .error Refusal.unsuited

theorem Mirrors.perform
    (mirrors : flat.Mirrors accumulator)
    (request : Request R) :
    Alike Mirrors (flat.perform request) (accumulator.perform request) := by
  rcases mirrors with ⟨series, shows⟩
  exact shows.perform request

theorem Mirrors.after
    (mirrors : flat.Mirrors accumulator)
    (request : Request R) :
    (flat.after request).Mirrors (accumulator.after request) := by
  have alike := mirrors.perform request
  rw [FlatSeries.after, Accumulator.after]
  generalize flat.perform request = outcome at alike
  generalize accumulator.perform request = outcome' at alike
  cases alike with
  | error cause => exact mirrors
  | ok values => exact values

theorem Mirrors.afterAll
    (mirrors : flat.Mirrors accumulator)
    (requests : List (Request R)) :
    (flat.afterAll requests).Mirrors (accumulator.afterAll requests) := by
  induction requests generalizing flat accumulator with
  | nil => exact mirrors
  | cons request rest hypothesis => exact hypothesis (mirrors.after request)

end FlatSeries

omit [Scalar R] [Exponential R] in
/--
A record is created in flat memory whenever a series is, and refused with it.
-/
theorem FlatSeries.alike_create
    (source : Source)
    (interval : Nat) :
    Alike FlatSeries.Mirrors
      (FlatSeries.create source interval : Except Rejection (FlatSeries R))
      (Accumulator.series source interval) := by
  refine Alike.bind fun sampling _ => Alike.bind fun binding _ => .ok ?_
  refine ⟨.start binding, rfl, rfl, ?_⟩
  intro sample member
  cases member

/-! ## Inquiries -/

namespace Session

/--
A script without its inquiries ends in the same session and has the same
replies.
-/
theorem run_without_inquiries
    (session : Session R)
    (script : List (Command R)) :
    session.run (script.filter (!·.isInquiry)) =
      ((session.run script).1,
        ((script.zip (session.run script).2).filter (!·.1.isInquiry)).map
          (·.2)) := by
  induction script generalizing session with
  | nil => rfl
  | cons command rest hypothesis =>
      rw [run]
      cases asks : command.isInquiry with
      | true =>
          simp [List.zip_cons_cons, asks, hypothesis,
            session.execute_of_isInquiry asks]
      | false => simp [run, List.zip_cons_cons, asks, hypothesis]

end Session

/-! ## The record of a run -/

/--
The samples accepted since the record was cleared last are all that is read off
a series, in memory of either kind, whatever is asked of it; and reading leaves
no trace.
-/
theorem record_shows_accepted_samples
    {source : Source}
    {interval : Nat}
    (nonempty : 0 < source.shape.size)
    (interval_pos : 0 < interval)
    (requests : List (Request R)) :
    ∃ (start : Accumulator R) (first : FlatSeries R) (series : Series R),
      Accumulator.series source interval = .ok start ∧
      FlatSeries.create source interval = .ok first ∧
      (start.afterAll requests).statistic = .series series ∧
      series.view.Lists source.shape
        (start.ledger source.id .empty requests).kept ∧
      (first.afterAll requests).view = .ok series.view ∧
      (∀ request,
        ((first.afterAll requests).perform request).map (fun _ => ()) =
          ((start.afterAll requests).perform request).map fun _ => ()) ∧
      ∀ (session : Session R) (script : List (Command R)),
        session.run (script.filter (!·.isInquiry)) =
          ((session.run script).1,
            ((script.zip (session.run script).2).filter (!·.1.isInquiry)).map
              (·.2)) := by
  have accepted :
      Accumulator.series source interval =
        .ok
          (⟨⟨interval, 0, interval_pos⟩,
              .series (.start ⟨source.id, source.shape, nonempty⟩)⟩ :
            Accumulator R) :=
    Accumulator.ofSource_eq (dif_pos interval_pos) (dif_pos nonempty)
  have alike := FlatSeries.alike_create (R := R) source interval
  generalize made : FlatSeries.create source interval = outcome at alike
  rw [accepted] at alike
  cases alike with
  | @ok first _ mirrors =>
      rcases Accumulator.exists_record accepted requests with
        ⟨series, kind, bound, kept, _⟩
      have mirrored := mirrors.afterAll requests
      rcases mirrored with ⟨same, shows⟩
      cases shows.kind.symm.trans kind
      refine ⟨_, first, series, accepted, rfl, kind, ?_, ?_, ?_,
        Session.run_without_inquiries⟩
      · rw [← kept, ← (Source.bind_ok bound).2]
        exact shows.uniform.lists
      · rw [shows.held]
        exact shows.uniform.view_layOut _
      · intro request
        exact (shows.perform request).map_const_eq ()

/-- Samples of two values and of other lengths, with a clearing among them. -/
def trialRecord : List (Request Float) :=
  [.add [Scalar.ofNat 1, Scalar.ofNat 2], .clear, .add [Scalar.ofNat 3],
    .add [Scalar.ofNat 4, Scalar.ofNat 5],
    .update fun source => [Scalar.ofNat source.index, Scalar.ofNat 6],
    .update fun _ => []]

theorem record_shows_accepted_samples_trial :
    ∃ (first : FlatSeries Float) (view : View Float),
      FlatSeries.create (trialSource 0) 2 = .ok first ∧
      (first.afterAll trialRecord).view = .ok view ∧
      view.samples =
        [[Scalar.ofNat 4, Scalar.ofNat 5], [Scalar.ofNat 0, Scalar.ofNat 6]] ∧
      view.length = 2 ∧
      view.isEmpty = false ∧
      view.shape = [2, 2] ∧
      view.table.row 1 = [Scalar.ofNat 0, Scalar.ofNat 6] := by
  have begun : Accumulator.series (trialSource 0) 2 = .ok trialSeries := rfl
  have kept :
      (trialSeries.ledger ⟨0⟩ .empty trialRecord).kept =
        [[Scalar.ofNat 4, Scalar.ofNat 5],
          [Scalar.ofNat 0, Scalar.ofNat 6]] := by
    decide +kernel
  have nonempty : 0 < (trialSource 0).shape.size := Nat.two_pos
  rcases record_shows_accepted_samples nonempty Nat.two_pos trialRecord with
    ⟨start, first, series, created, made, _, lists, same, _⟩
  have same_start : trialSeries = start :=
    Except.ok.inj (begun.symm.trans created)
  rw [← same_start] at lists
  replace lists : series.view.Lists [2] _ := kept ▸ lists
  refine ⟨first, series.view, made, same, lists.samples, lists.length, ?_,
    lists.shape, lists.row 1 _ rfl⟩
  rw [← Bool.not_eq_true, lists.isEmpty]
  exact List.cons_ne_nil _ _

end RunningStatistics
