import RunningStatistics.Proofs.FlatRuns

/-!
# Freedom from traps

Whatever an owner asks of a correlator in flat memory, no access is out of
range, no list is cut into pieces of no values, no loop needs more turns than
levels are left above, and what is reported fills its shape.  The only bound is
on the number of samples, which have to be counted in 64 bits.

The rows of all lags are numbered one level after another, the levels are
allocated one by one, and the table has its size from the beginning.  That these
agree at all times is what the memory of a correlator is about.

Each ingestion gets only as many turns as there are levels from its first one
on.  Every turn is taken at a level that is allocated or the next one to be.  No
two lags share a row, and no divisor of a list is zero.
-/

namespace RunningStatistics

variable {R : Type} [Scalar R] [Exponential R]

/-- A correlation value has at least one component. -/
theorem Operation.size_valueShape_pos
    {operation : Operation}
    {lengthA lengthB : Nat}
    {shape : Shape}
    (fitting : operation.valueShape lengthA lengthB = .ok shape)
    (nonemptyA : 0 < lengthA)
    (nonemptyB : 0 < lengthB) :
    0 < shape.size := by
  cases operation with
  | tensorProduct =>
      cases fitting
      rw [Shape.size_cons, Shape.size_nil, Nat.mul_one]
      exact Nat.mul_pos nonemptyA nonemptyB
  | _ =>
      rw [valueShape] at fitting
      split at fitting
      next fits =>
        cases fitting
        simp only [Shape.size_cons, Shape.size_nil]
        omega
      next => cases fitting

/-- The means of all rows fill the shape of the result. -/
theorem Correlator.Stands.filled_result
    {correlator : Correlator R}
    {course : Course R}
    (stands : correlator.Stands course) : correlator.result.Filled := by
  have means :
      ∀ row ∈ correlator.rows, row.mean.length = correlator.valueShape.size :=
    fun row member => (Row.length_mean row).trans (stands.uniform row member)
  rw [Tensor.Filled, Correlator.result, length_flatMap_uniform means,
    stands.length_rows]
  rfl

namespace FlatCorrelator

/-! ## Sizes -/

/-- A memory whose lists are as long as its indices require. -/
structure InBounds (flat : FlatCorrelator R) : Prop where
  /-- No more levels are allocated than there are. -/
  depth : flat.levels.length ≤ flat.lags.length
  /-- The coarsest level alone passes nothing on. -/
  promotes :
    ∀ {index : Nat} {own : FlatLevel R},
      flat.levels[index]? = some own →
      own.history.promotes = decide (index + 1 < flat.lags.length)
  fitting :
    flat.config.operation.valueShape flat.lengthA flat.lengthB =
      .ok flat.valueShape
  width_pos : 0 < flat.valueShape.size
  lengthB_pos : 0 < flat.lengthB
  /-- Every lag has a row, and the slice and the count of the row are there. -/
  rows :
    ∀ {level lag : Nat} {range : LagRange},
      flat.lags[level]? = some range →
      range.first ≤ lag →
      lag < range.stop →
      range.rowAt lag = .ok (range.row lag) ∧
      range.row lag < flat.lagSteps.length ∧
      range.row lag < flat.table.counts.length ∧
      (range.row lag + 1) * flat.valueShape.size ≤ flat.table.sums.length
  /-- No two lags have one row. -/
  apart :
    ∀ {level later lag further : Nat} {range other : LagRange},
      flat.lags[level]? = some range →
      flat.lags[later]? = some other →
      range.first ≤ lag →
      lag < range.stop →
      other.first ≤ further →
      further < other.stop →
      range.row lag = other.row further →
      level = later ∧ lag = further

variable
    {flat : FlatCorrelator R}
    {accumulator : Accumulator R}
    {correlator : Correlator R}
    {course : Course R}

/-- The table has one row for each lag, and each row has its sums. -/
theorem Shows.length_table (shows : flat.Shows accumulator correlator course) :
    flat.lagSteps.length = correlator.lagCount ∧
    flat.table.counts.length = correlator.lagCount ∧
    flat.table.sums.length =
      correlator.lagCount * correlator.valueShape.size := by
  have rows := shows.keeps.stands.length_rows
  rw [shows.held]
  refine ⟨?_, ?_, ?_⟩
  · rw [Correlator.lagCount, correlator.lagSteps_eq]
    rfl
  · exact (List.length_map _).trans rows
  · exact rows ▸ length_flatMap_uniform shows.keeps.stands.uniform

theorem Shows.inBounds (shows : flat.Shows accumulator correlator course) :
    flat.InBounds := by
  rcases shows.length_table with ⟨steps, counts, sums⟩
  have laid := shows.keeps.laid
  rcases shows with ⟨_, rfl, keeps, _⟩
  have nonemptyA := correlator.bindingA.length_pos
  have nonemptyB := correlator.effectiveBindingB.length_pos
  refine ⟨?_, ?_, keeps.stands.fitting,
    Operation.size_valueShape_pos keeps.stands.fitting nonemptyA nonemptyB,
    nonemptyB, ?_, ?_⟩
  · rw [Correlator.layOut, Correlator.lags, List.length_map]
    exact Hierarchy.length_reached_le _ _
  · intro index own present
    rcases Hierarchy.exists_of_reached present with ⟨level, found, history⟩
    have range : correlator.lags[index]? = some level.lags := by
      rw [Correlator.lags, List.getElem?_map, found]
      rfl
    have design := congrArg (·[index]?) keeps.designs
    simp only [List.getElem?_map, Hierarchy.getElem?_empty, found, range]
      at design
    rw [history]
    exact congrArg Prod.snd (Option.some.inj design)
  · intro level lag range present least below
    have step := laid.getElem?_steps present least below
    have within := (List.getElem?_eq_some_iff.mp step).1
    have row : range.rowAt lag = .ok (range.row lag) :=
      if_pos (Nat.le_trans least (Nat.le_add_left _ _))
    rw [counts, sums, ← steps]
    exact ⟨row, within, within, Nat.mul_le_mul_right _ within⟩
  · intro level later lag further range other present coarser least below least'
      below'
    exact laid.row_injective present coarser least below least' below'

/-! ## Reports -/

theorem Shows.result (shows : flat.Shows accumulator correlator course) :
    flat.result = .ok correlator.result ∧ correlator.result.Filled := by
  have nonempty := shows.inBounds.width_pos
  rcases shows.length_table with ⟨steps, _, _⟩
  have stands := shows.keeps.stands
  refine ⟨?_, stands.filled_result⟩
  rw [FlatCorrelator.result, if_neg (Nat.ne_of_gt nonempty), steps, shows.held]
  show
    reshape correlator.shape
      (FlatTable.means correlator.valueShape.size
        (FlatTable.ofRows correlator.rows).counts
        (FlatTable.ofRows correlator.rows).sums) = _
  rw [FlatTable.means_ofRows stands.uniform]
  exact reshape_ok stands.filled_result

omit [Exponential R] in
theorem length_streamMean
    (correlator : Correlator R)
    (sums : List R) :
    (correlator.streamMean sums).length = sums.length := by
  rw [Correlator.streamMean]
  split
  · exact Scalar.length_zeros _
  · exact Scalar.length_divideEach _ _

/-- The means of the streams fill the shapes of their sources. -/
theorem Shows.means (shows : flat.Shows accumulator correlator course) :
    (flat.meanA = .ok correlator.meanA ∧ correlator.meanA.Filled) ∧
    flat.meanB = .ok correlator.meanB ∧
    correlator.meanB.Filled := by
  have filledA : correlator.meanA.Filled :=
    (length_streamMean correlator correlator.sumA).trans shows.keeps.sumA
  have filledB : correlator.meanB.Filled :=
    (length_streamMean correlator correlator.sumB).trans shows.keeps.sumB
  rw [shows.held]
  exact ⟨⟨reshape_ok filledA, filledA⟩, reshape_ok filledB, filledB⟩

/-! ## Turns -/

theorem readAt_ok
    {α : Type}
    {items : List α}
    {index : Nat}
    {item : α}
    (success : readAt items index = .ok item) :
    index < items.length := by
  rw [readAt] at success
  split at success
  next found => exact (List.getElem?_eq_some_iff.mp found).1
  next => cases success

/--
A turn is taken at a level that is allocated or the next one to be, and that has
lags.
-/
theorem turn_ok
    {flat : FlatCorrelator R}
    {level : Nat}
    {sample : Sample R}
    {outcome : FlatCorrelator R × Option (Sample R × Sample R)}
    (taken : flat.turn level sample = .ok outcome) :
    level ≤ flat.levels.length ∧ level < flat.lags.length := by
  rcases bind_ok taken with ⟨own, allocated, taken⟩
  rcases bind_ok taken with ⟨⟨after, pair⟩, _, taken⟩
  rcases bind_ok taken with ⟨table, correlated, _⟩
  rcases bind_ok correlated with ⟨range, present, _⟩
  refine ⟨?_, readAt_ok present⟩
  have within := readAt_ok allocated
  rw [allocate] at within
  split at within
  next next => exact Nat.le_of_eq next
  next => exact Nat.le_of_lt within

end FlatCorrelator

/--
No sequence of requests to a correlator in flat memory ends in a trap, as long
as fewer than `2 ^ 64` samples are accepted, and what it reports is what the
correlator reports.
-/
theorem requests_never_trap
    {sourceA : Source}
    {sourceB : Option Source}
    {config : Config R}
    {interval : Nat}
    {flat : FlatCorrelator R}
    (created :
      FlatCorrelator.create sourceA sourceB config interval = .ok flat) :
    ∃ start,
      Accumulator.correlator sourceA sourceB config interval = .ok start ∧
      ∀ requests,
        (start.afterAll requests).updates < 2 ^ 64 →
        ∃ last correlator,
          flat.afterAll (flat.lags.length - ·) requests = .ok last ∧
          (start.afterAll requests).statistic = .correlator correlator ∧
          last.lags = flat.lags ∧
          last.table = .ofRows correlator.rows ∧
          last.InBounds ∧
          (last.result = .ok correlator.result ∧ correlator.result.Filled) ∧
          (last.meanA = .ok correlator.meanA ∧ correlator.meanA.Filled) ∧
          (last.meanB = .ok correlator.meanB ∧ correlator.meanB.Filled) ∧
          ∀ (memory : FlatCorrelator R) (level : Nat) (sample : Sample R)
              outcome,
            memory.turn level sample = .ok outcome →
            level ≤ memory.levels.length ∧ level < memory.lags.length := by
  have alike := FlatCorrelator.alike_create sourceA sourceB config interval
  rw [created] at alike
  cases accepted : Accumulator.correlator sourceA sourceB config interval with
  | error cause =>
      rw [accepted] at alike
      cases alike
  | ok start =>
      rw [accepted] at alike
      cases alike with
      | ok mirrors =>
          refine ⟨start, rfl, ?_⟩
          intro requests few
          rcases mirrors.afterAll (fun level _ => Nat.le_refl _) few with
            ⟨last, ended, lags, correlator, course, shows⟩
          rcases shows.means with ⟨meanA, meanB⟩
          have table := congrArg FlatCorrelator.table shows.held
          exact ⟨last, correlator, ended, shows.kind, lags, table,
            shows.inBounds, shows.result, meanA, meanB,
            fun memory level sample outcome taken =>
              FlatCorrelator.turn_ok taken⟩

/--
A trial run with a sample of a wrong length, and with requests after its end.
-/
def trialRequestsBeyondEnd : List (Request Float) :=
  trialRequests ++
    [.add [Scalar.ofNat 1], .finalize, .add [Scalar.ofNat 1, Scalar.ofNat 2],
      .finalize]

theorem requests_never_trap_trial :
    ∃ (flat last : FlatCorrelator Float) (correlator : Correlator Float),
      FlatCorrelator.create (trialSource 0) (some (trialSource 1))
          trialConfig 2 =
        .ok flat ∧
      flat.afterAll (flat.lags.length - ·) trialRequestsBeyondEnd = .ok last ∧
      last.lags = flat.lags ∧
      last.InBounds ∧
      last.result = .ok correlator.result ∧
      correlator.result.Filled := by
  have accepted :
      (FlatCorrelator.create (trialSource 0) (some (trialSource 1))
        trialConfig 2).toBool = true := by
    decide +kernel
  have few :
      ((Accumulator.correlator (trialSource 0) (some (trialSource 1))
         trialConfig 2).map fun start =>
        decide ((start.afterAll trialRequestsBeyondEnd).updates < 2 ^ 64)) =
        .ok true := by
    decide +kernel
  rcases exists_ok accepted with ⟨flat, created⟩
  rcases requests_never_trap created with ⟨start, begun, safe⟩
  rw [begun] at few
  rcases safe _ (of_decide_eq_true (Except.ok.inj few)) with
    ⟨last, correlator, ended, _, lags, _, bounds, ⟨result, filled⟩, _⟩
  exact ⟨flat, last, correlator, created, ended, lags, bounds, result, filled⟩

end RunningStatistics
