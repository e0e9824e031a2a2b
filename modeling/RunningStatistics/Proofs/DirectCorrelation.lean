import RunningStatistics.Proofs.CorrelatorRuns

/-!
# The table of a correlator

The rows of a correlator are those of the definition on whole lists.  For every
level and every lag that the level covers, the row of the lag is the fold of
the terms over all pairs of the level's stream which are that lag apart, and
the result at that row is its mean.

The statement uses no law of the arithmetic: the terms are added in the order
in which the definition on whole lists adds them.

Each pair contributes with the terms in force when its newer sample reached the
level.
-/

namespace RunningStatistics

variable {R : Type} [Scalar R]

/-! ## Addressing the rows -/

namespace Hierarchy

theorem Carries.length_rows
    {width : Nat}
    {next : List (Arrival R) → List (Arrival R)}
    {hierarchy : Hierarchy R}
    {stream : List (Arrival R)}
    (carries : Carries width next hierarchy stream) :
    ∀ level ∈ hierarchy, level.rows.length = level.lags.count := by
  intro level member
  rcases List.mem_iff_getElem?.mp member with ⟨index, present⟩
  rw [(carries.holds present).rows, List.length_map, List.length_range']

/--
The row of a lag stands in the table where the numbering of the rows puts it.
-/
theorem Carries.getElem?_rows
    {width : Nat}
    {next : List (Arrival R) → List (Arrival R)}
    {hierarchy : Hierarchy R}
    {stream : List (Arrival R)}
    (carries : Carries width next hierarchy stream)
    (laid : LagRange.LaidOut 0 (hierarchy.map (·.lags)))
    {index : Nat}
    {level : Level R}
    (present : hierarchy[index]? = some level)
    {lag : Nat}
    (least : level.lags.first ≤ lag)
    (below : lag < level.lags.stop) :
    (rows hierarchy)[level.lags.row lag]? =
      some (directRow width (next^[index] stream) lag) := by
  have addressed : (hierarchy.flatMap (·.rows))[level.lags.row lag - 0]? =
      level.rows[lag - level.lags.first]? :=
    laid.getElem?_flatMap carries.length_rows present least below
  have within : lag - level.lags.first < level.lags.count := by
    rw [LagRange.count]
    omega
  rw [Nat.sub_zero] at addressed
  rw [rows, addressed, (carries.holds present).rows, List.getElem?_map,
    List.getElem?_range' within, Nat.one_mul, Nat.add_sub_cancel' least]
  rfl

/-- Every row belongs to a lag of the stream of some level. -/
theorem Carries.exists_of_mem_rows
    {width : Nat}
    {next : List (Arrival R) → List (Arrival R)}
    {hierarchy : Hierarchy R}
    {stream : List (Arrival R)}
    (carries : Carries width next hierarchy stream)
    {row : Row R}
    (member : row ∈ rows hierarchy) :
    ∃ index lag, row = directRow width (next^[index] stream) lag := by
  rcases List.mem_flatMap.mp member with ⟨level, among, own⟩
  rcases List.mem_iff_getElem?.mp among with ⟨index, present⟩
  rw [(carries.holds present).rows] at own
  rcases List.mem_map.mp own with ⟨lag, _, rfl⟩
  exact ⟨index, lag, rfl⟩

end Hierarchy

/--
Where the cells of all items have one length, the cells of an item are found by
its index.
-/
theorem take_drop_flatMap
    {α β : Type}
    {cells : α → List β}
    {width : Nat}
    {items : List α}
    (uniform : ∀ item ∈ items, (cells item).length = width)
    {index : Nat}
    {item : α}
    (present : items[index]? = some item) :
    ((items.flatMap cells).drop (index * width)).take width = cells item := by
  induction items generalizing index with
  | nil => cases present
  | cons first rest hypothesis =>
      rw [List.forall_mem_cons] at uniform
      rw [List.flatMap_cons]
      cases index with
      | zero =>
          cases present
          rw [Nat.zero_mul, List.drop_zero, List.take_left' uniform.1]
      | succ index =>
          have behind :
              (index + 1) * width = (cells first).length + index * width := by
            rw [uniform.1, Nat.succ_mul, Nat.add_comm]
          rw [behind, List.drop_append, List.drop_eq_nil_of_le (by omega),
            List.nil_append, Nat.add_sub_cancel_left]
          exact hypothesis uniform.2 present

/-! ## The number of values in a row -/

theorem length_sums_foldl_addArrivals
    {width : Nat}
    {row : Row R}
    {pairs : List (Arrival R × Arrival R)}
    (start : row.sums.length = width)
    (uniform :
      ∀ pair ∈ pairs,
        (pair.2.terms pair.1.sample.a pair.2.sample.b).length = width) :
    (pairs.foldl Row.addArrivals row).sums.length = width := by
  induction pairs generalizing row with
  | nil => exact start
  | cons pair rest hypothesis =>
      rw [List.forall_mem_cons] at uniform
      apply hypothesis _ uniform.2
      rw [Row.addArrivals, Row.add, Scalar.length_addEach, start, uniform.1,
        Nat.min_self]

variable [Exponential R]

/-- A row has as many sums as one correlation value has components. -/
theorem length_sums_directRow
    {operation : Operation}
    {lengthA lengthB : Nat}
    {shape : Shape}
    (fitting : operation.valueShape lengthA lengthB = .ok shape)
    {stream : List (Arrival R)}
    (suits : ∀ arrival ∈ stream, arrival.Suits operation lengthA lengthB)
    (lag : Nat) :
    (directRow shape.size stream lag).sums.length = shape.size := by
  apply length_sums_foldl_addArrivals (Scalar.length_zeros _)
  intro pair member
  have older := suits pair.1 (List.of_mem_zip member).1
  have newer := suits pair.2 (List.mem_of_mem_drop (List.of_mem_zip member).2)
  rcases newer.terms with ⟨arguments, terms⟩
  rw [terms]
  exact Operation.length_terms fitting arguments older.fitsA newer.fitsB

namespace Arrival

variable {operation : Operation} {lengthA lengthB : Nat}

theorem Suits.reduce
    (config : Config R)
    {older newer : Arrival R}
    (first : older.Suits operation lengthA lengthB)
    (second : newer.Suits operation lengthA lengthB) :
    (Arrival.reduce config.rules.reduce older newer).Suits operation
      lengthA lengthB where
  fitsA :=
    (Compression.length_combine _ (first.fitsA.trans second.fitsA.symm)).trans
      first.fitsA
  fitsB :=
    (Compression.length_combine _ (first.fitsB.trans second.fitsB.symm)).trans
      first.fitsB
  terms := second.terms

theorem Suits.close
    (config : Config R)
    {waiting : Arrival R}
    (suits : waiting.Suits config.operation lengthA lengthB) :
    (Arrival.close config.rules waiting).Suits config.operation
      lengthA lengthB where
  fitsA := (Compression.length_combine _ rfl).trans suits.fitsA
  fitsB := (Compression.length_combine _ rfl).trans suits.fitsB
  terms := ⟨config.arguments, rfl⟩

end Arrival

theorem forall_mem_levelStream
    (config : Config R)
    {operation : Operation}
    {lengthA lengthB : Nat}
    {raw : List (Arrival R)}
    (suits : ∀ arrival ∈ raw, arrival.Suits operation lengthA lengthB)
    (level : Nat) :
    ∀ arrival ∈ levelStream config.rules.reduce raw level,
      arrival.Suits operation lengthA lengthB := by
  induction level with
  | zero => exact suits
  | succ level hypothesis =>
      exact forall_mem_halve (fun older newer => Arrival.Suits.reduce config)
        hypothesis

theorem forall_mem_finalStream
    (config : Config R)
    {lengthA lengthB : Nat}
    {raw : List (Arrival R)}
    (suits : ∀ arrival ∈ raw, arrival.Suits config.operation lengthA lengthB)
    (level : Nat) :
    ∀ arrival ∈ finalStream config.rules raw level,
      arrival.Suits config.operation lengthA lengthB := by
  induction level with
  | zero => exact suits
  | succ level hypothesis =>
      exact forall_mem_halveAll (fun older newer => Arrival.Suits.reduce config)
        (fun waiting => Arrival.Suits.close config) hypothesis

/-! ## Results -/

namespace Correlator

omit [Scalar R] [Exponential R] in
theorem exists_range
    {correlator : Correlator R}
    {level : Nat}
    (below : level < correlator.depth) :
    ∃ range, correlator.lags[level]? = some range := by
  have present : level < correlator.lags.length := by
    rw [lags, List.length_map]
    exact below
  exact ⟨correlator.lags[level], List.getElem?_eq_getElem present⟩

omit [Exponential R] in
/-- The result at a row is the mean of the row. -/
theorem row_result
    {correlator : Correlator R}
    (uniform :
      ∀ row ∈ correlator.rows, row.sums.length = correlator.valueShape.size)
    {index : Nat}
    {row : Row R}
    (present : correlator.rows[index]? = some row) :
    correlator.result.row index = row.mean :=
  take_drop_flatMap
    (fun row member => (Row.length_mean row).trans (uniform row member)) present

/--
The table of a correlator whose levels carry streams of fitting samples, at a
lag that some level covers.
-/
theorem row_of_carries
    {correlator : Correlator R}
    {next : List (Arrival R) → List (Arrival R)}
    {raw : List (Arrival R)}
    (carries :
      Hierarchy.Carries correlator.valueShape.size next
        correlator.hierarchy raw)
    (suits :
      ∀ level,
        ∀ arrival ∈ next^[level] raw,
          arrival.Suits correlator.config.operation correlator.lengthA
            correlator.lengthB)
    (fitting :
      correlator.config.operation.valueShape correlator.lengthA
          correlator.lengthB =
        .ok correlator.valueShape)
    (laid : LagRange.LaidOut 0 correlator.lags)
    {index : Nat}
    {range : LagRange}
    (present : correlator.lags[index]? = some range)
    {lag : Nat}
    (least : range.first ≤ lag)
    (below : lag < range.stop) :
    let row := directRow correlator.valueShape.size (next^[index] raw) lag
    correlator.rows[range.row lag]? = some row ∧
    row.sums.length = correlator.valueShape.size ∧
    correlator.result.row (range.row lag) = row.mean := by
  intro row
  have uniform :
      ∀ row ∈ correlator.rows,
        row.sums.length = correlator.valueShape.size := by
    intro row member
    rcases carries.exists_of_mem_rows member with ⟨index, lag, rfl⟩
    exact length_sums_directRow fitting (suits index) lag
  have stands : correlator.rows[range.row lag]? = some row := by
    rw [lags, List.getElem?_map, Option.map_eq_some_iff] at present
    rcases present with ⟨level, present, rfl⟩
    exact carries.getElem?_rows laid present least below
  exact ⟨stands, uniform row (List.mem_of_getElem? stands),
    row_result uniform stands⟩

/-- The table of a correlator whose run goes on. -/
theorem Records.row
    {correlator : Correlator R}
    {raw : List (Arrival R)}
    (records : correlator.Records raw)
    (fitting :
      correlator.config.operation.valueShape correlator.lengthA
          correlator.lengthB =
        .ok correlator.valueShape)
    (laid : LagRange.LaidOut 0 correlator.lags)
    {index : Nat}
    {range : LagRange}
    (present : correlator.lags[index]? = some range)
    {lag : Nat}
    (least : range.first ≤ lag)
    (below : lag < range.stop) :
    let row :=
      directRow correlator.valueShape.size
        (levelStream correlator.config.rules.reduce raw index) lag
    correlator.rows[range.row lag]? = some row ∧
    row.sums.length = correlator.valueShape.size ∧
    correlator.result.row (range.row lag) = row.mean := by
  rw [levelStream_eq_iterate]
  refine row_of_carries records.follows.carries ?_ fitting laid present
    least below
  intro level
  rw [← levelStream_eq_iterate]
  exact forall_mem_levelStream correlator.config records.suits level

end Correlator

/--
While a run goes on, the row of a lag has the sums and the number of all pairs
of the level's stream which are that lag apart, and the result at the row is the
mean.
-/
theorem row_eq_directRow
    {sourceA : Source}
    {sourceB : Option Source}
    {config : Config R}
    {interval : Nat}
    {start final : Accumulator R}
    {requests : List (Request R)}
    (created :
      Accumulator.correlator sourceA sourceB config interval = .ok start)
    (performed : start.performAll requests = .ok final)
    (goesOn : Request.finalize ∉ requests) :
    ∃ correlator,
      final.statistic = .correlator correlator ∧
      ∀ level < correlator.depth,
        ∃ range,
          correlator.lags[level]? = some range ∧
          ∀ lag,
            range.first ≤ lag →
            lag < range.stop →
            let width := correlator.valueShape.size
            let raw :=
              arrivals config.operation sourceA.id (sourceB.getD sourceA).id
                config.arguments requests
            let stream := levelStream config.rules.reduce raw level
            let row := directRow width stream lag
            correlator.rows[range.row lag]? = some row ∧
            row.count = stream.length - lag ∧
            correlator.result.row (range.row lag) =
              if stream.length ≤ lag then
                List.replicate width Scalar.undefined
              else
                Scalar.divideEach row.sums (stream.length - lag) := by
  rcases Accumulator.correlator_ok created with ⟨initial, kind, made⟩
  rcases made.records.performAll kind performed goesOn with
    ⟨correlator, reached, same, _, records⟩
  rw [made.arrivalsOf_eq, List.nil_append] at records
  refine ⟨correlator, reached, ?_⟩
  intro level below
  rcases Correlator.exists_range below with ⟨range, present⟩
  refine ⟨range, present, ?_⟩
  intro lag least covered width raw stream row
  rcases records.row (made.fits same) (made.laidOut same) present
      least covered with
    ⟨stands, length, mean⟩
  rw [made.reduces same] at stands length mean
  have count : row.count = stream.length - lag :=
    count_directRow width stream lag
  refine ⟨stands, count, ?_⟩
  rw [mean, Row.mean_eq, length]
  simp only [count_directRow, Nat.sub_eq_zero_iff_le]
  rfl

theorem row_eq_directRow_trial :
    ∃ start final correlator,
      Accumulator.correlator (trialSource 0) (some (trialSource 1))
          trialConfig 2 =
        .ok start ∧
      start.performAll trialRequests = .ok final ∧
      Request.finalize ∉ trialRequests ∧
      final.statistic = .correlator correlator ∧
      ∀ level < correlator.depth,
        ∃ range,
          correlator.lags[level]? = some range ∧
          ∀ lag,
            range.first ≤ lag →
            lag < range.stop →
            correlator.rows[range.row lag]? =
              some (directRow correlator.valueShape.size
                  (levelStream trialConfig.rules.reduce
                    (arrivals .tensorProduct ⟨0⟩ ⟨1⟩ trialConfig.arguments
                      trialRequests) level) lag) := by
  rcases trial_accepted with ⟨start, final, created, performed⟩
  rcases row_eq_directRow created performed finalize_notMem_trialRequests with
    ⟨correlator, kind, table⟩
  refine ⟨start, final, correlator, created, performed,
    finalize_notMem_trialRequests, kind, ?_⟩
  intro level below
  rcases table level below with ⟨range, present, row⟩
  exact ⟨range, present, fun lag least covered => (row lag least covered).1⟩

end RunningStatistics
