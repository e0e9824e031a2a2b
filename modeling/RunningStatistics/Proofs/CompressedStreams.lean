import RunningStatistics.Proofs.Columns
import RunningStatistics.Proofs.ExactLags

/-!
# Compressed streams in closed form

The levels of a correlator reduce pairs, pairs of pairs, and so on, so that a
sample of a level stands for a block of raw ones.  Each of the two streams
follows its own rule: what stands for a block is its first value, its last one,
or in exact arithmetic the mean of all of them.

Where both streams follow one rule, the values that stand for two blocks are as
far apart as the blocks are.  A discarding rule thus combines raw values that
are the lag of a row apart, and under any rule uniform motion has the exact
square distance.

While a run goes on, a level has received one sample for each full block of raw
ones, and every contribution to the row of a lag comes from a pair of blocks.
This holds in any arithmetic; means and square distances are exact over rational
numbers.
-/

namespace RunningStatistics

open Relation (ReflTransGen)

/-! ## Halving again and again -/

section Halving

variable {α β : Type}

theorem map_halve
    {reduce : α → α → α}
    {combine : β → β → β}
    {read : α → β}
    (reads :
      ∀ older newer,
        read (reduce older newer) = combine (read older) (read newer))
    (stream : List α) :
    (halve reduce stream).map read = halve combine (stream.map read) := by
  fun_induction halve reduce stream with
  | case1 older newer rest hypothesis =>
      rw [List.map_cons, hypothesis, reads]
      rfl
  | case2 stream short =>
      rcases stream with _ | ⟨first, _ | ⟨second, rest⟩⟩
      · rfl
      · rfl
      · exact absurd rfl (short first second rest)

/-- What is read off the values of a stream makes up a stream of its own. -/
theorem map_iterate_halve
    (reduce : α → α → α)
    {combine : β → β → β}
    {read : α → β}
    (reads :
      ∀ older newer,
        read (reduce older newer) = combine (read older) (read newer))
    (level : Nat)
    (raw : List α) :
    ((halve reduce)^[level] raw).map read =
      (halve combine)^[level] (raw.map read) := by
  have commutes :
      Function.Semiconj (List.map read) (halve reduce) (halve combine) :=
    map_halve reads
  exact (commutes.iterate_right level).eq raw

theorem getElem?_halve
    {reduce : α → α → α}
    {stream : List α}
    {index : Nat}
    {older newer : α}
    (first : stream[2 * index]? = some older)
    (second : stream[2 * index + 1]? = some newer) :
    (halve reduce stream)[index]? = some (reduce older newer) := by
  fun_induction halve reduce stream generalizing index with
  | case1 first' second' rest hypothesis =>
      cases index with
      | zero =>
          cases first
          cases second
          rfl
      | succ index => exact hypothesis first second
  | case2 stream short =>
      rcases stream with _ | ⟨single, _ | ⟨second', rest⟩⟩
      · cases first
      · cases second
      · exact absurd rfl (short single second' rest)

/--
The values of a level are those of a family that starts with the raw values and
whose members are made from two members of the level below.
-/
theorem getElem?_iterate_halve
    {reduce : α → α → α}
    {raw : List α}
    (value : Nat → Nat → Option α)
    (start : ∀ index < raw.length, raw[index]? = value 0 index)
    (reduced :
      ∀ {level index older newer},
        index < raw.length / 2 ^ (level + 1) →
        value level (2 * index) = some older →
        value level (2 * index + 1) = some newer →
        value (level + 1) index = some (reduce older newer))
    {level index : Nat}
    (within : index < raw.length / 2 ^ level) :
    ((halve reduce)^[level] raw)[index]? = value level index := by
  induction level generalizing index with
  | zero => exact start index (by simpa using within)
  | succ level hypothesis =>
      have both : 2 * index + 1 < raw.length / 2 ^ level := by
        rw [Nat.pow_succ, ← Nat.div_div_eq_div_mul] at within
        omega
      have present : 2 * index + 1 < ((halve reduce)^[level] raw).length := by
        rw [length_iterate_halve]
        exact both
      have first := List.getElem?_eq_getElem (Nat.lt_of_succ_lt present)
      have second := List.getElem?_eq_getElem present
      rw [Function.iterate_succ_apply', getElem?_halve first second]
      rw [hypothesis (Nat.lt_of_succ_lt both)] at first
      rw [hypothesis both] at second
      exact (reduced within first second).symm

end Halving

/-! ## What stands for a block -/

namespace Compression

section AnyArithmetic

variable {R : Type} [Scalar R] {raw : List (List R)} {level index : Nat}

/-- The first value of a block stands for it. -/
theorem getElem?_keepOlder (within : index < raw.length / 2 ^ level) :
    ((halve keepOlder.combine)^[level] raw)[index]? =
      raw[index * 2 ^ level]? := by
  apply getElem?_iterate_halve (fun level index => raw[index * 2 ^ level]?) _
    _ within
  · intro index _
    rw [Nat.pow_zero, Nat.mul_one]
  · intro level index older newer _ first _
    have doubled : index * 2 ^ (level + 1) = 2 * index * 2 ^ level := by
      ring
    rw [doubled, first]
    rfl

/-- The last value of a block stands for it. -/
theorem getElem?_keepNewer (within : index < raw.length / 2 ^ level) :
    ((halve keepNewer.combine)^[level] raw)[index]? =
      raw[(index + 1) * 2 ^ level - 1]? := by
  apply getElem?_iterate_halve
    (fun level index => raw[(index + 1) * 2 ^ level - 1]?) _ _ within
  · intro index _
    rw [Nat.pow_zero, Nat.mul_one, Nat.add_sub_cancel]
  · intro level index older newer _ _ second
    have doubled :
        (index + 1) * 2 ^ (level + 1) = (2 * index + 1 + 1) * 2 ^ level := by
      ring
    rw [doubled, second]
    rfl

end AnyArithmetic

end Compression

/-! ### Means -/

/-- The arithmetic means of the components of some vectors. -/
def componentMeans (width : Nat) (vectors : List (List Rat)) : List Rat :=
  (List.range width).map fun component =>
    (vectors.map (·.getD component 0)).sum / vectors.length

theorem half_rat : (Scalar.half : Rat) = 1 / 2 := by
  change ((1 : Nat) : Rat) / ((2 : Nat) : Rat) = 1 / 2
  norm_num

theorem componentMeans_singleton (vector : List Rat) :
    componentMeans vector.length [vector] = vector := by
  apply List.ext_getElem
  · rw [componentMeans, List.length_map, List.length_range]
  · intro component _ within
    simp [componentMeans, within]

/--
The mean of two means is the mean of all vectors, if there are as many of each.
-/
theorem combine_componentMeans
    (width : Nat)
    {earlier later : List (List Rat)}
    (same : earlier.length = later.length) :
    Compression.average.combine (componentMeans width earlier)
        (componentMeans width later) =
      componentMeans width (earlier ++ later) := by
  rw [componentMeans, componentMeans, componentMeans, Compression.combine,
    List.zipWith_map, List.zipWith_self]
  apply List.map_congr_left
  intro component _
  rw [List.map_append, List.sum_append, List.length_append, same, half_rat,
    Nat.cast_add]
  change (1 / 2 : Rat) * (_ / _ + _ / _) = _
  ring

/-- In exact arithmetic the mean of a block stands for it. -/
theorem Compression.getElem?_average
    {width : Nat}
    {raw : List (List Rat)}
    (widths : ∀ vector ∈ raw, vector.length = width)
    {level index : Nat}
    (within : index < raw.length / 2 ^ level) :
    ((halve average.combine)^[level] raw)[index]? =
      some (componentMeans width
          (slice (index * 2 ^ level) (2 ^ level) raw)) := by
  apply getElem?_iterate_halve
    (fun level index =>
      some (componentMeans width (slice (index * 2 ^ level) (2 ^ level) raw))) _
    _ within
  · intro index inside
    rw [Nat.pow_zero, Nat.mul_one, slice_one inside,
      List.getElem?_eq_getElem inside, ← widths _ (List.getElem_mem inside),
      componentMeans_singleton]
  · intro level index older newer inside first second
    cases first
    cases second
    have blocks : (index + 1) * 2 ^ (level + 1) ≤ raw.length :=
      Nat.mul_le_of_le_div _ _ _ inside
    have doubled : 2 ^ (level + 1) = 2 ^ level + 2 ^ level := by
      ring
    have place : index * 2 ^ (level + 1) = 2 * index * 2 ^ level := by
      ring
    have next :
        (2 * index + 1) * 2 ^ level = 2 * index * 2 ^ level + 2 ^ level := by
      ring
    have room : 2 * index * 2 ^ level + 2 ^ level + 2 ^ level ≤ raw.length := by
      calc
        2 * index * 2 ^ level + 2 ^ level + 2 ^ level =
            (index + 1) * 2 ^ (level + 1) := by
          ring
        _ ≤ raw.length := blocks
    have same : (slice (2 * index * 2 ^ level) (2 ^ level) raw).length =
        (slice (2 * index * 2 ^ level + 2 ^ level) (2 ^ level) raw).length := by
      rw [length_slice room,
        length_slice (Nat.le_trans (Nat.le_add_right _ _) room)]
    show
      some (componentMeans width
          (slice (index * 2 ^ (level + 1)) (2 ^ (level + 1)) raw)) = _
    rw [next, combine_componentMeans width same, ← slice_add, place, doubled]

/-! ### Uniform motion -/

/--
The time, in sampling intervals, of the value that stands for the first block of
a level.
-/
def Compression.lead (rule : Compression) (level : Nat) : Rat :=
  match rule with
  | keepOlder => 0
  | keepNewer => 2 ^ level - 1
  | average => (2 ^ level - 1) / 2

/--
Under every rule, what stands for the blocks of a uniform motion is a uniform
motion.
-/
theorem Compression.getElem?_motion
    (rule : Compression)
    {velocity : List Rat}
    {raw : List (List Rat)}
    (moves :
      ∀ index < raw.length,
        raw[index]? = some (velocity.map (· * (index : Rat))))
    {level index : Nat}
    (within : index < raw.length / 2 ^ level) :
    ((halve rule.combine)^[level] raw)[index]? =
      some (velocity.map (· * (index * 2 ^ level + rule.lead level))) := by
  apply getElem?_iterate_halve
    (fun level index =>
      some (velocity.map (· * (index * 2 ^ level + rule.lead level)))) _
    _ within
  · intro index inside
    rw [moves index inside]
    cases rule <;> simp [lead]
  · intro level index older newer _ first second
    cases first
    cases second
    congr 1
    cases rule with
    | keepOlder =>
        apply List.map_congr_left
        intro speed _
        rw [lead, lead]
        push_cast
        ring
    | keepNewer =>
        apply List.map_congr_left
        intro speed _
        rw [lead, lead]
        push_cast
        ring
    | average =>
        rw [combine, List.zipWith_map, List.zipWith_self]
        apply List.map_congr_left
        intro speed _
        rw [half_rat, lead, lead]
        change _ = (1 / 2 : Rat) * (_ * _ + _ * _)
        push_cast
        ring

/-! ## The streams of a correlator -/

theorem lt_of_getElem?_levelStream
    {R : Type}
    {reduce : Sample R → Sample R → Sample R}
    {raw : List (Arrival R)}
    {level index : Nat}
    {arrival : Arrival R}
    (present : (levelStream reduce raw level)[index]? = some arrival) :
    index < raw.length / 2 ^ level := by
  rw [← length_levelStream reduce]
  exact (List.getElem?_eq_some_iff.mp present).1

/--
A value is the first or the last one of its block, if the rule keeps one of
them.
-/
structure Compression.Keeps
    {R : Type}
    (rule : Compression)
    (raw : List (List R))
    (level index : Nat)
    (value : List R) : Prop where
  keepOlder : rule = .keepOlder → raw[index * 2 ^ level]? = some value
  keepNewer : rule = .keepNewer → raw[(index + 1) * 2 ^ level - 1]? = some value

theorem Compression.keeps
    {R : Type}
    [Scalar R]
    {rule : Compression}
    {raw : List (List R)}
    {level index : Nat}
    {value : List R}
    (within : index < raw.length / 2 ^ level)
    (present : ((halve rule.combine)^[level] raw)[index]? = some value) :
    rule.Keeps raw level index value := by
  constructor
  · rintro rfl
    rw [← present]
    exact (getElem?_keepOlder within).symm
  · rintro rfl
    rw [← present]
    exact (getElem?_keepNewer within).symm

namespace Config

section Streams

variable {R : Type} [Scalar R] [Exponential R] {config : Config R}

/-- What is read off the samples is reduced by a rule of its own. -/
def Compresses
    (config : Config R)
    (read : Sample R → List R)
    (rule : Compression) : Prop :=
  ∀ older newer,
    read (config.rules.reduce older newer) =
      rule.combine (read older) (read newer)

theorem compressesA (config : Config R) :
    config.Compresses (·.a) config.compressionA :=
  fun _ _ => rfl

theorem compressesB (config : Config R) :
    config.Compresses (·.b) config.effectiveCompressionB :=
  fun _ _ => rfl

variable
    {read : Sample R → List R}
    {rule : Compression}
    {raw : List (Arrival R)}
    {level index : Nat}
    {arrival : Arrival R}

/-- The values of one stream at a level do not depend on the other stream. -/
theorem Compresses.getElem?_values
    (compresses : config.Compresses read rule)
    (present :
      (levelStream config.rules.reduce raw level)[index]? = some arrival) :
    ((halve rule.combine)^[level]
      (raw.map fun earlier => read earlier.sample))[index]? =
      some (read arrival.sample) := by
  rw [levelStream_eq_iterate] at present
  rw [← map_iterate_halve (Arrival.reduce config.rules.reduce)
      fun older newer => compresses older.sample newer.sample,
    List.getElem?_map, present]
  rfl

theorem Compresses.keeps
    (compresses : config.Compresses read rule)
    (present :
      (levelStream config.rules.reduce raw level)[index]? = some arrival) :
    rule.Keeps (raw.map fun earlier => read earlier.sample) level index
      (read arrival.sample) := by
  apply Compression.keeps _ (compresses.getElem?_values present)
  rw [List.length_map]
  exact lt_of_getElem?_levelStream present

end Streams

section ExactArithmetic

variable
    [Exponential Rat]
    {config : Config Rat}
    {read : Sample Rat → List Rat}
    {rule : Compression}
    {raw : List (Arrival Rat)}
    {level index : Nat}
    {arrival : Arrival Rat}

theorem Compresses.mean
    {width : Nat}
    (compresses : config.Compresses read .average)
    (widths : ∀ earlier ∈ raw, (read earlier.sample).length = width)
    (present :
      (levelStream config.rules.reduce raw level)[index]? = some arrival) :
    read arrival.sample =
      componentMeans width
        (slice (index * 2 ^ level) (2 ^ level)
          (raw.map fun earlier => read earlier.sample)) := by
  have value := compresses.getElem?_values present
  rw [Compression.getElem?_average (List.forall_mem_map.mpr widths)
    (by simpa using lt_of_getElem?_levelStream present)] at value
  exact (Option.some.inj value).symm

theorem Compresses.motion
    {velocity : List Rat}
    (compresses : config.Compresses read rule)
    (moves :
      ∀ (time : Nat) (earlier : Arrival Rat),
        raw[time]? = some earlier →
        read earlier.sample = velocity.map (· * (time : Rat)))
    (present :
      (levelStream config.rules.reduce raw level)[index]? = some arrival) :
    read arrival.sample =
      velocity.map (· * (index * 2 ^ level + rule.lead level)) := by
  have value := compresses.getElem?_values present
  rw [rule.getElem?_motion _
      (by simpa using lt_of_getElem?_levelStream present)] at value
  · exact (Option.some.inj value).symm
  · intro time within
    rw [List.length_map] at within
    have stands := List.getElem?_eq_getElem within
    rw [List.getElem?_map, stands, Option.map_some, moves time _ stands]

end ExactArithmetic

end Config

/-! ### Rows of uniform motion -/

namespace Row

variable {velocity : List Rat} {steps : Nat} {row : Row Rat}

theorem IsSteady.foldl
    {pairs : List (Arrival Rat × Arrival Rat)}
    (each :
      ∀ pair ∈ pairs,
        pair.2.terms pair.1.sample.a pair.2.sample.b =
          velocity.map fun speed => (speed * (steps : Rat)) ^ 2)
    (steady : IsSteady velocity steps row) :
    IsSteady velocity steps (pairs.foldl addArrivals row) := by
  induction pairs generalizing row with
  | nil => exact steady
  | cons pair rest hypothesis =>
      rw [List.forall_mem_cons] at each
      apply hypothesis each.2
      rw [addArrivals, each.1]
      exact steady.add

end Row

/--
Where both streams follow one rule, the rows of a uniform motion are steady.
-/
theorem isSteady_of_motion
    [Exponential Rat]
    {config : Config Rat}
    {rule : Compression}
    {raw : List (Arrival Rat)}
    {velocity : List Rat}
    (ruleA : config.compressionA = rule)
    (ruleB : config.effectiveCompressionB = rule)
    (moves : MovesUniformly velocity raw)
    (distances : ∀ latest ∈ raw, latest.terms = List.zipWith squaredDistance)
    (level lag : Nat) :
    (directRow velocity.length
      (levelStream config.rules.reduce raw level) lag).IsSteady velocity
      (lag * 2 ^ level) := by
  subst ruleA
  apply Row.IsSteady.foldl _ (Row.isSteady_empty velocity _)
  rintro ⟨older, newer⟩ member
  rcases List.mem_iff_getElem?.mp member with ⟨index, paired⟩
  rw [List.getElem?_zip_eq_some, List.getElem?_drop] at paired
  rcases paired with ⟨stands, later⟩
  have valueA :=
    config.compressesA.motion
      (fun time _ present => (moves time _ present).1) stands
  have valueB :=
    config.compressesB.motion
      (fun time _ present => (moves time _ present).2) later
  rw [ruleB] at valueB
  rcases exists_terms (List.mem_of_getElem? later) with ⟨latest, among, terms⟩
  have apart :
      ((lag + index : Nat) : Rat) * 2 ^ level + config.compressionA.lead level =
        (index * 2 ^ level + config.compressionA.lead level) +
          ((lag * 2 ^ level : Nat) : Rat) := by
    push_cast
    ring
  rw [terms, distances latest among, valueA, valueB, apart]
  exact zipWith_squaredDistance velocity _ _

/-! ## Closed forms -/

namespace Correlator

variable
    {R : Type}
    [Scalar R]
    [Exponential R]
    {initial running : Correlator R}
    {sourceA : Source}
    {sourceB : Option Source}
    {config : Config R}
    {interval : Nat}
    {raw : List (Arrival R)}

/-- A level of a run that goes on, and the row of each of its lags. -/
theorem Created.exists_level
    (made : initial.Created sourceA sourceB config interval)
    (same : initial.SameSetup running)
    (records : running.Records raw)
    {level : Nat}
    (below : level < running.depth) :
    ∃ own,
      running.hierarchy[level]? = some own ∧
      own.history.recent =
        (((levelStream config.rules.reduce raw level).map
            (·.sample)).reverse).take
          own.history.capacity ∧
      ∀ lag,
        own.lags.first ≤ lag →
        lag < own.lags.stop →
        let row :=
          directRow running.valueShape.size
            (levelStream config.rules.reduce raw level) lag
        running.lagSteps[own.lags.row lag]? = some (lag * 2 ^ level) ∧
        running.rows[own.lags.row lag]? = some row ∧
        running.result.row (own.lags.row lag) = row.mean := by
  have present : running.hierarchy[level]? = some _ :=
    List.getElem?_eq_getElem below
  refine ⟨_, present, ?_, ?_⟩
  · have holds := records.follows.carries.holds present
    rw [← levelStream_eq_iterate, made.reduces same] at holds
    exact holds.recent
  · intro lag least covered
    have range :
        running.lags[level]? = some (running.hierarchy[level]).lags := by
      rw [Correlator.lags, List.getElem?_map, present]
      rfl
    rcases records.row (made.fits same) (made.laidOut same) range
        least covered with
      ⟨stands, _, mean⟩
    rw [made.reduces same] at stands mean
    exact ⟨(made.lag_parts same range least covered).1, stands, mean⟩

end Correlator

/--
What the levels of a correlator have received while its run goes on: one sample
for each full block of `2 ^ level` raw ones, and of each stream what its own
rule leaves of the block.
-/
theorem compressed_streams_closed_form :
    (∀ {R : Type} [Scalar R] [Exponential R] {sourceA : Source}
        {sourceB : Option Source} {config : Config R} {interval : Nat}
        {start final : Accumulator R} {requests : List (Request R)},
      Accumulator.correlator sourceA sourceB config interval = .ok start →
      start.performAll requests = .ok final →
      Request.finalize ∉ requests →
      let raw :=
        arrivals config.operation sourceA.id (sourceB.getD sourceA).id
          config.arguments requests
      ∃ running,
        final.statistic = .correlator running ∧
        ∀ level < running.depth,
          ∃ own,
            running.hierarchy[level]? = some own ∧
            let stream := levelStream config.rules.reduce raw level
            stream.length = raw.length / 2 ^ level ∧
            own.history.recent =
              ((stream.map (·.sample)).reverse).take own.history.capacity ∧
            (∀ index arrival,
              stream[index]? = some arrival →
              config.compressionA.Keeps (raw.map (·.sample.a)) level index
                arrival.sample.a ∧
              config.effectiveCompressionB.Keeps (raw.map (·.sample.b)) level
                index arrival.sample.b) ∧
            ∀ rule,
              rule ≠ .average →
              config.compressionA = rule →
              config.effectiveCompressionB = rule →
              ∀ lag,
                own.lags.first ≤ lag →
                lag < own.lags.stop →
                ∃ row,
                  running.lagSteps[own.lags.row lag]? = some (lag * 2 ^ level) ∧
                  running.rows[own.lags.row lag]? = some row ∧
                  row.count = raw.length / 2 ^ level - lag ∧
                  ReflTransGen (Row.GainsAcross raw (lag * 2 ^ level))
                    (Row.empty running.valueShape.size) row) ∧
    (∀ [Exponential Rat] {sourceA : Source} {sourceB : Option Source}
        {config : Config Rat} {interval : Nat} {start final : Accumulator Rat}
        {requests : List (Request Rat)},
      Accumulator.correlator sourceA sourceB config interval = .ok start →
      start.performAll requests = .ok final →
      Request.finalize ∉ requests →
      let raw :=
        arrivals config.operation sourceA.id (sourceB.getD sourceA).id
          config.arguments requests
      ∃ running,
        final.statistic = .correlator running ∧
        ∀ level < running.depth,
          ∃ own,
            running.hierarchy[level]? = some own ∧
            let stream := levelStream config.rules.reduce raw level
            own.history.recent =
              ((stream.map (·.sample)).reverse).take own.history.capacity ∧
            (∀ index arrival,
              stream[index]? = some arrival →
              (config.compressionA = .average →
               arrival.sample.a =
                 componentMeans running.lengthA
                   (slice (index * 2 ^ level) (2 ^ level)
                     (raw.map (·.sample.a)))) ∧
              (config.effectiveCompressionB = .average →
               arrival.sample.b =
                 componentMeans running.lengthB
                   (slice (index * 2 ^ level) (2 ^ level)
                     (raw.map (·.sample.b))))) ∧
            ∀ velocity,
              config.effectiveCompressionB = config.compressionA →
              config.operation = .squareDistance →
              MovesUniformly velocity raw →
              ∀ lag,
                own.lags.first ≤ lag →
                lag < own.lags.stop →
                ∃ row steps,
                  running.lagSteps[own.lags.row lag]? = some steps ∧
                  running.rows[own.lags.row lag]? = some row ∧
                  (row.count ≠ 0 →
                   running.result.row (own.lags.row lag) =
                     velocity.map fun speed =>
                       (speed * (steps : Rat)) ^ 2)) := by
  constructor
  · intro R _ _ sourceA sourceB config interval start final requests created
      performed goesOn raw
    rcases Accumulator.exists_run created performed goesOn with
      ⟨initial, running, reached, made, same, _, records⟩
    refine ⟨running, reached, ?_⟩
    intro level below
    rcases made.exists_level same records below with
      ⟨own, present, recent, table⟩
    refine ⟨own, present, length_levelStream _ _ _, recent, ?_, ?_⟩
    · intro index arrival stands
      exact ⟨config.compressesA.keeps stands, config.compressesB.keeps stands⟩
    · intro rule discarding ruleA ruleB lag least covered
      rcases table lag least covered with ⟨steps, row, _⟩
      refine ⟨_, steps, row, ?_, ?_⟩
      · rw [count_directRow, length_levelStream]
      · exact gainsAcross_levelStream
          (Config.discards_reduce discarding ruleA ruleB) _ _
  · intro _ sourceA sourceB config interval start final requests created
      performed goesOn raw
    rcases Accumulator.exists_run created performed goesOn with
      ⟨initial, running, reached, made, same, _, records⟩
    refine ⟨running, reached, ?_⟩
    intro level below
    rcases made.exists_level same records below with
      ⟨own, present, recent, table⟩
    refine ⟨own, present, recent, ?_, ?_⟩
    · intro index arrival stands
      constructor
      · intro averages
        have compresses := config.compressesA
        rw [averages] at compresses
        exact compresses.mean
          (fun earlier among => (records.suits earlier among).fitsA) stands
      · intro averages
        have compresses := config.compressesB
        rw [averages] at compresses
        exact compresses.mean
          (fun earlier among => (records.suits earlier among).fitsB) stands
    · intro velocity common distances moves lag least covered
      rcases table lag least covered with ⟨steps, row, mean⟩
      refine ⟨_, _, steps, row, ?_⟩
      intro populated
      have squared : running.config.operation = .squareDistance := by
        rw [same.operation, made.resolved, Config.operation_resolve]
        exact distances
      rw [count_directRow, length_levelStream] at populated
      have some : 0 < raw.length := by
        apply Nat.pos_of_ne_zero
        intro none
        rw [none, Nat.zero_div, Nat.zero_sub] at populated
        exact populated rfl
      rw [mean,
        records.size_valueShape (made.fits same) squared moves
          (List.getElem_mem some)]
      apply (isSteady_of_motion rfl common moves (records.terms_eq squared)
          level lag).mean
      rw [count_directRow, length_levelStream]
      exact populated

theorem compressed_streams_closed_form_trial :
    ∃ _ : Exponential Rat,
      (∃ (start final : Accumulator Rat) (running : Correlator Rat),
        Accumulator.correlator ⟨⟨0⟩, [1]⟩ none trialMotion 1 = .ok start ∧
        start.performAll trialPlaces = .ok final ∧
        final.statistic = .correlator running ∧
        let raw :=
          arrivals .squareDistance ⟨0⟩ ⟨0⟩ trialMotion.arguments trialPlaces
        ∀ level < running.depth,
          ∀ index arrival,
            (levelStream trialMotion.rules.reduce raw level)[index]? =
              some arrival →
            (raw.map (·.sample.a))[(index + 1) * 2 ^ level - 1]? =
              some arrival.sample.a) ∧
      ∃ (start final : Accumulator Rat) (running : Correlator Rat),
        Accumulator.correlator ⟨⟨0⟩, [1]⟩ none
            { trialMotion with compressionA := .average } 1 =
          .ok start ∧
        start.performAll trialPlaces = .ok final ∧
        final.statistic = .correlator running ∧
        ∀ level < running.depth,
          ∃ own,
            running.hierarchy[level]? = some own ∧
            ∀ lag,
              own.lags.first ≤ lag →
              lag < own.lags.stop →
              ∃ row steps,
                running.lagSteps[own.lags.row lag]? = some steps ∧
                running.rows[own.lags.row lag]? = some row ∧
                (row.count ≠ 0 →
                 running.result.row (own.lags.row lag) =
                   [(1 * (steps : Rat)) ^ 2]) := by
  let exponential := Exponential.tangent
  have goesOn : Request.finalize ∉ trialPlaces := by
    simp [trialPlaces]
  have accepted :
      ∀ rule ∈ [Compression.keepNewer, .average],
        (Accumulator.run
          (Accumulator.correlator ⟨⟨0⟩, [1]⟩ none
            { trialMotion with compressionA := rule } 1)
          trialPlaces).toBool = true := by
    decide +kernel
  rw [List.forall_mem_cons, List.forall_mem_singleton] at accepted
  rcases compressed_streams_closed_form with ⟨values, motion⟩
  refine ⟨exponential, ?_, ?_⟩
  · rcases exists_ok accepted.1 with ⟨final, ran⟩
    rcases Accumulator.run_ok ran with ⟨start, created, performed⟩
    rcases values created performed goesOn with ⟨running, kind, levels⟩
    refine ⟨start, final, running, created, performed, kind, ?_⟩
    intro raw level below index arrival stands
    rcases levels level below with ⟨_, _, _, _, kept, _⟩
    exact (kept index arrival stands).1.keepNewer rfl
  · rcases exists_ok accepted.2 with ⟨final, ran⟩
    rcases Accumulator.run_ok ran with ⟨start, created, performed⟩
    rcases motion created performed goesOn with ⟨running, kind, levels⟩
    refine ⟨start, final, running, created, performed, kind, ?_⟩
    intro level below
    rcases levels level below with ⟨own, present, _, _, distances⟩
    exact ⟨own, present, distances [1] rfl rfl (movesUniformly_trialPlaces _)⟩

end RunningStatistics
