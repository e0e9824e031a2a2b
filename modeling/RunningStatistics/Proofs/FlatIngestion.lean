import RunningStatistics.Proofs.Finalization
import RunningStatistics.Proofs.FlatTables

/-!
# Levels in flat memory

A sample that enters a correlator in flat memory meets the levels one after
another.  At each of them the memory is made up of what belongs to the levels
below, which is settled already, and of the levels from there on, which still
follow their streams.

One turn settles a level, and a whole ingestion or flush all levels that are
left.  As the coarsest level passes nothing on, there are at most as many turns
as there are levels.
-/

namespace RunningStatistics

variable {R : Type} [Scalar R]

/-! ## Single levels -/

/--
How many samples a level remembers, and whether it pairs them for a level above.
-/
def Level.design (level : Level R) : Nat × Bool :=
  (level.history.capacity, level.history.promotes)

theorem Level.design_receive
    (rules : Rules R)
    (level : Level R)
    (sample : Sample R) :
    (level.receive rules sample).1.design = level.design := by
  rw [design, Level.receive_history, History.push_capacity,
    History.push_promotes]
  rfl

/-- A level that has just passed a pair on has nothing that waits. -/
theorem Level.unpaired_of_passed
    (rules : Rules R)
    {level : Level R}
    {sample : Sample R}
    {both : Sample R × Sample R}
    (passed : (level.receive rules sample).2 = some both) :
    (level.receive rules sample).1.history.unpaired = none := by
  rw [Level.receive_pair, History.push_pair] at passed
  rw [Level.receive_history, History.push_unpaired]
  cases promotes : level.history.promotes with
  | false => simp [promotes] at passed
  | true =>
      rw [promotes, if_pos rfl, Option.map_eq_some_iff] at passed
      rcases passed with ⟨older, waiting, _⟩
      rw [waiting]
      rfl

/-! ## Levels that a stream has reached -/

namespace Hierarchy

/--
The levels that samples have reached, where `next` makes the stream of a level
from the one below.
-/
def reached (next : List (Arrival R) → List (Arrival R)) :
    Hierarchy R → List (Arrival R) → List (FlatLevel R)
  | [], _ => []
  | level :: above, stream =>
      if stream.isEmpty then
        []
      else
        ⟨level.history, stream.length⟩ :: reached next above (next stream)

variable
    {next : List (Arrival R) → List (Arrival R)}
    {level : Level R}
    {above : Hierarchy R}
    {stream : List (Arrival R)}

omit [Scalar R] in
@[simp]
theorem reached_of_nil (hierarchy : Hierarchy R) :
    reached next hierarchy [] = [] := by
  cases hierarchy <;> rfl

omit [Scalar R] in
theorem reached_cons (some : stream ≠ []) :
    reached next (level :: above) stream =
      ⟨level.history, stream.length⟩ :: reached next above (next stream) := by
  rw [reached, if_neg (by simpa using some)]

omit [Scalar R] in
theorem length_reached_le
    (hierarchy : Hierarchy R)
    (stream : List (Arrival R)) :
    (reached next hierarchy stream).length ≤ hierarchy.length := by
  induction hierarchy generalizing stream with
  | nil => exact Nat.le_refl _
  | cons level above hypothesis =>
      rw [reached]
      split
      · exact Nat.zero_le _
      · exact Nat.succ_le_succ (hypothesis _)

/-- A level that no sample has reached is as it would be allocated. -/
theorem Follows.history_of_nil
    {width capacity : Nat}
    {reduce : Sample R → Sample R → Sample R}
    (follows : Follows width reduce (level :: above) [])
    (own : level.history.capacity = capacity) :
    level.history = History.empty capacity (!above.isEmpty) := by
  rcases follows with ⟨holds, promotes, unpaired, _⟩
  have recent := holds.recent
  rw [List.map_nil, List.reverse_nil, List.take_nil] at recent
  replace unpaired : level.history.unpaired = none := by
    rw [unpaired]
    split <;> rfl
  rw [History.empty, ← own, ← promotes, ← recent, ← unpaired]

omit [Scalar R] in
/-- A level that samples have reached is the one of its number. -/
theorem exists_of_reached
    {hierarchy : Hierarchy R}
    {index : Nat}
    {own : FlatLevel R}
    (present : (reached next hierarchy stream)[index]? = some own) :
    ∃ level, hierarchy[index]? = some level ∧ own.history = level.history := by
  induction hierarchy generalizing stream index with
  | nil => cases present
  | cons level above hypothesis =>
      rw [reached] at present
      split at present
      next => cases present
      next =>
        cases index with
        | zero =>
            cases present
            exact ⟨level, rfl, rfl⟩
        | succ index => exact hypothesis present

/-! ### Designs -/

theorem map_design_ingest
    (rules : Rules R)
    (hierarchy : Hierarchy R)
    (sample : Sample R) :
    (ingest rules hierarchy sample).map Level.design =
      hierarchy.map Level.design := by
  induction hierarchy generalizing sample with
  | nil => rfl
  | cons level above hypothesis =>
      rw [ingest_cons, List.map_cons, List.map_cons, Level.design_receive]
      cases (level.receive rules sample).2 with
      | none => rfl
      | some both => exact congrArg _ (hypothesis _)

theorem map_design_flush
    (rules : Rules R)
    (carried : Option (Sample R))
    (hierarchy : Hierarchy R) :
    (flush rules carried hierarchy).map Level.design =
      hierarchy.map Level.design := by
  induction hierarchy generalizing carried with
  | nil => cases carried <;> rfl
  | cons level above hypothesis =>
      have idle :
          ∀ level : Level R,
            (flush rules none (level :: above)).map Level.design =
              (level :: above).map Level.design := by
        intro level
        rw [flush_cons_none]
        cases level.history.unpaired with
        | none => exact congrArg (List.cons _) (hypothesis none)
        | some waiting => exact congrArg (List.cons _) (hypothesis _)
      cases carried with
      | none => exact idle level
      | some sample =>
          have kept := Level.design_receive rules level sample
          rw [flush_cons_some]
          cases (level.receive rules sample).2 with
          | none =>
              exact (idle _).trans (congrArg (· :: above.map Level.design) kept)
          | some both =>
              show Level.design _ :: List.map _ _ = _
              rw [kept, hypothesis]
              rfl

theorem getElem?_empty
    (capacity width : Nat)
    (grid : List LagRange)
    (index : Nat) :
    (empty capacity width grid : Hierarchy R)[index]? =
      grid[index]?.map
        (Level.empty capacity (decide (index + 1 < grid.length)) width) := by
  induction grid generalizing index with
  | nil => rfl
  | cons lags above hypothesis =>
      cases index with
      | zero => cases above <;> rfl
      | succ index =>
          rw [empty, List.getElem?_cons_succ, List.getElem?_cons_succ,
            hypothesis]
          simp only [List.length_cons, Nat.add_lt_add_iff_right]

theorem forall_design_empty
    (capacity width : Nat)
    (grid : List LagRange) :
    ∀ design ∈ (empty capacity width grid : Hierarchy R).map Level.design,
      design.1 = capacity := by
  induction grid with
  | nil => exact List.forall_mem_nil _
  | cons lags above hypothesis =>
      exact List.forall_mem_cons.mpr ⟨rfl, hypothesis⟩

/-! ### Flushing level by level -/

/-- What is carried upwards may as well enter first and then be flushed. -/
theorem flush_some
    (rules : Rules R)
    (hierarchy : Hierarchy R)
    (sample : Sample R) :
    flush rules (some sample) hierarchy =
      flush rules none (ingest rules hierarchy sample) := by
  induction hierarchy generalizing sample with
  | nil => rfl
  | cons level above hypothesis =>
      rw [flush_cons_some, ingest_cons]
      cases passed : (level.receive rules sample).2 with
      | none => rfl
      | some both =>
          show _ :: flush rules (some (rules.reduce both.1 both.2)) above =
            flush rules none (_ :: _)
          rw [hypothesis, flush_cons_none,
            Level.unpaired_of_passed rules passed]

/-- Where nothing waits there is nothing to flush. -/
theorem flush_of_idle
    (rules : Rules R)
    {hierarchy : Hierarchy R}
    (idle : ∀ level ∈ hierarchy, level.history.unpaired = none) :
    flush rules none hierarchy = hierarchy := by
  induction hierarchy with
  | nil => rfl
  | cons level above hypothesis =>
      rw [List.forall_mem_cons] at idle
      rw [flush_cons_none, idle.1, hypothesis idle.2]

theorem Follows.idle_of_nil
    {width : Nat}
    {reduce : Sample R → Sample R → Sample R}
    {hierarchy : Hierarchy R}
    (follows : Follows width reduce hierarchy []) :
    ∀ level ∈ hierarchy, level.history.unpaired = none := by
  induction hierarchy with
  | nil => exact List.forall_mem_nil _
  | cons level above hypothesis =>
      rcases follows with ⟨_, _, unpaired, rest⟩
      refine List.forall_mem_cons.mpr ⟨?_, hypothesis rest⟩
      rw [unpaired]
      split <;> rfl

end Hierarchy

variable [Exponential R]

/--
There is one row for each lag, as wide as a correlation value, and no row has
too many pairs.
-/
theorem Level.Holds.rows_bounded
    {operation : Operation}
    {lengthA lengthB : Nat}
    {shape : Shape}
    {level : Level R}
    {stream : List (Arrival R)}
    (holds : level.Holds shape.size stream)
    (fitting : operation.valueShape lengthA lengthB = .ok shape)
    (suits : ∀ arrival ∈ stream, arrival.Suits operation lengthA lengthB) :
    level.rows.length = level.lags.count ∧
    ∀ row ∈ level.rows,
      row.sums.length = shape.size ∧ row.count ≤ stream.length := by
  rw [holds.rows, List.length_map, List.length_range', List.forall_mem_map]
  refine ⟨rfl, ?_⟩
  intro lag _
  rw [count_directRow]
  exact ⟨length_sums_directRow fitting suits lag, Nat.sub_le _ _⟩

/-! ## A correlator that stands at a level -/

namespace FlatCorrelator

/--
The memory with the levels and the rows of a hierarchy after those that are
settled.
-/
def holding
    (flat : FlatCorrelator R)
    (below : List (FlatLevel R))
    (before : List (Row R))
    (next : List (Arrival R) → List (Arrival R))
    (hierarchy : Hierarchy R)
    (stream : List (Arrival R)) :
    FlatCorrelator R :=
  { flat with
    levels := below ++ hierarchy.reached next stream
    table := .ofRows (before ++ Hierarchy.rows hierarchy) }

/--
How the stream of a level is made from the one below while the run goes on.
-/
abbrev pairing (flat : FlatCorrelator R) :
    List (Arrival R) → List (Arrival R) :=
  halve (Arrival.reduce flat.config.rules.reduce)

/--
The memory between two turns: the levels below the next one and their rows are
settled, and the levels from there on still follow their streams.
-/
structure StandsAt
    (flat : FlatCorrelator R)
    (below : List (FlatLevel R))
    (before : List (Row R))
    (hierarchy : Hierarchy R)
    (stream : List (Arrival R)) : Prop where
  held : flat = flat.holding below before flat.pairing hierarchy stream
  lags :
    ∃ lower,
      lower.length = below.length ∧ flat.lags = lower ++ hierarchy.map (·.lags)
  laid : LagRange.LaidOut before.length (hierarchy.map (·.lags))
  uniform : ∀ row ∈ before, row.sums.length = flat.valueShape.size
  fitting :
    flat.config.operation.valueShape flat.lengthA flat.lengthB =
      .ok flat.valueShape
  capacities :
    ∀ design ∈ hierarchy.map Level.design, design.1 = flat.config.linearWidth
  follows :
    Hierarchy.Follows flat.valueShape.size flat.config.rules.reduce
      hierarchy stream
  suits :
    ∀ arrival ∈ stream,
      arrival.Suits flat.config.operation flat.lengthA flat.lengthB

variable
    {flat : FlatCorrelator R}
    {below : List (FlatLevel R)}
    {before : List (Row R)}
    {level : Level R}
    {above hierarchy : Hierarchy R}
    {stream : List (Arrival R)}
    {sample : Sample R}

theorem StandsAt.levels (stands : flat.StandsAt below before hierarchy stream) :
    flat.levels = below ++ hierarchy.reached flat.pairing stream :=
  congrArg FlatCorrelator.levels stands.held

theorem StandsAt.table (stands : flat.StandsAt below before hierarchy stream) :
    flat.table = .ofRows (before ++ Hierarchy.rows hierarchy) :=
  congrArg FlatCorrelator.table stands.held

omit [Scalar R] [Exponential R] in
/--
A level that samples have reached may as well be counted among those that are
settled.
-/
theorem holding_cons
    (reached : stream ≠ [])
    (next : List (Arrival R) → List (Arrival R)) :
    flat.holding below before next (level :: above) stream =
      flat.holding (below ++ [⟨level.history, stream.length⟩])
        (before ++ level.rows) next above (next stream) := by
  rw [holding, Hierarchy.reached_cons reached, holding, List.append_assoc,
    List.append_assoc]
  rfl

/-! ### Receiving -/

/--
The level at which a sample arrives is there, allocated if no sample had reached
it.
-/
theorem StandsAt.allocate
    (stands : flat.StandsAt below before (level :: above) stream) :
    flat.allocate below.length =
      below ++ ⟨level.history, stream.length⟩ ::
        Hierarchy.reached flat.pairing above (flat.pairing stream) := by
  rw [FlatCorrelator.allocate, stands.levels]
  cases stream with
  | nil =>
      rcases stands.lags with ⟨lower, place, lags⟩
      have promotes :
          decide (below.length + 1 < flat.lags.length) = !above.isEmpty := by
        rw [lags, List.length_append, place, List.map_cons, List.length_cons,
          List.length_map]
        cases above <;> simp
      have blank := stands.follows.history_of_nil
        (stands.capacities level.design (List.mem_cons_self ..))
      have reached :
          Hierarchy.reached flat.pairing above (flat.pairing []) = [] :=
        Hierarchy.reached_of_nil above
      rw [Hierarchy.reached_of_nil, List.append_nil, if_pos rfl, promotes,
        ← blank, reached]
      rfl
  | cons first rest =>
      rw [Hierarchy.reached_cons (List.cons_ne_nil _ _), if_neg]
      rw [List.length_append, List.length_cons]
      omega

/--
What has arrived at a level are samples of the lengths that the correlator
takes.
-/
theorem StandsAt.suits_concat
    (stands : flat.StandsAt below before hierarchy stream)
    (fitsA : sample.a.length = flat.lengthA)
    (fitsB : sample.b.length = flat.lengthB) :
    ∀ arrival ∈ stream ++ [⟨sample, flat.config.rules.terms⟩],
      arrival.Suits flat.config.operation flat.lengthA flat.lengthB := by
  rw [List.forall_mem_append, List.forall_mem_singleton]
  exact ⟨stands.suits, fitsA, fitsB, _, rfl⟩

omit [Scalar R] [Exponential R] in
/-- A level in flat memory receives a sample as any level does. -/
theorem push_ok
    {level : FlatLevel R}
    (few : level.received + 1 < 2 ^ 64)
    (sample : Sample R) :
    level.push sample =
      .ok (⟨(level.history.push sample).1, level.received + 1⟩,
        (level.history.push sample).2) := by
  rw [FlatLevel.push, countUp_ok few]
  rfl

/-- The pairs of the sample are added to the rows of the level. -/
theorem StandsAt.correlateNewest
    (stands : flat.StandsAt below before (level :: above) stream)
    (fitsA : sample.a.length = flat.lengthA)
    (fitsB : sample.b.length = flat.lengthB)
    (few : stream.length + 1 < 2 ^ 64) :
    flat.correlateNewest below.length
        (level.receive flat.config.rules sample).1.history =
      .ok (.ofRows (before ++
            ((level.receive flat.config.rules sample).1.rows ++
              Hierarchy.rows above))) := by
  have holds := stands.follows.1
  rcases holds.rows_bounded stands.fitting stands.suits with ⟨room, bounded⟩
  have own : ∀ row ∈ level.rows,
      row.sums.length = flat.valueShape.size ∧ row.count + 1 < 2 ^ 64 := by
    intro row member
    rcases bounded row member with ⟨width, count⟩
    exact ⟨width, by omega⟩
  have fits :
      ∀ older ∈ (level.receive flat.config.rules sample).1.history.recent,
        older.a.length = flat.lengthA := by
    rw [(holds.receive flat.config.rules sample).recent]
    intro older member
    have among := List.mem_reverse.mp (List.mem_of_mem_take member)
    rcases List.mem_map.mp among with ⟨arrival, arrived, rfl⟩
    exact (stands.suits_concat fitsA fitsB arrival arrived).fitsA
  have place :
      level.lags.offset + level.lags.first =
        level.lags.first + before.length := by
    rw [stands.laid.1, Nat.add_comm]
  have added :=
    FlatTable.correlate_ofRows stands.fitting flat.effectiveBindingB.length_pos
      fits fitsB stands.uniform own place (Hierarchy.rows above)
  have range : readAt flat.lags below.length = .ok level.lags := by
    rcases stands.lags with ⟨lower, place, lags⟩
    rw [lags, List.map_cons, ← place]
    exact readAt_of_parts lower _ _
  have newest :
      (level.receive flat.config.rules sample).1.history.lagged 0 =
        some sample := by
    rw [History.lagged, Level.receive_history, History.push_recent,
      List.getElem?_take_of_lt holds.capacious]
    rfl
  rw [room, LagRange.count] at added
  rw [FlatCorrelator.correlateNewest, range, stands.table]
  simp only [newest]
  exact added

/--
One turn lets the level receive the sample, in its history and in its rows; the
memory of the other levels stays.
-/
theorem StandsAt.turn
    (stands : flat.StandsAt below before (level :: above) stream)
    (fitsA : sample.a.length = flat.lengthA)
    (fitsB : sample.b.length = flat.lengthB)
    (few : stream.length + 1 < 2 ^ 64) :
    flat.turn below.length sample =
      .ok (flat.holding
          (below ++
            [⟨(level.receive flat.config.rules sample).1.history,
                stream.length + 1⟩])
          (before ++ (level.receive flat.config.rules sample).1.rows)
          flat.pairing above (flat.pairing stream),
        (level.receive flat.config.rules sample).2) := by
  have own := readAt_of_parts below (FlatLevel.mk level.history stream.length)
    (Hierarchy.reached flat.pairing above (flat.pairing stream))
  have replaced := set_of_parts below (FlatLevel.mk level.history stream.length)
    ⟨(level.receive flat.config.rules sample).1.history, stream.length + 1⟩
    (Hierarchy.reached flat.pairing above (flat.pairing stream))
  rw [FlatCorrelator.turn, stands.allocate, own]
  show (FlatLevel.push _ _ >>= _) = _
  rw [push_ok few]
  show
    (FlatCorrelator.correlateNewest _ _
      (level.receive flat.config.rules sample).1.history >>=
      _) = _
  rw [stands.correlateNewest fitsA fitsB few, holding, List.append_assoc,
    List.append_assoc, List.singleton_append, ← replaced]
  rfl

/-- Once a level and its rows are settled, the memory stands at the next one. -/
theorem StandsAt.next
    (stands : flat.StandsAt below before (level :: above) stream)
    (own : FlatLevel R)
    {rows : List (Row R)}
    (count : rows.length = level.lags.count)
    (widths : ∀ row ∈ rows, row.sums.length = flat.valueShape.size) :
    (flat.holding (below ++ [own]) (before ++ rows) flat.pairing above
      (flat.pairing stream)).StandsAt (below ++ [own]) (before ++ rows) above
      (flat.pairing stream) where
  held := rfl
  lags := by
    rcases stands.lags with ⟨lower, place, lags⟩
    refine ⟨lower ++ [level.lags], ?_, ?_⟩
    · rw [List.length_append, List.length_append, place]
      rfl
    · rw [holding, lags, List.append_assoc]
      rfl
  laid := by
    rw [List.length_append, count]
    exact stands.laid.2
  uniform := List.forall_mem_append.mpr ⟨stands.uniform, widths⟩
  fitting := stands.fitting
  capacities := (List.forall_mem_cons.mp stands.capacities).2
  follows := stands.follows.2.2.2
  suits :=
    forall_mem_halve (fun _ _ => Arrival.Suits.reduce flat.config) stands.suits

/--
Once a sample has entered, the levels that are left follow their longer streams.
-/
theorem StandsAt.entered
    (stands : flat.StandsAt below before hierarchy stream)
    (fitsA : sample.a.length = flat.lengthA)
    (fitsB : sample.b.length = flat.lengthB) :
    (flat.holding below before flat.pairing
      (Hierarchy.ingest flat.config.rules hierarchy sample)
      (stream ++ [⟨sample, flat.config.rules.terms⟩])).StandsAt below before
      (Hierarchy.ingest flat.config.rules hierarchy sample)
      (stream ++ [⟨sample, flat.config.rules.terms⟩]) where
  held := rfl
  lags := by
    rw [Hierarchy.map_lags_ingest]
    exact stands.lags
  laid := by
    rw [Hierarchy.map_lags_ingest]
    exact stands.laid
  uniform := stands.uniform
  fitting := stands.fitting
  capacities := by
    rw [Hierarchy.map_design_ingest]
    exact stands.capacities
  follows := stands.follows.ingest sample
  suits := stands.suits_concat fitsA fitsB

/--
A sample that enters settles all levels from there on: in the memory they are
what the hierarchy makes of them.  There are no more turns than levels.
-/
theorem StandsAt.ingest
    (stands : flat.StandsAt below before hierarchy stream)
    (nonempty : hierarchy ≠ [])
    (fitsA : sample.a.length = flat.lengthA)
    (fitsB : sample.b.length = flat.lengthB)
    (few : stream.length + 1 < 2 ^ 64)
    {turns : Nat}
    (enough : hierarchy.length ≤ turns) :
    flat.ingest turns below.length sample =
      .ok (flat.holding below before flat.pairing
          (Hierarchy.ingest flat.config.rules hierarchy sample)
          (stream ++ [⟨sample, flat.config.rules.terms⟩])) := by
  induction hierarchy generalizing flat below before stream sample turns with
  | nil => exact absurd rfl nonempty
  | cons level above hypothesis =>
      cases turns with
      | zero => cases enough
      | succ turns =>
          rcases stands.follows with ⟨holds, promotes, unpaired, _⟩
          rcases Hierarchy.receive_of_unpaired flat.config.rules
              unpaired sample with
            ⟨pair, _⟩
          have received :=
            (holds.receive flat.config.rules sample).rows_bounded stands.fitting
              (stands.suits_concat fitsA fitsB)
          have entered :
              stream ++ [⟨sample, flat.config.rules.terms⟩] ≠ [] := by
            simp
          rw [FlatCorrelator.ingest, stands.turn fitsA fitsB few,
            Hierarchy.ingest_cons, holding_cons entered, List.length_append,
            List.length_singleton]
          cases passed : (level.receive flat.config.rules sample).2 with
          | none =>
              cases above with
              | nil => rfl
              | cons second higher =>
                  rw [passed, promotes] at pair
                  have none : lone stream = none :=
                    Option.map_eq_none_iff.mp pair.symm
                  rw [pairing, halve_concat, none, Option.map_none,
                    Option.toList_none, List.append_nil]
                  rfl
          | some both =>
              rw [passed] at pair
              rcases Hierarchy.lone_of_passed pair.symm with
                ⟨passes, older, last, rfl⟩
              have higher : above ≠ [] := by
                rintro rfl
                rw [promotes] at passes
                cases passes
              have fits := stands.suits_concat fitsA fitsB
              rw [List.forall_mem_append, List.forall_mem_singleton] at fits
              have reduced := Arrival.Suits.reduce flat.config
                (fits.1 older (mem_of_lone last)) fits.2
              have fewer : (flat.pairing stream).length + 1 < 2 ^ 64 := by
                rw [length_halve]
                omega
              have next :=
                stands.next
                  ⟨(level.receive flat.config.rules sample).1.history,
                    stream.length + 1⟩ received.1 fun row member =>
                  (received.2 row member).1
              have rest :=
                hypothesis next higher reduced.fitsA reduced.fitsB fewer
                  (Nat.le_of_succ_le_succ enough)
              rw [List.length_append, List.length_singleton] at rest
              rw [pairing, halve_concat, last]
              exact rest

/-- The sums of the streams do not matter to where the levels stand. -/
theorem StandsAt.tally
    (stands : flat.StandsAt below before hierarchy stream)
    (count : Nat)
    (sample : Sample R) :
    (flat.tally count sample).StandsAt below before hierarchy stream where
  held := congrArg (FlatCorrelator.tally · count sample) stands.held
  lags := stands.lags
  laid := stands.laid
  uniform := stands.uniform
  fitting := stands.fitting
  capacities := stands.capacities
  follows := stands.follows
  suits := stands.suits

/-! ### Flushing -/

/--
How the stream of a level is made from the one below once the run is ended.
-/
abbrev concluding (flat : FlatCorrelator R) :
    List (Arrival R) → List (Arrival R) :=
  halveAll (Arrival.reduce flat.config.rules.reduce)
    (Arrival.close flat.config.rules)

/--
The level at which the flush has arrived is there as soon as a sample has
reached it.
-/
theorem StandsAt.getElem?_levels
    (stands : flat.StandsAt below before (level :: above) stream) :
    flat.levels[below.length]? =
      if stream.isEmpty then none else some ⟨level.history, stream.length⟩ := by
  rw [stands.levels, List.getElem?_append_right (Nat.le_refl _), Nat.sub_self]
  cases stream <;> rfl

/--
Once a level is settled, with its rows as they are, the memory stands at the
next one.
-/
theorem StandsAt.next_same_rows
    (stands : flat.StandsAt below before (level :: above) stream)
    (own : FlatLevel R) :
    (flat.holding (below ++ [own]) (before ++ level.rows) flat.pairing above
      (flat.pairing stream)).StandsAt (below ++ [own]) (before ++ level.rows)
      above (flat.pairing stream) := by
  rcases stands.follows.1.rows_bounded stands.fitting stands.suits with
    ⟨count, bounded⟩
  exact stands.next own count fun row member => (bounded row member).1

/--
Handing on what waits at a level settles it; the levels above it then follow the
stream in which nothing was left out, and are still to be flushed.
-/
theorem StandsAt.handOn
    (stands : flat.StandsAt below before (level :: above) stream)
    (reached : stream ≠ [])
    (nonempty : above ≠ [])
    (few : stream.length < 2 ^ 64)
    {turns : Nat → Nat}
    (enough : above.length ≤ turns (below.length + 1)) :
    ∃ (own : Level R) (later : Hierarchy R) (next : FlatCorrelator R),
      flat.handOn turns ⟨level.history, stream.length⟩ below.length = .ok next ∧
      next =
        flat.holding (below ++ [⟨own.history, stream.length⟩])
          (before ++ own.rows) flat.pairing later (flat.concluding stream) ∧
      next.StandsAt (below ++ [⟨own.history, stream.length⟩])
        (before ++ own.rows) later (flat.concluding stream) ∧
      later.length = above.length ∧
      Hierarchy.flush flat.config.rules none (level :: above) =
        own :: Hierarchy.flush flat.config.rules none later := by
  have promotes : level.history.promotes = true := by
    rw [stands.follows.2.1, List.isEmpty_eq_false_iff.mpr nonempty]
    rfl
  have unpaired : level.history.unpaired = (lone stream).map (·.sample) := by
    rw [stands.follows.2.2.1, promotes, if_pos rfl]
  cases last : lone stream with
  | none =>
      rw [last, Option.map_none] at unpaired
      have concluded : flat.concluding stream = flat.pairing stream := by
        rw [concluding, halveAll_eq, last, Option.map_none, Option.toList_none,
          List.append_nil]
      have next := stands.next_same_rows ⟨level.history, stream.length⟩
      refine ⟨level, above, _, ?_, rfl, concluded ▸ next, rfl, ?_⟩
      · rw [FlatCorrelator.handOn, unpaired, concluded, ← holding_cons reached,
          ← stands.held]
      · rw [Hierarchy.flush_cons_none, unpaired]
  | some waiting =>
      rw [last, Option.map_some] at unpaired
      have concluded : flat.concluding stream =
          flat.pairing stream ++ [Arrival.close flat.config.rules waiting] := by
        rw [concluding, halveAll_eq, last, Option.map_some, Option.toList_some]
      have next :=
        stands.next_same_rows ⟨level.history.dropUnpaired, stream.length⟩
      have closed :=
        Arrival.Suits.close flat.config
          (stands.suits waiting (mem_of_lone last))
      have fewer : (flat.pairing stream).length + 1 < 2 ^ 64 := by
        rw [length_halve]
        omega
      have settled :
          { flat with
            levels := flat.levels.set below.length
              (FlatLevel.mk level.history.dropUnpaired stream.length) } =
          flat.holding (below ++ [⟨level.history.dropUnpaired, stream.length⟩])
              (before ++ level.rows) flat.pairing above
              (flat.pairing stream) := by
        rw [holding, stands.levels, Hierarchy.reached_cons reached,
          set_of_parts, stands.table, List.append_assoc, List.append_assoc]
        rfl
      have entering :=
        next.ingest nonempty closed.fitsA closed.fitsB fewer enough
      rw [List.length_append, List.length_singleton] at entering
      refine ⟨{ level with history := level.history.dropUnpaired },
        Hierarchy.ingest flat.config.rules above
          (Arrival.close flat.config.rules waiting).sample, _, ?_, rfl, ?_,
        Hierarchy.length_ingest _ _ _, ?_⟩
      · rw [FlatCorrelator.handOn, unpaired, concluded]
        show FlatCorrelator.ingest { flat with levels := _ } _ _ _ = _
        rw [settled]
        exact entering
      · rw [concluded]
        exact next.entered closed.fitsA closed.fitsB
      · rw [Hierarchy.flush_cons_none, unpaired]
        exact congrArg _ (Hierarchy.flush_some _ _ _)

/--
A flush settles all levels from there on: in the memory they are what the
hierarchy makes of them.
-/
theorem StandsAt.flush
    (stands : flat.StandsAt below before hierarchy stream)
    (few : stream.length < 2 ^ 64)
    {turns : Nat → Nat}
    (enough :
      ∀ index < flat.lags.length, flat.lags.length - index ≤ turns index) :
    flat.flush turns (hierarchy.length - 1) below.length =
      .ok (flat.holding below before flat.concluding
          (Hierarchy.flush flat.config.rules none hierarchy) stream) := by
  -- What is handed on changes the levels above, so the induction is on their
  -- number.
  induction size : hierarchy.length generalizing flat below before hierarchy
    stream with
  | zero =>
      rw [List.length_eq_zero_iff] at size
      subst size
      exact congrArg Except.ok stands.held
  | succ number hypothesis =>
      rcases hierarchy with _ | ⟨level, _ | ⟨second, higher⟩⟩
      · cases size
      · cases size
        have idle : level.history.unpaired = none := by
          rcases stands.follows with ⟨_, promotes, unpaired, _⟩
          rw [unpaired, promotes]
          rfl
        rw [Hierarchy.flush_cons_none, idle]
        exact congrArg Except.ok stands.held
      · have above : (second :: higher).length = number := Nat.succ.inj size
        obtain ⟨room, rfl⟩ : ∃ room, number = room + 1 := ⟨_, above.symm⟩
        show flat.flush turns (room + 1) below.length = _
        rw [FlatCorrelator.flush, stands.getElem?_levels]
        by_cases blank : stream = []
        · subst blank
          rw [Hierarchy.flush_of_idle _ stands.follows.idle_of_nil]
          exact congrArg Except.ok stands.held
        rw [if_neg (by simpa using blank)]
        have room' : (second :: higher).length ≤ turns (below.length + 1) := by
          rcases stands.lags with ⟨lower, place, lags⟩
          have depth := congrArg List.length lags
          rw [List.length_append, place, List.length_map, size] at depth
          have := enough (below.length + 1) (by omega)
          omega
        rcases stands.handOn blank (List.cons_ne_nil second higher)
            few room' with
          ⟨own, later, next, handed, made, standing, length, flushed⟩
        have fewer : (flat.concluding stream).length < 2 ^ 64 := by
          rw [length_halveAll]
          omega
        subst made
        have rest := hypothesis standing fewer enough (length.trans above)
        rw [List.length_append, List.length_singleton] at rest
        show (FlatCorrelator.handOn _ _ _ _ >>= _) = _
        rw [handed, flushed, holding_cons blank]
        exact rest

end FlatCorrelator

end RunningStatistics
