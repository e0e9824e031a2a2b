import RunningStatistics.Correlation.Hierarchy
import RunningStatistics.Correlation.Streams
import Mathlib.Algebra.Ring.Nat
import Mathlib.Logic.Function.Iterate

/-!
# Levels and their streams

Every level of a hierarchy stands for a stream: the history of the level holds
the last arrivals of the stream, its rows are those that the definition on
whole lists assigns to its lags, and the sample that waits for a partner is the
one that halving the stream leaves out.

A sample that enters at the finest level extends the streams of all levels that
it reaches, and leaves the others alone.  Flushing extends them by what halving
has left out so far.
-/

namespace RunningStatistics

variable {R : Type}

theorem levelStream_eq_iterate
    (reduce : Sample R → Sample R → Sample R)
    (raw : List (Arrival R))
    (level : Nat) :
    levelStream reduce raw level =
      (halve (Arrival.reduce reduce))^[level] raw := by
  induction level with
  | zero => rfl
  | succ level hypothesis =>
      rw [levelStream, hypothesis, Function.iterate_succ_apply']

theorem finalStream_eq_iterate
    (rules : Rules R)
    (raw : List (Arrival R))
    (level : Nat) :
    finalStream rules raw level =
      (halveAll (Arrival.reduce rules.reduce) (Arrival.close rules))^[level]
        raw := by
  induction level with
  | zero => rfl
  | succ level hypothesis =>
      rw [finalStream, hypothesis, Function.iterate_succ_apply']

theorem length_iterate_halve
    {α : Type}
    (reduce : α → α → α)
    (raw : List α)
    (level : Nat) :
    ((halve reduce)^[level] raw).length = raw.length / 2 ^ level := by
  induction level with
  | zero => simp
  | succ level hypothesis =>
      rw [Function.iterate_succ_apply', length_halve, hypothesis,
        Nat.div_div_eq_div_mul, Nat.pow_succ]

theorem length_levelStream
    (rule : Sample R → Sample R → Sample R)
    (raw : List (Arrival R))
    (level : Nat) :
    (levelStream rule raw level).length = raw.length / 2 ^ level := by
  rw [levelStream_eq_iterate, length_iterate_halve]

theorem length_finalStream
    (rules : Rules R)
    (raw : List (Arrival R))
    (level : Nat) :
    (finalStream rules raw level).length =
      (raw.length + 2 ^ level - 1) / 2 ^ level := by
  induction level with
  | zero => simp [finalStream]
  | succ level hypothesis =>
      have positive : 0 < 2 ^ level := Nat.two_pow_pos level
      have doubled :
          raw.length + 2 ^ level * 2 - 1 =
            raw.length + 2 ^ level - 1 + 2 ^ level := by
        omega
      rw [finalStream, length_halveAll, hypothesis, Nat.pow_succ, doubled,
        ← Nat.div_div_eq_div_mul, Nat.add_div_right _ positive]

variable [Scalar R]

/-! ## One level -/

namespace Level

/-- A level has the history and the rows that belong to a stream. -/
structure Holds
    (width : Nat)
    (level : Level R)
    (stream : List (Arrival R)) : Prop where
  /-- The history holds the last samples of the stream, newest first. -/
  recent : level.history.recent =
    ((stream.map (·.sample)).reverse).take level.history.capacity
  rows : level.rows =
    (List.range' level.lags.first level.lags.count).map (directRow width stream)
  /-- The history is long enough for every lag of the level. -/
  remembered : level.lags.stop ≤ level.history.capacity
  capacious : 0 < level.history.capacity

theorem holds_empty
    {capacity : Nat}
    (width : Nat)
    (promotes : Bool)
    {lags : LagRange}
    (remembered : lags.stop ≤ capacity)
    (capacious : 0 < capacity) :
    (Level.empty capacity promotes width lags : Level R).Holds width [] where
  recent := by simp [Level.empty, History.empty]
  rows := by
    have blank : directRow (R := R) width [] = fun _ => Row.empty width := by
      funext lag
      simp [directRow]
    simp only [Level.empty, blank, List.map_const', List.length_range']
  remembered := remembered
  capacious := capacious

/--
What a level remembers at a lag that it covers, once a sample has entered its
history: the sample that entered this many arrivals ago.
-/
theorem Holds.getElem?_recent
    {width : Nat}
    {level : Level R}
    {stream : List (Arrival R)}
    (holds : level.Holds width stream)
    (newest : Arrival R)
    {lag : Nat}
    (covered : lag < level.lags.stop) :
    ((newest.sample :: level.history.recent).take
        level.history.capacity)[lag]? =
      (newest :: stream.reverse)[lag]?.map (·.sample) := by
  have kept : lag < level.history.capacity :=
    Nat.lt_of_lt_of_le covered holds.remembered
  rw [List.getElem?_take_of_lt kept, holds.recent]
  cases lag with
  | zero => rfl
  | succ lag =>
      rw [List.getElem?_cons_succ, List.getElem?_cons_succ,
        List.getElem?_take_of_lt (Nat.lt_of_succ_lt kept), ← List.map_reverse,
        List.getElem?_map]

/--
A level that receives a sample holds the stream with this sample behind it.
-/
theorem Holds.receive
    {width : Nat}
    {level : Level R}
    {stream : List (Arrival R)}
    (holds : level.Holds width stream)
    (rules : Rules R)
    (sample : Sample R) :
    (level.receive rules sample).1.Holds width
      (stream ++ [⟨sample, rules.terms⟩]) where
  recent := by
    rw [receive_history, History.push_recent, History.push_capacity,
      holds.recent]
    simp only [List.map_append, List.map_cons, List.map_nil,
      List.reverse_append, List.reverse_cons, List.reverse_nil, List.nil_append,
      List.singleton_append]
    cases level.history.capacity with
    | zero => rfl
    | succ capacity =>
        rw [List.take_succ_cons, List.take_succ_cons, List.take_take,
          Nat.min_eq_left (Nat.le_succ capacity)]
  rows := by
    apply List.ext_getElem?
    intro index
    rw [receive_lags]
    by_cases within : index < level.lags.count
    · have covered : level.lags.first + index < level.lags.stop := by
        simp only [LagRange.count] at within
        omega
      have earlier := holds.getElem?_recent ⟨sample, rules.terms⟩ covered
      have row : level.rows[index]? =
          some (directRow width stream (level.lags.first + index)) := by
        rw [holds.rows, List.getElem?_map, List.getElem?_range' within,
          Nat.one_mul]
        rfl
      simp only [Level.receive, History.push_recent]
      rw [getElem?_correlate, List.getElem?_drop, earlier, row,
        List.getElem?_map, List.getElem?_range' within, Nat.one_mul,
        Option.map_some, directRow_concat]
      cases (_ :: stream.reverse)[level.lags.first + index]? with
      | none => rfl
      | some older => rfl
    · rw [List.getElem?_eq_none, List.getElem?_eq_none]
      · simpa using within
      · rw [length_rows_receive, holds.rows]
        simpa using within
  remembered := by
    rw [receive_lags, receive_history, History.push_capacity]
    exact holds.remembered
  capacious := by
    rw [receive_history, History.push_capacity]
    exact holds.capacious

theorem Holds.dropUnpaired
    {width : Nat}
    {level : Level R}
    {stream : List (Arrival R)}
    (holds : level.Holds width stream) :
    Holds width { level with history := level.history.dropUnpaired } stream :=
  ⟨holds.recent, holds.rows, holds.remembered, holds.capacious⟩

/-- A level has received a sample if its stream is not empty. -/
theorem Holds.isActive
    {width : Nat}
    {level : Level R}
    {stream : List (Arrival R)}
    (holds : level.Holds width stream) :
    level.history.isActive = decide (0 < stream.length) := by
  have room := holds.capacious
  have length :
      level.history.recent.length =
        min level.history.capacity stream.length := by
    rw [holds.recent, List.length_take, List.length_reverse, List.length_map]
  have filled : level.history.recent.isEmpty = false ↔ 0 < stream.length := by
    rw [List.isEmpty_eq_false_iff, ← List.length_pos_iff, length]
    omega
  rw [History.isActive, Bool.eq_iff_iff, Bool.not_eq_true', filled,
    decide_eq_true_iff]

end Level

/-! ## All levels -/

namespace Hierarchy

/--
Every level holds its stream, where `next` makes the stream of a level from the
one below.
-/
def Carries
    (width : Nat)
    (next : List (Arrival R) → List (Arrival R)) :
    Hierarchy R → List (Arrival R) → Prop
  | [], _ => True
  | level :: above, stream =>
      level.Holds width stream ∧ Carries width next above (next stream)

/--
The levels are those of a run that goes on: the streams are halved from level to
level, the last level does not pair, and each other one keeps what halving
leaves out of its stream.
-/
def Follows
    (width : Nat)
    (reduce : Sample R → Sample R → Sample R) :
    Hierarchy R → List (Arrival R) → Prop
  | [], _ => True
  | level :: above, stream =>
      level.Holds width stream ∧
      level.history.promotes = !above.isEmpty ∧
      level.history.unpaired =
        (if level.history.promotes then
          (lone stream).map (·.sample)
        else
          none) ∧
      Follows width reduce above (halve (Arrival.reduce reduce) stream)

/-- While a run goes on, each stream is half of the one below. -/
theorem Follows.carries
    {width : Nat}
    {reduce : Sample R → Sample R → Sample R}
    {hierarchy : Hierarchy R}
    {stream : List (Arrival R)}
    (follows : Follows width reduce hierarchy stream) :
    Carries width (halve (Arrival.reduce reduce)) hierarchy stream := by
  induction hierarchy generalizing stream with
  | nil => trivial
  | cons level above hypothesis =>
      rcases follows with ⟨holds, _, _, rest⟩
      exact ⟨holds, hypothesis rest⟩

theorem Carries.holds
    {width : Nat}
    {next : List (Arrival R) → List (Arrival R)}
    {hierarchy : Hierarchy R}
    {stream : List (Arrival R)}
    (carries : Carries width next hierarchy stream)
    {index : Nat}
    {level : Level R}
    (present : hierarchy[index]? = some level) :
    level.Holds width (next^[index] stream) := by
  induction hierarchy generalizing stream index with
  | nil => cases present
  | cons first above hypothesis =>
      rcases carries with ⟨holds, rest⟩
      cases index with
      | zero =>
          cases present
          exact holds
      | succ index => exact hypothesis rest present

/-! ## Entering samples -/

theorem follows_empty
    {capacity : Nat}
    (width : Nat)
    (reduce : Sample R → Sample R → Sample R)
    {grid : List LagRange}
    (remembered : ∀ lags ∈ grid, lags.stop ≤ capacity)
    (capacious : 0 < capacity) :
    Follows width reduce (Hierarchy.empty capacity width grid) [] := by
  induction grid with
  | nil => trivial
  | cons lags above hypothesis =>
      rw [List.forall_mem_cons] at remembered
      refine ⟨Level.holds_empty width _ remembered.1 capacious, ?_, ?_,
        hypothesis remembered.2⟩
      · cases above with
        | nil => rfl
        | cons second rest => rfl
      · simp [Level.empty, History.empty, lone]

/--
What a level passes on when a sample enters it, and what waits in it afterwards.
-/
theorem receive_of_unpaired
    (rules : Rules R)
    {level : Level R}
    {stream : List (Arrival R)}
    (unpaired :
      level.history.unpaired =
        (if level.history.promotes then (lone stream).map (·.sample) else none))
    (sample : Sample R) :
    (level.receive rules sample).2 =
      (if level.history.promotes then
        (lone stream).map (·.sample, sample)
      else
        none) ∧
    (level.receive rules sample).1.history.unpaired =
      (if level.history.promotes then
        (lone (stream ++ [⟨sample, rules.terms⟩])).map (·.sample)
      else
        none) := by
  rw [Level.receive_pair, Level.receive_history, History.push_pair,
    History.push_unpaired, unpaired, lone_concat]
  cases level.history.promotes with
  | false => exact ⟨rfl, rfl⟩
  | true =>
      cases lone stream with
      | none => exact ⟨rfl, rfl⟩
      | some older => exact ⟨rfl, rfl⟩

omit [Scalar R] in
/--
A level that passes a pair on promotes, and the older sample of the pair waited
in it.
-/
theorem lone_of_passed
    {promotes : Bool}
    {stream : List (Arrival R)}
    {sample : Sample R}
    {both : Sample R × Sample R}
    (passed :
      (if promotes then (lone stream).map (·.sample, sample) else none) =
        some both) :
    promotes = true ∧
    ∃ older, lone stream = some older ∧ both = (older.sample, sample) := by
  cases promotes with
  | false => cases passed
  | true =>
      rcases Option.map_eq_some_iff.mp passed with ⟨older, last, rfl⟩
      exact ⟨rfl, older, last, rfl⟩

/--
A sample that enters extends the streams of the levels; the invariant survives.
-/
theorem Follows.ingest
    {width : Nat}
    {rules : Rules R}
    {hierarchy : Hierarchy R}
    {stream : List (Arrival R)}
    (follows : Follows width rules.reduce hierarchy stream)
    (sample : Sample R) :
    Follows width rules.reduce (Hierarchy.ingest rules hierarchy sample)
      (stream ++ [⟨sample, rules.terms⟩]) := by
  induction hierarchy generalizing stream sample with
  | nil => trivial
  | cons level above hypothesis =>
      rcases follows with ⟨holds, promotes, unpaired, rest⟩
      rcases receive_of_unpaired rules unpaired sample with ⟨pair, waiting⟩
      have kept :
          (level.receive rules sample).1.history.promotes =
            level.history.promotes := by
        rw [Level.receive_history, History.push_promotes]
      rw [ingest_cons, pair]
      refine ⟨holds.receive rules sample, ?_, by rw [kept, waiting], ?_⟩
      · rw [kept, promotes]
        cases above with
        | nil => rfl
        | cons second higher =>
            cases lone stream with
            | none => rfl
            | some older =>
                simp only [List.isEmpty_cons, Bool.not_false, if_true,
                  Option.map_some, ingest_cons]
      · cases above with
        | nil =>
            rw [promotes]
            trivial
        | cons second higher =>
            rw [promotes, halve_concat]
            cases lone stream with
            | none => simpa using rest
            | some older =>
                exact hypothesis rest (rules.reduce older.sample sample)

/-! ## Flushing -/

/--
The outcome of flushing: the levels carry streams in which nothing was left out,
and no sample waits any more.
-/
def Settled
    (width : Nat)
    (rules : Rules R)
    (hierarchy : Hierarchy R)
    (stream : List (Arrival R)) : Prop :=
  Carries width (halveAll (Arrival.reduce rules.reduce) (Arrival.close rules))
    hierarchy stream ∧
  ∀ level ∈ hierarchy, level.history.unpaired = none

theorem Settled.cons
    {width : Nat}
    {rules : Rules R}
    {level : Level R}
    {above : Hierarchy R}
    {stream : List (Arrival R)}
    (holds : level.Holds width stream)
    (unpaired : level.history.unpaired = none)
    (rest :
      Settled width rules above
        (halveAll (Arrival.reduce rules.reduce) (Arrival.close rules) stream)) :
    Settled width rules (level :: above) stream :=
  ⟨⟨holds, rest.1⟩, List.forall_mem_cons.mpr ⟨unpaired, rest.2⟩⟩

/-- The arrival of what is carried upwards while a run is ended. -/
def carriedArrival
    (rules : Rules R)
    (carried : Option (Sample R)) :
    List (Arrival R) :=
  (carried.map (⟨·, rules.terms⟩)).toList

/--
Flushing from a level to which nothing is carried, provided that what is above
it settles whatever is carried there.
-/
theorem Follows.flush_none
    {width : Nat}
    {rules : Rules R}
    {level : Level R}
    {above : Hierarchy R}
    {stream : List (Arrival R)}
    (follows : Follows width rules.reduce (level :: above) stream)
    (settles :
      ∀ carried,
        Settled width rules (Hierarchy.flush rules carried above)
          (halve (Arrival.reduce rules.reduce) stream ++
            carriedArrival rules carried)) :
    Settled width rules
      (Hierarchy.flush rules none (level :: above)) stream := by
  rcases follows with ⟨holds, promotes, unpaired, rest⟩
  rw [promotes] at unpaired
  rw [flush_cons_none]
  cases above with
  | nil =>
      replace unpaired : level.history.unpaired = none := unpaired
      rw [unpaired]
      exact Settled.cons holds unpaired ⟨trivial, by simp [Hierarchy.flush]⟩
  | cons second higher =>
      cases last : lone stream with
      | none =>
          replace unpaired : level.history.unpaired = none := by
            rw [unpaired, last]; rfl
          rw [unpaired]
          have above := settles none
          refine Settled.cons holds unpaired ?_
          rw [halveAll_eq, last]
          exact above
      | some waiting =>
          replace unpaired : level.history.unpaired = some waiting.sample := by
            rw [unpaired, last]; rfl
          rw [unpaired]
          have above :=
            settles (some (rules.reduce waiting.sample waiting.sample))
          refine Settled.cons holds.dropUnpaired rfl ?_
          rw [halveAll_eq, last]
          exact above

/--
Flushing completes the streams.  What is carried from below belongs to the
stream of the finest level, but has not entered that level yet.
-/
theorem Follows.flush
    {width : Nat}
    {rules : Rules R}
    {hierarchy : Hierarchy R}
    {stream : List (Arrival R)}
    (follows : Follows width rules.reduce hierarchy stream)
    (carried : Option (Sample R)) :
    Settled width rules (Hierarchy.flush rules carried hierarchy)
      (stream ++ carriedArrival rules carried) := by
  induction hierarchy generalizing stream carried with
  | nil => cases carried <;> exact ⟨trivial, by simp [Hierarchy.flush]⟩
  | cons level above hypothesis =>
      cases carried with
      | none =>
          rw [carriedArrival, Option.map_none, Option.toList_none,
            List.append_nil]
          exact follows.flush_none (hypothesis follows.2.2.2)
      | some sample =>
          have entered := follows.ingest sample
          rcases follows with ⟨holds, promotes, unpaired, rest⟩
          rcases receive_of_unpaired rules unpaired sample with ⟨pair, waiting⟩
          rw [flush_cons_some]
          rw [ingest_cons] at entered
          cases passed : (level.receive rules sample).2 with
          | none =>
              rw [passed] at entered
              exact entered.flush_none (hypothesis entered.2.2.2)
          | some both =>
              rcases lone_of_passed (pair.symm.trans passed) with
                ⟨pairs, older, last, rfl⟩
              rw [pairs] at waiting
              refine Settled.cons (holds.receive rules sample) ?_ ?_
              · rw [waiting, lone_concat, last]
                rfl
              · have above :=
                  hypothesis rest (some (rules.reduce older.sample sample))
                rw [halveAll_eq, carriedArrival, Option.map_some,
                  Option.toList_some, halve_concat, lone_concat, last,
                  List.append_assoc]
                exact above

end Hierarchy

end RunningStatistics
