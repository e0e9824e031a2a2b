import RunningStatistics.Correlation.History
import Mathlib.Data.List.Induction

/-!
# Histories of levels

A level that receives samples one after another remembers the latest of them, as
many as it has room for, newest first.  If it promotes, the samples come back in
pairs: the second of two brings the first one with it, and a sample without a
partner waits.

A level may keep its samples in a buffer that is filled up once and in which the
newest sample then takes the place of the oldest.  It remembers and answers the
same.
-/

namespace RunningStatistics

/-! ## Runs with answers -/

section Answers

variable {σ τ α β : Type} {step : σ → α → σ × β} {step' : τ → α → τ × β}

/-- Take in inputs in turn: the last state, and the answer to each input. -/
def answerAll (step : σ → α → σ × β) : σ → List α → σ × List β
  | state, [] => (state, [])
  | state, input :: rest =>
      let once := step state input
      let later := answerAll step once.1 rest
      (later.1, once.2 :: later.2)

theorem answerAll_concat
    (state : σ)
    (inputs : List α)
    (input : α) :
    answerAll step state (inputs ++ [input]) =
      ((step (answerAll step state inputs).1 input).1,
        (answerAll step state inputs).2 ++
          [(step (answerAll step state inputs).1 input).2]) := by
  induction inputs generalizing state with
  | nil => rfl
  | cons first rest hypothesis =>
      simp only [List.cons_append, answerAll, hypothesis]

/--
Two runs from related states give the same answers, if that holds of one step.
-/
theorem answerAll_related
    (related : σ → τ → Prop)
    (steps :
      ∀ {state : σ} {state' : τ} (input : α),
        related state state' →
        related (step state input).1 (step' state' input).1 ∧
        (step state input).2 = (step' state' input).2)
    {state : σ}
    {state' : τ}
    (start : related state state')
    (inputs : List α) :
    related (answerAll step state inputs).1 (answerAll step' state' inputs).1 ∧
    (answerAll step state inputs).2 = (answerAll step' state' inputs).2 := by
  induction inputs generalizing state state' with
  | nil => exact ⟨start, rfl⟩
  | cons first rest hypothesis =>
      rcases steps first start with ⟨next, answer⟩
      rcases hypothesis next with ⟨last, answers⟩
      exact ⟨last, congrArg₂ List.cons answer answers⟩

end Answers

variable {R : Type}

/-! ## What a level remembers -/

namespace History

/-- A level remembers samples that it received, and answered each of them. -/
structure Remembers
    (history : History R)
    (samples : List (Sample R))
    (answers : List (Option (Sample R × Sample R))) : Prop where
  /-- The history holds the latest samples, newest first. -/
  recent : history.recent = samples.reverse.take history.capacity
  /-- The sample that waits for a partner is the last of an odd number. -/
  unpaired :
    history.unpaired =
      if history.promotes = true ∧ samples.length % 2 = 1 then
        samples.getLast?
      else
        none
  answered : answers.length = samples.length
  /-- Every second sample comes back with the one before it. -/
  paired :
    history.promotes = true →
    ∀ index older newer,
      samples[2 * index]? = some older →
      samples[2 * index + 1]? = some newer →
      answers[2 * index + 1]? = some (some (older, newer))
  /-- Nothing else comes back. -/
  lone : ∀ index < samples.length, history.promotes = false ∨ index % 2 = 0 →
    answers[index]? = some none

variable {history : History R} {samples : List (Sample R)}
  {answers : List (Option (Sample R × Sample R))}

theorem remembers_empty
    (capacity : Nat)
    (promotes : Bool) :
    (History.empty capacity promotes : History R).Remembers [] [] where
  recent := List.take_nil.symm
  unpaired := by simp [History.empty]
  answered := rfl
  paired := by
    intro _ index older newer present
    cases present
  lone := by
    intro index within
    cases within

/-- What comes back with a sample depends on how many came before it. -/
theorem Remembers.pair
    (remembers : history.Remembers samples answers)
    (sample : Sample R) :
    (history.push sample).2 =
      if history.promotes = true ∧ samples.length % 2 = 1 then
        samples.getLast?.map (·, sample)
      else
        none := by
  rw [push_pair, remembers.unpaired]
  cases history.promotes with
  | false => simp
  | true => by_cases odd : samples.length % 2 = 1 <;> simp [odd]

theorem Remembers.unpaired_push
    (remembers : history.Remembers samples answers)
    (sample : Sample R) :
    (history.push sample).1.unpaired =
      if history.promotes = true ∧ (samples ++ [sample]).length % 2 = 1 then
        some sample
      else
        none := by
  rw [push_unpaired, remembers.unpaired, List.length_append,
    List.length_singleton]
  cases history.promotes with
  | false => simp
  | true =>
      by_cases odd : samples.length % 2 = 1
      · have some : samples ≠ [] := by
          rintro rfl
          cases odd
        have even : ¬(samples.length + 1) % 2 = 1 := by omega
        simp [odd, even, some]
      · have next : (samples.length + 1) % 2 = 1 := by omega
        simp [odd, next]

/-- One more sample is remembered as the newest one. -/
theorem Remembers.push
    (remembers : history.Remembers samples answers)
    (sample : Sample R) :
    (history.push sample).1.Remembers (samples ++ [sample])
      (answers ++ [(history.push sample).2]) where
  recent := by
    rw [push_recent, push_capacity, remembers.recent, List.reverse_concat]
    cases history.capacity with
    | zero => rfl
    | succ capacity =>
        rw [List.take_succ_cons, List.take_succ_cons, List.take_take,
          Nat.min_eq_left (Nat.le_succ capacity)]
  unpaired := by
    rw [remembers.unpaired_push, push_promotes, List.getLast?_concat]
  answered := by simp [remembers.answered]
  paired := by
    intro promotes index older newer first second
    rw [push_promotes] at promotes
    have within := (List.getElem?_eq_some_iff.mp second).1
    rw [List.length_append, List.length_singleton] at within
    by_cases earlier : 2 * index + 1 < samples.length
    · rw [List.getElem?_append_left (by omega)] at first second
      rw [List.getElem?_append_left (by rw [remembers.answered]; exact earlier)]
      exact remembers.paired promotes index older newer first second
    -- Otherwise the newest sample is the second of this pair, and the first
    -- came just before it.
    · have last : samples.length = 2 * index + 1 := by omega
      rw [List.getElem?_append_left (by omega)] at first
      rw [← last, List.getElem?_concat_length] at second
      rw [← last, ← remembers.answered, List.getElem?_concat_length,
        remembers.pair, if_pos ⟨promotes, by omega⟩, List.getLast?_eq_getElem?,
        last, Nat.add_sub_cancel, first]
      exact congrArg some
        (congrArg (Option.map _) (congrArg some (Option.some.inj second)))
  lone := by
    intro index within idle
    rw [push_promotes] at idle
    rw [List.length_append, List.length_singleton] at within
    by_cases earlier : index < samples.length
    · rw [List.getElem?_append_left (by rw [remembers.answered]; exact earlier)]
      exact remembers.lone index earlier idle
    · have last : index = answers.length := by
        rw [remembers.answered]
        omega
      rw [last, List.getElem?_concat_length, remembers.pair, if_neg]
      rintro ⟨promotes, odd⟩
      rcases idle with coarsest | even
      · rw [promotes] at coarsest
        cases coarsest
      · omega

/--
What a level remembers and answered after it has received samples in turn.
-/
theorem remembers_answerAll
    (capacity : Nat)
    (promotes : Bool)
    (samples : List (Sample R)) :
    let run := answerAll push (History.empty capacity promotes) samples
    run.1.capacity = capacity ∧
    run.1.promotes = promotes ∧
    run.1.Remembers samples run.2 := by
  induction samples using List.reverseRecOn with
  | nil => exact ⟨rfl, rfl, remembers_empty capacity promotes⟩
  | append_singleton samples sample hypothesis =>
      rcases hypothesis with ⟨room, kind, remembers⟩
      rw [answerAll_concat]
      exact ⟨(push_capacity _ _).trans room, (push_promotes _ _).trans kind,
        remembers.push sample⟩

namespace Remembers

theorem length_recent (remembers : history.Remembers samples answers) :
    history.recent.length = min samples.length history.capacity := by
  rw [remembers.recent, List.length_take, List.length_reverse, Nat.min_comm]

/--
The sample at a lag is the one that was received so many samples before the
last.
-/
theorem lagged
    (remembers : history.Remembers samples answers)
    {lag : Nat}
    (within : lag < min samples.length history.capacity) :
    history.lagged lag = samples[samples.length - 1 - lag]? := by
  rw [History.lagged, remembers.recent, List.getElem?_take_of_lt (by omega),
    List.getElem?_reverse (by omega)]

theorem lagged_of_le
    (remembers : history.Remembers samples answers)
    {lag : Nat}
    (beyond : min samples.length history.capacity ≤ lag) :
    history.lagged lag = none := by
  rw [History.lagged, List.getElem?_eq_none_iff, remembers.length_recent]
  exact beyond

end Remembers

end History

/-! ## Levels with a buffer -/

/-- A level that keeps its samples in a buffer. -/
structure LevelBuffer (R : Type) where
  capacity : Nat
  /-- Whether samples are paired for a level above. -/
  promotes : Bool
  /-- The samples kept, newest first. -/
  kept : List (Sample R)
  /-- The first sample of a pair that is not complete. -/
  pending : Option (Sample R)
  /-- The number of samples received. -/
  received : Nat

namespace LevelBuffer

/-- Nothing received yet. -/
def start (capacity : Nat) (promotes : Bool) : LevelBuffer R :=
  ⟨capacity, promotes, [], none, 0⟩

/--
Pair a sample with the one that waits, or let it wait, if the level promotes.
-/
def pairUp
    (level : LevelBuffer R)
    (sample : Sample R) :
    Option (Sample R) × Option (Sample R × Sample R) :=
  match level.promotes, level.pending with
  | true, some older => (none, some (older, sample))
  | true, none => (some sample, none)
  | false, pending => (pending, none)

/-- A full buffer gives up its oldest sample before the newest one enters. -/
def withNewest (level : LevelBuffer R) (sample : Sample R) : List (Sample R) :=
  sample ::
    if level.kept.length = level.capacity then
      level.kept.dropLast
    else
      level.kept

/--
Receive a sample; every second one comes back with the one before it, older
first.
-/
def push
    (level : LevelBuffer R)
    (sample : Sample R) :
    LevelBuffer R × Option (Sample R × Sample R) :=
  let (pending, pair) := level.pairUp sample
  ({ level with
      kept := level.withNewest sample,
      pending,
      received := level.received + 1 }, pair)

/--
A buffer with room for a sample, not filled beyond it, that holds what a history
holds.
-/
structure Stores (level : LevelBuffer R) (history : History R) : Prop where
  history :
    history = ⟨level.capacity, level.promotes, level.kept, level.pending⟩
  capacious : 0 < level.capacity
  within : level.kept.length ≤ level.capacity

/--
A buffer with room that was not filled beyond it keeps as many samples as there
is room for.
-/
theorem withNewest_eq
    {level : LevelBuffer R}
    (capacious : 0 < level.capacity)
    (within : level.kept.length ≤ level.capacity)
    (sample : Sample R) :
    level.withNewest sample = (sample :: level.kept).take level.capacity := by
  rw [withNewest]
  cases room : level.capacity with
  | zero => exact absurd room (Nat.ne_of_gt capacious)
  | succ capacity =>
      rw [List.take_succ_cons]
      split
      next full => rw [List.dropLast_eq_take, full, Nat.add_sub_cancel]
      next free => rw [List.take_of_length_le (by omega)]

theorem stores_start
    {capacity : Nat}
    (capacious : 0 < capacity)
    (promotes : Bool) :
    (start capacity promotes : LevelBuffer R).Stores
      (.empty capacity promotes) :=
  ⟨rfl, capacious, Nat.zero_le capacity⟩

/--
A buffer that holds what a history holds does so after one more sample, and
answers alike.
-/
theorem Stores.push
    {level : LevelBuffer R}
    {history : History R}
    (stores : level.Stores history)
    (sample : Sample R) :
    (level.push sample).1.Stores (history.push sample).1 ∧
    (level.push sample).2 = (history.push sample).2 := by
  rcases stores with ⟨rfl, capacious, within⟩
  have admitted := withNewest_eq capacious within sample
  have fits : (level.withNewest sample).length ≤ level.capacity := by
    rw [admitted]
    exact List.length_take_le _ _
  -- What is kept does not depend on the pairing, which both do alike.
  rw [LevelBuffer.push, History.push, ← admitted, pairUp]
  cases level.promotes with
  | false => exact ⟨⟨rfl, capacious, fits⟩, rfl⟩
  | true => cases level.pending <;> exact ⟨⟨rfl, capacious, fits⟩, rfl⟩

theorem received_answerAll
    (level : LevelBuffer R)
    (samples : List (Sample R)) :
    (answerAll push level samples).1.received =
      level.received + samples.length := by
  induction samples generalizing level with
  | nil => rfl
  | cons sample rest hypothesis =>
      rw [answerAll, hypothesis, List.length_cons, Nat.add_comm rest.length,
        ← Nat.add_assoc]
      rfl

/--
A buffer that was empty holds and answers what a history does, and counts the
samples.
-/
theorem answerAll_start
    {capacity : Nat}
    (capacious : 0 < capacity)
    (promotes : Bool)
    (samples : List (Sample R)) :
    let run := answerAll History.push (History.empty capacity promotes) samples
    let stored := answerAll push (start capacity promotes) samples
    stored.1.kept = run.1.recent ∧
    stored.1.pending = run.1.unpaired ∧
    stored.2 = run.2 ∧
    stored.1.received = samples.length := by
  rcases answerAll_related Stores (fun sample stores => stores.push sample)
    (stores_start capacious promotes) samples with ⟨stores, answers⟩
  refine ⟨?_, ?_, answers, ?_⟩
  · rw [stores.history]
  · rw [stores.history]
  · rw [received_answerAll]
    exact Nat.zero_add _

end LevelBuffer

end RunningStatistics
