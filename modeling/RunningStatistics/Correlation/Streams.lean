import RunningStatistics.Correlation.Level

/-!
# Streams, all at once

A hierarchy sees its samples one at a time.  Here the same streams are given as
whole lists: the stream of a level results from the raw one by reducing pairs
again and again, and the row of a lag is the fold of the terms over all pairs of
samples which are that lag apart.

The arguments of an operation may change during a run, so every sample carries
the terms in force when it arrived; a reduced sample arrives together with the
newer of the two that it stems from.  What is flushed at the end of a run
arrives under the terms in force at the end.
-/

namespace RunningStatistics

/-! ## Halving a stream -/

/--
Reduce the first two values, the next two, and so on; an odd last value is left
out.
-/
def halve {α : Type} (reduce : α → α → α) : List α → List α
  | older :: newer :: rest => reduce older newer :: halve reduce rest
  | _ => []

/-- Reduce pairs in the same way, and an odd last value on its own. -/
def halveAll {α : Type} (reduce : α → α → α) (close : α → α) : List α → List α
  | older :: newer :: rest => reduce older newer :: halveAll reduce close rest
  | [waiting] => [close waiting]
  | [] => []

/-- The odd last value that halving leaves out. -/
def lone {α : Type} : List α → Option α
  | _ :: _ :: rest => lone rest
  | [waiting] => some waiting
  | [] => none

@[simp]
theorem length_halve
    {α : Type}
    (reduce : α → α → α)
    (stream : List α) :
    (halve reduce stream).length = stream.length / 2 := by
  fun_induction halve reduce stream with
  | case1 older newer rest hypothesis =>
      simp only [List.length_cons, hypothesis]
      omega
  | case2 stream short =>
      rcases stream with _ | ⟨first, _ | ⟨second, rest⟩⟩
      · simp
      · simp
      · exact absurd rfl (short first second rest)

@[simp]
theorem length_halveAll
    {α : Type}
    (reduce : α → α → α)
    (close : α → α)
    (stream : List α) :
    (halveAll reduce close stream).length = (stream.length + 1) / 2 := by
  fun_induction halveAll reduce close stream with
  | case1 older newer rest hypothesis =>
      simp only [List.length_cons, hypothesis]
      omega
  | case2 waiting => simp
  | case3 => simp

/-- The two ways to halve differ in what becomes of the odd last value. -/
theorem halveAll_eq
    {α : Type}
    (reduce : α → α → α)
    (close : α → α)
    (stream : List α) :
    halveAll reduce close stream =
      halve reduce stream ++ ((lone stream).map close).toList := by
  fun_induction halveAll reduce close stream with
  | case1 older newer rest hypothesis =>
      simp only [halve, lone, hypothesis, List.cons_append]
  | case2 waiting => rfl
  | case3 => rfl

theorem mem_of_lone
    {α : Type}
    {stream : List α}
    {waiting : α}
    (last : lone stream = some waiting) :
    waiting ∈ stream := by
  fun_induction lone stream with
  | case1 older newer rest hypothesis =>
      exact List.mem_cons_of_mem older
        (List.mem_cons_of_mem newer (hypothesis last))
  | case2 first =>
      cases last
      exact List.mem_singleton_self waiting
  | case3 => cases last

/-- A further value completes a pair if one waits for it. -/
theorem halve_concat
    {α : Type}
    (reduce : α → α → α)
    (stream : List α)
    (newest : α) :
    halve reduce (stream ++ [newest]) =
      halve reduce stream ++ ((lone stream).map (reduce · newest)).toList := by
  fun_induction lone stream with
  | case1 older newer rest hypothesis =>
      simp only [List.cons_append, halve, hypothesis]
  | case2 waiting => rfl
  | case3 => rfl

/-- A further value waits unless it completes a pair. -/
theorem lone_concat
    {α : Type}
    (stream : List α)
    (newest : α) :
    lone (stream ++ [newest]) =
      if (lone stream).isSome then none else some newest := by
  fun_induction lone stream with
  | case1 older newer rest hypothesis =>
      simpa only [List.cons_append, lone] using hypothesis
  | case2 waiting => rfl
  | case3 => rfl

theorem forall_mem_halve
    {α : Type}
    {good : α → Prop}
    {reduce : α → α → α}
    {stream : List α}
    (reduced :
      ∀ older newer, good older → good newer → good (reduce older newer))
    (all : ∀ value ∈ stream, good value) :
    ∀ value ∈ halve reduce stream, good value := by
  fun_induction halve reduce stream with
  | case1 older newer rest hypothesis =>
      rw [List.forall_mem_cons, List.forall_mem_cons] at all
      rw [List.forall_mem_cons]
      exact ⟨reduced older newer all.1 all.2.1, hypothesis all.2.2⟩
  | case2 => exact fun value member => absurd member List.not_mem_nil

theorem forall_mem_halveAll
    {α : Type}
    {good : α → Prop}
    {reduce : α → α → α}
    {close : α → α}
    {stream : List α}
    (reduced :
      ∀ older newer, good older → good newer → good (reduce older newer))
    (closed : ∀ waiting, good waiting → good (close waiting))
    (all : ∀ value ∈ stream, good value) :
    ∀ value ∈ halveAll reduce close stream, good value := by
  intro value member
  rw [halveAll_eq, List.mem_append, Option.mem_toList,
    Option.map_eq_some_iff] at member
  rcases member with paired | ⟨waiting, last, rfl⟩
  · exact forall_mem_halve reduced all value paired
  · exact closed waiting (all waiting (mem_of_lone last))

/-! ## Streams of samples -/

/-- A sample with the terms in force when it arrived. -/
structure Arrival (R : Type) where
  sample : Sample R
  /-- What an earlier value of A contributes together with this value of B. -/
  terms : List R → List R → List R

namespace Arrival

variable {R : Type}

/-- Two arrivals in succession reduced to one. -/
def reduce
    (rule : Sample R → Sample R → Sample R)
    (older newer : Arrival R) :
    Arrival R :=
  ⟨rule older.sample newer.sample, newer.terms⟩

/--
An arrival reduced together with itself, under the terms in force at the end.
-/
def close (rules : Rules R) (waiting : Arrival R) : Arrival R :=
  ⟨rules.reduce waiting.sample waiting.sample, rules.terms⟩

end Arrival

/-- The stream that reaches a level while the run goes on. -/
def levelStream
    {R : Type}
    (rule : Sample R → Sample R → Sample R)
    (raw : List (Arrival R)) :
    (level : Nat) → List (Arrival R)
  | 0 => raw
  | level + 1 => halve (Arrival.reduce rule) (levelStream rule raw level)

/--
The stream that has reached a level once the run is ended under the given rules.
-/
def finalStream
    {R : Type}
    (rules : Rules R)
    (raw : List (Arrival R)) :
    (level : Nat) → List (Arrival R)
  | 0 => raw
  | level + 1 =>
      halveAll (Arrival.reduce rules.reduce) (Arrival.close rules)
        (finalStream rules raw level)

variable {R : Type} [Scalar R]

/-- Add the terms of an earlier and a later arrival to a row. -/
def Row.addArrivals (row : Row R) (pair : Arrival R × Arrival R) : Row R :=
  row.add (pair.2.terms pair.1.sample.a pair.2.sample.b)

/--
The row of a lag from all pairs of a stream that are this lag apart, earliest
first.
-/
def directRow (width : Nat) (stream : List (Arrival R)) (lag : Nat) : Row R :=
  (stream.zip (stream.drop lag)).foldl Row.addArrivals (Row.empty width)

theorem count_foldl_addArrivals
    (row : Row R)
    (pairs : List (Arrival R × Arrival R)) :
    (pairs.foldl Row.addArrivals row).count = row.count + pairs.length := by
  induction pairs generalizing row with
  | nil => rfl
  | cons pair rest hypothesis =>
      rw [List.foldl_cons, hypothesis, List.length_cons]
      simp only [Row.addArrivals, Row.add]
      omega

/--
A further value adds one pair at the lag: itself and the value that is older
by the lag.
-/
theorem zip_drop_concat
    {α : Type}
    (stream : List α)
    (newest : α)
    {lag : Nat}
    (near : lag ≤ stream.length) :
    ∃ older,
      (newest :: stream.reverse)[lag]? = some older ∧
      (stream ++ [newest]).zip ((stream ++ [newest]).drop lag) =
        stream.zip (stream.drop lag) ++ [(older, newest)] := by
  have bound : stream.length - lag < (stream ++ [newest]).length := by
    simp only [List.length_append, List.length_singleton]
    omega
  have within : lag < (stream ++ [newest]).length := by
    rw [List.length_append, List.length_singleton]
    exact Nat.lt_succ_of_le near
  refine ⟨(stream ++ [newest])[stream.length - lag], ?_, ?_⟩
  · rw [← List.reverse_concat, List.getElem?_reverse within,
      List.getElem?_eq_getElem (by omega)]
    simp only [List.length_append, List.length_singleton, Nat.add_sub_cancel]
  · have apart :
        stream ++ [newest] =
          stream.take (stream.length - lag) ++
            (stream ++ [newest])[stream.length - lag] ::
            (stream ++ [newest]).drop (stream.length - lag + 1) := by
      rw [← List.drop_eq_getElem_cons bound,
        ← List.take_append_of_le_length (Nat.sub_le _ _), List.take_append_drop]
    have paired : stream.zip (stream.drop lag) =
        (stream.take (stream.length - lag)).zip (stream.drop lag) := by
      rw [List.zip_eq_zip_take_min, List.length_drop,
        Nat.min_eq_right (Nat.sub_le _ _),
        List.take_of_length_le (Nat.le_of_eq List.length_drop)]
    rw [List.drop_append_of_le_length near, paired]
    generalize (stream ++ [newest])[stream.length - lag] = older at apart
    rw [apart, List.zip_append (by simp), List.zip_cons_cons,
      List.zip_nil_right]

/--
One more arrival adds one pair to the row of every lag that the stream is long
enough for: the pair with the arrival that came that many arrivals ago.
-/
theorem directRow_concat
    (width : Nat)
    (stream : List (Arrival R))
    (newest : Arrival R)
    (lag : Nat) :
    directRow width (stream ++ [newest]) lag =
      match (newest :: stream.reverse)[lag]? with
      | some older => (directRow width stream lag).addArrivals (older, newest)
      | none => directRow width stream lag := by
  by_cases near : lag ≤ stream.length
  · rcases zip_drop_concat stream newest near with ⟨older, found, pairs⟩
    rw [found, directRow, pairs, List.foldl_append]
    rfl
  · have beyond : (newest :: stream.reverse)[lag]? = none := by
      rw [List.getElem?_eq_none_iff, List.length_cons, List.length_reverse]
      omega
    have none : stream.drop lag = [] := List.drop_eq_nil_of_le (by omega)
    have noneYet : (stream ++ [newest]).drop lag = [] :=
      List.drop_eq_nil_of_le
        (by rw [List.length_append, List.length_singleton]; omega)
    rw [beyond, directRow, directRow, none, noneYet, List.zip_nil_right,
      List.zip_nil_right]

/-- A stream has as many pairs at a lag as it has values behind the lag. -/
theorem count_directRow
    (width : Nat)
    (stream : List (Arrival R))
    (lag : Nat) :
    (directRow width stream lag).count = stream.length - lag := by
  rw [directRow, count_foldl_addArrivals, List.length_zip, List.length_drop]
  simp only [Row.empty]
  omega

end RunningStatistics
