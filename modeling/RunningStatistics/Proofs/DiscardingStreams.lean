import RunningStatistics.Proofs.Finalization
import Mathlib.Logic.Relation
import Mathlib.Tactic.Ring

/-!
# Streams under a discarding rule

A rule that discards one of two values leaves every level with samples of the
raw stream.  Which one stands for a block of `2 ^ level` samples depends on the
rule: the first sample of the block, or the last one.

While a run goes on all blocks are full, so that two places of a stream which
are a lag apart stem from two raw samples which are the lag of the row apart.
At the end of a run the last block of a level may fall short.  Its first sample
is where it would be in a full block, but its last one is the last sample of the
run, so that under one rule the lag stays exact and under the other it is too
short.
-/

namespace RunningStatistics

open Relation (ReflTransGen)

/-! ## Discarding rules -/

namespace Compression

variable {R : Type}

/--
Samples are reduced by keeping one of them, the same one for both streams.
-/
def Discards
    (rule : Compression)
    (reduce : Sample R → Sample R → Sample R) : Prop :=
  match rule with
  | keepOlder => ∀ older newer, reduce older newer = older
  | keepNewer => ∀ older newer, reduce older newer = newer
  | average => False

/--
The place, in a raw stream of some length, of the sample that stands for a block
of a level: the first one of the block, or else its last one, which in an
unfinished block is the last one at all.
-/
def keptTime (rule : Compression) (length level index : Nat) : Nat :=
  match rule with
  | keepOlder => index * 2 ^ level
  | _ => min ((index + 1) * 2 ^ level) length - 1

theorem keptTime_zero
    {rule : Compression}
    {length index : Nat}
    (within : index < length) :
    rule.keptTime length 0 index = index := by
  cases rule with
  | keepOlder => simp [keptTime]
  | keepNewer =>
      simp only [keptTime]
      omega
  | average =>
      simp only [keptTime]
      omega

theorem keptTime_keepOlder_succ (length level index : Nat) :
    keepOlder.keptTime length (level + 1) index =
      keepOlder.keptTime length level (2 * index) := by
  rw [keptTime, keptTime, Nat.pow_succ]
  ring

theorem keptTime_keepNewer_succ (length level index : Nat) :
    keepNewer.keptTime length (level + 1) index =
      keepNewer.keptTime length level (2 * index + 1) := by
  have doubled :
      (index + 1) * 2 ^ (level + 1) = (2 * index + 1 + 1) * 2 ^ level := by
    rw [Nat.pow_succ]
    ring
  simp only [keptTime, doubled]

/--
Where no block follows, the last one reaches as far as a block of twice its
length.
-/
theorem keptTime_keepNewer_last
    {length level index : Nat}
    (last : (length + 2 ^ level - 1) / 2 ^ level ≤ 2 * index + 1) :
    keepNewer.keptTime length (level + 1) index =
      keepNewer.keptTime length level (2 * index) := by
  have positive : 0 < 2 ^ level := Nat.two_pow_pos level
  have reached : length ≤ (2 * index + 1) * 2 ^ level := by
    have below : length + 2 ^ level - 1 < (2 * index + 1 + 1) * 2 ^ level :=
      (Nat.div_lt_iff_lt_mul positive).mp (Nat.lt_succ_of_le last)
    rw [Nat.succ_mul] at below
    omega
  rw [keptTime_keepNewer_succ]
  simp only [keptTime]
  rw [Nat.min_eq_right reached, Nat.min_eq_right]
  rw [Nat.succ_mul]
  exact Nat.le_add_right_of_le reached

/--
In full blocks, the samples that are kept are as far apart as their blocks.
-/
theorem keptTime_add
    (rule : Compression)
    {length level index lag : Nat}
    (full : lag + index < length / 2 ^ level) :
    rule.keptTime length level (lag + index) =
      rule.keptTime length level index + lag * 2 ^ level := by
  have positive : 0 < 2 ^ level := Nat.two_pow_pos level
  have later : (lag + index + 1) * 2 ^ level ≤ length :=
    Nat.mul_le_of_le_div _ _ _ full
  have apart :
      (lag + index + 1) * 2 ^ level =
        lag * 2 ^ level + (index + 1) * 2 ^ level := by
    ring
  have nonempty : 2 ^ level ≤ (index + 1) * 2 ^ level :=
    Nat.le_mul_of_pos_left _ (by omega)
  have newest : min ((lag + index + 1) * 2 ^ level) length - 1 =
      min ((index + 1) * 2 ^ level) length - 1 + lag * 2 ^ level := by
    omega
  cases rule with
  | keepOlder =>
      simp only [keptTime]
      ring
  | keepNewer => exact newest
  | average => exact newest

end Compression

theorem Config.discards_reduce
    {R : Type}
    [Scalar R]
    [Exponential R]
    {config : Config R}
    {rule : Compression}
    (discarding : rule ≠ .average)
    (ruleA : config.compressionA = rule)
    (ruleB : config.effectiveCompressionB = rule) :
    rule.Discards config.rules.reduce := by
  cases rule with
  | keepOlder =>
      intro older newer
      rw [rules, ruleA, ruleB]
      rfl
  | keepNewer =>
      intro older newer
      rw [rules, ruleA, ruleB]
      rfl
  | average => exact discarding rfl

/-! ## The places of a stream -/

theorem getElem?_halveAll
    {α : Type}
    (reduce : α → α → α)
    (close : α → α)
    (stream : List α)
    (index : Nat) :
    (halveAll reduce close stream)[index]? =
      match stream[2 * index]?, stream[2 * index + 1]? with
      | some older, some newer => some (reduce older newer)
      | some waiting, none => some (close waiting)
      | none, _ => none := by
  fun_induction halveAll reduce close stream generalizing index with
  | case1 older newer rest hypothesis =>
      cases index with
      | zero => rfl
      | succ index =>
          rw [List.getElem?_cons_succ, hypothesis]
          rfl
  | case2 waiting =>
      cases index with
      | zero => rfl
      | succ index => rfl
  | case3 => rfl

section Streams

variable
    {R : Type}
    {rules : Rules R}
    {raw : List (Arrival R)}
    {rule : Compression}
    {level : Nat}

/--
Every sample of a level is a raw one: the sample that the rule keeps of its
block.
-/
theorem exists_kept
    (discards : rule.Discards rules.reduce)
    {index : Nat}
    {arrival : Arrival R}
    (present : (finalStream rules raw level)[index]? = some arrival) :
    ∃ kept,
      raw[rule.keptTime raw.length level index]? = some kept ∧
      arrival.sample = kept.sample := by
  induction level generalizing index arrival with
  | zero =>
      have within : index < raw.length :=
        (List.getElem?_eq_some_iff.mp present).1
      rw [Compression.keptTime_zero within]
      exact ⟨arrival, present, rfl⟩
  | succ level hypothesis =>
      rw [finalStream, getElem?_halveAll] at present
      split at present
      next older newer first second =>
        cases present
        cases rule with
        | keepOlder =>
            rw [Compression.keptTime_keepOlder_succ]
            rcases hypothesis first with ⟨kept, stands, same⟩
            exact ⟨kept, stands, (discards _ _).trans same⟩
        | keepNewer =>
            rw [Compression.keptTime_keepNewer_succ]
            rcases hypothesis second with ⟨kept, stands, same⟩
            exact ⟨kept, stands, (discards _ _).trans same⟩
        | average => exact discards.elim
      next waiting first second =>
        cases present
        rcases hypothesis first with ⟨kept, stands, same⟩
        cases rule with
        | keepOlder =>
            rw [Compression.keptTime_keepOlder_succ]
            exact ⟨kept, stands, (discards _ _).trans same⟩
        | keepNewer =>
            rw [List.getElem?_eq_none_iff, length_finalStream] at second
            rw [Compression.keptTime_keepNewer_last second]
            exact ⟨kept, stands, (discards _ _).trans same⟩
        | average => exact discards.elim
      next => cases present

/--
Ending a run adds at most one arrival to a stream, under the terms in force at
the end.
-/
theorem exists_finalStream_eq
    (rules : Rules R)
    (raw : List (Arrival R))
    (level : Nat) :
    ∃ rest : Option (Arrival R),
      finalStream rules raw level =
        levelStream rules.reduce raw level ++ rest.toList ∧
      ∀ last ∈ rest, last.terms = rules.terms := by
  induction level with
  | zero =>
      refine ⟨none, ?_, nofun⟩
      rw [finalStream, levelStream, Option.toList_none, List.append_nil]
  | succ level hypothesis =>
      rcases hypothesis with ⟨rest, stream, terms⟩
      rw [finalStream, levelStream, stream, halveAll_eq]
      cases rest with
      | none =>
          rw [Option.toList_none, List.append_nil]
          refine ⟨_, rfl, ?_⟩
          intro last member
          rcases Option.map_eq_some_iff.mp member with ⟨waiting, _, rfl⟩
          rfl
      | some carried =>
          rw [Option.toList_some, halve_concat, lone_concat]
          cases lone (levelStream rules.reduce raw level) with
          | none =>
              refine ⟨some (carried.close rules), ?_, ?_⟩
              · simp
              · intro last member
                cases member
                rfl
          | some waiting =>
              refine ⟨some (Arrival.reduce rules.reduce waiting carried),
                ?_, ?_⟩
              · simp
              · intro last member
                cases member
                exact terms carried rfl

/--
The stream of a level goes on in the stream that the end of the run leads to.
-/
theorem getElem?_finalStream
    {index : Nat}
    {arrival : Arrival R}
    (present : (levelStream rules.reduce raw level)[index]? = some arrival) :
    (finalStream rules raw level)[index]? = some arrival := by
  rcases exists_finalStream_eq rules raw level with ⟨rest, stream, _⟩
  have within := (List.getElem?_eq_some_iff.mp present).1
  rw [stream, List.getElem?_append_left within]
  exact present

/-- The terms of a level's arrival are those of some raw one. -/
theorem exists_terms
    {reduce : Sample R → Sample R → Sample R}
    {arrival : Arrival R}
    (member : arrival ∈ levelStream reduce raw level) :
    ∃ latest ∈ raw, arrival.terms = latest.terms := by
  induction level generalizing arrival with
  | zero => exact ⟨arrival, member, rfl⟩
  | succ level hypothesis =>
      have inherited : ∀ arrival ∈ levelStream reduce raw (level + 1),
          ∃ latest ∈ raw, arrival.terms = latest.terms :=
        forall_mem_halve (fun _ _ _ newer => newer) fun _ => hypothesis
      exact inherited arrival member

end Streams

/-! ## What a row gains -/

section Rows

variable {R : Type} [Scalar R]

namespace Row

/--
A row gains the terms of two raw samples: an earlier one of A and a later one of
B.
-/
def Gains
    (raw : List (Arrival R))
    (terms : List R → List R → List R)
    (earlier later : Nat)
    (row next : Row R) : Prop :=
  ∃ older newer, raw[earlier]? = some older ∧ raw[later]? = some newer ∧
    next = row.add (terms older.sample.a newer.sample.b)

/--
A row gains the terms of raw samples that are a number of sampling intervals
apart.
-/
def GainsAcross
    (raw : List (Arrival R))
    (steps : Nat)
    (row next : Row R) : Prop :=
  ∃ latest ∈ raw, ∃ time, Gains raw latest.terms time (time + steps) row next

end Row

theorem reflTransGen_foldl
    {related : Row R → Row R → Prop}
    {pairs : List (Arrival R × Arrival R)}
    (each : ∀ pair ∈ pairs, ∀ row, related row (row.addArrivals pair))
    (row : Row R) :
    ReflTransGen related row (pairs.foldl Row.addArrivals row) := by
  induction pairs generalizing row with
  | nil => exact .refl
  | cons pair rest hypothesis =>
      rw [List.forall_mem_cons] at each
      exact .head (each.1 row) (hypothesis each.2 _)

variable
    {rules : Rules R}
    {raw : List (Arrival R)}
    {rule : Compression}
    {level : Nat}

/--
While a run goes on, each contribution to a row comes from samples that are its
lag apart.
-/
theorem gainsAcross_levelStream
    (discards : rule.Discards rules.reduce)
    (width lag : Nat) :
    ReflTransGen (Row.GainsAcross raw (lag * 2 ^ level)) (Row.empty width)
      (directRow width (levelStream rules.reduce raw level) lag) := by
  apply reflTransGen_foldl
  rintro ⟨first, second⟩ member row
  rcases List.mem_iff_getElem?.mp member with ⟨index, paired⟩
  rw [List.getElem?_zip_eq_some, List.getElem?_drop] at paired
  rcases paired with ⟨stands, later⟩
  rcases exists_kept discards (getElem?_finalStream stands) with
    ⟨older, atOlder, sameOlder⟩
  rcases exists_kept discards (getElem?_finalStream later) with
    ⟨newer, atNewer, sameNewer⟩
  rcases exists_terms (List.mem_of_getElem? later) with ⟨latest, among, terms⟩
  refine ⟨latest, among, rule.keptTime raw.length level index, older, newer,
    atOlder, ?_, ?_⟩
  · have within := (List.getElem?_eq_some_iff.mp later).1
    rw [length_levelStream] at within
    rw [← rule.keptTime_add within]
    exact atNewer
  · rw [Row.addArrivals, terms, sameOlder, sameNewer]

/--
Ending a run adds at most one contribution to a row: that of the last arrival of
the stream.
-/
theorem directRow_finalStream
    (rules : Rules R)
    (raw : List (Arrival R))
    (level width lag : Nat) :
    directRow width (finalStream rules raw level) lag =
      directRow width (levelStream rules.reduce raw level) lag ∨
    ¬2 ^ level ∣ raw.length ∧
    lag ≤ raw.length / 2 ^ level ∧
    ∃ older last,
      (finalStream rules raw level)[raw.length / 2 ^ level - lag]? =
        some older ∧
      (finalStream rules raw level)[raw.length / 2 ^ level]? = some last ∧
      directRow width (finalStream rules raw level) lag =
        (directRow width (levelStream rules.reduce raw level) lag).add
          (rules.terms older.sample.a last.sample.b) := by
  rcases exists_finalStream_eq rules raw level with ⟨rest, stream, terms⟩
  have length := length_finalStream rules raw level
  rw [stream, List.length_append, length_levelStream] at length
  have unfinished : rest.isSome → ¬2 ^ level ∣ raw.length := by
    rintro some ⟨blocks, whole⟩
    have positive : 0 < 2 ^ level := Nat.two_pow_pos level
    rw [Option.length_toList, if_pos some, whole,
      Nat.mul_div_cancel_left _ positive, Nat.add_sub_assoc positive,
      Nat.mul_add_div positive,
      Nat.div_eq_of_lt (Nat.sub_lt positive Nat.one_pos)] at length
    omega
  rw [stream, ← length_levelStream rules.reduce]
  generalize levelStream rules.reduce raw level = earlier
  cases rest with
  | none =>
      rw [Option.toList_none, List.append_nil]
      exact .inl rfl
  | some last =>
      rw [Option.toList_some, directRow_concat]
      cases found : (last :: earlier.reverse)[lag]? with
      | none => exact .inl rfl
      | some older =>
          right
          have within : lag ≤ earlier.length := by
            have bound := (List.getElem?_eq_some_iff.mp found).1
            rw [List.length_cons, List.length_reverse] at bound
            exact Nat.le_of_lt_succ bound
          refine ⟨unfinished rfl, within, older, last, ?_, ?_, ?_⟩
          · rw [← List.reverse_concat, List.getElem?_reverse (by simp; omega)]
              at found
            simpa using found
          · rw [List.getElem?_append_right (Nat.le_refl _), Nat.sub_self]
            rfl
          · rw [← terms last rfl]
            rfl

/--
Where the first sample of a block is kept, the end of a run keeps all lags
exact.
-/
theorem gains_finalStream_keepOlder
    (discards : Compression.Discards .keepOlder rules.reduce)
    (width lag : Nat) :
    directRow width (finalStream rules raw level) lag =
      directRow width (levelStream rules.reduce raw level) lag ∨
    ∃ time,
      Row.Gains raw rules.terms time (time + lag * 2 ^ level)
        (directRow width (levelStream rules.reduce raw level) lag)
        (directRow width (finalStream rules raw level) lag) := by
  rcases directRow_finalStream rules raw level width lag with
    same | ⟨_, within, older, last, atOlder, atLast, gained⟩
  · exact .inl same
  right
  rcases exists_kept discards atOlder with ⟨earlier, stands, sameOlder⟩
  rcases exists_kept discards atLast with ⟨later, ends, sameLast⟩
  refine ⟨(raw.length / 2 ^ level - lag) * 2 ^ level, earlier, later, stands,
    ?_, ?_⟩
  · have apart : (raw.length / 2 ^ level - lag) * 2 ^ level + lag * 2 ^ level =
        raw.length / 2 ^ level * 2 ^ level := by
      rw [← Nat.add_mul, Nat.sub_add_cancel within]
    rw [apart]
    exact ends
  · rw [gained, sameOlder, sameLast]

/--
Where the last sample of a block is kept, the end of a run makes a lag too short
by what the last block lacks: the later sample is the last one of the run.
-/
theorem gains_finalStream_keepNewer
    (discards : Compression.Discards .keepNewer rules.reduce)
    (width : Nat)
    {lag : Nat}
    (apart : level ≠ 0 → 0 < lag) :
    directRow width (finalStream rules raw level) lag =
      directRow width (levelStream rules.reduce raw level) lag ∨
    ¬2 ^ level ∣ raw.length ∧
    ∃ time,
      time + lag * 2 ^ level + 1 = (raw.length / 2 ^ level + 1) * 2 ^ level ∧
      Row.Gains raw rules.terms time (raw.length - 1)
        (directRow width (levelStream rules.reduce raw level) lag)
        (directRow width (finalStream rules raw level) lag) := by
  rcases directRow_finalStream rules raw level width lag with
    same | ⟨unfinished, within, older, last, atOlder, atLast, gained⟩
  · exact .inl same
  right
  have positive : 0 < 2 ^ level := Nat.two_pow_pos level
  have coarse : 0 < lag := by
    apply apart
    rintro rfl
    exact unfinished (one_dvd _)
  rcases exists_kept discards atOlder with ⟨earlier, stands, sameOlder⟩
  rcases exists_kept discards atLast with ⟨later, ends, sameLast⟩
  have before : (raw.length / 2 ^ level - lag + 1) * 2 ^ level ≤ raw.length :=
    Nat.mul_le_of_le_div _ _ _ (by omega)
  have after : raw.length ≤ (raw.length / 2 ^ level + 1) * 2 ^ level :=
    Nat.le_of_lt (Nat.lt_mul_of_div_lt (Nat.lt_succ_self _) positive)
  have nonempty : 2 ^ level ≤ (raw.length / 2 ^ level - lag + 1) * 2 ^ level :=
    Nat.le_mul_of_pos_left _ (Nat.succ_pos _)
  have blocks :
      (raw.length / 2 ^ level - lag + 1) * 2 ^ level + lag * 2 ^ level =
        (raw.length / 2 ^ level + 1) * 2 ^ level := by
    rw [← Nat.add_mul]
    congr 1
    omega
  simp only [Compression.keptTime, Nat.min_eq_left before] at stands
  simp only [Compression.keptTime, Nat.min_eq_right after] at ends
  refine ⟨unfinished, (raw.length / 2 ^ level - lag + 1) * 2 ^ level - 1,
    by omega, earlier, later, stands, ends, ?_⟩
  rw [gained, sameOlder, sameLast]

end Rows

end RunningStatistics
