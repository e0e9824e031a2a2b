/-!
# Compression rules

A compression rule reduces two values that follow one another in a stream to
one value of the next coarser level.
-/

namespace RunningStatistics

/-- How two neighbouring values are reduced to one. -/
inductive Compression where
  | keepOlder
  | keepNewer
  | average
  deriving DecidableEq

namespace Compression

/-- The rule used where none is chosen. -/
def standard : Compression :=
  keepOlder

/--
The name by which a rule is chosen: what it discards, counted from the older
value.
-/
def name : Compression → String
  | keepOlder => "discard2"
  | keepNewer => "discard1"
  | average => "linear"

/-- All rules. -/
def all : List Compression :=
  [keepOlder, keepNewer, average]

/-- The rule of a name, which has to be spelled exactly. -/
def ofName? (name : String) : Option Compression :=
  all.find? (·.name == name)

theorem mem_all (rule : Compression) : rule ∈ all := by
  cases rule <;> simp [all]

theorem name_injective
    {left right : Compression}
    (equal : left.name = right.name) :
    left = right := by
  revert equal
  cases left <;> cases right <;> decide

@[simp]
theorem ofName?_name (rule : Compression) : ofName? rule.name = some rule := by
  cases rule <;> decide

/-- A name chooses the rule that bears it, and no other name chooses one. -/
theorem ofName?_eq_some_iff
    {name : String}
    {rule : Compression} :
    ofName? name = some rule ↔ rule.name = name := by
  constructor
  · intro found
    rw [ofName?] at found
    simpa using List.find?_some found
  · rintro rfl
    exact ofName?_name rule

end Compression

end RunningStatistics
