import RunningStatistics.Correlation.Config
import RunningStatistics.Document

/-!
# Stored configurations

A configuration is stored as a document with a name for every parameter.  It is
also read from the list of all parameters in a fixed order.  Reading does not
check the values, so a configuration can be stored that no correlator accepts.

An operation or a rule is stored under a name that is made of the words which
describe it.  A scalar that is not a finite number cannot be stored.  All other
configurations are read back as they were: `ofDocument?_toDocument`.
-/

namespace RunningStatistics

variable {R : Type}

/-! ## Stored names -/

/--
Words that begin with capitals as one name in small letters, with underscores
between them.
-/
def snakeCase (words : String) : String :=
  match words.toList with
  | [] => ""
  | first :: rest =>
      String.ofList (first.toLower :: rest.flatMap fun letter =>
        if letter.isUpper then ['_', letter.toLower] else [letter])

namespace Document

variable {α : Type}

/-- A choice by the name that its words make. -/
def ofChoice (words : α → String) (choice : α) : Document R :=
  .text (snakeCase (words choice))

/-- Read which of the choices has a stored name. -/
def choose?
    (words : α → String)
    (choices : List α)
    (document : Document R) :
    Option α :=
  document.choice?.bind fun name =>
    choices.find? fun choice => snakeCase (words choice) == name

/-- A choice is read back from what is written of it. -/
theorem choose?_ofChoice
    {words : α → String}
    {choices : List α}
    (distinct :
      ∀ left right,
        snakeCase (words left) = snakeCase (words right) → left = right)
    {choice : α}
    (member : choice ∈ choices) :
    choose? words choices (ofChoice words choice : Document R) =
      some choice := by
  show
    (choices.find? fun other =>
      snakeCase (words other) == snakeCase (words choice)) =
      some choice
  cases found : choices.find? fun other => snakeCase (words other) == snakeCase
    (words choice) with
  | none => simpa using List.find?_eq_none.mp found choice member
  | some other =>
      rw [distinct other choice (by simpa using List.find?_some found)]

end Document

namespace Operation

/-- The words that make the stored name of an operation. -/
def words : Operation → String
  | scalarProduct => "ScalarProduct"
  | componentwiseProduct => "ComponentwiseProduct"
  | squareDistance => "SquareDistanceComponentwise"
  | tensorProduct => "TensorProduct"
  | fluorescence => "FcsAcf"

/-- An operation as its name. -/
def toDocument (operation : Operation) : Document R :=
  .ofChoice words operation

/-- Read the name of an operation. -/
def ofDocument? (document : Document R) : Option Operation :=
  document.choose? words all

/-- An operation is stored under the name by which it is chosen. -/
@[simp]
theorem snakeCase_words (operation : Operation) :
    snakeCase operation.words = operation.name := by
  cases operation <;> rfl

@[simp]
theorem ofDocument?_toDocument (operation : Operation) :
    ofDocument? (operation.toDocument : Document R) = some operation := by
  apply Document.choose?_ofChoice _ (mem_all operation)
  intro left right equal
  exact name_injective (by simpa using equal)

end Operation

namespace Compression

/-- The words that make the stored name of a rule. -/
def words : Compression → String
  | keepOlder => "Discard2"
  | keepNewer => "Discard1"
  | average => "Linear"

/-- A rule as its name. -/
def toDocument (rule : Compression) : Document R :=
  .ofChoice words rule

/-- A rule that may be absent, which is written as null. -/
def optionToDocument (rule : Option Compression) : Document R :=
  match rule with
  | some rule => rule.toDocument
  | none => .null

/-- Read the name of a rule. -/
def ofDocument? (document : Document R) : Option Compression :=
  document.choose? words all

/-- Read a rule that may be absent. -/
def optionOfDocument? : Document R → Option (Option Compression)
  | .null => some none
  | document => (ofDocument? document).map some

/-- A rule is stored under the name by which it is chosen. -/
@[simp]
theorem snakeCase_words (rule : Compression) :
    snakeCase rule.words = rule.name := by
  cases rule <;> rfl

@[simp]
theorem ofDocument?_toDocument (rule : Compression) :
    ofDocument? (rule.toDocument : Document R) = some rule := by
  apply Document.choose?_ofChoice _ (mem_all rule)
  intro left right equal
  exact name_injective (by simpa using equal)

@[simp]
theorem optionOfDocument?_optionToDocument (rule : Option Compression) :
    optionOfDocument? (optionToDocument rule : Document R) = some rule := by
  cases rule with
  | none => rfl
  | some rule => exact congrArg (Option.map some) (ofDocument?_toDocument rule)

end Compression

variable [Scalar R]

namespace Axes

/-- Three scalars as a list. -/
def toDocument (axes : Axes R) : Document R :=
  .list (axes.toList.map .ofScalar)

/-- Read a list of exactly three scalars. -/
def ofDocument? : Document R → Option (Axes R)
  | .list [x, y, z] => do
      return ⟨← x.scalar?, ← y.scalar?, ← z.scalar?⟩
  | _ => none

/-- All three values are numbers. -/
def IsFinite (axes : Axes R) : Prop :=
  ∀ value ∈ axes.toList, Scalar.isFinite value = true

theorem isFinite_iff {axes : Axes R} :
    axes.IsFinite ↔
      Scalar.isFinite axes.x = true ∧
      Scalar.isFinite axes.y = true ∧
      Scalar.isFinite axes.z = true := by
  simp [IsFinite, toList]

theorem ofDocument?_toDocument
    {axes : Axes R}
    (finite : axes.IsFinite) :
    ofDocument? axes.toDocument = some axes := by
  rcases isFinite_iff.mp finite with ⟨x, y, z⟩
  simp [toDocument, toList, ofDocument?, Document.scalar?_ofScalar x,
    Document.scalar?_ofScalar y, Document.scalar?_ofScalar z]

theorem isFinite_of_ofDocument?
    {axes found : Axes R}
    (read : ofDocument? axes.toDocument = some found) : axes.IsFinite := by
  rcases Option.bind_eq_some_iff.mp read with ⟨x, readX, read⟩
  rcases Option.bind_eq_some_iff.mp read with ⟨y, readY, read⟩
  rcases Option.bind_eq_some_iff.mp read with ⟨z, readZ, _⟩
  exact isFinite_iff.mpr ⟨(Document.scalar?_ofScalar_eq_some_iff.mp readX).1,
    (Document.scalar?_ofScalar_eq_some_iff.mp readY).1,
    (Document.scalar?_ofScalar_eq_some_iff.mp readZ).1⟩

end Axes

namespace Config

/-! ## Writing and reading -/

/-- The parameters in order, each with the name of its field. -/
def entries (config : Config R) : List (String × Document R) :=
  [("tau_max", .ofScalar config.largestLag),
    ("time_step", .ofScalar config.timeStep),
    ("tau_lin", .whole config.linearWidth),
    ("operation", config.operation.toDocument),
    ("compress1", config.compressionA.toDocument),
    ("compress2", Compression.optionToDocument config.compressionB),
    ("args", config.arguments.toDocument)]

/-- A configuration with a name for every parameter. -/
def toDocument (config : Config R) : Document R :=
  .fields config.entries

/-- Read the parameters one by one. -/
def ofParts?
    (largestLag timeStep linearWidth : Document R)
    (operation compressionA compressionB arguments : Document R) :
    Option (Config R) := do
  return {
    largestLag := ← largestLag.scalar?
    timeStep := ← timeStep.scalar?
    linearWidth := ← linearWidth.whole?
    operation := ← Operation.ofDocument? operation
    compressionA := ← Compression.ofDocument? compressionA
    compressionB := ← Compression.optionOfDocument? compressionB
    arguments := ← Axes.ofDocument? arguments }

/--
Read a configuration from either form.

Of the named parameters only the rule for the stream B may be missing; fields
of other names are ignored.
-/
def ofDocument? (document : Document R) : Option (Config R) :=
  match document with
  | .list [largestLag, timeStep, linearWidth, operation,
      compressionA, compressionB, arguments] =>
      ofParts? largestLag timeStep linearWidth operation compressionA
        compressionB arguments
  | .fields _ => do
      ofParts? (← document.field? "tau_max") (← document.field? "time_step")
        (← document.field? "tau_lin") (← document.field? "operation")
        (← document.field? "compress1")
        ((document.field? "compress2").getD .null)
        (← document.field? "args")
  | _ => none

/-- Whether a configuration is read back unchanged after it was stored. -/
def survivesStorage [DecidableEq R] (config : Config R) : Bool :=
  decide (ofDocument? config.toDocument = some config)

/-! ## Reading back -/

/-- All scalars of a configuration are numbers. -/
structure IsFinite (config : Config R) : Prop where
  largestLag : Scalar.isFinite config.largestLag = true
  timeStep : Scalar.isFinite config.timeStep = true
  arguments : config.arguments.IsFinite

variable {config : Config R}

/--
A configuration is read from its parts if each parameter is read from its own
part.
-/
theorem ofParts?_eq_some_iff
    {largestLag timeStep linearWidth : Document R}
    {operation compressionA compressionB arguments : Document R} :
    ofParts? largestLag timeStep linearWidth operation compressionA compressionB
          arguments =
        some config ↔
      largestLag.scalar? = some config.largestLag ∧
      timeStep.scalar? = some config.timeStep ∧
      linearWidth.whole? = some config.linearWidth ∧
      Operation.ofDocument? operation = some config.operation ∧
      Compression.ofDocument? compressionA = some config.compressionA ∧
      Compression.optionOfDocument? compressionB = some config.compressionB ∧
      Axes.ofDocument? arguments = some config.arguments := by
  constructor
  · intro read
    rcases Option.bind_eq_some_iff.mp read with ⟨_, lag, read⟩
    rcases Option.bind_eq_some_iff.mp read with ⟨_, step, read⟩
    rcases Option.bind_eq_some_iff.mp read with ⟨_, width, read⟩
    rcases Option.bind_eq_some_iff.mp read with ⟨_, name, read⟩
    rcases Option.bind_eq_some_iff.mp read with ⟨_, ruleA, read⟩
    rcases Option.bind_eq_some_iff.mp read with ⟨_, ruleB, read⟩
    rcases Option.bind_eq_some_iff.mp read with ⟨_, axes, read⟩
    cases read
    exact ⟨lag, step, width, name, ruleA, ruleB, axes⟩
  · rintro ⟨lag, step, width, name, ruleA, ruleB, axes⟩
    simp [ofParts?, lag, step, width, name, ruleA, ruleB, axes]

/-- The parts of a configuration of finite scalars are read back as it was. -/
theorem ofParts?_parts (finite : config.IsFinite) :
    ofParts? (.ofScalar config.largestLag) (.ofScalar config.timeStep)
        (.whole config.linearWidth) config.operation.toDocument
        config.compressionA.toDocument
        (Compression.optionToDocument config.compressionB)
        config.arguments.toDocument =
      some config :=
  ofParts?_eq_some_iff.mpr
    ⟨Document.scalar?_ofScalar finite.largestLag,
      Document.scalar?_ofScalar finite.timeStep, rfl,
      Operation.ofDocument?_toDocument _, Compression.ofDocument?_toDocument _,
      Compression.optionOfDocument?_optionToDocument _,
      Axes.ofDocument?_toDocument finite.arguments⟩

theorem ofDocument?_toDocument (finite : config.IsFinite) :
    ofDocument? config.toDocument = some config :=
  ofParts?_parts finite

/--
Only a configuration whose scalars are numbers can be read after it was stored.
-/
theorem isFinite_of_ofDocument?
    {found : Config R}
    (read : ofDocument? config.toDocument = some found) : config.IsFinite := by
  rcases ofParts?_eq_some_iff.mp read with ⟨lag, step, _, _, _, _, axes⟩
  exact ⟨(Document.scalar?_ofScalar_eq_some_iff.mp lag).1,
    (Document.scalar?_ofScalar_eq_some_iff.mp step).1,
    Axes.isFinite_of_ofDocument? axes⟩

end Config

end RunningStatistics
