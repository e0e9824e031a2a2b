import RunningStatistics.Correlation.Stored
import RunningStatistics.Proofs.LagTimes

/-!
# Configurations in store

A document can be stored if its scalars are numbers, its whole numbers fit into
a word and no record has two fields of one name.  What can be read as a
configuration is then one of two things: the list of the seven parameters in
their order, or a record with a field for each of them, in any order and among
fields of other names, where the rule for the stream B may be null or missing.
It only matters which value stands for which parameter.

A configuration that was read is written as a document that can be stored, and
it is read back as it was.  So is every other configuration whose scalars are
numbers, sound or not.

Configurations with other scalars are not read back.  The names in store are
those by which operations and rules are chosen, and no other name is accepted.
-/

namespace RunningStatistics

/-! ## Fields of a record -/

section Fields

variable
    {α : Type}
    {entries others listed : List (String × α)}
    {name : String}
    {value : α}

/-- A field that is the only one of its name is the one that is found. -/
theorem lookup_eq_some_iff_mem
    (unique :
      ∀ left right,
        (name, left) ∈ entries → (name, right) ∈ entries → left = right) :
    entries.lookup name = some value ↔ (name, value) ∈ entries := by
  constructor
  · intro found
    rcases List.lookup_eq_some_iff.mp found with ⟨before, after, same, _⟩
    simp [same]
  · intro member
    cases found : entries.lookup name with
    | none => simpa using List.lookup_eq_none_iff.mp found _ member
    | some other =>
        rcases List.lookup_eq_some_iff.mp found with ⟨before, after, same, _⟩
        rw [unique other value (by simp [same]) member]

theorem unique_of_distinct
    (distinct : (entries.map (·.1)).Nodup)
    (left right : α)
    (memberLeft : (name, left) ∈ entries)
    (memberRight : (name, right) ∈ entries) :
    left = right :=
  congrArg Prod.snd
    (List.inj_on_of_nodup_map distinct memberLeft memberRight rfl)

/--
Neither the order of fields nor fields of other names matter to what is found.
-/
theorem lookup_of_shuffled
    (distinct : (listed.map (·.1)).Nodup)
    (shuffled : entries.Perm (listed ++ others))
    (unknown : ∀ entry ∈ others, entry.1 ≠ name) :
    entries.lookup name = listed.lookup name := by
  have member : ∀ value, (name, value) ∈ entries ↔ (name, value) ∈ listed := by
    intro value
    rw [shuffled.mem_iff, List.mem_append, or_iff_left]
    exact fun other => unknown _ other rfl
  apply Option.ext
  intro value
  rw [lookup_eq_some_iff_mem (unique_of_distinct distinct),
    lookup_eq_some_iff_mem, member]
  intro left right memberLeft memberRight
  exact unique_of_distinct distinct left right ((member left).mp memberLeft)
    ((member right).mp memberRight)

/--
A record consists of its fields of certain names, in any order, and of all other
fields.
-/
theorem shuffled_of_lookups
    {names : List String}
    (distinct : (entries.map (·.1)).Nodup)
    (distinct' : (listed.map (·.1)).Nodup)
    (within : ∀ entry ∈ listed, entry.1 ∈ names)
    (same : ∀ name ∈ names, entries.lookup name = listed.lookup name) :
    entries.Perm
      (listed ++ entries.filter fun entry => !decide (entry.1 ∈ names)) := by
  have known :
      (entries.filter fun entry => decide (entry.1 ∈ names)).Perm listed := by
    apply (List.perm_ext_iff_of_nodup ((distinct.of_map _).filter _)
        (distinct'.of_map _)).mpr
    rintro ⟨name, value⟩
    rw [List.mem_filter, decide_eq_true_iff]
    constructor
    · rintro ⟨member, among⟩
      rw [← lookup_eq_some_iff_mem (unique_of_distinct distinct),
        same name among] at member
      exact (lookup_eq_some_iff_mem (unique_of_distinct distinct')).mp member
    · intro member
      have among := within _ member
      refine ⟨?_, among⟩
      rw [← lookup_eq_some_iff_mem (unique_of_distinct distinct),
        same name among]
      exact (lookup_eq_some_iff_mem (unique_of_distinct distinct')).mpr member
  exact (List.filter_append_perm _ entries).symm.trans (known.append_right _)

end Fields

variable {R : Type} [Scalar R]

/-! ## Documents that can be stored -/

/--
A document of numbers and words, in which no record has two fields of one name.
-/
inductive Document.IsStorable : Document R → Prop where
  | null : IsStorable .null
  | flag (value : Bool) : IsStorable (.flag value)
  | whole {value : Nat} (small : value < 2 ^ 64) : IsStorable (.whole value)
  | number {value : R} (finite : Scalar.isFinite value = true) :
      IsStorable (.number value)
  | text (value : String) : IsStorable (.text value)
  | list {items : List (Document R)}
      (storable : ∀ item ∈ items, IsStorable item) :
      IsStorable (.list items)
  | fields {entries : List (String × Document R)}
      (distinct : (entries.map (·.1)).Nodup)
      (storable : ∀ entry ∈ entries, IsStorable entry.2) :
      IsStorable (.fields entries)

namespace Document.IsStorable

variable {document : Document R}

theorem item
    {items : List (Document R)}
    (storable : IsStorable (.list items))
    {item : Document R}
    (member : item ∈ items) : item.IsStorable := by
  cases storable with
  | list storable => exact storable item member

theorem found
    {entries : List (String × Document R)}
    (storable : IsStorable (.fields entries))
    {name : String}
    {value : Document R}
    (found : entries.lookup name = some value) : value.IsStorable := by
  cases storable with
  | fields distinct storable =>
      exact storable _
        ((lookup_eq_some_iff_mem (unique_of_distinct distinct)).mp found)

theorem ofScalar
    {value : R}
    (finite : Scalar.isFinite value = true) :
    (Document.ofScalar value).IsStorable := by
  rw [Document.ofScalar, if_pos finite]
  exact .number finite

theorem whole_lt
    (storable : document.IsStorable)
    {value : Nat}
    (read : document.whole? = some value) :
    value < 2 ^ 64 := by
  cases storable with
  | whole small =>
      cases read
      exact small
  | null => cases read
  | flag => cases read
  | number => cases read
  | text => cases read
  | list => cases read
  | fields => cases read

end Document.IsStorable

/-! ## The parameters in a document -/

namespace Config

/-- What stands in a document for each of the parameters. -/
structure Parts (R : Type) where
  largestLag : Document R
  timeStep : Document R
  linearWidth : Document R
  operation : Document R
  compressionA : Document R
  compressionB : Document R
  arguments : Document R

namespace Parts

/-- The configuration of which these are the parameters. -/
def config? (parts : Parts R) : Option (Config R) :=
  ofParts? parts.largestLag parts.timeStep parts.linearWidth parts.operation
    parts.compressionA parts.compressionB parts.arguments

/-- The parameters in their order. -/
def toList (parts : Parts R) : List (Document R) :=
  [parts.largestLag, parts.timeStep, parts.linearWidth, parts.operation,
    parts.compressionA, parts.compressionB, parts.arguments]

/-- The parameters that a record has to have, each under its name. -/
def required (parts : Parts R) : List (String × Document R) :=
  [("tau_max", parts.largestLag), ("time_step", parts.timeStep),
    ("tau_lin", parts.linearWidth), ("operation", parts.operation),
    ("compress1", parts.compressionA), ("args", parts.arguments)]

/-- The names of the parameters. -/
def names : List String :=
  ["tau_max", "time_step", "tau_lin", "operation", "compress1",
    "compress2", "args"]

/-- The documents in which parameters stand. -/
inductive Presents (parts : Parts R) : Document R → Prop where
  /-- A list has all parameters in their order. -/
  | listed : Presents parts (.list parts.toList)
  /-- A record has them in any order and among fields of other names. -/
  | named {entries others : List (String × Document R)}
      (shuffled :
        entries.Perm
          ((("compress2", parts.compressionB) :: parts.required) ++ others))
      (unknown : ∀ entry ∈ others, entry.1 ∉ names) :
      Presents parts (.fields entries)
  /-- A record need not have a rule for the stream B that is null. -/
  | shortened {entries others : List (String × Document R)}
      (absent : parts.compressionB = .null)
      (shuffled : entries.Perm (parts.required ++ others))
      (unknown : ∀ entry ∈ others, entry.1 ∉ names) :
      Presents parts (.fields entries)

variable
    {parts : Parts R}
    {document : Document R}
    {entries others : List (String × Document R)}
    {config : Config R}

omit [Scalar R] in
theorem distinct_required (parts : Parts R) :
    (parts.required.map (·.1)).Nodup := by
  simp [required]

omit [Scalar R] in
theorem distinct_named (parts : Parts R) :
    ((("compress2", parts.compressionB) :: parts.required).map
        (·.1)).Nodup := by
  simp [required]

omit [Scalar R] in
theorem mem_names_of_required
    {entry : String × Document R}
    (member : entry ∈ parts.required) :
    entry.1 ∈ names := by
  simp only [required, List.mem_cons, List.not_mem_nil, or_false] at member
  rcases member with rfl | rfl | rfl | rfl | rfl | rfl <;> simp [names]

theorem compress2_mem_names : "compress2" ∈ names := by
  simp [names]

/--
A configuration is read from the fields under the names of its parameters.
-/
theorem ofDocument?_fields
    (found : ∀ entry ∈ parts.required, entries.lookup entry.1 = some entry.2)
    (ruleB : (entries.lookup "compress2").getD .null = parts.compressionB) :
    ofDocument? (.fields entries) = parts.config? := by
  simp only [required, List.forall_mem_cons] at found
  rcases found with ⟨lag, step, width, name, ruleA, axes, _⟩
  simp only [ofDocument?, Document.field?, lag, step, width, name, ruleA,
    axes, ruleB]
  rfl

omit [Scalar R] in
/--
What is found under the name of a parameter does not depend on the fields of
other names.
-/
theorem lookup_of_unknown
    {listed : List (String × Document R)}
    (distinct : (listed.map (·.1)).Nodup)
    (shuffled : entries.Perm (listed ++ others))
    (unknown : ∀ entry ∈ others, entry.1 ∉ names)
    {name : String}
    (known : name ∈ names) :
    entries.lookup name = listed.lookup name :=
  lookup_of_shuffled distinct shuffled fun other member same =>
    unknown other member (same ▸ known)

omit [Scalar R] in
theorem lookup_required
    {listed : List (String × Document R)}
    (distinct : (listed.map (·.1)).Nodup)
    (shuffled : entries.Perm (listed ++ others))
    (unknown : ∀ entry ∈ others, entry.1 ∉ names)
    (among : parts.required ⊆ listed) :
    ∀ entry ∈ parts.required, entries.lookup entry.1 = some entry.2 := by
  intro entry member
  rw [lookup_of_unknown distinct shuffled unknown
      (mem_names_of_required member)]
  exact (lookup_eq_some_iff_mem (unique_of_distinct distinct)).mpr
    (among member)

/-- A configuration is read from its parameters, wherever they stand. -/
theorem Presents.ofDocument?_eq (presents : parts.Presents document) :
    ofDocument? document = parts.config? := by
  cases presents with
  | listed => rfl
  | named shuffled unknown =>
      apply ofDocument?_fields
      · exact lookup_required parts.distinct_named shuffled unknown
          (List.subset_cons_self _ _)
      · rw [lookup_of_unknown parts.distinct_named shuffled unknown
            compress2_mem_names]
        rfl
  | shortened absent shuffled unknown =>
      apply ofDocument?_fields
      · exact lookup_required parts.distinct_required shuffled unknown
          (List.Subset.refl _)
      · rw [lookup_of_unknown parts.distinct_required shuffled unknown
            compress2_mem_names]
        exact absent.symm

omit [Scalar R] in
theorem unknown_of_filtered :
    ∀ entry ∈ entries.filter fun entry => !decide (entry.1 ∈ names),
      entry.1 ∉ names := by
  intro entry member
  simpa using (List.mem_filter.mp member).2

/--
What can be read from a record stands there under the names of the parameters.
-/
theorem exists_presents_of_fields
    (distinct : (entries.map (·.1)).Nodup)
    (read : ofDocument? (.fields entries) = some config) :
    ∃ parts : Parts R,
      parts.Presents (.fields entries) ∧ parts.config? = some config := by
  rcases Option.bind_eq_some_iff.mp read with ⟨largestLag, lag, read⟩
  rcases Option.bind_eq_some_iff.mp read with ⟨timeStep, step, read⟩
  rcases Option.bind_eq_some_iff.mp read with ⟨linearWidth, width, read⟩
  rcases Option.bind_eq_some_iff.mp read with ⟨operation, name, read⟩
  rcases Option.bind_eq_some_iff.mp read with ⟨compressionA, ruleA, read⟩
  rcases Option.bind_eq_some_iff.mp read with ⟨arguments, axes, read⟩
  cases ruleB : (Document.fields entries).field? "compress2" with
  | some compressionB =>
      rw [ruleB] at read
      let parts : Parts R :=
        ⟨largestLag, timeStep, linearWidth, operation, compressionA,
          compressionB, arguments⟩
      refine ⟨parts,
        .named (shuffled_of_lookups distinct parts.distinct_named ?_ ?_)
          unknown_of_filtered, read⟩
      · exact List.forall_mem_cons.mpr
          ⟨compress2_mem_names, fun _ => mem_names_of_required⟩
      · simp only [names, List.forall_mem_cons]
        exact ⟨lag, step, width, name, ruleA, ruleB, axes,
          List.forall_mem_nil _⟩
  | none =>
      rw [ruleB] at read
      let parts : Parts R :=
        ⟨largestLag, timeStep, linearWidth, operation, compressionA, .null,
          arguments⟩
      refine ⟨parts,
        .shortened rfl
          (shuffled_of_lookups distinct parts.distinct_required ?_ ?_)
          unknown_of_filtered, read⟩
      · exact fun _ => mem_names_of_required
      · simp only [names, List.forall_mem_cons]
        exact ⟨lag, step, width, name, ruleA, ruleB, axes,
          List.forall_mem_nil _⟩

/--
Exactly those documents are read as a configuration that present its parameters.
-/
theorem ofDocument?_eq_some_iff (storable : document.IsStorable) :
    ofDocument? document = some config ↔
      ∃ parts : Parts R,
        parts.Presents document ∧ parts.config? = some config := by
  constructor
  · intro read
    cases storable with
    | fields distinct storable => exact exists_presents_of_fields distinct read
    | @list items storable =>
        rw [ofDocument?.eq_def] at read
        split at read
        next largestLag timeStep linearWidth operation compressionA compressionB
            arguments same =>
          cases same
          exact ⟨⟨largestLag, timeStep, linearWidth, operation, compressionA,
              compressionB, arguments⟩, .listed, read⟩
        next same => cases same
        next => cases read
    | null => cases read
    | flag value => cases read
    | whole small => cases read
    | number finite => cases read
    | text value => cases read
  · rintro ⟨parts, presents, read⟩
    rw [presents.ofDocument?_eq, read]

/-- The parameters in a document that can be stored can be stored themselves. -/
theorem Presents.isStorable
    (presents : parts.Presents document)
    (storable : document.IsStorable) :
    ∀ entry ∈ parts.required, entry.2.IsStorable := by
  intro entry member
  cases presents with
  | listed =>
      apply storable.item
      simp only [required, List.mem_cons, List.not_mem_nil, or_false] at member
      rcases member with rfl | rfl | rfl | rfl | rfl | rfl <;> simp [toList]
  | named shuffled unknown =>
      exact storable.found
        (lookup_required parts.distinct_named shuffled unknown
          (List.subset_cons_self _ _) entry member)
  | shortened absent shuffled unknown =>
      exact storable.found
        (lookup_required parts.distinct_required shuffled unknown
          (List.Subset.refl _) entry member)

end Parts

/-! ## What is written -/

/-- What is written of numbers and words can be stored. -/
theorem isStorable_toDocument
    {config : Config R}
    (finite : config.IsFinite)
    (small : config.linearWidth < 2 ^ 64) : config.toDocument.IsStorable := by
  have axes : config.arguments.toDocument.IsStorable := by
    apply Document.IsStorable.list
    rw [List.forall_mem_map]
    exact fun value member => .ofScalar (finite.arguments value member)
  have ruleB :
      (Compression.optionToDocument config.compressionB :
        Document R).IsStorable := by
    cases config.compressionB with
    | none => exact .null
    | some rule => exact .text _
  apply Document.IsStorable.fields
  · simp [entries]
  · simp only [entries, List.forall_mem_cons]
    exact ⟨.ofScalar finite.largestLag, .ofScalar finite.timeStep, .whole small,
      .text _, .text _, ruleB, axes, List.forall_mem_nil _⟩

end Config

/--
Exactly the names under which operations are stored are accepted as their names.
-/
theorem Operation.parse_eq_ok_iff
    {name : String}
    {operation : Operation} :
    parse name = .ok operation ↔ snakeCase operation.words = name := by
  rw [snakeCase_words, ← ofName?_eq_some_iff, parse]
  cases ofName? name <;> simp

/--
Exactly the names under which rules are stored are accepted as their names.
-/
theorem Compression.parse_eq_ok_iff
    {name : String}
    {rule : Compression} :
    parse name = .ok rule ↔ snakeCase rule.words = name := by
  rw [snakeCase_words, ← ofName?_eq_some_iff, parse]
  cases ofName? name <;> simp

namespace Config

/--
A stored configuration has the names by which its operation and its rules are
chosen.
-/
structure StoresNames (config : Config R) : Prop where
  operation : ∃ name, config.toDocument.field? "operation" = some (.text name) ∧
    Operation.parse name = .ok config.operation
  compressionA :
    ∃ name,
      config.toDocument.field? "compress1" = some (.text name) ∧
      Compression.parse name = .ok config.compressionA
  compressionB : ∀ rule, config.compressionB = some rule →
    ∃ name, config.toDocument.field? "compress2" = some (.text name) ∧
      Compression.parse name = .ok rule
  absent :
    config.compressionB = none →
    config.toDocument.field? "compress2" = some .null

theorem storesNames (config : Config R) : config.StoresNames where
  operation := ⟨_, rfl, Operation.parse_eq_ok_iff.mpr rfl⟩
  compressionA := ⟨_, rfl, Compression.parse_eq_ok_iff.mpr rfl⟩
  compressionB := by
    intro rule chosen
    refine ⟨snakeCase rule.words, ?_, Compression.parse_eq_ok_iff.mpr rfl⟩
    show some (Compression.optionToDocument config.compressionB) = _
    rw [chosen]
    rfl
  absent := by
    intro absent
    show some (Compression.optionToDocument config.compressionB) = _
    rw [absent]
    rfl

end Config

/-! ## In binary64 -/

/-- A word is a finite number, rounded if it has to be. -/
theorem Double.isFinite_ofNat
    {count : Nat}
    (small : count < 2 ^ 64) :
    Scalar.isFinite (Scalar.ofNat count : Float) = true := by
  rw [← Bool.not_eq_false, ← (isUnsigned_ofNat count).infinite_iff,
    (isNearest_ofNat count).infinite_iff, not_le]
  apply lt_sub_iff_add_lt.mpr
  have word : (count : ℚ) < 2 ^ 970 := by
    exact_mod_cast small.trans (Nat.pow_lt_pow_right Nat.one_lt_two (by decide))
  calc
    (count : ℚ) + 2 ^ 970 < 2 ^ 970 + 2 ^ 970 :=
      add_lt_add_of_lt_of_le word le_rfl
    _ = 2 ^ 971 := by rw [← two_mul, ← pow_succ']
    _ ≤ 2 ^ 1024 := pow_le_pow_right₀ one_le_two (by decide)

namespace Document.IsStorable

variable {document : Document Float}

theorem isFinite_scalar
    (storable : document.IsStorable)
    {value : Float}
    (read : document.scalar? = some value) :
    Scalar.isFinite value = true := by
  cases storable with
  | whole small =>
      cases read
      exact Double.isFinite_ofNat small
  | number finite =>
      cases read
      exact finite
  | null => cases read
  | flag => cases read
  | text => cases read
  | list => cases read
  | fields => cases read

theorem isFinite_axes
    (storable : document.IsStorable)
    {axes : Axes Float}
    (read : Axes.ofDocument? document = some axes) : axes.IsFinite := by
  rw [Axes.ofDocument?.eq_def] at read
  split at read
  next x y z =>
    rcases Option.bind_eq_some_iff.mp read with ⟨_, readX, read⟩
    rcases Option.bind_eq_some_iff.mp read with ⟨_, readY, read⟩
    rcases Option.bind_eq_some_iff.mp read with ⟨_, readZ, read⟩
    cases read
    exact Axes.isFinite_iff.mpr
      ⟨(storable.item (by simp)).isFinite_scalar readX,
        (storable.item (by simp)).isFinite_scalar readY,
        (storable.item (by simp)).isFinite_scalar readZ⟩
  next => cases read

end Document.IsStorable

/-- What is read from a document that can be stored can be stored again. -/
theorem Config.isFinite_of_read
    {document : Document Float}
    (storable : document.IsStorable)
    {config : Config Float}
    (read : ofDocument? document = some config) :
    config.IsFinite ∧ config.linearWidth < 2 ^ 64 := by
  rcases (Parts.ofDocument?_eq_some_iff storable).mp read with
    ⟨parts, presents, found⟩
  have stored := presents.isStorable storable
  simp only [Parts.required, List.forall_mem_cons] at stored
  rcases stored with ⟨largestLag, timeStep, linearWidth, _, _, arguments, _⟩
  rcases ofParts?_eq_some_iff.mp found with ⟨lag, step, width, _, _, _, axes⟩
  exact ⟨⟨largestLag.isFinite_scalar lag, timeStep.isFinite_scalar step,
    arguments.isFinite_axes axes⟩, linearWidth.whole_lt width⟩

/--
A document is read as a configuration exactly if it presents its parameters, and
what was read, or any other configuration of finite scalars, is read back as it
was from what is written of it.
-/
theorem stored_configurations_return :
    (∀ {document : Document Float} {config : Config Float},
      document.IsStorable →
      (Config.ofDocument? document = some config ↔
        ∃ parts : Config.Parts Float,
          parts.Presents document ∧ parts.config? = some config)) ∧
    (∀ {document : Document Float} {config : Config Float},
      document.IsStorable →
      Config.ofDocument? document = some config →
      config.toDocument.IsStorable ∧
      Config.ofDocument? config.toDocument = some config) ∧
    (∀ {parts : Config.Parts Float} {document other : Document Float},
      parts.Presents document →
      parts.Presents other →
      Config.ofDocument? document = Config.ofDocument? other) ∧
    (∀ config : Config Float,
      (Config.ofDocument? config.toDocument = some config ↔ config.IsFinite) ∧
      (config.IsFinite →
       config.linearWidth < 2 ^ 64 →
       config.toDocument.IsStorable) ∧
      config.StoresNames) ∧
    (∀ name operation,
      Operation.parse name = .ok operation ↔ snakeCase operation.words = name) ∧
    ∀ name rule,
      Compression.parse name = .ok rule ↔ snakeCase rule.words = name := by
  refine ⟨Config.Parts.ofDocument?_eq_some_iff, ?_, ?_, ?_,
    fun _ _ => Operation.parse_eq_ok_iff,
    fun _ _ => Compression.parse_eq_ok_iff⟩
  · intro document config storable read
    rcases Config.isFinite_of_read storable read with ⟨finite, small⟩
    exact ⟨Config.isStorable_toDocument finite small,
      Config.ofDocument?_toDocument finite⟩
  · intro parts document other presents presents'
    rw [presents.ofDocument?_eq, presents'.ofDocument?_eq]
  · intro config
    exact ⟨⟨Config.isFinite_of_ofDocument?, Config.ofDocument?_toDocument⟩,
      Config.isStorable_toDocument, config.storesNames⟩

/--
A record in disorder, with a field of another name and a rule in the long form.
-/
def trialStore : Document Float :=
  .fields [("remark", .text "second run"),
    ("args", .list [.whole 1, .number Scalar.half, .whole 3]),
    ("compress1", .fields [("linear", .null)]), ("operation", .text "fcs_acf"),
    ("tau_lin", .whole 3), ("time_step", .number Scalar.half),
    ("tau_max", .whole (2 ^ 53 + 1))]

theorem isStorable_trialStore : trialStore.IsStorable := by
  have half : Scalar.isFinite (Scalar.half : Float) = true := by decide +kernel
  apply Document.IsStorable.fields (by simp)
  simp only [List.forall_mem_cons]
  refine ⟨.text _, .list ?_, .fields (by simp) ?_, .text _, .whole (by decide),
    .number half, .whole (by decide), List.forall_mem_nil _⟩
  · simp only [List.forall_mem_cons]
    exact ⟨.whole (by decide), .number half, .whole (by decide),
      List.forall_mem_nil _⟩
  · simp only [List.forall_mem_cons]
    exact ⟨.null, List.forall_mem_nil _⟩

theorem stored_configurations_return_trial :
    ∃ (config : Config Float) (parts : Config.Parts Float),
      trialStore.IsStorable ∧
      Config.ofDocument? trialStore = some config ∧
      parts.Presents trialStore ∧
      Config.ofDocument? (.list parts.toList) = some config ∧
      config.toDocument.IsStorable ∧
      Config.ofDocument? config.toDocument = some config := by
  have readable : (Config.ofDocument? trialStore).isSome = true := by
    decide +kernel
  rcases Option.isSome_iff_exists.mp readable with ⟨config, read⟩
  rcases stored_configurations_return with ⟨iff, back, alike, _⟩
  rcases (iff isStorable_trialStore).mp read with ⟨parts, presents, _⟩
  rcases back isStorable_trialStore read with ⟨storable, returned⟩
  exact ⟨config, parts, isStorable_trialStore, read, presents,
    (alike .listed presents).trans read, storable, returned⟩

end RunningStatistics
