/-
This file defines the types of keys and names without any order of work, and proves that
the search comes to the same. `Resolves` has one rule for every way in which a key or a
name can get a type, and `Demands` says which of them need which others. The search
works in some order, refuses keys that are in progress and notes what it has found. None
of this can be seen in its outcome: what has a type does not need itself to get it, and
only what has a type is ever noted.

Unlike `Received`, the rules ask nothing of the table but that records are captured for
plain names only; several entries may have one name. Nor do they say which error there
is when there is no type. That a search has one outcome, whatever has been noted, is
part of what is proved (`Settles`), and so the error does not depend on the notes
either.
-/
import PredicateWire.Proofs.Table.Search
import PredicateWire.Proofs.Table.Supply
import PredicateWire.Proofs.Types.NameText

namespace PredicateWire

namespace TypeTable

/-! ### Rules for the types of keys -/

/-- What a type is looked for: a key of a table, or a name alone. -/
inductive Goal
  | key (key : TypeKey)
  | name (name : String)

/-- An element or an argument stands for the first entry of its name, or else for the name alone. -/
def goalOf (table : TypeTable) (name : String) : Goal :=
  match table.keyOf? name with
  | some key => .key key
  | none => .name name

/-- The type of a goal. A name of the catalog stands for the type there, and the name of an array
or an instance for the type made of its parts. A key has the type of its name. When the name is
plain and the catalog does not know it, a structural entry has the record with the captured
fields. -/
inductive Resolves (table : TypeTable) : Goal → DataType → Prop
  | known {name : String} {type : DataType} (found : table.catalog.findType? name = some type) :
    Resolves table (.name name) type
  | array {name element : String} {type : DataType}
    (unknown : table.catalog.findType? name = none)
    (parsed : TypeName.parse name = .ok (.array element))
    (resolves : Resolves table (table.goalOf element) type) : Resolves table (.name name) (.array type)
  | generic {name base : String} {arguments : List String} {definition type : DataType}
    {types : List DataType} (unknown : table.catalog.findType? name = none)
    (parsed : TypeName.parse name = .ok (.generic base arguments))
    (found : table.catalog.findType? base = some definition)
    (lengths : arguments.length = types.length)
    (resolves : ∀ pair ∈ arguments.zip types, Resolves table (table.goalOf pair.1) pair.2)
    (instantiated : definition.instantiate types = .ok type) : Resolves table (.name name) type
  | named {key : TypeKey} {entry : TypeEntry} {type : DataType}
    (present : table.entryOf? key = some entry)
    (resolves : Resolves table (.name entry.name) type) : Resolves table (.key key) type
  | captured {key : TypeKey} {entry : TypeEntry} {plain : String} {types : List DataType}
    (present : table.entryOf? key = some entry)
    (unknown : table.catalog.findType? entry.name = none)
    (parsed : TypeName.parse entry.name = .ok (.plain plain)) (structural : entry.structural = true)
    (lengths : entry.fields.length = types.length)
    (resolves : ∀ pair ∈ entry.fields.zip types, Resolves table (.key pair.1.key) pair.2) :
    Resolves table (.key key) (.record entry.name (receivedFields entry.fields types) true)

/-- One goal is needed to get the type of another. -/
inductive Demands (table : TypeTable) : Goal → Goal → Prop
  | name {key : TypeKey} {entry : TypeEntry} (present : table.entryOf? key = some entry) :
    Demands table (.name entry.name) (.key key)
  | element {name element : String} (unknown : table.catalog.findType? name = none)
    (parsed : TypeName.parse name = .ok (.array element)) :
    Demands table (table.goalOf element) (.name name)
  | argument {name base argument : String} {arguments : List String}
    (unknown : table.catalog.findType? name = none)
    (parsed : TypeName.parse name = .ok (.generic base arguments))
    (member : argument ∈ arguments) : Demands table (table.goalOf argument) (.name name)
  | field {key : TypeKey} {entry : TypeEntry} {plain : String} {field : FieldEntry}
    (present : table.entryOf? key = some entry)
    (unknown : table.catalog.findType? entry.name = none)
    (parsed : TypeName.parse entry.name = .ok (.plain plain)) (member : field ∈ entry.fields) :
    Demands table (.key field.key) (.key key)

section Rules

variable {table : TypeTable}

/-- A name that is plain has no type of its own when the catalog does not know it. -/
theorem not_resolves_plain {name plain : String} {type : DataType}
    (unknown : table.catalog.findType? name = none)
    (parsed : TypeName.parse name = .ok (.plain plain)) : ¬Resolves table (.name name) type := by
  intro resolves
  cases resolves with
  | known found => cases found.symm.trans unknown
  | array _ parsedAgain => cases parsed.symm.trans parsedAgain
  | generic _ parsedAgain => cases parsed.symm.trans parsedAgain

/-- What the catalog knows has no other type. -/
theorem resolves_known_iff {name : String} {type other : DataType}
    (known : table.catalog.findType? name = some type) :
    Resolves table (.name name) other ↔ other = type := by
  constructor
  · intro resolves
    cases resolves with
    | known found => exact Option.some.inj (found.symm.trans known)
    | array unknown => cases known.symm.trans unknown
    | generic unknown => cases known.symm.trans unknown
  · rintro rfl
    exact .known known

/-- A name that cannot be taken apart has no type when the catalog does not know it. -/
theorem not_resolves_malformed {name : String} {type : DataType} {error : Error}
    (unknown : table.catalog.findType? name = none) (refused : TypeName.parse name = .error error) :
    ¬Resolves table (.name name) type := by
  intro resolves
  cases resolves with
  | known found => cases found.symm.trans unknown
  | array _ parsed => cases refused.symm.trans parsed
  | generic _ parsed => cases refused.symm.trans parsed

/-- An array has a type when its element has, and it is the array of that. -/
theorem resolves_array_iff {name element : String} {type : DataType}
    (unknown : table.catalog.findType? name = none)
    (parsed : TypeName.parse name = .ok (.array element)) :
    Resolves table (.name name) type ↔
      ∃ part, Resolves table (table.goalOf element) part ∧ type = .array part := by
  constructor
  · intro resolves
    cases resolves with
    | known found => cases found.symm.trans unknown
    | array _ parsedAgain resolves =>
      cases parsed.symm.trans parsedAgain
      exact ⟨_, resolves, rfl⟩
    | generic _ parsedAgain => cases parsed.symm.trans parsedAgain
  · rintro ⟨part, resolves, rfl⟩
    exact .array unknown parsed resolves

/-- An instance has a type when the catalog has its definition, all arguments have types and the
definition can be filled in with these. -/
theorem resolves_generic_iff {name base : String} {arguments : List String} {type : DataType}
    (unknown : table.catalog.findType? name = none)
    (parsed : TypeName.parse name = .ok (.generic base arguments)) :
    Resolves table (.name name) type ↔
      ∃ definition types, table.catalog.findType? base = some definition ∧
        (arguments.length = types.length ∧
          ∀ pair ∈ arguments.zip types, Resolves table (table.goalOf pair.1) pair.2) ∧
        definition.instantiate types = .ok type := by
  constructor
  · intro resolves
    cases resolves with
    | known found => cases found.symm.trans unknown
    | array _ parsedAgain => cases parsed.symm.trans parsedAgain
    | generic _ parsedAgain found lengths resolves instantiated =>
      cases parsed.symm.trans parsedAgain
      exact ⟨_, _, found, ⟨lengths, resolves⟩, instantiated⟩
  · rintro ⟨_, _, found, ⟨lengths, resolves⟩, instantiated⟩
    exact .generic unknown parsed found lengths resolves instantiated

/-- A key has the type of its name or is a captured record. The second is possible only where the
catalog does not know the name, the name is plain and all fields have types. -/
theorem resolves_key_iff {key : TypeKey} {entry : TypeEntry} {type : DataType}
    (present : table.entryOf? key = some entry) :
    Resolves table (.key key) type ↔
      Resolves table (.name entry.name) type ∨
        table.catalog.findType? entry.name = none ∧
          (∃ plain, TypeName.parse entry.name = .ok (.plain plain)) ∧ entry.structural = true ∧
          ∃ types, entry.fields.length = types.length ∧
            (∀ pair ∈ entry.fields.zip types, Resolves table (.key pair.1.key) pair.2) ∧
            type = .record entry.name (receivedFields entry.fields types) true := by
  constructor
  · intro resolves
    cases resolves with
    | named presentAgain resolves =>
      cases present.symm.trans presentAgain
      exact .inl resolves
    | captured presentAgain unknown parsed structural lengths resolves =>
      cases present.symm.trans presentAgain
      exact .inr ⟨unknown, ⟨_, parsed⟩, structural, _, lengths, resolves, rfl⟩
  · rintro (resolves | ⟨unknown, ⟨_, parsed⟩, structural, _, lengths, resolves, rfl⟩)
    · exact .named present resolves
    · exact .captured present unknown parsed structural lengths resolves

/-- What has a type can be reached from goals that need nothing. -/
theorem Resolves.accessible {goal : Goal} {type : DataType} (resolves : Resolves table goal type) :
    Acc (Demands table) goal := by
  induction resolves with
  | known found =>
    refine ⟨_, fun needed demands => ?_⟩
    cases demands with
    | element unknown => cases found.symm.trans unknown
    | argument unknown => cases found.symm.trans unknown
  | array unknown parsed _ inductionHypothesis =>
    refine ⟨_, fun needed demands => ?_⟩
    cases demands with
    | element _ parsedAgain =>
      cases parsed.symm.trans parsedAgain
      exact inductionHypothesis
    | argument _ parsedAgain => cases parsed.symm.trans parsedAgain
  | generic unknown parsed found lengths _ instantiated inductionHypothesis =>
    refine ⟨_, fun needed demands => ?_⟩
    cases demands with
    | element _ parsedAgain => cases parsed.symm.trans parsedAgain
    | argument _ parsedAgain member =>
      cases parsed.symm.trans parsedAgain
      obtain ⟨type, pairMember⟩ := exists_mem_zip lengths member
      exact inductionHypothesis _ pairMember
  | named present resolves inductionHypothesis =>
    refine ⟨_, fun needed demands => ?_⟩
    cases demands with
    | name presentAgain =>
      cases present.symm.trans presentAgain
      exact inductionHypothesis
    | field presentAgain unknown parsed =>
      cases present.symm.trans presentAgain
      exact absurd resolves (not_resolves_plain unknown parsed)
  | captured present unknown parsed _ lengths _ inductionHypothesis =>
    refine ⟨_, fun needed demands => ?_⟩
    cases demands with
    | name presentAgain =>
      cases present.symm.trans presentAgain
      refine ⟨_, fun below demandsBelow => ?_⟩
      cases demandsBelow with
      | element _ parsedAgain => cases parsed.symm.trans parsedAgain
      | argument _ parsedAgain => cases parsed.symm.trans parsedAgain
    | field presentAgain _ _ member =>
      cases present.symm.trans presentAgain
      obtain ⟨type, pairMember⟩ := exists_mem_zip lengths member
      exact inductionHypothesis _ pairMember

/-- What needs itself has no type. -/
theorem Resolves.not_demands_itself {goal : Goal} {type : DataType}
    (resolves : Resolves table goal type) : ¬Relation.TransGen (Demands table) goal goal :=
  not_of_acc resolves.accessible.transGen

end Rules

/-! ### Searches that come to what the rules say -/

/-- Everything noted is what the rules say about the key. -/
def Right (table : TypeTable) (found : Found) : Prop :=
  ∀ noted ∈ found, Resolves table (.key noted.1) noted.2

/-- A search has one outcome whatever has been noted, and notes nothing wrong. It yields what a
property allows, and fails when there is no such thing. -/
structure Settles {Content : Type} (table : TypeTable) (search : SearchM Content)
    (allowed : Content → Prop) : Prop where
  run : ∃ outcome, (∀ {found}, Right table found →
      ∃ noted, search.run found = (outcome, noted) ∧ Right table noted) ∧
    ∀ content, outcome = .ok content ↔ allowed content

section Settling

variable {table : TypeTable} {First Second : Type}

theorem settles_pure {content : First} {allowed : First → Prop}
    (only : ∀ other, allowed other ↔ other = content) : Settles table (pure content) allowed := by
  refine ⟨.ok content, fun right => ⟨_, rfl, right⟩, fun other => ?_⟩
  rw [only, Except.ok.injEq]
  exact eq_comm

theorem settles_throw {error : Error} {allowed : First → Prop} (never : ∀ other, ¬allowed other) :
    Settles table (throw error) allowed :=
  ⟨.error error, fun right => ⟨_, rfl, right⟩, fun other =>
    iff_of_false (fun same => by cases same) (never other)⟩

theorem Settles.congr {search : SearchM First} {fits allowed : First → Prop}
    (settles : Settles table search fits) (same : ∀ content, fits content ↔ allowed content) :
    Settles table search allowed := by
  obtain ⟨outcome, runs, yields⟩ := settles.run
  exact ⟨outcome, runs, fun content => (yields content).trans (same content)⟩

/-- Searches in a row settle if each does, the second one for whatever the first one is allowed to
yield. -/
theorem settles_bind {search : SearchM First} {next : First → SearchM Second}
    {fits : First → Prop} {allowed : First → Second → Prop} (first : Settles table search fits)
    (second : ∀ content, fits content → Settles table (next content) (allowed content)) :
    Settles table (search >>= next) fun result =>
      ∃ content, fits content ∧ allowed content result := by
  obtain ⟨outcome, runs, yields⟩ := first.run
  cases outcome with
  | error error =>
    refine ⟨.error error, fun right => ?_, fun result => ?_⟩
    · obtain ⟨noted, ran, notedRight⟩ := runs right
      exact ⟨noted, by rw [Running.run_bind, ran], notedRight⟩
    · refine iff_of_false (fun same => by cases same) ?_
      rintro ⟨content, fitting, _⟩
      cases (yields content).mpr fitting
  | ok content =>
    have fitting := (yields content).mp rfl
    obtain ⟨final, finalRuns, finalYields⟩ := (second content fitting).run
    refine ⟨final, fun right => ?_, fun result => ?_⟩
    · obtain ⟨middle, ran, middleRight⟩ := runs right
      rw [Running.run_bind, ran]
      exact finalRuns middleRight
    · rw [finalYields]
      refine ⟨fun allows => ⟨content, fitting, allows⟩, ?_⟩
      rintro ⟨other, otherFitting, allows⟩
      cases (yields other).mpr otherFitting
      exact allows

/-- Searches for several items settle if each does, and yield what is allowed, item by item. -/
theorem settles_mapM {search : First → SearchM Second} {allowed : First → Second → Prop}
    {items : List First} (each : ∀ item ∈ items, Settles table (search item) (allowed item)) :
    Settles table (items.mapM search) fun results =>
      items.length = results.length ∧ ∀ pair ∈ items.zip results, allowed pair.1 pair.2 := by
  induction items with
  | nil =>
    refine settles_pure fun results => ?_
    rw [List.length_nil, eq_comm, List.length_eq_zero_iff]
    exact and_iff_left fun _ member => nomatch member
  | cons item rest inductionHypothesis =>
    rw [List.mapM_cons]
    have others := inductionHypothesis fun other member => each other (.tail _ member)
    refine (settles_bind (each item (.head _)) fun result _ => settles_bind others
      fun results _ => settles_pure fun _ => Iff.rfl).congr fun results => ?_
    constructor
    · rintro ⟨first, fits, later, ⟨lengths, laterFit⟩, rfl⟩
      exact ⟨congrArg Nat.succ lengths, List.forall_mem_cons.mpr ⟨fits, laterFit⟩⟩
    · rintro ⟨lengths, fit⟩
      cases results with
      | nil => cases lengths
      | cons first later =>
        obtain ⟨fits, laterFit⟩ := List.forall_mem_cons.mp fit
        exact ⟨first, fits, later, ⟨Nat.succ.inj lengths, laterFit⟩, rfl⟩

/-- What the rules say may be noted. -/
theorem settles_note {key : TypeKey} {type : DataType} (resolves : Resolves table (.key key) type) :
    Settles table (note key type) (· = type) := by
  refine ⟨.ok type, fun right => ⟨_, rfl, fun noted member => ?_⟩, fun other => ?_⟩
  · rcases List.mem_cons.mp member with rfl | earlier
    · exact resolves
    · exact right noted earlier
  · rw [Except.ok.injEq]
    exact eq_comm

/-- What has been noted for a key is what a search for it would come to. -/
theorem settles_recall {key : TypeKey} {search : SearchM DataType}
    (settles : Settles table search (Resolves table (.key key))) :
    Settles table (do
      match (← get).find? fun noted => noted.1 == key with
      | some noted => return noted.2
      | none => search) (Resolves table (.key key)) := by
  obtain ⟨outcome, runs, yields⟩ := settles.run
  refine ⟨outcome, fun {found} right => ?_, yields⟩
  rw [Running.run_bind, Running.run_get]
  dsimp only
  split
  · rename_i noted seen
    have resolves := right noted (List.mem_of_find?_eq_some seen)
    have tested := List.find?_some seen
    rw [eq_of_beq tested] at resolves
    rw [(yields noted.2).mpr resolves]
    exact ⟨found, rfl, right⟩
  · exact runs right

end Settling

/-! ### The search -/

/-- Records are captured for plain names only. -/
def PlainRecords (table : TypeTable) : Prop :=
  ∀ entry ∈ table.entries, entry.structural = true →
    (∀ element, TypeName.parse entry.name ≠ .ok (.array element)) ∧
      ∀ base arguments, TypeName.parse entry.name ≠ .ok (.generic base arguments)

/-- Every key in progress needs a goal. -/
def Below (table : TypeTable) (goal : Goal) (active : List TypeKey) : Prop :=
  ∀ key ∈ active, Relation.TransGen (Demands table) goal (.key key)

/-- What a goal needs is needed by all that needs the goal. -/
theorem Below.demanded {table : TypeTable} {goal needed : Goal} {active : List TypeKey}
    (below : Below table goal active) (demands : Demands table needed goal) :
    Below table needed active :=
  fun key member => (Relation.TransGen.single demands).trans (below key member)

/-- What a key needs is looked for while the key is in progress. -/
theorem Below.entered {table : TypeTable} {key : TypeKey} {needed : Goal} {active : List TypeKey}
    (below : Below table (.key key) active) (demands : Demands table needed (.key key)) :
    Below table needed (key :: active) :=
  List.forall_mem_cons.mpr ⟨.single demands, below.demanded demands⟩

section Searching

variable {table : TypeTable}

/-- The type that a name alone stands for. It is an error when there is none. -/
def searchAlone (table : TypeTable) (active : List TypeKey) (name : String) : SearchM DataType := do
  match ← searchName table active name with
  | some type => return type
  | none => throw (.symbolNotFound (.unknownType name))

/-- A search by a name alone, written out: the catalog comes first, and then the name is taken
apart. -/
theorem searchAlone_eq (active : List TypeKey) (name : String) :
    searchAlone table active name = (
      match table.catalog.findType? name with
      | some type => pure type
      | none =>
        match TypeName.parse name with
        | .error error => throw error
        | .ok (.plain _) => throw (.symbolNotFound (.unknownType name))
        | .ok (.array element) => do
          let element ← searchNested table active element
          return .array element
        | .ok (.generic base arguments) =>
          match table.catalog.findType? base with
          | none => throw (.symbolNotFound (.unknownType name))
          | some definition => do
            let types ← arguments.mapM (searchNested table active)
            match definition.instantiate types with
            | .ok type => return type
            | .error error => throw error) := by
  unfold searchAlone
  rw [searchName_eq]
  cases table.catalog.findType? name with
  | some type => rfl
  | none =>
    cases TypeName.parse name with
    | error error => rfl
    | ok taken =>
      cases taken with
      | plain name => rfl
      | array element => exact bind_assoc _ _ _
      | generic base arguments =>
        dsimp only
        cases table.catalog.findType? base with
        | none => rfl
        | some definition =>
          dsimp only
          rw [bind_assoc]
          refine congrArg (arguments.mapM (searchNested table active) >>= ·) (funext fun types => ?_)
          cases definition.instantiate types <;> rfl

/-- An element or an argument is looked for by the key of its name, if there is one. -/
theorem searchNested_eq (active : List TypeKey) (name : String) :
    searchNested table active name =
      match table.keyOf? name with
      | some key => searchKey table active key
      | none => searchAlone table active name := by
  rw [searchNested]
  rfl

/-- Without captured fields, an entry has the type that its name alone stands for. -/
theorem attempt_judge (active : List TypeKey) {entry : TypeEntry}
    (bare : entry.structural = false) :
    (attempt (searchName table active entry.name) >>= judge table active entry) =
      searchAlone table active entry.name := by
  refine funext fun found => ?_
  have attempted : (attempt (searchName table active entry.name)).run found =
    (.ok ((searchName table active entry.name).run found).1,
      ((searchName table active entry.name).run found).2) := rfl
  show (attempt (searchName table active entry.name) >>= judge table active entry).run found =
    (searchAlone table active entry.name).run found
  rw [searchAlone, Running.run_bind, Running.run_bind, attempted]
  rcases (searchName table active entry.name).run found with ⟨error | byName, noted⟩
  · dsimp only
    unfold judge verdict
    rw [bare]
    cases error <;> rfl
  · dsimp only
    unfold judge verdict
    rw [bare]
    cases byName <;> rfl

/-- Fields with types that fit, one by one, are those that are made of captured fields and of types
that fit. The first form is how a search finds them, the second how the rules say it. -/
theorem receivedFields_iff {fits : FieldEntry → DataType → Prop} {fields : List FieldEntry}
    {made : List (Field DataType)} :
    (fields.length = made.length ∧ ∀ pair ∈ fields.zip made,
        ∃ type, fits pair.1 type ∧ pair.2 = ⟨pair.1.name, type, true⟩) ↔
      ∃ types, fields.length = types.length ∧ (∀ pair ∈ fields.zip types, fits pair.1 pair.2) ∧
        made = receivedFields fields types := by
  constructor
  · rintro ⟨lengths, each⟩
    induction fields generalizing made with
    | nil => exact ⟨[], rfl, List.forall_mem_nil _, List.eq_nil_of_length_eq_zero lengths.symm⟩
    | cons field rest inductionHypothesis =>
      cases made with
      | nil => cases lengths
      | cons first others =>
        obtain ⟨⟨type, fitting, same⟩, later⟩ := List.forall_mem_cons.mp each
        obtain ⟨types, typeLengths, fit, rfl⟩ := inductionHypothesis (Nat.succ.inj lengths) later
        exact ⟨type :: types, congrArg Nat.succ typeLengths,
          List.forall_mem_cons.mpr ⟨fitting, fit⟩, congrArg (· :: _) same⟩
  · rintro ⟨types, lengths, fit, rfl⟩
    induction fields generalizing types with
    | nil => exact ⟨rfl, List.forall_mem_nil _⟩
    | cons field rest inductionHypothesis =>
      cases types with
      | nil => cases lengths
      | cons type types =>
        obtain ⟨fitting, later⟩ := List.forall_mem_cons.mp fit
        obtain ⟨madeLengths, each⟩ := inductionHypothesis types (Nat.succ.inj lengths) later
        exact ⟨congrArg Nat.succ madeLengths,
          List.forall_mem_cons.mpr ⟨⟨type, fitting, rfl⟩, each⟩⟩

theorem settles_searchField {active : List TypeKey} {field : FieldEntry}
    (settles : Settles table (searchKey table active field.key) (Resolves table (.key field.key))) :
    Settles table (searchField table active field) fun made =>
      ∃ type, Resolves table (.key field.key) type ∧ made = ⟨field.name, type, true⟩ :=
  settles_bind settles fun _ _ => settles_pure fun _ => Iff.rfl

theorem settles_instantiate (definition : DataType) (types : List DataType) :
    Settles table (match definition.instantiate types with
      | .ok type => (pure type : SearchM DataType)
      | .error error => throw error) (definition.instantiate types = .ok ·) := by
  cases definition.instantiate types with
  | error error => exact settles_throw fun _ same => by cases same
  | ok type =>
    refine settles_pure fun other => ?_
    rw [Except.ok.injEq]
    exact eq_comm

/-- With captured fields, an entry of a plain name has the type of the catalog or the captured
record. -/
theorem settles_structural (plain : table.PlainRecords) {active : List TypeKey} {key : TypeKey}
    {entry : TypeEntry} (present : table.entryOf? key = some entry)
    (structural : entry.structural = true)
    (fields : ∀ name, table.catalog.findType? entry.name = none →
      TypeName.parse entry.name = .ok (.plain name) → ∀ field ∈ entry.fields,
        Settles table (searchKey table active field.key) (Resolves table (.key field.key))) :
    Settles table (attempt (searchName table active entry.name) >>= judge table active entry)
      (Resolves table (.key key)) := by
  rw [searchName_eq]
  cases known : table.catalog.findType? entry.name with
  | some type =>
    refine settles_pure fun other => ?_
    rw [resolves_key_iff present, resolves_known_iff known]
    exact or_iff_left fun ⟨unknown, _⟩ => by cases known.symm.trans unknown
  | none =>
    obtain ⟨noArray, noInstance⟩ := plain entry (List.mem_of_find?_eq_some present) structural
    cases parsed : TypeName.parse entry.name with
    | error error =>
      obtain ⟨fault, rfl⟩ := TypeName.malformed_of_parse parsed
      refine settles_throw fun type resolves => ?_
      rcases (resolves_key_iff present).mp resolves with named | ⟨_, ⟨_, parsedAgain⟩, _⟩
      · exact not_resolves_malformed known parsed named
      · cases parsed.symm.trans parsedAgain
    | ok taken =>
      cases taken with
      | array element => exact absurd parsed (noArray element)
      | generic base arguments => exact absurd parsed (noInstance base arguments)
      | plain name =>
        have judged : judge table active entry (.ok none) = (do
            let fields ← entry.fields.mapM (searchField table active)
            return .record entry.name fields true) := by
          unfold judge verdict
          simp only [structural, if_true]
        have made := settles_mapM fun field member =>
          settles_searchField (fields name known parsed field member)
        have fitting := @receivedFields_iff (fun field => Resolves table (.key field.key))
          entry.fields
        show Settles table (judge table active entry (.ok none)) _
        rw [judged]
        refine (settles_bind made fun fields _ => settles_pure fun _ => Iff.rfl).congr fun type => ?_
        rw [resolves_key_iff present, or_iff_right (not_resolves_plain known parsed)]
        constructor
        · rintro ⟨fields, fit, rfl⟩
          obtain ⟨types, lengths, resolves, rfl⟩ := fitting.mp fit
          exact ⟨known, ⟨name, parsed⟩, structural, types, lengths, resolves, rfl⟩
        · rintro ⟨_, _, _, types, lengths, resolves, rfl⟩
          exact ⟨_, fitting.mpr ⟨types, lengths, resolves, rfl⟩, rfl⟩

mutual

/-- The search for a key comes to what the rules say. -/
theorem settles_searchKey (plain : table.PlainRecords) {active : List TypeKey} {key : TypeKey}
    (below : table.Below (.key key) active) :
    Settles table (searchKey table active key) (Resolves table (.key key)) := by
  rw [searchKey_eq]
  refine settles_recall ?_
  cases present : table.entryOf? key with
  | none =>
    refine settles_throw fun type resolves => ?_
    cases resolves with
    | named presentAgain => cases present.symm.trans presentAgain
    | captured presentAgain => cases present.symm.trans presentAgain
  | some entry =>
    dsimp only
    split
    · rename_i busy
      refine settles_throw fun type resolves => ?_
      exact resolves.not_demands_itself (below key (List.contains_iff_mem.mp busy))
    · rename_i idle
      have inactive : active.contains key = false := Bool.eq_false_iff.mpr idle
      have judged : Settles table
          (attempt (searchName table (key :: active) entry.name) >>=
            judge table (key :: active) entry) (Resolves table (.key key)) := by
        cases structural : entry.structural with
        | false =>
          rw [attempt_judge _ structural]
          refine (settles_searchAlone plain (below.entered (.name present))).congr fun type => ?_
          rw [resolves_key_iff present, structural]
          exact (or_iff_left fun ⟨_, _, bare, _⟩ => by cases bare).symm
        | true =>
          refine settles_structural plain present structural fun name unknown parsed field member => ?_
          exact settles_searchKey plain (below.entered (.field present unknown parsed member))
      rw [← bind_assoc]
      refine (settles_bind judged fun type resolves => settles_note resolves).congr fun type => ?_
      exact ⟨fun ⟨_, resolves, same⟩ => same ▸ resolves, fun resolves => ⟨type, resolves, rfl⟩⟩
termination_by (table.openEntries active, 0)
decreasing_by all_goals exact Prod.Lex.left _ _ (openEntries_cons_lt ‹_› ‹_›)

/-- The search for a name alone comes to what the rules say. -/
theorem settles_searchAlone (plain : table.PlainRecords) {active : List TypeKey} {name : String}
    (below : table.Below (.name name) active) :
    Settles table (searchAlone table active name) (Resolves table (.name name)) := by
  rw [searchAlone_eq]
  cases known : table.catalog.findType? name with
  | some type => exact settles_pure fun other => resolves_known_iff known
  | none =>
    cases parsed : TypeName.parse name with
    | error error => exact settles_throw fun _ => not_resolves_malformed known parsed
    | ok taken =>
      cases taken with
      | plain name => exact settles_throw fun _ => not_resolves_plain known parsed
      | array element =>
        have shorter := TypeName.length_lt_of_parse_array parsed
        have found := settles_searchNested plain (below.demanded (.element known parsed))
        exact (settles_bind found fun _ _ => settles_pure fun _ => Iff.rfl).congr fun type =>
          (resolves_array_iff known parsed).symm
      | generic base arguments =>
        dsimp only
        cases based : table.catalog.findType? base with
        | none =>
          refine settles_throw fun type resolves => ?_
          obtain ⟨_, _, found, _⟩ := (resolves_generic_iff known parsed).mp resolves
          cases based.symm.trans found
        | some definition =>
          have each := settles_mapM fun argument member =>
            have shorter := TypeName.length_lt_of_parse_generic parsed argument member
            settles_searchNested plain (below.demanded (.argument known parsed member))
          refine (settles_bind each fun types _ =>
            settles_instantiate definition types).congr fun type => ?_
          rw [resolves_generic_iff known parsed]
          constructor
          · rintro ⟨types, fit, instantiated⟩
            exact ⟨definition, types, based, fit, instantiated⟩
          · rintro ⟨_, types, found, fit, instantiated⟩
            cases based.symm.trans found
            exact ⟨types, fit, instantiated⟩
termination_by (table.openEntries active, 2 * name.length + 1)
decreasing_by all_goals exact Prod.Lex.right _ (by omega)

/-- The search for an element or an argument comes to what the rules say. -/
theorem settles_searchNested (plain : table.PlainRecords) {active : List TypeKey} {name : String}
    (below : table.Below (table.goalOf name) active) :
    Settles table (searchNested table active name) (Resolves table (table.goalOf name)) := by
  rw [searchNested_eq]
  cases found : table.keyOf? name with
  | some key =>
    have same : table.goalOf name = .key key := by rw [goalOf, found]
    rw [same] at below ⊢
    exact settles_searchKey plain below
  | none =>
    have same : table.goalOf name = .name name := by rw [goalOf, found]
    rw [same] at below ⊢
    exact settles_searchAlone plain below
termination_by (table.openEntries active, 2 * name.length + 2)
decreasing_by all_goals exact Prod.Lex.right _ (by omega)

end

end Searching

end TypeTable

end PredicateWire
