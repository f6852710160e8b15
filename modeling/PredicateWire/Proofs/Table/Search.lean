/-
This file says which type a name is received as, without the search that finds it, and
proves that the search finds it. `Received` has one rule for every way in which a name
can get a type. The search refuses keys that are in progress and notes what it has
found; neither can be seen from outside, because a name that has a type does not need
itself to get it, and because what is noted is what the rules say.

The table is sound here, as the tables of senders are, and so a key and its name are the
same thing: the rules speak of names only. Two directions are needed. The rules give a
name one type at most (`Received.unique`), and the search finds it, by the name and by
the key, while no key in progress needs it (`Received.found`). From there on receivers
are reasoned about by the rules.
-/
import PredicateWire.Proofs.Table.Growth
import PredicateWire.Proofs.Table.Steps

namespace PredicateWire

namespace TypeTable

/-! ### Rules for the types of names -/

/-- The name of a key. -/
def nameOf (table : TypeTable) (key : TypeKey) : String :=
  ((table.entryOf? key).map TypeEntry.name).getD ""

/-- The fields that a record gets from captured ones, when their types are known. -/
def receivedFields (fields : List FieldEntry) (types : List DataType) : List (Field DataType) :=
  List.zipWith (fun field type => ⟨field.name, type, true⟩) fields types

/-- The type that a name is received as. A name of the catalog stands for the type there, the
name of an array or an instance for the type made of its parts, and any other name for the record
with the captured fields. -/
inductive Received (table : TypeTable) : String → DataType → Prop
  | known {name : String} {type : DataType} (found : table.catalog.findType? name = some type) :
    Received table name type
  | array {name element : String} {type : DataType}
    (unknown : table.catalog.findType? name = none)
    (parsed : TypeName.parse name = .ok (.array element)) (received : Received table element type) :
    Received table name (.array type)
  | generic {name base : String} {arguments : List String} {definition type : DataType}
    {types : List DataType} (unknown : table.catalog.findType? name = none)
    (parsed : TypeName.parse name = .ok (.generic base arguments))
    (found : table.catalog.findType? base = some definition)
    (lengths : arguments.length = types.length)
    (received : ∀ pair ∈ arguments.zip types, Received table pair.1 pair.2)
    (instantiated : definition.instantiate types = .ok type) : Received table name type
  | captured {name plain : String} {entry : TypeEntry} {types : List DataType}
    (unknown : table.catalog.findType? name = none)
    (parsed : TypeName.parse name = .ok (.plain plain)) (held : entry ∈ table.entries)
    (named : entry.name = name) (structural : entry.structural = true)
    (lengths : entry.fields.length = types.length)
    (received : ∀ pair ∈ entry.fields.zip types, Received table (table.nameOf pair.1.key) pair.2) :
    Received table name (.record name (receivedFields entry.fields types) true)

/-- One name is needed to get the type of another. -/
inductive Needs (table : TypeTable) : String → String → Prop
  | element {name element : String} (unknown : table.catalog.findType? name = none)
    (parsed : TypeName.parse name = .ok (.array element)) : Needs table element name
  | argument {name base argument : String} {arguments : List String}
    (unknown : table.catalog.findType? name = none)
    (parsed : TypeName.parse name = .ok (.generic base arguments))
    (member : argument ∈ arguments) : Needs table argument name
  | field {name plain : String} {entry : TypeEntry} {field : FieldEntry}
    (unknown : table.catalog.findType? name = none)
    (parsed : TypeName.parse name = .ok (.plain plain)) (held : entry ∈ table.entries)
    (named : entry.name = name) (member : field ∈ entry.fields) :
    Needs table (table.nameOf field.key) name

/-! ### One type for a name -/

/-- Things that differ in what is read off them are the same when the readings agree. -/
theorem eq_of_nodup_map {Item Content : Type} {read : Item → Content} {items : List Item}
    (nodup : (items.map read).Nodup) {first second : Item} (firstMember : first ∈ items)
    (secondMember : second ∈ items) (same : read first = read second) : first = second := by
  induction items with
  | nil => cases firstMember
  | cons item rest inductionHypothesis =>
    rw [List.map_cons, List.nodup_cons] at nodup
    rcases List.mem_cons.mp firstMember with rfl | firstLater <;>
      rcases List.mem_cons.mp secondMember with rfl | secondLater
    · rfl
    · exact absurd (same ▸ List.mem_map_of_mem secondLater) nodup.1
    · exact absurd (same ▸ List.mem_map_of_mem firstLater) nodup.1
    · exact inductionHypothesis nodup.2 firstLater secondLater

/-- Lists of contents are the same if they agree on each item. -/
theorem eq_of_zip {Item Content : Type} {items : List Item} {left right : List Content}
    (leftLength : items.length = left.length) (rightLength : items.length = right.length)
    (agree : ∀ pair ∈ items.zip left, ∀ other, (pair.1, other) ∈ items.zip right →
      pair.2 = other) : left = right := by
  induction items generalizing left right with
  | nil =>
    rw [List.eq_nil_of_length_eq_zero leftLength.symm, List.eq_nil_of_length_eq_zero rightLength.symm]
  | cons item rest inductionHypothesis =>
    cases left with
    | nil => cases leftLength
    | cons first left =>
      cases right with
      | nil => cases rightLength
      | cons second right =>
        have heads : first = second := agree (item, first) (.head _) second (.head _)
        have tails : left = right :=
          inductionHypothesis (Nat.succ.inj leftLength) (Nat.succ.inj rightLength)
            fun pair member other otherMember => agree pair (.tail _ member) other
              (.tail _ otherMember)
        rw [heads, tails]

/-- Every item has a content where there are as many contents as items. -/
theorem exists_mem_zip {Item Content : Type} {items : List Item} {contents : List Content}
    (lengths : items.length = contents.length) {item : Item} (member : item ∈ items) :
    ∃ content, (item, content) ∈ items.zip contents := by
  induction items generalizing contents with
  | nil => cases member
  | cons first rest inductionHypothesis =>
    cases contents with
    | nil => cases lengths
    | cons content contents =>
      rcases List.mem_cons.mp member with rfl | later
      · exact ⟨content, .head _⟩
      · obtain ⟨found, pairMember⟩ := inductionHypothesis (Nat.succ.inj lengths) later
        exact ⟨found, .tail _ pairMember⟩

section Rules

variable {table : TypeTable}

/-- The rules give a name one type at most. -/
theorem Received.unique (sound : table.Sound) {name : String} {type other : DataType}
    (received : Received table name type) (otherwise : Received table name other) :
    type = other := by
  induction received generalizing other with
  | known found =>
    cases otherwise with
    | known foundAgain => exact Option.some.inj (found.symm.trans foundAgain)
    | array unknown => cases found.symm.trans unknown
    | generic unknown => cases found.symm.trans unknown
    | captured unknown => cases found.symm.trans unknown
  | array unknown parsed _ inductionHypothesis =>
    cases otherwise with
    | known found => cases found.symm.trans unknown
    | array _ parsedAgain receivedAgain =>
      cases parsed.symm.trans parsedAgain
      rw [inductionHypothesis receivedAgain]
    | generic _ parsedAgain => cases parsed.symm.trans parsedAgain
    | captured _ parsedAgain => cases parsed.symm.trans parsedAgain
  | generic unknown parsed found lengths _ instantiated inductionHypothesis =>
    cases otherwise with
    | known found => cases found.symm.trans unknown
    | array _ parsedAgain => cases parsed.symm.trans parsedAgain
    | generic _ parsedAgain foundAgain lengthsAgain receivedAgain instantiatedAgain =>
      cases parsed.symm.trans parsedAgain
      cases found.symm.trans foundAgain
      have same := eq_of_zip lengths lengthsAgain fun pair member other otherMember =>
        inductionHypothesis pair member (receivedAgain _ otherMember)
      rw [same] at instantiated
      exact Except.ok.inj (instantiated.symm.trans instantiatedAgain)
    | captured _ parsedAgain => cases parsed.symm.trans parsedAgain
  | captured unknown parsed held named structural lengths _ inductionHypothesis =>
    cases otherwise with
    | known found => cases found.symm.trans unknown
    | array _ parsedAgain => cases parsed.symm.trans parsedAgain
    | generic _ parsedAgain => cases parsed.symm.trans parsedAgain
    | captured _ parsedAgain heldAgain namedAgain _ lengthsAgain receivedAgain =>
      cases eq_of_nodup_map sound.names held heldAgain (named.trans namedAgain.symm)
      have same := eq_of_zip lengths lengthsAgain fun pair member other otherMember =>
        inductionHypothesis pair member (receivedAgain _ otherMember)
      rw [same]

/-- A name that has a type does not need itself to get it. -/
theorem Received.accessible (sound : table.Sound) {name : String} {type : DataType}
    (received : Received table name type) : Acc (Needs table) name := by
  induction received with
  | known found =>
    refine ⟨_, fun needed needs => ?_⟩
    cases needs with
    | element unknown => cases found.symm.trans unknown
    | argument unknown => cases found.symm.trans unknown
    | field unknown => cases found.symm.trans unknown
  | array unknown parsed _ inductionHypothesis =>
    refine ⟨_, fun needed needs => ?_⟩
    cases needs with
    | element _ parsedAgain =>
      cases parsed.symm.trans parsedAgain
      exact inductionHypothesis
    | argument _ parsedAgain => cases parsed.symm.trans parsedAgain
    | field _ parsedAgain => cases parsed.symm.trans parsedAgain
  | generic unknown parsed found lengths _ instantiated inductionHypothesis =>
    refine ⟨_, fun needed needs => ?_⟩
    cases needs with
    | element _ parsedAgain => cases parsed.symm.trans parsedAgain
    | argument _ parsedAgain member =>
      cases parsed.symm.trans parsedAgain
      obtain ⟨type, pairMember⟩ := exists_mem_zip lengths member
      exact inductionHypothesis _ pairMember
    | field _ parsedAgain => cases parsed.symm.trans parsedAgain
  | captured unknown parsed held named structural lengths _ inductionHypothesis =>
    refine ⟨_, fun needed needs => ?_⟩
    cases needs with
    | element _ parsedAgain => cases parsed.symm.trans parsedAgain
    | argument _ parsedAgain => cases parsed.symm.trans parsedAgain
    | field _ _ heldAgain namedAgain member =>
      cases eq_of_nodup_map sound.names held heldAgain (named.trans namedAgain.symm)
      obtain ⟨type, pairMember⟩ := exists_mem_zip lengths member
      exact inductionHypothesis _ pairMember

/-- What can be reached from below does not stand below itself. -/
theorem not_of_acc {Item : Type} {relation : Item → Item → Prop} {item : Item}
    (accessible : Acc relation item) : ¬relation item item := by
  induction accessible with
  | intro item _ inductionHypothesis =>
    exact fun related => inductionHypothesis item related related

/-- A name that has a type does not need itself, directly or through others. -/
theorem Received.not_needs_itself (sound : table.Sound) {name : String} {type : DataType}
    (received : Received table name type) : ¬Relation.TransGen (Needs table) name name :=
  not_of_acc (received.accessible sound).transGen

end Rules

/-! ### Searches that succeed -/

/-- Everything noted is what the rules say about the name of the key. -/
def Faithful (table : TypeTable) (found : Found) : Prop :=
  ∀ noted ∈ found, ∃ entry ∈ table.entries, entry.key = noted.1 ∧
    Received table entry.name noted.2

/-- A search yields a result whatever has been noted already, and notes nothing wrong. -/
structure Finds {Content : Type} (table : TypeTable) (search : SearchM Content)
    (result : Content) : Prop where
  run : ∀ {found}, Faithful table found →
    ∃ noted, search.run found = (.ok result, noted) ∧ Faithful table noted

section Finding

variable {table : TypeTable} {First Second : Type}

theorem finds_pure (result : First) : Finds table (pure result) result :=
  ⟨fun faithful => ⟨_, rfl, faithful⟩⟩

/-- Searches in a row find their results one after another. -/
theorem finds_bind {search : SearchM First} {next : First → SearchM Second} {content : First}
    {result : Second} (first : Finds table search content)
    (second : Finds table (next content) result) : Finds table (search >>= next) result := by
  refine ⟨fun {found} faithful => ?_⟩
  obtain ⟨middle, ran, middleFaithful⟩ := first.run faithful
  obtain ⟨noted, nextRan, notedFaithful⟩ := second.run middleFaithful
  refine ⟨noted, ?_, notedFaithful⟩
  show ExceptT.bindCont next (search.run found).1 (search.run found).2 = _
  rw [ran]
  exact nextRan

/-- A search that finds something succeeds when it is tried. -/
theorem finds_attempt {search : SearchM First} {content : First}
    (finds : Finds table search content) : Finds table (attempt search) (.ok content) := by
  refine ⟨fun {found} faithful => ?_⟩
  obtain ⟨noted, ran, notedFaithful⟩ := finds.run faithful
  refine ⟨noted, ?_, notedFaithful⟩
  show (Except.ok (search.run found).1, (search.run found).2) = _
  rw [ran]

theorem finds_mapM {search : First → SearchM Second} {items : List First}
    {results : List Second} (lengths : items.length = results.length)
    (each : ∀ pair ∈ items.zip results, Finds table (search pair.1) pair.2) :
    Finds table (items.mapM search) results := by
  induction items generalizing results with
  | nil =>
    rw [List.eq_nil_of_length_eq_zero lengths.symm]
    exact finds_pure _
  | cons item rest inductionHypothesis =>
    cases results with
    | nil => cases lengths
    | cons result results =>
      rw [List.mapM_cons]
      refine finds_bind (each (item, result) (.head _)) ?_
      refine finds_bind (inductionHypothesis (Nat.succ.inj lengths) fun pair member =>
        each pair (.tail _ member)) ?_
      exact finds_pure _

/-- A search may look at what has been noted. -/
theorem finds_get {next : Found → SearchM First} {result : First}
    (each : ∀ found, Faithful table found → Finds table (next found) result) :
    Finds table (get >>= next) result :=
  ⟨fun faithful => (each _ faithful).run faithful⟩

/-- What the rules say may be noted. -/
theorem finds_note {entry : TypeEntry} {type : DataType} (held : entry ∈ table.entries)
    (received : Received table entry.name type) :
    Finds table (do modify fun noted => (entry.key, type) :: noted; return type) type := by
  refine ⟨fun {found} faithful => ⟨_, rfl, fun noted member => ?_⟩⟩
  rcases List.mem_cons.mp member with rfl | earlier
  · exact ⟨entry, held, rfl, received⟩
  · exact faithful noted earlier

end Finding

/-! ### The search finds what the rules say -/

/-- Every key in progress needs a name. -/
def InProgress (table : TypeTable) (name : String) (active : List TypeKey) : Prop :=
  ∀ key ∈ active, ∃ entry ∈ table.entries, entry.key = key ∧
    Relation.TransGen (Needs table) name entry.name

/-- A key and a name are both found to be of a type, while keys that need the name are in
progress. -/
structure Found? (table : TypeTable) (name : String) (type : DataType) : Prop where
  byKey : ∀ {entry active}, entry ∈ table.entries → entry.name = name →
    InProgress table name active → Finds table (searchKey table active entry.key) type
  nested : ∀ {active}, InProgress table name active →
    Finds table (searchNested table active name) type

section Searching

variable {table : TypeTable}

/-- Where keys are different, each entry is the one of its key. -/
theorem entryOf?_of_mem (keys : (table.entries.map TypeEntry.key).Nodup) {entry : TypeEntry}
    (held : entry ∈ table.entries) : table.entryOf? entry.key = some entry := by
  have present := hasKey_iff.mpr ⟨entry, held, rfl⟩
  obtain ⟨other, found⟩ := Option.isSome_iff_exists.mp present
  have tested := List.find?_some found
  have same : other.key = entry.key := eq_of_beq tested
  rw [found, eq_of_nodup_map keys (List.mem_of_find?_eq_some found) held same]

/-- In a sound table each entry is the one of its key. -/
theorem entryOf?_key (sound : table.Sound) {entry : TypeEntry} (held : entry ∈ table.entries) :
    table.entryOf? entry.key = some entry :=
  entryOf?_of_mem sound.keys held

/-- The name of a key is that of its entry. -/
theorem nameOf_key (sound : table.Sound) {entry : TypeEntry} (held : entry ∈ table.entries) :
    table.nameOf entry.key = entry.name := by
  rw [nameOf, entryOf?_key sound held]
  rfl

/-- The key of a name is that of its entry, since names are different. -/
theorem keyOf?_name (sound : table.Sound) {entry : TypeEntry} (held : entry ∈ table.entries) :
    table.keyOf? entry.name = some entry.key := by
  cases found : table.keyOf? entry.name with
  | none => exact absurd rfl (keyOf?_eq_none.mp found entry held)
  | some key =>
    obtain ⟨other, otherHeld, rfl, named⟩ := exists_entry_of_keyOf? found
    rw [eq_of_nodup_map sound.names otherHeld held named]

/-- A name is looked for below the key of its entry, which then is in progress as well. -/
theorem InProgress.cons {name : String} {active : List TypeKey} {entry : TypeEntry}
    (held : entry ∈ table.entries) (progress : InProgress table entry.name active)
    (needs : Needs table name entry.name) : InProgress table name (entry.key :: active) := by
  intro key member
  rcases List.mem_cons.mp member with rfl | earlier
  · exact ⟨entry, held, rfl, .single needs⟩
  · obtain ⟨other, otherHeld, same, needed⟩ := progress key earlier
    exact ⟨other, otherHeld, same, (Relation.TransGen.single needs).trans needed⟩

/-- What a name needs is needed by all that needs the name. -/
theorem InProgress.weaken {name needed : String} {active : List TypeKey}
    (progress : InProgress table name active) (needs : Needs table needed name) :
    InProgress table needed active := by
  intro key member
  obtain ⟨entry, held, same, below⟩ := progress key member
  exact ⟨entry, held, same, (Relation.TransGen.single needs).trans below⟩

/-- A key in progress needs the name that is looked for, so the key of the name is not among
them. -/
theorem InProgress.idle (sound : table.Sound) {entry : TypeEntry} {type : DataType}
    (held : entry ∈ table.entries) (received : Received table entry.name type)
    {active : List TypeKey} (progress : InProgress table entry.name active) :
    active.contains entry.key = false := by
  refine Bool.eq_false_iff.mpr fun present => ?_
  obtain ⟨other, otherHeld, same, needed⟩ := progress _ (List.contains_iff_mem.mp present)
  rw [eq_of_nodup_map sound.keys otherHeld held same] at needed
  exact received.not_needs_itself sound needed

/-- A key is found by what its entry is judged to be, unless it is in progress. -/
theorem finds_searchKey (sound : table.Sound) {entry : TypeEntry} {type : DataType}
    {active : List TypeKey} (held : entry ∈ table.entries)
    (received : Received table entry.name type) (idle : active.contains entry.key = false)
    {byName : Option DataType}
    (named : Finds table (searchName table (entry.key :: active) entry.name) byName)
    (judged : Finds table (judge table (entry.key :: active) entry (.ok byName)) type) :
    Finds table (searchKey table active entry.key) type := by
  rw [searchKey_eq]
  refine finds_get fun found faithful => ?_
  split
  · rename_i noted seen
    obtain ⟨other, otherHeld, same, otherReceived⟩ :=
      faithful noted (List.mem_of_find?_eq_some seen)
    have tested := List.find?_some seen
    rw [eq_of_nodup_map sound.keys otherHeld held (same.trans (eq_of_beq tested))]
      at otherReceived
    rw [otherReceived.unique sound received]
    exact finds_pure type
  · rw [entryOf?_key sound held]
    dsimp only
    rw [if_neg (Bool.eq_false_iff.mp idle)]
    exact finds_bind (finds_attempt named) (finds_bind judged (finds_note held received))

/-- A name that the search by name gives a type is found, by its key as well. -/
theorem found?_of_name (sound : table.Sound) {name : String} {type : DataType}
    (received : Received table name type)
    (byName : ∀ {active}, (∀ needed, Needs table needed name → InProgress table needed active) →
      Finds table (searchName table active name) (some type)) : Found? table name type := by
  have byKey : ∀ {entry active}, entry ∈ table.entries → entry.name = name →
      InProgress table name active → Finds table (searchKey table active entry.key) type := by
    rintro entry active held rfl progress
    refine finds_searchKey sound held received (progress.idle sound held received)
      (byName fun needed needs => progress.cons held needs) (finds_pure type)
  refine ⟨byKey, fun progress => ?_⟩
  rw [searchNested]
  split
  · rename_i key found
    obtain ⟨entry, held, rfl, named⟩ := exists_entry_of_keyOf? found
    exact byKey held named progress
  · refine finds_bind (byName fun needed needs => progress.weaken needs) ?_
    exact finds_pure type

/-- The types of fields are found if those of their keys are. -/
theorem finds_fields {active : List TypeKey} {fields : List FieldEntry} {types : List DataType}
    (lengths : fields.length = types.length)
    (each : ∀ pair ∈ fields.zip types, Finds table (searchKey table active pair.1.key) pair.2) :
    Finds table (fields.mapM (searchField table active)) (receivedFields fields types) := by
  induction fields generalizing types with
  | nil => exact finds_pure _
  | cons field rest inductionHypothesis =>
    cases types with
    | nil => cases lengths
    | cons type types =>
      rw [List.mapM_cons]
      have first : Finds table (searchField table active field) ⟨field.name, type, true⟩ :=
        finds_bind (each (field, type) (.head _)) (finds_pure _)
      refine finds_bind first ?_
      refine finds_bind (inductionHypothesis (Nat.succ.inj lengths) fun pair member =>
        each pair (.tail _ member)) ?_
      exact finds_pure _

/-- The search finds for every name what the rules say. -/
theorem Received.found (sound : table.Sound) {name : String} {type : DataType}
    (received : Received table name type) : Found? table name type := by
  induction received with
  | @known name type found =>
    refine found?_of_name sound (.known found) fun _ => ?_
    simp only [searchName_eq, found]
    exact finds_pure _
  | @array name element type unknown parsed received inductionHypothesis =>
    refine found?_of_name sound (.array unknown parsed received) fun below => ?_
    simp only [searchName_eq, unknown, parsed]
    refine finds_bind (inductionHypothesis.nested (below _ (.element unknown parsed))) ?_
    exact finds_pure _
  | @generic name base arguments definition type types unknown parsed found lengths received
      instantiated inductionHypothesis =>
    refine found?_of_name sound (.generic unknown parsed found lengths received instantiated)
      fun {active} below => ?_
    simp only [searchName_eq, unknown, parsed, found]
    refine finds_bind (finds_mapM lengths fun pair member =>
      (inductionHypothesis pair member).nested (below _ (.argument unknown parsed
        (List.of_mem_zip member).1))) ?_
    rw [instantiated]
    exact finds_pure _
  | @captured name plain entry types unknown parsed held named structural lengths received
      inductionHypothesis =>
    have whole : Received table name (.record name (receivedFields entry.fields types) true) :=
      .captured unknown parsed held named structural lengths received
    subst named
    have byKey : ∀ {active}, InProgress table entry.name active →
        Finds table (searchKey table active entry.key)
          (.record entry.name (receivedFields entry.fields types) true) := by
      intro active progress
      have named : Finds table (searchName table (entry.key :: active) entry.name) none := by
        simp only [searchName_eq, unknown, parsed]
        exact finds_pure _
      refine finds_searchKey sound held whole (progress.idle sound held whole) named ?_
      rw [judge, verdict, structural]
      refine finds_bind (finds_fields lengths fun pair member => ?_) (finds_pure _)
      have fieldMember : pair.1 ∈ entry.fields := (List.of_mem_zip member).1
      obtain ⟨other, otherHeld, same⟩ := hasKey_iff.mp (sound.fields entry held _ fieldMember)
      have otherNamed : other.name = table.nameOf pair.1.key := by
        rw [← same, nameOf_key sound otherHeld]
      rw [← same]
      exact (inductionHypothesis pair member).byKey otherHeld otherNamed
        (progress.cons held (.field unknown parsed held rfl fieldMember))
    refine ⟨?_, fun progress => ?_⟩
    · intro other active otherHeld same progress
      rw [eq_of_nodup_map sound.names otherHeld held same]
      exact byKey progress
    · rw [searchNested, keyOf?_name sound held]
      exact byKey progress

end Searching

/-! ### Types of keys -/

section Resolving

variable {base : TypeTable}

/-- The rules look at the catalog and the entries only. -/
theorem Received.congr {name : String} {type : DataType} (received : Received base name type)
    (table : TypeTable) (catalog : table.catalog = base.catalog)
    (entries : table.entries = base.entries) : Received table name type := by
  induction received with
  | known found => exact .known (catalog ▸ found)
  | array unknown parsed _ inductionHypothesis =>
    exact .array (catalog ▸ unknown) parsed inductionHypothesis
  | generic unknown parsed found lengths _ instantiated inductionHypothesis =>
    exact .generic (catalog ▸ unknown) parsed (catalog ▸ found) lengths inductionHypothesis
      instantiated
  | captured unknown parsed held named structural lengths _ inductionHypothesis =>
    refine .captured (catalog ▸ unknown) parsed (entries ▸ held) named structural lengths
      fun pair member => ?_
    have named : table.nameOf pair.1.key = base.nameOf pair.1.key := by
      rw [nameOf, nameOf, entryOf?, entryOf?, entries]
    rw [named]
    exact inductionHypothesis pair member

/-- What has been noted rightly in a table is right in one with the same catalog and entries. -/
theorem Faithful.congr {found : Found} (faithful : Faithful base found) (table : TypeTable)
    (catalog : table.catalog = base.catalog) (entries : table.entries = base.entries) :
    Faithful table found := by
  intro noted member
  obtain ⟨entry, held, same, received⟩ := faithful noted member
  exact ⟨entry, entries ▸ held, same, received.congr table catalog entries⟩

/-- A table is a stage of another when it differs only in what has been noted, and nothing wrong
has. -/
def Stage (base table : TypeTable) : Prop :=
  ∃ found, table = { base with resolved := found } ∧ Faithful base found

/-- The key of a type is found to be of the type that its name is received as. -/
theorem resolve_run {table : TypeTable} (sound : base.Sound) (stage : Stage base table)
    {spoken type : DataType} (knows : base.Knows spoken)
    (received : Received base spoken.canonicalName type) :
    ∃ after, (resolve (base.keyFor spoken)).run table = (.ok type, after) ∧ Stage base after := by
  obtain ⟨found, rfl, faithful⟩ := stage
  obtain ⟨entry, held, same, named⟩ := exists_entry_of_keyOf? (keyOf?_of_knows knows)
  have tableSound : Sound { base with resolved := found } := sound.congr _ rfl
  have tableReceived : Received { base with resolved := found } spoken.canonicalName type :=
    received.congr { base with resolved := found } rfl rfl
  have idle : InProgress { base with resolved := found } spoken.canonicalName [] :=
    fun _ member => nomatch member
  have finds := (tableReceived.found tableSound).byKey held named idle
  obtain ⟨noted, ran, notedFaithful⟩ :=
    finds.run (faithful.congr { base with resolved := found } rfl rfl)
  refine ⟨{ base with resolved := noted }, ?_, noted, rfl, notedFaithful.congr base rfl rfl⟩
  show (match (searchKey { base with resolved := found } [] (base.keyFor spoken)).run found with
    | (outcome, noted) => (outcome, { base with resolved := noted })) = _
  rw [← same, ran]

end Resolving

end TypeTable

end PredicateWire
