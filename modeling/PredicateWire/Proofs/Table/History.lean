/-
This file proves what the indexes of a type table say after any use of it. A use packs a
type without parameters, loads entries, or looks for a key or a name, with or without
success. One use keeps the table consistent and settled, and so does every history of
uses. The main result, `represents_used`, holds over canonical catalogs: a definition
that lists its parameters in another order makes types that go by other names than the
ones they are found for.

The indexes were compared with the entries before, and the names with the labels; here
the two are put together. What remains to be seen is that labels are never changed, so
that a key means the same throughout a history, and that failing leaves the table no
less in order than success.
-/
import Mathlib.Logic.Relation
import PredicateWire.Proofs.Table.Asked
import PredicateWire.Proofs.Table.Indexed
import PredicateWire.Proofs.Table.Labels

namespace PredicateWire

namespace IndexedTable

open TypeTable (Settled Keeps)

/-- The indexes say what the entries say, captured keys have structural entries, no key is in
progress, and what has been found for a key goes by the name of its entry. -/
structure Represents (table : IndexedTable) : Prop extends table.Consistent where
  captured : ∀ key ∈ table.captured, ∃ entry, table.entryAt? key = some entry ∧
    entry.structural = true
  resolved : ∀ noted ∈ table.resolved, ∃ entry, table.entryAt? noted.1 = some entry ∧
    noted.2.canonicalName = entry.name

/-- The work does to a table what other work does to the table without its indexes. -/
def Agrees (table : IndexedTable) {Content : Type} (work : IndexedM Content)
    (plain : TableM Content) : Prop :=
  plain.run table.toTypeTable = ((work.run table).1, (work.run table).2.toTypeTable)

/-- A type without parameters is packed with success, entries are loaded, or a key or a name is
looked for. -/
inductive Uses (before : IndexedTable) : IndexedTable → Prop
  | pack {key : TypeKey} {after : IndexedTable} (structural : Bool) (type : DataType)
    (closed : type.isClosed = true) (packed : (pack structural type).run before = (.ok key, after)) :
    Uses before after
  | load (entries : List TypeEntry) : Uses before ((load entries).run before).2
  | resolve (key : TypeKey) : Uses before ((resolve key).run before).2
  | resolveName (name : String) : Uses before ((resolveName name).run before).2

section

variable {table after : IndexedTable}

/-- The label of a key is that of the entry at its position. -/
theorem Consistent.entryAt?_of_label (consistent : table.Consistent) {key : TypeKey} {name : String}
    (label : (key, name) ∈ table.labels) :
    ∃ entry, table.entryAt? key = some entry ∧ entry.name = name := by
  obtain ⟨entry, member, same⟩ := List.mem_map.mp label
  cases same
  exact ⟨entry, by rw [consistent.entryAt?, TypeTable.entryOf?_of_mem consistent.keys member], rfl⟩

/-- A table that is consistent and settled says what its entries say. -/
theorem represents_of_settled (consistent : table.Consistent)
    (settled : table.Settled []) : table.Represents where
  toConsistent := consistent
  captured := fun key member => by
    rcases settled.captured key member with absent | ⟨entry, held, rfl, structural⟩
    · cases absent
    · refine ⟨entry, ?_, structural⟩
      rw [consistent.entryAt?, TypeTable.entryOf?_of_mem consistent.keys held]
  resolved := fun noted member => by
    obtain ⟨name, label, goesBy, _⟩ := settled.noted noted member
    obtain ⟨entry, found, named⟩ := consistent.entryAt?_of_label label
    exact ⟨entry, found, goesBy.trans named.symm⟩

/-- One use keeps a table consistent and settled, with its labels in front. Packing is used only
where it succeeds, since a failure may leave a captured key without fields. -/
theorem Uses.keeps (uses : Uses table after) (canonical : table.catalog.Canonical)
    (consistent : table.Consistent) (settled : table.Settled []) :
    after.Consistent ∧ Keeps [] table.toTypeTable after.toTypeTable := by
  cases uses with
  | pack structural type closed packed =>
    obtain ⟨kept, ran⟩ := (follows_pack structural type).run consistent
    rw [packed] at kept ran
    exact ⟨kept, TypeTable.keeps_pack structural closed settled ran⟩
  | load entries =>
    obtain ⟨kept, ran⟩ := (follows_load entries).run consistent
    have keeps := settled.keeps_load entries
    rw [ran] at keeps
    exact ⟨kept, keeps⟩
  | resolve key =>
    obtain ⟨kept, ran⟩ := (follows_resolve key).run consistent
    have keeps := (settled.keeps_resolve canonical consistent.keys key).1
    rw [ran] at keeps
    exact ⟨kept, keeps⟩
  | resolveName name =>
    obtain ⟨kept, ran⟩ := (follows_resolveName name).run consistent
    have keeps := (settled.keeps_resolveName canonical consistent.keys name).1
    rw [ran] at keeps
    exact ⟨kept, keeps⟩

/-- So does every history of uses. -/
theorem keeps_used (used : Relation.ReflTransGen Uses table after)
    (canonical : table.catalog.Canonical) (consistent : table.Consistent)
    (settled : table.Settled []) :
    after.Consistent ∧ Keeps [] table.toTypeTable after.toTypeTable := by
  induction used with
  | refl => exact ⟨consistent, .refl settled⟩
  | tail _ uses inductionHypothesis =>
    obtain ⟨middleConsistent, keeps⟩ := inductionHypothesis
    obtain ⟨finalConsistent, finalKeeps⟩ :=
      uses.keeps (keeps.catalog ▸ canonical) middleConsistent keeps.settled
    exact ⟨finalConsistent, keeps.trans finalKeeps⟩

/-- Where nothing has been found yet, resolving a key yields what the rules say. -/
theorem resolve_of_resolves (consistent : table.Consistent) (nothing : table.resolved = [])
    (plain : table.PlainRecords) {key : TypeKey} {type : DataType}
    (resolves : TypeTable.Resolves table.toTypeTable (.key key) type) :
    ((resolve key).run table).1 = .ok type := by
  obtain ⟨_, ran⟩ := (follows_resolve key).run consistent
  have searched : TypeTable.Searched table.toTypeTable table.toTypeTable :=
    ⟨[], by rw [← nothing], fun _ absent => by cases absent⟩
  obtain ⟨outcome, same, yields⟩ := TypeTable.resolve_searched plain key
  rw [← (yields type).mpr resolves, ← same searched, ran]

/-- What a key is resolved to goes by the name of its entry. -/
theorem canonicalName_of_resolve (canonical : table.catalog.Canonical)
    (consistent : table.Consistent) (settled : table.Settled []) {key : TypeKey} {type : DataType}
    (resolved : ((resolve key).run table).1 = .ok type) :
    ∃ entry, table.entryAt? key = some entry ∧ type.canonicalName = entry.name := by
  obtain ⟨_, ran⟩ := (follows_resolve key).run consistent
  have meets := (settled.keeps_resolve canonical consistent.keys key).2
  rw [ran, resolved] at meets
  obtain ⟨name, label, goesBy, _⟩ := meets
  obtain ⟨entry, found, named⟩ := consistent.entryAt?_of_label label
  exact ⟨entry, found, goesBy.trans named.symm⟩

end

/-- Over a canonical catalog, after any uses of a table that starts empty: its indexes say what its
entries say, no use changes or removes a label, what a key is resolved to goes by the name of its
entry, and all operations do to the table what they do without the indexes. -/
theorem represents_used {catalog : Catalog} (canonical : catalog.Canonical)
    {source : Nat → UInt32} {table : IndexedTable}
    (used : Relation.ReflTransGen Uses (empty catalog source) table) :
    table.Represents ∧
      (∀ {after}, Uses table after → table.labels <+: after.labels) ∧
      (∀ {key type}, ((resolve key).run table).1 = .ok type →
        ∃ entry, table.entryAt? key = some entry ∧ type.canonicalName = entry.name) ∧
      (∀ structural type, table.Agrees (pack structural type) (TypeTable.pack structural type)) ∧
      (∀ entries, table.Agrees (load entries) (TypeTable.load entries)) ∧
      (∀ key, table.Agrees (resolve key) (TypeTable.resolve key)) ∧
      ∀ name, table.Agrees (resolveName name) (TypeTable.resolveName name) := by
  obtain ⟨consistent, keeps⟩ := keeps_used used canonical (consistent_empty catalog source)
    (TypeTable.settled_empty catalog source)
  have suits : table.catalog.Canonical := keeps.catalog ▸ canonical
  exact ⟨represents_of_settled consistent keeps.settled,
    fun uses => (uses.keeps suits consistent keeps.settled).2.labels,
    fun resolved => canonicalName_of_resolve suits consistent keeps.settled resolved,
    fun structural type => ((follows_pack structural type).run consistent).2,
    fun entries => ((follows_load entries).run consistent).2,
    fun key => ((follows_resolve key).run consistent).2,
    fun name => ((follows_resolveName name).run consistent).2⟩

/-- The library with a definition of pairs. -/
def pairCatalog (definition : DataType) : Catalog :=
  Catalog.standard.registerType definition

/-- The entry of the pairs of an integer and a text. -/
def pairEntry : TypeEntry :=
  .plain ⟨"#1"⟩ "Pair`2[[sys.Int32],[sys.String]]"

/-- The table that is left by loading this entry, and then failing to load it again. -/
def pairTable (definition : DataType) : IndexedTable :=
  ((load [pairEntry, pairEntry]).run (empty (pairCatalog definition) UInt32.ofNat)).2

/-- Loading the entry twice is a use, though the second time fails. -/
theorem uses_pairTable (definition : DataType) :
    Relation.ReflTransGen Uses (empty (pairCatalog definition) UInt32.ofNat) (pairTable definition) :=
  .single (.load _)

/-- Resolving the key of the entry fills in the definition. -/
theorem resolve_pairTable {definition type : DataType} (named : definition.baseName = "Pair`2")
    (instantiated : definition.instantiate [.int32, .string] = .ok type) :
    ((resolve pairEntry.key).run (pairTable definition)).1 = .ok type := by
  have consistent : (pairTable definition).Consistent :=
    ((follows_load [pairEntry, pairEntry]).run (consistent_empty _ _)).1
  have plain : (pairTable definition).PlainRecords :=
    List.forall_mem_singleton.mpr fun structural => by cases structural
  have catalog : (pairTable definition).catalog = Catalog.standard.registerType definition := rfl
  have defined : (pairTable definition).catalog.findType? "Pair`2" = some definition := by
    rw [catalog, Catalog.findType?_registerType, if_pos named]
  have standard {name : String} (other : "Pair`2" ≠ name) :
      (pairTable definition).catalog.findType? name = Catalog.standard.findType? name := by
    rw [catalog, Catalog.findType?_registerType, named, if_neg other]
  have number : TypeTable.Resolves (pairTable definition).toTypeTable (.name "sys.Int32") .int32 :=
    .known (standard (by decide))
  have text : TypeTable.Resolves (pairTable definition).toTypeTable (.name "sys.String") .string :=
    .known (standard (by decide))
  have unknown : (pairTable definition).catalog.findType? pairEntry.name = none :=
    standard (by decide)
  have parsed : TypeName.parse pairEntry.name = .ok (.generic "Pair`2" ["sys.Int32", "sys.String"]) :=
    rfl
  have present : (pairTable definition).entryOf? pairEntry.key = some pairEntry := rfl
  have arguments : ∀ pair ∈ ["sys.Int32", "sys.String"].zip [DataType.int32, .string],
      TypeTable.Resolves (pairTable definition).toTypeTable
        ((pairTable definition).toTypeTable.goalOf pair.1) pair.2 :=
    List.forall_mem_cons.mpr ⟨number, List.forall_mem_singleton.mpr text⟩
  exact resolve_of_resolves consistent rfl plain
    (.named present (.generic unknown parsed defined rfl arguments instantiated))

/-- A definition of pairs whose arguments are the other way round. -/
def swappedPair : DataType :=
  .generic "Pair`2" .record [.parameter .type 1, .parameter .type 0]

/-- Over a catalog with such a definition, whose types all go by their names and are no parameters,
the type that a key is resolved to goes by another name than the entry of the key. -/
theorem resolve_swappedPair :
    (∀ {name type}, (pairCatalog swappedPair).findType? name = some type →
      type.canonicalName = name ∧ type.isParameter = false) ∧
    Relation.ReflTransGen Uses (empty (pairCatalog swappedPair) UInt32.ofNat)
      (pairTable swappedPair) ∧
    ((resolve pairEntry.key).run (pairTable swappedPair)).1 =
      .ok (.generic "Pair`2" .record [.string, .int32]) ∧
    (pairTable swappedPair).entryAt? pairEntry.key = some pairEntry ∧
    (DataType.generic "Pair`2" .record [.string, .int32]).canonicalName ≠ pairEntry.name := by
  refine ⟨fun {name type} found => ?_, uses_pairTable _, resolve_pairTable rfl rfl, rfl, ?_⟩
  · rw [pairCatalog, Catalog.findType?_registerType] at found
    split at found
    · rename_i same
      cases found
      exact ⟨same, rfl⟩
    · exact ⟨(Catalog.canonical_standard found).named, (Catalog.canonical_standard found).bound⟩
  · decide

/-- A record with a field of pairs. -/
def pairHolder : DataType :=
  .record "Holder" [⟨"Pair", .generic "Pair`2" .record [.int32, .string], true⟩] false

/-- After a failed load, a failed search and packing a record with a field of pairs, the table has
two labels, and the key of the first was resolved to the pairs of its name. -/
theorem represents_used_pairs :
    let definition := DataType.definition "Pair`2" .record 2
    let pair := DataType.generic "Pair`2" .record [.int32, .string]
    let before := pairTable definition
    let asked := ((resolve ⟨"#9"⟩).run before).2
    let packed := ((pack true pairHolder).run asked).2
    (pairCatalog definition).Canonical ∧
      Relation.ReflTransGen Uses (empty (pairCatalog definition) UInt32.ofNat) packed ∧
      ((load [pairEntry, pairEntry]).run (empty (pairCatalog definition) UInt32.ofNat)).1 =
        .error (.codec (.duplicateKey "#1")) ∧
      packed.Represents ∧
      packed.labels = [(⟨"#1"⟩, "Pair`2[[sys.Int32],[sys.String]]"), (⟨"#00000000"⟩, "Holder")] ∧
      ((resolve pairEntry.key).run before).1 = .ok pair ∧
      ∃ entry, before.entryAt? pairEntry.key = some entry ∧ pair.canonicalName = entry.name := by
  intro definition pair before asked packed
  have canonical : (pairCatalog definition).Canonical :=
    Catalog.canonical_standard.registerType (DataType.fits_definition _ _ _)
  have used := uses_pairTable definition
  have succeeds : ((pack true pairHolder).run asked).1.toBool = true := by decide +kernel
  obtain ⟨key, ran⟩ : ∃ key, (pack true pairHolder).run asked = (.ok key, packed) := by
    cases outcome : ((pack true pairHolder).run asked).1 with
    | error error =>
      rw [outcome] at succeeds
      cases succeeds
    | ok key => exact ⟨key, Prod.ext outcome rfl⟩
  have usedOn : Relation.ReflTransGen Uses (empty (pairCatalog definition) UInt32.ofNat) packed :=
    (used.tail (.resolve _)).tail (.pack true pairHolder rfl ran)
  have labels : packed.labels =
      [(⟨"#1"⟩, "Pair`2[[sys.Int32],[sys.String]]"), (⟨"#00000000"⟩, "Holder")] := by
    decide +kernel
  have resolved : ((resolve pairEntry.key).run before).1 = .ok pair := resolve_pairTable rfl rfl
  exact ⟨canonical, usedOn, rfl, (represents_used canonical usedOn).1, labels, resolved,
    (represents_used canonical used).2.2.1 resolved⟩

end IndexedTable

end PredicateWire
