/-
This file defines type tables with their indexes: positions by key, keys by name, and
the keys that are being looked for. The operations keep the indexes up one step at a
time, where `TypeTable` reads everything off its entries, and a search puts a mark on
each key that it enters and takes it away again, whatever the search comes to. That the
marks are as before is part of what a search returns, and so the search ends for the
same reason as before.
-/
import PredicateWire.Table.Resolve

namespace PredicateWire

/-- A type table with its indexes, latest entry first, and the keys in progress. -/
structure IndexedTable extends TypeTable where
  byKey : List (TypeKey × Nat)
  byName : List (String × TypeKey)
  resolving : List TypeKey

/-- Work on an indexed table that can fail. -/
abbrev IndexedM := ExceptT Error (StateM IndexedTable)

namespace IndexedTable

open TypeTable (Found Verdict verdict greatestAttempts travels)

/-- The indexed table without entries. -/
def empty (catalog : Catalog) (source : Nat → UInt32) : IndexedTable :=
  { TypeTable.empty catalog source with byKey := [], byName := [], resolving := [] }

/-! ### Lookup -/

/-- The position of the entry of a key. -/
def position? (table : IndexedTable) (key : TypeKey) : Option Nat :=
  (table.byKey.find? fun indexed => indexed.1 == key).map Prod.snd

/-- The entry at the position of a key. -/
def entryAt? (table : IndexedTable) (key : TypeKey) : Option TypeEntry :=
  (table.position? key).bind fun position => table.entries[position]?

/-- The key that a name is filed under. -/
def keyNamed? (table : IndexedTable) (name : String) : Option TypeKey :=
  (table.byName.find? fun indexed => indexed.1 == name).map Prod.snd

/-! ### Changes -/

/-- Adds an entry with its position. -/
def place (table : IndexedTable) (entry : TypeEntry) : IndexedTable :=
  { table with
    entries := table.entries ++ [entry]
    byKey := (entry.key, table.entries.length) :: table.byKey }

/-- Files a key under a name. -/
def file (table : IndexedTable) (name : String) (key : TypeKey) : IndexedTable :=
  { table with byName := (name, key) :: table.byName }

/-- Files a key under a name unless another key is filed under it. -/
def fileFirst (table : IndexedTable) (name : String) (key : TypeKey) : IndexedTable :=
  { table with
    byName := if (table.keyNamed? name).isSome then table.byName else (name, key) :: table.byName }

/-- Notes the type found for a key. -/
def remember (table : IndexedTable) (key : TypeKey) (type : DataType) : IndexedTable :=
  { table with resolved := (key, type) :: table.resolved }

/-- Notes that the fields of a key are captured. -/
def markCaptured (table : IndexedTable) (key : TypeKey) : IndexedTable :=
  { table with captured := key :: table.captured }

/-- Gives the entry at the position of a key its captured fields. -/
def setFields (table : IndexedTable) (key : TypeKey) (fields : List FieldEntry) : IndexedTable :=
  match table.position? key with
  | none => table
  | some position =>
    { table with
      entries := table.entries.modify position fun entry =>
        { entry with structural := true, fields := fields } }

/-! ### Packing -/

/-- Draws keys until one has no position. -/
def drawKey : Nat → IndexedM TypeKey
  | 0 => throw (.keyCollision greatestAttempts)
  | attempts + 1 => do
    let table ← get
    let key := TypeKey.ofNumber (table.source table.drawn)
    set { table with drawn := table.drawn + 1 }
    if (table.position? key).isSome then drawKey attempts else return key

/-- The key that the name of a type is filed under, with a new entry if there is none. -/
def enter (type : DataType) : IndexedM TypeKey := do
  match (← get).keyNamed? type.canonicalName with
  | some key => return key
  | none => do
    let key ← drawKey greatestAttempts
    modify fun table =>
      ((table.place (TypeEntry.plain key type.canonicalName)).file type.canonicalName key).remember
        key type
    return key

/-- Captures the fields of a key, once. -/
def capture (key : TypeKey) (fields : IndexedM (List FieldEntry)) : IndexedM Unit := do
  if (← get).captured.contains key then return ()
  else
    modify fun table => table.markCaptured key
    let entries ← fields
    modify fun table => table.setFields key entries

mutual

/-- The key of a type, with the types that travel with it. -/
def pack (structural : Bool) : DataType → IndexedM TypeKey
  | .array element => do
    let key ← enter (.array element)
    if travels element then
      let _ ← pack structural element
    return key
  | .generic name family arguments => do
    let key ← enter (.generic name family arguments)
    packArguments structural arguments
    if structural && family == .record then capture key (pure [])
    return key
  | .record name fields captured => do
    let key ← enter (.record name fields captured)
    if structural then capture key (packFields fields)
    return key
  | .primitive kind => enter (.primitive kind)
  | .object => enter .object
  | .holder name => enter (.holder name)
  | .parameter owner position => enter (.parameter owner position)

/-- Packs the argument types that have to travel. -/
def packArguments (structural : Bool) : List DataType → IndexedM Unit
  | [] => return ()
  | type :: rest => do
    if travels type then
      let _ ← pack structural type
    packArguments structural rest

/-- Packs the types of fields, capturing the records among them. -/
def packFields : List (Field DataType) → IndexedM (List FieldEntry)
  | [] => return []
  | ⟨name, type, _⟩ :: rest => do
    let key ← pack true type
    let tail ← packFields rest
    return ⟨name, key⟩ :: tail

end

/-! ### Loading -/

/-- Adds entries in order. The first one whose key has a position stops the work. -/
def loadEntries : List TypeEntry → IndexedM Unit
  | [] => return ()
  | entry :: rest => do
    if ((← get).position? entry.key).isSome then throw (.codec (.duplicateKey entry.key.text))
    modify fun table => (table.place entry).fileFirst entry.name entry.key
    loadEntries rest

/-- The first field key in the table that has no position. -/
def danglingKey? (table : IndexedTable) : Option TypeKey :=
  (table.entries.flatMap fun entry => entry.fields.map FieldEntry.key).find? fun key =>
    !(table.position? key).isSome

/-- Installs the entries of a packet. Every field key has to be in the table. -/
def load (entries : List TypeEntry) : IndexedM Unit := do
  loadEntries entries
  match (← get).danglingKey? with
  | some key => throw (.unknownTypeKey key.text)
  | none => return ()

/-! ### Marks -/

/-- What a search goes by: the types found so far and the keys in progress. -/
structure Marks where
  found : Found
  resolving : List TypeKey

/-- What a search comes to. It leaves the keys in progress as they were before. -/
structure Marked (Content : Type) (before : Marks) where
  outcome : Result Content
  after : Marks
  restored : after.resolving = before.resolving

namespace Marked

variable {First Second : Type}

/-- The search has ended. -/
def ended (before : Marks) (outcome : Result First) : Marked First before :=
  ⟨outcome, before, rfl⟩

/-- Goes on with what was found, if something was. -/
def andThen {before : Marks} (first : Marked First before)
    (next : First → (marks : Marks) → marks.resolving = before.resolving → Marked Second marks) :
    Marked Second before :=
  match first.outcome with
  | .error error => ⟨.error error, first.after, first.restored⟩
  | .ok content =>
    let second := next content first.after first.restored
    ⟨second.outcome, second.after, second.restored.trans first.restored⟩

/-- The outcome of a search as a value. -/
def attempt {before : Marks} (search : Marked First before) : Marked (Result First) before :=
  ⟨.ok search.outcome, search.after, search.restored⟩

/-- Notes the type found for a key. -/
def note (before : Marks) (key : TypeKey) (type : DataType) : Marked DataType before :=
  ⟨.ok type, { before with found := (key, type) :: before.found }, rfl⟩

/-- A search while a key is in progress. Its mark is taken away whatever the search comes to. -/
def during {before : Marks} (key : TypeKey)
    (search : Marked First ⟨before.found, key :: before.resolving⟩) : Marked First before :=
  ⟨search.outcome, ⟨search.after.found, search.after.resolving.erase key⟩, by
    rw [search.restored, List.erase_cons_head]⟩

/-- Searches for several things in turn, up to the first that is not found. -/
def mapAll (before : Marks) : (items : List First) →
    ((item : First) → item ∈ items → (marks : Marks) → marks.resolving = before.resolving →
      Marked Second marks) → Marked (List Second) before
  | [], _ => ended before (.ok [])
  | item :: rest, each =>
    (each item (.head _) before rfl).andThen fun first marks same =>
      (mapAll marks rest fun other member later equal =>
        each other (.tail _ member) later (equal.trans same)).andThen fun others final _ =>
          ended final (.ok (first :: others))

end Marked

/-! ### Resolving -/

/-- The number of indexed keys that are not in progress. -/
def openKeys (table : IndexedTable) (resolving : List TypeKey) : Nat :=
  (table.byKey.filter fun indexed => !resolving.contains indexed.1).length

theorem openKeys_cons_lt {table : IndexedTable} {resolving : List TypeKey} {key : TypeKey}
    {entry : TypeEntry} (found : table.entryAt? key = some entry)
    (idle : resolving.contains key = false) :
    table.openKeys (key :: resolving) < table.openKeys resolving := by
  obtain ⟨position, placed, _⟩ := Option.bind_eq_some_iff.mp found
  obtain ⟨indexed, first, _⟩ := Option.map_eq_some_iff.mp placed
  have tested := List.find?_some first
  have keyEq : indexed.1 = key := eq_of_beq tested
  subst keyEq
  exact TypeTable.length_filter_cons_lt Prod.fst (List.mem_of_find?_eq_some first) idle

mutual

/-- Finds the type of a key. -/
def searchKey (table : IndexedTable) (before : Marks) (key : TypeKey) : Marked DataType before :=
  match before.found.find? fun noted => noted.1 == key with
  | some noted => .ended before (.ok noted.2)
  | none =>
    match _ : table.entryAt? key with
    | none => .ended before (.error (.unknownTypeKey key.text))
    | some entry =>
      if _ : before.resolving.contains key = false then
        (Marked.during key <|
          (searchName table ⟨before.found, key :: before.resolving⟩ entry.name).attempt.andThen
            fun byName marks _same =>
              match verdict entry byName with
              | .known type => .ended marks (.ok type)
              | .refused error => .ended marks (.error error)
              | .captured =>
                (Marked.mapAll marks entry.fields fun field _ later _equal =>
                  (searchKey table later field.key).andThen fun type final _ =>
                    .ended final (.ok (⟨field.name, type, true⟩ : Field DataType))).andThen
                  fun fields final _ => .ended final (.ok (.record entry.name fields true))).andThen
          fun type marks _ => .note marks key type
      else .ended before (.error (.symbolNotFound (.selfReference entry.name)))
termination_by (table.openKeys before.resolving, 0)
decreasing_by
  · exact Prod.Lex.left _ _ (openKeys_cons_lt ‹_› ‹_›)
  · rw [_equal, _same]
    exact Prod.Lex.left _ _ (openKeys_cons_lt ‹_› ‹_›)

/-- Finds the type of a name, if the catalog knows the name or the definition it is an instance
of. -/
def searchName (table : IndexedTable) (before : Marks) (name : String) :
    Marked (Option DataType) before :=
  match table.catalog.findType? name with
  | some type => .ended before (.ok (some type))
  | none =>
    match _ : TypeName.parse name with
    | .error error => .ended before (.error error)
    | .ok (.plain _) => .ended before (.ok none)
    | .ok (.array element) =>
      (searchNested table before element).andThen fun type marks _ =>
        .ended marks (.ok (some (.array type)))
    | .ok (.generic base arguments) =>
      match table.catalog.findType? base with
      | none => .ended before (.ok none)
      | some definition =>
        (Marked.mapAll before arguments fun argument _member marks _same =>
          searchNested table marks argument).andThen fun types marks _ =>
            match definition.instantiate types with
            | .ok type => .ended marks (.ok (some type))
            | .error error => .ended marks (.error error)
termination_by (table.openKeys before.resolving, 2 * name.length + 1)
decreasing_by
  · have shorter := TypeName.length_lt_of_parse_array ‹_›
    exact Prod.Lex.right _ (by omega)
  · have shorter := TypeName.length_lt_of_parse_generic ‹_› argument _member
    rw [_same]
    exact Prod.Lex.right _ (by omega)

/-- Finds the type of an element or an argument: by the key that its name is filed under, else by
the name alone. -/
def searchNested (table : IndexedTable) (before : Marks) (name : String) :
    Marked DataType before :=
  match table.keyNamed? name with
  | some key => searchKey table before key
  | none =>
    (searchName table before name).andThen fun found marks _ =>
      match found with
      | some type => .ended marks (.ok type)
      | none => .ended marks (.error (.symbolNotFound (.unknownType name)))
termination_by (table.openKeys before.resolving, 2 * name.length + 2)
decreasing_by
  · exact Prod.Lex.right _ (by omega)
  · exact Prod.Lex.right _ (by omega)

end

/-- Runs a search on a table and leaves its marks there. -/
def searching {Content : Type} (search : IndexedTable → (before : Marks) → Marked Content before) :
    IndexedM Content :=
  ExceptT.mk fun table =>
    let marked := search table ⟨table.resolved, table.resolving⟩
    (marked.outcome,
      { table with resolved := marked.after.found, resolving := marked.after.resolving })

/-- The type of a key. -/
def resolve (key : TypeKey) : IndexedM DataType :=
  searching fun table before => searchKey table before key

/-- The type of a canonical name. There is none when neither the name nor its definition is
known. -/
def resolveName (name : String) : IndexedM (Option DataType) :=
  searching fun table before => searchName table before name

end IndexedTable

end PredicateWire
