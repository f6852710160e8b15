/-
This file finds the types of keys and names: the receiving side of a type table. The
catalog is asked first. A name that it does not know is taken apart: the element of
an array and the arguments of an instance are looked for on their own, each first
among the names of the table. Only when that fails is a record built from the
captured fields of a structural entry. A key that is needed to find itself has no
type. What has been found once is found again without further search.

The search ends: a key is never entered twice on one way down, and between two keys
the name in question gets shorter.
-/
import PredicateWire.Table.Basic
import PredicateWire.Types.Name

namespace PredicateWire

namespace TypeTable

/-- The types found so far, latest first. -/
abbrev Found := List (TypeKey × DataType)

/-- A search that notes what it finds, whether or not it succeeds. -/
abbrev SearchM := ExceptT Error (StateM Found)

/-- The outcome of a search as a value. What it found stays noted. -/
def attempt {Content : Type} (search : SearchM Content) : SearchM (Result Content) :=
  ExceptT.mk do
    let outcome ← search.run
    return .ok outcome

/-- The number of entries whose key is not in progress. -/
def openEntries (table : TypeTable) (active : List TypeKey) : Nat :=
  (table.entries.filter fun entry => !active.contains entry.key).length

/-- Fewer things are left when the key of one of them is entered. -/
theorem length_filter_cons_lt {Item : Type} (read : Item → TypeKey) {items : List Item} {item : Item}
    (member : item ∈ items) {active : List TypeKey}
    (inactive : active.contains (read item) = false) :
    (items.filter fun other => !(read item :: active).contains (read other)).length <
      (items.filter fun other => !active.contains (read other)).length := by
  have narrowed : (items.filter fun other => !(read item :: active).contains (read other)) =
      (items.filter fun other => !active.contains (read other)).filter
        fun other => read other != read item := by
    rw [List.filter_filter]
    refine List.filter_congr fun other _ => ?_
    rw [List.contains_cons, Bool.not_or]
    rfl
  rw [narrowed, List.length_filter_lt_length_iff_exists]
  refine ⟨item, ?_, by simp⟩
  rw [List.mem_filter, inactive]
  exact ⟨member, rfl⟩

theorem openEntries_cons_lt {table : TypeTable} {active : List TypeKey} {key : TypeKey}
    {entry : TypeEntry} (found : table.entryOf? key = some entry)
    (inactive : active.contains key = false) :
    table.openEntries (key :: active) < table.openEntries active := by
  have tested := List.find?_some found
  have keyEq : entry.key = key := eq_of_beq tested
  subst keyEq
  exact length_filter_cons_lt TypeEntry.key (List.mem_of_find?_eq_some found) inactive

/-- What the search by name says about an entry. -/
inductive Verdict
  | known (type : DataType)
  | refused (error : Error)
  | captured

/-- A type found by name is the type of the entry. A malformed name is refused, and so is every
other failure when no fields were captured. -/
def verdict (entry : TypeEntry) : Result (Option DataType) → Verdict
  | .ok (some type) => .known type
  | .ok none =>
    if entry.structural then .captured
    else .refused (.symbolNotFound (.unknownType entry.name))
  | .error (.malformedName name fault) => .refused (.malformedName name fault)
  | .error error => if entry.structural then .captured else .refused error

mutual

/-- Finds the type of a key while other keys are in progress. -/
def searchKey (table : TypeTable) (active : List TypeKey) (key : TypeKey) : SearchM DataType := do
  match (← get).find? fun entry => entry.1 == key with
  | some entry => return entry.2
  | none =>
    match _ : table.entryOf? key with
    | none => throw (.unknownTypeKey key.text)
    | some entry =>
      if _ : active.contains key = false then do
        let byName ← attempt (searchName table (key :: active) entry.name)
        let type ←
          match verdict entry byName with
          | .known type => pure type
          | .refused error => throw error
          | .captured => do
            let fields ← entry.fields.mapM fun field => do
              let type ← searchKey table (key :: active) field.key
              return ⟨field.name, type, true⟩
            pure (.record entry.name fields true)
        modify fun noted => (key, type) :: noted
        return type
      else throw (.symbolNotFound (.selfReference entry.name))
termination_by (table.openEntries active, 0)
decreasing_by all_goals exact Prod.Lex.left _ _ (openEntries_cons_lt ‹_› ‹_›)

/-- Finds the type of a name, if the catalog knows the name or the definition it is an instance
of. -/
def searchName (table : TypeTable) (active : List TypeKey) (name : String) :
    SearchM (Option DataType) := do
  match table.catalog.findType? name with
  | some type => return some type
  | none =>
    match _ : TypeName.parse name with
    | .error error => throw error
    | .ok (.plain _) => return none
    | .ok (.array element) => do
      let element ← searchNested table active element
      return some (.array element)
    | .ok (.generic base arguments) =>
      match table.catalog.findType? base with
      | none => return none
      | some definition => do
        let types ← arguments.attach.mapM fun argument => searchNested table active argument.1
        match definition.instantiate types with
        | .ok type => return some type
        | .error error => throw error
termination_by (table.openEntries active, 2 * name.length + 1)
decreasing_by
  · have shorter := TypeName.length_lt_of_parse_array ‹_›
    exact Prod.Lex.right _ (by omega)
  · have shorter := TypeName.length_lt_of_parse_generic ‹_› argument.1 argument.2
    exact Prod.Lex.right _ (by omega)

/-- Finds the type of an element or an argument: by the first entry of that name, else by the name
alone. -/
def searchNested (table : TypeTable) (active : List TypeKey) (name : String) :
    SearchM DataType := do
  match table.keyOf? name with
  | some key => searchKey table active key
  | none => do
    match ← searchName table active name with
    | some type => return type
    | none => throw (.symbolNotFound (.unknownType name))
termination_by (table.openEntries active, 2 * name.length + 2)
decreasing_by
  · exact Prod.Lex.right _ (by omega)
  · exact Prod.Lex.right _ (by omega)

end

/-- Runs a search on a table and notes there what it finds. -/
def searching {Content : Type} (search : TypeTable → SearchM Content) : TableM Content :=
  ExceptT.mk fun table =>
    let (outcome, found) := (search table).run table.resolved
    (outcome, { table with resolved := found })

/-- The type of a key. -/
def resolve (key : TypeKey) : TableM DataType :=
  searching fun table => searchKey table [] key

/-- The type of a canonical name. There is none when neither the name nor its definition is
known. -/
def resolveName (name : String) : TableM (Option DataType) :=
  searching fun table => searchName table [] name

end TypeTable

/-- The type of a canonical name in a catalog. -/
def Catalog.typeNamed (catalog : Catalog) (name : String) : Result DataType :=
  match ((TypeTable.resolveName name).run (TypeTable.empty catalog fun _ => 0)).1 with
  | .ok (some type) => .ok type
  | .ok none => .error (.symbolNotFound (.unknownType name))
  | .error error => .error error

end PredicateWire
