/-
This file writes the search for types without the proofs that make it end. The
definition of the search carries these along, since each call has to be for a shorter
name or with one more key in progress, and no induction over the search would go through
with them in the way.

A key is found in four steps: by what has been noted, by the name of its entry, by the
judgement on that, and last the type is noted. A name is taken apart where the catalog
does not know it. The equations here are what later proofs rewrite with; none of them
unfolds the search itself.
-/
import PredicateWire.Table.Resolve

namespace PredicateWire

namespace TypeTable

/-- A captured field with the type of its key. -/
def searchField (table : TypeTable) (active : List TypeKey) (field : FieldEntry) :
    SearchM (Field DataType) := do
  let type ← searchKey table active field.key
  return ⟨field.name, type, true⟩

/-- The type of an entry, given what the search by its name has come to. -/
def judge (table : TypeTable) (active : List TypeKey) (entry : TypeEntry)
    (byName : Result (Option DataType)) : SearchM DataType :=
  match verdict entry byName with
  | .known type => pure type
  | .refused error => throw error
  | .captured => do
    let fields ← entry.fields.mapM (searchField table active)
    return .record entry.name fields true

/-- Notes the type that has been found for a key. -/
def note (key : TypeKey) (type : DataType) : SearchM DataType := do
  modify fun noted => (key, type) :: noted
  return type

theorem searchKey_eq (table : TypeTable) (active : List TypeKey) (key : TypeKey) :
    searchKey table active key = (do
      match (← get).find? fun noted => noted.1 == key with
      | some noted => return noted.2
      | none =>
        match table.entryOf? key with
        | none => throw (.unknownTypeKey key.text)
        | some entry =>
          if active.contains key = true then throw (.symbolNotFound (.selfReference entry.name))
          else do
            let byName ← attempt (searchName table (key :: active) entry.name)
            let type ← judge table (key :: active) entry byName
            note key type) := by
  rw [searchKey]
  refine congrArg (get >>= ·) (funext fun found => ?_)
  cases found.find? fun noted => noted.1 == key with
  | some noted => rfl
  | none =>
    dsimp only
    split
    · rename_i absent
      simp only [absent]
    · rename_i entry present
      simp only [present]
      cases active.contains key with
      | true => rfl
      | false =>
        refine congrArg (attempt _ >>= ·) (funext fun byName => ?_)
        unfold judge
        cases verdict entry byName with
        | known type => rfl
        | refused error => rfl
        | captured => exact (bind_assoc _ _ _).symm

/-- A search for a name: the catalog knows it, or it is taken apart and its parts are looked for. -/
theorem searchName_eq (table : TypeTable) (active : List TypeKey) (name : String) :
    searchName table active name = (
      match table.catalog.findType? name with
      | some type => pure (some type)
      | none =>
        match TypeName.parse name with
        | .error error => throw error
        | .ok (.plain _) => pure none
        | .ok (.array element) => do
          let element ← searchNested table active element
          return some (.array element)
        | .ok (.generic base arguments) =>
          match table.catalog.findType? base with
          | none => pure none
          | some definition => do
            let types ← arguments.mapM (searchNested table active)
            match definition.instantiate types with
            | .ok type => return some type
            | .error error => throw error) := by
  rw [searchName]
  cases table.catalog.findType? name with
  | some type => rfl
  | none =>
    dsimp only
    split
    · rename_i parsed
      rw [parsed]
    · rename_i parsed
      rw [parsed]
    · rename_i parsed
      rw [parsed]
    · rename_i base arguments parsed
      have mapped : arguments.mapM (searchNested table active) =
          arguments.attach.mapM fun argument => searchNested table active argument.1 := by
        rw [← List.attach_map_subtype_val arguments, List.mapM_map, List.attach_map_subtype_val]
        rfl
      rw [parsed]
      dsimp only
      generalize arguments.mapM (searchNested table active) = searched at mapped
      subst mapped
      rfl

/-- A search notes in the table what it finds, and changes nothing else. -/
theorem searching_run {Content : Type} (search : TypeTable → SearchM Content) (table : TypeTable) :
    (searching search).run table = (((search table).run table.resolved).1,
      { table with resolved := ((search table).run table.resolved).2 }) :=
  rfl

end TypeTable

end PredicateWire
