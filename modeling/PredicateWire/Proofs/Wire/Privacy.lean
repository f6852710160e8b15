/-
This file says which private fields a received expression can read. No private field
leaves its process, but the receiver of a packet looks every member up by its name and
does not ask whether it is public. A member of a received expression is private exactly
when the catalog of the receiver declares it so; records built from captured fields have
public ones only.

A sender never packs a private member, so a packet that names one was forged, or made by
a sender to whom the member is public. The second case needs no ill will: two catalogs
with one record, of which one hides a field, are enough
(`Serializer.deserializeExpr_private`). Types are followed through the search, since a
member is looked up in the type that was found for its declaring type.
-/
import PredicateWire.Catalog.RecordSpec
import PredicateWire.Proofs.Json.Levels
import PredicateWire.Proofs.Types.Ordinary
import PredicateWire.Proofs.Wire.Delivery
import PredicateWire.Proofs.Wire.Sources

namespace PredicateWire

/-! ### Private fields of found types -/

/-- A type of the catalog, or one without private fields. -/
def Catalog.Declares (catalog : Catalog) (type : DataType) : Prop :=
  (∃ name, catalog.findType? name = some type) ∨ ∀ field ∈ type.fields, field.isPublic = true

theorem DataType.fields_instantiate {definition type : DataType} {types : List DataType}
    (instantiated : definition.instantiate types = .ok type) : type.fields = [] := by
  obtain ⟨isOpen, _, rfl⟩ := instantiate_eq_ok.mp instantiated
  cases definition with
  | generic name family arguments => rfl
  | _ => cases isOpen

/-- Whatever is found for a key or a name is a type of the catalog or has no private fields. -/
theorem Catalog.supplies_declares (catalog : Catalog) : catalog.Supplies catalog.Declares where
  known := fun found => .inl ⟨_, found⟩
  array := fun _ => .inr fun _ member => nomatch member
  instantiated := fun made _ => .inr fun field member => by
    rw [DataType.fields_instantiate made] at member
    cases member
  captured := fun each => .inr fun field member => (each field member).1

/-- The catalog itself has a private member under a name: one of its types declares a private field
of that name, or something private is filed as a property. -/
def Catalog.Hides (catalog : Catalog) (type : DataType) (name : String) : Prop :=
  (∃ known field, catalog.findType? known = some type ∧ type.field? name = some field ∧
    field.isPublic = false) ∨
  (type.field? name = none ∧
    ∃ property, catalog.property? type.baseName name = some property ∧ property.isPublic = false)

/-- What a catalog has under the name of a member of a found type is private exactly when the
catalog hides it. -/
theorem Catalog.Declares.isPublic_iff {catalog : Catalog} {type : DataType}
    (declares : catalog.Declares type) {name : String} {read : Member}
    (found : catalog.member? type name = some read) :
    read.isPublic = false ↔ catalog.Hides type name := by
  unfold Hides
  rcases member?_eq_some_iff.mp found with
    ⟨field, fieldFound, rfl⟩ | ⟨absent, property, filed, rfl⟩
  · rw [fieldFound]
    constructor
    · intro hidden
      rcases declares with ⟨known, same⟩ | shown
      · exact .inl ⟨known, field, same, rfl, hidden⟩
      · have isPublic := shown field (DataType.field?_eq_some fieldFound).1
        exact nomatch isPublic.symm.trans hidden
    · rintro (⟨_, other, _, same, hidden⟩ | ⟨absent, _⟩)
      · cases same
        exact hidden
      · cases absent
  · rw [absent]
    constructor
    · exact fun hidden => .inr ⟨rfl, property, filed, hidden⟩
    · rintro (⟨_, _, _, same, _⟩ | ⟨_, other, again, hidden⟩)
      · cases same
      · cases filed.symm.trans again
        exact hidden

namespace Serializer

/-- Every member of a received expression is what the receiver's catalog has under its name, and it
is private exactly when the catalog hides it. The packet has no say in this, and nothing is assumed
of the packet. -/
theorem isPublic_deserializeExpr {serializer : Serializer} {scope : Nat} {packet : Packet}
    {expression : Expr} (received : serializer.deserializeExpr scope packet = .ok expression) :
    ∀ read ∈ expression.members,
      serializer.catalog.member? read.declaringType read.name = some read ∧
      (read.isPublic = false ↔ serializer.catalog.Hides read.declaringType read.name) := by
  have rebuilt := rebuilt_deserializeExpr serializer.catalog.supplies_declares received
  intro read member
  obtain ⟨node, nodeMember, own⟩ := List.mem_filterMap.mp member
  have sourced := rebuilt.sourced node nodeMember
  cases node with
  | member target other =>
    cases own
    exact ⟨sourced.1, sourced.2.isPublic_iff sourced.1⟩
  | _ => cases own

/-! ### A private field that is read -/

/-- An account with a field that may be private. -/
def account (isPublic : Bool) : RecordSpec :=
  ⟨"Account", [⟨"locked", .bool, isPublic⟩], [], []⟩

/-- One end of the wire that knows accounts besides the built-in library. -/
def keeping (isPublic : Bool) : Serializer :=
  ⟨Catalog.standard.registerRecord (account isPublic), Settings.standard⟩

/-- An account that is asked about. -/
def held (isPublic : Bool) : Parameter :=
  ⟨⟨0, 0⟩, "account", (account isPublic).type, false⟩

/-- Whether an account is locked. -/
def lockedOf (isPublic : Bool) (referenced : Parameter) : Expr :=
  .member (.parameter referenced)
    (.ofField (account isPublic).type ⟨"locked", .bool, isPublic⟩)

theorem serialize_lockedOf :
    ∃ packet, (keeping true).serialize UInt32.ofNat (lockedOf true (held true)) = .ok packet := by
  have succeeds :
      ((keeping true).serialize UInt32.ofNat (lockedOf true (held true))).toBool = true := by
    decide +kernel
  cases sent : (keeping true).serialize UInt32.ofNat (lockedOf true (held true)) with
  | ok packet => exact ⟨packet, rfl⟩
  | error error =>
    rw [sent] at succeeds
    cases succeeds

/-- What the receiver takes a type of the packet for. It knows the name of the record as the record
with the private field. -/
def takenFor : DataType → DataType
  | .record _ _ _ => (account false).type
  | other => other

/-- What a sender to whom the field is public asks about it is received where it is private. -/
theorem deserializeExpr_lockedOf :
    ∃ packet one, (keeping true).serialize UInt32.ofNat (lockedOf true (held true)) = .ok packet ∧
      (keeping false).deserializeExpr 1 packet = .ok (lockedOf false one) := by
  obtain ⟨packet, sent⟩ := serialize_lockedOf
  obtain ⟨table, carries, rfl⟩ := exists_carries sent
  have writable : ∀ node ∈ (lockedOf true (held true)).nodes, node.Writable := by
    unfold lockedOf Expr.nodes Expr.nodes
    exact List.forall_mem_cons.mpr ⟨trivial, List.forall_mem_singleton.mpr trivial⟩
  have shallow : (lockedOf true (held true)).documentNesting ≤ Json.greatestNesting :=
    Nat.le_trans (Expr.documentNesting_le carries.packable) (by decide)
  have readable := Json.read?_written_eq (Expr.readable_node table.keyFor _ writable)
  rw [Expr.nesting_node_eq, if_pos shallow] at readable
  have types : (lockedOf true (held true)).types =
      [.bool, (account true).type, (account true).type] := rfl
  have receives : ∀ type ∈ (lockedOf true (held true)).types,
      (table.loaded (keeping false).catalog).Receives takenFor type ∧
        (takenFor type).canonicalName = type.canonicalName := by
    intro type member
    have known : (table.loaded (keeping false).catalog).Knows type := carries.known type member
    rw [types] at member
    simp only [List.mem_cons, List.not_mem_nil, or_false, or_self] at member
    rcases member with rfl | rfl
    · exact ⟨⟨known, .known rfl⟩, rfl⟩
    · exact ⟨⟨known, .known rfl⟩, rfl⟩
  obtain ⟨made, delivered, _⟩ := deserializeExpr_ofNode (keeping false) carries.sound
    carries.packable (fun type member => (receives type member).1)
    (fun type member => (receives type member).2) readable (keeping true).settings.encoding 1
  have received : (lockedOf true (held true)).received (keeping false).catalog takenFor made =
      .ok (lockedOf false (made (held true))) := rfl
  exact ⟨_, made (held true), sent, delivered.trans received⟩

/-- The member that a receiver reads of an account is the one its catalog hides. -/
theorem isPublic_deserializeExpr_account :
    ∃ packet one, (keeping false).deserializeExpr 1 packet = .ok (lockedOf false one) ∧
      (keeping false).catalog.Hides (account false).type "locked" := by
  obtain ⟨packet, one, _, received⟩ := deserializeExpr_lockedOf
  have member : Member.ofField (account false).type ⟨"locked", .bool, false⟩ ∈
      (lockedOf false one).members := .head _
  exact ⟨packet, one, received, (isPublic_deserializeExpr received _ member).2.mp rfl⟩

/-- A receiver to whom a field is private gets an expression that reads it, from a sender to whom
the field is public. -/
theorem deserializeExpr_private :
    ∃ packet expression, (keeping true).serialize UInt32.ofNat (lockedOf true (held true)) = .ok packet ∧
      (keeping false).deserializeExpr 1 packet = .ok expression ∧
      ∃ read ∈ expression.members, read.isPublic = false := by
  obtain ⟨packet, one, sent, received⟩ := deserializeExpr_lockedOf
  exact ⟨packet, _, sent, received, _, .head _, rfl⟩

end Serializer

end PredicateWire
