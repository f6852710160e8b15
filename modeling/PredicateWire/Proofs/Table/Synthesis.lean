/-
This file proves that structural capture is complete and faithful. A record that occurs
anywhere in a type whose fields are asked for has its own fields captured, whatever was
packed by name before. A receiver that knows the library only then builds the record
again, with the same fields in the same order, and with types of the same layout.

Completeness is a matter of requests: asking for the fields of a type leads to the
fields of all records in it, because a record travels with every type that it occurs in.
Faithfulness is a matter of the rules for names. In between, names have to be
unmistakable, for a table files what it captures under the name of a type, and another
type of the same name would be taken for it.
-/
import PredicateWire.Proofs.Table.Requests

namespace PredicateWire

namespace TypeTable

open Running DataType

/-! ### Records inside types -/

/-- A type that a record occurs in travels with the types that are closed over it. -/
theorem travels_of_mem_parts {type part : DataType} (member : part ∈ type.parts)
    (isRecord : part.isRecord = true) : travels type = true := by
  cases type with
  | array element => rfl
  | record name fields captured => rfl
  | generic name family arguments =>
    cases arguments with
    | cons first rest => simp [travels, arguments]
    | nil =>
      cases List.mem_singleton.mp member
      rw [travels, isRecord, Bool.true_or]
  | _ =>
    cases List.mem_singleton.mp member
    cases isRecord

/-- What asking for an argument leads to, asking for the instance leads to. -/
theorem leadsTo_of_argument {type argument part : DataType} (member : argument ∈ type.arguments)
    (moves : travels argument = true) (leads : (Request.mk argument true).LeadsTo ⟨part, true⟩) :
    (Request.mk type true).LeadsTo ⟨part, true⟩ := by
  have step : ⟨argument, true⟩ ∈ (Request.mk type true).arguments :=
    Request.mem_arguments.mpr ⟨member, moves, rfl⟩
  exact .head (.inl step) leads

/-- What asking for the type of a field leads to, asking for the record leads to. -/
theorem leadsTo_of_field {type part : DataType} {field : Field DataType}
    (member : field ∈ type.fields) (leads : (Request.mk field.type true).LeadsTo ⟨part, true⟩) :
    (Request.mk type true).LeadsTo ⟨part, true⟩ :=
  .head (.inr (Request.mem_fields_of_field member)) leads

mutual

/-- Asking for the fields of a type leads to the fields of all records in it. -/
theorem leadsTo_of_mem_parts : ∀ {type part : DataType}, part ∈ type.parts →
    part.isRecord = true → (Request.mk type true).LeadsTo ⟨part, true⟩
  | .array element, part, member, isRecord => by
    rw [DataType.parts] at member
    rcases List.mem_cons.mp member with rfl | within
    · exact .refl
    · exact leadsTo_of_argument (.head _) (travels_of_mem_parts within isRecord)
        (leadsTo_of_mem_parts within isRecord)
  | .generic name family arguments, part, member, isRecord => by
    rw [DataType.parts] at member
    rcases List.mem_cons.mp member with rfl | within
    · exact .refl
    · obtain ⟨argument, argumentMember, moves, leads⟩ := leadsTo_of_mem_partsAll within isRecord
      exact leadsTo_of_argument argumentMember moves leads
  | .record name fields captured, part, member, isRecord => by
    rw [DataType.parts] at member
    rcases List.mem_cons.mp member with rfl | within
    · exact .refl
    · obtain ⟨field, fieldMember, leads⟩ := leadsTo_of_mem_partsFields within isRecord
      exact leadsTo_of_field fieldMember leads
  | .primitive kind, part, member, _ => List.mem_singleton.mp member ▸ .refl
  | .object, part, member, _ => List.mem_singleton.mp member ▸ .refl
  | .holder name, part, member, _ => List.mem_singleton.mp member ▸ .refl
  | .parameter owner position, part, member, _ => List.mem_singleton.mp member ▸ .refl

/-- So does asking for several types, one of which travels with the record. -/
theorem leadsTo_of_mem_partsAll : ∀ {types : List DataType} {part : DataType},
    part ∈ partsAll types → part.isRecord = true → ∃ type ∈ types, travels type = true ∧
      (Request.mk type true).LeadsTo ⟨part, true⟩
  | [], _, member, _ => nomatch member
  | type :: rest, part, member, isRecord => by
    rw [partsAll] at member
    rcases List.mem_append.mp member with within | later
    · exact ⟨type, .head _, travels_of_mem_parts within isRecord,
        leadsTo_of_mem_parts within isRecord⟩
    · obtain ⟨other, otherMember, found⟩ := leadsTo_of_mem_partsAll later isRecord
      exact ⟨other, .tail _ otherMember, found⟩

theorem leadsTo_of_mem_partsFields : ∀ {fields : List (Field DataType)} {part : DataType},
    part ∈ partsFields fields → part.isRecord = true → ∃ field ∈ fields,
      (Request.mk field.type true).LeadsTo ⟨part, true⟩
  | [], _, member, _ => nomatch member
  | ⟨name, type, isPublic⟩ :: rest, part, member, isRecord => by
    rw [partsFields] at member
    rcases List.mem_append.mp member with within | later
    · exact ⟨_, .head _, leadsTo_of_mem_parts within isRecord⟩
    · obtain ⟨other, otherMember, found⟩ := leadsTo_of_mem_partsFields later isRecord
      exact ⟨other, .tail _ otherMember, found⟩

end

/-! ### Complete capture -/

/-- A type whose fields are asked for has all records in it captured. -/
theorem Covers.holdsAll {asked : Request → Prop} {table : TypeTable} (filed : table.Filed asked [])
    {type : DataType} (clear : ∀ part ∈ type.parts, Unmistakable asked part)
    (covers : table.Covers ⟨type, true⟩) : table.HoldsAll type := by
  intro name fields captured member
  have inner := covers.leads filed clear (leadsTo_of_mem_parts member rfl)
  obtain ⟨rival, asks, _, sameName, shows⟩ := filed.shows inner.self ⟨rfl, rfl⟩
  rw [clear _ member rival asks sameName] at shows
  exact ⟨fun field fieldMember => (shows.covers field fieldMember).self.knows, _, shows.entry⟩

/-- A record whose name stands for it wherever it is packed, and that occurs in a type whose fields
are asked for, is built again by a receiver that knows the library only. -/
theorem resolve_packEach {requests : List Request} {catalog : Catalog} {source : Nat → UInt32}
    {keys : List TypeKey} {table : TypeTable}
    (ran : (packEach requests).run (empty catalog source) = (.ok keys, table))
    {whole : DataType} (asks : ⟨whole, true⟩ ∈ requests)
    (clear : ∀ part ∈ whole.parts, ∀ type, Mentions requests type →
      type.canonicalName = part.canonicalName → type = part)
    {name : String} {fields : List (Field DataType)} {captured : Bool}
    (occurs : record name fields captured ∈ whole.parts)
    (buildable : (record name fields captured).Buildable) (receiver : Nat → UInt32) :
    ∃ key loaded built, table.keyOf? name = some key ∧
      ofEntries Catalog.standard receiver table.entries = .ok loaded ∧
      ((resolve key).run loaded).1 = .ok built ∧
      built = (record name fields captured).synthesized ∧
      built.isCaptured = true ∧ built.canonicalName = name ∧
      (built.fields.map fun field => (field.name, field.type.canonicalName)) =
        fields.map fun field => (field.name, field.type.canonicalName) := by
  obtain ⟨filed, _, fits⟩ := (filed_packEach (hereditary_asked requests)
    fun request member => ⟨request, member, .refl⟩).keeps (filed_empty catalog source) ran
  obtain ⟨lengths, each⟩ := List.forall₂_iff_zip.mp (fits (Grows.refl _))
  obtain ⟨_, zipped⟩ := exists_mem_zip lengths asks
  have unmistakable : ∀ part ∈ whole.parts, Unmistakable (Asked requests) part := by
    rintro part member other ⟨request, requestMember, leads⟩ sameName
    exact clear part member _ ⟨request, requestMember, leads.mem_parts⟩ sameName
  have holds : table.HoldsAll (record name fields captured) :=
    ((each zipped).2.holdsAll filed unmistakable).of_mem_parts occurs
  have knows : table.Knows (record name fields captured) :=
    ((each zipped).2.leads filed unmistakable (leadsTo_of_mem_parts occurs rfl)).self.knows
  let loaded : TypeTable := { empty Catalog.standard receiver with entries := table.entries }
  have loadedSound : loaded.Sound := filed.toSound.congr loaded rfl
  have loadedHolds : loaded.HoldsAll (record name fields captured) :=
    fun other otherFields flag within =>
      ⟨(holds other otherFields flag within).known, (holds other otherFields flag within).entry⟩
  obtain ⟨after, resolved, _⟩ := resolve_run loadedSound ⟨[], rfl, fun _ member => nomatch member⟩
    (show loaded.Knows (record name fields captured) from knows)
    (received_synthesized loadedSound rfl buildable loadedHolds)
  refine ⟨_, loaded, _, keyOf?_of_knows knows, ofEntries_sound filed.toSound _ _,
    congrArg Prod.fst resolved, rfl, rfl, canonicalName_synthesized _, ?_⟩
  rw [DataType.synthesized, DataType.fields, synthesizedFields_eq_map, List.map_map]
  exact List.map_congr_left fun field _ => by
    rw [Function.comp_apply, canonicalName_synthesized]

/-- Orders under texts: a type that records occur in as an argument and as elements of a field. -/
def ordersByName : DataType :=
  .generic dictionaryName .map [.string, order]

/-- Orders by name first, and then with their fields inside a dictionary. -/
def ordersInside : List Request :=
  [⟨.array orderLine, false⟩, ⟨order, false⟩, ⟨ordersByName, true⟩]

theorem unmistakable_ordersInside : ∀ part ∈ ordersByName.parts, ∀ type,
    Mentions ordersInside type → type.canonicalName = part.canonicalName → type = part := by
  let types : List DataType := [.string, .int32, orderLine, .array orderLine, order, ordersByName]
  have nodup : (types.map canonicalName).Nodup := by decide +kernel
  have listed : ∀ request ∈ ordersInside, request.type.parts ⊆ types := by
    simp [ordersInside, ordersByName, order, orderLine, DataType.parts, partsAll, partsFields,
      types]
  rintro part within type ⟨request, member, typeWithin⟩ sameName
  exact eq_of_nodup_map nodup (listed request member typeWithin)
    (listed ⟨ordersByName, true⟩ (by simp [ordersInside]) within) sameName

theorem buildable_order : order.Buildable := by
  have primitives : ∀ kind, (primitive kind).Buildable := fun kind =>
    (DataType.Ordinary.primitive kind).buildable
  have linePlain : PlainName "acme.Line" :=
    ⟨by decide, by simp [TypeName.isReserved], by decide +kernel⟩
  have orderPlain : PlainName "acme.Order" :=
    ⟨by decide, by simp [TypeName.isReserved], by decide +kernel⟩
  have line : orderLine.Buildable := .record linePlain (by simp [primitives])
  exact .record orderPlain (by simp [primitives, DataType.Buildable.array line])

theorem resolve_packEach_order : ∃ keys table key loaded built,
    (packEach ordersInside).run (empty Catalog.empty UInt32.ofNat) = (.ok keys, table) ∧
    table.keyOf? "acme.Order" = some key ∧
    ofEntries Catalog.standard UInt32.ofNat table.entries = .ok loaded ∧
    ((resolve key).run loaded).1 = .ok built ∧ built = order.synthesized := by
  have suffice : KeysSuffice (packEach ordersInside) (empty Catalog.empty UInt32.ofNat) := by
    decide +kernel
  obtain ⟨keys, table, ran⟩ := (packEach_collides ordersInside).succeeds suffice
  have occurs : order ∈ ordersByName.parts :=
    parts_argument (.tail _ (.head _)) (mem_parts_self order)
  obtain ⟨key, loaded, built, found, read, resolved, same, _⟩ :=
    resolve_packEach ran (by simp [ordersInside]) unmistakable_ordersInside occurs buildable_order
      UInt32.ofNat
  exact ⟨keys, table, key, loaded, built, ran, found, read, resolved, same⟩

end TypeTable

end PredicateWire
