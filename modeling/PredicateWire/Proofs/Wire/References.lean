/-
This file proves that a reference never leads to another overload. A receiver with the
sender's catalog makes the handle that was referred to again, from the same definition; it
finds nothing if another overload of that name has parameters of the same shapes, and only
then. The catalog has to find the types of the handle for their names: where a definition
lists its parameters in another order, a name stands for another type, and the handle that
is found has another signature (`delivered_misnamed`).
-/
import PredicateWire.Proofs.Catalog.Handles
import PredicateWire.Proofs.Table.Exhaustion
import PredicateWire.Proofs.Table.History
import PredicateWire.Proofs.Table.Naming

namespace PredicateWire

open DataType (skeleton recasts_skeleton)

/-! ### Handles that are found again -/

/-- A handle is found again or no symbol is found, and the latter happens just when there is a
rival. -/
structure Retrieved {Handle : Type} (outcome : Result Handle) (again : Handle → Prop)
    (rivalled : Prop) : Prop where
  either : (∃ handle, outcome = .ok handle ∧ again handle) ∨
    ∃ fault, outcome = .error (.symbolNotFound fault)
  refused : (∃ error, outcome = .error error) ↔ rivalled

theorem Retrieved.found {Handle : Type} {outcome : Result Handle} {again : Handle → Prop}
    {rivalled : Prop} (retrieved : Retrieved outcome again rivalled) (alone : ¬rivalled) :
    ∃ handle, outcome = .ok handle ∧ again handle :=
  retrieved.either.resolve_right fun ⟨_, failed⟩ => alone (retrieved.refused.mp ⟨_, failed⟩)

theorem Retrieved.lost {Handle : Type} {outcome : Result Handle} {again : Handle → Prop}
    {rivalled : Prop} (retrieved : Retrieved outcome again rivalled) (rival : rivalled) :
    ∃ fault, outcome = .error (.symbolNotFound fault) := by
  obtain ⟨error, failed⟩ := retrieved.refused.mpr rival
  refine retrieved.either.resolve_left fun ⟨handle, found, _⟩ => ?_
  cases found.symm.trans failed

theorem Retrieved.bind {First Second : Type} {outcome : Result First} {next : First → Result Second}
    {candidate : First} {again : Second → Prop} {rivalled : Prop}
    (retrieved : Retrieved outcome (· = candidate) rivalled)
    (made : ∃ handle, next candidate = .ok handle ∧ again handle) :
    Retrieved (outcome >>= next) again rivalled := by
  obtain ⟨handle, madeOf, fits⟩ := made
  rw [← retrieved.refused]
  rcases retrieved.either with ⟨_, rfl, rfl⟩ | ⟨fault, rfl⟩
  · refine ⟨.inl ⟨handle, madeOf, fits⟩, ?_⟩
    show (∃ error, next _ = .error error) ↔ _
    rw [madeOf]
    simp
  · exact ⟨.inr ⟨fault, rfl⟩, ⟨fun _ => ⟨_, rfl⟩, fun _ => ⟨_, rfl⟩⟩⟩

/-- One candidate among others is taken when it is alone, and no candidate is when it is not. -/
theorem Catalog.single_append {Candidate : Type} (declaring : DataType) (name : String)
    (parameters : List DataType) (before after : List Candidate) (candidate : Candidate) :
    Retrieved (single declaring name parameters (before ++ candidate :: after)) (· = candidate)
      (before ++ after ≠ []) := by
  have refused {candidates : List Candidate} {fault : SymbolFault}
      (failed : single declaring name parameters candidates = .error (.symbolNotFound fault))
      (several : before ++ after ≠ []) :
      Retrieved (single declaring name parameters candidates) (· = candidate)
        (before ++ after ≠ []) :=
    ⟨.inr ⟨_, failed⟩, ⟨fun _ => several, fun _ => ⟨_, failed⟩⟩⟩
  rcases before with _ | ⟨first, _ | ⟨second, rest⟩⟩
  · rcases after with _ | ⟨second, rest⟩
    · exact ⟨.inl ⟨candidate, rfl, rfl⟩, by simp [single]⟩
    · exact refused rfl nofun
  · exact refused rfl nofun
  · exact refused rfl nofun

/-- A candidate that a reference fits is found among all candidates, if it fits no other. -/
theorem Catalog.single_filter {Candidate : Type} (declaring : DataType) (name : String)
    (parameters : List DataType) (fits : Candidate → Prop) [DecidablePred fits]
    {earlier later : List Candidate} {candidate : Candidate} (fitting : fits candidate) :
    Retrieved (single declaring name parameters
        ((earlier ++ candidate :: later).filter fun other => decide (fits other)))
      (· = candidate) (∃ other ∈ earlier ++ later, fits other) := by
  have several : (earlier.filter fun other => decide (fits other)) ++
      (later.filter fun other => decide (fits other)) ≠ [] ↔
        ∃ other ∈ earlier ++ later, fits other := by
    rw [← List.filter_append, ne_eq, List.filter_eq_nil_iff]
    simp
  rw [List.filter_append, List.filter_cons, if_pos (decide_eq_true fitting), ← several]
  exact single_append declaring name parameters _ _ candidate

/-! ### Rivals -/

/-- A reference to the method fits the other one as well. -/
def Method.Rivals (method other : Method) : Prop :=
  other.declaringType.baseName = method.declaringType.baseName ∧ other.name = method.name ∧
    other.genericArity = method.genericArity ∧
      DataType.shapesMatch other.parameters method.parameters = true

/-- A reference to the constructor fits the other one as well. -/
def Constructor.Rivals (constructor other : Constructor) : Prop :=
  other.declaringType.baseName = constructor.declaringType.baseName ∧
    DataType.shapesMatch other.parameters constructor.parameters = true

instance Method.decidableRivals (method other : Method) : Decidable (method.Rivals other) :=
  inferInstanceAs (Decidable (_ ∧ _ ∧ _ ∧ _))

instance Constructor.decidableRivals (constructor other : Constructor) :
    Decidable (constructor.Rivals other) :=
  inferInstanceAs (Decidable (_ ∧ _))

/-- A handle reads like a method: signature, return type and generic arguments are the same. -/
structure Method.ReadsLike (handle method : Method) : Prop where
  signature : handle.signature = method.signature
  returnType : handle.returnType.canonicalName = method.returnType.canonicalName
  genericArguments : handle.genericArguments.map DataType.canonicalName =
    method.genericArguments.map DataType.canonicalName

/-- Methods whose types have the same skeletons read alike. -/
theorem Method.readsLike_of_recast {handle method : Method}
    (same : handle.recast skeleton = method.recast skeleton) : handle.ReadsLike method where
  signature := by
    rw [← signature_recast recasts_skeleton, same, signature_recast recasts_skeleton]
  returnType := by
    have types : handle.returnType.skeleton = method.returnType.skeleton :=
      congrArg Method.returnType same
    rw [← recasts_skeleton.canonicalName, types, recasts_skeleton.canonicalName]
  genericArguments := by
    have names : ∀ types : List DataType,
        (types.map skeleton).map DataType.canonicalName = types.map DataType.canonicalName := by
      intro types
      rw [List.map_map]
      exact List.map_congr_left fun type _ => recasts_skeleton.canonicalName type
    have types : handle.genericArguments.map skeleton = method.genericArguments.map skeleton :=
      congrArg Method.genericArguments same
    rw [← names, types, names]

theorem DataType.baseName_of_skeleton {left right : DataType}
    (same : left.skeleton = right.skeleton) : left.baseName = right.baseName := by
  rw [← recasts_skeleton.baseName, same, recasts_skeleton.baseName]

theorem DataType.shapesMatch_of_skeleton {left right : List DataType}
    (same : left.map skeleton = right.map skeleton) (expected : List DataType) :
    shapesMatch expected left = shapesMatch expected right := by
  rw [← recasts_skeleton.shapesMatch, same, recasts_skeleton.shapesMatch]

namespace Catalog

section

variable {catalog : Catalog} {image : DataType → DataType}

/-- Where types are received with their skeletons, a reference fits the rivals of a method. -/
theorem filter_overloads {method : Method}
    (similar : ∀ type ∈ method.types, (image type).skeleton = type.skeleton) :
    (catalog.overloads (image method.declaringType).baseName method.name).filter
        (MethodReference.fits method.genericArity (method.parameters.map image)) =
      catalog.methods.filter fun other => decide (method.Rivals other) := by
  rw [Method.types, List.forall_mem_cons, List.forall_mem_append] at similar
  have shapes : (method.parameters.map image).map skeleton = method.parameters.map skeleton := by
    rw [List.map_map]
    exact List.map_congr_left similar.2.1
  rw [overloads, List.filter_filter]
  refine List.filter_congr fun other _ => ?_
  rw [MethodReference.fits, DataType.baseName_of_skeleton similar.1,
    DataType.shapesMatch_of_skeleton shapes, Bool.eq_iff_iff, decide_eq_true_iff, Method.Rivals]
  simp only [Bool.and_eq_true, beq_iff_eq]
  tauto

/-- Where types are received with their skeletons, a reference fits the rivals of a constructor. -/
theorem filter_constructorsOf {constructor : Constructor}
    (similar : ∀ type ∈ constructor.types, (image type).skeleton = type.skeleton) :
    ((catalog.constructorsOf (image constructor.declaringType).baseName).filter fun other =>
        DataType.shapesMatch other.parameters (constructor.parameters.map image)) =
      catalog.constructors.filter fun other => decide (constructor.Rivals other) := by
  rw [Constructor.types, List.forall_mem_cons] at similar
  have shapes : (constructor.parameters.map image).map skeleton =
      constructor.parameters.map skeleton := by
    rw [List.map_map]
    exact List.map_congr_left similar.2
  rw [constructorsOf, List.filter_filter]
  refine List.filter_congr fun other _ => ?_
  rw [DataType.baseName_of_skeleton similar.1, DataType.shapesMatch_of_skeleton shapes,
    Bool.eq_iff_iff, decide_eq_true_iff, Constructor.Rivals]
  simp only [Bool.and_eq_true, beq_iff_eq]
  tauto

/-- A definition makes a method again from types with the same skeletons, up to skeletons. So what
is made has the same signature, though its types may be others of the same names. -/
theorem Restores.remade {definition method : Method} (restores : Restores definition method)
    {declaring : DataType} {arguments : List DataType}
    (sameDeclaring : declaring.skeleton = method.declaringType.skeleton)
    (sameArguments : arguments.map skeleton = method.genericArguments.map skeleton) :
    ∃ handle, (if method.genericArity = 0 then .ok (definition.closeOver declaring)
        else (definition.closeOver declaring).makeGeneric arguments) = .ok handle ∧
      definition.HandleOf handle ∧ handle.recast skeleton = method.recast skeleton := by
  have carriers : (definition.closeOver declaring).recast skeleton =
      (definition.closeOver method.declaringType).recast skeleton := by
    rw [Method.recast_closeOver recasts_skeleton, sameDeclaring,
      Method.recast_closeOver recasts_skeleton]
  have same : definition.declaringType.baseName = declaring.baseName :=
    restores.baseName.trans (DataType.baseName_of_skeleton sameDeclaring).symm
  have made := restores.made
  split at made
  · rename_i plain
    refine ⟨_, if_pos plain, .carried same, ?_⟩
    rw [carriers, Except.ok.inj made]
  · rename_i generic
    obtain ⟨isOpen, lengths, filled⟩ := Method.makeGeneric_eq_ok.mp made
    have remade : (definition.closeOver declaring).makeGeneric arguments =
        .ok ((definition.closeOver declaring).filled arguments) := by
      refine Method.makeGeneric_eq_ok.mpr ⟨isOpen, ?_, rfl⟩
      have counts := congrArg List.length sameArguments
      rw [List.length_map, List.length_map] at counts
      exact counts.trans lengths
    refine ⟨_, (if_neg generic).trans remade, .carriedFirst same remade, ?_⟩
    rw [Method.recast_filled recasts_skeleton, carriers, sameArguments,
      ← Method.recast_filled recasts_skeleton, ← filled]

/-- What is received for a method that a definition restores: a handle of this definition that reads
like the method, or nothing if a rival fits the reference too. -/
theorem retrieved_receivedMethod {earlier later : List Method} {definition method : Method}
    (listed : catalog.methods = earlier ++ definition :: later)
    (restores : Restores definition method)
    (similar : ∀ type ∈ method.types, (image type).skeleton = type.skeleton) :
    Retrieved (catalog.receivedMethod image method)
      (fun handle => definition.HandleOf handle ∧ handle.ReadsLike method)
      (∃ other ∈ earlier ++ later, method.Rivals other) := by
  have fitting : method.Rivals definition :=
    ⟨restores.baseName, restores.name, restores.genericArity, restores.shapes⟩
  have candidates : (catalog.overloads (image method.declaringType).baseName method.name).filter
      (MethodReference.fits method.genericArity (method.parameters.map image)) = _ :=
    filter_overloads similar
  rw [Method.types, List.forall_mem_cons, List.forall_mem_append] at similar
  have sameArguments : (method.genericArguments.map image).map skeleton =
      method.genericArguments.map skeleton := by
    rw [List.map_map]
    exact List.map_congr_left similar.2.2
  obtain ⟨handle, made, handleOf, same⟩ := restores.remade similar.1 sameArguments
  unfold receivedMethod methodFor
  rw [candidates, listed]
  exact (single_filter _ _ _ method.Rivals fitting).bind
    ⟨handle, made, handleOf, Method.readsLike_of_recast same⟩

/-- What is received for a constructor of the catalog: the constructor itself, or nothing if another
one fits the reference too. -/
theorem retrieved_receivedConstructor {earlier later : List Constructor} {constructor : Constructor}
    (listed : catalog.constructors = earlier ++ constructor :: later)
    (closed : ∀ type ∈ constructor.parameters, type.isClosed = true)
    (similar : ∀ type ∈ constructor.types, (image type).skeleton = type.skeleton) :
    Retrieved (catalog.receivedConstructor image constructor) (· = constructor)
      (∃ other ∈ earlier ++ later, constructor.Rivals other) := by
  unfold receivedConstructor constructorFor
  rw [filter_constructorsOf similar, listed]
  exact single_filter _ _ _ constructor.Rivals ⟨rfl, shapesMatch_self closed⟩

end

/-! ### Types with a name -/

/-- The type is closed, and what the catalog finds for its name has the same base name and,
argument by argument, the same arguments. -/
def Recalls (catalog : Catalog) (type : DataType) : Prop :=
  type.isClosed = true ∧
    ∃ found, catalog.typeNamed type.canonicalName = .ok found ∧ found.skeleton = type.skeleton

/-- What the catalog finds for the name of a type. -/
def recalled (catalog : Catalog) (type : DataType) : DataType :=
  (catalog.typeNamed type.canonicalName).toOption.getD type

theorem Recalls.named {catalog : Catalog} {type : DataType} (recalls : catalog.Recalls type) :
    catalog.typeNamed type.canonicalName = .ok (catalog.recalled type) ∧
      (catalog.recalled type).skeleton = type.skeleton := by
  obtain ⟨_, found, named, same⟩ := recalls
  rw [recalled, named]
  exact ⟨rfl, same⟩

end Catalog

/-! ### What a receiver makes of a reference -/

namespace TypeTable

open Reception (settles_method settles_constructor)

/-- What a receiver with the catalog of a sender makes of a reference that the sender packs: it
loads the sender's entries and resolves the reference. -/
def delivered {Reference Handle : Type} (pack : TableM Reference)
    (resolve : Reference → TableM Handle) (table : TypeTable) (source : Nat → UInt32) :
    Result Handle := do
  let reference ← (pack.run table).1
  let loaded ← ofEntries table.catalog source (pack.run table).2.entries
  ((resolve reference).run loaded).1

section

variable {table : TypeTable} {image : DataType → DataType}

/-- A reference to something is delivered as what it settles to in any sound table over the catalog
that has keys for its types. -/
theorem delivered_of_settles {Reference Handle : Type} {pack : TableM Reference}
    {resolve : Reference → TableM Handle} (refer : (DataType → TypeKey) → Reference)
    (tracked : table.Tracked) (source : Nat → UInt32) (collides : OnlyCollides pack)
    (suffice : KeysSuffice pack table) {types : List DataType}
    (packs : Adds Tracked pack fun reference later =>
      reference = refer later.keyFor ∧ ∀ type ∈ types, later.Knows type)
    (named : ∀ type ∈ types, table.catalog.typeNamed type.canonicalName = .ok (image type))
    {result : Result Handle}
    (settles : ∀ {loaded : TypeTable}, loaded.Sound → loaded.catalog = table.catalog →
      (∀ type ∈ types, Receives loaded image type) →
        Reception.Settles loaded (resolve (refer loaded.keyFor)) result) :
    delivered pack resolve table source = result := by
  obtain ⟨reference, sent, ran⟩ := collides.succeeds suffice
  obtain ⟨sentTracked, grows, fits⟩ := packs.keeps tracked ran
  obtain ⟨rfl, known⟩ := fits (Grows.refl sent)
  have installed := ofEntries_sound sentTracked.toSound table.catalog source
  let loaded : TypeTable := { empty table.catalog source with entries := sent.entries }
  have sound : loaded.Sound := sentTracked.toSound.congr loaded rfl
  have fresh : Stage loaded loaded := ⟨[], rfl, nofun⟩
  obtain ⟨after, resolved, _⟩ := (settles sound rfl fun type member =>
    ⟨known type member, (typeNamed_eq_ok.mp (named type member)).of_empty rfl⟩).run fresh
  unfold delivered
  rw [ran]
  show (do
    let loaded ← ofEntries table.catalog source sent.entries
    ((resolve (refer sent.keyFor)).run loaded).1) = _
  rw [installed]
  show ((resolve (refer loaded.keyFor)).run loaded).1 = _
  rw [resolved]

/-- A reference to a method is delivered as what the catalog has for it, provided that the method is
closed, its types have names there and the sender does not run out of keys. -/
theorem delivered_method (tracked : table.Tracked) (source : Nat → UInt32) {method : Method}
    (closed : method.isGenericDefinition = false)
    (suffice : KeysSuffice (MethodReference.pack method) table)
    (named : ∀ type ∈ method.types,
      table.catalog.typeNamed type.canonicalName = .ok (image type)) :
    delivered (MethodReference.pack method) MethodReference.resolve table source =
      table.catalog.receivedMethod image method := by
  refine delivered_of_settles (MethodReference.to · method) tracked source
    (MethodReference.pack_collides closed) suffice
    ((adds_packMethod lasts_tracked method).weaken fun _ _ packed => packed.2) named ?_
  intro loaded sound same receives
  rw [← same]
  exact settles_method sound method receives

/-- A reference to a constructor is delivered as what the catalog has for it, provided that its
types have names there and the sender does not run out of keys. -/
theorem delivered_constructor (tracked : table.Tracked) (source : Nat → UInt32)
    {constructor : Constructor}
    (suffice : KeysSuffice (ConstructorReference.pack constructor) table)
    (named : ∀ type ∈ constructor.types,
      table.catalog.typeNamed type.canonicalName = .ok (image type)) :
    delivered (ConstructorReference.pack constructor) ConstructorReference.resolve table source =
      table.catalog.receivedConstructor image constructor := by
  refine delivered_of_settles (ConstructorReference.to · constructor) tracked source
    (ConstructorReference.pack_collides constructor) suffice
    (adds_packConstructor lasts_tracked constructor) named ?_
  intro loaded sound same receives
  rw [← same]
  exact settles_constructor sound constructor receives

end

/-- A reference never leads to another overload. From a tracked table, as packing makes it, a closed
handle of a definition is delivered as a handle of the same definition that reads like it, and a
constructor as itself, when the catalog finds their types for their names. The only other outcome
is that no symbol is found, and it comes about just when another overload of the catalog fits the
reference. -/
theorem references_retrieved {table : TypeTable} (tracked : table.Tracked)
    (source : Nat → UInt32) :
    (∀ {earlier later : List Method} {definition method : Method},
      table.catalog.methods = earlier ++ definition :: later →
      (definition.genericArity ≠ 0 → definition.genericArguments = []) →
      definition.HandleOf method → method.isGenericDefinition = false →
      (∀ type ∈ method.types, table.catalog.Recalls type) → method.returnType.isClosed = true →
      KeysSuffice (MethodReference.pack method) table →
      Retrieved (delivered (MethodReference.pack method) MethodReference.resolve table source)
        (fun handle => definition.HandleOf handle ∧ handle.ReadsLike method)
        (∃ other ∈ earlier ++ later, method.Rivals other)) ∧
    (∀ {earlier later : List Constructor} {constructor : Constructor},
      table.catalog.constructors = earlier ++ constructor :: later →
      (∀ type ∈ constructor.types, table.catalog.Recalls type) →
      KeysSuffice (ConstructorReference.pack constructor) table →
      Retrieved (delivered (ConstructorReference.pack constructor) ConstructorReference.resolve
          table source)
        (· = constructor) (∃ other ∈ earlier ++ later, constructor.Rivals other)) := by
  constructor
  · intro earlier later definition method listed unclosed handle closed recalls returnType suffice
    have restores := Catalog.restores_of_handle handle unclosed
      (fun type member => (recalls type member).1) returnType closed
    rw [delivered_method tracked source closed suffice fun type member =>
      (recalls type member).named.1]
    exact Catalog.retrieved_receivedMethod listed restores fun type member =>
      (recalls type member).named.2
  · intro earlier later constructor listed recalls suffice
    rw [delivered_constructor tracked source suffice fun type member =>
      (recalls type member).named.1]
    exact Catalog.retrieved_receivedConstructor listed
      (fun type member => (recalls type (List.mem_cons_of_mem _ member)).1)
      fun type member => (recalls type member).named.2

open IndexedTable (pairCatalog swappedPair)

/-- A static method of pairs that answers with its second argument. -/
def pick (declaring : DataType) : Method :=
  .staticMethod declaring "Pick" [.parameter .type 0, .parameter .method 0] (.parameter .method 0) 1
    (.script (.argument 1))

/-- A method of pairs that takes one of their components. -/
def join (position : Nat) : Method :=
  .instanceMethod pairs "Join" [.parameter .type position] .string (.script (.argument 0))

/-- A constructor of integers. -/
def parsed : Constructor :=
  ⟨.int32, [.string], .script (.argument 0)⟩

/-- A catalog with pairs, a generic method of them, two overloads of another, and a constructor. -/
def offering : Catalog :=
  { pairCatalog pairs with
    methods := Catalog.standard.methods ++ [pick pairs, join 0, join 1]
    constructors := [parsed] }

theorem recalls_offering : ∀ type ∈ [pair, .int32, .bool, .string], offering.Recalls type := by
  refine List.forall_mem_cons.mpr ⟨⟨by decide, pair, typeNamed_pair rfl rfl rfl, rfl⟩, ?_⟩
  have library {type : DataType} (closed : type.isClosed = true)
      (known : Catalog.standard.findType? type.canonicalName = some type)
      (other : "Pair`2" ≠ type.canonicalName) : offering.Recalls type :=
    ⟨closed, type, typeNamed_library rfl rfl known other, rfl⟩
  exact List.forall_mem_cons.mpr ⟨library rfl rfl (by decide), List.forall_mem_cons.mpr
    ⟨library rfl rfl (by decide), List.forall_mem_singleton.mpr (library rfl rfl (by decide))⟩⟩

/-- The method of pairs, closed and then carried over. -/
def picked : Method :=
  ((pick pairs).filled [.bool]).closeOver pair

/-- One of the overloads, carried over. -/
def joined : Method :=
  (join 0).closeOver pair

/-- A method that was closed before it was carried over to pairs is found again, and so is a
constructor. Of two overloads that each take a component of the pairs neither is. -/
theorem references_retrieved_offering :
    (∃ handle, delivered (MethodReference.pack picked) MethodReference.resolve
        (empty offering UInt32.ofNat) UInt32.ofNat = .ok handle ∧
        (pick pairs).HandleOf handle ∧ handle.signature =
          "Pair`2[[sys.Int32],[sys.String]].Pick<sys.Boolean>(sys.Int32,sys.Boolean)") ∧
      (∃ fault, delivered (MethodReference.pack joined) MethodReference.resolve
        (empty offering UInt32.ofNat) UInt32.ofNat = .error (.symbolNotFound fault)) ∧
      delivered (ConstructorReference.pack parsed) ConstructorReference.resolve
        (empty offering UInt32.ofNat) UInt32.ofNat = .ok parsed := by
  have recalls {types : List DataType} (listed : types ⊆ [pair, .int32, .bool, .string]) :
      ∀ type ∈ types, offering.Recalls type := fun type member =>
    recalls_offering type (listed member)
  have retrieved := references_retrieved (tracked_empty offering UInt32.ofNat) UInt32.ofNat
  refine ⟨?_, ?_, ?_⟩
  · have listed : offering.methods =
        Catalog.standard.methods ++ pick pairs :: [join 0, join 1] := rfl
    have standing : ∀ position, pairs.arguments.getD position (.parameter .type position) =
        .parameter .type position := by
      rintro (_ | _ | position) <;> rfl
    have made : (pick pairs).makeGeneric [.bool] = .ok ((pick pairs).filled [.bool]) := rfl
    have handle : (pick pairs).HandleOf picked := .closedFirst rfl standing made
    have types : picked.types = [pair, .int32, .bool, .bool] := rfl
    obtain ⟨found, delivers, handleOf, reads⟩ := (retrieved.1 listed (fun _ => rfl) handle rfl
      (recalls (types ▸ by simp)) rfl (by decide +kernel)).found (by decide +kernel)
    exact ⟨found, delivers, handleOf, reads.signature⟩
  · have listed : offering.methods =
        (Catalog.standard.methods ++ [pick pairs]) ++ join 0 :: [join 1] := rfl
    have handle : (join 0).HandleOf joined := .carried rfl
    have types : joined.types = [pair, .int32] := rfl
    exact (retrieved.1 listed (fun _ => rfl) handle rfl (recalls (types ▸ by simp)) rfl
      (by decide +kernel)).lost (by decide +kernel)
  · have listed : offering.constructors = [] ++ parsed :: [] := rfl
    have types : parsed.types = [.int32, .string] := rfl
    obtain ⟨found, delivers, rfl⟩ := (retrieved.2 listed (recalls (types ▸ by simp))
      (by decide +kernel)).found (by decide)
    exact delivers

/-! ### Names that stand for other types -/

/-- A handle of a definition whose declaring type lists its parameters the other way round, carried
over to pairs and then closed. -/
def carriedFirst : Method :=
  ((pick swappedPair).closeOver pair).filled [.bool]

/-- The handle that comes of doing the same in the other order. -/
def closedFirst : Method :=
  ((pick swappedPair).filled [.bool]).closeOver pair

/-- A catalog with such a definition of pairs. -/
def swapped : Catalog :=
  (pairCatalog swappedPair).registerMethod (pick swappedPair)

/-- A catalog whose definition of pairs lists its parameters in order. -/
def ordered : Catalog :=
  (pairCatalog pairs).registerMethod (pick swappedPair)

/-- A method of a record that goes by the name of an array. -/
def total : Method :=
  .staticMethod .int32 "Total" [.record "sys.Int32[]" [] false] .int32 0 (.script (.argument 0))

/-- The types of the first handle have names, but the pairs go by the name of others. -/
theorem typeNamed_carriedFirst : ∀ type ∈ carriedFirst.types,
    swapped.typeNamed type.canonicalName = .ok (if type.canonicalName = pair.canonicalName then
      .generic "Pair`2" .record [.string, .int32] else type) := by
  have types : carriedFirst.types = [pair, .int32, .bool, .bool] := rfl
  rw [types]
  refine List.forall_mem_cons.mpr ⟨?_, List.forall_mem_cons.mpr ⟨?_, List.forall_mem_cons.mpr
    ⟨?_, List.forall_mem_singleton.mpr ?_⟩⟩⟩
  · exact typeNamed_pair rfl rfl rfl
  · exact typeNamed_library rfl rfl rfl (by decide)
  · exact typeNamed_library rfl rfl rfl (by decide)
  · exact typeNamed_library rfl rfl rfl (by decide)

theorem typeNamed_closedFirst : ∀ type ∈ closedFirst.types,
    ordered.typeNamed type.canonicalName = .ok type := by
  have types : closedFirst.types = [pair, .string, .bool, .bool] := rfl
  rw [types]
  refine List.forall_mem_cons.mpr ⟨?_, List.forall_mem_cons.mpr ⟨?_, List.forall_mem_cons.mpr
    ⟨?_, List.forall_mem_singleton.mpr ?_⟩⟩⟩
  · exact typeNamed_pair rfl rfl rfl
  · exact typeNamed_library rfl rfl rfl (by decide)
  · exact typeNamed_library rfl rfl rfl (by decide)
  · exact typeNamed_library rfl rfl rfl (by decide)

/-- The parameter type of the method has a name, but the name is that of an array. -/
theorem typeNamed_total : ∀ type ∈ total.types,
    (Catalog.standard.registerMethod total).typeNamed type.canonicalName =
      .ok (if type.canonicalName = "sys.Int32[]" then .array .int32 else type) := by
  have types : total.types = [.int32, .record "sys.Int32[]" [] false] := rfl
  rw [types]
  refine List.forall_mem_cons.mpr ⟨?_, List.forall_mem_singleton.mpr ?_⟩
  · exact typeNamed_eq_ok.mpr (.known rfl)
  · exact typeNamed_eq_ok.mpr (.array rfl rfl (.known rfl))

/-- It is not enough that all types of a handle are closed and have names. Pairs may go by the name
of other pairs, and then a handle with another signature is delivered; so it is, though all types
go by their own names, when the declaring type lists its parameters the other way round and the
definition was closed before it was carried over. A record may go by the name of an array, and then
nothing is delivered although there is no rival. -/
theorem delivered_misnamed :
    (swappedPair.instantiate [.string, .int32] = .ok pair ∧
      pick swappedPair ∈ swapped.methods ∧
      ((pick swappedPair).closeOver pair).makeGeneric [.bool] = .ok carriedFirst ∧
      (∀ type ∈ carriedFirst.types, type.isClosed = true ∧
        ∃ found, swapped.typeNamed type.canonicalName = .ok found) ∧
      ∃ handle, delivered (MethodReference.pack carriedFirst) MethodReference.resolve
        (empty swapped UInt32.ofNat) UInt32.ofNat = .ok handle ∧
          handle.signature ≠ carriedFirst.signature) ∧
    (pick swappedPair ∈ ordered.methods ∧
      (pick swappedPair).makeGeneric [.bool] = .ok ((pick swappedPair).filled [.bool]) ∧
      (∀ type ∈ closedFirst.types, type.isClosed = true ∧
        ordered.typeNamed type.canonicalName = .ok type) ∧
      ∃ handle, delivered (MethodReference.pack closedFirst) MethodReference.resolve
        (empty ordered UInt32.ofNat) UInt32.ofNat = .ok handle ∧
          handle.signature ≠ closedFirst.signature) ∧
    ((Catalog.standard.registerMethod total).methods = Catalog.standard.methods ++ [total] ∧
      (∀ type ∈ total.types, type.isClosed = true ∧ ∃ found,
        (Catalog.standard.registerMethod total).typeNamed type.canonicalName = .ok found) ∧
      (¬∃ other ∈ Catalog.standard.methods, total.Rivals other) ∧
      delivered (MethodReference.pack total) MethodReference.resolve
          (empty (Catalog.standard.registerMethod total) UInt32.ofNat) UInt32.ofNat =
        .error (.symbolNotFound (.unresolvedCall "sys.Int32" "Total" ["sys.Int32[]"] 0))) := by
  have closedAll : (∀ type ∈ carriedFirst.types, type.isClosed = true) ∧
      (∀ type ∈ closedFirst.types, type.isClosed = true) ∧
        ∀ type ∈ total.types, type.isClosed = true := by
    decide
  refine ⟨⟨rfl, List.mem_append_right _ (.head _), rfl, fun type member =>
      ⟨closedAll.1 type member, _, typeNamed_carriedFirst type member⟩, ?_⟩,
    ⟨List.mem_append_right _ (.head _), rfl, fun type member =>
      ⟨closedAll.2.1 type member, typeNamed_closedFirst type member⟩, ?_⟩,
    rfl, fun type member => ⟨closedAll.2.2 type member, _, typeNamed_total type member⟩, ?_, ?_⟩
  · have same := delivered_method (tracked_empty swapped UInt32.ofNat) UInt32.ofNat rfl
      (by decide +kernel) typeNamed_carriedFirst
    exact ⟨_, same.trans rfl, by decide⟩
  · have same := delivered_method (tracked_empty ordered UInt32.ofNat) UInt32.ofNat rfl
      (by decide +kernel) typeNamed_closedFirst
    exact ⟨_, same.trans rfl, by decide⟩
  · decide +kernel
  · exact delivered_method (tracked_empty _ UInt32.ofNat) UInt32.ofNat rfl (by decide +kernel)
      typeNamed_total

end TypeTable

end PredicateWire
