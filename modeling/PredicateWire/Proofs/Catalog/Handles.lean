/-
This file says which handles come from a catalog and proves that such a handle is found
again. What a packet says of a method is its declaring type, its name and the types of
its parameters, and the receiver looks for a definition with that base name, that name
and parameter types of the same shapes. A shape forgets what generic parameters are
filled in with, so a second overload can have it; a handle is found if none has
(`Catalog.Singles`), and then it is closed again over the types that the packet gives.

A generic method of a generic type is carried over to an instance of the type and closed
over arguments of its own, and both orders occur. They agree if the parameters of the
declaring type stand for themselves in its list of arguments
(`Method.closeOver_filled`); otherwise closing first and carrying over later fills in
other types than the receiver does.
-/
import PredicateWire.Proofs.Types.Recasting
import PredicateWire.Proofs.Types.Substitution
import PredicateWire.Proofs.Wire.Rebuilding

namespace PredicateWire

/-! ### Closing methods -/

namespace Method

/-- What closing a generic method over arguments makes of it. -/
def filled (method : Method) (arguments : List DataType) : Method :=
  let fill := DataType.substitute method.declaringType.arguments arguments
  { method with
    parameters := method.parameters.map fill
    returnType := fill method.returnType
    genericArguments := arguments }

/-- Closing succeeds for an open generic method and as many arguments as it has parameters of its
own. -/
theorem makeGeneric_eq_ok {method closed : Method} {arguments : List DataType} :
    method.makeGeneric arguments = .ok closed ↔ method.isGenericDefinition = true ∧
      arguments.length = method.genericArity ∧ closed = method.filled arguments := by
  unfold makeGeneric
  split
  · rename_i notOpen
    rw [Bool.not_eq_true'] at notOpen
    simp [notOpen]
  · rename_i isOpen
    rw [Bool.not_eq_true', Bool.not_eq_false] at isOpen
    split
    · rename_i lengths
      simp [lengths]
    · rename_i lengths
      rw [ne_eq, Decidable.not_not] at lengths
      constructor
      · intro made
        cases made
        exact ⟨isOpen, lengths, rfl⟩
      · rintro ⟨_, _, rfl⟩
        rfl

/-- A method is open if it is generic and has not been closed over arguments. -/
theorem isGenericDefinition_iff {method : Method} : method.isGenericDefinition = true ↔
    0 < method.genericArity ∧ method.genericArguments = [] := by
  simp [isGenericDefinition]

/-- A method whose types are closed is carried over to its own type as it is. -/
theorem closeOver_self {method : Method}
    (parameters : ∀ type ∈ method.parameters, type.isClosed = true)
    (returnType : method.returnType.isClosed = true) :
    method.closeOver method.declaringType = method := by
  have kept : ∀ filling arguments, method.parameters.map (DataType.substitute filling arguments) =
      method.parameters := fun filling arguments =>
    (List.map_congr_left fun type member =>
      DataType.substitute_of_closed filling arguments (parameters type member)).trans
        (List.map_id _)
  rw [closeOver, kept, DataType.substitute_of_closed _ _ returnType]

/-- Closing a method that has been carried over to its own type does as much as closing it. -/
theorem filled_closeOver_self {method : Method} (unclosed : method.genericArguments = [])
    (closed : ∀ argument ∈ method.declaringType.arguments, argument.isClosed = true)
    (arguments : List DataType) :
    (method.closeOver method.declaringType).filled arguments = method.filled arguments := by
  have once := DataType.substitute_substitute (DataType.completes_types closed arguments)
  simp only [filled, closeOver, unclosed, List.map_map, Function.comp_def, once]

/-- Closing a method over arguments and carrying it over to a type can be done in either order, if
the parameters of the declaring type stand for themselves in its list of arguments. The arguments on
both sides are closed, so that nothing that was filled in is filled in again. -/
theorem closeOver_filled {method : Method} (unclosed : method.genericArguments = [])
    (standing : ∀ position, method.declaringType.arguments.getD position
      (.parameter .type position) = .parameter .type position)
    {declaring : DataType} (carried : ∀ argument ∈ declaring.arguments, argument.isClosed = true)
    {arguments : List DataType} (closed : ∀ argument ∈ arguments, argument.isClosed = true) :
    (method.filled arguments).closeOver declaring =
      (method.closeOver declaring).filled arguments := by
  have first := DataType.substitute_substitute
    (DataType.completes_methods standing closed declaring.arguments)
  have second := DataType.substitute_substitute (DataType.completes_types carried arguments)
  simp only [filled, closeOver, unclosed, List.map_map, Function.comp_def, first, second]

/-! ### Methods with changed types -/

section

variable {change : DataType → DataType} {family : Family → Family}

/-- The method with all its types changed. -/
def recast (change : DataType → DataType) (method : Method) : Method :=
  { method with
    declaringType := change method.declaringType
    parameters := method.parameters.map change
    returnType := change method.returnType
    genericArguments := method.genericArguments.map change }

/-- Carrying a method over to a type commutes with a change of types that keeps the structure of
types. -/
theorem recast_closeOver (recasts : DataType.Recasts change family) (method : Method)
    (declaringType : DataType) : (method.closeOver declaringType).recast change =
      (method.recast change).closeOver (change declaringType) := by
  simp only [recast, closeOver, List.map_map, Function.comp_def, recasts.substitute,
    recasts.arguments]

/-- Filling in the arguments of a method commutes with a change of types that keeps their
structure. -/
theorem recast_filled (recasts : DataType.Recasts change family) (method : Method)
    (arguments : List DataType) : (method.filled arguments).recast change =
      (method.recast change).filled (arguments.map change) := by
  simp only [recast, filled, List.map_map, Function.comp_def, recasts.substitute,
    recasts.arguments]

/-- A signature does not show the change. -/
theorem signature_recast (recasts : DataType.Recasts change family) (method : Method) :
    (method.recast change).signature = method.signature := by
  have names : ∀ types : List DataType, nameList (types.map change) = nameList types := by
    intro types
    rw [nameList, nameList, List.map_map]
    exact congrArg commaSeparated (List.map_congr_left fun type _ => recasts.canonicalName type)
  have none : (method.genericArguments.map change).isEmpty = method.genericArguments.isEmpty :=
    List.isEmpty_map
  simp only [signature, recast, recasts.canonicalName, names, none]

end

/-! ### Handles of a definition -/

/-- A handle that a definition of a catalog is turned into: carried over to a type of the same base
name at most once, such as an instance of its declaring type, and closed at most once. A definition
may be closed before it is carried over, if the parameters of its own declaring type stand for
themselves. -/
inductive HandleOf (definition : Method) : Method → Prop
  | itself : HandleOf definition definition
  | carried {carrier : DataType} (same : definition.declaringType.baseName = carrier.baseName) :
    HandleOf definition (definition.closeOver carrier)
  | closed {handle : Method} {arguments : List DataType}
    (made : definition.makeGeneric arguments = .ok handle) : HandleOf definition handle
  | carriedFirst {carrier : DataType} {handle : Method} {arguments : List DataType}
    (same : definition.declaringType.baseName = carrier.baseName)
    (made : (definition.closeOver carrier).makeGeneric arguments = .ok handle) :
    HandleOf definition handle
  | closedFirst {carrier : DataType} {handle : Method} {arguments : List DataType}
    (same : definition.declaringType.baseName = carrier.baseName)
    (standing : ∀ position, definition.declaringType.arguments.getD position
      (.parameter .type position) = .parameter .type position)
    (made : definition.makeGeneric arguments = .ok handle) :
    HandleOf definition (handle.closeOver carrier)

end Method

namespace Catalog

/-! ### Methods of a catalog -/

/-- A method that has not been closed: a definition of the catalog, or one that has been carried
over to an instance of its declaring type. -/
inductive OffersOpen (catalog : Catalog) : Method → Prop
  | definition {definition : Method} (member : definition ∈ catalog.methods)
    (unclosed : definition.genericArity ≠ 0 → definition.genericArguments = []) :
    OffersOpen catalog definition
  | carried {definition : Method} {carrier : DataType} (member : definition ∈ catalog.methods)
    (unclosed : definition.genericArity ≠ 0 → definition.genericArguments = [])
    (same : definition.declaringType.baseName = carrier.baseName) :
    OffersOpen catalog (definition.closeOver carrier)

/-- A method that comes from the catalog, closed if it is generic. A definition may be closed
before it is carried over; the parameters of its own declaring type still stand for themselves
then. -/
inductive Offers (catalog : Catalog) : Method → Prop
  | open {method : Method} (offers : OffersOpen catalog method) : Offers catalog method
  | closed {method closed : Method} {arguments : List DataType}
    (offers : OffersOpen catalog method) (made : method.makeGeneric arguments = .ok closed) :
    Offers catalog closed
  | closedFirst {definition closed : Method} {arguments : List DataType} {carrier : DataType}
    (member : definition ∈ catalog.methods)
    (same : definition.declaringType.baseName = carrier.baseName)
    (standing : ∀ position, definition.declaringType.arguments.getD position
      (.parameter .type position) = .parameter .type position)
    (made : definition.makeGeneric arguments = .ok closed) :
    Offers catalog (closed.closeOver carrier)

/-- A definition from which a method is made again. -/
structure Restores (definition method : Method) : Prop where
  baseName : definition.declaringType.baseName = method.declaringType.baseName
  name : definition.name = method.name
  genericArity : definition.genericArity = method.genericArity
  shapes : DataType.shapesMatch definition.parameters method.parameters = true
  made : (if method.genericArity = 0 then .ok (definition.closeOver method.declaringType)
    else (definition.closeOver method.declaringType).makeGeneric method.genericArguments) =
      .ok method

/-- A method closed over a carried definition is made again from the definition: carrying over
and closing are both done by filling in parameters, and neither looks at what the other has
filled in. -/
theorem restores_filled {definition : Method} {declaring : DataType} {arguments : List DataType}
    (unclosed : definition.genericArguments = []) (generic : definition.genericArity ≠ 0)
    (same : definition.declaringType.baseName = declaring.baseName)
    (closed : ∀ argument ∈ declaring.arguments, argument.isClosed = true)
    (lengths : arguments.length = definition.genericArity) :
    Restores definition ((definition.closeOver declaring).filled arguments) := by
  have once := DataType.substitute_substitute (DataType.completes_types closed arguments)
  refine ⟨same, rfl, rfl, ?_, ?_⟩
  · have shapes := DataType.shapesMatch_substitute declaring.arguments arguments
      definition.parameters
    simp only [Method.filled, Method.closeOver, unclosed, List.map_map, Function.comp_def, once]
    exact shapes
  · rw [if_neg (show ¬((definition.closeOver declaring).filled arguments).genericArity = 0
      from generic)]
    exact Method.makeGeneric_eq_ok.mpr
      ⟨Method.isGenericDefinition_iff.mpr ⟨Nat.pos_of_ne_zero generic, unclosed⟩, lengths, rfl⟩

/-- A closed parameter list has the shapes of itself. -/
theorem shapesMatch_self {parameters : List DataType}
    (closed : ∀ type ∈ parameters, type.isClosed = true) :
    DataType.shapesMatch parameters parameters = true := by
  have shapes := DataType.shapesMatch_substitute [] [] parameters
  rwa [List.map_congr_left fun type member =>
    DataType.substitute_of_closed [] [] (closed type member), List.map_id'] at shapes

/-- A closed handle is made again from its definition, in whichever order it was carried over and
closed. This is what a reference to the handle has to be enough for. -/
theorem restores_of_handle {definition method : Method} (handle : definition.HandleOf method)
    (unclosed : definition.genericArity ≠ 0 → definition.genericArguments = [])
    (types : ∀ type ∈ method.types, type.isClosed = true)
    (returnType : method.returnType.isClosed = true)
    (notOpen : method.isGenericDefinition = false) : Restores definition method := by
  rw [Method.types, List.forall_mem_cons, List.forall_mem_append] at types
  obtain ⟨declaring, parameters, arguments⟩ := types
  have declaringArguments : ∀ argument ∈ method.declaringType.arguments,
      argument.isClosed = true := fun _ => DataType.closed_of_mem_arguments declaring
  have plain : method.genericArity = definition.genericArity →
      method.genericArguments = definition.genericArguments → method.genericArity = 0 := by
    intro sameArity sameArguments
    refine Nat.eq_zero_of_not_pos fun generic => ?_
    have none := unclosed (sameArity ▸ Nat.ne_of_gt generic)
    rw [Method.isGenericDefinition_iff.mpr ⟨generic, sameArguments.trans none⟩] at notOpen
    cases notOpen
  cases handle with
  | itself =>
    refine ⟨rfl, rfl, rfl, shapesMatch_self parameters, ?_⟩
    rw [if_pos (plain rfl rfl), Method.closeOver_self parameters returnType]
  | carried same =>
    refine ⟨same, rfl, rfl, DataType.shapesMatch_substitute _ _ _, ?_⟩
    rw [if_pos (plain rfl rfl)]
    rfl
  | closed made =>
    obtain ⟨isOpen, lengths, rfl⟩ := Method.makeGeneric_eq_ok.mp made
    obtain ⟨generic, unclosed⟩ := Method.isGenericDefinition_iff.mp isOpen
    rw [← Method.filled_closeOver_self unclosed declaringArguments]
    exact restores_filled unclosed (Nat.ne_of_gt generic) rfl declaringArguments lengths
  | carriedFirst same made =>
    obtain ⟨isOpen, lengths, rfl⟩ := Method.makeGeneric_eq_ok.mp made
    obtain ⟨generic, unclosed⟩ := Method.isGenericDefinition_iff.mp isOpen
    exact restores_filled unclosed (Nat.ne_of_gt generic) same declaringArguments lengths
  | @closedFirst carrier _ filling same standing made =>
    obtain ⟨isOpen, lengths, rfl⟩ := Method.makeGeneric_eq_ok.mp made
    obtain ⟨generic, unclosed⟩ := Method.isGenericDefinition_iff.mp isOpen
    have swapped : (definition.filled filling).closeOver carrier =
        (definition.closeOver carrier).filled filling :=
      Method.closeOver_filled unclosed standing declaringArguments arguments
    rw [swapped]
    exact restores_filled unclosed (Nat.ne_of_gt generic) same declaringArguments lengths

/-- A method that comes from the catalog is a handle of a definition of the catalog. -/
theorem Offers.handle {catalog : Catalog} {method : Method} (offers : catalog.Offers method) :
    ∃ definition ∈ catalog.methods, definition.HandleOf method ∧
      (definition.genericArity ≠ 0 → definition.genericArguments = []) := by
  have unclosedOf {definition closed : Method} {arguments : List DataType}
      (made : definition.makeGeneric arguments = .ok closed) : definition.genericArguments = [] :=
    (Method.isGenericDefinition_iff.mp (Method.makeGeneric_eq_ok.mp made).1).2
  cases offers with
  | «open» offers =>
    cases offers with
    | definition member unclosed => exact ⟨_, member, .itself, unclosed⟩
    | carried member unclosed same => exact ⟨_, member, .carried same, unclosed⟩
  | closed offers made =>
    cases offers with
    | definition member unclosed => exact ⟨_, member, .closed made, unclosed⟩
    | carried member unclosed same => exact ⟨_, member, .carriedFirst same made, unclosed⟩
  | closedFirst member same standing made =>
    exact ⟨_, member, .closedFirst same standing made, fun _ => unclosedOf made⟩

/-- A closed method that comes from the catalog is made again from a definition of the catalog. -/
theorem Offers.restores {catalog : Catalog} {method : Method} (offers : catalog.Offers method)
    (types : ∀ type ∈ method.types, type.isClosed = true)
    (returnType : method.returnType.isClosed = true)
    (notOpen : method.isGenericDefinition = false) :
    ∃ definition ∈ catalog.methods, Restores definition method := by
  obtain ⟨definition, member, handle, unclosed⟩ := offers.handle
  exact ⟨definition, member, restores_of_handle handle unclosed types returnType notOpen⟩

/-! ### Handles that are found again -/

theorem single_of_length {Candidate : Type} {declaring : DataType} {name : String}
    {parameters : List DataType} {candidates : List Candidate} {candidate : Candidate}
    (member : candidate ∈ candidates) (alone : candidates.length ≤ 1) :
    single declaring name parameters candidates = .ok candidate := by
  match candidates, member, alone with
  | [only], member, _ =>
    rw [List.mem_singleton.mp member]
    rfl

/-- No other overload has the arity of a method and parameters of its shapes. -/
def Singles (catalog : Catalog) (method : Method) : Prop :=
  ((catalog.overloads method.declaringType.baseName method.name).filter
    (MethodReference.fits method.genericArity method.parameters)).length ≤ 1

/-- No other constructor of the type has parameters of the same shapes. -/
def SinglesConstructor (catalog : Catalog) (constructor : Constructor) : Prop :=
  ((catalog.constructorsOf constructor.declaringType.baseName).filter fun other =>
    DataType.shapesMatch other.parameters constructor.parameters).length ≤ 1

theorem length_of_single {Candidate : Type} {declaring : DataType} {name : String}
    {parameters : List DataType} {candidates : List Candidate} {candidate : Candidate}
    (found : single declaring name parameters candidates = .ok candidate) :
    candidates.length ≤ 1 := by
  match candidates, found with
  | [_], _ => exact Nat.le_refl 1

/-- A method for which anything is received has no rival. -/
theorem singles_of_received {catalog : Catalog} {method received : Method}
    (found : catalog.receivedMethod id method = .ok received) : catalog.Singles method := by
  unfold receivedMethod methodFor at found
  obtain ⟨definition, single, _⟩ := bind_eq_ok found
  rw [List.map_id] at single
  exact length_of_single single

/-- A constructor for which anything is received has no rival. -/
theorem singlesConstructor_of_received {catalog : Catalog} {constructor received : Constructor}
    (found : catalog.receivedConstructor id constructor = .ok received) :
    catalog.SinglesConstructor constructor := by
  unfold receivedConstructor constructorFor at found
  rw [List.map_id] at found
  exact length_of_single found

/-- A closed method that comes from the catalog is received as it is, if no other overload has its
shapes. -/
theorem Offers.received {catalog : Catalog} {method : Method} (offers : catalog.Offers method)
    (types : ∀ type ∈ method.types, type.isClosed = true)
    (returnType : method.returnType.isClosed = true)
    (notOpen : method.isGenericDefinition = false) (singles : catalog.Singles method) :
    catalog.receivedMethod id method = .ok method := by
  obtain ⟨definition, member, restores⟩ := offers.restores types returnType notOpen
  have candidate : definition ∈
      (catalog.overloads method.declaringType.baseName method.name).filter
        (MethodReference.fits method.genericArity method.parameters) := by
    rw [List.mem_filter, overloads, List.mem_filter, MethodReference.fits, restores.baseName,
      restores.name, restores.genericArity, restores.shapes]
    simp [member]
  unfold receivedMethod methodFor
  rw [List.map_id, List.map_id, id, single_of_length candidate singles]
  exact restores.made

/-- Whatever is received for a closed method that comes from the catalog is that method. If another
overload fits the reference as well nothing is received, so nothing has to be assumed about
overloads. -/
theorem Offers.eq_of_received {catalog : Catalog} {method handle : Method}
    (offers : catalog.Offers method) (types : ∀ type ∈ method.types, type.isClosed = true)
    (returnType : method.returnType.isClosed = true)
    (notOpen : method.isGenericDefinition = false)
    (received : catalog.receivedMethod id method = .ok handle) : handle = method := by
  have same := offers.received types returnType notOpen (singles_of_received received)
  rw [received] at same
  exact Except.ok.inj same

/-- A method that comes from the catalog has the arity of a definition. -/
theorem Offers.exists_arity {catalog : Catalog} {method : Method} (offers : catalog.Offers method) :
    ∃ definition ∈ catalog.methods, definition.genericArity = method.genericArity := by
  have ofOpen : ∀ {source : Method}, OffersOpen catalog source →
      ∃ definition ∈ catalog.methods, definition.genericArity = source.genericArity := by
    intro source offers
    cases offers with
    | definition member => exact ⟨_, member, rfl⟩
    | carried member => exact ⟨_, member, rfl⟩
  cases offers with
  | «open» offers => exact ofOpen offers
  | closed offers made =>
    obtain ⟨_, _, rfl⟩ := Method.makeGeneric_eq_ok.mp made
    obtain ⟨definition, member, same⟩ := ofOpen offers
    exact ⟨definition, member, same⟩
  | closedFirst member _ _ made =>
    obtain ⟨_, _, rfl⟩ := Method.makeGeneric_eq_ok.mp made
    exact ⟨_, member, rfl⟩

/-- A constructor of the catalog is received as it is, if its parameter types are closed and no
other constructor of the type has their shapes. -/
theorem received_of_mem_constructors {catalog : Catalog} {constructor : Constructor}
    (member : constructor ∈ catalog.constructors)
    (parameters : ∀ type ∈ constructor.parameters, type.isClosed = true)
    (singles : catalog.SinglesConstructor constructor) :
    catalog.receivedConstructor id constructor = .ok constructor := by
  have shapes := shapesMatch_self parameters
  have candidate : constructor ∈
      (catalog.constructorsOf constructor.declaringType.baseName).filter fun other =>
        DataType.shapesMatch other.parameters constructor.parameters := by
    rw [List.mem_filter, constructorsOf, List.mem_filter, shapes]
    simp [member]
  unfold receivedConstructor constructorFor
  rw [List.map_id, id]
  exact single_of_length candidate singles

end Catalog

end PredicateWire
