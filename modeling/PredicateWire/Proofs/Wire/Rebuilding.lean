/-
This file proves that rebuilding a tree with types spoken of by keys of a sound table
yields what is received for the expression: its handles are looked up, its types are
found, and its parameters become those that the session has made for their names. The
result is described without the session, by `Expr.received`, and so it can be reasoned
about by recursion on the expression.

Parameters are the difficulty. They are made while the tree is rebuilt, and what is made
for a name depends on what was made before. But a parameter is never changed and never
lost, so a later list of parameters gives the same answer for it (`Parameter.slot`), and
the result can be described with the list as it is in the end, as trees are described
with tables.
-/
import PredicateWire.Proofs.Table.Search
import PredicateWire.Proofs.Wire.NodeText
import PredicateWire.Proofs.Wire.Packing
import PredicateWire.Wire.Rebuild

namespace PredicateWire

/-! ### Handles of a catalog -/

namespace Catalog

/-- The only one of several candidates. -/
def single {Candidate : Type} (declaring : DataType) (name : String) (parameters : List DataType) :
    List Candidate → Result Candidate
  | [candidate] => .ok candidate
  | candidates =>
    .error (.symbolNotFound (.unresolvedCall declaring.canonicalName name
      (parameters.map DataType.canonicalName) candidates.length))

/-- The method that a declaring type, a name, parameter types and an arity single out, closed over
arguments. -/
def methodFor (catalog : Catalog) (declaring : DataType) (name : String)
    (parameters : List DataType) (arity : Nat) (arguments : List DataType) : Result Method := do
  let definition ← single declaring name parameters
    ((catalog.overloads declaring.baseName name).filter (MethodReference.fits arity parameters))
  if arity = 0 then .ok (definition.closeOver declaring)
  else (definition.closeOver declaring).makeGeneric arguments

/-- The constructor that a declaring type and parameter types single out. -/
def constructorFor (catalog : Catalog) (declaring : DataType) (parameters : List DataType) :
    Result Constructor :=
  single declaring "new" parameters
    ((catalog.constructorsOf declaring.baseName).filter fun constructor =>
      DataType.shapesMatch constructor.parameters parameters)

/-- The member that a declaring type and a name single out. -/
def memberFor (catalog : Catalog) (declaring : DataType) (name : String) : Result Member :=
  match catalog.member? declaring name with
  | some read => .ok read
  | none => .error (.symbolNotFound (.unknownMember declaring.canonicalName name))

variable (catalog : Catalog) (image : DataType → DataType)

/-- The method received for a sent one. -/
def receivedMethod (method : Method) : Result Method :=
  catalog.methodFor (image method.declaringType) method.name (method.parameters.map image)
    method.genericArity (method.genericArguments.map image)

/-- The method received for a sent one, if there is one. -/
def receivedMethod? : Option Method → Result (Option Method)
  | none => .ok none
  | some method => do
    let received ← catalog.receivedMethod image method
    return some received

/-- The constructor received for a sent one. -/
def receivedConstructor (constructor : Constructor) : Result Constructor :=
  catalog.constructorFor (image constructor.declaringType) (constructor.parameters.map image)

/-- The member received for a sent one. -/
def receivedMember (read : Member) : Result Member :=
  catalog.memberFor (image read.declaringType) read.name

end Catalog

/-! ### Received expressions -/

namespace Expr

/-- A conversion has to be a lambda. -/
def checkedConversion : Option Expr → Result Unit
  | none => .ok ()
  | some (lambda _ _ _ _ _) => .ok ()
  | some other => .error (.typeMismatch (.conversionNode other.kind))

/-- An array initialiser has to have an array type. -/
def checkedArray (declared element : DataType) : Result Unit :=
  match declared with
  | .array _ => .ok ()
  | _ => .error (.typeMismatch (.initializerType element.canonicalName declared.canonicalName))

section

variable (catalog : Catalog) (image : DataType → DataType) (made : Parameter → Parameter)

mutual

/-- The expression that is received for a sent one: with the images of its types, with what was
made for its parameters, and with handles of the receiver's catalog. -/
def received : Expr → Result Expr
  | lambda type parameters body name tailCall => do
    let body ← received body
    return lambda (image type) (parameters.map made) body name tailCall
  | parameter referenced => .ok (parameter (made referenced))
  | binary operator type left right method conversion => do
    let conversion ← receivedOption conversion
    checkedConversion conversion
    let left ← received left
    let right ← received right
    let method ← catalog.receivedMethod? image method
    return binary operator (image type) left right method conversion
  | member target read => do
    let target ← received target
    let read ← catalog.receivedMember image read
    return member target read
  | constant value type => do
    let value ← Value.ofLiteral (image type) value.document.normalize
    return constant value (image type)
  | call target method arguments => do
    let target ← receivedOption target
    let method ← catalog.receivedMethod image method
    let arguments ← receivedAll arguments
    return call target method arguments
  | construct constructor arguments => do
    let constructor ← catalog.receivedConstructor image constructor
    let arguments ← receivedAll arguments
    return construct constructor arguments
  | arrayInit type elements => do
    checkedArray (image type) (image (type.element?.getD type))
    let elements ← receivedAll elements
    return arrayInit (image type) elements
  | unary _ _ operand => received operand

/-- The expressions that are received for several sent ones. -/
def receivedAll : List Expr → Result (List Expr)
  | [] => .ok []
  | expression :: rest => do
    let expression ← received expression
    let expressions ← receivedAll rest
    return expression :: expressions

/-- The expression that is received for one that may be absent. -/
def receivedOption : Option Expr → Result (Option Expr)
  | none => .ok none
  | some expression => do
    let expression ← received expression
    return some expression

end

end

end Expr

/-! ### What is made for a parameter -/

/-- The parameter made for a sent one: the one with its name and the name of its type. -/
def Parameter.slot (image : DataType → DataType) (made : List Parameter) (sent : Parameter) :
    Parameter :=
  (made.find? fun candidate =>
    candidate.type.canonicalName == (image sent.type).canonicalName &&
      candidate.name == sent.name).getD sent

/-- The table has a key for a type, and the type's name is received as the type's image. -/
def TypeTable.Receives (base : TypeTable) (image : DataType → DataType) (type : DataType) : Prop :=
  base.Knows type ∧ Received base type.canonicalName (image type)

/-- What stays the same while an expression is rebuilt: a table with the packed entries, the types
received for names, the depth limit, the scope of the parameters made, and the parameters of the
expression. -/
structure Reception where
  base : TypeTable
  image : DataType → DataType
  limit : Nat
  scope : Nat
  sent : List Parameter

namespace Reception

/-- A state of rebuilding in which nothing but notes and parameters have been added: every
parameter was made for a sent one, and its place tells it apart. -/
structure Holds (reception : Reception) (rebuild : Rebuild) : Prop where
  stage : reception.base.Stage rebuild.table
  limit : rebuild.limit = reception.limit
  scope : rebuild.scope = reception.scope
  made : ∀ made ∈ rebuild.parameters, ∃ sent ∈ reception.sent, made.name = sent.name ∧
    made.type = reception.image sent.type ∧ made.byReference = sent.byReference
  places : ∀ {place : Nat} {made : Parameter}, rebuild.parameters[place]? = some made →
    made.identity = ⟨reception.scope, place⟩

/-- Work yields what is expected, once all parameters that will be made are known. -/
structure Yields {Content : Type} (reception : Reception) (work : RebuildM Content)
    (expected : List Parameter → Result Content) : Prop where
  run : ∀ {start outcome final}, reception.Holds start → work.run start = (outcome, final) →
    reception.Holds final ∧ start.parameters <+: final.parameters ∧
      ∀ {later}, final.parameters <+: later → outcome = expected later

open Running TypeTable

/-- Work on a table that only takes notes has a result. -/
structure Settles {Content : Type} (base : TypeTable) (work : TableM Content)
    (result : Result Content) : Prop where
  run : ∀ {table}, base.Stage table →
    ∃ after, work.run table = (result, after) ∧ base.Stage after

section Settling

variable {base : TypeTable} {First Second : Type}

theorem settles_pure (content : First) : Settles base (pure content) (.ok content) :=
  ⟨fun stage => ⟨_, rfl, stage⟩⟩

theorem settles_throw (error : Error) : Settles base (throw error : TableM First) (.error error) :=
  ⟨fun stage => ⟨_, rfl, stage⟩⟩

theorem settles_bind {work : TableM First} {next : First → TableM Second}
    {result : Result First} {results : First → Result Second} (first : Settles base work result)
    (second : ∀ content, Settles base (next content) (results content)) :
    Settles base (work >>= next) (result >>= results) := by
  refine ⟨fun stage => ?_⟩
  obtain ⟨middle, ran, middleStage⟩ := first.run stage
  cases result with
  | error error => exact ⟨middle, by rw [run_bind, ran]; rfl, middleStage⟩
  | ok content =>
    obtain ⟨after, nextRan, afterStage⟩ := (second content).run middleStage
    exact ⟨after, by rw [run_bind, ran]; exact nextRan, afterStage⟩

/-- Work that begins with a success goes on from what it yields. -/
theorem settles_then {work : TableM First} {next : First → TableM Second} {content : First}
    {result : Result Second} (first : Settles base work (.ok content))
    (second : Settles base (next content) result) : Settles base (work >>= next) result := by
  refine ⟨fun stage => ?_⟩
  obtain ⟨middle, ran, middleStage⟩ := first.run stage
  obtain ⟨after, nextRan, afterStage⟩ := second.run middleStage
  exact ⟨after, by rw [run_bind, ran]; exact nextRan, afterStage⟩

theorem settles_lift (base : TypeTable) (result : Result First) :
    Settles base (lift result) result := by
  cases result with
  | ok content => exact settles_pure content
  | error error => exact settles_throw error

/-- Work may look at the catalog, which never changes. -/
theorem settles_get {next : TypeTable → TableM First} {result : Result First}
    (each : ∀ table, table.catalog = base.catalog → Settles base (next table) result) :
    Settles base (get >>= next) result := by
  refine ⟨fun {table} stage => ?_⟩
  have same : table.catalog = base.catalog := by
    obtain ⟨found, rfl, _⟩ := stage
    rfl
  exact (each table same).run stage

variable {image : DataType → DataType}

theorem settles_resolve (sound : base.Sound) {type : DataType}
    (receives : Receives base image type) :
    Settles base (resolve (base.keyFor type)) (.ok (image type)) :=
  ⟨fun stage => resolve_run sound stage receives.1 receives.2⟩

theorem settles_resolveAll (sound : base.Sound) {types : List DataType}
    (receives : ∀ type ∈ types, Receives base image type) :
    Settles base (resolveAll (types.map base.keyFor)) (.ok (types.map image)) := by
  unfold resolveAll
  induction types with
  | nil => exact settles_pure _
  | cons type rest inductionHypothesis =>
    rw [List.forall_mem_cons] at receives
    rw [List.map_cons, List.mapM_cons]
    refine settles_then (settles_resolve sound receives.1) ?_
    refine settles_then (inductionHypothesis receives.2) ?_
    exact settles_pure _

/-- The only candidate is taken, and several or none are refused. -/
theorem settles_only {Candidate : Type} (declaring : DataType) (name : String)
    (parameters : List DataType) (candidates : List Candidate) :
    Settles base (only declaring.canonicalName name parameters candidates)
      (Catalog.single declaring name parameters candidates) := by
  rcases candidates with _ | ⟨candidate, _ | ⟨second, rest⟩⟩
  · exact settles_throw _
  · exact settles_pure candidate
  · exact settles_throw _

theorem arity_to (key : DataType → TypeKey) (method : Method) :
    (MethodReference.to key method).genericArity.getD 0 = method.genericArity := by
  unfold MethodReference.to Method.isGeneric
  dsimp only
  split
  · rfl
  · rename_i plain
    rw [decide_eq_true_iff] at plain
    exact (Nat.eq_zero_of_not_pos plain).symm

theorem settles_method (sound : base.Sound) (method : Method)
    (receives : ∀ type ∈ method.types, Receives base image type) :
    Settles base (MethodReference.to base.keyFor method).resolve
      (base.catalog.receivedMethod image method) := by
  rw [Method.types, List.forall_mem_cons, List.forall_mem_append] at receives
  unfold MethodReference.resolve
  refine settles_then (settles_resolve sound receives.1) ?_
  refine settles_then (settles_resolveAll sound receives.2.1) ?_
  refine settles_get fun table same => ?_
  rw [same, arity_to]
  refine settles_bind (settles_only _ _ _ _) fun definition => ?_
  split
  · exact settles_pure _
  · refine settles_then (settles_resolveAll sound receives.2.2) ?_
    exact settles_lift _ _

theorem settles_constructor (sound : base.Sound) (constructor : Constructor)
    (receives : ∀ type ∈ constructor.types, Receives base image type) :
    Settles base (ConstructorReference.to base.keyFor constructor).resolve
      (base.catalog.receivedConstructor image constructor) := by
  rw [Constructor.types, List.forall_mem_cons] at receives
  unfold ConstructorReference.resolve
  refine settles_then (settles_resolve sound receives.1) ?_
  refine settles_then (settles_resolveAll sound receives.2) ?_
  refine settles_get fun table same => ?_
  rw [same]
  exact settles_only _ _ _ _

theorem settles_member (sound : base.Sound) (read : Member)
    (receives : Receives base image read.declaringType) :
    Settles base (MemberReference.to base.keyFor read).resolve
      (base.catalog.receivedMember image read) := by
  unfold MemberReference.resolve
  refine settles_then (settles_resolve sound receives) ?_
  refine settles_get fun table same => ?_
  rw [same]
  unfold Catalog.receivedMember Catalog.memberFor
  dsimp only [MemberReference.to]
  cases base.catalog.member? (image read.declaringType) read.name with
  | some found => exact settles_pure found
  | none => exact settles_throw _

end Settling

/-! ### Rebuilding -/

section Yielding

variable {reception : Reception} {First Second : Type}

theorem yields_pure (content : First) : Yields reception (pure content) fun _ => .ok content := by
  refine ⟨fun holds ran => ?_⟩
  cases ran
  exact ⟨holds, List.prefix_rfl, fun _ => rfl⟩

theorem yields_throw (error : Error) :
    Yields reception (throw error : RebuildM First) fun _ => .error error := by
  refine ⟨fun holds ran => ?_⟩
  cases ran
  exact ⟨holds, List.prefix_rfl, fun _ => rfl⟩

theorem yields_bind {work : RebuildM First} {next : First → RebuildM Second}
    {expected : List Parameter → Result First}
    {others : First → List Parameter → Result Second} (first : Yields reception work expected)
    (second : ∀ content, Yields reception (next content) (others content)) :
    Yields reception (work >>= next) fun later =>
      expected later >>= fun content => others content later := by
  refine ⟨fun {start outcome final} holds ran => ?_⟩
  rw [run_bind] at ran
  rcases workRan : work.run start with ⟨error | content, middle⟩
  · rw [workRan] at ran
    cases ran
    obtain ⟨finalHolds, grown, fits⟩ := first.run holds workRan
    exact ⟨finalHolds, grown, fun laterGrown => by rw [← fits laterGrown]; rfl⟩
  · rw [workRan] at ran
    obtain ⟨middleHolds, grown, fits⟩ := first.run holds workRan
    obtain ⟨finalHolds, grownFurther, nextFits⟩ := (second content).run middleHolds ran
    refine ⟨finalHolds, grown.trans grownFurther, fun laterGrown => ?_⟩
    rw [← fits (grownFurther.trans laterGrown)]
    exact nextFits laterGrown

/-- Work that begins with a success goes on from what it yields. No parameters have to be known for
the beginning, whatever is made later. -/
theorem yields_then {work : RebuildM First} {next : First → RebuildM Second} {content : First}
    {expected : List Parameter → Result Second}
    (first : Yields reception work fun _ => .ok content)
    (second : Yields reception (next content) expected) :
    Yields reception (work >>= next) expected := by
  refine ⟨fun {start outcome final} holds ran => ?_⟩
  rw [run_bind] at ran
  rcases workRan : work.run start with ⟨error | found, middle⟩
  · obtain ⟨_, _, fits⟩ := first.run holds workRan
    cases fits List.prefix_rfl
  · rw [workRan] at ran
    obtain ⟨middleHolds, grown, fits⟩ := first.run holds workRan
    cases fits List.prefix_rfl
    obtain ⟨finalHolds, grownFurther, nextFits⟩ := second.run middleHolds ran
    exact ⟨finalHolds, grown.trans grownFurther, nextFits⟩

theorem yields_onTable {work : TableM First} {result : Result First}
    (settles : Settles reception.base work result) :
    Yields reception (Rebuild.onTable work) fun _ => result := by
  refine ⟨fun {start outcome final} holds ran => ?_⟩
  obtain ⟨after, workRan, stage⟩ := settles.run holds.stage
  have run : (Rebuild.onTable work).run start =
      ((work.run start.table).1, { start with table := (work.run start.table).2 }) := rfl
  rw [run, workRan] at ran
  cases ran
  exact ⟨⟨stage, holds.limit, holds.scope, holds.made, holds.places⟩, List.prefix_rfl,
    fun _ => rfl⟩

/-- What is made for a parameter is found again whatever is made later, because later parameters are
behind it in the list and the first one of the names is taken. -/
theorem slot_of_find {image : DataType → DataType} {made later : List Parameter}
    {sent found : Parameter} (earlier : made <+: later)
    (first : made.find? (fun candidate =>
      candidate.type.canonicalName == (image sent.type).canonicalName &&
        candidate.name == sent.name) = some found) : sent.slot image later = found := by
  obtain ⟨more, rfl⟩ := earlier
  rw [Parameter.slot, List.find?_append, first]
  rfl

theorem yields_parameter {sent : Parameter} (member : sent ∈ reception.sent) :
    Yields reception
      (Rebuild.parameter (reception.image sent.type) sent.name sent.byReference)
      fun later => .ok (sent.slot reception.image later) := by
  refine ⟨fun {start outcome final} holds ran => ?_⟩
  unfold Rebuild.parameter at ran
  simp only [run_bind, run_get] at ran
  split at ran
  · rename_i found present
    cases ran
    exact ⟨holds, List.prefix_rfl, fun laterGrown => by rw [slot_of_find laterGrown present]⟩
  · rename_i absent
    generalize newEq : (⟨⟨start.scope, start.parameters.length⟩, sent.name,
      reception.image sent.type, sent.byReference⟩ : Parameter) = new at ran
    cases ran
    have made : (start.parameters ++ [new]).find? (fun candidate =>
        candidate.type.canonicalName == (reception.image sent.type).canonicalName &&
          candidate.name == sent.name) = some new := by
      rw [List.find?_append, show start.parameters.find? _ = none from absent, ← newEq]
      simp
    refine ⟨⟨holds.stage, holds.limit, holds.scope, ?_, ?_⟩, List.prefix_append _ _,
      fun laterGrown => by rw [slot_of_find laterGrown made]⟩
    · intro other otherMember
      rcases List.mem_append.mp otherMember with earlier | last
      · exact holds.made other earlier
      · rw [List.mem_singleton.mp last, ← newEq]
        exact ⟨sent, member, rfl, rfl, rfl⟩
    · intro place other placed
      rcases Nat.lt_trichotomy place start.parameters.length with before | rfl | beyond
      · rw [List.getElem?_append_left before] at placed
        exact holds.places placed
      · rw [List.getElem?_append_right (Nat.le_refl _), Nat.sub_self] at placed
        cases placed
        rw [← newEq, holds.scope]
      · rw [List.getElem?_eq_none (by simp; omega)] at placed
        cases placed

/-- A node within the depth limit, made of what its kind says, is entered with the type that its
key stands for. -/
theorem yields_enter (sound : reception.base.Sound) {node : Node} {kind : NodeKind}
    {type : DataType} {depth : Nat} (header : node.header = ⟨kind, reception.base.keyFor type, false⟩)
    (fits : node.tag.fits kind = true) (shallow : depth ≤ reception.limit)
    (receives : Receives reception.base reception.image type) :
    Yields reception (node.enter depth) fun _ => .ok (reception.image type) := by
  refine ⟨fun {start outcome final} holds ran => ?_⟩
  have settled := yields_onTable (settles_resolve sound receives)
  unfold Node.enter at ran
  rw [run_bind, run_get] at ran
  simp only [header, fits, holds.limit, Nat.not_lt.mpr shallow, if_false, Bool.not_true,
    Bool.false_eq_true] at ran
  exact settled.run holds ran

theorem Yields.congr {work : RebuildM First} {expected wanted : List Parameter → Result First}
    (yields : Yields reception work expected) (same : ∀ later, expected later = wanted later) :
    Yields reception work wanted := by
  have equal : expected = wanted := funext same
  exact equal ▸ yields

/-- What a rebuilt entry of a parameter list has to be. -/
def declaredParameter : Expr → Result Parameter
  | .parameter referenced => .ok referenced
  | other => .error (.typeMismatch (.parameterNode other.kind))

theorem yields_declared (expression : Expr) :
    Yields reception (Rebuild.declaredParameter expression) fun _ =>
      declaredParameter expression := by
  cases expression with
  | parameter referenced => exact yields_pure referenced
  | _ => exact yields_throw _

theorem normalizedAll_parameters (key : DataType → TypeKey) (parameters : List Parameter) :
    Node.normalizedAll (parameters.map (Parameter.node key)) =
      parameters.map (Parameter.node key) := by
  induction parameters with
  | nil => rfl
  | cons first rest inductionHypothesis =>
    rw [List.map_cons, Node.normalizedAll, inductionHypothesis]
    rfl

theorem yields_rebuildParameters (sound : reception.base.Sound) {parameters : List Parameter}
    (depth : Nat) (shallow : parameters ≠ [] → depth ≤ reception.limit)
    (receives : ∀ type ∈ parameters.map Parameter.type,
      Receives reception.base reception.image type)
    (sent : ∀ parameter ∈ parameters, parameter ∈ reception.sent) :
    Yields reception
      (Node.rebuildParameters (parameters.map (Parameter.node reception.base.keyFor)) depth)
      fun later => .ok (parameters.map (Parameter.slot reception.image later)) := by
  induction parameters with
  | nil =>
    unfold Node.rebuildParameters
    exact yields_pure _
  | cons first rest inductionHypothesis =>
    rw [List.map_cons, List.forall_mem_cons] at receives
    rw [List.forall_mem_cons] at sent
    have rests := inductionHypothesis (fun _ => shallow (List.cons_ne_nil _ _)) receives.2 sent.2
    rw [List.map_cons]
    unfold Node.rebuildParameters
    have node : Yields reception ((first.node reception.base.keyFor).rebuildAt depth)
        fun later => .ok (.parameter (first.slot reception.image later)) := by
      unfold Parameter.node Node.rebuildAt
      refine yields_then (yields_enter sound rfl rfl (shallow (List.cons_ne_nil _ _)) receives.1) ?_
      exact yields_bind (yields_parameter sent.1) fun made => yields_pure _
    have all := yields_bind node fun expression => yields_bind
      (yields_declared expression) fun declared => yields_bind rests fun parameters =>
        yields_pure (declared :: parameters)
    exact all.congr fun _ => rfl

theorem yields_checkConversion (conversion : Option Expr) :
    Yields reception (Rebuild.checkConversion conversion) fun _ =>
      Expr.checkedConversion conversion := by
  rcases conversion with _ | conversion
  · exact yields_pure ()
  · cases conversion with
    | lambda => exact yields_pure ()
    | _ => exact yields_throw _

theorem yields_checkArray (declared element : DataType) :
    Yields reception (Rebuild.checkArray declared element) fun _ =>
      Expr.checkedArray declared element := by
  cases declared with
  | array => exact yields_pure ()
  | _ => exact yields_throw _

theorem yields_method? (sound : reception.base.Sound) (method : Option Method)
    (receives : ∀ type ∈ method.toList.flatMap Method.types,
      Receives reception.base reception.image type) :
    Yields reception (Rebuild.method? (method.map (MethodReference.to reception.base.keyFor)))
      fun _ => reception.base.catalog.receivedMethod? reception.image method := by
  cases method with
  | none => exact yields_pure none
  | some method =>
    refine yields_bind (yields_onTable (settles_method sound method fun type member => ?_))
      fun received =>
      yields_pure (some received)
    exact receives type (by simpa using member)

end Yielding

/-! ### Rebuilding expressions -/

open PredicateWire.Expr

variable {reception : Reception}

/-- The types that are spoken of are received, and the parameters are among the sent ones. -/
structure Accepts (reception : Reception) (types : List DataType) (parameters : List Parameter) :
    Prop where
  types : ∀ type ∈ types, Receives reception.base reception.image type
  parameters : ∀ parameter ∈ parameters, parameter ∈ reception.sent

theorem Accepts.of_subset {types fewerTypes : List DataType}
    {parameters fewerParameters : List Parameter} (accepts : reception.Accepts types parameters)
    (typesIncluded : ∀ type ∈ fewerTypes, type ∈ types)
    (parametersIncluded : ∀ parameter ∈ fewerParameters, parameter ∈ parameters) :
    reception.Accepts fewerTypes fewerParameters :=
  ⟨fun type member => accepts.types type (typesIncluded type member),
    fun parameter member =>
      accepts.parameters parameter (parametersIncluded parameter member)⟩

mutual

/-- Rebuilding the tree of an expression yields what is received for it, under the images of its
types and with the parameters that there are in the end. Where something of the expression is
refused, the errors are the same. -/
theorem yields_rebuildAt (sound : reception.base.Sound) : ∀ (expression : Expr) (depth : Nat),
    expression.Packable reception.limit depth →
    reception.Accepts expression.types expression.parameters →
    Yields reception ((expression.node reception.base.keyFor).normalized.rebuildAt depth)
      fun later => expression.received reception.base.catalog reception.image
        (Parameter.slot reception.image later)
  | .lambda type parameters body name tailCall, depth, packable, accepts => by
    obtain ⟨shallow, declared, bodyPackable⟩ := packable
    rw [types_lambda, parameters_lambda] at accepts
    have inBody := yields_rebuildAt sound body (depth + 1) bodyPackable
      (accepts.of_subset (by simp +contextual) (by simp +contextual))
    have inList := yields_rebuildParameters sound (depth + 1) declared
      (fun each member => accepts.types each (by simp [List.mem_map.mp member]))
      (fun each member => accepts.parameters each (by simp [member]))
    rw [Expr.node, Node.normalized, normalizedAll_parameters]
    unfold Node.rebuildAt
    refine yields_then (yields_enter sound rfl rfl shallow (accepts.types type (by simp))) ?_
    have all := yields_bind inList fun list => yields_bind inBody fun body =>
      yields_pure (Expr.lambda (reception.image type) list body name tailCall)
    exact all.congr fun later => by rw [received]; rfl
  | .parameter referenced, depth, packable, accepts => by
    unfold Packable at packable
    rw [types_parameter, parameters_parameter] at accepts
    rw [Expr.node, Parameter.node, Node.normalized]
    unfold Node.rebuildAt
    refine yields_then (yields_enter sound rfl rfl packable (accepts.types _ (by simp))) ?_
    have made := yields_parameter (accepts.parameters referenced (by simp))
    exact (yields_bind made fun made => yields_pure (Expr.parameter made)).congr
      fun later => by rw [received]; rfl
  | .binary operator type left right method conversion, depth, packable, accepts => by
    obtain ⟨shallow, closed, leftPackable, rightPackable, conversionPackable⟩ := packable
    rw [types_binary, parameters_binary] at accepts
    have inLeft := yields_rebuildAt sound left (depth + 1) leftPackable
      (accepts.of_subset (by simp +contextual) (by simp +contextual))
    have inRight := yields_rebuildAt sound right (depth + 1) rightPackable
      (accepts.of_subset (by simp +contextual) (by simp +contextual))
    have inConversion := yields_rebuildOption sound conversion (depth + 1) conversionPackable
      (accepts.of_subset (by simp +contextual) (by simp +contextual))
    have handle := yields_method? sound method
      fun each member => accepts.types each (List.mem_cons_of_mem _ (List.mem_append_left _ member))
    rw [Expr.node, Node.normalized]
    unfold Node.rebuildAt
    refine yields_then (yields_enter sound rfl rfl shallow (accepts.types type (by simp))) ?_
    have all := yields_bind inConversion fun conversion =>
      yields_bind (yields_checkConversion conversion) fun _ => yields_bind inLeft fun left =>
        yields_bind inRight fun right => yields_bind handle fun method =>
          yields_pure (Expr.binary operator (reception.image type) left right method conversion)
    exact all.congr fun later => by rw [received]; rfl
  | .member target read, depth, packable, accepts => by
    obtain ⟨shallow, shown, targetPackable⟩ := packable
    rw [types_member, parameters_member] at accepts
    have inTarget := yields_rebuildAt sound target (depth + 1) targetPackable
      (accepts.of_subset (by simp +contextual) (by simp +contextual))
    have handle := yields_onTable (settles_member sound read (accepts.types _ (by simp)))
    rw [Expr.node, Node.normalized]
    unfold Node.rebuildAt
    refine yields_then (yields_enter sound rfl rfl shallow (accepts.types _ (by simp))) ?_
    have all := yields_bind inTarget fun target => yields_bind handle fun read =>
      yields_pure (Expr.member target read)
    exact all.congr fun later => by rw [received]; rfl
  | .constant value type, depth, packable, accepts => by
    rw [types_constant] at accepts
    rw [Expr.node, Node.normalized]
    unfold Node.rebuildAt
    refine yields_then (yields_enter sound rfl rfl packable.1 (accepts.types _ (by simp))) ?_
    have parsed := yields_onTable (settles_lift reception.base
      (Value.ofLiteral (reception.image type) value.document.normalize))
    exact (yields_bind parsed fun value =>
      yields_pure (Expr.constant value (reception.image type))).congr
        fun later => by rw [received]; rfl
  | .call target method arguments, depth, packable, accepts => by
    obtain ⟨shallow, closed, targetPackable, argumentsPackable⟩ := packable
    rw [types_call, parameters_call] at accepts
    have inTarget := yields_rebuildOption sound target (depth + 1) targetPackable
      (accepts.of_subset (by simp +contextual) (by simp +contextual))
    have inArguments := yields_rebuildAll sound arguments (depth + 1) argumentsPackable
      (accepts.of_subset (by simp +contextual) (by simp +contextual))
    have handle := yields_onTable (settles_method sound method
      fun each member => accepts.types each (by simp [member]))
    rw [Expr.node, Node.normalized]
    unfold Node.rebuildAt
    refine yields_then (yields_enter sound rfl rfl shallow (accepts.types _ (by simp))) ?_
    have all := yields_bind inTarget fun target => yields_bind handle fun method =>
      yields_bind inArguments fun arguments => yields_pure (Expr.call target method arguments)
    exact all.congr fun later => by rw [received]; rfl
  | .construct constructor arguments, depth, packable, accepts => by
    rw [types_construct, parameters_construct] at accepts
    have inArguments := yields_rebuildAll sound arguments (depth + 1) packable.2
      (accepts.of_subset (by simp +contextual) (by simp +contextual))
    have handle := yields_onTable (settles_constructor sound constructor
      fun each member => accepts.types each (by simp [member]))
    rw [Expr.node, Node.normalized]
    unfold Node.rebuildAt
    refine yields_then (yields_enter sound rfl rfl packable.1
      (accepts.types _ (by simp [Constructor.types]))) ?_
    have all := yields_bind handle fun constructor => yields_bind inArguments fun arguments =>
      yields_pure (Expr.construct constructor arguments)
    exact all.congr fun later => by rw [received]; rfl
  | .arrayInit type elements, depth, packable, accepts => by
    obtain ⟨shallow, isArray, elementsPackable⟩ := packable
    obtain ⟨element, elementOf⟩ := Option.isSome_iff_exists.mp isArray
    rw [types_arrayInit, parameters_arrayInit, elementOf] at accepts
    have inElements := yields_rebuildAll sound elements (depth + 1) elementsPackable
      (accepts.of_subset (by simp +contextual) (by simp +contextual))
    have inner := yields_onTable (settles_resolve sound (accepts.types element (by simp)))
    rw [Expr.node, Node.normalized, elementOf, Option.getD_some]
    unfold Node.rebuildAt
    refine yields_then (yields_enter sound rfl rfl shallow (accepts.types _ (by simp))) ?_
    refine yields_then inner ?_
    have all := yields_bind
      (yields_checkArray (reception.image type) (reception.image element)) fun _ =>
        yields_bind inElements fun elements =>
          yields_pure (Expr.arrayInit (reception.image type) elements)
    exact all.congr fun later => by rw [received, elementOf]; rfl
  | .unary operator type operand, depth, packable, _ => packable.elim

/-- Rebuilding the trees of several expressions yields what is received for them. -/
theorem yields_rebuildAll (sound : reception.base.Sound) :
    ∀ (expressions : List Expr) (depth : Nat), PackableAll reception.limit expressions depth →
    reception.Accepts (typesAll expressions) (parametersAll expressions) →
    Yields reception
      (Node.rebuildAll (Node.normalizedAll (nodeAll reception.base.keyFor expressions)) depth)
      fun later => receivedAll reception.base.catalog reception.image
        (Parameter.slot reception.image later) expressions
  | [], depth, _, _ => by
    rw [nodeAll, Node.normalizedAll]
    unfold Node.rebuildAll
    exact (yields_pure _).congr fun later => by rw [receivedAll]
  | first :: rest, depth, packable, accepts => by
    rw [typesAll_cons, parametersAll_cons] at accepts
    have inFirst := yields_rebuildAt sound first depth packable.1
      (accepts.of_subset (by simp +contextual) (by simp +contextual))
    have inRest := yields_rebuildAll sound rest depth packable.2
      (accepts.of_subset (by simp +contextual) (by simp +contextual))
    rw [nodeAll, Node.normalizedAll]
    unfold Node.rebuildAll
    have all := yields_bind inFirst fun expression => yields_bind inRest fun expressions =>
      yields_pure (expression :: expressions)
    exact all.congr fun later => by rw [receivedAll]; rfl

/-- Rebuilding a tree that may be absent yields what is received for its expression. -/
theorem yields_rebuildOption (sound : reception.base.Sound) :
    ∀ (expression : Option Expr) (depth : Nat), PackableOption reception.limit expression depth →
    reception.Accepts (typesOption expression) (parametersOption expression) →
    Yields reception
      (Node.rebuildOption (Node.normalizedOption (nodeOption reception.base.keyFor expression))
        depth)
      fun later => receivedOption reception.base.catalog reception.image
        (Parameter.slot reception.image later) expression
  | none, depth, _, _ => by
    rw [nodeOption, Node.normalizedOption]
    unfold Node.rebuildOption
    exact (yields_pure _).congr fun later => by rw [receivedOption]
  | some expression, depth, packable, accepts => by
    rw [typesOption_some, parametersOption_some] at accepts
    have inside := yields_rebuildAt sound expression depth packable accepts
    rw [nodeOption, Node.normalizedOption]
    unfold Node.rebuildOption
    exact (yields_bind inside fun expression => yields_pure (some expression)).congr
      fun later => by rw [receivedOption]; rfl

end

end Reception

end PredicateWire
