/-
This file says what a type is made of, and what a receiver makes of it that has to build
its records from captured fields. Such a type goes by the same name, has the same shape
and is filled in the same way as the one that was sent.

The parts of a type are listed in order and with their repetitions, so that the parts of
a part stand together among them. From this it follows that a record is not among the
parts of its own fields: its list of parts is longer than theirs. The definition of
types would exclude it anyway, but capturing goes by names, and there it has to be said.
Captured records differ from those of a catalog in one respect that shows: their fields
are all public.
-/
import PredicateWire.Proofs.Types.Recasting
import PredicateWire.Proofs.Types.Substitution

namespace PredicateWire

namespace DataType

/-! ### Parts -/

mutual

/-- The types that occur in a type, with their repetitions, the type itself first. -/
def parts : DataType → List DataType
  | array element => array element :: parts element
  | generic name family arguments => generic name family arguments :: partsAll arguments
  | record name fields captured => record name fields captured :: partsFields fields
  | primitive kind => [primitive kind]
  | object => [object]
  | holder name => [holder name]
  | parameter owner position => [parameter owner position]

/-- The types that occur in several types. -/
def partsAll : List DataType → List DataType
  | [] => []
  | type :: rest => parts type ++ partsAll rest

/-- The types that occur in the types of fields. -/
def partsFields : List (Field DataType) → List DataType
  | [] => []
  | ⟨_, type, _⟩ :: rest => parts type ++ partsFields rest

end

theorem partsAll_eq_flatMap (types : List DataType) : partsAll types = types.flatMap parts := by
  induction types with
  | nil => rfl
  | cons type rest inductionHypothesis =>
    rw [partsAll, inductionHypothesis, List.flatMap_cons]

theorem partsFields_eq_flatMap (fields : List (Field DataType)) :
    partsFields fields = fields.flatMap fun field => field.type.parts := by
  induction fields with
  | nil => rfl
  | cons field rest inductionHypothesis =>
    rw [partsFields, inductionHypothesis, List.flatMap_cons]

theorem mem_parts_self (type : DataType) : type ∈ type.parts := by
  cases type <;> exact List.mem_cons_self

/-- The parts of an argument are parts of the instance. -/
theorem parts_argument {name : String} {family : Family} {arguments : List DataType}
    {argument part : DataType} (member : argument ∈ arguments) (within : part ∈ argument.parts) :
    part ∈ (generic name family arguments).parts := by
  rw [parts, partsAll_eq_flatMap]
  exact List.mem_cons_of_mem _ (List.mem_flatMap.mpr ⟨argument, member, within⟩)

/-- The parts of a field's type are parts of the record. -/
theorem parts_field {name : String} {fields : List (Field DataType)} {captured : Bool}
    {field : Field DataType} {part : DataType} (member : field ∈ fields)
    (within : part ∈ field.type.parts) : part ∈ (record name fields captured).parts := by
  rw [parts, partsFields_eq_flatMap]
  exact List.mem_cons_of_mem _ (List.mem_flatMap.mpr ⟨field, member, within⟩)

mutual

/-- The parts of a part stand together among the parts of the type. -/
theorem contiguous_parts : ∀ {type part : DataType}, part ∈ type.parts → part.parts <:+: type.parts
  | .array element, part, member => by
    rw [parts] at member ⊢
    rcases List.mem_cons.mp member with rfl | within
    · exact List.infix_rfl
    · exact List.infix_cons (contiguous_parts within)
  | .generic name family arguments, part, member => by
    rw [parts] at member ⊢
    rcases List.mem_cons.mp member with rfl | within
    · exact List.infix_rfl
    · exact List.infix_cons (contiguous_partsAll within)
  | .record name fields captured, part, member => by
    rw [parts] at member ⊢
    rcases List.mem_cons.mp member with rfl | within
    · exact List.infix_rfl
    · exact List.infix_cons (contiguous_partsFields within)
  | .primitive _, part, member => List.mem_singleton.mp member ▸ List.infix_rfl
  | .object, part, member => List.mem_singleton.mp member ▸ List.infix_rfl
  | .holder _, part, member => List.mem_singleton.mp member ▸ List.infix_rfl
  | .parameter _ _, part, member => List.mem_singleton.mp member ▸ List.infix_rfl

theorem contiguous_partsAll : ∀ {types : List DataType} {part : DataType},
    part ∈ partsAll types → part.parts <:+: partsAll types
  | [], _, member => nomatch member
  | type :: rest, part, member => by
    rw [partsAll] at member ⊢
    rcases List.mem_append.mp member with within | later
    · exact (contiguous_parts within).trans (List.prefix_append _ _).isInfix
    · exact (contiguous_partsAll later).trans (List.suffix_append _ _).isInfix

theorem contiguous_partsFields : ∀ {fields : List (Field DataType)} {part : DataType},
    part ∈ partsFields fields → part.parts <:+: partsFields fields
  | [], _, member => nomatch member
  | ⟨_, type, _⟩ :: rest, part, member => by
    rw [partsFields] at member ⊢
    rcases List.mem_append.mp member with within | later
    · exact (contiguous_parts within).trans (List.prefix_append _ _).isInfix
    · exact (contiguous_partsFields later).trans (List.suffix_append _ _).isInfix

end

theorem parts_trans {type part inner : DataType} (member : part ∈ type.parts)
    (within : inner ∈ part.parts) : inner ∈ type.parts :=
  (contiguous_parts member).subset within

/-- A record does not occur in the types of its own fields. -/
theorem record_not_mem_field {name : String} {fields : List (Field DataType)} {captured : Bool}
    {field : Field DataType} (member : field ∈ fields) :
    record name fields captured ∉ field.type.parts := by
  intro within
  have inner : record name fields captured ∈ partsFields fields := by
    rw [partsFields_eq_flatMap]
    exact List.mem_flatMap.mpr ⟨field, member, within⟩
  have shorter := (contiguous_partsFields inner).length_le
  rw [parts, List.length_cons] at shorter
  exact Nat.not_succ_le_self _ shorter

/-! ### Types with captured records -/

mutual

/-- The type with every record in it built from captured fields, which are all public. -/
def synthesized : DataType → DataType
  | record name fields _ => record name (synthesizedFields fields) true
  | array element => array (synthesized element)
  | generic name family arguments => generic name family (synthesizedAll arguments)
  | primitive kind => primitive kind
  | object => object
  | holder name => holder name
  | parameter owner position => parameter owner position

/-- Several types with captured records. -/
def synthesizedAll : List DataType → List DataType
  | [] => []
  | type :: rest => synthesized type :: synthesizedAll rest

/-- Fields whose types have captured records. -/
def synthesizedFields : List (Field DataType) → List (Field DataType)
  | [] => []
  | ⟨name, type, _⟩ :: rest => ⟨name, synthesized type, true⟩ :: synthesizedFields rest

end

theorem synthesizedAll_eq_map (types : List DataType) :
    synthesizedAll types = types.map synthesized := by
  induction types with
  | nil => rfl
  | cons type rest inductionHypothesis =>
    rw [synthesizedAll, inductionHypothesis, List.map_cons]

theorem synthesizedFields_eq_map (fields : List (Field DataType)) :
    synthesizedFields fields = fields.map fun field => ⟨field.name, field.type.synthesized, true⟩ := by
  induction fields with
  | nil => rfl
  | cons field rest inductionHypothesis =>
    rw [synthesizedFields, inductionHypothesis, List.map_cons]

/-- Names do not show which records are captured. -/
theorem recasts_synthesized : Recasts synthesized id where
  array := fun _ => rfl
  generic := fun name kind arguments => by rw [synthesized, synthesizedAll_eq_map, id]
  parameter := fun _ _ => rfl
  plain := fun type plain => by cases type <;> first | exact ⟨rfl, rfl⟩ | cases plain

theorem baseName_synthesized (type : DataType) : type.synthesized.baseName = type.baseName :=
  recasts_synthesized.baseName type

@[simp]
theorem isBool_synthesized (type : DataType) : type.synthesized.isBool = type.isBool := by
  cases type <;> rfl

/-- A type goes by the same name when its records are captured. -/
theorem canonicalName_synthesized (type : DataType) :
    type.synthesized.canonicalName = type.canonicalName :=
  recasts_synthesized.canonicalName type

/-- A type has the shape of another whether or not the other's records are captured. -/
theorem shapesMatch_synthesized (expected actual : List DataType) :
    shapesMatch expected (actual.map synthesized) = shapesMatch expected actual :=
  recasts_synthesized.shapesMatch expected actual

end DataType

end PredicateWire
