/-
This file bounds how deep the document of a packed tree nests, and says when it can be
read back. A node opens one level for itself and one for a list of nodes in it, so a
tree within a depth limit opens at most twice as many levels as the limit, and three
more for what a leaf holds.

The bound is proved by induction on the expression, with the depth that is already spent
on the left side, so that it is the same at every node: each node deeper takes away two
levels of the document. Constants are held to the depth that is left over, and a
reference to a method takes two levels. The same recursion says when the document is
read back. Only two things can get lost, a double that is read as a neighbour and an
arity of more than 64 bits; `Expr.Writable` excludes them, node by node.
-/
import PredicateWire.Proofs.Wire.Keyless

namespace PredicateWire

variable {image : Float → Float}

namespace Json

/-! ### Members and items -/

@[simp]
theorem nestingMembers_nil : nestingMembers [] = 0 := rfl

@[simp]
theorem nestingMembers_cons (entry : String × Json) (rest : List (String × Json)) :
    nestingMembers (entry :: rest) = max (nesting entry.2) (nestingMembers rest) := rfl

@[simp]
theorem nestingMembers_append (left right : List (String × Json)) :
    nestingMembers (left ++ right) = max (nestingMembers left) (nestingMembers right) := by
  induction left with
  | nil => simp
  | cons entry rest inductionHypothesis =>
    rw [List.cons_append, nestingMembers_cons, inductionHypothesis, nestingMembers_cons,
      Nat.max_assoc]

@[simp]
theorem readableMembers_append (left right : List (String × Json)) :
    ReadableMembersAs image (left ++ right) ↔
      ReadableMembersAs image left ∧ ReadableMembersAs image right := by
  induction left with
  | nil => simp [ReadableMembersAs]
  | cons entry rest inductionHypothesis =>
    rw [List.cons_append, ReadableMembersAs, inductionHypothesis, ReadableMembersAs, and_assoc]

@[simp]
theorem nestingMembers_flagMember (name : String) (flag : Bool) :
    nestingMembers (flagMember name flag) = 0 := by
  cases flag <;> rfl

@[simp]
theorem readableMembers_flagMember (name : String) (flag : Bool) :
    ReadableMembersAs image (flagMember name flag) := by
  cases flag <;> simp [flagMember, ReadableMembersAs, ReadableAs]

/-- A list of keys opens one level, unless it is left out. -/
theorem nestingMembers_keys (name : String) (keys : List TypeKey) :
    nestingMembers (listMember name TypeKey.toJson keys) = if keys.isEmpty then 0 else 1 := by
  have flat : nestingAll (keys.map TypeKey.toJson) = 0 := by
    induction keys with
    | nil => rfl
    | cons key rest inductionHypothesis =>
      rw [List.map_cons, nestingAll, inductionHypothesis]
      rfl
  unfold listMember
  split
  · rfl
  · simp [nesting, flat]

theorem nestingMembers_keys_le (name : String) (keys : List TypeKey) :
    nestingMembers (listMember name TypeKey.toJson keys) ≤ 1 := by
  rw [nestingMembers_keys]
  split <;> omega

theorem readableMembers_keys (name : String) (keys : List TypeKey) :
    ReadableMembersAs image (listMember name TypeKey.toJson keys) := by
  have readable : ReadableAllAs image (keys.map TypeKey.toJson) := by
    induction keys with
    | nil => trivial
    | cons key rest inductionHypothesis => exact ⟨trivial, inductionHypothesis⟩
  unfold listMember
  split
  · trivial
  · exact ⟨readable, trivial⟩

end Json

open Json

/-! ### References -/

theorem MethodReference.nesting_toJson (reference : MethodReference) :
    nesting reference.toJson ≤ 2 := by
  have parameters := nestingMembers_keys_le "p" reference.parameters
  have arguments := nestingMembers_keys_le "a" reference.genericArguments
  have arity : nestingMembers (optionalMember "g" (fun arity : Nat => .integer arity)
      reference.genericArity) = 0 := by
    cases reference.genericArity <;> rfl
  simp only [MethodReference.toJson, nesting, nestingMembers_append, nestingMembers_cons,
    nestingMembers_nil, TypeKey.toJson, arity]
  omega

theorem MethodReference.readable_toJson {reference : MethodReference}
    (small : ∀ arity ∈ reference.genericArity, arity < 2 ^ 64) :
    ReadableAs image reference.toJson := by
  simp only [MethodReference.toJson, ReadableAs, readableMembers_append]
  refine ⟨⟨⟨⟨trivial, trivial, trivial⟩, readableMembers_keys _ _⟩, ?_⟩, readableMembers_keys _ _⟩
  cases given : reference.genericArity with
  | none => trivial
  | some arity =>
    have bound := small arity (by rw [given]; rfl)
    exact ⟨⟨by omega, by omega⟩, trivial⟩

theorem ConstructorReference.nesting_toJson (reference : ConstructorReference) :
    nesting reference.toJson ≤ 2 := by
  have parameters := nestingMembers_keys_le "p" reference.parameters
  simp only [ConstructorReference.toJson, nesting, nestingMembers_append, nestingMembers_cons,
    nestingMembers_nil, TypeKey.toJson]
  omega

theorem ConstructorReference.readable_toJson (reference : ConstructorReference) :
    ReadableAs image reference.toJson := by
  simp only [ConstructorReference.toJson, ReadableAs, readableMembers_append]
  exact ⟨⟨trivial, trivial⟩, readableMembers_keys _ _⟩

theorem MemberReference.nesting_toJson (reference : MemberReference) :
    nesting reference.toJson = 1 := rfl

theorem MemberReference.readable_toJson (reference : MemberReference) :
    ReadableAs image reference.toJson :=
  ⟨trivial, trivial, trivial⟩

/-! ### Constants -/

namespace Value

mutual

/-- The doubles in a value. -/
def doubles : Value → List Float
  | double value => [value]
  | array items => doublesAll items
  | map entries => doublesPairs entries
  | record fields => doublesFields fields
  | null => []
  | bool _ => []
  | int32 _ => []
  | int64 _ => []
  | char _ => []
  | string _ => []
  | function _ => []

/-- The doubles in several values. -/
def doublesAll : List Value → List Float
  | [] => []
  | item :: rest => doubles item ++ doublesAll rest

/-- The doubles in several map entries. -/
def doublesPairs : List (Value × Value) → List Float
  | [] => []
  | (key, content) :: rest => doubles key ++ doubles content ++ doublesPairs rest

/-- The doubles in several fields. -/
def doublesFields : List (String × Value) → List Float
  | [] => []
  | (_, content) :: rest => doubles content ++ doublesFields rest

end

theorem array_of_literal {items : List Value} {document : Json}
    (written : (array items).literal = .ok document) :
    ∃ documents, literals items = .ok documents ∧ document = .array documents := by
  rw [literal] at written
  cases given : literals items with
  | error error => rw [given] at written; cases written
  | ok documents => rw [given] at written; cases written; exact ⟨documents, rfl, rfl⟩

theorem map_of_literal {entries : List (Value × Value)} {document : Json}
    (written : (map entries).literal = .ok document) :
    ∃ documents, literalPairs entries = .ok documents ∧ document = .array documents := by
  rw [literal] at written
  cases given : literalPairs entries with
  | error error => rw [given] at written; cases written
  | ok documents => rw [given] at written; cases written; exact ⟨documents, rfl, rfl⟩

theorem record_of_literal {fields : List (String × Value)} {document : Json}
    (written : (record fields).literal = .ok document) :
    ∃ members, literalFields fields = .ok members ∧ document = .object members := by
  rw [literal] at written
  cases given : literalFields fields with
  | error error => rw [given] at written; cases written
  | ok members => rw [given] at written; cases written; exact ⟨members, rfl, rfl⟩

theorem cons_of_literals {item : Value} {rest : List Value} {documents : List Json}
    (written : literals (item :: rest) = .ok documents) :
    ∃ head tail, item.literal = .ok head ∧ literals rest = .ok tail ∧ documents = head :: tail := by
  rw [literals] at written
  cases first : item.literal with
  | error error => rw [first] at written; cases written
  | ok head =>
    cases others : literals rest with
    | error error => rw [first, others] at written; cases written
    | ok tail => rw [first, others] at written; cases written; exact ⟨head, tail, rfl, rfl, rfl⟩

theorem cons_of_literalPairs {key content : Value} {rest : List (Value × Value)}
    {documents : List Json} (written : literalPairs ((key, content) :: rest) = .ok documents) :
    ∃ keyDocument contentDocument tail, key.literal = .ok keyDocument ∧
      content.literal = .ok contentDocument ∧ literalPairs rest = .ok tail ∧
        documents = .array [keyDocument, contentDocument] :: tail := by
  rw [literalPairs] at written
  cases first : key.literal with
  | error error => rw [first] at written; cases written
  | ok keyDocument =>
    cases second : content.literal with
    | error error => rw [first, second] at written; cases written
    | ok contentDocument =>
      cases others : literalPairs rest with
      | error error => rw [first, second, others] at written; cases written
      | ok tail =>
        rw [first, second, others] at written
        cases written
        exact ⟨keyDocument, contentDocument, tail, rfl, rfl, rfl, rfl⟩

theorem cons_of_literalFields {name : String} {content : Value} {rest : List (String × Value)}
    {members : List (String × Json)}
    (written : literalFields ((name, content) :: rest) = .ok members) :
    ∃ document tail, content.literal = .ok document ∧ literalFields rest = .ok tail ∧
      members = (name, document) :: tail := by
  rw [literalFields] at written
  cases first : content.literal with
  | error error => rw [first] at written; cases written
  | ok document =>
    cases others : literalFields rest with
    | error error => rw [first, others] at written; cases written
    | ok tail =>
      rw [first, others] at written
      cases written
      exact ⟨document, tail, rfl, rfl, rfl⟩

mutual

/-- A constant opens no more levels than it may. -/
theorem nesting_literal : ∀ (value : Value) {document : Json} {levels : Nat},
    value.literal = .ok document → value.fitsDepth levels = true → nesting document ≤ levels
  | .null, _, _, written, _ => by cases written; exact Nat.zero_le _
  | .bool _, _, _, written, _ => by cases written; exact Nat.zero_le _
  | .int32 _, _, _, written, _ => by cases written; exact Nat.zero_le _
  | .int64 _, _, _, written, _ => by cases written; exact Nat.zero_le _
  | .double _, _, _, written, _ => by
    rw [literal] at written
    split at written
    · cases written; exact Nat.zero_le _
    · cases written
  | .char _, _, _, written, _ => by cases written; exact Nat.zero_le _
  | .string _, _, _, written, _ => by cases written; exact Nat.zero_le _
  | .array items, _, levels, written, fits => by
    obtain ⟨documents, itemsWritten, rfl⟩ := array_of_literal written
    rw [fitsDepth, Bool.and_eq_true, decide_eq_true_iff] at fits
    have bound := nestingAll_literals items itemsWritten fits.2
    rw [nesting]
    omega
  | .map entries, _, levels, written, fits => by
    obtain ⟨documents, entriesWritten, rfl⟩ := map_of_literal written
    rw [fitsDepth, Bool.and_eq_true, decide_eq_true_iff] at fits
    have bound := nestingAll_literalPairs entries entriesWritten fits.2
    rw [nesting]
    omega
  | .record fields, _, levels, written, fits => by
    obtain ⟨members, fieldsWritten, rfl⟩ := record_of_literal written
    rw [fitsDepth, Bool.and_eq_true, decide_eq_true_iff] at fits
    have bound := nestingMembers_literalFields fields fieldsWritten fits.2
    rw [nesting]
    omega
  | .function _, _, _, written, _ => by cases written

/-- The items of a constant open no more levels than they may. -/
theorem nestingAll_literals : ∀ (items : List Value) {documents : List Json} {levels : Nat},
    literals items = .ok documents → fitsDepthAll levels items = true →
      nestingAll documents ≤ levels
  | [], _, _, written, _ => by cases written; exact Nat.zero_le _
  | item :: rest, _, levels, written, fits => by
    obtain ⟨head, tail, headWritten, tailWritten, rfl⟩ := cons_of_literals written
    rw [fitsDepthAll, Bool.and_eq_true] at fits
    have headBound := nesting_literal item headWritten fits.1
    have tailBound := nestingAll_literals rest tailWritten fits.2
    rw [nestingAll]
    omega

/-- The entries of a constant map open one level more than their parts. -/
theorem nestingAll_literalPairs :
    ∀ (entries : List (Value × Value)) {documents : List Json} {levels : Nat},
      literalPairs entries = .ok documents → fitsDepthPairs levels entries = true →
        nestingAll documents ≤ levels + 1
  | [], _, _, written, _ => by cases written; exact Nat.zero_le _
  | (key, content) :: rest, _, levels, written, fits => by
    obtain ⟨keyDocument, contentDocument, tail, keyWritten, contentWritten, tailWritten, rfl⟩ :=
      cons_of_literalPairs written
    rw [fitsDepthPairs, Bool.and_eq_true, Bool.and_eq_true] at fits
    have keyBound := nesting_literal key keyWritten fits.1.1
    have contentBound := nesting_literal content contentWritten fits.1.2
    have tailBound := nestingAll_literalPairs rest tailWritten fits.2
    simp only [nestingAll, nesting]
    omega

/-- The fields of a constant record open no more levels than they may. -/
theorem nestingMembers_literalFields :
    ∀ (fields : List (String × Value)) {members : List (String × Json)} {levels : Nat},
      literalFields fields = .ok members → fitsDepthFields levels fields = true →
        nestingMembers members ≤ levels
  | [], _, _, written, _ => by cases written; exact Nat.zero_le _
  | (name, content) :: rest, _, levels, written, fits => by
    obtain ⟨document, tail, contentWritten, tailWritten, rfl⟩ := cons_of_literalFields written
    rw [fitsDepthFields, Bool.and_eq_true] at fits
    have contentBound := nesting_literal content contentWritten fits.1
    have tailBound := nestingMembers_literalFields rest tailWritten fits.2
    rw [nestingMembers]
    omega

end

mutual

/-- A constant is written as a document that can be read back, if its doubles can. -/
theorem readable_literal : ∀ (value : Value) {document : Json},
    value.literal = .ok document → (∀ number ∈ value.doubles, ReadsAs number (image number)) →
      ReadableAs image document
  | .null, _, written, _ => by cases written; trivial
  | .bool _, _, written, _ => by cases written; trivial
  | .int32 number, _, written, _ => by
    cases written
    have low := number.le_toInt
    have high := number.toInt_lt
    exact ⟨by omega, by omega⟩
  | .int64 number, _, written, _ => by
    cases written
    have low := number.le_toInt
    have high := number.toInt_lt
    exact ⟨by omega, by omega⟩
  | .double number, _, written, reads => by
    rw [literal] at written
    split at written
    · cases written
      exact reads number (.head _)
    · cases written
  | .char _, _, written, _ => by cases written; trivial
  | .string _, _, written, _ => by cases written; trivial
  | .array items, _, written, reads => by
    obtain ⟨documents, itemsWritten, rfl⟩ := array_of_literal written
    exact readableAll_literals items itemsWritten reads
  | .map entries, _, written, reads => by
    obtain ⟨documents, entriesWritten, rfl⟩ := map_of_literal written
    exact readableAll_literalPairs entries entriesWritten reads
  | .record fields, _, written, reads => by
    obtain ⟨members, fieldsWritten, rfl⟩ := record_of_literal written
    exact readableMembers_literalFields fields fieldsWritten reads
  | .function _, _, written, _ => by cases written

/-- The items of a constant are written as documents that can be read back. -/
theorem readableAll_literals : ∀ (items : List Value) {documents : List Json},
    literals items = .ok documents →
      (∀ number ∈ doublesAll items, ReadsAs number (image number)) →
        ReadableAllAs image documents
  | [], _, written, _ => by cases written; trivial
  | item :: rest, _, written, reads => by
    obtain ⟨head, tail, headWritten, tailWritten, rfl⟩ := cons_of_literals written
    rw [doublesAll, List.forall_mem_append] at reads
    exact ⟨readable_literal item headWritten reads.1,
      readableAll_literals rest tailWritten reads.2⟩

/-- The entries of a constant map are written as documents that can be read back. -/
theorem readableAll_literalPairs : ∀ (entries : List (Value × Value)) {documents : List Json},
    literalPairs entries = .ok documents →
      (∀ number ∈ doublesPairs entries, ReadsAs number (image number)) →
        ReadableAllAs image documents
  | [], _, written, _ => by cases written; trivial
  | (key, content) :: rest, _, written, reads => by
    obtain ⟨keyDocument, contentDocument, tail, keyWritten, contentWritten, tailWritten, rfl⟩ :=
      cons_of_literalPairs written
    rw [doublesPairs, List.forall_mem_append, List.forall_mem_append] at reads
    exact ⟨⟨readable_literal key keyWritten reads.1.1,
      readable_literal content contentWritten reads.1.2, trivial⟩,
      readableAll_literalPairs rest tailWritten reads.2⟩

/-- The fields of a constant record are written as members that can be read back. -/
theorem readableMembers_literalFields :
    ∀ (fields : List (String × Value)) {members : List (String × Json)},
      literalFields fields = .ok members →
        (∀ number ∈ doublesFields fields, ReadsAs number (image number)) →
          ReadableMembersAs image members
  | [], _, written, _ => by cases written; trivial
  | (name, content) :: rest, _, written, reads => by
    obtain ⟨document, tail, contentWritten, tailWritten, rfl⟩ := cons_of_literalFields written
    rw [doublesFields, List.forall_mem_append] at reads
    exact ⟨readable_literal content contentWritten reads.1,
      readableMembers_literalFields rest tailWritten reads.2⟩

end

end Value

/-! ### Trees -/

theorem nestingMembers_headMembers (header : NodeHeader) (tag : NodeTag) :
    nestingMembers (Node.headMembers header tag) = 0 := by
  simp [Node.headMembers, nesting, TypeKey.toJson]

theorem readableMembers_headMembers (header : NodeHeader) (tag : NodeTag) :
    ReadableMembersAs image (Node.headMembers header tag) := by
  have kind : ReadableAs image (.integer header.kind.number) := by
    have bound : header.kind.number < 32 := by
      cases header.kind with
      | binary operator => cases operator <;> decide
      | unary operator => cases operator <;> decide
      | _ => decide
    exact ⟨by omega, by omega⟩
  simp only [Node.headMembers, readableMembers_append]
  exact ⟨⟨⟨kind, trivial, trivial⟩, readableMembers_flagMember _ _⟩, trivial, trivial⟩

theorem Parameter.nesting_node (key : DataType → TypeKey) (referenced : Parameter) :
    nesting (referenced.node key).toJson = 1 := by
  simp [Parameter.node, Node.toJson, nesting, nestingMembers_headMembers]

theorem nestingAll_parameters (key : DataType → TypeKey) (parameters : List Parameter) :
    nestingAll (Node.listToJson (parameters.map (Parameter.node key))) ≤ 1 := by
  induction parameters with
  | nil => exact Nat.zero_le _
  | cons first rest inductionHypothesis =>
    rw [List.map_cons, Node.listToJson, nestingAll, Parameter.nesting_node]
    omega

theorem nestingMembers_methodReference (key : DataType → TypeKey) (method : Option Method) :
    nestingMembers (optionalMember "m" MethodReference.toJson
      (method.map (MethodReference.to key))) ≤ 2 := by
  cases method with
  | none => exact Nat.zero_le _
  | some method =>
    simpa [optionalMember] using MethodReference.nesting_toJson (.to key method)

namespace Expr

mutual

/-- Twice the depth that is left, and three levels more. The depth is counted on the left side, so
that each part of an expression, one depth further down, has two levels less. -/
theorem nesting_node (key : DataType → TypeKey) (limit : Nat) :
    ∀ (expression : Expr) (depth : Nat), expression.Packable limit depth →
      nesting (expression.node key).toJson + 2 * depth ≤ 2 * limit + 3
  | .lambda type parameters body name tailCall, depth, ⟨_, _, packable⟩ => by
    have bodyBound := nesting_node key limit body (depth + 1) packable
    have parametersBound := nestingAll_parameters key parameters
    have nameFlat : nestingMembers (optionalMember "nm" Json.string name) = 0 := by
      cases name <;> rfl
    simp only [node, Node.toJson, nesting, nestingMembers_append, nestingMembers_cons,
      nestingMembers_nil, nestingMembers_headMembers, nestingMembers_flagMember, nameFlat]
    omega
  | .parameter referenced, depth, packable => by
    unfold Packable at packable
    rw [node, Parameter.nesting_node]
    omega
  | .binary operator type left right method conversion, depth, ⟨_, _, lefts, rights, converts⟩ => by
    have leftBound := nesting_node key limit left (depth + 1) lefts
    have rightBound := nesting_node key limit right (depth + 1) rights
    have conversionBound := nesting_nodeOption key limit "c" conversion (depth + 1) converts
    have methodBound := nestingMembers_methodReference key method
    simp only [node, Node.toJson, nesting, nestingMembers_append, nestingMembers_cons,
      nestingMembers_nil, nestingMembers_headMembers]
    omega
  | .member target read, depth, ⟨_, _, packable⟩ => by
    have targetBound := nesting_node key limit target (depth + 1) packable
    simp only [node, Node.toJson, nesting, nestingMembers_append, nestingMembers_cons,
      nestingMembers_nil, nestingMembers_headMembers, MemberReference.nesting_toJson]
    omega
  | .constant value type, depth, ⟨_, fits, written⟩ => by
    have bound := value.nesting_literal written fits
    simp only [node, Node.toJson, nesting, nestingMembers_append, nestingMembers_cons,
      nestingMembers_nil, nestingMembers_headMembers]
    omega
  | .call target method arguments, depth, ⟨_, _, targets, packable⟩ => by
    have targetBound := nesting_nodeOption key limit "e" target (depth + 1) targets
    have argumentsBound := nesting_nodeAll key limit arguments (depth + 1) packable
    have methodBound := MethodReference.nesting_toJson (.to key method)
    simp only [node, Node.toJson, nesting, nestingMembers_append, nestingMembers_cons,
      nestingMembers_nil, nestingMembers_headMembers]
    omega
  | .construct constructor arguments, depth, ⟨_, packable⟩ => by
    have argumentsBound := nesting_nodeAll key limit arguments (depth + 1) packable
    have constructorBound := ConstructorReference.nesting_toJson (.to key constructor)
    simp only [node, Node.toJson, nesting, nestingMembers_append, nestingMembers_cons,
      nestingMembers_nil, nestingMembers_headMembers]
    omega
  | .arrayInit type elements, depth, ⟨_, _, packable⟩ => by
    have elementsBound := nesting_nodeAll key limit elements (depth + 1) packable
    simp only [node, Node.toJson, nesting, nestingMembers_append, nestingMembers_cons,
      nestingMembers_nil, nestingMembers_headMembers, TypeKey.toJson]
    omega

theorem nesting_nodeAll (key : DataType → TypeKey) (limit : Nat) :
    ∀ (expressions : List Expr) (depth : Nat), PackableAll limit expressions depth →
      nestingAll (Node.listToJson (nodeAll key expressions)) = 0 ∨
        nestingAll (Node.listToJson (nodeAll key expressions)) + 2 * depth ≤ 2 * limit + 3
  | [], _, _ => .inl rfl
  | first :: rest, depth, ⟨packable, others⟩ => by
    have firstBound := nesting_node key limit first depth packable
    have restBound := nesting_nodeAll key limit rest depth others
    rw [nodeAll, Node.listToJson, nestingAll]
    omega

theorem nesting_nodeOption (key : DataType → TypeKey) (limit : Nat) (name : String) :
    ∀ (expression : Option Expr) (depth : Nat), PackableOption limit expression depth →
      nestingMembers (Node.optionToJson name (nodeOption key expression)) = 0 ∨
        nestingMembers (Node.optionToJson name (nodeOption key expression)) + 2 * depth ≤
          2 * limit + 3
  | none, _, _ => .inl rfl
  | some expression, depth, packable => by
    have bound := nesting_node key limit expression depth packable
    simp only [nodeOption, Node.optionToJson, nestingMembers_cons, nestingMembers_nil]
    omega

end

/-- What a node itself holds is read back from its text: doubles by their own texts, and arities
because they fit 64 bits. -/
def Writable : Expr → Prop
  | constant value _ => ∀ number ∈ value.doubles, ReadsBack number
  | binary _ _ _ _ method _ => ∀ implementation ∈ method, implementation.genericArity < 2 ^ 64
  | call _ method _ => method.genericArity < 2 ^ 64
  | _ => True

end Expr

theorem Value.readable_document {value : Value}
    (reads : ∀ number ∈ value.doubles, ReadsAs number (image number)) :
    ReadableAs image value.document := by
  unfold Value.document
  split
  · rename_i document written
    exact value.readable_literal written reads
  · trivial

theorem MethodReference.readable_to (key : DataType → TypeKey) {method : Method}
    (small : method.genericArity < 2 ^ 64) :
    ReadableAs image (MethodReference.to key method).toJson := by
  refine MethodReference.readable_toJson fun arity given => ?_
  unfold MethodReference.to at given
  dsimp only at given
  split at given
  · cases given
    exact small
  · cases given

theorem readableAll_parameters (key : DataType → TypeKey) (parameters : List Parameter) :
    ReadableAllAs image (Node.listToJson (parameters.map (Parameter.node key))) := by
  induction parameters with
  | nil => trivial
  | cons first rest inductionHypothesis =>
    refine ⟨?_, inductionHypothesis⟩
    simp only [Parameter.node, Node.toJson, ReadableAs, readableMembers_append]
    exact ⟨⟨readableMembers_headMembers _ _, trivial, trivial⟩, readableMembers_flagMember _ _⟩

namespace Expr

mutual

/-- The tree of an expression is written as a document that can be read back, if what each of its
nodes holds is. -/
theorem readable_node (key : DataType → TypeKey) : ∀ expression : Expr,
    (∀ part ∈ expression.nodes, Writable part) → Readable (expression.node key).toJson
  | .lambda type parameters body name tailCall, writable => by
    simp only [nodes, List.forall_mem_cons, List.forall_mem_append] at writable
    have nameReadable : ReadableMembersAs id (optionalMember "nm" Json.string name) := by
      cases name <;> simp [optionalMember, ReadableMembersAs, ReadableAs]
    simp only [node, Node.toJson, ReadableAs, readableMembers_append]
    exact ⟨⟨⟨readableMembers_headMembers _ _, readable_node key body writable.2.1,
      readableAll_parameters key parameters, trivial⟩, nameReadable⟩,
      readableMembers_flagMember _ _⟩
  | .parameter referenced, _ => (readableAll_parameters key [referenced]).1
  | .binary operator type left right method conversion, writable => by
    simp only [nodes, List.forall_mem_cons, List.forall_mem_append] at writable
    have methodReadable : ReadableMembersAs id (optionalMember "m" MethodReference.toJson
        (method.map (MethodReference.to key))) := by
      cases method with
      | none => trivial
      | some method => exact ⟨MethodReference.readable_to key (writable.1 method rfl), trivial⟩
    simp only [node, Node.toJson, ReadableAs, readableMembers_append]
    exact ⟨⟨⟨readableMembers_headMembers _ _, readable_node key left writable.2.1.1,
      readable_node key right writable.2.1.2, trivial⟩,
      readable_nodeOption key "c" conversion writable.2.2⟩, methodReadable⟩
  | .member target read, writable => by
    simp only [nodes, List.forall_mem_cons] at writable
    simp only [node, Node.toJson, ReadableAs, readableMembers_append]
    exact ⟨readableMembers_headMembers _ _, readable_node key target writable.2,
      MemberReference.readable_toJson _, trivial⟩
  | .constant value type, writable => by
    simp only [nodes, List.forall_mem_cons] at writable
    simp only [node, Node.toJson, ReadableAs, readableMembers_append]
    exact ⟨readableMembers_headMembers _ _, Value.readable_document writable.1, trivial⟩
  | .call target method arguments, writable => by
    simp only [nodes, List.forall_mem_cons, List.forall_mem_append] at writable
    simp only [node, Node.toJson, ReadableAs, readableMembers_append]
    exact ⟨⟨readableMembers_headMembers _ _,
      readable_nodeOption key "e" target writable.2.1⟩,
      MethodReference.readable_to key writable.1,
      readable_nodeAll key arguments writable.2.2, trivial⟩
  | .construct constructor arguments, writable => by
    simp only [nodes, List.forall_mem_cons] at writable
    simp only [node, Node.toJson, ReadableAs, readableMembers_append]
    exact ⟨readableMembers_headMembers _ _, ConstructorReference.readable_toJson _,
      readable_nodeAll key arguments writable.2, trivial⟩
  | .arrayInit type elements, writable => by
    simp only [nodes, List.forall_mem_cons] at writable
    simp only [node, Node.toJson, ReadableAs, readableMembers_append]
    exact ⟨readableMembers_headMembers _ _, trivial,
      readable_nodeAll key elements writable.2, trivial⟩
  | .unary operator type operand, writable => by
    simp only [nodes, List.forall_mem_cons] at writable
    rw [node]
    exact readable_node key operand writable.2

theorem readable_nodeAll (key : DataType → TypeKey) : ∀ expressions : List Expr,
    (∀ part ∈ nodesAll expressions, Writable part) →
      ReadableAllAs id (Node.listToJson (nodeAll key expressions))
  | [], _ => trivial
  | first :: rest, writable => by
    rw [nodesAll, List.forall_mem_append] at writable
    exact ⟨readable_node key first writable.1, readable_nodeAll key rest writable.2⟩

theorem readable_nodeOption (key : DataType → TypeKey) (name : String) :
    ∀ expression : Option Expr, (∀ part ∈ nodesOption expression, Writable part) →
      ReadableMembersAs id (Node.optionToJson name (nodeOption key expression))
  | none, _ => trivial
  | some expression, writable => by
    rw [nodesOption] at writable
    exact ⟨readable_node key expression writable, trivial⟩

end

/-- The number of levels that the document of an expression opens. The keys do not matter. -/
def documentNesting (expression : Expr) : Nat :=
  nesting (expression.node fun _ => ⟨""⟩).toJson

end Expr

/-- The document of an expression opens the same levels whatever the keys are. -/
theorem Expr.nesting_node_eq {key : DataType → TypeKey} (expression : Expr) :
    nesting (expression.node key).toJson = expression.documentNesting := by
  rw [← Node.nesting_keyless, Expr.keyless_node]
  rfl

/-- Within a depth limit of 62, every document is shallow enough to be read. -/
theorem Expr.documentNesting_le {expression : Expr} {limit : Nat}
    (packable : expression.Packable limit 0) : expression.documentNesting ≤ 2 * limit + 3 := by
  have bound := nesting_node (fun _ => ⟨""⟩) limit expression 0 packable
  unfold documentNesting
  omega

end PredicateWire
