/-
This file proves that no tree that was packed under the standard depth limit is too deep
for a receiver with that limit. A tree opens two levels of a document for each level of
its own at most, and three more for a method with its list of types; a constant takes
what is left of the limit. So a tree under a limit of 48 opens 99 levels at most, and
the reader of its text goes down 127.

The bound is that for expressions, and it holds of packed trees because these are the
trees of expressions but for their keys, which are strings. It is attained: a tower of
calls opens as many levels as it can under every limit (`Expr.pack_tower`). That the
reader goes down further than it has to makes no difference to what it reads, whether or
not the numbers of the tree are read back.
-/
import PredicateWire.Proofs.Json.Shallow
import PredicateWire.Proofs.Wire.Depth

namespace PredicateWire

namespace Node

open Json

/-! ### Receivers -/

mutual

theorem levels_normalized : ∀ node : Node, levels node.normalized = levels node
  | lambda header body parameters name tailCall => by
    simp only [normalized, levels, levels_normalized body, levelsAll_normalizedAll parameters]
  | binary header left right conversion method => by
    simp only [normalized, levels, levels_normalized left, levels_normalized right,
      levelsOption_normalizedOption conversion]
  | member header target read => by
    simp only [normalized, levels, levels_normalized target]
  | call header target method arguments => by
    simp only [normalized, levels, levelsOption_normalizedOption target,
      levelsAll_normalizedAll arguments]
  | construct header constructor arguments => by
    simp only [normalized, levels, levelsAll_normalizedAll arguments]
  | arrayInit header element elements => by
    simp only [normalized, levels, levelsAll_normalizedAll elements]
  | parameter header name byReference => rfl
  | constant header value => rfl

theorem levelsAll_normalizedAll :
    ∀ nodes : List Node, levelsAll (normalizedAll nodes) = levelsAll nodes
  | [] => rfl
  | first :: rest => by
    simp only [normalizedAll, levelsAll, levels_normalized first, levelsAll_normalizedAll rest]

theorem levelsOption_normalizedOption : ∀ node : Option Node,
    levelsOption (normalizedOption node) = levelsOption node
  | none => rfl
  | some node => by
    simp only [normalizedOption, levelsOption, levels_normalized node]

end

/-- The document of what has been packed opens as many levels as the document of the tree without
keys, which is the one that the levels of the expression bound. -/
theorem nesting_pack_le {limit : Nat} {expression : Expr} {node : Node} {table after : TypeTable}
    (packed : (pack limit expression).run table = (.ok node, after)) :
    nesting node.toJson ≤ 2 * limit + 3 := by
  obtain ⟨-, packable, keyless⟩ := within_pack packed
  calc nesting node.toJson
      = nesting node.keyless.toJson := (nesting_keyless node).symm
    _ = expression.documentNesting := by rw [keyless, Expr.keyless, Expr.nesting_node_eq]
    _ ≤ 2 * limit + 3 := Expr.documentNesting_le packable

/-- What a constant holds nests no deeper than it fits, and the document of a tree that was packed
under a limit opens at most twice as many levels as the limit, and three more. Under the standard
limit these are 99, which the reader of trees goes down: one that goes down further reads nothing
else from the text, and what is read is never too deep to be rebuilt. -/
theorem nesting_pack :
    (∀ {value : Value} {levels : Nat} {document : Json}, value.fitsDepth levels = true →
      value.literal = .ok document → nesting document ≤ levels) ∧
    (∀ {limit : Nat} {expression : Expr} {node : Node} {table after : TypeTable},
      (pack limit expression).run table = (.ok node, after) →
        nesting node.toJson ≤ 2 * limit + 3) ∧
    ∀ {expression : Expr} {node : Node} {table after : TypeTable},
      (pack Settings.standard.maxDepth expression).run table = (.ok node, after) →
        nesting node.toJson ≤ 99 ∧ 99 ≤ greatestNesting ∧
        (∀ levels, 99 ≤ levels →
          (readWithin? levels node.written).bind ofJson? = Node.read? node.written) ∧
        ∀ received, ofJson? node.toJson = some received →
          ∀ rebuild : Rebuild, rebuild.limit = Settings.standard.maxDepth →
            ∀ limit, (received.rebuild.run rebuild).1 ≠ .error (.depthExceeded limit) := by
  refine ⟨fun fits written => Value.nesting_literal _ written fits, nesting_pack_le,
    fun packed => ?_⟩
  have shallow : nesting _ ≤ 99 := nesting_pack_le packed
  refine ⟨shallow, by decide, fun levels deeper => ?_, fun received read rebuild limited => ?_⟩
  · rw [Node.read?, Json.read?, Node.written, readWithin?_written shallow deeper,
      readWithin?_written shallow (show 99 ≤ greatestNesting by decide)]
  · rw [ofJson?_toJson] at read
    cases read
    have fits := (within_pack packed).1
    rw [← levels_normalized] at fits
    exact rebuild_levels fits limited

end Node

/-! ### Trees that open as many levels as they can -/

namespace Expr

/-- A generic method of truth values, closed over truth values. -/
def echo (parameters : List DataType) : Method :=
  ⟨.bool, "Echo", parameters, .bool, true, 1, [.bool], .script (.argument 0)⟩

/-- A call in a call, and so on, with a call without arguments at the end. -/
def tower : Nat → Expr
  | 0 => .call none (echo []) []
  | height + 1 => .call none (echo [.bool]) [tower height]

theorem nesting_tower (key : DataType → TypeKey) (height : Nat) :
    Json.nesting ((tower height).node key).toJson = 2 * height + 3 := by
  induction height with
  | zero => rfl
  | succ height inductionHypothesis =>
    have reference : Json.nesting (MethodReference.to key (echo [.bool])).toJson = 2 := rfl
    simp only [tower, node, nodeAll, nodeOption, Node.toJson, Node.listToJson, Node.optionToJson,
      Json.nesting, Json.nestingAll, nestingMembers_headMembers, Json.nestingMembers_append,
      Json.nestingMembers_cons, Json.nestingMembers_nil, reference, inductionHypothesis]
    omega

theorem packAt_tower {limit : Nat} (height depth : Nat) (shallow : depth + height ≤ limit)
    {table after : TypeTable} {key : TypeKey}
    (packed : (TypeTable.pack false .bool).run table = (.ok key, after))
    (known : after.keyOf? "sys.Boolean" = some key) :
    (Node.packAt limit (tower height) depth).run table =
      (.ok ((tower height).node fun _ => key), after) := by
  have again := pack_bool known
  have reference : ∀ parameters, parameters = [] ∨ parameters = [.bool] →
      (MethodReference.pack (echo parameters)).run after =
        (.ok (MethodReference.to (fun _ => key) (echo parameters)), after) := by
    rintro parameters known
    unfold MethodReference.pack
    rw [if_neg (show ¬(echo parameters).isGenericDefinition = true from Bool.false_ne_true)]
    rcases known with rfl | rfl <;>
      · simp only [echo, TypeTable.packAll, Running.run_bind, again, List.mapM_cons, List.mapM_nil,
          Running.run_pure]
        rfl
  induction height generalizing depth table with
  | zero =>
    unfold tower Node.packAt
    simp only [Nat.not_lt.mpr (show depth ≤ limit by omega), if_false, Running.run_bind,
      show (echo []).returnType = .bool from rfl, packed, reference [] (.inl rfl), Node.packOption,
      Node.packAll, Running.run_pure]
    rfl
  | succ height inductionHypothesis =>
    have inner := inductionHypothesis (depth + 1) (by omega) again
    unfold tower Node.packAt
    simp only [Nat.not_lt.mpr (show depth ≤ limit by omega), if_false, Running.run_bind,
      show (echo [.bool]).returnType = .bool from rfl, packed, reference [.bool] (.inr rfl),
      Node.packOption, Node.packAll, Running.run_pure, inner]
    rfl

/-- Under every limit the tower of that height is packed, and no tree opens more levels. -/
theorem pack_tower (limit : Nat) : ∃ node after,
    (Node.pack limit (tower limit)).run (TypeTable.empty Catalog.standard UInt32.ofNat) =
        (.ok node, after) ∧ Json.nesting node.toJson = 2 * limit + 3 := by
  obtain ⟨key, after, packed, known⟩ : ∃ key after,
      (TypeTable.pack false .bool).run (TypeTable.empty Catalog.standard UInt32.ofNat) =
        (.ok key, after) ∧ after.keyOf? "sys.Boolean" = some key := ⟨_, _, rfl, rfl⟩
  exact ⟨_, after, packAt_tower limit 0 (Nat.zero_add limit).le packed known,
    nesting_tower _ limit⟩

end Expr

/-- A map in an array opens three levels. Under the standard limit a call in 48 others is packed and
opens 99, and a reader that goes down a thousand reads no more than one that goes down 127. -/
theorem Node.nesting_pack_tower :
    (∃ document, (Value.array [.map [(.int32 1, .string "one")]]).literal = .ok document ∧
      Json.nesting document ≤ 3) ∧
    ∃ node after,
      (pack Settings.standard.maxDepth (Expr.tower 48)).run
        (TypeTable.empty Catalog.standard UInt32.ofNat) = (.ok node, after) ∧
      Json.nesting node.toJson = 99 ∧
      (Json.readWithin? 1000 node.written).bind ofJson? = Node.read? node.written ∧
      (node.normalized.rebuild.run (Rebuild.start after 1 Settings.standard.maxDepth)).1 ≠
        .error (.depthExceeded 48) := by
  obtain ⟨node, after, packed, levels⟩ := Expr.pack_tower 48
  have fits : (Value.array [.map [(.int32 1, .string "one")]]).fitsDepth 3 = true := by decide
  obtain ⟨-, -, same, rebuilds⟩ := nesting_pack.2.2 packed
  exact ⟨⟨_, rfl, nesting_pack.1 fits rfl⟩, node, after, packed, levels, same 1000 (by decide),
    rebuilds _ (ofJson?_toJson node) _ rfl 48⟩

end PredicateWire
