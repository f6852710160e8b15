/-
This file proves that every search in a table ends, and how deep its calls can go. The
search for a name goes on with shorter names, but a key leads to the name of its entry,
which may be longer, and to the keys of its fields, which may lead back. What ends the
search is that a key in progress is not entered again. So the measure has two parts: the
entries that are still open come first, and the length of the name second.

A chain of calls is followed here apart from what the calls find. `Calls` are all that a
search makes, one round at a time, and the search is then the same as its recursion cut
off below a depth that the table and the name determine, whatever search would go on
there (`resolve_ends`). No hypothesis is made about the table, which may have been
forged.
-/
import Mathlib.Data.List.MinMax
import Mathlib.Logic.Relation
import PredicateWire.Proofs.Table.Asked

namespace PredicateWire

namespace TypeTable

/-! ### Calls -/

/-- A call of the search with the keys in progress: for a key, for a name, or for the name of an
element or an argument. -/
inductive Call
  | key (active : List TypeKey) (key : TypeKey)
  | name (active : List TypeKey) (name : String)
  | nested (active : List TypeKey) (name : String)

namespace Call

/-- The keys in progress. -/
def active : Call → List TypeKey
  | .key active _ | .name active _ | .nested active _ => active

/-- The name that is looked for. A call for a key has none yet. -/
def name? : Call → Option String
  | .key _ _ => none
  | .name _ sought | .nested _ sought => some sought

/-- What a call looks for. -/
abbrev Yield : Call → Type
  | .key _ _ => DataType
  | .name _ _ => Option DataType
  | .nested _ _ => DataType

/-- A bound for the calls below a call, itself included, as long as no key is entered. -/
def height : Call → Nat
  | .key _ _ => 1
  | .name _ sought => 2 * sought.length + 2
  | .nested _ sought => 2 * sought.length + 3

end Call

/-- The search of a call. -/
def search (table : TypeTable) : (call : Call) → SearchM call.Yield
  | .key active key => searchKey table active key
  | .name active name => searchName table active name
  | .nested active name => searchNested table active name

/-- A call enters a key: while it is in progress, the name of its entry is looked for, and if the
entry is structural, the keys of its fields. -/
inductive Enters (table : TypeTable) : Call → Call → Prop
  | entry {active : List TypeKey} {key : TypeKey} {entry : TypeEntry}
      (present : table.entryOf? key = some entry) (inactive : active.contains key = false) :
      Enters table (.key active key) (.name (key :: active) entry.name)
  | field {active : List TypeKey} {key : TypeKey} {entry : TypeEntry} {field : FieldEntry}
      (present : table.entryOf? key = some entry) (inactive : active.contains key = false)
      (structural : entry.structural = true) (member : field ∈ entry.fields) :
      Enters table (.key active key) (.key (key :: active) field.key)

/-- A call makes another one under the same keys. -/
inductive Continues (table : TypeTable) : Call → Call → Prop
  | element {active : List TypeKey} {name element : String}
      (unknown : table.catalog.findType? name = none)
      (parsed : TypeName.parse name = .ok (.array element)) :
      Continues table (.name active name) (.nested active element)
  | argument {active : List TypeKey} {name base argument : String} {arguments : List String}
      {definition : DataType} (unknown : table.catalog.findType? name = none)
      (parsed : TypeName.parse name = .ok (.generic base arguments))
      (based : table.catalog.findType? base = some definition) (member : argument ∈ arguments) :
      Continues table (.name active name) (.nested active argument)
  | filed {active : List TypeKey} {name : String} {key : TypeKey}
      (first : table.keyOf? name = some key) :
      Continues table (.nested active name) (.key active key)
  | unfiled {active : List TypeKey} {name : String} (absent : table.keyOf? name = none) :
      Continues table (.nested active name) (.name active name)

/-- A call makes another one. -/
def Calls (table : TypeTable) (call later : Call) : Prop :=
  Enters table call later ∨ Continues table call later

/-! ### Rounds -/

section Rounds

variable (table : TypeTable)

/-- The type of an entry, given what the search by its name has come to and a search for the types
of its fields. -/
def judgeBy (search : TypeKey → SearchM DataType) (entry : TypeEntry)
    (byName : Result (Option DataType)) : SearchM DataType :=
  match verdict entry byName with
  | .known type => pure type
  | .refused error => throw error
  | .captured => do
    let fields ← entry.fields.mapM fun field => do
      let type ← search field.key
      return (⟨field.name, type, true⟩ : Field DataType)
    return .record entry.name fields true

/-- What a call for a key does itself. -/
def keyRound (again : (call : Call) → SearchM call.Yield) (active : List TypeKey) (key : TypeKey) :
    SearchM DataType := do
  match (← get).find? fun noted => noted.1 == key with
  | some noted => return noted.2
  | none =>
    match table.entryOf? key with
    | none => throw (.unknownTypeKey key.text)
    | some entry =>
      if active.contains key = true then throw (.symbolNotFound (.selfReference entry.name))
      else do
        let byName ← attempt (again (.name (key :: active) entry.name))
        let type ← judgeBy (fun key' => again (.key (key :: active) key')) entry byName
        note key type

/-- What a call for a name does itself. -/
def nameRound (again : (call : Call) → SearchM call.Yield) (active : List TypeKey) (name : String) :
    SearchM (Option DataType) :=
  match table.catalog.findType? name with
  | some type => pure (some type)
  | none =>
    match TypeName.parse name with
    | .error error => throw error
    | .ok (.plain _) => pure none
    | .ok (.array element) => do
      let element ← again (.nested active element)
      return some (.array element)
    | .ok (.generic base arguments) =>
      match table.catalog.findType? base with
      | none => pure none
      | some definition => do
        let types ← arguments.mapM fun argument => again (.nested active argument)
        match definition.instantiate types with
        | .ok type => return some type
        | .error error => throw error

/-- What a call for an element or an argument does itself. -/
def nestedRound (again : (call : Call) → SearchM call.Yield) (active : List TypeKey)
    (name : String) : SearchM DataType := do
  match table.keyOf? name with
  | some key => again (.key active key)
  | none => do
    match ← again (.name active name) with
    | some type => return type
    | none => throw (.symbolNotFound (.unknownType name))

/-- What a call does itself. The calls that it makes are left to another search. -/
def round (again : (call : Call) → SearchM call.Yield) : (call : Call) → SearchM call.Yield
  | .key active key => keyRound table again active key
  | .name active name => nameRound table again active name
  | .nested active name => nestedRound table again active name

/-- The search repeats rounds. -/
theorem round_search (call : Call) : round table (search table) call = search table call := by
  cases call with
  | key active key => exact (searchKey_eq table active key).symm
  | name active name => exact (searchName_eq table active name).symm
  | nested active name =>
    show nestedRound table (search table) active name = searchNested table active name
    rw [nestedRound, searchNested]
    cases table.keyOf? name with
    | some key => rfl
    | none => exact congrArg (searchName table active name >>= ·) (funext fun
        | some _ => rfl
        | none => rfl)

variable {table} {again other : (call : Call) → SearchM call.Yield}

theorem structural_of_verdict {entry : TypeEntry} {byName : Result (Option DataType)}
    (captured : verdict entry byName = .captured) : entry.structural = true := by
  unfold verdict at captured
  split at captured
  · cases captured
  · split at captured
    · assumption
    · cases captured
  · cases captured
  · split at captured
    · assumption
    · cases captured

theorem judgeBy_congr {first second : TypeKey → SearchM DataType} {entry : TypeEntry}
    (same : entry.structural = true → ∀ field ∈ entry.fields, first field.key = second field.key) :
    judgeBy first entry = judgeBy second entry := by
  funext byName
  unfold judgeBy
  split
  · rfl
  · rfl
  · rename_i captured
    have fields : ∀ field ∈ entry.fields,
        (do return (⟨field.name, ← first field.key, true⟩ : Field DataType)) =
          (do return ⟨field.name, ← second field.key, true⟩) := fun field member => by
      rw [same (structural_of_verdict captured) field member]
    rw [mapM_congr fields]

theorem keyRound_congr {active : List TypeKey} {key : TypeKey}
    (same : ∀ later, Enters table (.key active key) later → again later = other later) :
    keyRound table again active key = keyRound table other active key := by
  refine congrArg (get >>= ·) (funext fun found => ?_)
  split
  · rfl
  · split
    · rfl
    · rename_i entry present
      split
      · rfl
      · rename_i idle
        have inactive : active.contains key = false := Bool.eq_false_iff.mpr idle
        have fields : judgeBy (fun key' => again (.key (key :: active) key')) entry =
            judgeBy (fun key' => other (.key (key :: active) key')) entry :=
          judgeBy_congr fun structural field member =>
            same _ (.field present inactive structural member)
        rw [same _ (.entry present inactive), fields]

theorem nameRound_congr {active : List TypeKey} {name : String}
    (same : ∀ later, Continues table (.name active name) later → again later = other later) :
    nameRound table again active name = nameRound table other active name := by
  unfold nameRound
  split
  · rfl
  · rename_i unknown
    split
    · rfl
    · rfl
    · rename_i element parsed
      rw [same _ (.element unknown parsed)]
    · rename_i base arguments parsed
      split
      · rfl
      · rename_i definition based
        have each : ∀ argument ∈ arguments,
            again (.nested active argument) = other (.nested active argument) :=
          fun argument member => same _ (.argument unknown parsed based member)
        rw [mapM_congr each]

theorem nestedRound_congr {active : List TypeKey} {name : String}
    (same : ∀ later, Continues table (.nested active name) later → again later = other later) :
    nestedRound table again active name = nestedRound table other active name := by
  unfold nestedRound
  split
  · rename_i key first
    exact same _ (.filed first)
  · rename_i absent
    rw [same _ (.unfiled absent)]

/-- A round asks for nothing but the calls that are made. -/
theorem round_congr {call : Call}
    (same : ∀ later, Calls table call later → again later = other later) :
    round table again call = round table other call := by
  cases call with
  | key active key => exact keyRound_congr fun later enters => same later (.inl enters)
  | name active name => exact nameRound_congr fun later continues => same later (.inr continues)
  | nested active name =>
    exact nestedRound_congr fun later continues => same later (.inr continues)

end Rounds

/-! ### What calls use up -/

section Chains

variable {table : TypeTable} {call later : Call}

/-- Entering a key puts it in progress, and leaves fewer keys to enter. -/
theorem Enters.active_eq (enters : Enters table call later) :
    ∃ key, later.active = key :: call.active ∧
      table.openEntries later.active < table.openEntries call.active := by
  cases enters with
  | entry present inactive => exact ⟨_, rfl, openEntries_cons_lt present inactive⟩
  | field present inactive _ _ => exact ⟨_, rfl, openEntries_cons_lt present inactive⟩

theorem Continues.active_eq (continues : Continues table call later) :
    later.active = call.active := by
  cases continues <;> rfl

/-- Along a chain of calls keys are put in progress one after another, and each of them was open
before. -/
theorem exists_entered (called : Relation.ReflTransGen (Calls table) call later) :
    ∃ entered, later.active = entered ++ call.active ∧
      table.openEntries later.active + entered.length ≤ table.openEntries call.active := by
  induction called with
  | refl => exact ⟨[], rfl, Nat.le_refl _⟩
  | tail _ calls inductionHypothesis =>
    obtain ⟨entered, grown, fewer⟩ := inductionHypothesis
    rcases calls with enters | continues
    · obtain ⟨key, active, less⟩ := enters.active_eq
      refine ⟨key :: entered, by rw [active, grown, List.cons_append], ?_⟩
      rw [List.length_cons]
      omega
    · rw [continues.active_eq]
      exact ⟨entered, grown, fewer⟩

/-- Below a name, and as long as no key is entered, all names are shorter. -/
theorem length_lt_of_continues {active : List TypeKey} {name : String}
    (continued : Relation.TransGen (Continues table) (.name active name) later) :
    later.active = active ∧ ∀ shorter ∈ later.name?, shorter.length < name.length := by
  induction continued with
  | single continues =>
    refine ⟨continues.active_eq, fun shorter found => ?_⟩
    cases continues with
    | element _ parsed =>
      cases found
      exact TypeName.length_lt_of_parse_array parsed
    | argument _ parsed _ member =>
      cases found
      exact TypeName.length_lt_of_parse_generic parsed _ member
  | tail _ continues inductionHypothesis =>
    obtain ⟨same, bounded⟩ := inductionHypothesis
    refine ⟨continues.active_eq.trans same, fun shorter found => ?_⟩
    cases continues with
    | element _ parsed =>
      cases found
      exact (TypeName.length_lt_of_parse_array parsed).trans (bounded _ rfl)
    | argument _ parsed _ member =>
      cases found
      exact (TypeName.length_lt_of_parse_generic parsed _ member).trans (bounded _ rfl)
    | filed _ => cases found
    | unfiled _ => exact bounded shorter found

end Chains

/-! ### Room for calls -/

/-- The length of the longest name in a table. -/
def longest (table : TypeTable) : Nat :=
  (table.entries.map fun entry => entry.name.length).foldr max 0

/-- A bound for the calls between two entries of keys. -/
def stride (table : TypeTable) : Nat :=
  2 * table.longest + 2

/-- A bound for the calls below a call, itself included. -/
def room (table : TypeTable) (call : Call) : Nat :=
  table.openEntries call.active * table.stride + call.height

section Room

variable {table : TypeTable} {call later : Call}

theorem length_le_longest {key : TypeKey} {entry : TypeEntry}
    (present : table.entryOf? key = some entry) : entry.name.length ≤ table.longest :=
  List.le_max_of_le' 0 (List.mem_map_of_mem (List.mem_of_find?_eq_some present)) (Nat.le_refl _)

theorem Call.height_pos (call : Call) : 0 < call.height := by
  cases call <;> exact Nat.succ_pos _

/-- The calls between two entries of keys are bounded by the longest name of an entry. -/
theorem Enters.height_le (enters : Enters table call later) : later.height ≤ table.stride := by
  cases enters with
  | entry present _ =>
    have bounded := length_le_longest present
    simp only [Call.height, stride]
    omega
  | field _ _ _ _ => exact Nat.succ_pos _

/-- A call under the same keys is for a shorter name, or for the same name in a later stage. -/
theorem Continues.height_lt (continues : Continues table call later) :
    later.height < call.height := by
  cases continues with
  | element _ parsed =>
    have shorter := TypeName.length_lt_of_parse_array parsed
    simp only [Call.height]
    omega
  | argument _ parsed _ member =>
    have shorter := TypeName.length_lt_of_parse_generic parsed _ member
    simp only [Call.height]
    omega
  | filed _ =>
    simp only [Call.height]
    omega
  | unfiled _ =>
    simp only [Call.height]
    omega

/-- A call leaves less room than it has. The keys to enter come first, the name second. -/
theorem Calls.room_lt (calls : Calls table call later) : table.room later < table.room call := by
  rcases calls with enters | continues
  · obtain ⟨_, _, fewer⟩ := enters.active_eq
    calc table.room later
        ≤ table.openEntries later.active * table.stride + table.stride :=
          Nat.add_le_add_left enters.height_le _
      _ = (table.openEntries later.active + 1) * table.stride := (Nat.succ_mul _ _).symm
      _ ≤ table.openEntries call.active * table.stride := Nat.mul_le_mul_right _ fewer
      _ < table.room call := Nat.lt_add_of_pos_right call.height_pos
  · unfold room
    rw [continues.active_eq]
    exact Nat.add_lt_add_left continues.height_lt _

/-- A chain of calls is shorter than the room of the first one. -/
theorem length_lt_room {calls : List Call} (chain : (call :: calls).IsChain (Calls table)) :
    calls.length < table.room call := by
  induction calls generalizing call with
  | nil => exact Nat.lt_of_lt_of_le call.height_pos (Nat.le_add_left _ _)
  | cons next rest inductionHypothesis =>
    obtain ⟨first, others⟩ := List.isChain_cons_cons.mp chain
    exact Nat.lt_of_le_of_lt (inductionHypothesis others) first.room_lt

theorem openEntries_nil (table : TypeTable) : table.openEntries [] = table.size :=
  congrArg List.length (List.filter_eq_self.mpr fun _ _ => rfl)

end Room

/-! ### The recursion cut off -/

/-- The search with its calls cut off below a depth. There another search goes on. -/
def unrolled (table : TypeTable) (bottom : (call : Call) → SearchM call.Yield) :
    Nat → (call : Call) → SearchM call.Yield
  | 0 => bottom
  | depth + 1 => round table (unrolled table bottom depth)

/-- With enough room for its calls, a search never comes to the depth where they are cut off. -/
theorem unrolled_eq {table : TypeTable} (bottom : (call : Call) → SearchM call.Yield) {depth : Nat}
    {call : Call} (enough : table.room call ≤ depth) :
    unrolled table bottom depth call = search table call := by
  induction depth generalizing call with
  | zero =>
    have positive : 0 < table.room call := Nat.lt_of_lt_of_le call.height_pos (Nat.le_add_left _ _)
    exact absurd enough (Nat.not_le_of_lt positive)
  | succ depth inductionHypothesis =>
    calc unrolled table bottom (depth + 1) call
        = round table (unrolled table bottom depth) call := rfl
      _ = round table (search table) call :=
        round_congr fun later calls =>
          inductionHypothesis (Nat.le_of_lt_succ (Nat.lt_of_lt_of_le calls.room_lt enough))
      _ = search table call := round_search table call

/-- In every table, whatever its entries say, resolving ends. The calls that are followed are all
that a search makes. Along a chain of them each key that is entered leaves fewer open, none is
opened again, and between two such keys the names get shorter. So a chain is bounded, and keys and
names are resolved by the recursion cut off at a depth that the table and the name determine,
whatever search would go on there. -/
theorem resolve_ends (table : TypeTable) :
    (∀ {call again}, (∀ later, Calls table call later → again later = search table later) →
      round table again call = search table call) ∧
    (∀ {call later}, Relation.ReflTransGen (Calls table) call later →
      ∃ entered, later.active = entered ++ call.active ∧
        table.openEntries later.active + entered.length ≤ table.openEntries call.active) ∧
    (∀ {active name later shorter},
      Relation.TransGen (Continues table) (.name active name) (.name later shorter) →
        later = active ∧ shorter.length < name.length) ∧
    (∀ {call calls}, (call :: calls).IsChain (Calls table) → calls.length < table.room call) ∧
    (∀ key {depth} bottom, table.size * table.stride + 1 ≤ depth →
      (resolve key).run table =
        (searching fun table => unrolled table bottom depth (.key [] key)).run table) ∧
    ∀ name {depth} bottom, table.size * table.stride + 2 * name.length + 2 ≤ depth →
      (resolveName name).run table =
        (searching fun table => unrolled table bottom depth (.name [] name)).run table := by
  refine ⟨fun same => (round_congr same).trans (round_search table _), exists_entered,
    fun continued => ?_, length_lt_room, fun key depth bottom enough => ?_,
    fun name depth bottom enough => ?_⟩
  · obtain ⟨same, bounded⟩ := length_lt_of_continues continued
    exact ⟨same, bounded _ rfl⟩
  · have fits : table.room (.key [] key) ≤ depth := by
      rw [room, Call.active, openEntries_nil]
      exact enough
    rw [resolve, searching_run, searching_run, unrolled_eq bottom fits]
    rfl
  · have fits : table.room (.name [] name) ≤ depth := by
      rw [room, Call.active, openEntries_nil, Call.height, ← Nat.add_assoc]
      exact enough
    rw [resolveName, searching_run, searching_run, unrolled_eq bottom fits]
    rfl

/-- The entry of a ring, whose field holds the table of its members. -/
def ringEntry (key : TypeKey) : TypeEntry :=
  ⟨key, "Ring", true, [⟨"Members", ⟨"#2"⟩⟩]⟩

/-- Entries of a ring, of the table of its members, and of a ring again. -/
def ringEntries : List TypeEntry :=
  [ringEntry ⟨"#1"⟩, ⟨⟨"#2"⟩, "Ring[][]", true, [⟨"First", ⟨"#1"⟩⟩]⟩, ringEntry ⟨"#3"⟩]

/-- The table of these entries over a catalog that knows no types. -/
def ring : TypeTable :=
  { empty Catalog.empty (fun _ => 0) with entries := ringEntries }

/-- The calls below the name of the members. They come to the first ring. -/
def ringCalls : List Call :=
  let active : List TypeKey := [⟨"#2"⟩, ⟨"#3"⟩]
  [.name active "Ring[][]", .nested active "Ring[]", .name active "Ring[]", .nested active "Ring",
    .key active ⟨"#1"⟩]

theorem isChain_ringCalls : ringCalls.IsChain (Continues ring) :=
  .cons_cons (.element rfl rfl) (.cons_cons (.unfiled rfl) (.cons_cons (.element rfl rfl)
    (.cons_cons (.filed rfl) (.singleton _))))

/-- An outcome is an error if it is one when its content is left out. -/
theorem eq_error_of_map {Content : Type} {outcome : Result Content} {error : Error}
    (refused : outcome.map (fun _ => ()) = .error error) : outcome = .error error := by
  cases outcome with
  | error _ => exact congrArg Except.error (Except.error.inj refused)
  | ok _ => cases refused

/-- A search that goes no further. -/
def halted (call : Call) : SearchM call.Yield :=
  throw (.unknownTypeKey (call.name?.getD ""))

/-- Neither the second ring nor the name of the members has a type. The keys are entered once, and
the calls end where one would be entered again, before they come to the halted search. -/
theorem resolve_ends_ring :
    let start : Call := .key [] ⟨"#3"⟩
    let members : Call := .key [⟨"#3"⟩] ⟨"#2"⟩
    let active : List TypeKey := [⟨"#2"⟩, ⟨"#3"⟩]
    (load ringEntries).run (empty Catalog.empty fun _ => 0) = (.ok (), ring) ∧
      (start :: members :: ringCalls).IsChain (Calls ring) ∧
      (members :: ringCalls).length < ring.room start ∧
      Relation.ReflTransGen (Calls ring) start (.name active "Ring[][]") ∧
      (∃ entered, active = entered ++ [] ∧ ring.openEntries active + entered.length ≤ 3) ∧
      Relation.TransGen (Continues ring) (.name active "Ring[][]") (.name active "Ring[]") ∧
      "Ring[]".length < "Ring[][]".length ∧
      round ring (unrolled ring halted 54) start = search ring start ∧
      ((resolve ⟨"#3"⟩).run ring).1 = .error (.symbolNotFound (.selfReference "Ring[][]")) ∧
      ((resolveName "Ring[][]").run ring).1 = .error (.symbolNotFound (.selfReference "Ring")) := by
  intro start members active
  obtain ⟨rounds, entered, shorter, bounded, byKey, byName⟩ := resolve_ends ring
  have present : ring.entryOf? ⟨"#3"⟩ = some (ringEntry ⟨"#3"⟩) := rfl
  have first : Enters ring start members := .field present rfl rfl (.head _)
  have second : Enters ring members (.name active "Ring[][]") :=
    .entry (by rfl : ring.entryOf? ⟨"#2"⟩ = some ⟨⟨"#2"⟩, "Ring[][]", true, _⟩) rfl
  have chain : (start :: members :: ringCalls).IsChain (Calls ring) :=
    .cons_cons (.inl first) (.cons_cons (.inl second) (isChain_ringCalls.imp fun _ _ => .inr))
  have called : Relation.ReflTransGen (Calls ring) start (.name active "Ring[][]") :=
    (Relation.ReflTransGen.single (.inl first)).tail (.inl second)
  have continued : Relation.TransGen (Continues ring) (.name active "Ring[][]")
      (.name active "Ring[]") :=
    (Relation.TransGen.single (.element rfl rfl)).tail (.unfiled rfl)
  refine ⟨rfl, chain, bounded chain, called, entered called, continued, (shorter continued).2,
    rounds fun later calls => unrolled_eq halted (Nat.le_of_lt_succ calls.room_lt), ?_, ?_⟩
  · rw [byKey ⟨"#3"⟩ halted (Nat.le_refl _)]
    exact eq_error_of_map (by decide +kernel)
  · rw [byName "Ring[][]" halted (Nat.le_refl _)]
    exact eq_error_of_map (by decide +kernel)

end TypeTable

end PredicateWire
