import Rulebook.Compile.Engine
import Rulebook.Proofs.Fallible

/-!
# Relations that compiling keeps

The compiler puts runs that may fail together, and does so without regard to what they are. So a relation between
outcomes that is kept by putting runs together (`Call.Congruence`), and that holds where names are resolved in two
registries, holds between the outcomes of compiling with the one and with the other registry.

* `Call.rel_ofDirective`: the relation holds between the calls of a directive, if it holds between the validators of
  the description inside its value (`Json.Describes`).
* `Engine.rel_node`: it holds between the validators of a node, if it holds between those of the descriptions that
  are compiled on the way (`Description.Inner`).
* `Engine.rel_within`: it holds between the validators of all descriptions, if it does so where a directive is unknown.

Proofs about compiling choose the relation.
-/

namespace Rulebook

/-- The description of a nested schema stands in the value of a directive. -/
def Json.Describes (value : Json) (d : Description) : Prop :=
  ∃ schema, value.field? "schema" = some schema ∧ Description.ofJson schema = .ok d

/-- The directives whose values may hold a nested schema: patterns on objects, and conditions. -/
def Directive.Nests (row : Directive) (type : TypeTag) : Prop :=
  (row.category = .pattern ∧ type = .object) ∨ row.category = .bespoke .condition

/-- The descriptions that are compiled on the way to a node: properties of an object, and nested schemas. -/
inductive Description.Inner : Description → Description → Prop
  | property {d c : Description} {properties : List (String × Description)} {name : String} :
      d.type = .object → d.properties = some properties → (name, c) ∈ properties → Inner c d
  | schema {d c : Description} {name : String} {value : Json} {row : Directive} : (name, value) ∈ d.directives →
      Grammar.lookup name = some row → row.Nests d.type → value.Describes c → Inner c d

namespace Call

variable {α β V : Type}

/-- A relation between outcomes that is kept by putting runs together. It holds between outcomes where a name is
resolved in the left registry and in the right one, and between equal results and equal faults; an unknown directive
is left out, for relations that tell it apart. -/
structure Congruence (R : (α : Type) → Outcome α → Outcome α → Prop) (left right : Registry) : Prop where
  ok {α : Type} (a : α) : R α (.ok a) (.ok a)
  error {α : Type} (e : CompileError) : (∀ name, e ≠ .unknownDirective name) → R α (.error e) (.error e)
  bind {α β : Type} {x y : Outcome α} {f g : α → Outcome β} : R α x y → (∀ a, R β (f a) (g a)) →
    R β (x >>= f) (y >>= g)
  resolve (name : String) (kind : FunctionKind) :
    R NamedFunction ((left.resolve name kind).mapError .function) ((right.resolve name kind).mapError .function)

variable {R : (α : Type) → Outcome α → Outcome α → Prop} {left right : Registry} (h : Congruence R left right)

include h

/-! ## Putting runs together -/

theorem Congruence.map {x y : Outcome α} (hxy : R α x y) (f : α → β) : R β (x.map f) (y.map f) := by
  have hmap : ∀ z : Outcome α, z.map f = z >>= fun a => .ok (f a) := by
    intro z
    cases z <;> rfl
  rw [hmap, hmap]
  exact h.bind hxy fun a => h.ok (f a)

/-- A run whose result is wrapped. -/
theorem Congruence.wrap {x y : Outcome α} (hxy : R α x y) (f : α → β) :
    R β (x >>= fun a => .ok (f a)) (y >>= fun a => .ok (f a)) :=
  h.bind hxy fun a => h.ok (f a)

/-- A list of runs is related when each run is. -/
theorem Congruence.mapM {f g : α → Outcome β} (hfg : ∀ a, R β (f a) (g a)) : ∀ xs : List α,
    R (List β) (xs.mapM f) (xs.mapM g)
  | [] => h.ok _
  | x :: xs => by
    rw [List.mapM_cons, List.mapM_cons]
    exact h.bind (hfg x) fun _ => h.wrap (Congruence.mapM hfg xs) _

theorem Congruence.fault (directive : String) (cause : ArgumentError) :
    R α (fault directive cause) (fault directive cause) :=
  h.error _ (by simp)

/-- A run whose faults are told as faults of compiling. -/
theorem Congruence.mapError {ε : Type} {f : ε → CompileError} (hf : ∀ e name, f e ≠ .unknownDirective name)
    (x : Except ε α) : R α (x.mapError f) (x.mapError f) := by
  cases x with
  | error e => exact h.error _ (hf e)
  | ok a => exact h.ok a

/-! ## Reading values -/

theorem rel_bindAdjust (r : Reference) : R _ (bindAdjust left r) (bindAdjust right r) := by
  unfold bindAdjust
  split
  · exact h.ok _
  · exact h.wrap (h.resolve _ .transform) _

theorem rel_operand (value : Json) : R _ (operand (V := V) left value) (operand right value) := by
  unfold operand
  split
  · exact h.error _ (by simp)
  · exact h.ok _
  · exact h.wrap (rel_bindAdjust h _) _

theorem rel_reference (value : Json) : R _ (reference left value) (reference right value) := by
  unfold reference
  split
  · exact h.error _ (by simp)
  · exact rel_bindAdjust h _

theorem rel_pattern (value : Json) : R _ (pattern value) (pattern value) := h.mapError (by simp) _

theorem rel_functionName (directive : String) (value : Json) :
    R _ (functionName directive value) (functionName directive value) := by
  unfold functionName
  split
  · exact h.ok _
  · exact h.fault _ _

theorem rel_transformArg (directive : String) (value : Json) :
    R _ (transformArg (V := V) left directive value) (transformArg right directive value) := by
  unfold transformArg
  exact h.bind (rel_functionName h directive value) fun name => h.wrap (h.resolve name .transform) _

theorem rel_expectObject (directive what : String) (value : Json) :
    R _ (expectObject directive what value) (expectObject directive what value) := by
  unfold expectObject
  split
  · exact h.ok _
  · exact h.fault _ _

theorem rel_optionsArg (directive : String) (members : Table Json) :
    R _ (optionsArg (V := V) directive members) (optionsArg directive members) := by
  unfold optionsArg
  split
  · exact h.ok _
  · exact h.wrap (rel_expectObject h directive "options" _) _

theorem rel_checkKeys (directive : String) (keys : List String) (members : Table Json) :
    R _ (checkKeys directive keys members) (checkKeys directive keys members) := by
  unfold checkKeys
  split
  · exact h.fault _ _
  · exact h.ok _

theorem rel_canonicalPatterns (value : Json) : R _ (canonicalPatterns value) (canonicalPatterns value) := by
  unfold canonicalPatterns
  split
  · exact h.wrap (h.mapM (fun item => h.wrap (rel_pattern h item) _) _) _
  · exact h.wrap (rel_pattern h _) _

theorem rel_ofConfig (directive : String) (value : Json) :
    R _ (ofConfig (V := V) directive value) (ofConfig directive value) := by
  unfold ofConfig
  split
  · exact h.ok _
  · split
    · exact h.wrap (rel_canonicalPatterns h _) _
    · exact h.ok _
  · exact h.ok _

theorem rel_ofLimit (directive key : String) (value : Json) :
    R _ (ofLimit (V := V) left directive key value) (ofLimit right directive key value) := by
  unfold ofLimit
  split
  · split
    · exact h.wrap (rel_operand h _) _
    · split
      · exact h.fault _ _
      · exact h.wrap (rel_operand h _) _
  · exact h.wrap (rel_operand h _) _

theorem rel_ofUnary (directive : String) (coercion : Coercion) (value : Json) :
    R _ (ofUnary (V := V) left directive coercion value) (ofUnary right directive coercion value) := by
  cases coercion with
  | literal => exact h.ok _
  | operand => exact h.wrap (rel_operand h value) _
  | limit key => exact rel_ofLimit h directive key value
  | elements => exact h.mapM (rel_operand h) _

theorem rel_primary (directive : String) (layout : OptionKey) (value : Json) :
    R _ (primary (V := V) left directive layout value) (primary right directive layout value) := by
  unfold primary
  split
  · exact rel_transformArg h directive value
  · exact h.ok _

theorem rel_secondary (directive : String) (layout : OptionKey) (members : Table Json) :
    R _ (secondary (V := V) left directive layout members) (secondary right directive layout members) := by
  unfold secondary
  split
  · exact h.ok _
  · exact h.wrap (rel_checkKeys h _ _ _) _
  · exact h.bind (rel_checkKeys h _ _ _) fun _ => h.mapM (rel_transformArg h directive) _

theorem rel_ofOptionKeyed (directive : String) (layout : OptionKey) (value : Json) :
    R _ (ofOptionKeyed (V := V) left directive layout value) (ofOptionKeyed right directive layout value) := by
  unfold ofOptionKeyed
  split
  · exact h.bind (rel_primary h directive layout _) fun _ => h.wrap (rel_secondary h directive layout _) _
  · exact h.wrap (rel_primary h directive layout _) _

theorem rel_peerList (directive : String) (members : Table Json) :
    R _ (peerList directive members) (peerList directive members) := by
  unfold peerList
  split
  · exact h.ok _
  · exact h.ok _
  · exact h.fault _ _

theorem rel_ofPeerGroup (directive : String) (value : Json) :
    R _ (ofPeerGroup (V := V) directive value) (ofPeerGroup directive value) := by
  unfold ofPeerGroup
  split
  · exact h.ok _
  · exact h.ok _
  · exact h.bind (rel_checkKeys h _ _ _) fun _ =>
      h.bind (rel_peerList h directive _) fun _ => h.wrap (rel_optionsArg h directive _) _
  · exact h.fault _ _

theorem rel_comparatorArg (directive : String) (members : Table Json) :
    R _ (comparatorArg (V := V) left directive members) (comparatorArg right directive members) := by
  unfold comparatorArg
  split
  · exact h.ok _
  · exact h.bind (rel_functionName h directive _) fun name => h.wrap (h.resolve name .comparator) _

theorem rel_ofUnique (directive : String) (value : Json) :
    R _ (ofUnique (V := V) left directive value) (ofUnique right directive value) := by
  unfold ofUnique
  split
  · exact h.ok _
  · exact h.bind (rel_checkKeys h _ _ _) fun _ =>
      h.bind (rel_comparatorArg h directive _) fun _ => h.wrap (rel_optionsArg h directive _) _
  · exact h.fault _ _

theorem rel_stringArg (directive key : String) (members : Table Json) :
    R _ (stringArg (V := V) directive key members) (stringArg directive key members) := by
  unfold stringArg
  split
  · exact h.ok _
  · exact h.fault _ _
  · exact h.fault _ _

theorem rel_ofRename (directive : String) (value : Json) :
    R _ (ofRename (V := V) directive value) (ofRename directive value) := by
  unfold ofRename
  exact h.bind (rel_expectObject h directive "value" value) fun members =>
    h.bind (rel_stringArg h directive "from" members) fun _ => h.wrap (rel_stringArg h directive "to" members) _

theorem rel_ofReplaceEntry (directive : String) (entry : Json) :
    R _ (ofReplaceEntry (V := V) directive entry) (ofReplaceEntry directive entry) := by
  unfold ofReplaceEntry
  refine h.bind (rel_expectObject h directive "entry" entry) fun members => ?_
  refine h.bind (rel_checkKeys h _ _ _) fun _ => ?_
  split
  · exact h.wrap (rel_pattern h _) _
  · exact h.fault _ _

theorem rel_recordFields (directive : String) (members : Table Json) : ∀ (required : Nat) (keys : List String),
    R _ (recordFields directive members required keys) (recordFields directive members required keys)
  | _, [] => h.ok _
  | required, key :: keys => by
    unfold recordFields
    split
    · exact h.wrap (rel_recordFields directive members _ keys) _
    · exact h.ok _
    · exact h.fault _ _

theorem rel_recordOrSequence (directive : String) (keys : List String) (required : Nat) (value : Json) :
    R _ (recordOrSequence directive keys required value) (recordOrSequence directive keys required value) := by
  unfold recordOrSequence
  split
  · split
    · exact h.fault _ _
    · exact h.ok _
  · exact h.bind (rel_checkKeys h _ _ _) fun _ => rel_recordFields h directive _ required keys
  · exact h.fault _ _

theorem rel_ofAssert (directive : String) (value : Json) :
    R _ (ofAssert (V := V) left directive value) (ofAssert right directive value) := by
  unfold ofAssert
  refine h.bind (rel_recordOrSequence h directive _ 2 value) fun fields => ?_
  cases fields with
  | nil => exact h.ok _
  | cons subject rest => exact h.wrap (rel_reference h subject) _

/-! ## Descriptions inside values -/

variable {f g : Description → Outcome V} {type : TypeTag} {directive : String} {value : Json}

theorem rel_nestedSchema (hd : ∀ d, Description.ofJson value = .ok d → R V (f d) (g d)) :
    R _ (nestedSchema f directive value) (nestedSchema g directive value) := by
  unfold nestedSchema
  split
  · exact h.error _ (by simp)
  · next d hread => exact h.wrap (hd d hread) _

theorem rel_ofPattern (hd : type = .object → ∀ d, value.Describes d → R V (f d) (g d)) :
    R _ (ofPattern f type directive value) (ofPattern g type directive value) := by
  unfold ofPattern
  split
  · exact h.ok _
  · split
    · exact h.wrap (rel_pattern h _) _
    · next members _ =>
      have hschema : R _ (patternSchema f type directive members) (patternSchema g type directive members) := by
        unfold patternSchema
        split
        · exact h.ok _
        · next schema hschema =>
          split
          · exact h.fault _ _
          · next hobject =>
            have hobject : type = .object := by simpa using hobject
            exact h.wrap (rel_nestedSchema h fun d hread => hd hobject d ⟨schema, hschema, hread⟩) _
      exact h.bind (rel_pattern h _) fun _ => h.bind hschema fun _ => h.wrap (rel_optionsArg h directive members) _
    · exact h.fault _ _

theorem rel_ofCondition (hd : ∀ d, value.Describes d → R V (f d) (g d)) :
    R _ (ofCondition f left directive value) (ofCondition g right directive value) := by
  unfold ofCondition
  cases value with
  | obj members =>
    have hcondition : R _ (conditionArg f left directive members) (conditionArg g right directive members) := by
      unfold conditionArg
      split
      · exact h.wrap (rel_reference h _) _
      · next schema _ hschema => exact rel_nestedSchema h fun d hread => hd d ⟨schema, hschema, hread⟩
      · exact h.fault _ _
      · exact h.fault _ _
    simp only [expectObject, Fallible.ok_bind]
    exact h.wrap hcondition _
  | _ => exact h.fault _ _

/-- **The calls of a directive are related**, if the validators of the description inside its value are. -/
theorem rel_ofDirective {row : Directive} (hd : row.Nests type → ∀ d, value.Describes d → R V (f d) (g d)) :
    R _ (ofDirective f left type row value) (ofDirective g right type row value) := by
  obtain ⟨name, category, reversible⟩ := row
  cases category with
  | toggle | spread => exact h.ok _
  | optionalConfig => exact h.map (rel_ofConfig h name value) _
  | unary coercion => exact h.map (rel_ofUnary h name coercion value) _
  | optionKeyed layout => exact h.map (rel_ofOptionKeyed h name layout value) _
  | peerGroup => exact h.map (rel_ofPeerGroup h name value) _
  | pattern => exact h.map (rel_ofPattern h fun hobject => hd (.inl ⟨rfl, hobject⟩)) _
  | bespoke shape =>
    cases shape with
    | unique => exact h.map (rel_ofUnique h name value) _
    | rename => exact h.map (rel_ofRename h name value) _
    | replace => exact h.mapM (rel_ofReplaceEntry h name) _
    | assert => exact h.map (rel_ofAssert h name value) _
    | keyPeers => exact h.map (h.map (rel_recordOrSequence h name _ 2 value) _) _
    | condition => exact h.map (rel_ofCondition h (hd (.inr rfl))) _

end Call

/-! ## Nodes -/

namespace Engine

variable {V : Type} {R : (α : Type) → Call.Outcome α → Call.Outcome α → Prop} {left right : Registry}
  (h : Call.Congruence R left right) {engine : Engine V} {f g : Description → Call.Outcome V}

include h

omit engine in
theorem rel_children : ∀ {properties : List (String × Description)},
    (∀ e ∈ properties, R V (f e.2) (g e.2)) → R _ (children f properties) (children g properties)
  | [], _ => h.ok _
  | (name, child) :: rest, hall => by
    have hchild : R V (f child) (g child) := hall (name, child) List.mem_cons_self
    have hrest := rel_children fun e he => hall e (List.mem_cons_of_mem _ he)
    exact h.bind hchild fun _ => h.wrap hrest _

theorem rel_seed {d : Description}
    (hall : d.type = .object → ∀ properties, d.properties = some properties → ∀ e ∈ properties, R V (f e.2) (g e.2)) :
    R _ (engine.seed f d) (engine.seed g d) := by
  obtain ⟨type, entries, properties⟩ := d
  have hengine (x : Except EngineError V) : R V (x.mapError .engine) (x.mapError .engine) := h.mapError (by simp) x
  cases properties with
  | none => cases type <;> exact hengine _
  | some properties =>
    cases type with
    | object => exact h.bind (rel_children h (hall rfl properties rfl)) fun vs => hengine (engine.object (some vs))
    | _ => exact hengine _

theorem rel_run : ∀ (calls : List (Call V)) (v : V), R V (engine.run v calls) (engine.run v calls)
  | [], v => h.ok v
  | _ :: rest, _ => h.bind (h.mapError (by simp) _) fun w => rel_run rest w

variable {type : TypeTag}

theorem rel_directive {name : String} {value : Json}
    (hunknown : Grammar.lookup name = none → R V (.error (.unknownDirective name)) (.error (.unknownDirective name)))
    (hd : ∀ row, Grammar.lookup name = some row → row.Nests type → ∀ d, value.Describes d → R V (f d) (g d)) (v : V) :
    R _ (engine.directive f left type v name value) (engine.directive g right type v name value) := by
  unfold directive
  cases hrow : Grammar.lookup name with
  | none => exact hunknown hrow
  | some row => exact h.bind (Call.rel_ofDirective h (hd row hrow)) fun calls => rel_run h calls v

theorem rel_directives : ∀ {entries : List (String × Json)},
    (∀ e ∈ entries, Grammar.lookup e.1 = none →
      R V (.error (.unknownDirective e.1)) (.error (.unknownDirective e.1))) →
    (∀ e ∈ entries, ∀ row, Grammar.lookup e.1 = some row → row.Nests type → ∀ d, e.2.Describes d →
      R V (f d) (g d)) →
    ∀ v : V, R _ (engine.directives f left type v entries) (engine.directives g right type v entries)
  | [], _, _, v => h.ok v
  | (name, value) :: rest, hunknown, hd, v => by
    have hfirst : R _ (engine.directive f left type v name value) (engine.directive g right type v name value) :=
      rel_directive h (hunknown (name, value) List.mem_cons_self) (hd (name, value) List.mem_cons_self) v
    refine h.bind hfirst fun w => rel_directives ?_ ?_ w
    · exact fun e he => hunknown e (List.mem_cons_of_mem _ he)
    · exact fun e he => hd e (List.mem_cons_of_mem _ he)

/-- **The validators of a node are related**, if those of the descriptions that are compiled on the way are. -/
theorem rel_node {d : Description}
    (hunknown : ∀ e ∈ d.directives, Grammar.lookup e.1 = none →
      R V (.error (.unknownDirective e.1)) (.error (.unknownDirective e.1)))
    (hinner : ∀ c : Description, c.Inner d → R V (f c) (g c)) :
    R _ (engine.node f left d) (engine.node g right d) := by
  have hseed : R _ (engine.seed f d) (engine.seed g d) :=
    rel_seed h fun hobject properties hp e he => hinner e.2 (.property hobject hp he)
  exact h.bind hseed fun v => rel_directives h hunknown
    (fun e he row hrow hnests c hc => hinner c (.schema he hrow hnests hc)) v

/-- **The validators of descriptions are related**, by induction on the depth up to which they are compiled. -/
theorem rel_within (hunknown : ∀ name, R V (.error (.unknownDirective name)) (.error (.unknownDirective name))) :
    ∀ (n : Nat) (d : Description), R _ (engine.within left n d) (engine.within right n d)
  | 0, _ => h.mapError (by simp) _
  | n + 1, _ => rel_node h (fun e _ _ => hunknown e.1) fun c _ => rel_within hunknown n c

end Engine

end Rulebook
