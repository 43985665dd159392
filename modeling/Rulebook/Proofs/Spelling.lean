import Rulebook.Proofs.Order
import Rulebook.Proofs.Recorded

/-!
# Spellings of directives

Most directives can be written in more than one way: under another name, with a value alone or in a list, with a bare
value or an object that holds it under its key. `Spelling` lists the ways, and `Description.Respelled` writes one
directive of a description another way, at the node itself or at one that is reached through properties.

* `log_of_spelling`: spellings of a directive record the same on every type, or are refused alike.
* `logs_congr`: so do lists of directives in which one is written another way.
* `compile_respelled`: a description compiles as before when one of its directives is written another way.
-/

namespace Rulebook

open Fallible Grammar Compile

/-- The category of a directive. -/
def Grammar.category? (name : String) : Option Category := (lookup name).map Directive.category

namespace Spelling

/-- Names under which a value means the same. -/
def synonyms : List (List String) :=
  [["valid", "allow", "equal"], ["invalid", "disallow", "not"], ["required", "exist"], ["pattern", "regex"]]

/-- The categories that take a list of values, or a value alone. -/
def listed : List Category := [.unary .elements, .spread, .bespoke .replace]

/-- The keys of the categories that take an object, or a list of its values in this order. -/
def fields : Category → List String
  | .bespoke .assert => ["reference", "schema", "message"]
  | .bespoke .keyPeers => ["key", "peers", "options"]
  | _ => []

end Spelling

/-- Directives, each a name with a value, that are ways to write the same. -/
inductive Spelling : String × Json → String × Json → Prop
  | symm {a b : String × Json} : Spelling a b → Spelling b a
  | trans {a b c : String × Json} : Spelling a b → Spelling b c → Spelling a c
  | synonym {names : List String} {name other : String} (x : Json) : names ∈ Spelling.synonyms → name ∈ names →
      other ∈ names → Spelling (name, x) (other, x)
  /-- A toggle takes any value. -/
  | toggle {name : String} (x : Json) : category? name = some .toggle → Spelling (name, x) (name, .bool true)
  | presence (p : Presence) (x : Json) : Spelling (p.text, x) ("presence", .str p.text)
  | sign {name : String} (x : Json) : name = "positive" ∨ name = "negative" →
      Spelling (name, x) ("sign", .str name)
  /-- A value that is no list may stand in one. -/
  | single {name : String} {category : Category} {x : Json} : category? name = some category →
      category ∈ Spelling.listed → (∀ items, x ≠ .arr items) → Spelling (name, x) (name, .arr [x])
  | peer {name : String} (peer : String) : category? name = some .peerGroup →
      Spelling (name, .str peer) (name, .arr [.str peer])
  | peers {name : String} (peers : List Json) : category? name = some .peerGroup →
      Spelling (name, .arr peers) (name, .obj [("peers", .arr peers)])
  | peersOptions {name : String} (peers : List Json) (options : Table Json) : category? name = some .peerGroup →
      Spelling (name, .arr (peers ++ [.obj options])) (name, .obj [("peers", .arr peers), ("options", .obj options)])
  /-- A limit that is no object, or a reference, may stand under its key. -/
  | limit {name key : String} {x : Json} : category? name = some (.unary (.limit key)) →
      (∀ members, x = .obj members → Table.has members Reference.key = true) →
      Spelling (name, x) (name, .obj [(key, x)])
  /-- A value without the primary member may stand under its key. -/
  | primary {name : String} {layout : OptionKey} {x : Json} : category? name = some (.optionKeyed layout) →
      x.field? layout.primary = none → Spelling (name, x) (name, .obj [(layout.primary, x)])
  | pattern {name : String} (written : String) : category? name = some .pattern →
      Spelling (name, .str written) (name, .obj [("pattern", .str written)])
  | unique : Spelling ("unique", .bool true) ("unique", .obj [])
  /-- Two or three values may stand under the keys of the category. -/
  | record {name : String} {category : Category} {items : List Json} : category? name = some category →
      2 ≤ items.length → items.length ≤ (Spelling.fields category).length →
      Spelling (name, .arr items) (name, .obj ((Spelling.fields category).zip items))

/-! ## Reading the spellings of a value -/

namespace Call

variable {V : Type} {nested : Description → Outcome V} {functions : Registry} {type : TypeTag} {directive : String}

/-- A value that is no list reads as the list of it. -/
theorem elements_single {x : Json} (hx : ∀ items, x ≠ .arr items) : elements x = elements (.arr [x]) := by
  cases x with
  | arr items => exact absurd rfl (hx items)
  | _ => rfl

/-- A limit that is no object, or a reference, reads as under its key. -/
theorem ofLimit_bare {key : String} {x : Json} (hkey : key ≠ Reference.key)
    (hx : ∀ members, x = .obj members → Table.has members Reference.key = true) :
    ofLimit (V := V) functions directive key x = ofLimit functions directive key (.obj [(key, x)]) := by
  have hbare : ofLimit (V := V) functions directive key x = (do return [← operand functions x]) := by
    cases x with
    | obj members => rw [ofLimit, if_pos (hx members rfl)]
    | _ => rfl
  have hhas : Table.has [(key, x)] Reference.key = false := by simp [Table.has, hkey]
  have hrest : (restArg [(key, x)] [key] : List (Argument V)) = [] := by simp [restArg, Table.without]
  rw [hbare, ofLimit, if_neg (by simp [hhas])]
  simp only [Table.get?_cons, if_true, hrest]

/-- A value without the primary member reads as under its key. -/
theorem ofOptionKeyed_bare {layout : OptionKey} {x : Json}
    (hlayout : ∀ key, layout.secondary = .key key ∨ layout.secondary = .functionKey key → layout.primary ≠ key)
    (hx : x.field? layout.primary = none) :
    ofOptionKeyed (V := V) functions directive layout x =
      ofOptionKeyed functions directive layout (.obj [(layout.primary, x)]) := by
  have hsecondary : secondary (V := V) functions directive layout [(layout.primary, x)] = .ok [] := by
    obtain ⟨name, function, second⟩ := layout
    cases second with
    | options => simp [secondary, restArg, Table.without]
    | key key =>
      have hne : name ≠ key := hlayout key (.inl rfl)
      simp [secondary, checkKeys, Table.names, hne]
    | functionKey key =>
      have hne : name ≠ key := hlayout key (.inr rfl)
      simp [secondary, checkKeys, Table.names, hne]
  have hfield : (Json.obj [(layout.primary, x)]).field? layout.primary = some x := by simp [Json.field?]
  simp only [ofOptionKeyed, hx, hfield, hsecondary]
  cases primary (V := V) functions directive layout x <;> rfl

/-- A pattern text reads as a record of it. -/
theorem ofPattern_bare (written : String) : ofPattern nested type directive (.str written) =
    ofPattern nested type directive (.obj [("pattern", .str written)]) := by
  have hrecord : pattern (.obj (Table.without [("pattern", .str written)] ["schema", "options"])) =
      pattern (.str written) := by
    simp only [pattern, Pattern.ofJson, Pattern.ofRecord, Table.without]
    cases hp : Pattern.parse written <;> simp [hp, Pattern.withMembers]
  simp only [ofPattern, isKeyMarker, Json.field?, hrecord]
  cases pattern (.str written) <;> rfl

/-- Two or three values read as under the keys. -/
theorem recordOrSequence_zip {a b c : String} (hab : a ≠ b) (hac : a ≠ c) (hbc : b ≠ c) {items : List Json}
    (h2 : 2 ≤ items.length) (h3 : items.length ≤ 3) :
    recordOrSequence directive [a, b, c] 2 (.arr items) =
      recordOrSequence directive [a, b, c] 2 (.obj ([a, b, c].zip items)) := by
  match items, h2, h3 with
  | [x, y], _, _ =>
    simp [recordOrSequence, checkKeys, Table.names, recordFields, hab, hac, hbc]
  | [x, y, z], _, _ =>
    simp [recordOrSequence, checkKeys, Table.names, recordFields, hab, hac, hbc]

/-! ## Other names -/

theorem optionsArg_other (other : String) {members : Table Json} {a : List (Argument V)}
    (h : optionsArg directive members = .ok a) : optionsArg other members = .ok a := by
  unfold optionsArg at h ⊢
  split at h
  · exact h
  · next options _ => cases options <;> first | exact h | cases h

theorem patternSchema_other (other : String) {members : Table Json} {a : List (Argument V)}
    (h : patternSchema nested type directive members = .ok a) : patternSchema nested type other members = .ok a := by
  unfold patternSchema at h ⊢
  split at h
  · exact h
  · next schema _ =>
    split at h
    · cases h
    · next htype =>
      rw [if_neg htype]
      unfold nestedSchema at h ⊢
      split at h
      · cases h
      · exact h

/-- A pattern is called alike under another name, but for the name. -/
theorem ofPattern_other (other : String) {value : Json} {call : Call V}
    (h : ofPattern nested type directive value = .ok call) :
    (call = ⟨"regex", []⟩ ∧ ofPattern nested type other value = .ok call) ∨
      ∃ first rest, call = ⟨directive, first :: rest⟩ ∧
        ofPattern nested type other value = .ok ⟨other, first :: rest⟩ := by
  unfold ofPattern at h ⊢
  split at h
  · next hmarker =>
    cases h
    exact .inl ⟨rfl, if_pos hmarker⟩
  · next hmarker =>
    rw [if_neg hmarker]
    split at h
    · obtain ⟨p, hp, h⟩ := bind_eq_ok.1 h
      cases h
      exact .inr ⟨.pattern p, [], rfl, by rw [hp]; rfl⟩
    · obtain ⟨p, hp, h⟩ := bind_eq_ok.1 h
      obtain ⟨schema, hschema, h⟩ := bind_eq_ok.1 h
      obtain ⟨options, hoptions, h⟩ := bind_eq_ok.1 h
      cases h
      refine .inr ⟨.pattern p, schema ++ options, rfl, ?_⟩
      simp only [hp, ok_bind, patternSchema_other other hschema, optionsArg_other other hoptions, pure_eq_ok]
    · cases h

end Call

/-! ## Logs of single directives -/

namespace Compile

variable {functions : Registry} {type : TypeTag} {name other : String} {x y : Json} {es : List (Effect Validator)}

/-- Categories whose keys do not get in each other's way. -/
def keysApart : Category → Bool
  | .unary (.limit key) => key != Reference.key
  | .optionKeyed ⟨primary, _, .key key⟩ => key != primary
  | .optionKeyed ⟨primary, _, .functionKey key⟩ => key != primary
  | _ => true

theorem keysApart_of_category {category : Category} (h : category? name = some category) :
    keysApart category = true := by
  have hall : ∀ row ∈ Grammar.directives, keysApart row.category = true := by decide +kernel
  obtain ⟨row, hrow, rfl⟩ := Option.map_eq_some_iff.1 h
  exact hall row (mem_of_lookup hrow).1

/-- The log of a directive depends on its category. -/
theorem log_of_category {category : Category} (h : category? name = some category) (x : Json) :
    log functions type name x =
      (do effects type (← Call.ofDirective (compile functions) functions type (entry category name) x)) := by
  obtain ⟨row, hrow, rfl⟩ := Option.map_eq_some_iff.1 h
  obtain ⟨-, rfl⟩ := mem_of_lookup hrow
  simp only [log, hrow]
  rfl

/-- Values that are read into the same calls record the same. -/
theorem log_of_calls {category : Category} (h : category? name = some category)
    (hcalls : Call.ofDirective (compile functions) functions type (entry category name) x =
      Call.ofDirective (compile functions) functions type (entry category name) y) (es : List (Effect Validator)) :
    log functions type name x = .ok es ↔ log functions type name y = .ok es := by
  rw [log_of_category h, log_of_category h, hcalls]

/-- A toggle that fixes a presence records it, whatever its value. -/
theorem log_presence_toggle {p : Presence} (hrow : Row name .toggle (.presence (some p))) (x : Json) :
    log functions type name x = .ok [.presence p] := by
  refine (log_of_row hrow (.ok []) rfl).2 ⟨[], _, rfl, ?_, rfl⟩
  simp only [effect, hrow.recording]
  rfl

/-- A presence that is named records it. -/
theorem log_presence_named (p : Presence) : log functions type "presence" (.str p.text) = .ok [.presence p] := by
  have hrow : Row "presence" (.unary .literal) (.presence none) := ⟨by decide, by decide⟩
  refine (log_of_row hrow (.ok [.value (.str p.text)]) rfl).2 ⟨_, _, rfl, ?_, rfl⟩
  simp only [effect, hrow.recording]
  cases p <;> rfl

/-- A sign is recorded alike by its toggle and by its name. -/
theorem log_sign (hname : name = "positive" ∨ name = "negative") (x : Json) :
    log functions type name x = .ok es ↔ log functions type "sign" (.str name) = .ok es := by
  have hrow := row_sign hname
  have hword : Row "sign" (.unary .literal) (.sign none) := ⟨by decide, by decide⟩
  have heffect (e : Effect Validator) :
      effect type name [] = .ok e ↔ effect type "sign" [.value (.str name)] = .ok e := by
    simp only [effect, hrow.recording, hword.recording, Effect.ofSign, Argument.text?, if_pos hname]
    split <;> simp
  rw [log_of_row hrow (.ok []) rfl, log_of_row hword (.ok [.value (.str name)]) rfl]
  constructor
  · rintro ⟨_, e, ⟨⟩, he, rfl⟩
    exact ⟨_, e, rfl, (heffect e).1 he, rfl⟩
  · rintro ⟨_, e, ⟨⟩, he, rfl⟩
    exact ⟨_, e, rfl, (heffect e).2 he, rfl⟩

/-- Values are recorded alike under another name. -/
theorem log_values_other {allowed : Bool} (hrow : Row name (.unary .elements) (.values allowed))
    (hother : Row other (.unary .elements) (.values allowed)) (h : log functions type name x = .ok es) :
    log functions type other x = .ok es := by
  obtain ⟨a, e, ha, he, rfl⟩ := (log_of_row hrow _ rfl).1 h
  refine (log_of_row hother (Call.ofUnary functions other .elements x) rfl).2 ⟨a, e, ha, ?_, rfl⟩
  simp only [effect, hrow.recording, hother.recording, Effect.ofValues] at he ⊢
  obtain ⟨_, hcount, he⟩ := bind_eq_ok.1 he
  obtain ⟨os, hos, he⟩ := bind_eq_ok.1 he
  obtain rfl := Effect.operands_ok hos
  have hcount' :
      Effect.checkCount other (.atLeast 1) (os.map (.ofOperand : Operand → Argument Validator)) = .ok () := by
    unfold Effect.checkCount at hcount ⊢
    split at hcount
    · next hallows => exact if_pos hallows
    · cases hcount
  rw [Effect.operands_eq] at he
  rw [hcount', ok_bind, Effect.operands_eq]
  exact he

/-- A pattern is recorded alike under its other name. -/
theorem log_pattern_other (hrow : Row name .pattern .pattern) (hother : Row other .pattern .pattern)
    (h : log functions type name x = .ok es) : log functions type other x = .ok es := by
  simp only [log, hrow.lookup, hother.lookup] at h ⊢
  obtain ⟨calls, hcalls, h⟩ := bind_eq_ok.1 h
  obtain ⟨call, hcall, rfl⟩ := map_eq_ok.1 hcalls
  replace hcall : Call.ofPattern (compile functions) type name x = .ok call := hcall
  have hof (c : Call Validator) (hc : Call.ofPattern (compile functions) type other x = .ok c) :
      Call.ofDirective (compile functions) functions type (entry .pattern other) x = .ok [c] := by
    simp only [Call.ofDirective, entry, hc, map_ok]
  rcases Call.ofPattern_other other hcall with ⟨-, hsame⟩ | ⟨first, rest, rfl, hsame⟩
  · rw [hof _ hsame]
    exact h
  · rw [hof _ hsame, ok_bind, effects_single]
    rw [effects_single] at h
    rcases Call.ofPattern_ok hcall with hkeys | ⟨p, schema, options, -, hschema, hshape⟩
    · cases hkeys
    · injection hshape with _ hargs
      have htype : ∀ v ∈ schema, type = .object := fun v hv => (hschema v hv).1
      simp only [effect, hrow.recording, hother.recording, hargs, Effect.ofPattern_eq _ _ htype] at h ⊢
      exact h

/-- Names under which a value means the same have one category and one way of recording. -/
theorem rows_of_synonyms {names : List String} (h : names ∈ Spelling.synonyms) :
    ∃ category recording, (∀ name ∈ names, Row name category recording) ∧
      (category, recording) ∈ [(.unary .elements, .values true), (.unary .elements, .values false),
        (.toggle, .presence (some .required)), (.pattern, .pattern)] := by
  have hrows {names : List String} {category : Category} {recording : Recording}
      (hall : ∀ name ∈ names, lookup name = some (entry category name) ∧ Recording.ofMethod name = recording) :
      ∀ name ∈ names, Row name category recording := fun name hn => ⟨(hall name hn).1, (hall name hn).2⟩
  simp only [Spelling.synonyms, List.mem_cons, List.not_mem_nil, or_false] at h
  rcases h with rfl | rfl | rfl | rfl
  · exact ⟨.unary .elements, .values true, hrows (by decide), by decide⟩
  · exact ⟨.unary .elements, .values false, hrows (by decide), by decide⟩
  · exact ⟨.toggle, .presence (some .required), hrows (by decide), by decide⟩
  · exact ⟨.pattern, .pattern, hrows (by decide), by decide⟩

/-- A value records the same under another name with the same meaning. -/
theorem log_synonym {names : List String} (h : names ∈ Spelling.synonyms) (hname : name ∈ names)
    (hother : other ∈ names) (hx : log functions type name x = .ok es) : log functions type other x = .ok es := by
  obtain ⟨category, recording, hrows, hmem⟩ := rows_of_synonyms h
  have hrow := hrows name hname
  have hrow' := hrows other hother
  simp only [List.mem_cons, Prod.mk.injEq, List.not_mem_nil, or_false] at hmem
  rcases hmem with ⟨rfl, rfl⟩ | ⟨rfl, rfl⟩ | ⟨rfl, rfl⟩ | ⟨rfl, rfl⟩
  · exact log_values_other hrow hrow' hx
  · exact log_values_other hrow hrow' hx
  · rw [log_presence_toggle hrow] at hx
    rw [log_presence_toggle hrow']
    exact hx
  · exact log_pattern_other hrow hrow' hx

/-- **Spellings of a directive record the same**, or are refused alike. -/
theorem log_of_spelling {a b : String × Json} (h : Spelling a b) : ∀ es : List (Effect Validator),
    log functions type a.1 a.2 = .ok es ↔ log functions type b.1 b.2 = .ok es := by
  induction h with
  | symm _ ih => exact fun es => (ih es).symm
  | trans _ _ ih ih' => exact fun es => (ih es).trans (ih' es)
  | synonym x hnames hname hother =>
    exact fun es => ⟨log_synonym hnames hname hother, log_synonym hnames hother hname⟩
  | toggle x hc => exact log_of_calls hc rfl
  | presence p x =>
    intro es
    rw [log_presence_toggle (row_presence p), log_presence_named]
  | sign x hname => exact fun es => log_sign hname x
  | single hc hlisted hx =>
    refine log_of_calls hc ?_
    have helements := Call.elements_single hx
    simp only [Spelling.listed, List.mem_cons, List.not_mem_nil, or_false] at hlisted
    rcases hlisted with rfl | rfl | rfl <;> simp only [Call.ofDirective, entry, Call.ofUnary, helements]
  | peer peer hc => exact log_of_calls hc rfl
  | peers peers hc =>
    refine log_of_calls hc ?_
    simp [Call.ofDirective, entry, Call.ofPeerGroup, Call.checkKeys, Call.peerList, Call.optionsArg, Table.names]
  | peersOptions peers options hc =>
    refine log_of_calls hc ?_
    simp [Call.ofDirective, entry, Call.ofPeerGroup, Call.checkKeys, Call.peerList, Call.optionsArg, Call.expectObject,
      Table.names]
  | limit hc hx =>
    refine log_of_calls hc ?_
    have hkey := keysApart_of_category hc
    simp only [Call.ofDirective, entry, Call.ofUnary, Call.ofLimit_bare (by simpa [keysApart] using hkey) hx]
  | @primary name layout x hc hx =>
    refine log_of_calls hc ?_
    have hapart := keysApart_of_category hc
    have hlayout : ∀ key, layout.secondary = .key key ∨ layout.secondary = .functionKey key →
        layout.primary ≠ key := by
      obtain ⟨primary, function, secondary⟩ := layout
      rintro key (rfl | rfl) heq
      · exact absurd heq.symm (by simpa [keysApart] using hapart)
      · exact absurd heq.symm (by simpa [keysApart] using hapart)
    simp only [Call.ofDirective, entry, Call.ofOptionKeyed_bare hlayout hx]
  | pattern written hc =>
    refine log_of_calls hc ?_
    simp only [Call.ofDirective, entry, Call.ofPattern_bare written]
  | unique => exact log_of_calls (show category? "unique" = some (.bespoke .unique) by decide) rfl
  | record hc h2 h3 =>
    refine log_of_calls hc ?_
    -- only two categories have keys in this order
    unfold Spelling.fields at h3 ⊢
    split at h3
    · simp only [Call.ofDirective, entry, Call.ofAssert]
      rw [Call.recordOrSequence_zip (by decide) (by decide) (by decide) h2 h3]
    · simp only [Call.ofDirective, entry]
      rw [Call.recordOrSequence_zip (by decide) (by decide) (by decide) h2 h3]
    · exact absurd (Nat.le_trans h2 h3) (by simp)

/-- Directives one of which is written another way record the same, or are refused alike. -/
theorem logs_congr {a b : String × Json} (h : Spelling a b) (after : List (String × Json)) :
    ∀ (before : List (String × Json)) (es : List (Effect Validator)),
      logs functions type (before ++ a :: after) = .ok es ↔ logs functions type (before ++ b :: after) = .ok es
  | [], es => by
    simp only [List.nil_append, logs, bind_eq_ok, log_of_spelling h]
  | e :: before, es => by
    simp only [List.cons_append, logs, bind_eq_ok, logs_congr h after before]

end Compile

/-! ## Descriptions -/

/-- A description with one directive written another way: at the node itself, at the same place, or at a node that is
reached through properties. -/
inductive Description.Respelled : Description → Description → Prop
  | directive {a b : String × Json} (type : TypeTag) (before after : List (String × Json))
      (properties : Option (List (String × Description))) : Spelling a b →
      Respelled ⟨type, before ++ a :: after, properties⟩ ⟨type, before ++ b :: after, properties⟩
  | property {c e : Description} (type : TypeTag) (directives : List (String × Json)) (name : String)
      (before after : List (String × Description)) : Respelled c e →
      Respelled ⟨type, directives, some (before ++ (name, c) :: after)⟩
        ⟨type, directives, some (before ++ (name, e) :: after)⟩

/-- Properties one of which compiles as another have the same children. -/
theorem Compile.children_congr {functions : Registry} {name : String} {c e : Description}
    (h : ∀ v, compile functions c = .ok v ↔ compile functions e = .ok v) (after : List (String × Description)) :
    ∀ {before : List (String × Description)} {children : List (String × Validator)},
      List.Forall₂ (fun p c => p.1 = c.1 ∧ compile functions p.2 = .ok c.2) (before ++ (name, c) :: after) children →
      List.Forall₂ (fun p c => p.1 = c.1 ∧ compile functions p.2 = .ok c.2) (before ++ (name, e) :: after) children
  | [], _, .cons hchild hrest => .cons ⟨hchild.1, (h _).1 hchild.2⟩ hrest
  | _ :: _, _, .cons hchild hrest => .cons hchild (Compile.children_congr h after hrest)

theorem Compile.Seeded.property {functions : Registry} {type : TypeTag} {directives : List (String × Json)}
    {name : String} {c e : Description} (h : ∀ v, compile functions c = .ok v ↔ compile functions e = .ok v)
    {before after : List (String × Description)} {cs : Option (List (String × Validator))}
    (hs : Seeded functions ⟨type, directives, some (before ++ (name, c) :: after)⟩ cs) :
    Seeded functions ⟨type, directives, some (before ++ (name, e) :: after)⟩ cs := by
  cases hs with
  | plain hne => exact .plain hne
  | bare hp => cases hp
  | object hobj hp hall =>
    cases hp
    exact .object hobj rfl (children_congr h after hall)

/-- **All spellings of a directive mean the same.** A description one directive of which is written another way, at any
node that is reached through properties, compiles to the same validator, or both are refused. -/
theorem compile_respelled {functions : Registry} {d e : Description} (h : d.Respelled e) :
    ∀ v, compile functions d = .ok v ↔ compile functions e = .ok v := by
  induction h with
  | @directive a b type before after properties hspelling =>
    intro v
    have hseed {a b : String × Json} {cs : Option (List (String × Validator))}
        (hs : Seeded functions ⟨type, before ++ a :: after, properties⟩ cs) :
        Seeded functions ⟨type, before ++ b :: after, properties⟩ cs :=
      hs.congr (d := ⟨type, before ++ a :: after, properties⟩) (e := ⟨type, before ++ b :: after, properties⟩) rfl rfl
    simp only [compile_ok_iff]
    constructor
    · rintro ⟨cs, es, hs, hes, rfl⟩
      exact ⟨cs, es, hseed hs, (logs_congr hspelling after before es).1 hes, rfl⟩
    · rintro ⟨cs, es, hs, hes, rfl⟩
      exact ⟨cs, es, hseed hs, (logs_congr hspelling after before es).2 hes, rfl⟩
  | property type directives name before after _ ih =>
    intro v
    simp only [compile_ok_iff]
    constructor
    · rintro ⟨cs, es, hs, hes, rfl⟩
      exact ⟨cs, es, hs.property ih, hes, rfl⟩
    · rintro ⟨cs, es, hs, hes, rfl⟩
      exact ⟨cs, es, hs.property fun v => (ih v).symm, hes, rfl⟩

/-- A property that has to be there may say so by naming the presence, and have its only allowed value in a list. -/
theorem compile_respelled_presence :
    ∃ v, compile [] ⟨.object, [], some [("a", ⟨.any, [("strip", .null), ("exist", .null)], none⟩)]⟩ = .ok v ∧
      compile [] ⟨.object, [], some [("a", ⟨.any, [("strip", .null), ("presence", .str "required")], none⟩)]⟩ =
        .ok v := by
  have hgroup : ["required", "exist"] ∈ Spelling.synonyms := by decide
  have hrequired : Spelling ("exist", .null) ("required", .null) := .synonym .null hgroup (by decide) (by decide)
  have hspelling : Spelling ("exist", .null) ("presence", .str "required") :=
    hrequired.trans (.presence .required .null)
  have hrespelled := Description.Respelled.property .object [] "a" [] []
    (.directive .any [("strip", .null)] [] none hspelling)
  exact ⟨_, rfl, (compile_respelled hrespelled _).1 rfl⟩

end Rulebook
