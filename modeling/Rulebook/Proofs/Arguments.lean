import Rulebook.Proofs.Pattern
import Rulebook.Proofs.Reference

/-!
# Shapes of arguments

What the values of directives are read into, shape by shape: `ofConfig_ok`, `ofLimit_ok`, `ofSample_ok`,
`ofPattern_ok`, `ofUnique_ok`, `ofRename_ok` and `ofReplaceEntry_ok` invert the reading, and keep what the compiler
has checked on the way. Options are an optional object (`optionArgs`), and the members that are read as options stand
beside the keys of the directive (`Table.Beside`).
-/

namespace Rulebook

open Fallible

variable {V : Type}

/-! ## Options -/

/-- Members of an object beside some keys: there are some, each name once, and none is one of the keys. -/
structure Table.Beside (keys : List String) (rest : Table Json) : Prop where
  nonempty : rest ≠ []
  distinct : rest.Distinct
  apart : ∀ key ∈ keys, key ∉ Table.names rest

/-- The argument for options, where there are any. -/
def optionArgs (options : Option (Table Json)) : List (Argument V) := options.toList.map fun o => .value (.obj o)

/-- The argument for a validator of matching keys, where there is one. -/
def schemaArgs (schema : Option V) : List (Argument V) := schema.toList.map .schema

/-- The argument for a comparator, where there is one. -/
def comparatorArgs (comparator : Option NamedFunction) : List (Argument V) := comparator.toList.map .function

namespace Call

/-- The members besides some keys are left out or are options. -/
theorem restArg_cases (members : Table Json) (keys : List String) :
    ∃ options : Option (Table Json), (restArg members keys : List (Argument V)) = optionArgs options ∧
      (members.Distinct → ∀ rest ∈ options,
        Table.Beside keys rest ∧ ∀ name ∈ Table.names rest, name ∈ Table.names members) := by
  unfold restArg
  split
  · exact ⟨none, rfl, fun _ _ h => by cases h⟩
  · next hne =>
    refine ⟨some (Table.without members keys), rfl, fun hd rest hr => ?_⟩
    cases hr
    exact ⟨⟨hne, Table.distinct_without hd keys, fun key hk hm => (Table.mem_names_without.1 hm).2 hk⟩,
      fun name hm => (Table.mem_names_without.1 hm).1⟩

/-- Members beside some keys, behind entries under these keys, are options. -/
theorem restArg_append {keys : List String} {front rest : Table Json} (hr : Table.Beside keys rest)
    (hf : ∀ name ∈ Table.names front, name ∈ keys) :
    (restArg (front ++ rest) keys : List (Argument V)) = [.value (.obj rest)] := by
  have hwithout : Table.without (front ++ rest) keys = rest := by
    have hfront : Table.without front keys = [] :=
      List.filter_eq_nil_iff.2 fun e he => by simpa using hf e.1 (Table.mem_names he)
    rw [Table.without, List.filter_append]
    exact (congrArg (· ++ _) hfront).trans (Table.without_eq_self hr.apart)
  rw [restArg, hwithout]
  split
  · next heq => exact absurd rfl hr.nonempty
  · rfl

/-- An options member is left out or an object. -/
theorem optionsArg_ok {directive : String} {members : Table Json} {a : List (Argument V)}
    (h : optionsArg directive members = .ok a) : ∃ options : Option (Table Json), a = optionArgs options := by
  unfold optionsArg at h
  split at h
  · cases h
    exact ⟨none, rfl⟩
  · obtain ⟨options, -, h⟩ := bind_eq_ok.1 h
    cases h
    exact ⟨some options, rfl⟩

end Call

/-! ## Canonical configuration values -/

/-- A pattern as it is written in a description. -/
def Pattern.Written (value : Json) : Prop := ∃ p : Pattern, p.Regular ∧ value = p.toJson

/-- A value that optional configuration keeps as it is: not `true`, and the scheme of `uri` is written as a pattern
or a list of patterns. -/
structure Call.Config (directive : String) (value : Json) : Prop where
  given : value ≠ .bool true
  scheme : ∀ members scheme, directive = "uri" → value = .obj members → Table.get? members "scheme" = some scheme →
    Pattern.Written scheme ∨ ∃ items, scheme = .arr items ∧ ∀ item ∈ items, Pattern.Written item

namespace Call

variable {functions : Registry}

/-- The canonical form of patterns is written as patterns, and is its own canonical form. -/
theorem canonicalPatterns_ok {value x : Json} (h : canonicalPatterns value = .ok x) :
    Pattern.Written x ∨ ∃ items, x = .arr items ∧ ∀ item ∈ items, Pattern.Written item := by
  have hwritten : ∀ {y : Json} {p : Pattern}, pattern y = .ok p → Pattern.Written p.toJson := fun hp =>
    ⟨_, Pattern.regular_of_ofJson (mapError_eq_ok.1 hp), rfl⟩
  unfold canonicalPatterns at h
  split at h
  · obtain ⟨items, hitems, h⟩ := bind_eq_ok.1 h
    cases h
    refine .inr ⟨items, rfl, fun item hmem => ?_⟩
    obtain ⟨y, -, hy⟩ := mem_left_of_forall₂ (mapM_eq_ok.1 hitems) hmem
    obtain ⟨p, hp, hy⟩ := bind_eq_ok.1 hy
    cases hy
    exact hwritten hp
  · obtain ⟨p, hp, h⟩ := bind_eq_ok.1 h
    cases h
    exact .inl (hwritten hp)

/-- A written pattern is its own canonical form. -/
theorem pattern_written {x : Json} (h : Pattern.Written x) :
    (do return (← pattern x).toJson : Outcome Json) = .ok x := by
  obtain ⟨p, hp, rfl⟩ := h
  rw [pattern, Pattern.ofJson_toJson hp]
  rfl

/-- Written patterns are their own canonical form. -/
theorem canonicalPatterns_self {x : Json}
    (h : Pattern.Written x ∨ ∃ items, x = .arr items ∧ ∀ item ∈ items, Pattern.Written item) :
    canonicalPatterns x = .ok x := by
  rcases h with h | ⟨items, rfl, h⟩
  · have hself := pattern_written h
    obtain ⟨p, -, rfl⟩ := h
    -- a pattern is written as a text or a record, never as a list
    rcases p.toJson_record with ⟨hp, -⟩ | hp
    · rw [hp] at hself ⊢
      exact hself
    · rw [hp] at hself ⊢
      exact hself
  · have hall : (items.mapM fun item => (do return (← pattern item).toJson : Outcome Json)) = .ok items := by
      simpa using mapM_map_ok (g := id) (h := id) fun item hi => pattern_written (h item hi)
    rw [canonicalPatterns, hall]
    rfl

/-- Configuration is left out, or gives one value that it keeps as it is. -/
theorem ofConfig_ok {directive : String} {value : Json} {a : List (Argument V)}
    (h : ofConfig directive value = .ok a) : a = [] ∨ ∃ v, a = [.value v] ∧ Config directive v := by
  unfold ofConfig at h
  split at h
  · cases h
    exact .inl rfl
  · split at h
    · next members scheme hscheme =>
      obtain ⟨x, hx, h⟩ := bind_eq_ok.1 h
      cases h
      refine .inr ⟨_, rfl, by simp, fun others other _ ho hget => ?_⟩
      injection ho with ho
      subst ho
      rw [Table.get?_put, if_pos rfl] at hget
      cases hget
      exact canonicalPatterns_ok hx
    · next members hno =>
      cases h
      refine .inr ⟨_, rfl, by simp, fun others other hd ho hget => ?_⟩
      injection ho with ho
      subst ho
      exact absurd hget (hno other hd)
  · next hne hno =>
    cases h
    exact .inr ⟨_, rfl, hne, fun others _ _ ho => absurd ho (hno others)⟩

/-! ## Operands and limits -/

/-- A list of operands is read into resolved ones. -/
theorem mapM_operand_ok {values : List Json} {a : List (Argument V)} (h : values.mapM (operand functions) = .ok a) :
    ∃ os : List Operand, a = os.map .ofOperand ∧ ∀ o ∈ os, o.Resolved functions := by
  have hall := mapM_eq_ok.1 h
  clear h
  induction hall with
  | nil => exact ⟨[], rfl, fun _ ho => absurd ho List.not_mem_nil⟩
  | cons hb _ ih =>
    obtain ⟨o, rfl, ho, -⟩ := Operand.resolved_of_operand hb
    obtain ⟨os, rfl, hos⟩ := ih
    exact ⟨o :: os, rfl, List.forall_mem_cons.2 ⟨ho, hos⟩⟩

/-- A limit is a resolved operand, with the further members of its object as options. -/
theorem ofLimit_ok {directive key : String} {value : Json} {a : List (Argument V)}
    (h : ofLimit functions directive key value = .ok a) :
    ∃ (o : Operand) (options : Option (Table Json)), o.Resolved functions ∧ a = .ofOperand o :: optionArgs options ∧
      (value.Distinct → o.Distinct ∧ ∀ rest ∈ options, Table.Beside [Reference.key, key] rest) := by
  have hsingle : (do return [← operand functions value] : Outcome (List (Argument V))) = .ok a →
      ∃ (o : Operand) (options : Option (Table Json)), o.Resolved functions ∧
        a = .ofOperand o :: optionArgs options ∧
        (value.Distinct → o.Distinct ∧ ∀ rest ∈ options, Table.Beside [Reference.key, key] rest) := by
    intro hx
    obtain ⟨b, hb, hx⟩ := bind_eq_ok.1 hx
    obtain ⟨o, rfl, ho, hod⟩ := Operand.resolved_of_operand hb
    cases hx
    exact ⟨o, none, ho, rfl, fun hd => ⟨hod hd, fun _ hn => by cases hn⟩⟩
  unfold ofLimit at h
  split at h
  · next members =>
    split at h
    · exact hsingle h
    · next href =>
      split at h
      · cases h
      · next limit hlimit =>
        obtain ⟨b, hb, h⟩ := bind_eq_ok.1 h
        obtain ⟨o, rfl, ho, hod⟩ := Operand.resolved_of_operand hb
        obtain ⟨options, hargs, hopt⟩ := restArg_cases (V := V) members [key]
        cases h
        refine ⟨o, options, ho, by rw [hargs], fun hd => ⟨hod ?_, fun rest hr => ?_⟩⟩
        · exact Json.distinct_of_mem hd.2 (Table.mem_of_get? hlimit)
        · obtain ⟨hbeside, hsub⟩ := hopt hd.1 rest hr
          have hnoref : Reference.key ∉ Table.names rest := fun hm =>
            href ((Table.has_iff_mem _ _).2 (hsub _ hm))
          exact ⟨hbeside.nonempty, hbeside.distinct, List.forall_mem_cons.2 ⟨hnoref, hbeside.apart⟩⟩
  · exact hsingle h

/-! ## Samples -/

/-- A sample is a value, with the further members of its object as options. -/
theorem ofSample_ok {directive : String} {value : Json} {a : List (Argument V)}
    (h : ofOptionKeyed functions directive ⟨"example", false, .options⟩ value = .ok a) :
    ∃ (v : Json) (options : Option (Table Json)), a = .value v :: optionArgs options ∧
      (value.Distinct → v.Distinct ∧ ∀ rest ∈ options, Table.Beside ["example"] rest) := by
  unfold ofOptionKeyed at h
  split at h
  · next field members hfield =>
    obtain ⟨options, hargs, hopt⟩ := restArg_cases (V := V) members ["example"]
    cases h
    refine ⟨field, options, by rw [hargs], fun hd => ⟨?_, fun rest hr => (hopt hd.1 rest hr).1⟩⟩
    exact Json.distinct_of_mem hd.2 (Table.mem_of_get? hfield)
  · cases h
    exact ⟨_, none, rfl, fun hd => ⟨hd, fun _ hn => by cases hn⟩⟩

/-! ## Patterns -/

/-- A pattern speaks of the keys of an object, or is a regular pattern with a nested validator and options besides. -/
theorem ofPattern_ok {nested : Description → Outcome V} {type : TypeTag} {directive : String} {value : Json}
    {call : Call V} (h : ofPattern nested type directive value = .ok call) : call = ⟨"regex", []⟩ ∨
      ∃ (p : Pattern) (schema : Option V) (options : Option (Table Json)), p.Regular ∧
        (∀ v ∈ schema, type = .object ∧ ∃ d, nested d = .ok v) ∧
        call = ⟨directive, .pattern p :: (schemaArgs schema ++ optionArgs options)⟩ := by
  unfold ofPattern at h
  split at h
  · cases h
    exact .inl rfl
  · split at h
    · obtain ⟨p, hp, h⟩ := bind_eq_ok.1 h
      cases h
      exact .inr ⟨p, none, none, Pattern.regular_of_ofJson (mapError_eq_ok.1 hp), fun _ hn => (by cases hn), rfl⟩
    · next members =>
      obtain ⟨p, hp, h⟩ := bind_eq_ok.1 h
      obtain ⟨schemas, hschema, h⟩ := bind_eq_ok.1 h
      obtain ⟨options, hoptions, h⟩ := bind_eq_ok.1 h
      cases h
      obtain ⟨options, rfl⟩ := optionsArg_ok hoptions
      have hreg := Pattern.regular_of_ofJson (mapError_eq_ok.1 hp)
      unfold patternSchema at hschema
      split at hschema
      · cases hschema
        exact .inr ⟨p, none, options, hreg, fun _ hn => (by cases hn), rfl⟩
      · split at hschema
        · cases hschema
        · next htype =>
          obtain ⟨arg, harg, hschema⟩ := bind_eq_ok.1 hschema
          cases hschema
          unfold nestedSchema at harg
          split at harg
          · cases harg
          · next d _ =>
            obtain ⟨v, hv, harg⟩ := bind_eq_ok.1 harg
            cases harg
            exact .inr ⟨p, some v, options, hreg, fun w hw => ⟨not_not.1 htype, d, Option.some.inj hw ▸ hv⟩, rfl⟩
    · cases h

/-! ## Duplicates, renamings and replacements -/

/-- A rule about duplicates has a registered comparator and options, each where given. -/
theorem ofUnique_ok {directive : String} {value : Json} {a : List (Argument V)}
    (h : ofUnique functions directive value = .ok a) :
    ∃ (comparator : Option NamedFunction) (options : Option (Table Json)),
      (∀ f ∈ comparator, functions.comparator f.name = .ok f) ∧ a = comparatorArgs comparator ++ optionArgs options := by
  unfold ofUnique at h
  split at h
  · cases h
    exact ⟨none, none, fun _ hn => (by cases hn), rfl⟩
  · obtain ⟨-, -, h⟩ := bind_eq_ok.1 h
    obtain ⟨first, hfirst, h⟩ := bind_eq_ok.1 h
    obtain ⟨options, hoptions, h⟩ := bind_eq_ok.1 h
    cases h
    obtain ⟨options, rfl⟩ := optionsArg_ok hoptions
    unfold comparatorArg at hfirst
    split at hfirst
    · cases hfirst
      exact ⟨none, options, fun _ hn => (by cases hn), rfl⟩
    · obtain ⟨name, -, hfirst⟩ := bind_eq_ok.1 hfirst
      obtain ⟨f, hf, hfirst⟩ := bind_eq_ok.1 hfirst
      cases hfirst
      replace hf : functions.comparator name = .ok f := mapError_eq_ok.1 hf
      refine ⟨some f, options, fun g hg => ?_, rfl⟩
      cases hg
      rw [Registry.name_of_resolve hf, hf]
  · cases h

/-- A string member is an argument. -/
theorem stringArg_ok {directive key : String} {members : Table Json} {a : Argument V}
    (h : stringArg directive key members = .ok a) : ∃ s, a = .value (.str s) := by
  unfold stringArg at h
  split at h
  · cases h
    exact ⟨_, rfl⟩
  · cases h
  · cases h

/-- A renaming has two names, with the further members of its object as options. -/
theorem ofRename_ok {directive : String} {value : Json} {a : List (Argument V)}
    (h : ofRename directive value = .ok a) :
    ∃ (source target : String) (options : Option (Table Json)),
      a = .value (.str source) :: .value (.str target) :: optionArgs options ∧
      (value.Distinct → ∀ rest ∈ options, Table.Beside ["from", "to"] rest) := by
  cases value with
  | obj members =>
    obtain ⟨_, ⟨⟩, h⟩ := bind_eq_ok.1 h
    obtain ⟨s, hs, h⟩ := bind_eq_ok.1 h
    obtain ⟨t, ht, h⟩ := bind_eq_ok.1 h
    obtain ⟨source, rfl⟩ := stringArg_ok hs
    obtain ⟨target, rfl⟩ := stringArg_ok ht
    obtain ⟨options, hargs, hopt⟩ := restArg_cases (V := V) members ["from", "to"]
    cases h
    exact ⟨source, target, options, by rw [hargs], fun hd rest hr => (hopt hd.1 rest hr).1⟩
  | _ => cases h

/-- A replacement has a regular pattern and a value. -/
theorem ofReplaceEntry_ok {directive : String} {entry : Json} {call : Call V}
    (h : ofReplaceEntry directive entry = .ok call) :
    ∃ r : Replacement, r.pattern.Regular ∧ call = ⟨directive, [.pattern r.pattern, .value r.replacement]⟩ := by
  obtain ⟨members, -, h⟩ := bind_eq_ok.1 h
  obtain ⟨-, -, h⟩ := bind_eq_ok.1 h
  split at h
  · next replacement _ _ =>
    obtain ⟨p, hp, h⟩ := bind_eq_ok.1 h
    cases h
    exact ⟨⟨p, replacement⟩, Pattern.regular_of_ofJson (mapError_eq_ok.1 hp), rfl⟩
  · cases h

end Call
end Rulebook
