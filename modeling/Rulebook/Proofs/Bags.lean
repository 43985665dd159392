import Rulebook.Proofs.Arguments
import Rulebook.Validator.Apply

/-!
# Bags of arguments

What the methods of validators make of arguments, shape by shape. Where the shape of the arguments is known the bag
is an equation (`limitBag_eq`, `ofExample_eq`, `ofPeers_eq`, `ofPattern_eq`, `ofUnique_eq`, `ofRename_eq`);
`ofPresence_ok`, `ofSign_ok`, `ofValues_ok` and `ofPeers_ok` find the shape where the method itself looks for it.
-/

namespace Rulebook

open Fallible

variable {V : Type}

/-- The entry of a bag for options, where there are any. -/
def optionEntries (options : Option (Table Json)) : List (String × Argument V) :=
  options.toList.map fun o => ("options", .value (.obj o))

/-- The entry of a bag for a validator of matching keys, where there is one. -/
def schemaEntries (schema : Option V) : List (String × Argument V) := schema.toList.map fun v => ("schema", .schema v)

/-- The entry of a bag for a comparator, where there is one. -/
def comparatorEntries (comparator : Option NamedFunction) : List (String × Argument V) :=
  comparator.toList.map fun f => ("comparator", .function f)

/-- An argument that is an object. -/
theorem Argument.isObject_iff {a : Argument V} : a.isObject = true ↔ ∃ members, a = .value (.obj members) := by
  constructor
  · intro h
    unfold isObject at h
    split at h
    · exact ⟨_, rfl⟩
    · cases h
  · rintro ⟨members, rfl⟩
    rfl

namespace Effect

/-! ## Lists of arguments -/

/-- Operands are read off their arguments. -/
theorem operands_eq (method : String) : ∀ (os : List Operand) (index : Nat),
    operands method index (os.map (.ofOperand : Operand → Argument V)) = .ok os
  | [], _ => rfl
  | o :: os, index => by
    have hrest : operands method (index + 1) (os.map (.ofOperand : Operand → Argument V)) = .ok os :=
      operands_eq method os (index + 1)
    cases o <;> simp only [List.map_cons, Argument.ofOperand, operands, Argument.operand?] <;> rw [hrest] <;> rfl

/-- Plain values are read off their arguments. -/
theorem plainValues_eq (method : String) : ∀ (vs : List Json) (index : Nat),
    plainValues method index (vs.map (.value : Json → Argument V)) = .ok vs
  | [], _ => rfl
  | v :: vs, index => by
    rw [List.map_cons, plainValues, plainValues_eq method vs]
    rfl

/-- Peers are read off their arguments, with the options behind them. -/
theorem peerNames_eq (method : String) (options : Option (Table Json)) : ∀ (names : List String) (index : Nat),
    names ≠ [] ∨ 0 < index →
    peerNames method index (names.map (fun name => .value (.str name)) ++ optionArgs options : List (Argument V)) =
      .ok (names.map .str, options.map fun o => .value (.obj o))
  | [], index, h => by
    cases options with
    | none => rfl
    | some o =>
      have hpos : 0 < index := h.resolve_left fun hne => hne rfl
      simp [optionArgs, peerNames, Argument.isObject, hpos]
  | name :: names, index, _ => by
    have hrest := peerNames_eq method options names (index + 1) (.inr (Nat.succ_pos index))
    rw [List.map_cons, List.cons_append, peerNames, hrest]
    rfl

/-- Peers are strings, and options an object. -/
theorem peerNames_ok {method : String} : ∀ {args : List (Argument V)} {index : Nat} {peers : List Json}
    {last : Option (Argument V)}, peerNames method index args = .ok (peers, last) →
    ∃ (names : List String) (options : Option (Table Json)),
      peers = names.map .str ∧ last = options.map fun o => .value (.obj o)
  | [], _, _, _, h => by
    cases h
    exact ⟨[], none, rfl, rfl⟩
  | arg :: rest, index, peers, last, h => by
    unfold peerNames at h
    split at h
    · next name =>
      obtain ⟨⟨more, options⟩, hmore, h⟩ := bind_eq_ok.1 h
      obtain ⟨names, options, rfl, rfl⟩ := peerNames_ok hmore
      cases h
      exact ⟨name :: names, options, rfl, rfl⟩
    · split at h
      · next hlast =>
        simp only [Bool.and_eq_true] at hlast
        obtain ⟨members, rfl⟩ := Argument.isObject_iff.1 hlast.1.1
        cases h
        exact ⟨[], some members, rfl, rfl⟩
      · cases h

/-! ## Presences and values -/

/-- A presence is recorded as such. -/
theorem ofPresence_ok {method : String} {fixed : Option Presence} {args : List (Argument V)} {e : Effect V}
    (h : ofPresence method fixed args = .ok e) : ∃ p, e = .presence p := by
  unfold ofPresence at h
  split at h
  · cases h
    exact ⟨_, rfl⟩
  · cases h
  · split at h
    · cases h
      exact ⟨_, rfl⟩
    · cases h
  · cases h

/-- Allowed or refused values are some. -/
theorem ofValues_ok {method : String} {allowed : Bool} {os : List Operand} {e : Effect V}
    (h : ofValues method allowed (os.map .ofOperand) = .ok e) :
    os ≠ [] ∧ e = if allowed then .valid os else .invalid os := by
  simp only [ofValues, operands_eq] at h
  obtain ⟨_, hcount, h⟩ := bind_eq_ok.1 h
  cases h
  refine ⟨?_, rfl⟩
  rintro rfl
  cases hcount

/-! ## Rules -/

/-- Only numbers have a sign, and it is one of two. -/
theorem ofSign_ok {type : TypeTag} {method : String} {fixed : Option String} {args : List (Argument V)} {e : Effect V}
    (hf : ∀ s ∈ fixed, s = "positive" ∨ s = "negative") (h : ofSign type method fixed args = .ok e) :
    type = .number ∧ ∃ s, (s = "positive" ∨ s = "negative") ∧
      e = .rule { method := "sign", args := [("sign", .value (.str s))] } := by
  unfold ofSign at h
  split at h
  · cases h
  · next htype =>
    refine ⟨not_not.1 htype, ?_⟩
    split at h
    · cases h
      exact ⟨_, hf _ rfl, rfl⟩
    · cases h
    · split at h
      · split at h
        · next hs =>
          cases h
          exact ⟨_, hs, rfl⟩
        · cases h
      · cases h
    · cases h

/-- The bag of a limit. -/
theorem limitBag_eq (method key : String) (o : Operand) (options : Option (Table Json)) :
    limitBag method key (.ofOperand o :: optionArgs options : List (Argument V)) =
      .ok ((key, .ofOperand o) :: optionEntries options) := by
  cases o <;> cases options <;> rfl

/-- A size rule, unless numbers or dates are compared for equality. -/
theorem ofSize_eq (type : TypeTag) (method : String) (operator : Operator) (o : Operand)
    (options : Option (Table Json)) :
    ofSize type method operator (.ofOperand o :: optionArgs options : List (Argument V)) =
      if type.comparesByValue && operator == .equal then .error (.unsupported method type)
      else .ok (.rule {
        method := if type.comparesByValue then "compare" else "length"
        operator := some operator
        args := ("limit", .ofOperand o) :: optionEntries options }) := by
  have hcount : checkCount method (.between 1 2) (.ofOperand o :: optionArgs options : List (Argument V)) = .ok () := by
    cases options <;> rfl
  simp only [ofSize, hcount, ok_bind, limitBag_eq]
  rfl

/-- A rule with an example. -/
theorem ofExample_eq (method : String) (v : Json) (options : Option (Table Json)) :
    ofExample method (.value v :: optionArgs options : List (Argument V)) =
      .ok (.rule { method, args := ("example", .value v) :: optionEntries options }) := by
  cases options <;> rfl

/-- A rule about a group of peers. -/
theorem ofPeers_eq (method : String) {names : List String} (hne : names ≠ []) (options : Option (Table Json)) :
    ofPeers method (names.map (fun name => .value (.str name)) ++ optionArgs options : List (Argument V)) =
      .ok (.rule { method, args := ("peers", .value (.arr (names.map .str))) :: optionEntries options }) := by
  have hempty : (names.map Json.str).isEmpty = false := by simpa using hne
  rw [ofPeers, peerNames_eq method options names 0 (.inl hne)]
  simp only [ok_bind, hempty]
  cases options <;> rfl

/-- A rule about a group of peers has names, and options where given. -/
theorem ofPeers_ok {method : String} {args : List (Argument V)} {e : Effect V} (h : ofPeers method args = .ok e) :
    ∃ (names : List String) (options : Option (Table Json)), names ≠ [] ∧
      e = .rule { method, args := ("peers", .value (.arr (names.map .str))) :: optionEntries options } := by
  obtain ⟨⟨peers, last⟩, hpeers, h⟩ := bind_eq_ok.1 h
  obtain ⟨names, options, rfl, rfl⟩ := peerNames_ok hpeers
  simp only at h
  split at h
  · cases h
  · next hne =>
    cases h
    refine ⟨names, options, by simpa using hne, ?_⟩
    cases options <;> rfl

/-- A rule about a text, with a validator on objects only, and options. -/
theorem ofPattern_eq {type : TypeTag} (method : String) (p : Pattern) {schema : Option V}
    (hs : ∀ v ∈ schema, type = .object) (options : Option (Table Json)) :
    ofPattern type method (.pattern p :: (schemaArgs schema ++ optionArgs options)) =
      .ok (.rule {
        method := "pattern"
        args := ("regex", .pattern p) :: (schemaEntries schema ++ optionEntries options) }) := by
  cases schema with
  | none => cases options <;> rfl
  | some v =>
    rw [hs v rfl]
    cases options <;> rfl

/-- A rule about duplicates. -/
theorem ofUnique_eq (method : String) (comparator : Option NamedFunction) (options : Option (Table Json)) :
    ofUnique method (comparatorArgs comparator ++ optionArgs options : List (Argument V)) =
      .ok (.rule { method, args := comparatorEntries comparator ++ optionEntries options }) := by
  cases comparator <;> cases options <;> rfl

/-- A rule that renames a key. -/
theorem ofRename_eq (method source target : String) (options : Option (Table Json)) :
    ofRename method (.value (.str source) :: .value (.str target) :: optionArgs options : List (Argument V)) =
      .ok (.rule {
        method
        args := ("from", .value (.str source)) :: ("to", .value (.str target)) :: optionEntries options }) := by
  cases options <;> rfl

end Effect
end Rulebook
