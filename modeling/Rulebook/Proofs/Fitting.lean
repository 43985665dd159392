import Rulebook.Extract
import Rulebook.Proofs.Arguments

/-!
# Values that fit

Reading a directive rearranges its value: a pattern is put into canonical form, a member is taken out of its object, the
other members become options. A value *fits* a depth when its objects hold each name once and it nests no deeper. What
is read from a value that fits fits as well.

* `Json.fits_arr`, `Json.fits_obj`: lists and objects take one level.
* `Pattern.fits_of_ofJson`: a pattern is written no deeper than it is given.
* `Call.fits_of_directive`: the arguments of the calls of a directive fit where its value does.
* `Call.fits_of_replaceEntry`: so does a replacement, with a level to spare for its pattern and its value.
-/

namespace Rulebook

open Fallible

/-! ## Values that fit -/

namespace Json

/-- A value whose objects hold each name once, and that nests at most so deep. -/
structure Fits (n : Nat) (j : Json) : Prop where
  distinct : j.Distinct
  depth : j.depth ≤ n

variable {n : Nat}

theorem Fits.mono {m : Nat} {j : Json} (h : j.Fits n) (hnm : n ≤ m) : j.Fits m := ⟨h.distinct, Nat.le_trans h.depth hnm⟩

theorem fits_bool (b : Bool) : (bool b).Fits n := ⟨trivial, Nat.zero_le n⟩

theorem fits_str (s : String) : (str s).Fits n := ⟨trivial, Nat.zero_le n⟩

theorem fitsItems_iff : ∀ {items : List Json},
    DistinctItems items ∧ depthItems items ≤ n ↔ ∀ item ∈ items, item.Fits n
  | [] => by simp [DistinctItems, depthItems]
  | item :: rest => by
    have hrest : DistinctItems rest ∧ depthItems rest ≤ n ↔ ∀ item ∈ rest, item.Fits n := fitsItems_iff
    rw [List.forall_mem_cons, ← hrest, DistinctItems, depthItems, Nat.max_le]
    constructor
    · intro h
      exact ⟨⟨h.1.1, h.2.1⟩, h.1.2, h.2.2⟩
    · intro h
      exact ⟨⟨h.1.distinct, h.2.1⟩, h.1.depth, h.2.2⟩

theorem fitsMembers_iff : ∀ {members : List (String × Json)},
    DistinctMembers members ∧ depthMembers members ≤ n ↔ ∀ e ∈ members, e.2.Fits n
  | [] => by simp [DistinctMembers, depthMembers]
  | (name, value) :: rest => by
    have hrest : DistinctMembers rest ∧ depthMembers rest ≤ n ↔ ∀ e ∈ rest, e.2.Fits n := fitsMembers_iff
    rw [List.forall_mem_cons, ← hrest, DistinctMembers, depthMembers, Nat.max_le]
    constructor
    · intro h
      exact ⟨⟨h.1.1, h.2.1⟩, h.1.2, h.2.2⟩
    · intro h
      exact ⟨⟨h.1.distinct, h.2.1⟩, h.1.depth, h.2.2⟩

/-- A list is one level deeper than its items. -/
theorem fits_arr {items : List Json} : (arr items).Fits (n + 1) ↔ ∀ item ∈ items, item.Fits n := by
  rw [← fitsItems_iff]
  constructor
  · intro h
    exact ⟨h.distinct, Nat.le_of_succ_le_succ h.depth⟩
  · intro h
    exact ⟨h.1, Nat.succ_le_succ h.2⟩

/-- An object is one level deeper than its members. -/
theorem fits_obj {members : List (String × Json)} :
    (obj members).Fits (n + 1) ↔ Table.Distinct members ∧ ∀ e ∈ members, e.2.Fits n := by
  rw [← fitsMembers_iff]
  constructor
  · intro h
    exact ⟨h.distinct.1, h.distinct.2, Nat.le_of_succ_le_succ h.depth⟩
  · intro h
    exact ⟨⟨h.1, h.2.1⟩, Nat.succ_le_succ h.2.2⟩

/-- The members of an object that fits leave a level to it. -/
theorem Fits.members {members : List (String × Json)} (h : (obj members).Fits n) :
    ∃ m, n = m + 1 ∧ Table.Distinct members ∧ ∀ e ∈ members, e.2.Fits m := by
  cases n with
  | zero => exact absurd h.depth (Nat.not_succ_le_zero _)
  | succ m => exact ⟨m, rfl, fits_obj.1 h⟩

/-- A member fits where its object does. -/
theorem Fits.member {members : Table Json} {name : String} {value : Json} (h : (obj members).Fits n)
    (hget : Table.get? members name = some value) : value.Fits n := by
  obtain ⟨m, rfl, -, hmembers⟩ := h.members
  exact (hmembers _ (Table.mem_of_get? hget)).mono (Nat.le_succ m)

/-- An item fits where its list does. -/
theorem Fits.item {items : List Json} (h : (arr items).Fits n) : ∀ item ∈ items, item.Fits n := by
  cases n with
  | zero => exact absurd h.depth (Nat.not_succ_le_zero _)
  | succ m => exact fun item hi => (fits_arr.1 h item hi).mono (Nat.le_succ m)

/-- An object fits without some of its members. -/
theorem Fits.without {members : Table Json} (h : (obj members).Fits n) (keys : List String) :
    (obj (Table.without members keys)).Fits n := by
  obtain ⟨m, rfl, hnames, hmembers⟩ := h.members
  exact fits_obj.2 ⟨Table.distinct_without hnames keys, fun e he => hmembers e (List.mem_of_mem_filter he)⟩

end Json

/-! ## References and patterns -/

/-- A reference is written as an object of words. -/
theorem Reference.fits_toJson (r : Reference) : r.toJson.Fits 1 := by
  refine Json.fits_obj.2 ⟨?_, ?_⟩
  · cases r.isIn <;> cases r.adjust <;> simp [Table.Distinct, Table.names, key]
  · cases r.isIn <;> cases r.adjust <;> simp [Json.fits_str, Json.fits_bool]

namespace Pattern

/-- A pattern is written as a text or an object of words. -/
theorem fits_toJson (p : Pattern) : p.toJson.Fits 1 := by
  rcases p.toJson_record with ⟨hp, -⟩ | hp
  · rw [hp]
    exact Json.fits_str _
  · rw [hp]
    unfold record
    refine Json.fits_obj.2 ⟨?_, ?_⟩
    · cases p.name <;> cases p.invert <;> simp [Table.Distinct, Table.names]
    · cases p.name <;> cases p.invert <;> simp [Json.fits_str, Json.fits_bool]

/-- A text form gives neither a name nor an inversion. -/
theorem plain_of_parse {text : String} {p : Pattern} (h : parse text = .ok p) : p.name = none ∧ p.invert = false := by
  have hmake : ∀ {source flags : String}, make source flags = .ok p → p.name = none ∧ p.invert = false := by
    intro source flags hp
    obtain ⟨set, -, hp⟩ := bind_eq_ok.1 hp
    exact (compile_ok hp).2.2
  unfold parse at h
  split at h
  · exact hmake h
  · exact hmake h

/-- **A pattern is written no deeper than it is given.** -/
theorem fits_of_ofJson {n : Nat} {value : Json} {p : Pattern} (hv : value.Fits n) (h : ofJson value = .ok p) :
    p.toJson.Fits n := by
  unfold ofJson at h
  split at h
  · obtain ⟨hname, hinvert⟩ := plain_of_parse h
    simp only [toJson, hname, hinvert]
    exact Json.fits_str _
  · obtain ⟨m, rfl, -, -⟩ := hv.members
    exact p.fits_toJson.mono (Nat.le_add_left 1 m)
  · cases h

end Pattern

/-! ## Arguments -/

/-- An argument that fits where it is data. -/
def Argument.Fits {V : Type} (n : Nat) (a : Argument V) : Prop := ∀ j ∈ a.data?, j.Fits n

namespace Argument

variable {V : Type} {n : Nat}

@[simp] theorem fits_value (v : Json) : (value v : Argument V).Fits n ↔ v.Fits n := by
  simp [Fits, data?]

@[simp] theorem fits_pattern (p : Pattern) : (pattern p : Argument V).Fits n ↔ p.toJson.Fits n := by
  simp [Fits, data?]

@[simp] theorem fits_ofOperand (o : Operand) : (ofOperand o : Argument V).Fits n ↔ o.toJson.Fits n := by
  simp [Fits, Operand.data?_ofOperand]

theorem fits_function (f : NamedFunction) : (function f : Argument V).Fits n := fun _ h => by cases h

theorem fits_schema (v : V) : (schema v : Argument V).Fits n := fun _ h => by cases h

/-- A reference fits every object. -/
theorem fits_reference (r : Reference) (hn : 0 < n) : (reference r : Argument V).Fits n := by
  have hr : r.toJson.Fits n := r.fits_toJson.mono hn
  simpa [Fits, data?] using hr

end Argument

namespace Call

open Argument

variable {V : Type} {n : Nat} {nested : Description → Outcome V} {functions : Registry} {type : TypeTag}
  {directive : String} {value : Json} {args : List (Argument V)}

theorem fits_values {vs : List Json} (h : ∀ v ∈ vs, v.Fits n) :
    ∀ a ∈ vs.map (Argument.value : Json → Argument V), a.Fits n := by
  intro a ha
  obtain ⟨v, hv, rfl⟩ := List.mem_map.1 ha
  exact (fits_value v).2 (h v hv)

theorem fits_of_operand {a : Argument V} (hv : value.Fits n) (h : operand functions value = .ok a) : a.Fits n := by
  unfold operand at h
  cases ho : Operand.ofJson value with
  | error e => simp [ho] at h
  | ok o =>
    rcases Operand.ofJson_ok ho with ⟨rfl, -⟩ | ⟨written, members, r, rfl, -, rfl⟩
    · simp only [ho, Except.ok.injEq] at h
      exact h ▸ (fits_value value).2 hv
    · simp only [ho] at h
      obtain ⟨q, -, h⟩ := bind_eq_ok.1 h
      cases h
      obtain ⟨m, rfl, -, -⟩ := hv.members
      exact fits_reference q (Nat.succ_pos m)

/-- The members besides some keys fit where the object does. -/
theorem fits_of_restArg {members : Table Json} (hv : (Json.obj members).Fits n) (keys : List String) :
    ∀ a ∈ (restArg members keys : List (Argument V)), a.Fits n := by
  have hrest := hv.without keys
  unfold restArg
  split
  · exact fun a ha => absurd ha List.not_mem_nil
  · exact List.forall_mem_singleton.2 ((fits_value _).2 hrest)

/-- Options fit where the object does that holds them. -/
theorem fits_of_optionsArg {members : Table Json} (hv : (Json.obj members).Fits n)
    (h : optionsArg directive members = .ok args) : ∀ a ∈ args, a.Fits n := by
  unfold optionsArg at h
  split at h
  · cases h
    exact fun a ha => absurd ha List.not_mem_nil
  · next options hoptions =>
    obtain ⟨members, hmembers, h⟩ := bind_eq_ok.1 h
    cases h
    unfold expectObject at hmembers
    split at hmembers
    · cases hmembers
      exact List.forall_mem_singleton.2 ((fits_value _).2 (hv.member hoptions))
    · cases hmembers

/-- Patterns are written in canonical form no deeper than they are given. -/
theorem fits_of_canonicalPatterns {x : Json} (hv : value.Fits n) (h : canonicalPatterns value = .ok x) : x.Fits n := by
  have hone : ∀ {m : Nat} {item y : Json}, item.Fits m → (do return (← pattern item).toJson) = Except.ok y →
      y.Fits m := by
    intro m item y hitem hy
    obtain ⟨p, hp, hy⟩ := bind_eq_ok.1 hy
    cases hy
    exact Pattern.fits_of_ofJson hitem (mapError_eq_ok.1 hp)
  unfold canonicalPatterns at h
  split at h
  · next items =>
    obtain ⟨ys, hys, h⟩ := bind_eq_ok.1 h
    cases h
    cases n with
    | zero => exact absurd hv.depth (Nat.not_succ_le_zero _)
    | succ m =>
      refine Json.fits_arr.2 fun y hy => ?_
      obtain ⟨item, hitem, hread⟩ := mem_left_of_forall₂ (mapM_eq_ok.1 hys) hy
      exact hone (Json.fits_arr.1 hv item hitem) hread
  · exact hone hv h

theorem fits_of_config (hv : value.Fits n) (h : ofConfig directive value = .ok args) : ∀ a ∈ args, a.Fits n := by
  unfold ofConfig at h
  split at h
  · cases h
    exact fun a ha => absurd ha List.not_mem_nil
  · next members =>
    split at h
    · next scheme hscheme =>
      obtain ⟨x, hx, h⟩ := bind_eq_ok.1 h
      cases h
      obtain ⟨m, rfl, hnames, hmembers⟩ := hv.members
      have hfits : x.Fits m := fits_of_canonicalPatterns (hmembers _ (Table.mem_of_get? hscheme)) hx
      refine List.forall_mem_singleton.2 ((fits_value _).2 (Json.fits_obj.2 ⟨Table.distinct_put hnames _ _, ?_⟩))
      intro e he
      rcases Table.mem_put he with rfl | he
      · exact hfits
      · exact hmembers e he
    · cases h
      exact List.forall_mem_singleton.2 ((fits_value _).2 hv)
  · cases h
    exact List.forall_mem_singleton.2 ((fits_value _).2 hv)

theorem fits_of_limit {key : String} (hv : value.Fits n) (h : ofLimit functions directive key value = .ok args) :
    ∀ a ∈ args, a.Fits n := by
  have hsingle : (do return [← operand functions value]) = Except.ok args → ∀ a ∈ args, a.Fits n := by
    intro hx
    obtain ⟨a, ha, hx⟩ := bind_eq_ok.1 hx
    cases hx
    exact List.forall_mem_singleton.2 (fits_of_operand hv ha)
  unfold ofLimit at h
  split at h
  · split at h
    · exact hsingle h
    · split at h
      · cases h
      · next limit hlimit =>
        obtain ⟨a, ha, h⟩ := bind_eq_ok.1 h
        cases h
        exact List.forall_mem_cons.2 ⟨fits_of_operand (hv.member hlimit) ha, fits_of_restArg hv [key]⟩
  · exact hsingle h

/-- The elements of a list, or the value itself, fit where the value does. -/
theorem fits_elements (hv : value.Fits n) : ∀ x ∈ elements value, x.Fits n := by
  unfold elements
  split
  · exact hv.item
  · exact List.forall_mem_singleton.2 hv

theorem fits_of_unary {coercion : Coercion} (hv : value.Fits n)
    (h : ofUnary functions directive coercion value = .ok args) : ∀ a ∈ args, a.Fits n := by
  cases coercion with
  | literal =>
    cases h
    exact List.forall_mem_singleton.2 ((fits_value _).2 hv)
  | operand =>
    obtain ⟨a, ha, h⟩ := bind_eq_ok.1 h
    cases h
    exact List.forall_mem_singleton.2 (fits_of_operand hv ha)
  | limit key => exact fits_of_limit hv h
  | elements =>
    intro a ha
    obtain ⟨x, hx, hread⟩ := mem_left_of_forall₂ (mapM_eq_ok.1 h) ha
    exact fits_of_operand (fits_elements hv x hx) hread

/-- The name of a transform is read as no data. -/
theorem fits_of_transformArg {a : Argument V} (h : transformArg functions directive value = .ok a) : a.Fits n := by
  obtain ⟨name, -, h⟩ := bind_eq_ok.1 h
  obtain ⟨f, -, h⟩ := bind_eq_ok.1 h
  cases h
  exact fits_function f

theorem fits_of_primary {layout : OptionKey} {a : Argument V} (hv : value.Fits n)
    (h : primary functions directive layout value = .ok a) : a.Fits n := by
  unfold primary at h
  split at h
  · exact fits_of_transformArg h
  · cases h
    exact (fits_value _).2 hv

/-- The member under a key, where there is one, fits where the object does. -/
theorem fits_toList_get? {members : Table Json} (hv : (Json.obj members).Fits n) (key : String) :
    ∀ x ∈ (Table.get? members key).toList, x.Fits n := by
  intro x hx
  exact hv.member (Option.mem_toList.1 hx)

theorem fits_of_secondary {layout : OptionKey} {members : Table Json} (hv : (Json.obj members).Fits n)
    (h : secondary functions directive layout members = .ok args) : ∀ a ∈ args, a.Fits n := by
  unfold secondary at h
  split at h
  · cases h
    exact fits_of_restArg hv _
  · obtain ⟨-, -, h⟩ := bind_eq_ok.1 h
    cases h
    exact fits_values (fits_toList_get? hv _)
  · obtain ⟨-, -, h⟩ := bind_eq_ok.1 h
    intro a ha
    obtain ⟨x, -, hx⟩ := mem_left_of_forall₂ (mapM_eq_ok.1 h) ha
    exact fits_of_transformArg hx

theorem fits_of_optionKeyed {layout : OptionKey} (hv : value.Fits n)
    (h : ofOptionKeyed functions directive layout value = .ok args) : ∀ a ∈ args, a.Fits n := by
  unfold ofOptionKeyed at h
  split at h
  · next field members hfield =>
    obtain ⟨first, hfirst, h⟩ := bind_eq_ok.1 h
    obtain ⟨more, hmore, h⟩ := bind_eq_ok.1 h
    cases h
    exact List.forall_mem_cons.2 ⟨fits_of_primary (hv.member hfield) hfirst, fits_of_secondary hv hmore⟩
  · obtain ⟨first, hfirst, h⟩ := bind_eq_ok.1 h
    cases h
    exact List.forall_mem_singleton.2 (fits_of_primary hv hfirst)

/-- Listed peers fit where the object does that holds them. -/
theorem fits_of_peerList {members : Table Json} {peers : List Json} (hv : (Json.obj members).Fits n)
    (h : peerList directive members = .ok peers) : ∀ peer ∈ peers, peer.Fits n := by
  unfold peerList at h
  split at h
  · next hpeers =>
    cases h
    exact (hv.member hpeers).item
  · cases h
    exact List.forall_mem_singleton.2 (Json.fits_str _)
  · cases h

theorem fits_of_peerGroup (hv : value.Fits n) (h : ofPeerGroup directive value = .ok args) : ∀ a ∈ args, a.Fits n := by
  unfold ofPeerGroup at h
  split at h
  · cases h
    exact fits_values hv.item
  · cases h
    exact List.forall_mem_singleton.2 ((fits_value _).2 hv)
  · obtain ⟨-, -, h⟩ := bind_eq_ok.1 h
    obtain ⟨peers, hpeers, h⟩ := bind_eq_ok.1 h
    obtain ⟨more, hmore, h⟩ := bind_eq_ok.1 h
    cases h
    exact List.forall_mem_append.2 ⟨fits_values (fits_of_peerList hv hpeers), fits_of_optionsArg hv hmore⟩
  · cases h

/-- A nested description is read as no data. -/
theorem fits_of_nestedSchema {a : Argument V} (h : nestedSchema nested directive value = .ok a) : a.Fits n := by
  unfold nestedSchema at h
  split at h
  · cases h
  · obtain ⟨v, -, h⟩ := bind_eq_ok.1 h
    cases h
    exact fits_schema v

theorem fits_of_patternSchema {members : Table Json}
    (h : patternSchema nested type directive members = .ok args) : ∀ a ∈ args, a.Fits n := by
  unfold patternSchema at h
  split at h
  · cases h
    exact fun a ha => absurd ha List.not_mem_nil
  · split at h
    · cases h
    · obtain ⟨a, ha, h⟩ := bind_eq_ok.1 h
      cases h
      exact List.forall_mem_singleton.2 (fits_of_nestedSchema ha)

theorem fits_of_pattern {call : Call V} (hv : value.Fits n) (h : ofPattern nested type directive value = .ok call) :
    ∀ a ∈ call.args, a.Fits n := by
  unfold ofPattern at h
  split at h
  · cases h
    exact fun a ha => absurd ha List.not_mem_nil
  · split at h
    · obtain ⟨p, hp, h⟩ := bind_eq_ok.1 h
      cases h
      exact List.forall_mem_singleton.2 ((fits_pattern p).2 (Pattern.fits_of_ofJson hv (mapError_eq_ok.1 hp)))
    · obtain ⟨p, hp, h⟩ := bind_eq_ok.1 h
      obtain ⟨schema, hschema, h⟩ := bind_eq_ok.1 h
      obtain ⟨options, hoptions, h⟩ := bind_eq_ok.1 h
      cases h
      have hfirst : p.toJson.Fits n := Pattern.fits_of_ofJson (hv.without _) (mapError_eq_ok.1 hp)
      refine List.forall_mem_cons.2 ⟨(fits_pattern p).2 hfirst, List.forall_mem_append.2 ⟨?_, ?_⟩⟩
      · exact fits_of_patternSchema hschema
      · exact fits_of_optionsArg hv hoptions
    · cases h

theorem fits_of_unique (hv : value.Fits n) (h : ofUnique functions directive value = .ok args) :
    ∀ a ∈ args, a.Fits n := by
  unfold ofUnique at h
  split at h
  · cases h
    exact fun a ha => absurd ha List.not_mem_nil
  · obtain ⟨-, -, h⟩ := bind_eq_ok.1 h
    obtain ⟨first, hfirst, h⟩ := bind_eq_ok.1 h
    obtain ⟨options, hoptions, h⟩ := bind_eq_ok.1 h
    cases h
    refine List.forall_mem_append.2 ⟨?_, fits_of_optionsArg hv hoptions⟩
    unfold comparatorArg at hfirst
    split at hfirst
    · cases hfirst
      exact fun a ha => absurd ha List.not_mem_nil
    · obtain ⟨name, -, hfirst⟩ := bind_eq_ok.1 hfirst
      obtain ⟨f, -, hfirst⟩ := bind_eq_ok.1 hfirst
      cases hfirst
      exact List.forall_mem_singleton.2 (fits_function f)
  · cases h

theorem fits_of_rename (hv : value.Fits n) (h : ofRename directive value = .ok args) : ∀ a ∈ args, a.Fits n := by
  cases value with
  | obj members =>
    obtain ⟨_, ⟨⟩, h⟩ := bind_eq_ok.1 h
    obtain ⟨s, hs, h⟩ := bind_eq_ok.1 h
    obtain ⟨t, ht, h⟩ := bind_eq_ok.1 h
    cases h
    obtain ⟨source, rfl⟩ := stringArg_ok hs
    obtain ⟨target, rfl⟩ := stringArg_ok ht
    refine List.forall_mem_cons.2 ⟨(fits_value _).2 (Json.fits_str _), List.forall_mem_cons.2 ⟨?_, ?_⟩⟩
    · exact (fits_value _).2 (Json.fits_str _)
    · exact fits_of_restArg hv _
  | _ => cases h

/-- The members under keys fit where the object does. -/
theorem fits_of_recordFields {members : Table Json} (hv : (Json.obj members).Fits n) : ∀ {keys : List String}
    {required : Nat} {fields : List Json}, recordFields directive members required keys = .ok fields →
    ∀ x ∈ fields, x.Fits n
  | [], _, _, h => by
    cases h
    exact fun x hx => absurd hx List.not_mem_nil
  | key :: keys, required, fields, h => by
    unfold recordFields at h
    split at h
    · next field hfield =>
      obtain ⟨more, hmore, h⟩ := bind_eq_ok.1 h
      cases h
      exact List.forall_mem_cons.2 ⟨hv.member hfield, fits_of_recordFields hv hmore⟩
    · cases h
      exact fun x hx => absurd hx List.not_mem_nil
    · cases h

/-- The values of a record or a list fit where it does, and leave a level to it. -/
theorem fits_of_recordOrSequence {keys : List String} {required : Nat} {fields : List Json} (hv : value.Fits n)
    (h : recordOrSequence directive keys required value = .ok fields) : 0 < n ∧ ∀ x ∈ fields, x.Fits n := by
  unfold recordOrSequence at h
  split at h
  · split at h
    · cases h
    · cases h
      exact ⟨Nat.lt_of_lt_of_le (Nat.succ_pos _) hv.depth, hv.item⟩
  · obtain ⟨-, -, h⟩ := bind_eq_ok.1 h
    exact ⟨Nat.lt_of_lt_of_le (Nat.succ_pos _) hv.depth, fits_of_recordFields hv h⟩
  · cases h

theorem fits_of_assert (hv : value.Fits n) (h : ofAssert functions directive value = .ok args) :
    ∀ a ∈ args, a.Fits n := by
  obtain ⟨fields, hfields, h⟩ := bind_eq_ok.1 h
  obtain ⟨hpos, hfits⟩ := fits_of_recordOrSequence hv hfields
  split at h
  · obtain ⟨r, -, h⟩ := bind_eq_ok.1 h
    cases h
    exact List.forall_mem_cons.2 ⟨fits_reference r hpos, fits_values (List.forall_mem_cons.1 hfits).2⟩
  · cases h
    exact fun a ha => absurd ha List.not_mem_nil

theorem fits_of_condition (hv : value.Fits n) (h : ofCondition nested functions directive value = .ok args) :
    ∀ a ∈ args, a.Fits n := by
  cases value with
  | obj members =>
    obtain ⟨_, ⟨⟩, h⟩ := bind_eq_ok.1 h
    obtain ⟨condition, hcondition, h⟩ := bind_eq_ok.1 h
    cases h
    refine List.forall_mem_cons.2 ⟨?_, List.forall_mem_singleton.2 ((fits_value _).2 (hv.without _))⟩
    unfold conditionArg at hcondition
    split at hcondition
    · obtain ⟨r, -, hcondition⟩ := bind_eq_ok.1 hcondition
      cases hcondition
      exact fits_reference r (Nat.lt_of_lt_of_le (Nat.succ_pos _) hv.depth)
    · exact fits_of_nestedSchema hcondition
    · cases hcondition
    · cases hcondition
  | _ => cases h

/-- An entry of a replacement list is a call with a pattern and a value, which are written no deeper than the entry. -/
theorem fits_of_replaceEntry {call : Call V} (hv : value.Fits n) (h : ofReplaceEntry directive value = .ok call) :
    ∃ r : Replacement, r.toJson.Fits n ∧ call = ⟨directive, [.pattern r.pattern, .value r.replacement]⟩ := by
  cases value with
  | obj members =>
    obtain ⟨_, ⟨⟩, h⟩ := bind_eq_ok.1 h
    obtain ⟨-, -, h⟩ := bind_eq_ok.1 h
    obtain ⟨m, rfl, -, hmembers⟩ := hv.members
    split at h
    · next find replacement hfind hreplacement =>
      obtain ⟨p, hp, h⟩ := bind_eq_ok.1 h
      cases h
      have hpattern : p.toJson.Fits m :=
        Pattern.fits_of_ofJson (hmembers _ (Table.mem_of_get? hfind)) (mapError_eq_ok.1 hp)
      have hvalue : replacement.Fits m := hmembers _ (Table.mem_of_get? hreplacement)
      refine ⟨⟨p, replacement⟩, Json.fits_obj.2 ⟨by simp [Table.Distinct], ?_⟩, rfl⟩
      simpa using ⟨hpattern, hvalue⟩
    · cases h
  | _ => cases h

/-- **The arguments of the calls of a directive** fit where its value does. -/
theorem fits_of_directive {row : Directive} {calls : List (Call V)} (hrow : row.category ≠ .bespoke .replace)
    (hv : value.Fits n) (h : ofDirective nested functions type row value = .ok calls) :
    ∀ call ∈ calls, ∀ a ∈ call.args, a.Fits n := by
  have hone : ∀ {outcome : Outcome (List (Argument V))},
      (outcome.map fun args => [(⟨row.name, args⟩ : Call V)]) = .ok calls →
      (∀ args, outcome = .ok args → ∀ a ∈ args, a.Fits n) → ∀ call ∈ calls, ∀ a ∈ call.args, a.Fits n := by
    intro outcome hcalls hfits call hcall
    obtain ⟨args, hargs, rfl⟩ := map_eq_ok.1 hcalls
    cases List.mem_singleton.1 hcall
    exact hfits args hargs
  obtain ⟨name, category, reversible⟩ := row
  cases category with
  | toggle =>
    refine @hone (.ok []) h fun args hargs => ?_
    cases hargs
    exact fun a ha => absurd ha List.not_mem_nil
  | optionalConfig => exact hone h fun _ hargs => fits_of_config hv hargs
  | unary coercion => exact hone h fun _ hargs => fits_of_unary hv hargs
  | optionKeyed layout => exact hone h fun _ hargs => fits_of_optionKeyed hv hargs
  | spread =>
    refine @hone (.ok ((elements value).map .value)) h fun args hargs => ?_
    cases hargs
    exact fits_values (fits_elements hv)
  | peerGroup => exact hone h fun _ hargs => fits_of_peerGroup hv hargs
  | pattern =>
    obtain ⟨call, hcall, rfl⟩ := map_eq_ok.1 h
    exact List.forall_mem_singleton.2 (fits_of_pattern hv hcall)
  | bespoke shape =>
    cases shape with
    | unique => exact hone h fun _ hargs => fits_of_unique hv hargs
    | rename => exact hone h fun _ hargs => fits_of_rename hv hargs
    | replace => exact absurd rfl hrow
    | assert => exact hone h fun _ hargs => fits_of_assert hv hargs
    | keyPeers =>
      refine hone h fun args hargs => ?_
      obtain ⟨fields, hfields, rfl⟩ := map_eq_ok.1 hargs
      exact fits_values (fits_of_recordOrSequence hv hfields).2
    | condition => exact hone h fun _ hargs => fits_of_condition hv hargs

end Call

end Rulebook
