import Rulebook.Compile.Call
import Rulebook.Proofs.Distinct
import Rulebook.Proofs.Fallible
import Rulebook.Proofs.Notation

/-!
# References are read back as they are written

* **Options** (`ofMembers_toJson`): the members of a written reference are read back as its options. Each member is a
  step (`Sets`, `withOptions_iff`), and those of different names commute (`Sets.comm`).
* **Operands** (`operand_toJson`): an operand that is resolved — a literal that is no reference object, or a
  representable reference that carries the registered transform of its adjust name — is read back from its form in a
  description, and reading yields no other operands (`resolved_of_operand`).
-/

namespace Rulebook

open Fallible

namespace Reference

/-! ## Options of a reference -/

/-- A representable reference that carries the registered transform of its adjust name, if it has one. -/
structure Resolved (functions : Registry) (r : Reference) : Prop where
  representable : Representable r.target r.path
  adjusted : (r.adjust = none ∧ r.adjuster = none) ∨
    ∃ f : NamedFunction, f.name ≠ "" ∧ functions.transform f.name = .ok f ∧ r.adjust = some f.name ∧
      r.adjuster = some f

/-- What a member of a reference object does to the reference. -/
inductive Sets : Reference → String × Json → Reference → Prop
  | key (r : Reference) (value : Json) : Sets r (Reference.key, value) r
  | flag (r : Reference) (flag : Bool) : Sets r ("in", .bool flag) { r with isIn := flag }
  | adjust (r : Reference) {name : String} : name ≠ "" → Sets r ("adjust", .str name) { r with adjust := some name }

/-- The members besides the notation are applied one after another. -/
theorem withOptions_iff : ∀ {members : List (String × Json)} {r s : Reference},
    withOptions r members = .ok s ↔ Runs Sets r members s
  | [], r, s => by
    constructor
    · rintro ⟨⟩
      exact .nil r
    · rintro ⟨⟩
      rfl
  | (name, value) :: rest, r, s => by
    constructor
    · intro h
      unfold withOptions at h
      split at h
      · next hkey => exact hkey ▸ .cons (.key r value) (withOptions_iff.1 h)
      · split at h
        · next flag _ => exact .cons (.flag r flag) (withOptions_iff.1 h)
        · split at h
          · cases h
          · next hne => exact .cons (.adjust r hne) (withOptions_iff.1 h)
        · cases h
    · rintro (_ | ⟨hset, hrest⟩)
      have hread := withOptions_iff.2 hrest
      cases hset with
      | key =>
        unfold withOptions
        rwa [if_pos rfl]
      | flag => rwa [withOptions, if_neg (by decide)]
      | adjust hne => rwa [withOptions, if_neg (by decide), if_neg hne]

/-- Members of different names set different things. -/
theorem Sets.comm {r s t : Reference} {x y : String × Json} (hne : x.1 ≠ y.1) (hx : Sets r x s) (hy : Sets s y t) :
    ∃ u, Sets r y u ∧ Sets u x t := by
  cases hx with
  | key value => exact ⟨t, hy, .key t value⟩
  | flag flag =>
    cases hy with
    | key value => exact ⟨r, .key r value, .flag r flag⟩
    | flag => exact absurd rfl hne
    | adjust hname => exact ⟨_, .adjust r hname, .flag _ flag⟩
  | adjust hname =>
    cases hy with
    | key value => exact ⟨r, .key r value, .adjust r hname⟩
    | flag flag => exact ⟨_, .flag r flag, .adjust _ hname⟩
    | adjust => exact absurd rfl hne

/-- The order of the members does not matter. -/
theorem withOptions_perm {members members' : Table Json} (hd : members.Distinct) (hperm : members.Perm members')
    {r s : Reference} (h : withOptions r members = .ok s) : withOptions r members' = .ok s :=
  withOptions_iff.2 ((withOptions_iff.1 h).perm Ne.symm Sets.comm hperm hd.pairwise)

/-- Options change neither target, path nor transform, and an adjust name is not empty. -/
theorem withOptions_ok {members : List (String × Json)} {r s : Reference} (ha : r.adjust ≠ some "")
    (h : withOptions r members = .ok s) :
    s.target = r.target ∧ s.path = r.path ∧ s.adjuster = r.adjuster ∧ s.adjust ≠ some "" := by
  refine Runs.keeps (P := fun t => t.target = r.target ∧ t.path = r.path ∧ t.adjuster = r.adjuster ∧
    t.adjust ≠ some "") ?_ (withOptions_iff.1 h) ⟨rfl, rfl, rfl, ha⟩
  rintro t u x ⟨htarget, hpath, hadjuster, hadjust⟩ hset
  cases hset with
  | key | flag => exact ⟨htarget, hpath, hadjuster, hadjust⟩
  | adjust hne => exact ⟨htarget, hpath, hadjuster, fun e => hne (Option.some.inj e)⟩

/-- A reference object gives a representable reference without a transform and without an empty adjust name. -/
theorem ofMembers_ok {written : Json} {members : Table Json} {r : Reference} (h : ofMembers written members = .ok r) :
    Representable r.target r.path ∧ r.adjuster = none ∧ r.adjust ≠ some "" := by
  unfold ofMembers at h
  split at h
  · obtain ⟨s, hs, hw⟩ := bind_eq_ok.1 h
    obtain ⟨hrep, hplain⟩ := representable_of_parse hs
    rw [hplain] at hw
    obtain ⟨ht, hpath, hadj, hne⟩ := withOptions_ok (by simp) hw
    exact ⟨by rw [ht, hpath]; exact hrep, hadj, hne⟩
  · cases h

/-- The members of a written reference are read back as its options. -/
theorem ofMembers_toJson {r : Reference} (hrep : Representable r.target r.path) (hne : r.adjust ≠ some "")
    (members : Table Json) (hm : r.toJson = .obj members) :
    ofMembers (.str r.text) members = .ok { r with adjuster := none } := by
  obtain ⟨target, path, isIn, adjust, adjuster⟩ := r
  injection hm with hm
  subst hm
  simp only [ofMembers, parse_text hrep, ok_bind]
  -- the flag and the adjust name are each written or left out
  cases isIn <;> cases adjust <;> simp_all [withOptions, key]

end Reference

/-! ## Operands -/

/-- A resolved name gives a function of that name. -/
theorem Registry.name_of_resolve {functions : Registry} {name : String} {kind : FunctionKind} {f : NamedFunction}
    (h : functions.resolve name kind = .ok f) : f.name = name := by
  unfold Registry.resolve at h
  split at h
  · cases h
  · split at h
    · cases h; rfl
    · cases h

/-- A reference is resolved when the transform that it names is bound. -/
theorem Reference.resolved_of_bindAdjust {functions : Registry} {r s : Reference}
    (hr : Representable r.target r.path ∧ r.adjuster = none ∧ r.adjust ≠ some "")
    (h : Call.bindAdjust functions r = .ok s) : s.Resolved functions := by
  obtain ⟨hrep, hnone, hne⟩ := hr
  unfold Call.bindAdjust at h
  split at h
  · next hadj =>
    cases h
    exact ⟨hrep, .inl ⟨hadj, hnone⟩⟩
  · next name hadj =>
    obtain ⟨f, hf, hb⟩ := bind_eq_ok.1 h
    rw [Call.transform, mapError_eq_ok] at hf
    obtain rfl := Registry.name_of_resolve hf
    cases hb
    exact ⟨hrep, .inr ⟨f, fun e => hne (by rw [hadj, e]), hf, rfl, rfl⟩⟩

/-- A value that must be a reference is read as a resolved one. -/
theorem Reference.resolved_of_reference {functions : Registry} {value : Json} {s : Reference}
    (h : Call.reference functions value = .ok s) : s.Resolved functions := by
  unfold Call.reference at h
  split at h
  · cases h
  · next r hr =>
    refine resolved_of_bindAdjust ?_ h
    unfold ofNotation at hr
    split at hr
    · obtain ⟨hrep, hplain⟩ := representable_of_parse hr
      rw [hplain]
      exact ⟨hrep, rfl, by simp⟩
    · split at hr
      · exact ofMembers_ok hr
      · cases hr
    · cases hr

namespace Operand

/-- A literal that is no reference object, or a resolved reference. -/
def Resolved (functions : Registry) : Operand → Prop
  | literal v => v.field? Reference.key = none
  | reference r => r.Resolved functions

/-- A literal holds the names of its objects once. -/
def Distinct : Operand → Prop
  | literal v => v.Distinct
  | reference _ => True

variable {V : Type} {functions : Registry}

/-- A value without the key of references is read as a literal. -/
theorem ofJson_literal {v : Json} (h : v.field? Reference.key = none) : ofJson v = .ok (.literal v) := by
  cases v with
  | obj members =>
    have hm : Table.get? members Reference.key = none := h
    simp only [ofJson, hm]
  | _ => rfl

/-- A written reference is read back without its transform. -/
theorem ofJson_reference {r : Reference} (hrep : Reference.Representable r.target r.path) (hne : r.adjust ≠ some "") :
    ofJson r.toJson = .ok (.reference { r with adjuster := none }) := by
  have hm := Reference.ofMembers_toJson hrep hne _ rfl
  simp only [ofJson, Reference.toJson, Table.get?_cons, if_true] at hm ⊢
  rw [hm]
  rfl

/-- What is read as an operand is a literal without the key of references or comes from a reference object. -/
theorem ofJson_ok {x : Json} {o : Operand} (h : ofJson x = .ok o) :
    (o = .literal x ∧ x.field? Reference.key = none) ∨
      ∃ written members r, x = .obj members ∧ Reference.ofMembers written members = .ok r ∧ o = .reference r := by
  cases x with
  | obj members =>
    unfold ofJson at h
    simp only at h
    split at h
    · next written hw =>
      obtain ⟨r, hr, h⟩ := map_eq_ok.1 h
      exact .inr ⟨written, members, r, rfl, hr, h.symm⟩
    · next hn =>
      cases h
      exact .inl ⟨rfl, hn⟩
  | _ => cases h; exact .inl ⟨rfl, rfl⟩

/-- **Reading an operand resolves it.** -/
theorem resolved_of_operand {x : Json} {a : Argument V} (h : Call.operand functions x = .ok a) :
    ∃ o : Operand, a = .ofOperand o ∧ o.Resolved functions ∧ (x.Distinct → o.Distinct) := by
  unfold Call.operand at h
  cases ho : ofJson x with
  | error e => simp [ho] at h
  | ok o =>
    rcases ofJson_ok ho with ⟨rfl, hlit⟩ | ⟨written, members, r, rfl, hr, rfl⟩
    · simp only [ho, Except.ok.injEq] at h
      exact ⟨.literal x, h.symm, hlit, id⟩
    · simp only [ho] at h
      obtain ⟨q, hq, h⟩ := bind_eq_ok.1 h
      cases h
      exact ⟨.reference q, rfl, Reference.resolved_of_bindAdjust (Reference.ofMembers_ok hr) hq, fun _ => trivial⟩

/-- **Resolved operands are read back.** -/
theorem operand_toJson {o : Operand} (h : o.Resolved functions) :
    Call.operand (V := V) functions o.toJson = .ok (.ofOperand o) := by
  cases o with
  | literal v =>
    simp only [Call.operand, toJson, ofJson_literal h]
    rfl
  | reference r =>
    have hne : r.adjust ≠ some "" := by
      rcases h.adjusted with ⟨hn, -⟩ | ⟨f, hf, -, ha, -⟩
      · simp [hn]
      · simpa [ha] using hf
    have hread := ofJson_reference h.representable hne
    simp only [Call.operand, toJson, hread, Call.bindAdjust]
    obtain ⟨target, path, isIn, adjust, adjuster⟩ := r
    rcases h.adjusted with ⟨hn, hb⟩ | ⟨f, -, hf, ha, hb⟩
    · simp only at hn hb
      subst hn hb
      rfl
    · simp only at ha hb
      subst ha hb
      simp only [Call.transform, hf, mapError_ok]
      rfl

/-- A resolved operand is written as a reference object or a literal without the key of references. -/
theorem data?_ofOperand (o : Operand) : (Argument.ofOperand o : Argument V).data? = some o.toJson := by
  cases o <;> rfl

end Operand
end Rulebook
