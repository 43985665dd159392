import Rulebook.Proofs.Configured
import Rulebook.Proofs.Equality
import Rulebook.Proofs.Resolution

/-!
# Comparators of a configured registry

Every comparator that a configuration can describe is equality of what a view sees of two values (`Json.sameThrough`):
the whole value, the value in lower case, or one field. So it is symmetric and transitive, and relates a value to itself
exactly when the view sees something of it (`sameThrough_self_iff`).

* `FunctionSpec.function_comparator`: the view of each description of a comparator.
* `comparator_sound`: what this means for a name of a configured registry.
-/

namespace Rulebook

namespace Json

variable {view : Json → Option Json} {a b c : Json}

/-- Equality of what a view sees of two values. -/
def sameThrough (view : Json → Option Json) (a b : Json) : Bool :=
  match view a, view b with
  | some x, some y => x.same y
  | _, _ => false

theorem sameThrough_iff : sameThrough view a b = true ↔ ∃ x y, view a = some x ∧ view b = some y ∧ x.same y = true := by
  unfold sameThrough
  cases view a <;> cases view b <;> simp

/-- What the view sees of a value whose objects hold each name once is such a value. -/
def KeepsDistinct (view : Json → Option Json) : Prop := ∀ a x, a.Distinct → view a = some x → x.Distinct

theorem sameThrough_symm (hview : KeepsDistinct view) (ha : a.Distinct) (hb : b.Distinct) :
    sameThrough view a b = sameThrough view b a := by
  have hflip : ∀ {a b : Json}, a.Distinct → b.Distinct → sameThrough view a b = true → sameThrough view b a = true := by
    intro a b ha hb h
    obtain ⟨x, y, hx, hy, hsame⟩ := sameThrough_iff.1 h
    exact sameThrough_iff.2 ⟨y, x, hy, hx, same_symm (hview a x ha hx) (hview b y hb hy) hsame⟩
  exact Bool.eq_iff_iff.2 ⟨hflip ha hb, hflip hb ha⟩

theorem sameThrough_trans (h : sameThrough view a b = true) (h' : sameThrough view b c = true) :
    sameThrough view a c = true := by
  obtain ⟨x, y, hx, hy, hsame⟩ := sameThrough_iff.1 h
  obtain ⟨y', z, hy', hz, hsame'⟩ := sameThrough_iff.1 h'
  rw [hy] at hy'
  cases hy'
  exact sameThrough_iff.2 ⟨x, z, hx, hz, same_trans hsame hsame'⟩

/-- A value is related to itself exactly when something is seen of it. -/
theorem sameThrough_self_iff (hview : KeepsDistinct view) (ha : a.Distinct) :
    sameThrough view a a = true ↔ (view a).isSome = true := by
  rw [sameThrough_iff, Option.isSome_iff_exists]
  constructor
  · rintro ⟨x, y, hx, -⟩
    exact ⟨x, hx⟩
  · rintro ⟨x, hx⟩
    exact ⟨x, x, hx, hx, same_refl (hview a x ha hx)⟩

/-- Mapping strings keeps the objects of a value. -/
theorem distinct_onText {maps : String → String} (h : a.Distinct) : (Builtin.onText maps a).Distinct := by
  cases a <;> exact h

/-- The field of a value holds each name once. -/
theorem distinct_field? {name : String} {x : Json} (h : a.Distinct) (hx : a.field? name = some x) : x.Distinct := by
  cases a with
  | obj members => exact distinct_of_mem h.2 (Table.mem_of_get? hx)
  | _ => cases hx

/-- Only objects that hold a name have a field under it. -/
theorem isSome_field? {name : String} :
    (a.field? name).isSome = true ↔ ∃ members, a = .obj members ∧ Table.has members name = true := by
  cases a with
  | obj members => simp [field?, Table.has]
  | _ => simp [field?]

end Json

/-- Equality without regard to case is equality in lower case. -/
theorem Builtin.sameButCase_eq (a b : Json) : sameButCase a b = (onText Case.lower a).same (onText Case.lower b) := by
  cases a <;> cases b <;> simp [sameButCase, onText, Json.same]

namespace FunctionSpec

/-- What a comparator sees of a value; transforms have no view. -/
def view? : FunctionSpec → Option (Json → Option Json)
  | builtin .deepEqual => some some
  | builtin .caseInsensitive => some fun value => some (Builtin.onText Case.lower value)
  | fieldEquals field => some fun value => value.field? field
  | builtin _ => none

/-- **A described comparator** is equality through its view. -/
theorem function_comparator {spec : FunctionSpec} {relates : Json → Json → Bool}
    (h : spec.function = .comparator relates) : ∃ view, spec.view? = some view ∧ relates = Json.sameThrough view := by
  cases spec with
  | fieldEquals field =>
    cases h
    exact ⟨_, rfl, rfl⟩
  | builtin b =>
    cases b with
    | deepEqual =>
      cases h
      exact ⟨_, rfl, rfl⟩
    | caseInsensitive =>
      cases h
      exact ⟨_, rfl, funext fun a => funext fun b => Builtin.sameButCase_eq a b⟩
    | identity | trim | lowercase | uppercase => cases h

theorem keepsDistinct_view? {spec : FunctionSpec} {view : Json → Option Json} (h : spec.view? = some view) :
    Json.KeepsDistinct view := by
  intro a x ha hx
  cases spec with
  | fieldEquals field =>
    cases h
    exact Json.distinct_field? ha hx
  | builtin b =>
    cases b with
    | deepEqual =>
      cases h
      cases hx
      exact ha
    | caseInsensitive =>
      cases h
      cases hx
      exact Json.distinct_onText ha
    | identity | trim | lowercase | uppercase => cases h

end FunctionSpec

open Registry (standsFor)

section Configured

variable {specs : List (String × FunctionSpec)} {registry : Registry} {name : String} {f : NamedFunction}

/-- A comparator of a configured registry is equality through the view of the description that its name stands for. -/
theorem view_of_comparator (hregistry : Registry.ofSpecs specs = some registry)
    (hf : registry.comparator name = .ok f) : ∃ spec view, standsFor specs name = some spec ∧ spec.view? = some view ∧
      f.function = .comparator (Json.sameThrough view) := by
  obtain ⟨rfl, hholds⟩ := Registry.resolve_eq_ok_iff.1 hf
  have hentry := hholds.entry
  rw [Registry.get?_ofSpecs hregistry] at hentry
  obtain ⟨spec, hspec, hfunction⟩ := Option.map_eq_some_iff.1 hentry
  cases hrelates : f.function with
  | transform maps =>
    have hkind := hholds.ofKind
    rw [hrelates] at hkind
    cases hkind
  | comparator relates =>
    obtain ⟨view, hview, rfl⟩ := FunctionSpec.function_comparator (hfunction.trans hrelates)
    exact ⟨spec, view, hspec, hview, rfl⟩

/-- **Configured comparators are sound tests for duplicates.** In a registry made from any list of descriptions, a
comparator is transitive, and symmetric on values whose objects hold each name once, as every value does that is read.
Where its name stands for equality, with or without regard to case, it relates every value to itself, and every object
to itself with its members in another order; where it stands for equality of a field, it relates a value to itself
exactly when that is an object with this field. -/
theorem comparator_sound (hregistry : Registry.ofSpecs specs = some registry) (hf : registry.comparator name = .ok f) :
    ∃ relates : Json → Json → Bool, (∀ a b, f.compare? a b = some (relates a b)) ∧
      (∀ a b, a.Distinct → b.Distinct → relates a b = relates b a) ∧
      (∀ a b c, relates a b = true → relates b c = true → relates a c = true) ∧
      ((standsFor specs name = some (.builtin .deepEqual) ∨ standsFor specs name = some (.builtin .caseInsensitive)) ∧
          (∀ a, a.Distinct → relates a a = true) ∧
          (∀ ms ns, (Json.obj ms).Distinct → ms.Perm ns → relates (.obj ms) (.obj ns) = true) ∨
        ∃ field, standsFor specs name = some (.fieldEquals field) ∧
          ∀ a, a.Distinct → (relates a a = true ↔ ∃ ms, a = .obj ms ∧ Table.has ms field = true)) := by
  obtain ⟨spec, view, hspec, hview, hfunction⟩ := view_of_comparator hregistry hf
  have hkeeps := FunctionSpec.keepsDistinct_view? hview
  refine ⟨Json.sameThrough view, fun a b => by rw [NamedFunction.compare?, hfunction],
    fun a b ha hb => Json.sameThrough_symm hkeeps ha hb, fun a b c => Json.sameThrough_trans, ?_⟩
  cases spec with
  | fieldEquals field =>
    cases hview
    exact .inr ⟨field, hspec, fun a ha => (Json.sameThrough_self_iff hkeeps ha).trans Json.isSome_field?⟩
  | builtin b =>
    cases b with
    | deepEqual =>
      cases hview
      exact .inl ⟨.inl hspec, fun a ha => Json.same_refl ha, fun ms ns hms => Json.same_obj_of_perm hms⟩
    | caseInsensitive =>
      cases hview
      exact .inl ⟨.inr hspec, fun a ha => Json.same_refl (Json.distinct_onText ha),
        fun ms ns hms => Json.same_obj_of_perm hms⟩
    | identity | trim | lowercase | uppercase => cases hview

end Configured

/-- A comparator of a field that takes the place of a built-in one: objects with equal fields are related in both
directions, and an object without the field not even to itself. -/
theorem comparator_sound_override : ∃ registry f,
    Registry.ofSpecs [("deep-equal", .builtin .identity), ("deep-equal", .fieldEquals "id")] = some registry ∧
      registry.comparator "deep-equal" = .ok f ∧
      f.compare? (.obj [("id", .bool true), ("n", .null)]) (.obj [("id", .bool true)]) = some true ∧
      f.compare? (.obj [("id", .bool true)]) (.obj [("id", .bool true), ("n", .null)]) = some true ∧
      f.compare? (.obj []) (.obj []) = some false := by
  refine ⟨_, _, rfl, rfl, ?_⟩
  obtain ⟨relates, hcompare, hsymm, -, hself⟩ := @comparator_sound
    [("deep-equal", .builtin .identity), ("deep-equal", .fieldEquals "id")] _ "deep-equal" _ rfl rfl
  have hpair : (Json.obj [("id", .bool true), ("n", .null)]).Distinct := ⟨by decide, trivial, trivial, trivial⟩
  have hone : (Json.obj [("id", .bool true)]).Distinct := ⟨by decide, trivial, trivial⟩
  have hrelated : relates (.obj [("id", .bool true), ("n", .null)]) (.obj [("id", .bool true)]) = true :=
    Option.some.inj ((hcompare _ _).symm.trans rfl)
  have halone : relates (.obj []) (.obj []) = false := by
    rcases hself with ⟨hspec, -⟩ | ⟨field, -, hfield⟩
    · rcases hspec with hspec | hspec <;> cases hspec
    · refine Bool.eq_false_iff.2 fun h => ?_
      obtain ⟨ms, heq, hhas⟩ := (hfield (.obj []) ⟨.nil, trivial⟩).1 h
      cases heq
      cases hhas
  refine ⟨?_, ?_, ?_⟩
  · rw [hcompare, hrelated]
  · rw [hcompare, ← hsymm _ _ hpair hone, hrelated]
  · rw [hcompare, halone]

end Rulebook
