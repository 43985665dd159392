import Rulebook.Proofs.Recorded
import Rulebook.Proofs.Reproduction

/-!
# Compiled validators are sound

What a compiled validator holds beside its rules can be written and read back: its sets are separate and not empty,
its default is resolved, and only strings have replacements, with regular patterns.

* `Sound.record`, `Sound.foldl`: recording sound effects keeps a validator sound.
* `sound_of_compile`: compiling gives sound validators.
-/

namespace Rulebook

open Fallible Compile

variable {functions : Registry}

/-- An effect whose operands are resolved and whose pattern is regular. -/
def Effect.Sound (functions : Registry) (type : TypeTag) : Effect Validator → Prop
  | .presence _ | .rule _ => True
  | .default o => o.Resolved functions
  | .valid os | .invalid os => os ≠ [] ∧ ∀ o ∈ os, o.Resolved functions
  | .replacement r => type = .string ∧ r.pattern.Regular

namespace Validator

/-- A validator that holds beside its rules only what is written and read back. -/
structure Sound (functions : Registry) (v : Validator) : Prop where
  valid : ∀ set ∈ v.valid, set.Separate functions ∧ set.isEmpty = false
  invalid : ∀ set ∈ v.invalid, set.Separate functions ∧ set.isEmpty = false
  default : ∀ o ∈ v.default, o.Resolved functions
  replacements : ∀ r ∈ v.replacements, v.type = .string ∧ r.pattern.Regular

variable {v : Validator}

/-- A set that is sound or missing stays sound when resolved operands are added. -/
theorem insertAll_sound {set : Option ValueSet} (h : ∀ s ∈ set, s.Separate functions ∧ s.isEmpty = false)
    {os : List Operand} (hos : os ≠ [] ∧ ∀ o ∈ os, o.Resolved functions) :
    ((set.getD {}).insertAll os).Separate functions ∧ ((set.getD {}).insertAll os).isEmpty = false := by
  refine ⟨ValueSet.Separate.insertAll ?_ hos.2, ValueSet.isEmpty_insertAll _ hos.1⟩
  cases set with
  | none => exact ValueSet.separate_empty functions
  | some s => exact (h s rfl).1

/-- Recording a sound effect keeps a validator sound. -/
theorem Sound.record (h : v.Sound functions) {e : Effect Validator} (he : e.Sound functions v.type) :
    (v.record e).Sound functions := by
  cases e with
  | presence p => exact ⟨h.valid, h.invalid, h.default, h.replacements⟩
  | rule r => exact ⟨h.valid, h.invalid, h.default, h.replacements⟩
  | default o =>
    refine ⟨h.valid, h.invalid, fun p hp => ?_, h.replacements⟩
    cases hp
    exact he
  | valid os =>
    refine ⟨fun set hs => ?_, h.invalid, h.default, h.replacements⟩
    cases hs
    exact insertAll_sound h.valid he
  | invalid os =>
    refine ⟨h.valid, fun set hs => ?_, h.default, h.replacements⟩
    cases hs
    exact insertAll_sound h.invalid he
  | replacement r =>
    refine ⟨h.valid, h.invalid, h.default, fun q hq => ?_⟩
    rcases List.mem_append.1 hq with hq | hq
    · exact h.replacements q hq
    · exact List.mem_singleton.1 hq ▸ he

/-- Recording sound effects one after another keeps a validator sound. -/
theorem Sound.foldl : ∀ {es : List (Effect Validator)} {v : Validator}, v.Sound functions →
    (∀ e ∈ es, e.Sound functions v.type) → (es.foldl Validator.record v).Sound functions
  | [], _, h, _ => h
  | e :: es, v, h, hes => by
    rw [List.foldl_cons]
    refine Sound.foldl (h.record (hes e List.mem_cons_self)) fun f hf => ?_
    rw [record_type]
    exact hes f (List.mem_cons_of_mem _ hf)

end Validator

/-- What a directive records is sound. -/
theorem sound_of_log {type : TypeTag} {name : String} {value : Json} {es : List (Effect Validator)}
    (h : log functions type name value = .ok es) : ∀ e ∈ es, e.Sound functions type := by
  intro e he
  cases records_of_log h with
  | presence p =>
    rw [List.mem_singleton.1 he]
    trivial
  | default ho =>
    rw [List.mem_singleton.1 he]
    exact ho
  | valid hne hos =>
    rw [List.mem_singleton.1 he]
    exact ⟨hne, hos⟩
  | invalid hne hos =>
    rw [List.mem_singleton.1 he]
    exact ⟨hne, hos⟩
  | replacements hrs =>
    obtain ⟨r, hr, rfl⟩ := List.mem_map.1 he
    exact hrs r hr
  | rule hrec =>
    rw [List.mem_singleton.1 he]
    trivial

/-- **Compiling gives sound validators.** -/
theorem sound_of_compile {d : Description} {v : Validator} (hv : compile functions d = .ok v) : v.Sound functions := by
  obtain ⟨cs, es, -, hes, rfl⟩ := compile_ok_iff.1 hv
  refine Validator.Sound.foldl ⟨fun _ h => ?_, fun _ h => ?_, fun _ h => ?_, fun _ h => ?_⟩ fun e he => ?_
  · cases h
  · cases h
  · cases h
  · cases h
  · obtain ⟨entry, -, fs, hfs, hmem⟩ := (logs_ok hes).2 e he
    exact sound_of_log hfs e hmem

/-- Only objects have children. -/
theorem object_of_children {d : Description} {v : Validator} (hv : compile functions d = .ok v)
    {children : List (String × Validator)} (hc : v.children = some children) : v.type = .object := by
  obtain ⟨cs, es, hs, -, rfl⟩ := compile_ok_iff.1 hv
  rw [foldl_children] at hc
  rw [foldl_type]
  cases hs with
  | plain => cases hc
  | bare => cases hc
  | object hobj => exact hobj

end Rulebook
