import Rulebook.Validator.Apply
import Rulebook.Grammar

/-!
# Kinds of directives

The grammar says how the value of a directive is read, the table of recordings what its method leaves in a validator.
Only some combinations of the two occur, and every argument about all directives goes through them.

* `Row.kind`: a directive that extraction can rebuild is of one of the kinds listed in `Kind`.
* `lookup_cases`: every other directive is hidden: it is recorded as a rule of its own name.
-/

namespace Rulebook
namespace Grammar

/-- The name, the category and the recording of a directive that extraction can rebuild. -/
inductive Kind : String → Category → Recording → Prop
  | presence (name : String) (fixed : Presence) : Kind name .toggle (.presence (some fixed))
  | plain (name : String) : Kind name .toggle .generic
  | sign {name : String} : name = "positive" ∨ name = "negative" → Kind name .toggle (.sign (some name))
  | config (name : String) : Kind name .optionalConfig .optionsOnly
  | literal (name : String) : Kind name (.unary .literal) .generic
  | presenceMode (name : String) : Kind name (.unary .literal) (.presence none)
  | signWord (name : String) : Kind name (.unary .literal) (.sign none)
  | precision : Kind "precision" (.unary .literal) (.limit "limit")
  | default (name : String) : Kind name (.unary .operand) .default
  | values (name : String) (allowed : Bool) : Kind name (.unary .elements) (.values allowed)
  | size (operator : Operator) :
      Kind (operator.directive?.getD "length") (.unary (.limit "limit")) (.size operator)
  | multiple : Kind "multiple" (.unary (.limit "base")) (.limit "base")
  | sample : Kind "example" (.optionKeyed ⟨"example", false, .options⟩) .sample
  | spread (name : String) : Kind name .spread .spread
  | peers (name : String) : Kind name .peerGroup .peers
  | pattern {name : String} : name = "pattern" ∨ name = "regex" → Kind name .pattern .pattern
  | unique : Kind "unique" (.bespoke .unique) .unique
  | rename : Kind "rename" (.bespoke .rename) .rename
  | replace : Kind "replace" (.bespoke .replace) .replace

/-- Whether a name, a category and a recording are of a kind. -/
def isKind (name : String) : Category → Recording → Bool
  | .toggle, .presence fixed => fixed.isSome
  | .toggle, .generic => true
  | .toggle, .sign fixed => fixed == some name && (name == "positive" || name == "negative")
  | .optionalConfig, .optionsOnly => true
  | .unary .literal, .generic => true
  | .unary .literal, .presence fixed => fixed.isNone
  | .unary .literal, .sign fixed => fixed.isNone
  | .unary .literal, .limit key => name == "precision" && key == "limit"
  | .unary .operand, .default => true
  | .unary .elements, .values _ => true
  | .unary (.limit key), .size operator => key == "limit" && name == operator.directive?.getD "length"
  | .unary (.limit key), .limit other => name == "multiple" && key == "base" && other == "base"
  | .optionKeyed layout, .sample => name == "example" && layout == ⟨"example", false, .options⟩
  | .spread, .spread => true
  | .peerGroup, .peers => true
  | .pattern, .pattern => name == "pattern" || name == "regex"
  | .bespoke .unique, .unique => name == "unique"
  | .bespoke .rename, .rename => name == "rename"
  | .bespoke .replace, .replace => name == "replace"
  | _, _ => false

theorem kind_of_isKind {name : String} {category : Category} {recording : Recording}
    (h : isKind name category recording = true) : Kind name category recording := by
  unfold isKind at h
  split at h <;>
    simp only [Bool.and_eq_true, Bool.or_eq_true, beq_iff_eq, Option.isSome_iff_exists, Option.isNone_iff_eq_none,
      reduceCtorEq] at h
  · obtain ⟨fixed, rfl⟩ := h
    exact .presence name fixed
  · exact .plain name
  · obtain ⟨rfl, hname⟩ := h
    exact .sign hname
  · exact .config name
  · exact .literal name
  · subst h
    exact .presenceMode name
  · subst h
    exact .signWord name
  · obtain ⟨rfl, rfl⟩ := h
    exact .precision
  · exact .default name
  · exact .values name _
  · obtain ⟨rfl, rfl⟩ := h
    exact .size _
  · obtain ⟨⟨rfl, rfl⟩, rfl⟩ := h
    exact .multiple
  · obtain ⟨rfl, rfl⟩ := h
    exact .sample
  · exact .spread name
  · exact .peers name
  · exact .pattern h
  · subst h
    exact .unique
  · subst h
    exact .rename
  · subst h
    exact .replace

/-- The recordings of the directives that extraction leaves out. -/
def hiddenRecordings : List Recording := [.external, .fork, .assert, .keyPeers, .condition]

/-- A directive that extraction leaves out, whose value is read into the arguments of a single call. -/
structure Hidden (row : Directive) : Prop where
  irreversible : row.reversible = false
  apart : row.category ≠ .pattern ∧ row.category ≠ .bespoke .replace
  recording : Recording.ofMethod row.name ∈ hiddenRecordings

/-- A directive that extraction can rebuild, with its category and the recording of its method. -/
structure Row (name : String) (category : Category) (recording : Recording) : Prop where
  lookup : Grammar.lookup name = some (entry category name)
  recording : Recording.ofMethod name = recording

/-- The table, row by row. -/
theorem rows : ∀ row ∈ directives, (row.reversible = true ∧
      isKind row.name row.category (Recording.ofMethod row.name) = true) ∨
    (row.reversible = false ∧ (row.category ≠ .pattern ∧ row.category ≠ .bespoke .replace) ∧
      Recording.ofMethod row.name ∈ hiddenRecordings) := by
  decide +kernel

/-- A row is found under its own name. -/
theorem mem_of_lookup {name : String} {row : Directive} (h : lookup name = some row) :
    row ∈ directives ∧ row.name = name :=
  ⟨List.mem_of_find?_eq_some h, by simpa using List.find?_some h⟩

/-- **A directive can be rebuilt or is hidden.** -/
theorem lookup_cases {name : String} {row : Directive} (h : lookup name = some row) :
    (row = entry row.category name ∧ Row name row.category (Recording.ofMethod name)) ∨ Hidden row := by
  obtain ⟨hmem, rfl⟩ := mem_of_lookup h
  rcases rows row hmem with ⟨hrev, -⟩ | ⟨hrev, hapart, hrec⟩
  · have hrow : row = entry row.category row.name := by
      obtain ⟨name, category, reversible⟩ := row
      rw [entry, ← hrev]
    exact .inl ⟨hrow, h.trans (congrArg some hrow), rfl⟩
  · exact .inr ⟨hrev, hapart, hrec⟩

theorem Row.isKind {name : String} {category : Category} {recording : Recording} (h : Row name category recording) :
    isKind name category recording = true := by
  obtain ⟨hlookup, rfl⟩ := h
  rcases rows _ (mem_of_lookup hlookup).1 with ⟨-, hkind⟩ | ⟨hrev, -⟩
  · exact hkind
  · cases hrev

/-- **A directive that can be rebuilt is of a kind.** -/
theorem Row.kind {name : String} {category : Category} {recording : Recording} (h : Row name category recording) :
    Kind name category recording :=
  kind_of_isKind h.isKind

/-- A name has one category and one recording. -/
theorem Row.unique {name : String} {c c' : Category} {r r' : Recording} (h : Row name c r) (h' : Row name c' r') :
    c = c' ∧ r = r' := by
  have hrow := Option.some.inj (h.lookup.symm.trans h'.lookup)
  exact ⟨congrArg Directive.category hrow, h.recording.symm.trans h'.recording⟩

/-- A size directive has the name of its operator. -/
theorem Row.size_name {name : String} {operator : Operator}
    (h : Row name (.unary (.limit "limit")) (.size operator)) : name = operator.directive?.getD "length" := by
  simpa [Grammar.isKind] using h.isKind

/-! ## Single rows -/

theorem row_required : Row "required" .toggle (.presence (some .required)) := ⟨by decide, by decide⟩

theorem row_optional : Row "optional" .toggle (.presence (some .optional)) := ⟨by decide, by decide⟩

theorem row_forbidden : Row "forbidden" .toggle (.presence (some .forbidden)) := ⟨by decide, by decide⟩

theorem row_positive : Row "positive" .toggle (.sign (some "positive")) := ⟨by decide, by decide⟩

theorem row_negative : Row "negative" .toggle (.sign (some "negative")) := ⟨by decide, by decide⟩

theorem row_default : Row "default" (.unary .operand) .default := ⟨by decide, by decide⟩

theorem row_valid : Row "valid" (.unary .elements) (.values true) := ⟨by decide, by decide⟩

theorem row_invalid : Row "invalid" (.unary .elements) (.values false) := ⟨by decide, by decide⟩

theorem row_precision : Row "precision" (.unary .literal) (.limit "limit") := ⟨by decide, by decide⟩

theorem row_multiple : Row "multiple" (.unary (.limit "base")) (.limit "base") := ⟨by decide, by decide⟩

theorem row_example : Row "example" (.optionKeyed ⟨"example", false, .options⟩) .sample := ⟨by decide, by decide⟩

theorem row_pattern : Row "pattern" .pattern .pattern := ⟨by decide, by decide⟩

theorem row_regex : Row "regex" .pattern .pattern := ⟨by decide, by decide⟩

theorem row_unique : Row "unique" (.bespoke .unique) .unique := ⟨by decide, by decide⟩

theorem row_rename : Row "rename" (.bespoke .rename) .rename := ⟨by decide, by decide⟩

theorem row_replace : Row "replace" (.bespoke .replace) .replace := ⟨by decide, by decide⟩

/-- The row of a sign. -/
theorem row_sign {name : String} (h : name = "positive" ∨ name = "negative") :
    Row name .toggle (.sign (some name)) := by
  rcases h with rfl | rfl
  · exact row_positive
  · exact row_negative

/-- The row of a size. -/
theorem row_size (operator : Operator) :
    Row (operator.directive?.getD "length") (.unary (.limit "limit")) (.size operator) := by
  cases operator <;> exact ⟨by decide, by decide⟩

/-- The row of a presence. -/
theorem row_presence (p : Presence) : Row p.text .toggle (.presence (some p)) := by
  cases p
  · exact row_required
  · exact row_optional
  · exact row_forbidden

end Grammar
end Rulebook
