import Rulebook.Proofs.Congruence
import Rulebook.Proofs.Table

/-!
# The depth of a description bounds its compilation

Every description that is compiled on the way to another is less deep than it (`depth_lt_of_inner`), so compiling up to
a depth does not depend on the depth once it is that of the description (`within_eq`). Hence compiling a description is
compiling its node, with the descriptions inside compiled in the same way: `Engine.compile_eq_node` says it of any
engine, and `compile_eq` of the one that records calls, which compiles as `compile` does (`Engine.memory_compile`).
-/

namespace Rulebook

open Fallible

/-! ## Depths of parts -/

namespace Json

/-- The depth of two lists of members side by side. -/
theorem depthMembers_append : ∀ (a b : List (String × Json)),
    depthMembers (a ++ b) = max (depthMembers a) (depthMembers b)
  | [], b => by simp [depthMembers]
  | (name, value) :: a, b => by
    rw [List.cons_append, depthMembers, depthMembers_append a b, depthMembers, Nat.max_assoc]

/-- A member is no deeper than the members. -/
theorem depth_le_depthMembers {name : String} {value : Json} : ∀ {members : List (String × Json)},
    (name, value) ∈ members → value.depth ≤ depthMembers members
  | (key, first) :: rest, h => by
    rcases List.mem_cons.1 h with h | h
    · cases h
      exact Nat.le_max_left _ _
    · exact Nat.le_trans (depth_le_depthMembers h) (Nat.le_max_right _ _)

/-- A member that a table reads is less deep than the object. -/
theorem depth_lt_of_get? {members : Table Json} {name : String} {value : Json}
    (h : Table.get? members name = some value) : value.depth < (obj members).depth :=
  Nat.lt_succ_of_le (depth_le_depthMembers (Table.mem_of_get? h))

mutual
/-- A value that is the same as another is no deeper. -/
theorem depth_le_of_same : ∀ {a b : Json}, a.same b = true → a.depth ≤ b.depth
  | .arr xs, .arr ys, h => Nat.succ_le_succ (depthItems_le_of_same h)
  | .obj ms, .obj ns, h => by
    rw [same, Bool.and_eq_true] at h
    exact Nat.succ_le_of_lt (depthMembers_lt_of_same h.2)
  | .null, _, _ | .bool _, _, _ | .num _, _, _ | .str _, _, _ => Nat.zero_le _
  | .arr _, .null, h | .arr _, .bool _, h | .arr _, .num _, h | .arr _, .str _, h | .arr _, .obj _, h => by
    simp [same] at h
  | .obj _, .null, h | .obj _, .bool _, h | .obj _, .num _, h | .obj _, .str _, h | .obj _, .arr _, h => by
    simp [same] at h

theorem depthItems_le_of_same : ∀ {xs ys : List Json}, sameItems xs ys = true → depthItems xs ≤ depthItems ys
  | [], _, _ => Nat.zero_le _
  | x :: xs, y :: ys, h => by
    rw [sameItems, Bool.and_eq_true] at h
    have hx := depth_le_of_same h.1
    have hxs := depthItems_le_of_same h.2
    simp only [depthItems]
    omega

theorem depthMembers_lt_of_same : ∀ {ms : List (String × Json)} {ns : Table Json}, sameMembers ms ns = true →
    depthMembers ms < (obj ns).depth
  | [], _, _ => Nat.succ_pos _
  | (name, value) :: ms, ns, h => by
    rw [sameMembers, Bool.and_eq_true] at h
    have hms := depthMembers_lt_of_same h.2
    have hfirst := h.1
    split at hfirst
    · next other hother =>
      have hvalue := depth_le_of_same hfirst
      have hlt := depth_lt_of_get? hother
      simp only [depthMembers]
      omega
    · cases hfirst
end

end Json

namespace Description

/-- A property is no deeper than the properties. -/
theorem depth_le_depthAll {e : String × Description} : ∀ {properties : List (String × Description)}, e ∈ properties →
    e.2.depth ≤ depthAll properties
  | (name, child) :: rest, h => by
    rcases List.mem_cons.1 h with rfl | h
    · exact Nat.le_max_left _ _
    · exact Nat.le_trans (depth_le_depthAll h) (Nat.le_max_right _ _)

/-- The depth of what has been found of a node. -/
def Parts.depth (parts : Parts) : Nat :=
  max (Json.depthMembers parts.directives)
    (match parts.properties with
      | none => 0
      | some properties => depthAll properties)

theorem depth_finish {parts : Parts} {d : Description} (h : parts.finish = .ok d) : d.depth = parts.depth + 1 := by
  unfold Parts.finish at h
  split at h
  · cases h
    unfold Parts.depth
    cases parts.properties <;> simp [depth]
  · cases h

mutual
/-- A description is no deeper than the value it is read from. -/
theorem depth_ofJson : ∀ {value : Json} {d : Description}, ofJson value = .ok d → d.depth ≤ value.depth
  | .obj members, d, h => by
    have hm : d.depth ≤ max (Parts.depth {}) (Json.depthMembers members) + 1 := depth_ofMembers h
    simpa [Parts.depth, Json.depthMembers, Json.depth] using hm
  | .null, _, h | .bool _, _, h | .num _, _, h | .str _, _, h | .arr _, _, h => by simp [ofJson] at h

theorem depth_ofMembers : ∀ {members : List (String × Json)} {parts : Parts} {d : Description},
    ofMembers parts members = .ok d → d.depth ≤ max parts.depth (Json.depthMembers members) + 1
  | [], parts, d, h => by
    rw [ofMembers] at h
    rw [depth_finish h]
    omega
  | (name, value) :: rest, parts, d, h => by
    rw [ofMembers.eq_def] at h
    simp only [Json.depthMembers] at h ⊢
    split at h
    · split at h
      · cases h
      · have hr := depth_ofMembers h
        simp only [Parts.depth] at hr ⊢
        omega
    · split at h
      · split at h
        · have hr := depth_ofMembers h
          simp only [Parts.depth] at hr ⊢
          omega
        · next members =>
          split at h
          · cases h
          · next properties hp =>
            have hr := depth_ofMembers h
            have ha := depth_ofProperties hp
            simp only [Parts.depth, Json.depth] at hr ⊢
            omega
        · cases h
      · have hr := depth_ofMembers h
        simp only [Parts.depth, Json.depthMembers_append, Json.depthMembers] at hr ⊢
        omega

theorem depth_ofProperties : ∀ {members : List (String × Json)} {properties : List (String × Description)},
    ofProperties members = .ok properties → depthAll properties ≤ Json.depthMembers members
  | [], properties, h => by
    cases h
    exact Nat.le_refl _
  | (name, value) :: rest, properties, h => by
    rw [ofProperties] at h
    split at h
    · cases h
    · next child hc =>
      split at h
      · cases h
      · next children hr =>
        cases h
        have h₁ := depth_ofJson hc
        have h₂ := depth_ofProperties hr
        simp only [depthAll, Json.depthMembers]
        omega
end

/-- A description inside a value is less deep than the value. -/
theorem depth_lt_of_describes {value : Json} {d : Description} (h : value.Describes d) : d.depth < value.depth := by
  obtain ⟨schema, hschema, hread⟩ := h
  cases value with
  | obj members => exact Nat.lt_of_le_of_lt (depth_ofJson hread) (Json.depth_lt_of_get? hschema)
  | _ => cases hschema

/-- **A description that is compiled on the way to another** is less deep. -/
theorem depth_lt_of_inner {c d : Description} (h : c.Inner d) : c.depth < d.depth := by
  obtain ⟨type, entries, properties⟩ := d
  cases h with
  | @property _ _ properties name _ hp hc =>
    cases hp
    have hchild : c.depth ≤ depthAll properties := depth_le_depthAll hc
    simp only [depth]
    omega
  | @schema _ _ name value row he _ _ hc =>
    have hvalue : c.depth < value.depth := depth_lt_of_describes hc
    have hentry : value.depth ≤ Json.depthMembers entries := Json.depth_le_depthMembers he
    cases properties with
    | none =>
      simp only [depth]
      omega
    | some properties =>
      simp only [depth]
      omega

end Description

/-! ## Compiling depends on less deep descriptions -/

/-- Equality is kept by putting runs together. -/
theorem Call.congruence_eq (functions : Registry) : Call.Congruence (fun _ x y => x = y) functions functions where
  ok _ := rfl
  error _ _ := rfl
  bind hxy hfg := by
    rw [hxy, funext hfg]
  resolve _ _ := rfl

namespace Engine

variable {V : Type} {engine : Engine V} {functions : Registry} {f g : Description → Call.Outcome V}

/-- Compiling a node depends on how less deep descriptions are compiled. -/
theorem node_congr {d : Description} (h : ∀ e : Description, e.depth < d.depth → f e = g e) :
    engine.node f functions d = engine.node g functions d :=
  rel_node (Call.congruence_eq functions) (fun _ _ _ => rfl) fun c hc => h c (Description.depth_lt_of_inner hc)

/-- Enough depth is enough: two bounds past the depth of a description compile it alike. -/
theorem within_eq (functions : Registry) : ∀ {n m : Nat} {d : Description}, d.depth ≤ n → d.depth ≤ m →
    engine.within functions n d = engine.within functions m d
  | 0, _, ⟨_, _, none⟩, hn, _ | 0, _, ⟨_, _, some _⟩, hn, _ => absurd hn (by simp [Description.depth])
  | _, 0, ⟨_, _, none⟩, _, hm | _, 0, ⟨_, _, some _⟩, _, hm => absurd hm (by simp [Description.depth])
  | n + 1, m + 1, d, hn, hm => by
    rw [within, within]
    exact node_congr fun e he => within_eq functions (by omega) (by omega)

/-- Compiling a description with an engine is compiling its node, with the descriptions inside compiled alike. -/
theorem compile_eq_node (engine : Engine V) (functions : Registry) (d : Description) :
    engine.compile functions d = engine.node (engine.compile functions) functions d := by
  have hself : engine.compile functions d = engine.within functions (d.depth + 1) d :=
    within_eq functions (Nat.le_refl _) (Nat.le_succ _)
  rw [hself, within]
  exact node_congr fun e he => within_eq functions (Nat.le_of_lt he) (Nat.le_refl _)

end Engine

/-! ## The engine that records calls -/

namespace Engine

variable (nested : Description → Call.Outcome Validator) (functions : Registry)

theorem memory_children : ∀ properties : List (String × Description),
    children nested properties = Compile.children nested properties
  | [] => rfl
  | (name, child) :: rest => by
    rw [children, Compile.children, memory_children rest]
    cases nested child with
    | error e => rfl
    | ok v => cases Compile.children nested rest <;> rfl

theorem memory_seed (d : Description) : memory.seed nested d = Compile.seed nested d := by
  obtain ⟨type, entries, properties⟩ := d
  cases properties with
  | none => cases type <;> rfl
  | some properties =>
    cases type with
    | object =>
      simp only [seed, Compile.seed, memory_children]
      cases Compile.children nested properties <;> rfl
    | _ => rfl

theorem memory_run : ∀ (calls : List (Call Validator)) (v : Validator), memory.run v calls = Compile.run v calls
  | [], _ => rfl
  | call :: rest, v => by
    have happly : memory.apply v call.method call.args = v.apply call.method call.args := rfl
    rw [run, Compile.run, happly]
    cases v.apply call.method call.args with
    | error e => rfl
    | ok w => exact memory_run rest w

theorem memory_directive (type : TypeTag) (v : Validator) (name : String) (value : Json) :
    memory.directive nested functions type v name value = Compile.directive nested functions type v name value := by
  cases hrow : Grammar.lookup name with
  | none => simp only [directive, Compile.directive, hrow]
  | some row =>
    simp only [directive, Compile.directive, hrow]
    cases Call.ofDirective nested functions type row value with
    | error e => rfl
    | ok calls => exact memory_run calls v

theorem memory_directives (type : TypeTag) : ∀ (entries : List (String × Json)) (v : Validator),
    memory.directives nested functions type v entries = Compile.directives nested functions type v entries
  | [], _ => rfl
  | (name, value) :: rest, v => by
    rw [directives, Compile.directives, memory_directive]
    cases Compile.directive nested functions type v name value with
    | error e => rfl
    | ok w => exact memory_directives type rest w

theorem memory_node (d : Description) : memory.node nested functions d = Compile.node nested functions d := by
  rw [node, Compile.node, memory_seed]
  cases Compile.seed nested d with
  | error e => rfl
  | ok v => exact memory_directives nested functions d.type d.directives v

theorem memory_within : ∀ n : Nat, memory.within functions n = Compile.within functions n
  | 0 => rfl
  | n + 1 => by
    funext d
    rw [within, Compile.within, memory_within n, memory_node]

/-- The engine that records calls compiles as `compile` does. -/
theorem memory_compile : memory.compile functions = Rulebook.compile functions := by
  funext d
  rw [Engine.compile, Rulebook.compile, memory_within]

end Engine

/-- **Compiling a description** is compiling its node, with the descriptions inside compiled in the same way. -/
theorem compile_eq (functions : Registry) (d : Description) :
    compile functions d = Compile.node (compile functions) functions d := by
  rw [← Engine.memory_node, ← Engine.memory_compile]
  exact Engine.compile_eq_node Engine.memory functions d

end Rulebook
