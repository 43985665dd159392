import Mathlib.Data.List.Forall2

/-!
# Laws of runs that may fail

What runs that may fail (`Except`) do on success: `bind_eq_ok`, `map_eq_ok`, `mapError_eq_ok` say when a composed
run succeeds, and `mapM_eq_ok` says it of a list. `Runs` is the run of a step along a list, whatever the step is; where
steps commute, the order of the list does not matter (`Runs.perm`).
-/

namespace Rulebook
namespace Fallible

variable {ε ε' α β : Type}

@[simp] theorem ok_bind (a : α) (f : α → Except ε β) : (Except.ok a >>= f) = f a := rfl

@[simp] theorem error_bind (e : ε) (f : α → Except ε β) : (Except.error e >>= f) = Except.error e := rfl

@[simp] theorem pure_eq_ok (a : α) : (pure a : Except ε α) = .ok a := rfl

@[simp] theorem map_ok (f : α → β) (a : α) : (Except.ok a : Except ε α).map f = .ok (f a) := rfl

@[simp] theorem map_error (f : α → β) (e : ε) : (Except.error e : Except ε α).map f = .error e := rfl

@[simp] theorem mapError_ok (f : ε → ε') (a : α) : (Except.ok a : Except ε α).mapError f = .ok a := rfl

@[simp] theorem mapError_error (f : ε → ε') (e : ε) : (Except.error e : Except ε α).mapError f = .error (f e) := rfl

/-- A run and its continuation succeed when both do. -/
theorem bind_eq_ok {x : Except ε α} {f : α → Except ε β} {b : β} :
    (x >>= f) = .ok b ↔ ∃ a, x = .ok a ∧ f a = .ok b := by
  cases x with
  | error e => simp
  | ok a => simp

theorem map_eq_ok {x : Except ε α} {f : α → β} {b : β} : x.map f = .ok b ↔ ∃ a, x = .ok a ∧ f a = b := by
  cases x with
  | error e => simp
  | ok a => simp

theorem mapError_eq_ok {x : Except ε α} {f : ε → ε'} {a : α} : x.mapError f = .ok a ↔ x = .ok a := by
  cases x with
  | error e => simp
  | ok a => simp

theorem toOption_eq_some {x : Except ε α} {a : α} : x.toOption = some a ↔ x = .ok a := by
  cases x with
  | error e => simp [Except.toOption]
  | ok b => simp [Except.toOption]

/-- A list of runs succeeds when each does, and gives their results in order. -/
theorem mapM_eq_ok {f : α → Except ε β} : ∀ {xs : List α} {ys : List β},
    xs.mapM f = .ok ys ↔ List.Forall₂ (fun x y => f x = .ok y) xs ys
  | [], ys => by
    rw [List.mapM_nil, pure_eq_ok]
    constructor
    · rintro ⟨⟩
      exact .nil
    · rintro ⟨⟩
      rfl
  | x :: xs, ys => by
    rw [List.mapM_cons, bind_eq_ok]
    constructor
    · rintro ⟨y, hy, h⟩
      obtain ⟨zs, hzs, h⟩ := bind_eq_ok.1 h
      cases h
      exact .cons hy (mapM_eq_ok.1 hzs)
    · rintro (_ | ⟨hy, hys⟩)
      exact ⟨_, hy, bind_eq_ok.2 ⟨_, mapM_eq_ok.2 hys, rfl⟩⟩

/-- What stands on the right of a relation between lists has its match on the left. -/
theorem mem_left_of_forall₂ {R : α → β → Prop} {b : β} : ∀ {xs : List α} {ys : List β}, List.Forall₂ R xs ys →
    b ∈ ys → ∃ a ∈ xs, R a b
  | _, _, .cons hab hrest, hb => by
    rcases List.mem_cons.1 hb with rfl | hb
    · exact ⟨_, List.mem_cons_self, hab⟩
    · obtain ⟨a, ha, h⟩ := mem_left_of_forall₂ hrest hb
      exact ⟨a, List.mem_cons_of_mem _ ha, h⟩

/-- Runs on the images of a list succeed when each is known to. -/
theorem mapM_map_ok {γ : Type} {f : α → Except ε β} {g : γ → α} {h : γ → β} {zs : List γ}
    (hf : ∀ z ∈ zs, f (g z) = .ok (h z)) : (zs.map g).mapM f = .ok (zs.map h) := by
  refine mapM_eq_ok.2 ?_
  induction zs with
  | nil => exact .nil
  | cons z zs ih => exact .cons (hf z List.mem_cons_self) (ih fun y hy => hf y (List.mem_cons_of_mem _ hy))

/-! ## Runs of a step -/

variable {σ : Type} {step : σ → α → σ → Prop}

/-- Steps along a list: each element takes one state to the next. -/
inductive Runs (step : σ → α → σ → Prop) : σ → List α → σ → Prop
  | nil (s : σ) : Runs step s [] s
  | cons {s t u : σ} {x : α} {xs : List α} : step s x t → Runs step t xs u → Runs step s (x :: xs) u

/-- What every step keeps, a run keeps. -/
theorem Runs.keeps {P : σ → Prop} (hstep : ∀ {s t : σ} {x : α}, P s → step s x t → P t) {s u : σ} {xs : List α}
    (h : Runs step s xs u) (hs : P s) : P u := by
  induction h with
  | nil => exact hs
  | cons hx _ ih => exact ih (hstep hs hx)

/-- **Where steps commute, their order does not matter**: a list of elements that are pairwise apart runs to the same
state in any order. -/
theorem Runs.perm {apart : α → α → Prop} (hsymm : ∀ {x y : α}, apart x y → apart y x)
    (hcomm : ∀ {s t u : σ} {x y : α}, apart x y → step s x t → step t y u → ∃ v, step s y v ∧ step v x u)
    {xs ys : List α} (hperm : xs.Perm ys) (hapart : xs.Pairwise apart) {s u : σ} (h : Runs step s xs u) :
    Runs step s ys u := by
  induction hperm generalizing s u with
  | nil => exact h
  | cons x _ ih =>
    obtain _ | ⟨hx, hrest⟩ := h
    exact .cons hx (ih (List.pairwise_cons.1 hapart).2 hrest)
  | swap x y zs =>
    obtain _ | ⟨hy, _ | ⟨hx, hrest⟩⟩ := h
    obtain ⟨v, hv, hu⟩ := hcomm ((List.pairwise_cons.1 hapart).1 x List.mem_cons_self) hy hx
    exact .cons hv (.cons hu hrest)
  | trans hxy _ ih ih' => exact ih' (hxy.pairwise hapart hsymm) (ih hapart h)

end Fallible
end Rulebook
