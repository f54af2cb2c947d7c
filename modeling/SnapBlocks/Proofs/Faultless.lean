import Mathlib.Data.List.Basic

/-!
# Runs without a fault

The operations that follow links answer in `Except Fault`. To show that a fault
never comes up, each loop is given a property that its states have and that rules
the fault out: then every step succeeds, and so does the whole loop, with the
property at its end.
-/

namespace SnapBlocks

variable {ε α β : Type}

/-- A step that is followed by another and succeeds has succeeded itself. -/
theorem bind_eq_ok {x : Except ε α} {f : α → Except ε β} {y : β} (h : x >>= f = .ok y) :
    ∃ a, x = .ok a ∧ f a = .ok y := by
  cases x with
  | error e => cases h
  | ok a => exact ⟨a, rfl, h⟩

/-- A result that has been changed afterwards was there before. -/
theorem map_eq_ok {x : Except ε α} {f : α → β} {y : β} (h : x.map f = .ok y) :
    ∃ a, x = .ok a ∧ f a = y := by
  cases x with
  | error e => cases h
  | ok a => exact ⟨a, rfl, Except.ok.inj h⟩

/-- A choice between two steps that go on alike is a step that goes on. -/
theorem ite_bind {c : Prop} [Decidable c] (x y : Except ε α) (f : α → Except ε β) :
    (if c then x >>= f else y >>= f) = (if c then x else y) >>= f := by
  split <;> rfl

/-- A run has one result. -/
theorem ok_unique {x : Except ε (α × β)} {a a' : α} {y y' : β} (h : x = .ok (a, y))
    (h' : x = .ok (a', y')) : a = a' ∧ y = y' :=
  Prod.mk.inj (Except.ok.inj (h.symm.trans h'))

/-- What is left of a run as an option is the result of a run that succeeded. -/
theorem eq_ok_of_toOption {x : Except ε α} {a : α} (h : x.toOption = some a) : x = .ok a := by
  cases x with
  | error e => cases h
  | ok a' => exact congrArg Except.ok (Option.some.inj h)

/-- A run that has succeeded has a result, of which the same is true. -/
theorem exists_ok_of_any {x : Except ε α} {p : α → Bool} (h : x.toOption.any p = true) :
    ∃ a, x = .ok a ∧ p a = true := by
  obtain ⟨a, result, holds⟩ := (Option.any_eq_true ..).mp h
  exact ⟨a, eq_ok_of_toOption result, holds⟩

/-- **A loop succeeds if its states have a property that lets every step succeed.** -/
theorem exists_foldlM_eq_ok {P : β → Prop} {f : β → α → Except ε β} {l : List α} {init : β}
    (start : P init) (step : ∀ s, ∀ x ∈ l, P s → ∃ t, f s x = .ok t ∧ P t) :
    ∃ s, l.foldlM f init = .ok s ∧ P s := by
  induction l generalizing init with
  | nil => exact ⟨init, rfl, start⟩
  | cons x l ih =>
    obtain ⟨t, first, ht⟩ := step init x List.mem_cons_self start
    obtain ⟨s, rest, hs⟩ := ih ht fun s y mem => step s y (List.mem_cons_of_mem x mem)
    refine ⟨s, ?_, hs⟩
    rw [List.foldlM_cons, first]
    exact rest

/-- **What every successful step keeps, the whole loop keeps.** -/
theorem foldlM_induction {P : β → Prop} {f : β → α → Except ε β} {l : List α} {init s : β}
    (run : l.foldlM f init = .ok s) (start : P init)
    (step : ∀ s, ∀ x ∈ l, ∀ t, P s → f s x = .ok t → P t) : P s := by
  induction l generalizing init with
  | nil =>
    cases run
    exact start
  | cons x l ih =>
    rw [List.foldlM_cons] at run
    obtain ⟨t, first, rest⟩ := bind_eq_ok run
    exact ih rest (step init x List.mem_cons_self t start first)
      fun s y mem => step s y (List.mem_cons_of_mem x mem)

/-- Two loops agree if their steps agree on the states that come up. -/
theorem foldlM_congr {P : β → Prop} {f g : β → α → Except ε β} {l : List α} {init : β}
    (start : P init) (same : ∀ s x, P s → f s x = g s x)
    (keeps : ∀ s x t, P s → f s x = .ok t → P t) : l.foldlM f init = l.foldlM g init := by
  induction l generalizing init with
  | nil => rfl
  | cons x l ih =>
    rw [List.foldlM_cons, List.foldlM_cons, ← same init x start]
    cases first : f init x with
    | error e => rfl
    | ok t => exact ih (keeps init x t start first)

/-- A loop over lists that are strung together is a loop of loops. -/
theorem foldlM_flatMap {γ : Type} (f : β → α → Except ε β) (g : γ → List α) (l : List γ)
    (init : β) : (l.flatMap g).foldlM f init = l.foldlM (fun s y => (g y).foldlM f s) init := by
  induction l generalizing init with
  | nil => rfl
  | cons y l ih =>
    rw [List.flatMap_cons, List.foldlM_append, List.foldlM_cons]
    exact congrArg _ (funext ih)

/-- Answering for each member of a list succeeds if every single answer does. -/
theorem exists_mapM_eq_ok {P : α → β → Prop} {f : α → Except ε β} {l : List α}
    (each : ∀ x ∈ l, ∃ y, f x = .ok y ∧ P x y) : ∃ ys, l.mapM f = .ok ys ∧ List.Forall₂ P l ys := by
  induction l with
  | nil => exact ⟨[], rfl, .nil⟩
  | cons x l ih =>
    obtain ⟨y, first, hy⟩ := each x List.mem_cons_self
    obtain ⟨ys, rest, hys⟩ := ih fun z mem => each z (List.mem_cons_of_mem x mem)
    refine ⟨y :: ys, ?_, .cons hy hys⟩
    rw [List.mapM_cons, first, rest]
    rfl

end SnapBlocks
