import Mathlib.Data.List.Forall2
import Mathlib.Data.Option.Basic

/-!
# Lists and options of related values

Two lists whose members are related one by one stay so when they are searched, filtered, mapped or joined in the same
way.
-/
namespace ClassOutline

variable {α β : Type} {R : α → β → Prop}

theorem rel_find? {p : α → Bool} {q : β → Bool} (hpq : ∀ x y, R x y → p x = q y) {xs : List α} {ys : List β}
    (h : List.Forall₂ R xs ys) : Option.Rel R (xs.find? p) (ys.find? q) := by
  induction h with
  | nil => exact .none
  | @cons x y xs ys hxy _ ih =>
    rw [List.find?_cons, List.find?_cons, hpq x y hxy]
    cases q y with
    | true => exact .some hxy
    | false => exact ih

theorem forall₂_filter {p : α → Bool} {q : β → Bool} (hpq : ∀ x y, R x y → p x = q y) {xs : List α} {ys : List β}
    (h : List.Forall₂ R xs ys) : List.Forall₂ R (xs.filter p) (ys.filter q) :=
  List.rel_filter (fun x y hxy => by simp [hpq x y hxy]) h

theorem rel_head? {xs : List α} {ys : List β} (h : List.Forall₂ R xs ys) : Option.Rel R xs.head? ys.head? := by
  cases h with
  | nil => exact .none
  | cons hxy _ => exact .some hxy

theorem rel_getLast? {xs : List α} {ys : List β} (h : List.Forall₂ R xs ys) :
    Option.Rel R xs.getLast? ys.getLast? := by
  rw [← List.head?_reverse, ← List.head?_reverse]
  exact rel_head? (List.forall₂_reverse_iff.mpr h)

theorem rel_orElse {o p : Option α} {o' p' : Option β} (ho : Option.Rel R o o') (hp : Option.Rel R p p') :
    Option.Rel R (o.orElse fun _ => p) (o'.orElse fun _ => p') := by
  cases ho with
  | none => exact hp
  | some hxy => exact .some hxy

theorem forall₂_toList {o : Option α} {o' : Option β} (h : Option.Rel R o o') :
    List.Forall₂ R o.toList o'.toList := by
  cases h with
  | none => exact .nil
  | some hxy => exact .cons hxy .nil

theorem map_eq_of_rel {γ : Type} {f : α → γ} {g : β → γ} {o : Option α} {o' : Option β} (h : Option.Rel R o o')
    (hfg : ∀ x ∈ o, ∀ y, R x y → f x = g y) : o.map f = o'.map g := by
  cases h with
  | none => rfl
  | some hxy => rw [Option.map_some, Option.map_some, hfg _ rfl _ hxy]

theorem map_eq_of_forall₂ {γ : Type} {f : α → γ} {g : β → γ} {xs : List α} {ys : List β} (h : List.Forall₂ R xs ys)
    (hfg : ∀ x ∈ xs, ∀ y, R x y → f x = g y) : xs.map f = ys.map g := by
  induction h with
  | nil => rfl
  | cons hxy _ ih =>
    rw [List.map_cons, List.map_cons, hfg _ List.mem_cons_self _ hxy,
      ih fun x hx => hfg x (List.mem_cons_of_mem _ hx)]

theorem flatMap_eq_of_forall₂ {γ : Type} {f : α → List γ} {g : β → List γ} {xs : List α} {ys : List β}
    (h : List.Forall₂ R xs ys) (hfg : ∀ x ∈ xs, ∀ y, R x y → f x = g y) : xs.flatMap f = ys.flatMap g := by
  rw [List.flatMap_def, List.flatMap_def, map_eq_of_forall₂ h hfg]

theorem filterMap_eq_of_forall₂ {γ : Type} {f : α → Option γ} {g : β → Option γ} {xs : List α} {ys : List β}
    (h : List.Forall₂ R xs ys) (hfg : ∀ x ∈ xs, ∀ y, R x y → f x = g y) : xs.filterMap f = ys.filterMap g := by
  rw [List.filterMap_eq_flatMap_toList, List.filterMap_eq_flatMap_toList]
  apply flatMap_eq_of_forall₂ h
  intro x hx y hxy
  rw [hfg x hx y hxy]

theorem forall₂_flatMap {γ δ : Type} {P : γ → δ → Prop} {f : α → List γ} {g : β → List δ} {xs : List α}
    {ys : List β} (h : List.Forall₂ R xs ys) (hfg : ∀ x ∈ xs, ∀ y, R x y → List.Forall₂ P (f x) (g y)) :
    List.Forall₂ P (xs.flatMap f) (ys.flatMap g) := by
  induction h with
  | nil => exact .nil
  | cons hxy _ ih =>
    rw [List.flatMap_cons, List.flatMap_cons]
    exact List.rel_append (hfg _ List.mem_cons_self _ hxy) (ih fun x hx => hfg x (List.mem_cons_of_mem _ hx))

end ClassOutline
