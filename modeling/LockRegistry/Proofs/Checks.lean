import Mathlib.Data.List.Forall2
import Mathlib.Tactic.Lemma

namespace LockRegistry

variable {ε α β : Type}

lemma ok_bind (a : α) (f : α → Except ε β) : Except.ok a >>= f = f a := rfl

lemma error_bind (e : ε) (f : α → Except ε β) : Except.error e >>= f = .error e := rfl

lemma bind_eq_ok {x : Except ε α} {f : α → Except ε β} {b : β} :
    x >>= f = .ok b ↔ ∃ a, x = .ok a ∧ f a = .ok b := by
  cases x with
  | ok a => simp [ok_bind]
  | error e => simp [error_bind]

lemma map_eq_ok {x : Except ε α} {f : α → β} {b : β} :
    x.map f = .ok b ↔ ∃ a, x = .ok a ∧ f a = b := by
  cases x <;> simp [Except.map]

lemma mapM_eq_ok {f : α → Except ε β} {l : List α} {bs : List β} :
    l.mapM f = .ok bs ↔ List.Forall₂ (fun a b => f a = .ok b) l bs := by
  induction l generalizing bs with
  | nil =>
    rw [List.forall₂_nil_left_iff]
    exact ⟨fun h => (Except.ok.inj h).symm, fun h => h ▸ rfl⟩
  | cons a l ih =>
    rw [List.mapM_cons, List.forall₂_cons_left_iff, bind_eq_ok]
    constructor
    · rintro ⟨b, first, h⟩
      obtain ⟨bs', others, h⟩ := bind_eq_ok.1 h
      exact ⟨b, bs', first, ih.1 others, (Except.ok.inj h).symm⟩
    · rintro ⟨b, bs', first, others, rfl⟩
      exact ⟨b, first, bind_eq_ok.2 ⟨bs', ih.2 others, rfl⟩⟩

lemma mapM_ok {f : α → Except ε β} {g : α → β} {l : List α} (ok : ∀ a ∈ l, f a = .ok (g a)) :
    l.mapM f = .ok (l.map g) := by
  rw [mapM_eq_ok, List.forall₂_map_right_iff, List.forall₂_same]
  exact ok

lemma require_eq_ok {b : Bool} {x : Except ε Bool} :
    (if (!b) = true then pure false else x) = .ok true ↔ b = true ∧ x = .ok true := by
  cases b with
  | true => simp
  | false => simp [pure, Except.pure]

lemma require_ok {b : Bool} {x : Except ε Bool} (h : ∃ c, x = .ok c) :
    ∃ c, (if (!b) = true then pure false else x) = .ok c := by
  cases b with
  | true => exact h
  | false => exact ⟨false, rfl⟩

end LockRegistry
