import Mathlib.Data.List.Forall2
import Mathlib.Tactic.Lemma

namespace LockRegistry.Text

variable {α β : Type} {fits fits' : α → List Char → Prop} {a : α} {p : List α} {text : List Char}

def Cut (fits : α → List Char → Prop) (p : List α) (text : List Char) : Prop :=
  ∃ pieces, List.Forall₂ fits p pieces ∧ pieces.flatten = text

@[simp] lemma cut_nil : Cut fits [] text ↔ text = [] := by
  simp [Cut, eq_comm]

lemma cut_cons :
    Cut fits (a :: p) text ↔
      ∃ piece rest, fits a piece ∧ Cut fits p rest ∧ text = piece ++ rest := by
  simp only [Cut, List.forall₂_cons_left_iff]
  constructor
  · rintro ⟨_, ⟨piece, pieces, first, others, rfl⟩, rfl⟩
    exact ⟨piece, pieces.flatten, first, ⟨pieces, others, rfl⟩, List.flatten_cons⟩
  · rintro ⟨piece, _, first, ⟨pieces, others, rfl⟩, rfl⟩
    exact ⟨piece :: pieces, ⟨piece, pieces, first, others, rfl⟩, List.flatten_cons⟩

lemma cut_map {f : β → α} {p : List β} :
    Cut fits (p.map f) text ↔ Cut (fun b => fits (f b)) p text := by
  simp only [Cut, List.forall₂_map_left_iff]

lemma Cut.imp (h : Cut fits p text) (weaker : ∀ a piece, fits a piece → fits' a piece) :
    Cut fits' p text := by
  obtain ⟨pieces, all, rfl⟩ := h
  exact ⟨pieces, all.imp weaker, rfl⟩

lemma cut_congr (same : ∀ a piece, fits a piece ↔ fits' a piece) :
    Cut fits p text ↔ Cut fits' p text :=
  ⟨fun h => h.imp fun a piece => (same a piece).1, fun h => h.imp fun a piece => (same a piece).2⟩

end LockRegistry.Text
