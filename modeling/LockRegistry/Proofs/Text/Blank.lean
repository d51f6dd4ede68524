import LockRegistry.Text.Blank
import Mathlib.Tactic.Lemma

namespace LockRegistry.Text

variable {cs ds : List Char}

def Trimmed (cs : List Char) : Prop :=
  (∀ c, cs.head? = some c → isBlank c = false) ∧ ∀ c, cs.getLast? = some c → isBlank c = false

lemma dropBlank_of_head (h : ∀ c, cs.head? = some c → isBlank c = false) : dropBlank cs = cs := by
  cases cs with
  | nil => rfl
  | cons c cs => simp [dropBlank, h c rfl]

lemma head_dropBlank {c : Char} (h : (dropBlank cs).head? = some c) : isBlank c = false := by
  have hn := List.head?_dropWhile_not isBlank cs
  rw [dropBlank] at h
  rw [h] at hn
  exact hn

lemma trimmed_trimList (cs : List Char) : Trimmed (trimList cs) := by
  constructor
  · intro c hc
    obtain ⟨blanks, hb⟩ := List.dropWhile_suffix (l := (dropBlank cs).reverse) isBlank
    -- What the second pass drops stands at the end, so the first character stays.
    have split : dropBlank cs = trimList cs ++ blanks.reverse := by
      rw [← List.reverse_reverse (dropBlank cs), ← hb, List.reverse_append]
      rfl
    apply @head_dropBlank cs
    rw [split, List.head?_append, hc]
    rfl
  · intro c hc
    rw [trimList, List.getLast?_reverse] at hc
    exact head_dropBlank hc

def Blanks (cs : List Char) : Prop := ∀ c ∈ cs, isBlank c = true

lemma dropBlank_append (h : Blanks cs) (ds : List Char) : dropBlank (cs ++ ds) = dropBlank ds :=
  List.dropWhile_append_of_pos h

lemma exists_dropBlank (cs : List Char) : ∃ before, Blanks before ∧ cs = before ++ dropBlank cs :=
  ⟨cs.takeWhile isBlank, List.all_eq_true.1 List.all_takeWhile,
    List.takeWhile_append_dropWhile.symm⟩

lemma Blanks.reverse (h : Blanks cs) : Blanks cs.reverse := fun c hc => h c (List.mem_reverse.1 hc)

lemma exists_trimList (cs : List Char) :
    ∃ before after, Blanks before ∧ Blanks after ∧ cs = before ++ (trimList cs ++ after) := by
  obtain ⟨before, blank, split⟩ := exists_dropBlank cs
  obtain ⟨after, blank', split'⟩ := exists_dropBlank (dropBlank cs).reverse
  refine ⟨before, after.reverse, blank, blank'.reverse, ?_⟩
  rw [trimList, ← List.reverse_append, ← split', List.reverse_reverse]
  exact split

lemma trimList_of_padded {before after : List Char} (blank : Blanks before)
    (blank' : Blanks after) (h : Trimmed cs) : trimList (before ++ (cs ++ after)) = cs := by
  have front : dropBlank (before ++ (cs ++ after)) = dropBlank (cs ++ after) :=
    dropBlank_append blank _
  cases cs with
  | nil =>
    rw [trimList, front, List.nil_append, ← List.append_nil after, dropBlank_append blank']
    rfl
  | cons c cs =>
    have inner : dropBlank (c :: cs ++ after) = c :: cs ++ after :=
      dropBlank_of_head fun d hd => h.1 d hd
    have back : dropBlank (c :: cs).reverse = (c :: cs).reverse :=
      dropBlank_of_head fun d hd => h.2 d (by rwa [List.head?_reverse] at hd)
    rw [trimList, front, inner, List.reverse_append, dropBlank_append blank'.reverse, back,
      List.reverse_reverse]

lemma Trimmed.trimList_eq (h : Trimmed cs) : trimList cs = cs := by
  have padded := trimList_of_padded (List.forall_mem_nil _) (List.forall_mem_nil _) h
  rwa [List.nil_append, List.append_nil] at padded

@[simp] lemma trim_trim (s : String) : trim (trim s) = trim s := by
  rw [trim, toList_trim, (trimmed_trimList _).trimList_eq, ← toList_trim, String.ofList_toList]

end LockRegistry.Text
