import LockRegistry.Json.Decode
import LockRegistry.Proofs.Checks
import LockRegistry.Proofs.Json.Texts

namespace LockRegistry

lemma lookup_graph {α : Type} {names : List String} {name : String} (mem : name ∈ names)
    (value : String → α) :
    (names.map fun name => (name, value name)).lookup name = some (value name) := by
  induction names with
  | nil => cases mem
  | cons first names ih =>
    rw [List.map_cons, List.lookup_cons]
    by_cases here : name = first
    · rw [beq_iff_eq.2 here, here]
    · rw [beq_eq_false_iff_ne.2 here]
      exact ih ((List.mem_cons.1 mem).resolve_left here)

namespace RecordShape

variable {α : Type} {s : RecordShape α} {value : String → α} {item : String → Json}
  {fields : List (String × Json)}

lemma readFields_ok (complete : ∀ name ∈ s.fields, name ∈ fields.map (·.1))
    (decoded : ∀ f ∈ fields, f.1 ∈ s.fields → s.decode f.2 = .ok (value f.1)) :
    s.readFields fields = .ok (s.fields.map fun name => (name, value name)) := by
  let known := (fields.filter fun f => s.fields.contains f.1).mergeSort fun a b => a.1 ≤ b.1
  have mem_known : ∀ f, f ∈ known ↔ f ∈ fields ∧ f.1 ∈ s.fields := by
    simp [known, List.mem_mergeSort]
  have found : (known.mapM fun f => do return (f.1, ← s.decode f.2)) =
      .ok ((known.map (·.1)).map fun name => (name, value name)) := by
    rw [List.map_map]
    refine mapM_ok fun f mem => ?_
    obtain ⟨given, declared⟩ := (mem_known f).1 mem
    rw [decoded f given declared]
    rfl
  -- what was decoded is looked up by name, wherever it stands
  rw [readFields, found, ok_bind]
  refine mapM_ok fun name declared => ?_
  obtain ⟨f, given, rfl⟩ := List.mem_map.1 (complete name declared)
  rw [lookup_graph (List.mem_map_of_mem ((mem_known f).2 ⟨given, declared⟩))]

lemma readItems_ok (decoded : ∀ name ∈ s.fields, s.decode (item name) = .ok (value name)) :
    s.readItems (s.fields.map item) = .ok (s.fields.map fun name => (name, value name)) := by
  have pairs : s.fields.zip (s.fields.map item) = s.fields.map fun name => (name, item name) := by
    calc s.fields.zip (s.fields.map item)
        = (s.fields.map id).zip (s.fields.map item) := by rw [List.map_id]
      _ = s.fields.map fun name => (name, item name) := List.zip_map'
  have found : ((s.fields.zip (s.fields.map item)).mapM fun f => do return (f.1, ← s.decode f.2)) =
      .ok (s.fields.map fun name => (name, value name)) := by
    rw [pairs, mapM_eq_ok, List.forall₂_map_left_iff, List.forall₂_map_right_iff,
      List.forall₂_same]
    intro name declared
    rw [decoded name declared]
    rfl
  rw [readItems, found, ok_bind, List.length_map, if_neg (Nat.lt_irrefl _),
    if_neg (Nat.lt_irrefl _)]

section Read

variable [Inhabited α]

lemma read_obj (complete : ∀ name ∈ s.fields, name ∈ fields.map (·.1))
    (decoded : ∀ f ∈ fields, f.1 ∈ s.fields → s.decode f.2 = .ok (value f.1)) :
    ∃ field, s.read (.obj fields) = .ok field ∧ ∀ name ∈ s.fields, field name = value name := by
  refine ⟨_, by rw [read, readFields_ok complete decoded, ok_bind]; rfl, fun name declared => ?_⟩
  rw [lookup_graph declared, Option.getD_some]

lemma read_arr (decoded : ∀ name ∈ s.fields, s.decode (item name) = .ok (value name)) :
    ∃ field, s.read (.arr (s.fields.map item)) = .ok field ∧
      ∀ name ∈ s.fields, field name = value name := by
  refine ⟨_, by rw [read, readItems_ok decoded, ok_bind]; rfl, fun name declared => ?_⟩
  rw [lookup_graph declared, Option.getD_some]

end Read

end RecordShape

end LockRegistry
