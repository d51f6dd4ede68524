import LockRegistry.Json.Forms
import LockRegistry.Proofs.Json.Records
import LockRegistry.Proofs.Mask.Kept
import LockRegistry.Proofs.Mask.Pieces
import LockRegistry.Regex.Runner

/-! The text that is kept of a mask says all there is to say of it. -/

namespace LockRegistry

def Json.Conveys {ε α : Type} (j : Json) (decode : Json → Except ε α) (a : α) : Prop :=
  Json.parse? j.compact = some j ∧ decode j = .ok a

namespace Mask

open Text (Cut cut_cons)

lemma isStars_kept (raw : String) : isStars (kept raw) = isStars raw := by
  by_cases stars : isStars raw = true
  · rw [kept, if_pos stars, stars]
    rfl
  · rw [kept, if_neg stars, isStars, Text.trim_trim, isStars]

lemma runs_of_cut_nil {cs : List Char} (cut : Cut Stands cs []) : ∀ c ∈ cs, c = runWildcard := by
  induction cs with
  | nil => exact List.forall_mem_nil _
  | cons c cs ih =>
    obtain ⟨piece, rest, stands, cut, split⟩ := cut_cons.1 cut
    obtain ⟨rfl, rfl⟩ := List.append_eq_nil_iff.1 split.symm
    refine List.forall_mem_cons.2 ⟨?_, ih cut⟩
    unfold Stands at stands
    split at stands
    · assumption
    · split at stands
      · obtain ⟨d, ⟨⟩⟩ := stands
      · obtain ⟨d, ⟨⟩, -⟩ := stands

end Mask

section Engine

variable [Regex.Engine]

namespace Mask

variable {raw raw' : String} {m : Mask}

def program (raw : String) : Option String :=
  if isStars raw then none else some (source (Text.trim raw))

lemma program_kept (raw : String) : program (kept raw) = program raw := by
  rw [program, isStars_kept, trim_kept, program]
  by_cases stars : isStars raw = true
  · rw [if_pos stars, if_pos stars]
  · rw [if_neg stars, if_neg stars, kept, if_neg stars]

lemma regex?_kept (raw : String) : regex? ⟨kept raw⟩ = program raw := by
  unfold kept program
  by_cases stars : isStars raw = true
  · rw [if_pos stars, if_pos stars]
    rfl
  · have other : Text.trim raw ≠ any.pattern := fun star => stars (by rw [isStars, star]; rfl)
    rw [if_neg stars, if_neg stars, regex?, if_neg other]

lemma isAny_kept (raw : String) : isAny ⟨kept raw⟩ = isStars raw := by
  rw [isAny, regex?_kept, program]
  cases isStars raw <;> rfl

lemma accepts_kept (raw value : String) :
    accepts ⟨kept raw⟩ value = (program raw).all (Regex.isMatch · value) := by
  rw [accepts, regex?_kept]
  cases program raw <;> rfl

lemma runs_of_accepts_empty (h : m.accepts "" = true) :
    ∀ c ∈ m.pattern.toList, c = runWildcard := by
  rw [accepts_iff_cut, String.toList_empty] at h
  exact runs_of_cut_nil h

lemma isStars_of_accepts_empty (h : accepts ⟨kept raw⟩ "" = true) : isStars raw = true := by
  have stars := runs_of_accepts_empty h
  dsimp only at stars
  rw [← isStars_kept, isStars, trim_kept, List.all_eq_true]
  exact fun c mem => beq_iff_eq.2 (stars c mem)

structure Canonical (raw : String) (m : Mask) : Prop where
  any_iff_all : m.isAny = true ↔ ∀ value, m.accepts value = true
  any_iff_empty : m.isAny = true ↔ m.accepts "" = true
  any_of_program : m.isAny = (program raw).isNone
  accepts_of_program : ∀ value, m.accepts value = (program raw).all (Regex.isMatch · value)
  remade : ofString m.pattern = .ok m ∧ program m.pattern = program raw
  conveyed : m.toJson.Conveys ofJson m
  program_eq : ∀ raw', ofString raw' = .ok m → program raw' = program raw

lemma ofJson_toJson (made : ofString raw = .ok m) : ofJson m.toJson = .ok m := by
  rw [ofJson, toJson, Json.string, ok_bind, ofString_pattern made]
  rfl

lemma canonical_of_ofString (made : ofString raw = .ok m) : Canonical raw m := by
  obtain rfl := eq_kept_of_ofString made
  have any_of_program : isAny ⟨kept raw⟩ = (program raw).isNone := by rw [isAny, regex?_kept]
  have all_of_any (any : isAny ⟨kept raw⟩ = true) (value : String) :
      accepts ⟨kept raw⟩ value = true := by
    rw [any_of_program, Option.isNone_iff_eq_none] at any
    rw [accepts_kept, any, Option.all_none]
  have any_of_empty (empty : accepts ⟨kept raw⟩ "" = true) : isAny ⟨kept raw⟩ = true :=
    (isAny_kept raw).trans (isStars_of_accepts_empty empty)
  exact {
    any_iff_all := ⟨all_of_any, fun all => any_of_empty (all "")⟩
    any_iff_empty := ⟨fun any => all_of_any any "", any_of_empty⟩
    any_of_program
    accepts_of_program := accepts_kept raw
    remade := ⟨ofString_pattern made, by dsimp only; rw [program_kept]⟩
    conveyed := ⟨Json.parse?_text _, ofJson_toJson made⟩
    program_eq raw' made' := by
      have same : kept raw = kept raw' := Mask.mk.inj (eq_kept_of_ofString made')
      rw [← program_kept raw', ← same, program_kept] }

end Mask

namespace CatalogFilter

variable {f : CatalogFilter}

structure Made (f : CatalogFilter) : Prop where
  office : ∃ raw, Mask.ofString raw = .ok f.office
  project : ∃ raw, Mask.ofString raw = .ok f.project
  application : ∃ raw, Mask.ofString raw = .ok f.application

def texts (f : CatalogFilter) : List (String × String) :=
  [("office", f.office.pattern), ("project", f.project.pattern),
    ("application", f.application.pattern)]

structure Canonical (f : CatalogFilter) : Prop where
  written : f.toJson = .record f.texts
  object : ∀ texts, texts.Perm f.texts → (Json.record texts).Conveys ofJson f
  array : (Json.arr [f.office.toJson, f.project.toJson, f.application.toJson]).Conveys ofJson f

def mask (f : CatalogFilter) (name : String) : Mask :=
  if name = "office" then f.office else if name = "project" then f.project else f.application

lemma ofJson_of_read {j : Json} {field : String → Mask} (read : shape.read j = .ok field)
    (same : ∀ name ∈ shape.fields, field name = f.mask name) : ofJson j = .ok f := by
  have declared (name : String) (mem : name ∈ ["office", "project", "application"]) :
      field name = f.mask name := same name mem
  rw [ofJson, read, ok_bind, declared "office" (by decide), declared "project" (by decide),
    declared "application" (by decide)]
  rfl

lemma Made.decode (made : f.Made) (name : String) :
    shape.decode (f.mask name).toJson = .ok (f.mask name) := by
  have remade : ∃ raw, Mask.ofString raw = .ok (f.mask name) := by
    unfold mask
    split
    · exact made.office
    · split
      · exact made.project
      · exact made.application
  obtain ⟨raw, remade⟩ := remade
  exact Mask.ofJson_toJson remade

lemma texts_eq_map (f : CatalogFilter) :
    f.texts = shape.fields.map fun name => (name, (f.mask name).pattern) := rfl

lemma Made.read_record (made : f.Made) {texts : List (String × String)}
    (reordered : texts.Perm f.texts) :
    ∃ field, shape.read (.record texts) = .ok field ∧
      ∀ name ∈ shape.fields, field name = f.mask name := by
  rw [texts_eq_map] at reordered
  refine shape.read_obj (fun name declared => ?_) fun x mem _ => ?_
  · have found := reordered.mem_iff.2 (List.mem_map_of_mem declared)
    exact List.mem_map_of_mem (List.mem_map_of_mem found)
  · obtain ⟨text, given, rfl⟩ := List.mem_map.1 mem
    obtain ⟨name, -, rfl⟩ := List.mem_map.1 (reordered.mem_iff.1 given)
    exact made.decode name

lemma canonical_of_made (made : f.Made) : f.Canonical := by
  refine ⟨rfl, fun texts reordered => ?_, ?_⟩
  · have distinct : (f.texts.map (·.1)).Nodup :=
      show ["office", "project", "application"].Nodup by decide
    obtain ⟨field, read, same⟩ := made.read_record reordered
    exact ⟨Json.parse?_record ((reordered.map _).nodup_iff.2 distinct), ofJson_of_read read same⟩
  · obtain ⟨field, read, same⟩ := shape.read_arr fun name _ => made.decode name
    exact ⟨Json.parse?_texts [f.office.pattern, f.project.pattern, f.application.pattern],
      ofJson_of_read read same⟩

end CatalogFilter

theorem Mask.canonical : (∀ raw m, ofString raw = .ok m → Canonical raw m) ∧
    ∀ f : CatalogFilter, f.Made → f.Canonical :=
  ⟨fun _ _ => canonical_of_ofString, fun _ => CatalogFilter.canonical_of_made⟩

end Engine

attribute [local instance] Regex.runner

theorem Mask.canonical_quay : (⟨"qu?y\t*"⟩ : Mask).isAny = false ∧
    program "qu?y\t*" = program " qu?y\t* " ∧
    CatalogFilter.ofJson (.record [("project", "qu?y\t*"), ("application", "*"), ("office", "*")]) =
      .ok { project := ⟨"qu?y\t*"⟩ } := by
  have made : ofString " qu?y\t* " = .ok ⟨"qu?y\t*"⟩ := rfl
  have quay := canonical.1 _ _ made
  have filter := canonical.2 { project := ⟨"qu?y\t*"⟩ } ⟨⟨"", rfl⟩, ⟨_, made⟩, ⟨"**", rfl⟩⟩
  refine ⟨Bool.eq_false_iff.2 fun any => ?_, quay.remade.2, (filter.object _ ?_).2⟩
  · exact absurd (quay.any_iff_empty.1 any) (by decide)
  · decide

end LockRegistry
