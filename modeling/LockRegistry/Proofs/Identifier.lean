import LockRegistry.Key
import LockRegistry.Proofs.Checks
import LockRegistry.Proofs.Text.Case

namespace LockRegistry

namespace Field

variable {f : Field} {raw value : String}

lemma trim_casing {value : String} (f : Field) (h : Text.trim value = value) :
    Text.trim (f.casing value) = f.casing value := by
  cases f with
  | office => exact Text.trim_upper h
  | application => exact Text.trim_lower h
  | project | user => exact h

@[simp] lemma casing_casing (f : Field) (value : String) :
    f.casing (f.casing value) = f.casing value := by
  cases f with
  | office => exact Text.upper_upper value
  | application => exact Text.lower_lower value
  | project | user => rfl

lemma eq_casing_of_normalize (h : f.normalize raw = .ok value) : value = f.casing (Text.trim raw) :=
  (normalize_eq_ok_iff.1 h).2

def Takes (f : Field) (raw : String) : Prop :=
  Text.trim raw ≠ "" ∧ hasWildcard (Text.trim raw) = false ∧ (Text.trim raw).length ≤ f.limit

instance (f : Field) (raw : String) : Decidable (f.Takes raw) := inferInstanceAs (Decidable (_ ∧ _))

lemma Takes.normalize (h : f.Takes raw) : f.normalize raw = .ok (f.casing (Text.trim raw)) :=
  normalize_eq_ok_iff.2 ⟨check_eq_ok_iff.2 h, rfl⟩

lemma takes_of_normalize (h : f.normalize raw = .ok value) : f.Takes raw :=
  check_eq_ok_iff.1 (normalize_eq_ok_iff.1 h).1

lemma eq_of_normalize_again {again : String} (h : f.normalize raw = .ok value)
    (h' : f.normalize value = .ok again) : again = value := by
  have first := eq_casing_of_normalize h
  have second := eq_casing_of_normalize h'
  rw [first, trim_casing f (Text.trim_trim raw), casing_casing, ← first] at second
  exact second

lemma recased_casing (f : Field) (s : String) :
    f.casing s = s ∨ Text.Recased s.toList (f.casing s).toList := by
  cases f with
  | office =>
    right
    rw [casing, Text.toList_upper]
    exact Text.recased_upper _
  | application =>
    right
    rw [casing, Text.toList_lower]
    exact Text.recased_lower false _
  | project | user => exact .inl rfl

lemma casing_ne_empty {s : String} (f : Field) (h : s ≠ "") : f.casing s ≠ "" := by
  intro empty
  rcases f.recased_casing s with same | recased
  · exact h (same ▸ empty)
  · rw [empty] at recased
    exact h (String.toList_eq_nil_iff.1 recased.eq_nil)

lemma hasWildcard_casing {s : String} (f : Field) (h : hasWildcard s = false) :
    hasWildcard (f.casing s) = false := by
  rcases f.recased_casing s with same | recased
  · rwa [same]
  · have none : s.toList.countP isWildcard = 0 := by
      simpa [hasWildcard, List.countP_eq_zero] using h
    have still := recased.countP_eq.trans none
    simpa [hasWildcard, List.countP_eq_zero] using still

structure IsNormal (f : Field) (value : String) : Prop where
  trimmed : Text.trim value = value
  nonempty : value ≠ ""
  plain : hasWildcard value = false
  cased : f.casing value = value

-- What is said of a value that is longer than the field allows.
def outgrown? (f : Field) (value : String) : Option ArgumentError :=
  if f.limit < value.length then some (.tooLong f.label f.limit value.length) else none

lemma isNormal_of_normalize (h : f.normalize raw = .ok value) : f.IsNormal value := by
  obtain ⟨checked, rfl⟩ := normalize_eq_ok_iff.1 h
  obtain ⟨nonempty, plain, -⟩ := check_eq_ok_iff.1 checked
  exact ⟨trim_casing f (Text.trim_trim raw), casing_ne_empty f nonempty,
    hasWildcard_casing f plain, casing_casing f _⟩

lemma IsNormal.normalize (h : f.IsNormal value) :
    f.normalize value = (f.outgrown? value).elim (.ok value) .error := by
  rw [Field.normalize, h.trimmed, h.cased, check, if_neg (by simpa using h.nonempty),
    if_neg (by simp [h.plain]), outgrown?]
  split <;> rfl

lemma outgrown?_of_casing_eq (h : f.normalize raw = .ok value)
    (still : ∀ s, f.casing s = s) : f.outgrown? value = none := by
  obtain ⟨checked, rfl⟩ := normalize_eq_ok_iff.1 h
  obtain ⟨-, -, short⟩ := check_eq_ok_iff.1 checked
  rw [still, outgrown?, if_neg (Nat.not_lt.2 short)]

end Field

namespace LockKey

variable {k : LockKey}

def Normal (k : LockKey) : Prop :=
  ∃ office project application, ofRaw office project application = .ok k

section Parts

variable {office project application : String}

lemma normalize_of_ofRaw (h : ofRaw office project application = .ok k) :
    Field.office.normalize office = .ok k.office ∧
      Field.project.normalize project = .ok k.project ∧
      Field.application.normalize application = .ok k.application := by
  obtain ⟨o, ho, h₁⟩ := bind_eq_ok.1 h
  obtain ⟨p, hp, h₂⟩ := bind_eq_ok.1 h₁
  obtain ⟨a, ha, h₃⟩ := bind_eq_ok.1 h₂
  cases h₃
  exact ⟨ho, hp, ha⟩

lemma eq_of_ofRaw (h : ofRaw office project application = .ok k) :
    k = ⟨Text.upper (Text.trim office), Text.trim project,
      Text.lower (Text.trim application)⟩ := by
  obtain ⟨ho, hp, ha⟩ := normalize_of_ofRaw h
  obtain ⟨o, p, a⟩ := k
  obtain rfl := Field.eq_casing_of_normalize ho
  obtain rfl := Field.eq_casing_of_normalize hp
  obtain rfl := Field.eq_casing_of_normalize ha
  rfl

lemma takes_of_ofRaw (h : ofRaw office project application = .ok k) :
    Field.office.Takes office ∧ Field.project.Takes project ∧
      Field.application.Takes application := by
  obtain ⟨ho, hp, ha⟩ := normalize_of_ofRaw h
  exact ⟨Field.takes_of_normalize ho, Field.takes_of_normalize hp, Field.takes_of_normalize ha⟩

end Parts

lemma Normal.fields (h : k.Normal) :
    (∃ raw, Field.office.normalize raw = .ok k.office) ∧
      (∃ raw, Field.project.normalize raw = .ok k.project) ∧
      ∃ raw, Field.application.normalize raw = .ok k.application := by
  obtain ⟨office, project, application, h⟩ := h
  obtain ⟨ho, hp, ha⟩ := normalize_of_ofRaw h
  exact ⟨⟨office, ho⟩, ⟨project, hp⟩, application, ha⟩

def outgrown? (k : LockKey) : Option ArgumentError :=
  (Field.office.outgrown? k.office).or (Field.application.outgrown? k.application)

lemma Normal.ofRaw_parts (h : k.Normal) :
    ofRaw k.office k.project k.application = k.outgrown?.elim (.ok k) .error := by
  obtain ⟨⟨_, ho⟩, ⟨_, hp⟩, _, ha⟩ := h.fields
  rw [ofRaw, (Field.isNormal_of_normalize ho).normalize, (Field.isNormal_of_normalize hp).normalize,
    (Field.isNormal_of_normalize ha).normalize, Field.outgrown?_of_casing_eq hp fun _ => rfl,
    outgrown?]
  cases Field.office.outgrown? k.office with
  | some e => rfl
  | none => cases Field.application.outgrown? k.application <;> rfl

end LockKey

end LockRegistry
