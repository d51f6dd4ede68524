import LockRegistry.Grant
import LockRegistry.Proofs.Mask.Kept

namespace LockRegistry

variable [Regex.Engine]

namespace Mask

def Matches (text value : String) : Prop := ∃ m, ofString text = .ok m ∧ m.accepts value = true

end Mask

namespace Grant

variable {g : Grant} {office project application : String}

structure Sound (g : Grant) : Prop where
  office : ∃ raw, g.office = Text.upper raw
  officeMask : ∃ raw m, Mask.ofString raw = .ok m ∧ g.officeMask = Text.upper m.pattern
  projectMask : ∃ raw m, Mask.ofString raw = .ok m ∧ g.projectMask = m.pattern
  applicationMask : ∃ raw m, Mask.ofString raw = .ok m ∧ g.applicationMask = Text.lower m.pattern

structure Permits (g : Grant) (user : String) (key : LockKey) : Prop where
  user : g.user = user
  office : g.office = key.office
  officeMask : Mask.Matches g.officeMask key.office
  projectMask : Mask.Matches g.projectMask key.project
  applicationMask : Mask.Matches g.applicationMask key.application

lemma covers_eq_true : g.covers office project application = .ok true ↔
    Text.sameAscii g.office office = true ∧ Mask.Matches g.officeMask office ∧
      Mask.Matches g.projectMask project ∧ Mask.Matches g.applicationMask application := by
  simp only [covers, bind_eq_ok, require_eq_ok, Mask.Matches]
  constructor
  · rintro ⟨same, mo, ho, ao, mp, hp, ap, ma, ha, aa⟩
    exact ⟨same, ⟨mo, ho, ao⟩, ⟨mp, hp, ap⟩, ma, ha, Except.ok.inj aa⟩
  · rintro ⟨same, ⟨mo, ho, ao⟩, ⟨mp, hp, ap⟩, ma, ha, aa⟩
    exact ⟨same, mo, ho, ao, mp, hp, ap, ma, ha, congrArg _ aa⟩

structure Readable (g : Grant) : Prop where
  officeMask : ∃ m, Mask.ofString g.officeMask = .ok m
  projectMask : ∃ m, Mask.ofString g.projectMask = .ok m
  applicationMask : ∃ m, Mask.ofString g.applicationMask = .ok m

lemma Readable.covers (h : g.Readable) : ∃ b, g.covers office project application = .ok b := by
  obtain ⟨mo, ho⟩ := h.officeMask
  obtain ⟨mp, hp⟩ := h.projectMask
  obtain ⟨ma, ha⟩ := h.applicationMask
  simp only [Grant.covers, ho, hp, ha, ok_bind]
  exact require_ok (require_ok (require_ok ⟨_, rfl⟩))

lemma Sound.readable (byCount : Mask.CompilesByCount) (h : g.Sound) : g.Readable where
  officeMask := by
    obtain ⟨raw, m, made, same⟩ := h.officeMask
    rw [same]
    exact Mask.exists_ofString_upper byCount made
  projectMask := by
    obtain ⟨raw, m, made, same⟩ := h.projectMask
    rw [same]
    exact ⟨m, Mask.ofString_pattern made⟩
  applicationMask := by
    obtain ⟨raw, m, made, same⟩ := h.applicationMask
    rw [same]
    exact Mask.exists_ofString_lower byCount made

lemma Sound.covers (byCount : Mask.CompilesByCount) (h : g.Sound) :
    ∃ b, g.covers office project application = .ok b :=
  (h.readable byCount).covers

lemma Sound.covers_iff (h : g.Sound) (raw : String) :
    g.covers (Text.upper raw) project application = .ok true ↔
      g.Permits g.user ⟨Text.upper raw, project, application⟩ := by
  obtain ⟨own, hown⟩ := h.office
  rw [covers_eq_true, hown, Text.sameAscii_upper, ← hown]
  constructor
  · rintro ⟨same, mo, mp, ma⟩
    exact ⟨rfl, same, mo, mp, ma⟩
  · rintro ⟨-, same, mo, mp, ma⟩
    exact ⟨same, mo, mp, ma⟩

end Grant

end LockRegistry
