import LockRegistry.Proofs.Locking.Tenure

namespace LockRegistry

def Lock.key (l : Lock) : LockKey := ⟨l.office, l.project, l.application⟩

def Grant.key (g : Grant) : GrantKey := ⟨g.office, g.user, g.projectMask, g.applicationMask⟩

lemma Lock.isFor_iff {l : Lock} {key : LockKey} : l.isFor key = true ↔ l.key = key := by
  obtain ⟨office, project, application⟩ := key
  simp [isFor, Lock.key, and_assoc]

structure Lock.Kept (key : LockKey) (l : Lock) : Prop where
  isFor : l.isFor key = true
  named : isLockId l.lockId = true
  stamp : l.revokeRequestedBy.isSome = l.revokeRequestedAt.isSome

structure Grant.Kept (last : Int) (key : GrantKey) (g : Grant) : Prop where
  key : g.key = key
  positive : 1 ≤ g.id
  given : g.id ≤ last

structure Lock.Keeps (l l' : Lock) : Prop where
  same : l'.unstamped = l.unstamped
  requestedBy : l.revokeRequestedBy.isSome = true → l'.revokeRequestedBy.isSome = true
  requestedAt : l.revokeRequestedAt.isSome = true → l'.revokeRequestedAt.isSome = true

structure Grant.Keeps (g g' : Grant) : Prop where
  key : g'.key = g.key
  id : g'.id = g.id
  createdAt : g'.createdAt = g.createdAt

lemma Lock.Keeps.refl (l : Lock) : l.Keeps l := ⟨rfl, id, id⟩

lemma Lock.Keeps.trans {l l' l'' : Lock} (h : l.Keeps l') (h' : l'.Keeps l'') : l.Keeps l'' :=
  ⟨h'.same.trans h.same, h'.requestedBy ∘ h.requestedBy, h'.requestedAt ∘ h.requestedAt⟩

lemma Grant.Keeps.refl (g : Grant) : g.Keeps g := ⟨rfl, rfl, rfl⟩

lemma Grant.Keeps.trans {g g' g'' : Grant} (h : g.Keeps g') (h' : g'.Keeps g'') : g.Keeps g'' :=
  ⟨h'.key.trans h.key, h'.id.trans h.id, h'.createdAt.trans h.createdAt⟩

namespace Store

variable {s : Store} {now : Timestamp} {key : LockKey} {c : Call}

structure Kept (s : Store) : Prop where
  locks : ∀ key l, s.locks.find? key = some l → l.Kept key
  grants : ∀ key g, s.grants.find? key = some g → g.Kept s.lastGrantId key
  grantIds : ∀ key key' g g', s.grants.find? key = some g → s.grants.find? key' = some g' →
    g.id = g'.id → key = key'
  begun : 0 ≤ s.lastGrantId

def NamedOnce (s : Store) : Prop :=
  ∀ key key' l l', s.locks.find? key = some l → s.locks.find? key' = some l' →
    l.lockId = l'.lockId → key = key'

-- One, if the call finds none to refresh.
def grantsMade (s : Store) : Call → Nat
  | .upsertGrant g => if s.grants.contains g.key then 0 else 1
  | _ => 0

lemma kept_empty : empty.Kept where
  locks _ _ held := by cases held
  grants _ _ held := by cases held
  grantIds _ _ _ _ held := by cases held
  begun := Int.le_refl 0

lemma namedOnce_empty : empty.NamedOnce := fun _ _ _ _ h => by cases h

lemma LockStep.keeps {l l' : Lock} (h : LockStep now key c (some l) (some l')) : l.Keeps l' := by
  cases h with
  | kept => exact .refl l
  | stamped _ user => exact ⟨rfl, fun _ => rfl, fun _ => rfl⟩

lemma LockStep.lockId {row : Option Lock} {l : Lock} (h : LockStep now key c row (some l)) :
    (∃ old, row = some old ∧ old.lockId = l.lockId) ∨
      ∃ new, c = .insertLock new ∧ new.key = key ∧ new.lockId = l.lockId := by
  cases h with
  | kept => exact .inl ⟨l, rfl, rfl⟩
  | inserted new own => exact .inr ⟨new, rfl, own, rfl⟩
  | stamped old user => exact .inl ⟨old, rfl, rfl⟩

variable [Regex.Engine]

lemma lastGrantId_apply (s : Store) (now : Timestamp) (c : Call) :
    (s.apply now c).2.lastGrantId = s.lastGrantId + s.grantsMade c := by
  cases c with
  | upsertGrant g =>
    simp only [apply, upsertGrant, grantsMade, Table.contains_eq_isSome]
    cases s.grants.find? g.key with
    | some old => exact (Int.add_zero _).symm
    | none => rfl
  | insertLock l =>
    simp only [apply, insertLock]
    split <;> exact (Int.add_zero _).symm
  | deleteLockNamed office lockId =>
    simp only [apply, deleteLockNamed]
    split <;> exact (Int.add_zero _).symm
  | markRevocation key lockId user =>
    simp only [apply, markRevocation]
    repeat' split
    all_goals exact (Int.add_zero _).symm
  | _ => exact (Int.add_zero _).symm

lemma lastGrantId_le (s : Store) (now : Timestamp) (c : Call) :
    s.lastGrantId ≤ (s.apply now c).2.lastGrantId := by
  rw [lastGrantId_apply]
  omega

lemma GrantStep.keeps {last : Int} {key : GrantKey} {g g' : Grant}
    (h : GrantStep now last key c (some g) (some g')) : g.Keeps g' := by
  cases h with
  | kept => exact .refl g
  | refreshed new own => exact ⟨rfl, rfl, rfl⟩

lemma GrantStep.keeps_or_made {last : Int} {key : GrantKey} {row : Option Grant} {g : Grant}
    (h : GrantStep now last key c row (some g)) :
    (∃ old, row = some old ∧ old.Keeps g) ∨
      ∃ new, c = .upsertGrant new ∧ new.key = key ∧ row = none ∧
        g = new.toGrant (last + 1) now := by
  cases h with
  | kept => exact .inl ⟨g, rfl, .refl g⟩
  | made new own => exact .inr ⟨new, rfl, own, rfl, rfl⟩
  | refreshed new own old => exact .inl ⟨old, rfl, rfl, rfl, rfl⟩

lemma Kept.lock_apply (h : s.Kept) (valid : ∀ l, c = .insertLock l → isLockId l.lockId = true)
    {l : Lock} (held : (s.apply now c).2.locks.find? key = some l) : l.Kept key := by
  have step := lockStep s now key c
  rw [held] at step
  generalize hr : s.locks.find? key = row at step
  cases step with
  | kept => exact h.locks key l hr
  | inserted new own => exact ⟨own ▸ new.isFor_toLock now, valid new rfl, rfl⟩
  | stamped old user =>
    obtain ⟨isFor, named, -⟩ := h.locks key old hr
    exact ⟨isFor, named, rfl⟩

lemma Kept.grant_apply (h : s.Kept) {key : GrantKey} {g : Grant}
    (held : (s.apply now c).2.grants.find? key = some g) :
    g.Kept (s.apply now c).2.lastGrantId key := by
  have step := grantStep s now key c
  rw [held] at step
  rcases step.keeps_or_made with ⟨old, held', keeps⟩ | ⟨new, rfl, rfl, free, rfl⟩
  · obtain ⟨own, positive, given⟩ := h.grants key old held'
    rw [← keeps.id] at positive given
    exact ⟨keeps.key.trans own, positive, Int.le_trans given (lastGrantId_le s now c)⟩
  · have begun := h.begun
    refine ⟨rfl, ?_, ?_⟩
    · simp only [NewGrant.toGrant]
      omega
    · simp [lastGrantId_apply, grantsMade, Table.contains_eq_isSome, free, NewGrant.toGrant]

lemma Kept.grantIds_apply (h : s.Kept) {key key' : GrantKey} {g g' : Grant}
    (held : (s.apply now c).2.grants.find? key = some g)
    (held' : (s.apply now c).2.grants.find? key' = some g') (same : g.id = g'.id) : key = key' := by
  have step := grantStep s now key c
  have step' := grantStep s now key' c
  rw [held] at step
  rw [held'] at step'
  -- an id that is given now is greater than every id given before
  rcases step.keeps_or_made with ⟨old, ho, keeps⟩ | ⟨new, rfl, rfl, -, rfl⟩
  · rcases step'.keeps_or_made with ⟨old', ho', keeps'⟩ | ⟨new', rfl, rfl, -, rfl⟩
    · exact h.grantIds key key' old old' ho ho' (keeps.id.symm.trans (same.trans keeps'.id))
    · have given := (h.grants key old ho).given
      have fresh : g.id = s.lastGrantId + 1 := same
      rw [keeps.id] at fresh
      omega
  · rcases step'.keeps_or_made with ⟨old', ho', keeps'⟩ | ⟨new', hc, rfl, -, rfl⟩
    · have given := (h.grants key' old' ho').given
      have fresh : s.lastGrantId + 1 = g'.id := same
      rw [keeps'.id] at fresh
      omega
    · cases hc
      rfl

lemma Kept.apply (h : s.Kept) (now : Timestamp)
    (valid : ∀ l, c = .insertLock l → isLockId l.lockId = true) : (s.apply now c).2.Kept where
  locks _ _ := h.lock_apply valid
  grants _ _ := h.grant_apply
  grantIds _ _ _ _ := h.grantIds_apply
  begun := Int.le_trans h.begun (lastGrantId_le s now c)

lemma NamedOnce.apply (h : s.NamedOnce) (now : Timestamp)
    (fresh : ∀ l, c = .insertLock l → ∀ key row, s.locks.find? key = some row →
      row.lockId = l.lockId → key = l.key) : (s.apply now c).2.NamedOnce := by
  intro key key' l l' held held' same
  have step := lockStep s now key c
  have step' := lockStep s now key' c
  rw [held] at step
  rw [held'] at step'
  rcases step.lockId with ⟨old, ho, named⟩ | ⟨new, rfl, rfl, named⟩
  · rcases step'.lockId with ⟨old', ho', named'⟩ | ⟨new', rfl, rfl, named'⟩
    · exact h key key' old old' ho ho' (named.trans (same.trans named'.symm))
    · exact fresh new' rfl key old ho (named.trans (same.trans named'.symm))
  · rcases step'.lockId with ⟨old', ho', named'⟩ | ⟨new', hc, rfl, -⟩
    · exact (fresh new rfl key' old' ho' (named'.trans (same.symm.trans named.symm))).symm
    · cases hc
      rfl

end Store

end LockRegistry
