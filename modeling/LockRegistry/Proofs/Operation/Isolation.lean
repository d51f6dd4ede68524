import LockRegistry.Proofs.Authority.Verdicts
import LockRegistry.Proofs.Sessions.Alone
import LockRegistry.Regex.Runner

/-! What an operation leaves alone: rows on other keys, of other offices and to other users, and the
rights of anybody else. -/

namespace LockRegistry

variable [Regex.Engine]

lemma GrantKey.normalize_of_ofRaw {office user projectMask applicationMask : String}
    {key : GrantKey} (h : ofRaw office user projectMask applicationMask = .ok key) :
    Field.office.normalize office = .ok key.office ∧ Field.user.normalize user = .ok key.user := by
  obtain ⟨o, ho, h₁⟩ := bind_eq_ok.1 h
  obtain ⟨u, hu, h₂⟩ := bind_eq_ok.1 h₁
  obtain ⟨p, -, h₃⟩ := bind_eq_ok.1 h₂
  obtain ⟨a, -, ⟨⟩⟩ := bind_eq_ok.1 h₃
  exact ⟨ho, hu⟩

lemma Authority.normalize_of_newGrant
    {office officeMask projectMask applicationMask user : String} {new : NewGrant}
    (h : newGrant office officeMask projectMask applicationMask user = .ok new) :
    Field.office.normalize office = .ok new.key.office ∧
      Field.user.normalize user = .ok new.key.user := by
  obtain ⟨key, hk, hn⟩ := bind_eq_ok.1 h
  obtain ⟨mask, -, ⟨⟩⟩ := bind_eq_ok.1 hn
  exact GrantKey.normalize_of_ofRaw hk

namespace Operation

def ReachesLock : Operation → LockKey → Prop
  | request _ r _ _, key => key = r.key
  | revoke own _, key => key = own
  | release office _, key => Field.office.normalize office = .ok key.office
  | _, _ => False

def ReachesGrants : Operation → (office user : String) → Prop
  | allow office _ _ _ user, o, u | update office user _ _ _ _, o, u
  | removeAll office _ _ user, o, u =>
    Field.office.normalize office = .ok o ∧ Field.user.normalize user = .ok u
  | _, _, _ => False

def ReachesRight (o : Operation) (office : String) (user : Option String) : Prop :=
  ∃ own raw name, Field.office.normalize office = .ok own ∧ user = some raw ∧
    Field.user.normalize raw = .ok name ∧ o.ReachesGrants own name

structure Spares (o : Operation) (s s' : Store) : Prop where
  locks : ∀ key, ¬ o.ReachesLock key → s'.locks.find? key = s.locks.find? key
  grants : ∀ key : GrantKey, ¬ o.ReachesGrants key.office key.user →
    s'.grants.find? key = s.grants.find? key
  rights : ∀ office user project application, ¬ o.ReachesRight office user →
    ∀ ts : List (Turn Unit), ((Authority.mayRevoke office user project application).steps s' ts).1 =
      ((Authority.mayRevoke office user project application).steps s ts).1

variable {o : Operation} {s s' s'' : Store} {c : Call}

namespace Spares

lemma refl (o : Operation) (s : Store) : o.Spares s s :=
  ⟨fun _ _ => rfl, fun _ _ => rfl, fun _ _ _ _ _ _ => rfl⟩

lemma trans (h : o.Spares s s') (h' : o.Spares s' s'') : o.Spares s s'' where
  locks key other := (h'.locks key other).trans (h.locks key other)
  grants key other := (h'.grants key other).trans (h.grants key other)
  rights office user project application other ts :=
    (h'.rights office user project application other ts).trans
      (h.rights office user project application other ts)

end Spares

namespace MayCall

lemma reachesLock_insert {l : NewLock} (h : o.MayCall (.insertLock l)) : o.ReachesLock l.key := by
  cases o with
  | request config r caller lockId =>
    rcases h with ⟨⟨⟩⟩ | ⟨⟨⟩⟩ | ⟨⟨⟩⟩ | ⟨_, ⟨⟩⟩ | ⟨_, _, _, ⟨⟩⟩
    rfl
  | update _ _ _ _ _ allowed => cases allowed <;> simp [MayCall] at h
  | _ => simp [MayCall] at h

lemma reachesGrants_upsert {new : NewGrant} (h : o.MayCall (.upsertGrant new)) :
    o.ReachesGrants new.key.office new.key.user := by
  cases o with
  | allow =>
    obtain ⟨_, hn, ⟨⟩⟩ := h
    exact Authority.normalize_of_newGrant hn
  | update _ _ _ _ _ allowed =>
    cases allowed with
    | true =>
      obtain ⟨_, hn, ⟨⟩⟩ := h
      exact Authority.normalize_of_newGrant hn
    | false => obtain ⟨_, _, ⟨⟩⟩ := h
  | _ => simp [MayCall] at h

lemma reachesGrants_delete {key : GrantKey} (h : o.MayCall (.deleteGrant key)) :
    o.ReachesGrants key.office key.user := by
  cases o with
  | update _ _ _ _ _ allowed =>
    cases allowed with
    | true => obtain ⟨_, _, ⟨⟩⟩ := h
    | false =>
      obtain ⟨_, hk, ⟨⟩⟩ := h
      exact GrantKey.normalize_of_ofRaw hk
  | _ => simp [MayCall] at h

lemma reachesGrants_clear {office user : String} {officeMask applicationMask : Mask}
    (h : o.MayCall (.deleteGrants office officeMask applicationMask user)) :
    o.ReachesGrants office user := by
  cases o with
  | removeAll =>
    obtain ⟨_, _, _, _, ho, hu, -, -, ⟨⟩⟩ := h
    exact ⟨ho, hu⟩
  | update _ _ _ _ _ allowed => cases allowed <;> simp [MayCall] at h
  | _ => simp [MayCall] at h

end MayCall

lemma find?_lock_of_mayCall (placed : s.Placed) (h : o.MayCall c) (now : Timestamp) {key : LockKey}
    (other : ¬ o.ReachesLock key) : (s.apply now c).2.locks.find? key = s.locks.find? key := by
  have step := Store.lockStep s now key c
  generalize before : s.locks.find? key = row at step ⊢
  generalize (s.apply now c).2.locks.find? key = row' at step ⊢
  cases step with
  | kept => rfl
  | inserted l own => exact absurd (own ▸ h.reachesLock_insert) other
  | stamped l user =>
    obtain ⟨_, _, _, _, rfl, rfl, -⟩ := h.stamp
    exact absurd rfl other
  | revoked l =>
    obtain ⟨_, rfl⟩ := h.revoke
    exact absurd rfl other
  | released l office lockId named =>
    obtain ⟨raw, _, rfl, ho, -⟩ := h.release
    -- a release names no key: the office of the row is that of its key
    obtain rfl := placed.locks key l before
    obtain rfl : l.office = office := (by simpa [Lock.isNamed] using named : _ ∧ _).1
    exact absurd ho other

lemma find?_grant_of_mayCall (placed : s.Placed) (h : o.MayCall c) (now : Timestamp)
    {key : GrantKey} (other : ¬ o.ReachesGrants key.office key.user) :
    (s.apply now c).2.grants.find? key = s.grants.find? key := by
  have step := Store.grantStep s now key c
  generalize before : s.grants.find? key = row at step ⊢
  generalize (s.apply now c).2.grants.find? key = row' at step ⊢
  cases step with
  | kept => rfl
  | made new own | refreshed new own => exact absurd (own ▸ h.reachesGrants_upsert) other
  | removed => exact absurd h.reachesGrants_delete other
  | cleared old office officeMask applicationMask user own =>
    obtain rfl := placed.grants key old before
    simp only [Store.isCleared, Bool.and_eq_true, beq_iff_eq] at own
    obtain ⟨⟨⟨rfl, rfl⟩, -⟩, -⟩ := own
    exact absurd h.reachesGrants_clear other

lemma spares_of_mayCall (placed : s.Placed) (h : o.MayCall c) (now : Timestamp) :
    o.Spares s (s.apply now c).2 where
  locks _ := find?_lock_of_mayCall placed h now
  grants _ := find?_grant_of_mayCall placed h now
  rights office user project application other := by
    refine Authority.steps_mayRevoke_eq placed (placed.apply h now) fun own name raw ho hu hn => ?_
    rintro ⟨_, _, _, _⟩ rfl rfl
    exact find?_grant_of_mayCall placed h now fun reaches => other ⟨_, raw, _, ho, hu, hn, reaches⟩

lemma spares_alone (placed : s.Placed) (o : Operation) (ts : List (Turn Unit)) :
    o.Spares s (o.op.steps s ts).2 := by
  have begins : s.Placed ∧ o.Spares s s := ⟨placed, .refl o s⟩
  have kept := Sessions.instant_induction_of (Sessions.alone o.op s) ts (fun _ => rfl)
    (P := fun t => t.Placed ∧ o.Spares s t) begins
    fun _ t now c may ih => ⟨ih.1.apply may now, ih.2.trans (spares_of_mayCall ih.1 may now)⟩
  rw [Sessions.store_alone, ← Store.instant_of_length_le (Nat.le_refl _)]
  exact (kept _).2

/-- Operations do not interfere but through the rows they are about. -/
theorem isolation (o : Operation) :
    (∀ s : Store, s.Reachable → s.locks.KeyedBy Lock.key ∧ s.grants.KeyedBy Grant.key ∧
      ∀ ts : List (Turn Unit), o.Spares s (o.op.steps s ts).2) ∧
    ∀ {ι : Type} [DecidableEq ι] (calls : ι → Operation) (h : List (Turn ι)) (n : Nat)
      (e : Entry ι), ((Sessions.start calls).journal h)[n]? = some e → calls e.session = o →
        o.Spares (Store.empty.instant ((Sessions.start calls).journal h) n)
          (Store.empty.instant ((Sessions.start calls).journal h) (n + 1)) := by
  constructor
  · intro s hs
    have placed := hs.placed
    exact ⟨placed.locks, placed.grants, spares_alone placed o⟩
  · rintro ι _ calls h n e he rfl
    have placed : (Store.empty.instant ((Sessions.start calls).journal h) n).Placed :=
      Sessions.instant_induction Store.placed_empty (fun _ _ now _ hc hs => hs.apply hc now) n
    rw [Store.instant_succ_of_getElem? he]
    exact spares_of_mayCall placed (Sessions.mayCall_of_getElem? he) e.now

end Operation

end LockRegistry

namespace LockRegistry.Operation

attribute [local instance] Regex.runner

def neighbourCalls (n : Nat) : Operation :=
  .allow "osl" "*" "*" "*" (if n = 0 then "kim" else "ann")

def neighbours : Store :=
  ((Sessions.start neighbourCalls).run ([0, 0, 1, 1].map fun i => ⟨i, .ofNanos 0, 0, false⟩)).store

def departure : Operation := .removeAll " osl" none none "kim "

theorem isolation_departure :
    let turns : List (Turn Unit) := List.replicate 2 ⟨(), .ofNanos 0, 0, false⟩
    let may (user : String) (s : Store) :=
      ((Authority.mayRevoke "osl" (some user) "fence" "editor").steps s turns).1.result?
    let left := (departure.op.steps neighbours turns).2
    may "kim" neighbours = some (.ok true) ∧ may "kim" left = some (.ok false) ∧
      may "ann" left = may "ann" neighbours := by
  intro turns may left
  obtain ⟨alone, -⟩ := isolation departure
  obtain ⟨-, -, spares⟩ := alone neighbours ⟨neighbourCalls, _, rfl⟩
  have others : ¬ departure.ReachesRight "osl" (some "ann") := by
    rintro ⟨_, _, name, -, ⟨⟩, ann, -, kim⟩
    cases (show Except.ok "ann" = Except.ok name from ann)
    exact absurd (Except.ok.inj (show Except.ok "kim" = Except.ok "ann" from kim)) (by decide)
  exact ⟨rfl, rfl, congrArg Op.result? ((spares turns).rights _ _ _ _ others turns)⟩

end LockRegistry.Operation
