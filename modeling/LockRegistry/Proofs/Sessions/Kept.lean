import LockRegistry.Proofs.Locking.DeadIds
import LockRegistry.Proofs.Store.Kept
import LockRegistry.Regex.Runner

/-! A row that stays in the store keeps what identifies it. -/

namespace LockRegistry

lemma related_throughout {ρ : Type} {R : ρ → ρ → Prop} {f : Nat → Option ρ} (refl : ∀ r, R r r)
    (trans : ∀ {a b c}, R a b → R b c → R a c)
    (step : ∀ {n a b}, f n = some a → f (n + 1) = some b → R a b) {m n : Nat} {a b : ρ}
    (before : m ≤ n) (all : ∀ u, m < u → u < n → f u ≠ none) (first : f m = some a)
    (last : f n = some b) : R a b := by
  induction n, before using Nat.le_induction generalizing b with
  | base =>
    cases first.symm.trans last
    exact refl a
  | succ n before ih =>
    cases between : f n with
    | none =>
      rcases Nat.lt_or_eq_of_le before with later | rfl
      · exact absurd between (all n later n.lt_succ_self)
      · cases first.symm.trans between
    | some c =>
      exact trans (ih (fun u hm hn => all u hm (hn.trans n.lt_succ_self)) between)
        (step between last)

namespace Store

variable [Regex.Engine] {ι : Type} {s : Store} {j : List (Entry ι)} {n : Nat}

def grantsGiven (s : Store) : List (Entry ι) → Nat
  | [] => 0
  | e :: j => s.grantsMade e.call + (e.after s).grantsGiven j

def grantAt (s : Store) (j : List (Entry ι)) (n : Nat) (key : GrantKey) : Option Grant :=
  (s.instant j n).grants.find? key

lemma lastGrantId_replay (s : Store) (j : List (Entry ι)) :
    (s.replay j).lastGrantId = s.lastGrantId + s.grantsGiven j := by
  induction j generalizing s with
  | nil => exact (Int.add_zero _).symm
  | cons e j ih =>
    rw [replay_cons, ih, Entry.after, lastGrantId_apply, grantsGiven, Entry.after]
    omega

lemma grantAt_step {e : Entry ι} (he : j[n]? = some e) (key : GrantKey) :
    GrantStep e.now (s.instant j n).lastGrantId key e.call (s.grantAt j n key)
      (s.grantAt j (n + 1) key) := by
  rw [grantAt, grantAt, instant_succ_of_getElem? he]
  exact grantStep ..

lemma keeps_lock {key : LockKey} {l l' : Lock} (held : s.lockAt j n key = some l)
    (held' : s.lockAt j (n + 1) key = some l') : l.Keeps l' := by
  cases he : j[n]? with
  | none =>
    cases held.symm.trans ((lockAt_succ_of_none he key).symm.trans held')
    exact .refl l
  | some e =>
    have step := lockAt_step (s := s) he key
    rw [held, held'] at step
    exact step.keeps

lemma keeps_grant {key : GrantKey} {g g' : Grant} (held : s.grantAt j n key = some g)
    (held' : s.grantAt j (n + 1) key = some g') : g.Keeps g' := by
  cases he : j[n]? with
  | none =>
    have same : s.grantAt j (n + 1) key = s.grantAt j n key := by
      rw [grantAt, grantAt, instant_succ, he]
      rfl
    cases held.symm.trans (same.symm.trans held')
    exact .refl g
  | some e =>
    have step := grantAt_step (s := s) he key
    rw [held, held'] at step
    exact step.keeps

end Store

namespace Sessions

variable {ι : Type} [DecidableEq ι] {calls : ι → Operation} {h : List (Turn ι)}

def ValidIds (calls : ι → Operation) : Prop :=
  ∀ i lockId, (calls i).madeId? = some lockId → isLockId lockId = true

variable [Regex.Engine]

lemma kept_instant (valid : ValidIds calls) (n : Nat) :
    (Store.empty.instant ((start calls).journal h) n).Kept := by
  induction n with
  | zero => exact Store.kept_empty
  | succ n ih =>
    cases he : ((start calls).journal h)[n]? with
    | none =>
      rw [Store.instant_succ, he]
      exact ih
    | some e =>
      rw [Store.instant_succ_of_getElem? he]
      refine ih.apply e.now fun l hc => ?_
      obtain ⟨config, r, caller, lockId, own, rfl⟩ := (hc ▸ mayCall_of_getElem? he).insert
      exact valid e.session lockId (by rw [own]; rfl)

theorem representation (calls : ι → Operation) (valid : ValidIds calls) (h : List (Turn ι)) :
    let j := (start calls).journal h
    (∀ n, (Store.empty.instant j n).Kept) ∧
    (FreshIds calls → ∀ n, (Store.empty.instant j n).NamedOnce) ∧
    (∀ n, (Store.empty.instant j n).lastGrantId = Store.empty.grantsGiven (j.take n)) ∧
    (∀ m n key l l', m ≤ n → (∀ u, m < u → u < n → Store.empty.lockAt j u key ≠ none) →
      Store.empty.lockAt j m key = some l → Store.empty.lockAt j n key = some l' → l.Keeps l') ∧
    ∀ m n key g g', m ≤ n → (∀ u, m < u → u < n → Store.empty.grantAt j u key ≠ none) →
      Store.empty.grantAt j m key = some g → Store.empty.grantAt j n key = some g' →
        g.Keeps g' := by
  intro j
  refine ⟨kept_instant valid, fun fresh n key key' l l' held held' same => ?_, fun n => ?_, ?_, ?_⟩
  · exact key_unique fresh held' held same
  · exact (Store.lastGrantId_replay _ _).trans (Int.zero_add _)
  · intro m n key l l' before all held held'
    exact related_throughout (f := fun u => Store.empty.lockAt j u key) .refl .trans
      Store.keeps_lock before all held held'
  · intro m n key g g' before all held held'
    exact related_throughout (f := fun u => Store.empty.grantAt j u key) .refl .trans
      Store.keeps_grant before all held held'

end Sessions

namespace Sessions

attribute [local instance] Regex.runner

def pleaKey : LockKey := ⟨"OSL", "fence", "editor"⟩

inductive Party where
  | granter
  | holder
  | pleader
deriving DecidableEq

def plea : Party → Operation
  | .granter => .allow "osl" "*" "*" "*" "kim"
  | .holder => .request ⟨250, 10⟩ { key := pleaKey } none (lockIdOfNat 1)
  | .pleader => .request ⟨250, 10⟩ (LockRequest.revoking { key := pleaKey } 60) (some "kim")
      (lockIdOfNat 2)

def pleaTurns : List (Turn Party) :=
  [.granter, .granter, .holder, .holder, .pleader, .pleader, .pleader, .pleader, .pleader,
    .pleader].map fun i => { session := i, now := .ofNanos 0 }

lemma validIds_plea : ValidIds plea := by
  intro i lockId made
  cases i with
  | granter => cases made
  | holder | pleader =>
    cases made
    decide

theorem representation_plea :
    ∃ l l', Store.empty.lockAt ((start plea).journal pleaTurns) 2 pleaKey = some l ∧
      Store.empty.lockAt ((start plea).journal pleaTurns) 6 pleaKey = some l' ∧
      l.revokeRequestedBy = none ∧ l'.revokeRequestedBy = some "kim" ∧ l.Keeps l' := by
  obtain ⟨-, -, -, keeps, -⟩ := representation plea validIds_plea pleaTurns
  have held : Store.empty.lockAt ((start plea).journal pleaTurns) 2 pleaKey =
    some (NewLock.toLock ⟨lockIdOfNat 1, pleaKey, {}⟩ (.ofNanos 0)) := rfl
  have held' : Store.empty.lockAt ((start plea).journal pleaTurns) 6 pleaKey =
    some ((NewLock.toLock ⟨lockIdOfNat 1, pleaKey, {}⟩ (.ofNanos 0)).stamped "kim"
      (.ofNanos 0)) := rfl
  refine ⟨_, _, held, held', rfl, rfl, keeps 2 6 pleaKey _ _ (by decide) ?_ held held'⟩
  intro u hm hn
  obtain rfl | rfl | rfl : u = 3 ∨ u = 4 ∨ u = 5 := by omega
  all_goals decide

end Sessions

end LockRegistry
