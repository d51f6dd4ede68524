import LockRegistry.Proofs.Sessions
import LockRegistry.Proofs.Store.Rows

namespace LockRegistry

def Exchange.acts : Exchange → Bool
  | ⟨.insertLock _, answer⟩ => answer.isSome
  | ⟨.markRevocation _ _ _, answer⟩ => answer
  | ⟨.deleteLockNamed _ _, answer⟩ => answer
  | ⟨.deleteLock _, _⟩ => true
  | ⟨.upsertGrant _, _⟩ => true
  | ⟨.deleteGrant _, _⟩ => true
  | ⟨.deleteGrants _ _ _ _, _⟩ => true
  | _ => false

namespace Store

variable {ι : Type} {s : Store} {now : Timestamp} {key : LockKey}

structure SameBut (key : LockKey) (s s' : Store) : Prop where
  locks : ∀ k, k ≠ key → s'.locks.find? k = s.locks.find? k
  grants : s'.grants = s.grants
  lastGrantId : s'.lastGrantId = s.lastGrantId

lemma SameBut.refl (key : LockKey) (s : Store) : SameBut key s s := ⟨fun _ _ => rfl, rfl, rfl⟩

lemma sameBut_insertLock (s : Store) (now : Timestamp) (l : NewLock) :
    SameBut l.key s (s.insertLock now l).2 := by
  unfold insertLock
  split
  · exact .refl l.key s
  · exact ⟨fun k other => Table.find?_insert_of_ne _ _ other, rfl, rfl⟩

lemma sameBut_markRevocation (s : Store) (now : Timestamp) (key : LockKey) (lockId user : String) :
    SameBut key s (s.markRevocation now key lockId user).2 := by
  unfold markRevocation
  split
  · split
    · exact ⟨fun k other => Table.find?_modify_of_ne _ _ other, rfl, rfl⟩
    · exact .refl key s
  · exact .refl key s

lemma sameBut_deleteLockNamed {office lockId : String} {l : Lock}
    (named : s.lockNamed? office lockId = some (key, l)) :
    SameBut key s (s.deleteLockNamed office lockId).2 := by
  rw [deleteLockNamed, named]
  exact ⟨fun k other => Table.find?_erase_of_ne _ other, rfl, rfl⟩

end Store

variable [Regex.Engine]

lemma Entry.after_of_idle {ι : Type} {e : Entry ι} {s : Store}
    (idle : (e.exchange s).acts = false) : e.after s = s := by
  obtain ⟨i, now, c⟩ := e
  simp only [Entry.exchange, Entry.reply, Entry.after] at idle ⊢
  cases c with
  | insertLock l =>
    simp only [Exchange.acts, Store.apply, Store.insertLock] at idle ⊢
    split at idle
    · rename_i held
      rw [if_pos held]
    · cases idle
  | markRevocation key lockId user =>
    simp only [Exchange.acts, Store.apply, Store.markRevocation] at idle ⊢
    split
    · rename_i l held
      rw [held] at idle
      split
      · rename_i same
        simp [same] at idle
      · rfl
    · rfl
  | deleteLockNamed office lockId =>
    simp only [Exchange.acts, Store.apply, Store.deleteLockNamed] at idle ⊢
    split
    · rename_i named
      simp [named] at idle
    · rfl
  | deleteLock | upsertGrant | deleteGrant | deleteGrants => cases idle
  | findLock | findLockNamed | lockExists | listLocks | grantsOf | listGrants => rfl

lemma Store.instant_succ_of_idle {ι : Type} {s : Store} {j : List (Entry ι)} {n : Nat} {e : Entry ι}
    (he : j[n]? = some e) (idle : (e.exchange (s.instant j n)).acts = false) :
    s.instant j (n + 1) = s.instant j n := by
  rw [Store.instant_succ_of_getElem? he, Entry.after_of_idle idle]

end LockRegistry
