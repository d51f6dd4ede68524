import LockRegistry.Proofs.Locking.Courses
import LockRegistry.Proofs.Operation

namespace LockRegistry

open Authority (newGrant)
open Locking (newLock)

lemma call_of_mem_looks {n : Nat} (h : x ∈ looks key n) : x.call = .lockExists key := by
  rw [List.eq_of_mem_replicate h]

variable [Regex.Engine]

def Operation.MayCall : Operation → Call → Prop
  | request _ r caller lockId, c =>
    c = .insertLock (newLock r lockId) ∨ c = .findLock r.key ∨ c = .lockExists r.key ∨
      (∃ user, c = .grantsOf user) ∨
      ∃ holder user, Field.user.normalize (caller.getD "") = .ok user ∧
        c = .markRevocation r.key holder user
  | release office lockId, c =>
    ∃ o, Field.office.normalize office = .ok o ∧ c = .deleteLockNamed o (Text.trim lockId)
  | revoke key _, c => (∃ user, c = .grantsOf user) ∨ c = .deleteLock key
  | isLocked key, c => c = .lockExists key
  | listLocks filter _, c => c = .listLocks filter
  | find office lockId, c | pendingRevocation office lockId, c =>
    ∃ o, Field.office.normalize office = .ok o ∧ c = .findLockNamed o (Text.trim lockId)
  | allow office officeMask projectMask applicationMask user, c =>
    ∃ new, newGrant office officeMask projectMask applicationMask user = .ok new ∧
      c = .upsertGrant new
  | update office user projectMask applicationMask officeMask allowed, c =>
    if allowed then
      ∃ new, newGrant office officeMask projectMask applicationMask user = .ok new ∧
        c = .upsertGrant new
    else
      ∃ key, GrantKey.ofRaw office user projectMask applicationMask = .ok key ∧ c = .deleteGrant key
  | removeAll office officeMask applicationMask user, c =>
    ∃ o u om am, Field.office.normalize office = .ok o ∧ Field.user.normalize user = .ok u ∧
      Mask.ofOption officeMask = .ok om ∧ Mask.ofOption applicationMask = .ok am ∧
      c = .deleteGrants o om am u
  | mayRevoke _ _ _ _, c => ∃ user, c = .grantsOf user
  | listGrants filter, c => c = .listGrants filter

namespace Authority

variable {office project application officeMask projectMask applicationMask name : String}
  {user : Option String} {l : List Exchange} {x : Exchange}

lemma Asks.call {r : Except LockError Bool} (h : Asks office user project application l r)
    (hx : x ∈ l) : ∃ caller, x.call = .grantsOf caller := by
  cases h with
  | answered _ _ _ | unreadable _ _ _ =>
    obtain rfl := List.mem_singleton.1 hx
    exact ⟨_, rfl⟩
  | _ => cases hx

lemma Allows.call {r : Except LockError Grant}
    (h : Allows office officeMask projectMask applicationMask name l r) (hx : x ∈ l) :
    ∃ new, newGrant office officeMask projectMask applicationMask name = .ok new ∧
      x.call = .upsertGrant new := by
  cases h with
  | refused => cases hx
  | made h =>
    obtain rfl := List.mem_singleton.1 hx
    exact ⟨_, h, rfl⟩

lemma Disallows.call {r : Except LockError Unit}
    (h : Disallows office name projectMask applicationMask l r) (hx : x ∈ l) :
    ∃ key, GrantKey.ofRaw office name projectMask applicationMask = .ok key ∧
      x.call = .deleteGrant key := by
  cases h with
  | refused => cases hx
  | removed h =>
    obtain rfl := List.mem_singleton.1 hx
    exact ⟨_, h, rfl⟩

end Authority

namespace Locking

variable {key : LockKey} {lock : NewLock} {caller : Option String} {l : List Exchange}
  {x : Exchange}

omit [Regex.Engine] in
lemma Stamps.call {user : String} (h : Stamps key user l) (hx : x ∈ l) :
    x.call = .findLock key ∨ ∃ holder, x.call = .markRevocation key holder user := by
  cases h with
  | free =>
    obtain rfl := List.mem_singleton.1 hx
    exact .inl rfl
  | found holder stamped =>
    simp only [List.mem_cons, List.not_mem_nil, or_false] at hx
    rcases hx with rfl | rfl
    · exact .inl rfl
    · exact .inr ⟨_, rfl⟩

omit [Regex.Engine] in
lemma Retries.call {o : AcquireOutcome} (h : Retries lock l o) (hx : x ∈ l) :
    x.call = .insertLock lock ∨ x.call = .findLock lock.key := by
  cases h with
  | acquired =>
    obtain rfl := List.mem_singleton.1 hx
    exact .inl rfl
  | lost =>
    simp only [List.mem_cons, List.not_mem_nil, or_false] at hx
    rcases hx with rfl | rfl
    · exact .inl rfl
    · exact .inr rfl

omit [Regex.Engine] in
lemma Awaits.call {r : Except LockError AcquireOutcome} (h : Awaits lock l r) (hx : x ∈ l) :
    x.call = .lockExists lock.key ∨ x.call = .insertLock lock ∨ x.call = .findLock lock.key := by
  cases h with
  | cancelled => exact .inl (call_of_mem_looks hx)
  | timedOut =>
    rcases List.mem_append.1 hx with hx | hx
    · exact .inl (call_of_mem_looks hx)
    · obtain rfl := List.mem_singleton.1 hx
      exact .inl rfl
  | released n h =>
    rcases List.mem_append.1 hx with hx | hx
    · exact .inl (call_of_mem_looks hx)
    · rcases List.mem_cons.1 hx with rfl | hx
      · exact .inl rfl
      · exact .inr (h.call hx)

omit [Regex.Engine] in
lemma find_call {office lockId : String} {r : Except LockError (Option Lock)}
    (h : (find office lockId).Makes l r) (hx : x ∈ l) :
    ∃ o, Field.office.normalize office = .ok o ∧ x.call = .findLockNamed o (Text.trim lockId) := by
  rcases Op.makes_check_bind.1 h with ⟨o, ho, hl⟩ | ⟨e, -, rfl, rfl⟩
  · obtain ⟨found, rfl, -⟩ := Op.makes_ask.1 hl
    obtain rfl := List.mem_singleton.1 hx
    exact ⟨o, ho, rfl⟩
  · cases hx

lemma Revokes.call {r : Except LockError Bool} (h : Revokes key caller l r) (hx : x ∈ l) :
    (∃ user, x.call = .grantsOf user) ∨ x.call = .deleteLock key := by
  cases h with
  | failed ha | denied ha => exact .inl (ha.call hx)
  | allowed ha removed =>
    rcases List.mem_append.1 hx with hx | hx
    · exact .inl (ha.call hx)
    · obtain rfl := List.mem_singleton.1 hx
      exact .inr rfl

end Locking

namespace Operation

variable {o : Operation} {l : List Exchange} {x : Exchange}

lemma mayCall_of_revokesHolder {config : LockConfig} {r : LockRequest} {caller : Option String}
    {lockId : String} {a : Except LockError AcquireOutcome}
    (h : Locking.RevokesHolder (newLock r lockId) caller l a) (hx : x ∈ l) :
    (request config r caller lockId).MayCall x.call := by
  cases h with
  | failed ha | denied ha | unnamed ha _ => exact .inr (.inr (.inr (.inl (ha.call hx))))
  | allowed ha name stamp wait =>
    rw [List.mem_append, List.mem_append] at hx
    rcases hx with (hx | hx) | hx
    · exact .inr (.inr (.inr (.inl (ha.call hx))))
    · rcases stamp.call hx with hc | ⟨holder, hc⟩
      · exact .inr (.inl hc)
      · exact .inr (.inr (.inr (.inr ⟨holder, _, name, hc⟩)))
    · rcases wait.call hx with hc | hc | hc
      · exact .inr (.inr (.inl hc))
      · exact .inl hc
      · exact .inr (.inl hc)

lemma mayCall_of_requests {config : LockConfig} {r : LockRequest} {caller : Option String}
    {lockId : String} {a : Except LockError AcquireOutcome}
    (h : Locking.Requests r caller lockId l a) (hx : x ∈ l) :
    (request config r caller lockId).MayCall x.call := by
  cases h with
  | refused => cases hx
  | acquired row =>
    obtain rfl := List.mem_singleton.1 hx
    exact .inl rfl
  | held plain holder =>
    simp only [List.mem_cons, List.not_mem_nil, or_false] at hx
    rcases hx with rfl | rfl
    · exact .inl rfl
    · exact .inr (.inl rfl)
  | revoking revoke hr =>
    rcases List.mem_cons.1 hx with rfl | hx
    · exact .inl rfl
    · exact mayCall_of_revokesHolder hr hx

lemma mayCall_of_makes {r : Except LockError Value} (h : o.op.Makes l r) (hx : x ∈ l) :
    o.MayCall x.call := by
  cases o with
  | request config r caller lockId =>
    obtain ⟨r', hm, -⟩ := Op.Makes.map h
    exact mayCall_of_requests (Locking.request_makes hm) hx
  | release office lockId =>
    obtain ⟨r', hm, -⟩ := Op.Makes.map h
    cases Locking.release_makes hm with
    | refused => cases hx
    | asked normal released =>
      obtain rfl := List.mem_singleton.1 hx
      exact ⟨_, normal, rfl⟩
  | revoke key caller =>
    obtain ⟨r', hm, -⟩ := Op.Makes.map h
    exact (Locking.revoke_makes hm).call hx
  | isLocked key =>
    obtain ⟨r', hm, -⟩ := Op.Makes.map h
    obtain ⟨held, rfl, -⟩ := Op.makes_ask.1 hm
    obtain rfl := List.mem_singleton.1 hx
    rfl
  | listLocks filter zone =>
    obtain ⟨r', hm, -⟩ := Op.Makes.map h
    obtain ⟨locks, l, rfl, hl⟩ := Op.makes_ask_bind.1 hm
    obtain ⟨rfl, -⟩ := Op.makes_pure.1 hl
    obtain rfl := List.mem_singleton.1 hx
    rfl
  | find office lockId =>
    obtain ⟨r', hm, -⟩ := Op.Makes.map h
    exact Locking.find_call hm hx
  | pendingRevocation office lockId =>
    obtain ⟨r', hm, -⟩ := Op.Makes.map h
    rcases Op.Makes.bind hm with ⟨found, l₁, l₂, rfl, hf, hp⟩ | ⟨e, rfl, hf⟩
    · obtain ⟨rfl, -⟩ := Op.makes_pure.1 hp
      exact Locking.find_call hf (List.append_nil l₁ ▸ hx)
    · exact Locking.find_call hf hx
  | allow office officeMask projectMask applicationMask user =>
    obtain ⟨r', hm, -⟩ := Op.Makes.map h
    exact (Authority.allow_makes hm).call hx
  | update office user projectMask applicationMask officeMask allowed =>
    obtain ⟨r', hm, -⟩ := Op.Makes.map h
    cases allowed with
    | true =>
      rcases Op.Makes.bind hm with ⟨grant, l₁, l₂, rfl, ha, hp⟩ | ⟨e, rfl, ha⟩
      · obtain ⟨rfl, -⟩ := Op.makes_pure.1 hp
        exact (Authority.allow_makes ha).call (List.append_nil l₁ ▸ hx)
      · exact (Authority.allow_makes ha).call hx
    | false => exact (Authority.disallow_makes hm).call hx
  | removeAll office officeMask applicationMask user =>
    obtain ⟨r', hm, -⟩ := Op.Makes.map h
    cases Authority.removeAll_makes hm with
    | refused => cases hx
    | cleared ho hu hom ham =>
      obtain rfl := List.mem_singleton.1 hx
      exact ⟨_, _, _, _, ho, hu, hom, ham, rfl⟩
  | mayRevoke office user project application =>
    obtain ⟨r', hm, -⟩ := Op.Makes.map h
    exact (Authority.asks_of_makes hm).call hx
  | listGrants filter =>
    obtain ⟨r', hm, -⟩ := Op.Makes.map h
    obtain ⟨grants, rfl, -⟩ := Op.makes_ask.1 hm
    obtain rfl := List.mem_singleton.1 hx
    rfl

namespace MayCall

variable {key : LockKey} {office lockId holder user : String}

lemma release (h : o.MayCall (.deleteLockNamed office lockId)) :
    ∃ office' lockId', o = .release office' lockId' ∧ Field.office.normalize office' = .ok office ∧
      Text.trim lockId' = lockId := by
  cases o with
  | release office' lockId' =>
    obtain ⟨_, ho, ⟨⟩⟩ := h
    exact ⟨office', lockId', rfl, ho, rfl⟩
  | update _ _ _ _ _ allowed => cases allowed <;> simp [MayCall] at h
  | _ => simp [MayCall] at h

lemma revoke (h : o.MayCall (.deleteLock key)) : ∃ caller, o = .revoke key caller := by
  cases o with
  | revoke key' caller =>
    rcases h with ⟨_, ⟨⟩⟩ | ⟨⟨⟩⟩
    exact ⟨caller, rfl⟩
  | update _ _ _ _ _ allowed => cases allowed <;> simp [MayCall] at h
  | _ => simp [MayCall] at h

lemma stamp (h : o.MayCall (.markRevocation key holder user)) :
    ∃ config r caller freshId, o = .request config r caller freshId ∧ r.key = key ∧
      Field.user.normalize (caller.getD "") = .ok user := by
  cases o with
  | request config r caller freshId =>
    rcases h with ⟨⟨⟩⟩ | ⟨⟨⟩⟩ | ⟨⟨⟩⟩ | ⟨_, ⟨⟩⟩ | ⟨_, _, name, ⟨⟩⟩
    exact ⟨config, r, caller, freshId, rfl, rfl, name⟩
  | update _ _ _ _ _ allowed => cases allowed <;> simp [MayCall] at h
  | _ => simp [MayCall] at h

end MayCall

end Operation

namespace Sessions

variable {ι : Type} [DecidableEq ι] {calls : ι → Operation} {h : List (Turn ι)}
  {n : Nat} {e : Entry ι}

lemma makes_at (he : ((start calls).journal h)[n]? = some e) :
    ∃ l r, (calls e.session).op.Makes
      (exchanges e.session .empty (((start calls).journal h).take n) ++
        e.exchange (Store.empty.instant ((start calls).journal h) n) :: l) r := by
  obtain ⟨l, r, hm⟩ := (start calls).exists_makes h e.session
  obtain ⟨l', hs⟩ := exchanges_at (start calls).store he rfl
  rw [hs, List.append_assoc] at hm
  exact ⟨_, r, hm⟩

lemma mayCall_of_own {σ : Sessions ι Value} {i : ι} {o : Operation} (own : σ.op i = o.op)
    (he : (σ.journal h)[n]? = some e) (mine : e.session = i) : o.MayCall e.call := by
  obtain ⟨l, r, makes⟩ := σ.exists_makes h i
  rw [own] at makes
  exact Operation.mayCall_of_makes makes (List.mem_append_left _ (exchange_mem σ.store he mine))

lemma mayCall_of_getElem? (he : ((start calls).journal h)[n]? = some e) :
    (calls e.session).MayCall e.call :=
  mayCall_of_own rfl he rfl

lemma makes_of_map {i : ι} {α : Type} {f : α → Value} {x : Op α} (op : (calls i).op = f <$> x)
    {v : Except LockError Value} (hv : ((start calls).run h).result? i = some v) :
    ∃ r, v = r.map f ∧ x.Makes (exchanges i .empty ((start calls).journal h)) r := by
  have makes := makes_of_result? hv
  simp only [start, op] at makes
  obtain ⟨r, hm, rfl⟩ := Op.Makes.map makes
  exact ⟨r, rfl, hm⟩

lemma requests_of_result? {i : ι} {config : LockConfig} {r : LockRequest} {caller : Option String}
    {lockId : String} (own : calls i = .request config r caller lockId)
    {v : Except LockError Value} (hv : ((start calls).run h).result? i = some v) :
    ∃ o, v = o.map .outcome ∧
      Locking.Requests r caller lockId (exchanges i .empty ((start calls).journal h)) o := by
  obtain ⟨o, rfl, makes⟩ := makes_of_map (f := .outcome) (congrArg Operation.op own) hv
  exact ⟨o, rfl, Locking.request_makes makes⟩

def Returns (calls : ι → Operation) (h : List (Turn ι)) (i : ι) (key : LockKey)
    (o : AcquireOutcome) : Prop :=
  ∃ config r caller freshId, calls i = .request config r caller freshId ∧ r.key = key ∧
    ((start calls).run h).result? i = some (.ok (.outcome o))

lemma Returns.requests {i : ι} {key : LockKey} {o : AcquireOutcome} (hr : Returns calls h i key o) :
    ∃ r caller freshId, r.key = key ∧ Locking.Requests r caller freshId
      (exchanges i .empty ((start calls).journal h)) (.ok o) := by
  obtain ⟨config, r, caller, freshId, own, on, hr⟩ := hr
  obtain ⟨o', same, requests⟩ := requests_of_result? own hr
  obtain ⟨o', rfl, ho⟩ := map_eq_ok.1 same.symm
  cases ho
  exact ⟨r, caller, freshId, on, requests⟩

lemma instant_induction_of (σ : Sessions ι Value) (h : List (Turn ι))
    (ops : ∀ i, σ.op i = (calls i).op) {P : Store → Prop} (begins : P σ.store)
    (step : ∀ (i : ι) (s : Store) (now : Timestamp) (c : Call), (calls i).MayCall c → P s →
      P (s.apply now c).2) (n : Nat) : P (σ.store.instant (σ.journal h) n) := by
  induction n with
  | zero => exact begins
  | succ n ih =>
    cases he : (σ.journal h)[n]? with
    | none =>
      rw [Store.instant_succ, he]
      exact ih
    | some e =>
      rw [Store.instant_succ_of_getElem? he]
      exact step e.session _ _ _ (mayCall_of_own (ops _) he rfl) ih

lemma instant_induction {P : Store → Prop} (begins : P .empty)
    (step : ∀ (s : Store) (o : Operation) (now : Timestamp) (c : Call), o.MayCall c → P s →
      P (s.apply now c).2) (n : Nat) : P (Store.empty.instant ((start calls).journal h) n) :=
  instant_induction_of (start calls) h (fun _ => rfl) begins
    (fun i s now c => step s (calls i) now c) n

end Sessions

lemma Store.Reachable.induction {s : Store} (hs : s.Reachable) {P : Store → Prop}
    (begins : P .empty)
    (step : ∀ (s : Store) (o : Operation) (now : Timestamp) (c : Call), o.MayCall c → P s →
      P (s.apply now c).2) : P s := by
  obtain ⟨calls, h, rfl⟩ := hs
  rw [Sessions.store_run, ← Store.instant_of_length_le (Nat.le_refl _)]
  exact Sessions.instant_induction begins step _

end LockRegistry
