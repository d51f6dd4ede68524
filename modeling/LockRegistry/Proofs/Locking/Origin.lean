import LockRegistry.Proofs.Locking.Tenure
import LockRegistry.Proofs.Operation.Calls

namespace LockRegistry

def Operation.madeId? : Operation → Option String
  | request _ _ _ lockId => some lockId
  | _ => none

variable [Regex.Engine]

lemma Operation.MayCall.insert {o : Operation} {l : NewLock} (h : o.MayCall (.insertLock l)) :
    ∃ config r caller lockId, o = .request config r caller lockId ∧
      l = Locking.newLock r lockId := by
  cases o with
  | request config r caller lockId =>
    rcases h with ⟨⟨⟩⟩ | ⟨⟨⟩⟩ | ⟨⟨⟩⟩ | ⟨_, ⟨⟩⟩ | ⟨_, _, _, ⟨⟩⟩
    exact ⟨config, r, caller, lockId, rfl, rfl⟩
  | update _ _ _ _ _ allowed => cases allowed <;> simp [MayCall] at h
  | _ => simp [MayCall] at h

lemma Locking.Requests.countP_le {r : LockRequest} {caller : Option String} {lockId : String}
    {l : List Exchange} {o : Except LockError AcquireOutcome} (h : Requests r caller lockId l o) :
    l.countP Exchange.inserts ≤ 1 := by
  by_cases got : ∃ a, o = .ok (.acquired a)
  · obtain ⟨a, rfl⟩ := got
    exact h.inserts.1.le
  · have nothing := h.not_inserts fun a same => got ⟨a, same⟩
    exact nothing.le.trans (Nat.zero_le 1)

namespace Sessions

variable {ι : Type} [DecidableEq ι] {calls : ι → Operation} {h : List (Turn ι)} {i i' : ι}
  {key key' : LockKey} {lockId : String} {m n : Nat}

def FreshIds (calls : ι → Operation) : Prop :=
  ∀ i i' lockId, (calls i).madeId? = some lockId → (calls i').madeId? = some lockId → i = i'

omit [Regex.Engine] in
omit [DecidableEq ι] in
lemma freshIds_of_differ (differ : ∀ i i', (calls i).madeId?.isSome = true →
    (calls i).madeId? = (calls i').madeId? → i = i') : FreshIds calls :=
  fun i i' _ made made' => differ i i' (by rw [made]; rfl) (made.trans made'.symm)

lemma requests_of_own {config : LockConfig} {r : LockRequest} {caller : Option String}
    (own : calls i = .request config r caller lockId) :
    ∃ l o, Locking.Requests r caller lockId
      (exchanges i .empty ((start calls).journal h) ++ l) o := by
  obtain ⟨l, v, makes⟩ := (start calls).exists_makes h i
  simp only [start, own, Operation.op] at makes
  obtain ⟨o, hm, -⟩ := Op.Makes.map makes
  exact ⟨l, o, Locking.request_makes hm⟩

lemma inserts_request (inserts : Store.empty.Inserts ((start calls).journal h) m i key lockId) :
    ∃ config r caller, calls i = .request config r caller lockId ∧ r.key = key := by
  obtain ⟨now, l, he, rfl, rfl, -, -⟩ := inserts
  obtain ⟨config, r, caller, lockId, own, rfl⟩ := (mayCall_of_getElem? he).insert
  exact ⟨config, r, caller, own, rfl⟩

lemma madeId_of_inserts
    (inserts : Store.empty.Inserts ((start calls).journal h) m i key lockId) :
    (calls i).madeId? = some lockId := by
  obtain ⟨config, r, caller, own, -⟩ := inserts_request inserts
  rw [own]
  rfl

lemma inserts_once {config : LockConfig} {r : LockRequest} {caller : Option String}
    (own : calls i = .request config r caller lockId) :
    (exchanges i .empty ((start calls).journal h)).countP Exchange.inserts ≤ 1 := by
  obtain ⟨l, o, requests⟩ := requests_of_own (h := h) own
  have all := requests.countP_le
  rw [List.countP_append] at all
  omega

lemma inserts_unique (fresh : FreshIds calls)
    (hm : Store.empty.Inserts ((start calls).journal h) m i key lockId)
    (hn : Store.empty.Inserts ((start calls).journal h) n i' key' lockId) : m = n ∧ key = key' := by
  obtain rfl := fresh i i' lockId (madeId_of_inserts hm) (madeId_of_inserts hn)
  obtain ⟨config, r, caller, own, rfl⟩ := inserts_request hm
  obtain ⟨config', r', caller', own', rfl⟩ := inserts_request hn
  have same : m = n := hm.unique (inserts_once own) hn
  rw [own] at own'
  cases own'
  exact ⟨same, rfl⟩

lemma exists_inserts {row : Lock}
    (held : Store.empty.lockAt ((start calls).journal h) n key = some row) :
    ∃ m i, m < n ∧ Store.empty.Inserts ((start calls).journal h) m i key row.lockId ∧
      Store.empty.Stays ((start calls).journal h) (m + 1) n key := by
  rcases Store.stays_or_inserted held (Nat.zero_le n) with
    stays | ⟨m, i, lockId, -, hm, inserts, stays⟩
  · obtain ⟨_, begun, -⟩ := stays
    cases begun
  · obtain ⟨first, begun, still⟩ := id stays
    obtain ⟨row', held', same⟩ := still n hm le_rfl
    obtain rfl := Option.some.inj (held.symm.trans held')
    obtain ⟨now, l, he, hk, rfl, free, next⟩ := id inserts
    obtain rfl := Option.some.inj (begun.symm.trans next)
    have named : row.lockId = l.lockId := congrArg Lock.lockId same
    exact ⟨m, i, hm, named ▸ inserts, stays⟩

end Sessions

end LockRegistry
