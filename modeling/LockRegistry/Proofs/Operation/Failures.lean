import LockRegistry.Proofs.Locking.Footprint

namespace LockRegistry.Operation

open Authority (Question)
open Locking (newLock)

lemma error_of_map {α : Type} {f : α → Value} {x : Op α} (h : (f <$> x).Makes l (.error e)) :
    x.Makes l (.error e) := by
  obtain ⟨r, hx, same⟩ := Op.Makes.map h
  cases r with
  | ok => cases same
  | error e' =>
    cases same
    exact hx

variable [Regex.Engine]

inductive Fails : Operation → List Exchange → LockError → Prop
  | refused {o : Operation} (cause : ArgumentError) : Fails o [] (.argument cause)
  -- the check comes after the attempt on the key
  | contested {config : LockConfig} {r : LockRequest} {caller : Option String} {lockId : String}
      (cause : ArgumentError) :
      Fails (.request config r caller lockId) [⟨.insertLock (newLock r lockId), none⟩]
        (.argument cause)
  | unreadable {o : Operation} {l : List Exchange} (idle : ∀ x ∈ l, x.acts = false)
      {q : Question} {user : String} {grants : List Grant} {cause : ArgumentError}
      (verdict : q.verdict grants = .error cause) :
      Fails o (l ++ [⟨.grantsOf user, grants⟩]) (.argument cause)
  | denied {key : LockKey} {caller : Option String} {l : List Exchange}
      (idle : ∀ x ∈ l, x.acts = false) :
      Fails (.revoke key caller) l (Locking.denied caller key)
  | cancelled {config : LockConfig} {r : LockRequest} {caller : Option String} {lockId : String}
      {l : List Exchange} : Fails (.request config r caller lockId) l .cancelled

variable {o : Operation} {l : List Exchange} {e : LockError}

lemma Fails.of_asks {office project application : String} {user : Option String}
    (h : Authority.Asks office user project application l (.error e)) : Fails o l e := by
  cases h with
  | refused => exact .refused _
  | unreadable _ _ verdict => exact .unreadable (l := []) (List.forall_mem_nil _) verdict

lemma fails_of_request {config : LockConfig} {r : LockRequest} {caller : Option String}
    {lockId : String} (h : Locking.Requests r caller lockId l (.error e)) :
    Fails (.request config r caller lockId) l e := by
  cases h with
  | refused => exact .refused _
  | revoking revoke h =>
    cases h with
    | failed asks =>
      cases asks with
      | refused => exact .contested _
      | unreadable _ _ verdict => exact .unreadable (l := [_]) (by simp [Exchange.acts]) verdict
    | unnamed asks name =>
      -- whoever has the right has a name in order
      obtain ⟨raw, -, named⟩ := Authority.Asks.caller asks
      cases name.symm.trans named
    | allowed _ _ _ wait =>
      cases wait with
      | cancelled => exact .cancelled

lemma Fails.of_find {office lockId : String} (h : (Locking.find office lockId).Makes l (.error e)) :
    Fails o l e := by
  rcases Op.makes_check_bind.1 h with ⟨office', -, hl⟩ | ⟨cause, -, rfl, ⟨⟩⟩
  · obtain ⟨found, -, ⟨⟩⟩ := Op.makes_ask.1 hl
  · exact .refused _

lemma Fails.of_allow {office officeMask projectMask applicationMask user : String}
    (h : (Authority.allow office officeMask projectMask applicationMask user).Makes l (.error e)) :
    Fails o l e := by
  cases Authority.allow_makes h with
  | refused => exact .refused _

lemma fails_of_makes (h : o.op.Makes l (.error e)) : Fails o l e := by
  cases o with
  | request config r caller lockId =>
    exact fails_of_request (Locking.request_makes (error_of_map h))
  | release office lockId =>
    cases Locking.release_makes (error_of_map h) with
    | refused => exact .refused _
  | revoke key caller =>
    cases Locking.revoke_makes (error_of_map h) with
    | failed asks => exact .of_asks asks
    | denied asks => exact .denied fun _ => asks.idle
  | isLocked key =>
    obtain ⟨held, -, ⟨⟩⟩ := Op.makes_ask.1 (error_of_map h)
  | listLocks filter zone =>
    obtain ⟨locks, l, -, hl⟩ := Op.makes_ask_bind.1 (error_of_map h)
    obtain ⟨-, ⟨⟩⟩ := Op.makes_pure.1 hl
  | find office lockId => exact .of_find (error_of_map h)
  | pendingRevocation office lockId =>
    rcases Op.Makes.bind (error_of_map h) with ⟨found, l₁, l₂, -, -, hp⟩ | ⟨e, ⟨⟩, hf⟩
    · obtain ⟨-, ⟨⟩⟩ := Op.makes_pure.1 hp
    · exact .of_find hf
  | allow office officeMask projectMask applicationMask user => exact .of_allow (error_of_map h)
  | update office user projectMask applicationMask officeMask allowed =>
    have hm := error_of_map h
    cases allowed with
    | true =>
      rcases Op.Makes.bind hm with ⟨grant, l₁, l₂, -, -, hp⟩ | ⟨e, ⟨⟩, ha⟩
      · obtain ⟨-, ⟨⟩⟩ := Op.makes_pure.1 hp
      · exact .of_allow ha
    | false =>
      cases Authority.disallow_makes hm with
      | refused => exact .refused _
  | removeAll office officeMask applicationMask user =>
    cases Authority.removeAll_makes (error_of_map h) with
    | refused => exact .refused _
  | mayRevoke office user project application =>
    exact .of_asks (Authority.asks_of_makes (error_of_map h))
  | listGrants filter =>
    obtain ⟨grants, -, ⟨⟩⟩ := Op.makes_ask.1 (error_of_map h)

lemma Fails.not_database (h : Fails o l e) (cause : DatabaseError) : e ≠ .database cause := by
  cases h <;> exact nofun

end LockRegistry.Operation
