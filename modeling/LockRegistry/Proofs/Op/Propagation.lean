import LockRegistry.Proofs.Operation

/-! Operations that do not go on where the store fails them. -/

namespace LockRegistry

variable {α β : Type}

lemma Wait.failing {w : Wait} {c : Call} {next : Except DatabaseError c.Reply → Wait}
    (asks : w.action = .call c next) (e : DatabaseError) :
    (next (.error e)).action = .done (.error (.database e)) := by
  obtain ⟨key, timeout, poll, phase, pending⟩ := w
  cases pending with
  | cons event rest => cases asks
  | nil =>
    cases phase with
    | look d polls =>
      cases asks
      rfl
    | _ => cases asks

namespace Op

inductive Propagates : Op α → Prop
  | done (r : Except LockError α) : Propagates (done r)
  | log (event : LogEvent) {next : Op α} (h : Propagates next) : Propagates (log event next)
  | call {c : Call} {next : Except DatabaseError c.Reply → Op α}
      (failed : ∀ e, next (.error e) = fail (.database e)) (h : ∀ a, Propagates (next (.ok a))) :
      Propagates (call c next)
  | clock {next : Nat → Op α} (h : ∀ time, Propagates (next time)) : Propagates (clock next)
  | wait (w : Wait) {next : Except LockError Wait.Ending → Op α}
      (failed : ∀ e, next (.error e) = fail e) (h : ∀ e, Propagates (next (.ok e))) :
      Propagates (wait w next)

variable {x y : Op α}

namespace Propagates

lemma failing {c : Call} {next : Except DatabaseError c.Reply → Op α} (h : x.Propagates)
    (asks : x.action = .call c next) (e : DatabaseError) :
    (next (.error e)).action = .done (.error (.database e)) := by
  induction h with
  | done r | log event | clock => cases asks
  | call failed =>
    cases asks
    rw [failed]
    rfl
  | @wait w k failed _ ih =>
    -- it is the wait that asks, or what comes after it has ended
    change w.action.andThen _ _ = _ at asks
    cases looks : w.action with
    | done r =>
      rw [looks] at asks
      cases r with
      | ok ending => exact ih ending asks
      | error e =>
        simp only [Action.andThen, failed] at asks
        cases asks
    | call c' next' =>
      rw [looks] at asks
      cases asks
      change (next' (.error e)).action.andThen _ _ = _
      rw [Wait.failing looks, Action.andThen, failed]
      rfl
    | _ =>
      rw [looks] at asks
      cases asks

lemma after {t : List Sight} (h : x.Propagates) (shows : x.action.Shows t y) : y.Propagates := by
  induction h with
  | done r => cases shows
  | log event h =>
    cases shows
    exact h
  | call _ h =>
    cases shows
    exact h _
  | clock h =>
    cases shows
    exact h _
  | @wait w k failed h ih =>
    rcases Action.shows_andThen shows with ⟨w', -, rfl⟩ | ⟨r, -, later⟩
    · exact .wait w' failed h
    · cases r with
      | ok ending => exact ih ending later
      | error e =>
        rw [failed] at later
        cases later

lemma bind {k : α → Op β} (h : x.Propagates) (hk : ∀ a, (k a).Propagates) :
    (x >>= k).Propagates := by
  change (x.bind k).Propagates
  induction h with
  | done r =>
    cases r with
    | ok a => exact hk a
    | error e => exact .done _
  | log event _ ih => exact .log event ih
  | call failed _ ih => exact .call (fun e => by rw [failed]; rfl) ih
  | clock _ ih => exact .clock ih
  | wait w failed _ ih => exact .wait w (fun e => by rw [failed]; rfl) ih

lemma map {f : α → β} (h : x.Propagates) : (f <$> x).Propagates := h.bind fun _ => .done _

lemma check (e : Except ArgumentError α) : (Op.check e).Propagates := by
  cases e <;> exact .done _

lemma ask (c : Call) : (Op.ask c).Propagates := .call (fun _ => rfl) fun _ => .done _

lemma await (key : LockKey) (timeout poll : Nat) : (Op.await key timeout poll).Propagates :=
  .wait _ (fun _ => rfl) fun _ => .done _

end Propagates

end Op

namespace Authority

open Op (Propagates)

variable [Regex.Engine]

lemma propagates_mayRevoke (office : String) (user : Option String)
    (project application : String) : (mayRevoke office user project application).Propagates := by
  refine (Propagates.check _).bind fun office => (Propagates.check _).bind fun project =>
    (Propagates.check _).bind fun application => (Propagates.check _).bind fun caller => ?_
  cases caller with
  | none => exact .log _ (.done _)
  | some user =>
    refine (Propagates.ask _).bind fun grants => (Propagates.check _).bind fun found => ?_
    cases found with
    | none => exact .done _
    | some grant => exact .log _ (.done _)

lemma propagates_allow (office officeMask projectMask applicationMask user : String) :
    (allow office officeMask projectMask applicationMask user).Propagates :=
  (Propagates.check _).bind fun _ => (Propagates.check _).bind fun _ =>
    (Propagates.ask _).bind fun _ => .log _ (.done _)

lemma propagates_disallow (office user projectMask applicationMask : String) :
    (disallow office user projectMask applicationMask).Propagates := by
  refine (Propagates.check _).bind fun key => (Propagates.ask _).bind fun removed => ?_
  split <;> exact .log _ (.done _)

lemma propagates_removeAll (office : String) (officeMask applicationMask : Option String)
    (user : String) : (removeAll office officeMask applicationMask user).Propagates :=
  (Propagates.check _).bind fun _ => (Propagates.check _).bind fun _ =>
    (Propagates.check _).bind fun _ => (Propagates.check _).bind fun _ =>
      (Propagates.ask _).bind fun _ => .log _ (.done _)

end Authority

namespace Locking

open Op (Propagates)

lemma propagates_reportHolder (key : LockKey) : (reportHolder key).Propagates :=
  (Propagates.ask _).bind fun _ => .done _

lemma propagates_stamp (key : LockKey) (user : String) (timeout : Nat) :
    (stamp key user timeout).Propagates := by
  refine (Propagates.ask _).bind fun holder => ?_
  cases holder with
  | none => exact .done _
  | some holder => exact (Propagates.ask _).bind fun _ => .log _ (.done _)

lemma propagates_retry (lock : NewLock) (waitedMs : Nat) : (retry lock waitedMs).Propagates := by
  refine (Propagates.ask _).bind fun inserted => ?_
  cases inserted with
  | some row => exact .log _ (.done _)
  | none => exact .log _ (propagates_reportHolder lock.key)

lemma propagates_awaitHolder (config : LockConfig) (lock : NewLock) (timeout : Nat) :
    (awaitHolder config lock timeout).Propagates := by
  refine .clock fun started => (Propagates.await _ _ _).bind fun ending => .clock fun ended => ?_
  cases ending with
  | released => exact propagates_retry lock _
  | timedOut => exact .log _ (.done _)

lemma propagates_release (office lockId : String) : (release office lockId).Propagates := by
  refine (Propagates.check _).bind fun office => ?_
  dsimp only
  split
  · exact .done _
  · refine (Propagates.ask _).bind fun released => ?_
    split <;> exact .log _ (.done _)

lemma propagates_find (office lockId : String) : (find office lockId).Propagates :=
  (Propagates.check _).bind fun _ => Propagates.ask _

variable [Regex.Engine]

lemma propagates_revokeHolder (config : LockConfig) (lock : NewLock) (caller : Option String)
    (timeout : Nat) : (revokeHolder config lock caller timeout).Propagates := by
  refine (Authority.propagates_mayRevoke _ _ _ _).bind fun allowed => ?_
  cases allowed with
  | false => exact .log _ (.done _)
  | true =>
    exact (Propagates.check _).bind fun _ => (propagates_stamp _ _ _).bind fun _ =>
      propagates_awaitHolder config lock timeout

lemma propagates_request (config : LockConfig) (r : LockRequest) (caller : Option String)
    (freshId : String) : (request config r caller freshId).Propagates := by
  refine (Propagates.check _).bind fun timeout => (Propagates.ask _).bind fun inserted => ?_
  cases inserted with
  | some row => exact .log _ (.done _)
  | none =>
    dsimp only
    split
    · exact propagates_revokeHolder config _ caller timeout
    · exact .log _ (propagates_reportHolder r.key)

lemma propagates_revoke (key : LockKey) (caller : Option String) :
    (revoke key caller).Propagates := by
  refine (Authority.propagates_mayRevoke _ _ _ _).bind fun allowed => ?_
  cases allowed with
  | false => exact .log _ (.done _)
  | true =>
    refine (Propagates.ask _).bind fun removed => ?_
    cases removed with
    | none => exact .log _ (.done _)
    | some lock => exact .log _ (.done _)

end Locking

variable [Regex.Engine]

lemma Operation.propagates (o : Operation) : o.op.Propagates := by
  cases o with
  | request config r caller lockId => exact (Locking.propagates_request config r caller lockId).map
  | release office lockId => exact (Locking.propagates_release office lockId).map
  | revoke key caller => exact (Locking.propagates_revoke key caller).map
  | isLocked key => exact (Op.Propagates.ask _).map
  | listLocks filter zone => exact Op.Propagates.map ((Op.Propagates.ask _).bind fun _ => .done _)
  | find office lockId => exact (Locking.propagates_find office lockId).map
  | pendingRevocation office lockId =>
    exact Op.Propagates.map ((Locking.propagates_find office lockId).bind fun _ => .done _)
  | allow office officeMask projectMask applicationMask user =>
    exact (Authority.propagates_allow _ _ _ _ _).map
  | update office user projectMask applicationMask officeMask allowed =>
    refine Op.Propagates.map ?_
    cases allowed with
    | true => exact (Authority.propagates_allow _ _ _ _ _).bind fun _ => .done _
    | false => exact Authority.propagates_disallow _ _ _ _
  | removeAll office officeMask applicationMask user =>
    exact (Authority.propagates_removeAll _ _ _ _).map
  | mayRevoke office user project application =>
    exact (Authority.propagates_mayRevoke _ _ _ _).map
  | listGrants filter => exact (Op.Propagates.ask _).map

end LockRegistry
