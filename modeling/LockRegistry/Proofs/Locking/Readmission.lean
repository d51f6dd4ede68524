import LockRegistry.Proofs.Locking.DeadIds
import LockRegistry.Proofs.Locking.Exclusion
import LockRegistry.Regex.Runner

/-! Identifiers that are given back as they are stored. A part may be stored longer than is
accepted, since its length is checked before its case is changed. -/

namespace LockRegistry

namespace Authority

lemma Question.ofRaw_eq (office : String) (user : Option String) (project application : String) :
    Question.ofRaw office user project application =
      LockKey.ofRaw office project application >>= fun k =>
        (caller? user).map fun caller => ⟨k.office, k.project, k.application, caller⟩ := by
  unfold Question.ofRaw LockKey.ofRaw
  cases Field.office.normalize office with
  | error e => rfl
  | ok o =>
    cases Field.project.normalize project with
    | error e => rfl
    | ok p =>
      cases Field.application.normalize application with
      | error e => rfl
      | ok a => cases caller? user <;> rfl

variable [Regex.Engine]

lemma mayRevoke_parts {k : LockKey} (normal : k.Normal) (user : Option String) :
    mayRevoke k.office user k.project k.application =
      k.outgrown?.elim
        (.check (caller? user) >>= fun caller =>
          Question.ask ⟨k.office, k.project, k.application, caller⟩)
        fun e => .fail (.argument e) := by
  rw [mayRevoke_eq, Question.ofRaw_eq, normal.ofRaw_parts]
  cases k.outgrown? with
  | some e => rfl
  | none => cases caller? user <;> rfl

end Authority

namespace LockKey

variable [Regex.Engine]

structure Returns (k : LockKey) : Prop where
  office : Field.office.IsNormal k.office
  project : Field.project.IsNormal k.project
  application : Field.application.IsNormal k.application
  short : Field.project.outgrown? k.project = none
  ofRaw : ofRaw k.office k.project k.application = k.outgrown?.elim (.ok k) .error
  mayRevoke : ∀ user, Authority.mayRevoke k.office user k.project k.application =
    k.outgrown?.elim
      (.check (Authority.caller? user) >>= fun caller =>
        Authority.Question.ask ⟨k.office, k.project, k.application, caller⟩)
      fun e => .fail (.argument e)
  revoke : ∀ caller e, k.outgrown? = some e → Locking.revoke k caller = .fail (.argument e)

lemma Normal.returns {k : LockKey} (normal : k.Normal) : k.Returns := by
  obtain ⟨⟨_, ho⟩, ⟨_, hp⟩, _, ha⟩ := normal.fields
  refine ⟨Field.isNormal_of_normalize ho, Field.isNormal_of_normalize hp,
    Field.isNormal_of_normalize ha, Field.outgrown?_of_casing_eq hp fun _ => rfl,
    normal.ofRaw_parts, Authority.mayRevoke_parts normal, fun caller e grown => ?_⟩
  rw [Locking.revoke, Authority.mayRevoke_parts normal, grown]
  rfl

end LockKey

namespace Operation

variable [Regex.Engine] {office lockId : String} {e : ArgumentError}

structure Admits (office : String) : Prop where
  release : ∀ lockId, Text.trim lockId ≠ "" →
    (release office lockId).op.CallsOnce (.deleteLockNamed office (Text.trim lockId)) .flag 1
  find : ∀ lockId,
    (find office lockId).op.CallsOnce (.findLockNamed office (Text.trim lockId)) .lock 0
  pendingRevocation : ∀ lockId,
    (pendingRevocation office lockId).op.CallsOnce (.findLockNamed office (Text.trim lockId))
      (fun lock : Option Lock => .revocation (lock.bind (·.pendingRevocation))) 0

structure Refuses (office : String) (e : ArgumentError) : Prop where
  release : ∀ lockId, (release office lockId).op = .fail (.argument e)
  find : ∀ lockId, (find office lockId).op = .fail (.argument e)
  pendingRevocation : ∀ lockId, (pendingRevocation office lockId).op = .fail (.argument e)

lemma admits (normal : Field.office.normalize office = .ok office) : Admits office where
  release _ := release_callsOnce normal
  find _ := find_callsOnce normal
  pendingRevocation _ := pendingRevocation_callsOnce normal

lemma refuses (refused : Field.office.normalize office = .error e) : Refuses office e where
  release lockId := by rw [op, Locking.release, refused]; rfl
  find lockId := by rw [op, Locking.find, refused]; rfl
  pendingRevocation lockId := by rw [op, Locking.pendingRevocation, Locking.find, refused]; rfl

lemma admits_or_refuses (normal : Field.office.IsNormal office) :
    (Field.office.outgrown? office).elim (Admits office) (Refuses office) := by
  have again := normal.normalize
  cases grown : Field.office.outgrown? office with
  | none =>
    rw [grown] at again
    exact admits again
  | some e =>
    rw [grown] at again
    exact refuses again

end Operation

namespace Sessions

variable {ι : Type} [DecidableEq ι] {calls : ι → Operation} {h : List (Turn ι)} {n : Nat}
  {key : LockKey} {row : Lock}

def NormalKeys (calls : ι → Operation) : Prop :=
  ∀ i config r caller lockId, calls i = .request config r caller lockId → r.key.Normal

variable [Regex.Engine]

lemma normal_of_held (normal : NormalKeys calls)
    (held : Store.empty.lockAt ((start calls).journal h) n key = some row) : key.Normal := by
  obtain ⟨m, i, -, inserts, -⟩ := exists_inserts held
  obtain ⟨config, r, caller, own, rfl⟩ := inserts_request inserts
  exact normal i config r caller row.lockId own

/-- A stored key that is given back is the same key, unless an office or an application has outgrown
its limit. -/
theorem readmission (calls : ι → Operation) (normal : NormalKeys calls) (h : List (Turn ι)) :
    (∀ k : LockKey, k.Normal → k.Returns) ∧
      ∀ n key row, Store.empty.lockAt ((start calls).journal h) n key = some row →
        key.Returns ∧ row.isFor key = true ∧
          (Field.office.outgrown? row.office).elim (Operation.Admits row.office)
            (Operation.Refuses row.office) := by
  refine ⟨fun k => LockKey.Normal.returns, fun n key row held => ?_⟩
  have returns := (normal_of_held normal held).returns
  have isFor := keyed_instant n key row held
  have office : row.office = key.office := by
    simp only [Lock.isFor, Bool.and_eq_true, beq_iff_eq] at isFor
    exact isFor.1.1
  exact ⟨returns, isFor, office ▸ Operation.admits_or_refuses returns.office⟩

end Sessions

namespace Sessions

attribute [local instance] Regex.runner

def sharpKey : LockKey := ⟨"SSSSSSSSSSSSSSSSSS", "fence", "editor"⟩

theorem readmission_refused : ¬ ∀ (office project application : String) (k : LockKey),
    LockKey.ofRaw office project application = .ok k →
      LockKey.ofRaw k.office k.project k.application = .ok k := by
  intro again
  have accepted := again "ßßßßßßßßß" "fence" "Editor" sharpKey rfl
  cases accepted

def sharp : Fin 2 → Operation
  | 0 => .request ⟨250, 10⟩ { key := sharpKey } none "a"
  | 1 => .request ⟨250, 10⟩ { key := relayKey } none "b"

def sharpTurns : List (Turn (Fin 2)) :=
  ([0, 1] : List (Fin 2)).map fun i => { session := i, now := .ofNanos 0 }

lemma normalKeys_sharp : NormalKeys sharp := by
  intro i config r caller lockId own
  match i with
  | 0 =>
    cases own
    exact ⟨"ßßßßßßßßß", "fence", "Editor", rfl⟩
  | 1 =>
    cases own
    exact ⟨" osl ", "fence", "Editor", rfl⟩

theorem readmission_sharp :
    (∀ lockId, (Operation.release "SSSSSSSSSSSSSSSSSS" lockId).op =
      .fail (.argument (.tooLong "office_id" 16 18))) ∧
    (∀ caller, Locking.revoke sharpKey caller =
      .fail (.argument (.tooLong "office_id" 16 18))) ∧
    Operation.Admits "OSL" := by
  obtain ⟨-, stored⟩ := readmission sharp normalKeys_sharp sharpTurns
  obtain ⟨returns, -, refuses⟩ := stored 2 sharpKey _ rfl
  obtain ⟨-, -, admits⟩ := stored 2 relayKey _ rfl
  exact ⟨refuses.release, fun caller => returns.revoke caller _ rfl, admits⟩

end Sessions

end LockRegistry
