import LockRegistry.Authority
import LockRegistry.Proofs.Checks
import LockRegistry.Proofs.Op.Polls

namespace LockRegistry.Authority

structure Question where
  office : String
  project : String
  application : String
  caller : Option String

variable [Regex.Engine]

namespace Question

def ofRaw (office : String) (user : Option String) (project application : String) :
    Except ArgumentError Question := do
  return {
    office := ← Field.office.normalize office
    project := ← Field.project.normalize project
    application := ← Field.application.normalize application
    caller := ← caller? user }

def verdict (q : Question) (grants : List Grant) : Except ArgumentError (Option Grant) :=
  firstCovering q.office q.project q.application grants

def ask (q : Question) : Op Bool :=
  match q.caller with
  | none => do
    .emit (event .debug "Anonymous caller has no revoker rights" [("office_id", .shown q.office)])
    return false
  | some user => do
    let grants : List Grant ← .ask (.grantsOf user)
    match ← .check (q.verdict grants) with
    | none => return false
    | some grant =>
      .emit (event .debug "Revoker right matched"
        [("office_id", .shown q.office), ("user_id", .shown user), ("grant_id", .int grant.id)])
      return true

end Question

variable {office project application : String} {user : Option String} {l : List Exchange}

lemma mayRevoke_eq (office : String) (user : Option String) (project application : String) :
    mayRevoke office user project application =
      .check (Question.ofRaw office user project application) >>= Question.ask := by
  unfold mayRevoke Question.ofRaw
  cases Field.office.normalize office with
  | error e => rfl
  | ok o =>
    cases Field.project.normalize project with
    | error e => rfl
    | ok p =>
      cases Field.application.normalize application with
      | error e => rfl
      | ok a =>
        cases caller? user with
        | error e => rfl
        | ok caller => cases caller <;> rfl

inductive Asks (office : String) (user : Option String) (project application : String) :
    List Exchange → Except LockError Bool → Prop
  | refused {e : ArgumentError} (h : Question.ofRaw office user project application = .error e) :
      Asks office user project application [] (.error (.argument e))
  | nobody {q : Question} (h : Question.ofRaw office user project application = .ok q)
      (anonymous : q.caller = none) : Asks office user project application [] (.ok false)
  | answered {q : Question} (h : Question.ofRaw office user project application = .ok q)
      {caller : String} (named : q.caller = some caller) {grants : List Grant}
      {found : Option Grant} (verdict : q.verdict grants = .ok found) :
      Asks office user project application [⟨.grantsOf caller, grants⟩] (.ok found.isSome)
  | unreadable {q : Question} (h : Question.ofRaw office user project application = .ok q)
      {caller : String} (named : q.caller = some caller) {grants : List Grant} {e : ArgumentError}
      (verdict : q.verdict grants = .error e) :
      Asks office user project application [⟨.grantsOf caller, grants⟩] (.error (.argument e))

lemma asks_of_makes {r : Except LockError Bool}
    (h : (mayRevoke office user project application).Makes l r) :
    Asks office user project application l r := by
  rw [mayRevoke_eq] at h
  rcases Op.makes_check_bind.1 h with ⟨q, hq, h⟩ | ⟨e, hq, rfl, rfl⟩
  · unfold Question.ask at h
    split at h
    · rename_i anonymous
      rw [Op.makes_emit_bind, Op.makes_pure] at h
      obtain ⟨rfl, rfl⟩ := h
      exact .nobody hq anonymous
    · rename_i caller named
      obtain ⟨grants, l, rfl, hl⟩ := Op.makes_ask_bind.1 h
      rcases Op.makes_check_bind.1 hl with ⟨found, hv, h⟩ | ⟨e, hv, rfl, rfl⟩
      · cases found with
        | none =>
          obtain ⟨rfl, rfl⟩ := Op.makes_pure.1 h
          exact .answered hq named hv
        | some grant =>
          rw [Op.makes_emit_bind, Op.makes_pure] at h
          obtain ⟨rfl, rfl⟩ := h
          exact .answered hq named hv
      · exact .unreadable hq named hv
  · exact .refused hq

def newGrant (office officeMask projectMask applicationMask user : String) :
    Except ArgumentError NewGrant := do
  NewGrant.ofRaw (← GrantKey.ofRaw office user projectMask applicationMask) officeMask

inductive Allows (office officeMask projectMask applicationMask user : String) :
    List Exchange → Except LockError Grant → Prop
  | refused {e : ArgumentError}
      (h : newGrant office officeMask projectMask applicationMask user = .error e) :
      Allows office officeMask projectMask applicationMask user [] (.error (.argument e))
  | made {new : NewGrant}
      (h : newGrant office officeMask projectMask applicationMask user = .ok new) (grant : Grant) :
      Allows office officeMask projectMask applicationMask user [⟨.upsertGrant new, grant⟩]
        (.ok grant)

inductive Disallows (office user projectMask applicationMask : String) :
    List Exchange → Except LockError Unit → Prop
  | refused {e : ArgumentError}
      (h : GrantKey.ofRaw office user projectMask applicationMask = .error e) :
      Disallows office user projectMask applicationMask [] (.error (.argument e))
  | removed {key : GrantKey} (h : GrantKey.ofRaw office user projectMask applicationMask = .ok key)
      (found : Bool) :
      Disallows office user projectMask applicationMask [⟨.deleteGrant key, found⟩] (.ok ())

inductive Clears (office : String) (officeMask applicationMask : Option String) (user : String) :
    List Exchange → Except LockError Nat → Prop
  | refused {e : ArgumentError} :
      Clears office officeMask applicationMask user [] (.error (.argument e))
  | cleared {o u : String} {om am : Mask} (ho : Field.office.normalize office = .ok o)
      (hu : Field.user.normalize user = .ok u) (hom : Mask.ofOption officeMask = .ok om)
      (ham : Mask.ofOption applicationMask = .ok am) (count : Nat) :
      Clears office officeMask applicationMask user [⟨.deleteGrants o om am u, count⟩] (.ok count)

variable {officeMask projectMask applicationMask name : String}

lemma allow_makes {r : Except LockError Grant}
    (h : (allow office officeMask projectMask applicationMask name).Makes l r) :
    Allows office officeMask projectMask applicationMask name l r := by
  rcases Op.makes_check_bind.1 h with ⟨key, hk, hl⟩ | ⟨e, hk, rfl, rfl⟩
  · rcases Op.makes_check_bind.1 hl with ⟨new, hn, hm⟩ | ⟨e, hn, rfl, rfl⟩
    · obtain ⟨grant, l, rfl, he⟩ := Op.makes_ask_bind.1 hm
      rw [Op.makes_emit_bind, Op.makes_pure] at he
      obtain ⟨rfl, rfl⟩ := he
      exact .made (by rw [newGrant, hk, ok_bind, hn]) grant
    · exact .refused (by rw [newGrant, hk, ok_bind, hn])
  · exact .refused (by rw [newGrant, hk, error_bind])

lemma disallow_makes {r : Except LockError Unit}
    (h : (disallow office name projectMask applicationMask).Makes l r) :
    Disallows office name projectMask applicationMask l r := by
  rcases Op.makes_check_bind.1 h with ⟨key, hk, hl⟩ | ⟨e, hk, rfl, rfl⟩
  · obtain ⟨found, l, rfl, hm⟩ := Op.makes_ask_bind.1 hl
    have ends : l = [] ∧ r = .ok () := by
      split at hm <;> exact Op.makes_emit.1 hm
    obtain ⟨rfl, rfl⟩ := ends
    exact .removed hk found
  · exact .refused hk

lemma removeAll_makes {om am : Option String} {r : Except LockError Nat}
    (h : (removeAll office om am name).Makes l r) : Clears office om am name l r := by
  rcases Op.makes_check_bind.1 h with ⟨o, ho, h₁⟩ | ⟨e, -, rfl, rfl⟩
  · rcases Op.makes_check_bind.1 h₁ with ⟨u, hu, h₂⟩ | ⟨e, -, rfl, rfl⟩
    · rcases Op.makes_check_bind.1 h₂ with ⟨m, hm, h₃⟩ | ⟨e, -, rfl, rfl⟩
      · rcases Op.makes_check_bind.1 h₃ with ⟨m', hm', h₄⟩ | ⟨e, -, rfl, rfl⟩
        · obtain ⟨count, l, rfl, he⟩ := Op.makes_ask_bind.1 h₄
          rw [Op.makes_emit_bind, Op.makes_pure] at he
          obtain ⟨rfl, rfl⟩ := he
          exact .cleared ho hu hm hm' count
        · exact .refused
      · exact .refused
    · exact .refused
  · exact .refused

end LockRegistry.Authority
